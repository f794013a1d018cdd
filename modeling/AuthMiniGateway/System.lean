import AuthMiniGateway.FlightMachine
import AuthMiniGateway.Handlers

/-!
# The gateway as a whole

Any number of requests at a time, whose calls interleave in any order. A store call is atomic. It answers as the
store does, or with an error, and then it may or may not have been executed. Auth-mini may answer anything. The
clock does not go back.
-/

namespace AuthMiniGateway

inductive SystemJob where
  | decide (cookieHeader : Option String)
  | request (request : Request)
  | proxyAuth (cookie : Option String) (returnTo : String)
  | prune
  deriving DecidableEq, Repr

inductive SystemAnswer where
  | decided (decision : Option AuthDecision)
  | handled (handled : Handled)
  | proxied (result : Option ProxyAuthResult)
  | pruned (result : Res Unit)

structure SystemWorld where
  store : StoreState
  flights : Coordinator

def StoreServes (json : AmrJson) (op : StoreOp) (s : StoreState) (reply : Res op.Value)
    (s' : StoreState) : Prop :=
  (∃ r, s.Timely r op ∧ (reply = (op.exec json r s.db).1 ∨ ∃ error, reply = .err error) ∧
      s' = s.step json r op) ∨
    ∃ error, reply = .err error ∧ s' = s

def systemAct (json : AmrJson) : (op : ServerOp) → SystemWorld → op.Reply → SystemWorld → Prop
  | .store op, w, reply, w' =>
    StoreServes json op w.store reply w'.store ∧ w'.flights = w.flights
  | .now, w, now, w' => w.store.ClockTo now w'.store ∧ w'.flights = w.flights
  | .auth _, w, _, w' => w' = w
  | .acquire sessionId observed, w, reply, w' =>
    (reply, w'.flights) = w.flights.acquire sessionId observed ∧ w'.store = w.store
  -- a waiter is blocked until there is an outcome
  | .waitOutcome flight, w, outcome, w' => w.flights.outcome flight = some outcome ∧ w' = w
  | .addAlias flight observed, w, _, w' =>
    w'.flights = w.flights.addAlias flight observed ∧ w'.store = w.store
  | .complete sessionId flight outcome, w, reply, w' =>
    (reply, w'.flights) = w.flights.complete sessionId flight outcome ∧ w'.store = w.store

def SystemJob.start (platform : Platform) (config : Config) : SystemJob → Server SystemAnswer
  | decide cookieHeader => do
      let decision ← authDecision platform.mac config cookieHeader
      return .decided decision
  | .request incoming => do
      let handled ← handleRequest platform config incoming
      return .handled handled
  | proxyAuth cookie returnTo => do
      let result ← executeProxyAuth platform config cookie returnTo
      return .proxied result
  | prune => do
      let result ← Server.prune
      return .pruned result

def systemMachine (json : AmrJson) (platform : Platform) (config : Config) :
    Machine serverInterface Nat SystemWorld SystemJob SystemAnswer where
  body := ServerProc.body
  start := SystemJob.start platform config
  act _ := systemAct json
  env w w' := ∃ now, w.store.ClockTo now w'.store ∧ w'.flights = w.flights

end AuthMiniGateway
