import AuthMiniGateway.AuthDecision
import AuthMiniGateway.Client
import AuthMiniGateway.Lib.Pool

/-!
# A flight among everything else

Around the flight any calls on the store by others, between any two of its requests. A store call of the flight
answers as the store does, or fails and has changed nothing.
-/

namespace AuthMiniGateway

/-- A call on the store at readings of a clock that does not go back, with a token not drawn before. -/
structure StoreState.Timely (s : StoreState) (r : Readings) (op : StoreOp) : Prop where
  clock_le : s.clock ≤ r.pruneNow
  pruneNow_le : r.pruneNow ≤ r.now
  fresh : op.creates = true → r.token ∉ s.issued

/-- The store executes the call, or refuses it with an error. -/
def StoreAnswers (json : AmrJson) (op : StoreOp) (s : StoreState) (reply : Res op.Value)
    (s' : StoreState) : Prop :=
  (∃ r, s.Timely r op ∧ reply = (op.exec json r s.db).1 ∧ s' = s.step json r op) ∨
    ∃ error, reply = .err error ∧ s' = s

def StoreState.ClockTo (s : StoreState) (now : Int) (s' : StoreState) : Prop :=
  s.clock ≤ now ∧ s' = { s with clock := now }

structure FlightJob where
  session : GatewaySession
  config : Config
  flight : Nat

def flightAct (json : AmrJson) (client : AuthMiniClient) :
    (op : ServerOp) → StoreState → op.Reply → StoreState → Prop
  | .store op, s, reply, s' =>
    StoreAnswers json op s reply s' ∧ ∀ error, reply = .err error → s'.db = s.db
  | .now, s, now, s' => s.ClockTo now s'
  | .auth op, s, answer, s' => client.Answers op answer ∧ s' = s
  | _, s, _, s' => s' = s

def flightMachine (json : AmrJson) (client : AuthMiniClient) :
    Machine serverInterface Unit StoreState FlightJob (Option FlightOutcome) where
  body := ServerProc.body
  start job := executeFlight job.session job.config job.flight
  act _ := flightAct json client
  env s s' := (∃ op reply, StoreAnswers json op s reply s') ∨ ∃ now, s.ClockTo now s'

end AuthMiniGateway
