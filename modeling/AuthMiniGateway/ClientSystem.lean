import AuthMiniGateway.System

/-!
# The gateway with its client

What the network brings, the key set and the readings of every clock are arbitrary; the tokens that the client
has verified are recorded. After a restart the store stays and the flights are gone.
-/

namespace AuthMiniGateway

structure Verification where
  token : String
  jwks : Jwks
  nowUnix : Int
  claims : VerifiedAccessToken
  deriving DecidableEq, Repr

structure ClientWorld extends SystemWorld where
  verifications : List Verification

def ClientWorld.initial (clock : Int) : ClientWorld :=
  { store := .initial clock, flights := Coordinator.empty, verifications := [] }

/-- The store executes the call at some readings, or the call fails, executed or not. -/
def StoreReplies (json : AmrJson) (op : StoreOp) (s : StoreState) (reply : Res op.Value)
    (s' : StoreState) : Prop :=
  (∃ r, (op.creates = true → r.token ∉ s.issued) ∧
      (reply = (op.exec json r s.db).1 ∨ ∃ error, reply = .err error) ∧ s' = s.step json r op) ∨
    ∃ error, reply = .err error ∧ s' = s

def Verification.ofInitial (token : String) (nowUnix : Int) :
    Except RefreshError Jwks → Except InitialAccessError VerifiedAccessToken → List Verification
  | .ok jwks, .ok claims => [⟨token, jwks, nowUnix, claims⟩]
  | _, _ => []

def Verification.ofRefreshed (token : String) (jwks : Jwks) (nowUnix : Int) :
    Except RefreshError VerifiedAccessToken → List Verification
  | .ok claims => [⟨token, jwks, nowUnix, claims⟩]
  | .error _ => []

/-- The answers of the client, and what it has verified for them. -/
def AuthMiniClient.Replies (client : AuthMiniClient) :
    (op : AuthOp) → op.Answer → List Verification → Prop
  | .verifyInitialAccess token, answer, verified => ∃ cache now fetched nowUnix,
      answer = client.verifyInitialAccess token (client.jwks cache now fetched) nowUnix ∧
        verified = Verification.ofInitial token nowUnix (client.jwks cache now fetched) answer
  | .verifyRefreshedAccess token jwks, answer, verified => ∃ nowUnix,
      answer = client.verifyRefreshedAccess token jwks nowUnix ∧
        verified = Verification.ofRefreshed token jwks nowUnix answer
  | op, answer, verified => client.Answers op answer ∧ verified = []

def clientAct (json : AmrJson) (client : AuthMiniClient) :
    (op : ServerOp) → ClientWorld → op.Reply → ClientWorld → Prop
  | .store op, w, reply, w' =>
    StoreReplies json op w.store reply w'.store ∧ w'.flights = w.flights ∧
      w'.verifications = w.verifications
  | .now, w, _, w' => w' = w
  | .auth op, w, answer, w' => ∃ verified, client.Replies op answer verified ∧
      w' = { w with verifications := verified ++ w.verifications }
  | .acquire sessionId observed, w, reply, w' =>
    (reply, w'.flights) = w.flights.acquire sessionId observed ∧ w'.store = w.store ∧
      w'.verifications = w.verifications
  | .waitOutcome flight, w, outcome, w' => w.flights.outcome flight = some outcome ∧ w' = w
  | .addAlias flight observed, w, _, w' =>
    w'.flights = w.flights.addAlias flight observed ∧ w'.store = w.store ∧
      w'.verifications = w.verifications
  | .complete sessionId flight outcome, w, reply, w' =>
    (reply, w'.flights) = w.flights.complete sessionId flight outcome ∧ w'.store = w.store ∧
      w'.verifications = w.verifications

def clientMachine (json : AmrJson) (client : AuthMiniClient) (platform : Platform) (config : Config) :
    Machine serverInterface Nat ClientWorld SystemJob SystemAnswer where
  body := ServerProc.body
  start := SystemJob.start platform config
  act _ := clientAct json client
  -- a restart of the process
  env w w' := w' = { w with flights := Coordinator.empty }

end AuthMiniGateway
