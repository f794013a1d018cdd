import AuthMiniGateway.FlightMachine
import AuthMiniGateway.Handlers
import AuthMiniGateway.Proof.Lifetimes
import AuthMiniGateway.Proof.TextGuards

namespace AuthMiniGateway

open Store

variable {json : AmrJson} {config : Config} {horizon now : Int} {s s' : StoreState} {db : Db}
  {row : SessionRow} {session : GatewaySession} {idle absolute : Int}

/-! ### A touch -/

section

variable (hc : row.Consistent json idle absolute) (hreads : row.Reads json session)
  (hrow : db.sessions session.id = some row) (hready : session.identityState = .ready)
  (hactive : isActive session now = true) (hnow : InTextRange now)
include hc hreads hrow hready hactive hnow

end

/-! ### A decision -/

end AuthMiniGateway
