import AuthMiniGateway.Session

/-!
# Configuration

The fields of `Config` that the modelled functions read. The lifetimes are `i64` in the source.
-/

namespace AuthMiniGateway

structure ConfigError where
  className : String
  message : String
  deriving DecidableEq, Repr

inductive UpstreamProtocol where
  | auto
  | http1
  | http2
  deriving DecidableEq, Repr

structure UpstreamBase where
  scheme : String
  deriving DecidableEq, Repr

inductive SameSite where
  | lax
  | strict
  | none
  deriving DecidableEq, Repr

structure Config where
  publicBaseUrl : String
  authMiniAudience : String
  authMiniIssuer : String
  cookieSecret : String
  cookieSecure : Bool
  cookieSameSite : SameSite
  sessionTtlSeconds : Int
  sessionAbsoluteTtlSeconds : Int
  sessionTouchIntervalSeconds : Int
  loginStateTtlSeconds : Int
  refreshSkewSeconds : Int
  allowUserIds : List String
  logoutRedirect : String
  upstream : Option UpstreamBase
  upstreamProtocol : UpstreamProtocol
  maxDownstreamConnections : Nat
  maxActiveUpstreams : Nat
  maxBlockingResolvers : Nat
  deriving DecidableEq, Repr

def proxyDownstreamHeadroom : Nat := 16
def maxBlockingResolversLimit : Nat := 32
def usizeMax : Nat := 2 ^ 64 - 1

-- `tokio::sync::Semaphore::MAX_PERMITS`
def maxPermits : Nat := usizeMax / 8

def i64Max : Int := 2 ^ 63 - 1
def i64Min : Int := -2 ^ 63

def readI64Digits : List Char → Option Nat
  | [] => none
  | text => text.foldlM (fun acc c => (Decimal.digitValue c).map (10 * acc + ·)) 0

/-- `value.parse::<i64>()`. -/
def readI64 (value : String) : Option Int :=
  let magnitude := match value.toList with
    | '-' :: text => (readI64Digits text).map fun n => -(n : Int)
    | '+' :: text => (readI64Digits text).map fun n => (n : Int)
    | text => (readI64Digits text).map fun n => (n : Int)
  magnitude.filter fun n => i64Min ≤ n ∧ n ≤ i64Max

def parseI64 (value : Option String) (default : Int) : Except ConfigError Int := do
  let value ← match value.filter (· ≠ "") with
    | none => .ok default
    | some value =>
      match readI64 value with
      | some value => .ok value
      | none => .error ⟨"session_lifetime_invalid", "session lifecycle value is invalid"⟩
  if value ≤ 0 then
    .error ⟨"session_lifetime_invalid", "session lifecycle value must be positive"⟩
  else .ok value

def validateSessionLifetimes (touch idle absolute : Int) : Except ConfigError Unit :=
  if touch ≤ 0 ∨ idle ≤ 0 ∨ absolute ≤ 0 then
    .error ⟨"session_lifetime_invalid", "session lifecycle values must be positive and ordered"⟩
  else if touch > idle ∨ idle > absolute then
    .error ⟨"session_lifetime_invalid", "session lifecycle values must be positive and ordered"⟩
  else .ok ()

def validateCapacity (value : Nat) (className : String) : Except ConfigError Unit :=
  if value = 0 ∨ value > maxPermits then
    .error ⟨className, "configured capacity is out of range"⟩
  else .ok ()

def validateUpstreamProtocol (upstream : Option UpstreamBase) (protocol : UpstreamProtocol) :
    Except ConfigError Unit :=
  if (upstream.any fun upstream => decide (upstream.scheme = "http")) ∧ protocol = .auto then
    .error ⟨"upstream_protocol_cleartext_auto",
      "cleartext proxy mode requires UPSTREAM_PROTOCOL=http1 or http2"⟩
  else .ok ()

def validateHeadroom (config : Config) : Except ConfigError Unit :=
  if config.upstream.isSome then
    if config.maxActiveUpstreams + proxyDownstreamHeadroom > usizeMax then
      .error ⟨"proxy_capacity_headroom_invalid", "proxy mode requires downstream capacity headroom"⟩
    else if config.maxDownstreamConnections < config.maxActiveUpstreams + proxyDownstreamHeadroom then
      .error ⟨"proxy_capacity_headroom_invalid",
        "proxy mode requires at least 16 downstream slots beyond active upstreams"⟩
    else .ok ()
  else .ok ()

def Config.validate (config : Config) : Except ConfigError Unit := do
  validateSessionLifetimes config.sessionTouchIntervalSeconds config.sessionTtlSeconds
    config.sessionAbsoluteTtlSeconds
  validateCapacity config.maxDownstreamConnections "downstream_connection_limit_invalid"
  validateCapacity config.maxActiveUpstreams "active_upstream_limit_invalid"
  if ¬(1 ≤ config.maxBlockingResolvers ∧ config.maxBlockingResolvers ≤ maxBlockingResolversLimit) then
    .error ⟨"blocking_resolver_limit_invalid",
      "GATEWAY_MAX_BLOCKING_RESOLVERS must be an integer from 1 through 32"⟩
  else
    validateUpstreamProtocol config.upstream config.upstreamProtocol
    validateHeadroom config

-- `none` is a panic of the arithmetic
def sessionNeedsRefresh (session : GatewaySession) (config : Config) (now : Int) : Option Bool :=
  (addSeconds now config.refreshSkewSeconds).map fun limit =>
    decide (session.accessExpiresAt ≤ limit)

def unixToTime (exp : Int) : Option Int := timestampOpt exp

end AuthMiniGateway
