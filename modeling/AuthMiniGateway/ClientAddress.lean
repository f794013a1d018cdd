import AuthMiniGateway.Sanitize

namespace AuthMiniGateway

/-- What the standard library and `ipnet` say of addresses and networks. -/
structure AddressPlatform (IpAddr IpNet : Type) where
  parseIp : String → Option IpAddr
  netContains : IpNet → IpAddr → Bool
  display : IpAddr → ClientIp

structure TrustedProxySet (IpNet : Type) where
  networks : List IpNet
  deriving DecidableEq, Repr

variable {IpAddr IpNet : Type} (platform : AddressPlatform IpAddr IpNet)

def TrustedProxySet.contains (proxies : TrustedProxySet IpNet) (address : IpAddr) : Bool :=
  proxies.networks.any fun network => platform.netContains network address

def isAsciiWhitespace (byte : UInt8) : Bool := byte ∈ [0x20, 0x09, 0x0a, 0x0c, 0x0d]

def deriveClientIp (directPeer : IpAddr) (headers : HeaderMap) (trustedProxies : TrustedProxySet IpNet) :
    Except ProxyError IpAddr :=
  if !trustedProxies.contains platform directPeer then .ok directPeer
  else
    match headers.getAll .xForwardedFor with
    | [] => .ok directPeer
    | [value] =>
      match value.toStr with
      | none => .error .badRequest
      | some text =>
        if text = "" ∨ ',' ∈ text.toList ∨ text.toUTF8.data.toList.any isAsciiWhitespace then
          .error .badRequest
        else
          match platform.parseIp text with
          | some address => .ok address
          | none => .error .badRequest
    | _ => .error .badRequest

end AuthMiniGateway
