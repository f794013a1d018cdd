import AuthMiniGateway.ClientAddress
import AuthMiniGateway.Proof.HandshakeRequests

namespace AuthMiniGateway

variable {IpAddr IpNet : Type} {platform : AddressPlatform IpAddr IpNet} {peer address : IpAddr}
  {headers headers' sent : HeaderMap} {proxies : TrustedProxySet IpNet}

/-- An address other than the peer's comes from the one value that a trusted peer sent. -/
theorem deriveClientIp_ok (h : deriveClientIp platform peer headers proxies = .ok address) :
    address = peer ∨ proxies.contains platform peer = true ∧ ∃ value text,
      headers.getAll .xForwardedFor = [value] ∧ value.toStr = some text ∧ ',' ∉ text.toList
        ∧ platform.parseIp text = some address := by
  rw [deriveClientIp] at h
  split_ifs at h with htrusted
  · exact .inl (Except.ok.inj h).symm
  · split at h
    · exact .inl (Except.ok.inj h).symm
    · rename_i value hvalue
      split at h
      · cases h
      · rename_i text htext
        split_ifs at h with hrefused
        split at h
        · rename_i parsed hparsed
          cases h
          refine .inr ⟨by simpa using htrusted, value, text, hvalue, htext, ?_, hparsed⟩
          exact fun hcomma => hrefused (.inr (.inl hcomma))
        · cases h
    · cases h

theorem deriveClientIp_of_untrusted (huntrusted : proxies.contains platform peer = false) :
    deriveClientIp platform peer headers proxies = .ok peer := by
  rw [deriveClientIp, huntrusted]
  rfl

section

variable {authority : HeaderValue} {clientIp : ClientIp} {publicProto : String} {identity : ProxyIdentity}
  {websocket : Bool} {protocol : ActualProtocol}

theorem alwaysRemoved_forwardedFor : alwaysRemoved .xForwardedFor = true := by decide

theorem getAll_sanitized_forwardedFor
    (h : sanitizeRequestHeaders headers authority clientIp publicProto identity websocket protocol =
      .ok sent) : sent.getAll .xForwardedFor = [clientIp.value] := by
  obtain ⟨proto, userId, hsame⟩ := sanitizeRequestHeaders_ok h
  rw [hsame, Multimap.getAll_append, getAll_retained, removed, alwaysRemoved_forwardedFor, Bool.or_true,
    Bool.true_or, if_pos rfl]
  cases protocol <;> cases websocket <;> rfl

/-- What the client says in `X-Forwarded-For` does not reach the upstream. -/
theorem sanitizeRequestHeaders_forwardedFor
    (hother : ∀ name, name ≠ .xForwardedFor → headers'.getAll name = headers.getAll name)
    (h : sanitizeRequestHeaders headers authority clientIp publicProto identity websocket protocol =
      .ok sent) :
    ∃ sent', sanitizeRequestHeaders headers' authority clientIp publicProto identity websocket protocol =
      .ok sent' ∧ sent'.Same sent := by
  have hconnection : headers'.getAll .connection = headers.getAll .connection := hother _ (by decide)
  have hsteps := h
  simp only [sanitizeRequestHeaders, Fallible.bind_eq_ok_iff] at hsteps
  obtain ⟨nominated, hnominated, client, -, proto, hproto, userId, huser, -⟩ := hsteps
  have hnominated' : parseConnectionTokens headers' = .ok nominated := by
    rw [← hnominated, parseConnectionTokens, parseConnectionTokens, hconnection]
  obtain ⟨kept, hkept, hsame⟩ := sanitizeRequestHeaders_same hnominated hproto huser
  obtain ⟨sent', hsent', hsame'⟩ := sanitizeRequestHeaders_same hnominated' hproto huser
  rw [h] at hkept
  cases hkept
  refine ⟨sent', hsent', fun name => ?_⟩
  rw [hsame' name, hsame name, Multimap.getAll_append, Multimap.getAll_append, getAll_retained,
    getAll_retained, removed, removed, namedInConnection, hconnection, ← namedInConnection]
  by_cases hname : name = .xForwardedFor
  · rw [hname, alwaysRemoved_forwardedFor, Bool.or_true, Bool.true_or, if_pos rfl, if_pos rfl]
  · rw [hother name hname]

/-- **Client address.** The upstream is given one address of the client, as its one `X-Forwarded-For`. It is
the address of the peer, unless the peer is in a trusted network and has sent one address itself. For a peer in
no such network, requests that differ in `X-Forwarded-For` only are sent on alike. -/
theorem client_address_attributed (haddress : deriveClientIp platform peer headers proxies = .ok address)
    (hsent : sanitizeRequestHeaders headers authority (platform.display address) publicProto identity
      websocket protocol = .ok sent) :
    sent.getAll .xForwardedFor = [(platform.display address).value]
      ∧ (address ≠ peer → proxies.contains platform peer = true ∧ ∃ value text,
          headers.getAll .xForwardedFor = [value] ∧ value.toStr = some text ∧ ',' ∉ text.toList
            ∧ platform.parseIp text = some address)
      ∧ (proxies.contains platform peer = false → ∀ headers',
          (∀ name, name ≠ .xForwardedFor → headers'.getAll name = headers.getAll name) →
          deriveClientIp platform peer headers' proxies = .ok address
            ∧ ∃ sent', sanitizeRequestHeaders headers' authority (platform.display address) publicProto
                identity websocket protocol = .ok sent'
              ∧ sent'.Same sent) := by
  refine ⟨getAll_sanitized_forwardedFor hsent, (deriveClientIp_ok haddress).resolve_left, ?_⟩
  intro huntrusted headers' hother
  have hpeer : address = peer := by
    rw [deriveClientIp_of_untrusted huntrusted] at haddress
    exact (Except.ok.inj haddress).symm
  rw [hpeer] at hsent ⊢
  exact ⟨deriveClientIp_of_untrusted huntrusted, sanitizeRequestHeaders_forwardedFor hother hsent⟩

end

/-- A proxy at 10.1.2.3 in front of a client at 203.0.113.9. -/
def proxyPlatform : AddressPlatform Bool Unit where
  parseIp text := if text = "203.0.113.9" then some false else none
  netContains _ address := address
  display address := if address then ⟨"10.1.2.3", by decide⟩ else ⟨"203.0.113.9", by decide⟩

def proxiedHeaders : HeaderMap := [(.xForwardedFor, sampleText "203.0.113.9" (by decide))]

theorem client_address_attributed_proxied :
    ∃ sent, sanitizeRequestHeaders proxiedHeaders (sampleText "gateway" (by decide))
        (proxyPlatform.display false) "https" ⟨"alice"⟩ false .http1 = .ok sent
      ∧ sent.getAll .xForwardedFor = [(proxyPlatform.display false).value] := by
  have haddress : deriveClientIp proxyPlatform true proxiedHeaders ⟨[()]⟩ = .ok false := by decide
  obtain ⟨sent, hsent⟩ : ∃ sent, sanitizeRequestHeaders proxiedHeaders (sampleText "gateway" (by decide))
      (proxyPlatform.display false) "https" ⟨"alice"⟩ false .http1 = .ok sent := ⟨_, rfl⟩
  exact ⟨sent, hsent, (client_address_attributed haddress hsent).1⟩

end AuthMiniGateway
