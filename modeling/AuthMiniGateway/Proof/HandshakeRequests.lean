import AuthMiniGateway.Proof.HandshakeOffers

namespace AuthMiniGateway

section

variable {headers sent : HeaderMap} {authority : HeaderValue} {clientIp : ClientIp} {publicProto : String}
  {identity : ProxyIdentity} {websocket : Bool} {protocol : ActualProtocol}

theorem sanitizeRequestHeaders_ok
    (h : sanitizeRequestHeaders headers authority clientIp publicProto identity websocket protocol =
      .ok sent) :
    ∃ proto userId, sent.Same (retained headers websocket protocol
      ++ generated authority clientIp.value proto userId websocket protocol) := by
  have hsteps := h
  simp only [sanitizeRequestHeaders, Fallible.bind_eq_ok_iff] at hsteps
  obtain ⟨nominated, hnominated, client, -, proto, hproto, userId, huser, -⟩ := hsteps
  obtain ⟨sent', hsent', hsame⟩ := sanitizeRequestHeaders_same hnominated hproto huser
  rw [h] at hsent'
  cases hsent'
  exact ⟨proto, userId, hsame⟩

variable {name : HeaderName}

theorem getAll_sanitized
    (h : sanitizeRequestHeaders headers authority clientIp publicProto identity websocket protocol =
      .ok sent) (hgenerated : name ∉ generatedNames websocket protocol) :
    sent.getAll name = if removed headers websocket protocol name then [] else headers.getAll name := by
  obtain ⟨proto, userId, hsame⟩ := sanitizeRequestHeaders_ok h
  have hnone : Multimap.getAll (generated authority clientIp.value proto userId websocket protocol) name =
      [] := by
    apply Multimap.getAll_eq_nil_of_not_mem
    rw [generated_names]
    exact hgenerated
  rw [hsame name, Multimap.getAll_append, hnone, List.append_nil, getAll_retained]

theorem getAll_sanitized_upgrade
    (h : sanitizeRequestHeaders headers authority clientIp publicProto identity true .http1 = .ok sent) :
    sent.getAll .connection = [upgradeValue] ∧ sent.getAll .upgrade = [websocketValue] := by
  obtain ⟨proto, userId, hsame⟩ := sanitizeRequestHeaders_ok h
  have hremoved : ∀ name ∈ [HeaderName.connection, .upgrade], removed headers true .http1 name = true := by
    intro name hname
    have halways : ∀ name ∈ [HeaderName.connection, .upgrade], alwaysRemoved name = true := by decide
    rw [removed, halways name hname, Bool.or_true, Bool.true_or]
  constructor
  · rw [hsame, Multimap.getAll_append, getAll_retained, if_pos (hremoved _ (by decide))]
    rfl
  · rw [hsame, Multimap.getAll_append, getAll_retained, if_pos (hremoved _ (by decide))]
    rfl

theorem getAll_sanitized_hop (hname : name ∈ [HeaderName.connection, .upgrade])
    (hplain : (websocket && protocol == .http1) = false)
    (h : sanitizeRequestHeaders headers authority clientIp publicProto identity websocket protocol =
      .ok sent) : sent.getAll name = [] := by
  have halways : ∀ name ∈ [HeaderName.connection, .upgrade], alwaysRemoved name = true := by decide
  have hgenerated : ∀ name ∈ [HeaderName.connection, .upgrade],
      name ∉ generatedNames websocket protocol := by
    revert hplain
    cases websocket <;> cases protocol <;> decide
  rw [getAll_sanitized h (hgenerated name hname), removed, halways name hname, Bool.or_true, Bool.true_or,
    if_pos rfl]

theorem getAll_sanitized_offer
    (hname : name ∈ [HeaderName.secWebsocketVersion, .secWebsocketProtocol, .secWebsocketExtensions])
    (hkept : namedInConnection headers name = true → headers.getAll name = [])
    (h : sanitizeRequestHeaders headers authority clientIp publicProto identity websocket protocol =
      .ok sent) : sent.getAll name = headers.getAll name := by
  have hfree : ∀ name ∈ [HeaderName.secWebsocketVersion, .secWebsocketProtocol, .secWebsocketExtensions],
      name ∉ generatedNames websocket protocol ∧ alwaysRemoved name = false ∧
        websocketKeys.contains name = false := by
    cases websocket <;> cases protocol <;> decide
  obtain ⟨hgenerated, halways, hkeys⟩ := hfree name hname
  rw [getAll_sanitized h hgenerated, removed, halways, hkeys, Bool.and_false, Bool.or_false,
    Bool.or_false]
  split_ifs with hnamed
  · exact (hkept hnamed).symm
  · rfl

theorem getAll_sanitized_of_nil (hgenerated : name ∉ generatedNames websocket protocol)
    (hnil : headers.getAll name = [])
    (h : sanitizeRequestHeaders headers authority clientIp publicProto identity websocket protocol =
      .ok sent) : sent.getAll name = [] := by
  rw [getAll_sanitized h hgenerated, hnil, ite_self]

theorem getAll_sanitized_key (hname : name ∈ websocketKeys)
    (h : sanitizeRequestHeaders headers authority clientIp publicProto identity true .http2 = .ok sent) :
    sent.getAll name = [] := by
  have hkeys : (true && ActualProtocol.http2 == .http2 && websocketKeys.contains name) = true := by
    simpa using hname
  rw [getAll_sanitized h (not_generated_of_websocketKeys hname), removed, hkeys, Bool.or_true, if_pos rfl]

end

/-! ### Texts and values -/

theorem HeaderValue.bytes_of_fromStr {text : String} {value : HeaderValue}
    (h : HeaderValue.fromStr text = some value) : value.bytes = text.toUTF8.data.toList := by
  rw [HeaderValue.fromStr, HeaderValue.fromBytes] at h
  split_ifs at h
  cases h
  rfl

theorem HeaderValue.bytes_of_toStr {text : String} {value : HeaderValue}
    (h : value.toStr = some text) : text.toUTF8.data.toList = value.bytes := by
  rw [HeaderValue.toStr] at h
  split_ifs at h with hvisible
  cases h
  rw [Utf8.data_toList, String.toList_ofList]
  apply Utf8.flatMap_encodeChar_of_ascii
  intro byte hbyte
  have hsmall := List.all_eq_true.mp hvisible byte hbyte
  simp only [HeaderValue.isVisible, Bool.or_eq_true, Bool.and_eq_true, decide_eq_true_eq,
    beq_iff_eq] at hsmall
  omega

/-! ### The request that is sent -/

section

variable {platform : HandshakePlatform} {context : ForwardContext} {request target : OutgoingRequest}

theorem setUpstreamTarget_eq_ok {upstream : UpstreamAddress} {path : String} {protocol : ActualProtocol}
    (h : setUpstreamTarget platform upstream path protocol request = .ok target) :
    target.headers = request.headers := by
  unfold setUpstreamTarget at h
  cases protocol with
  | http1 =>
    obtain ⟨uri, -, hresult⟩ := Fallible.bind_eq_ok_iff.mp h
    cases hresult
    rfl
  | http2 =>
    obtain ⟨uri, -, hresult⟩ := Fallible.bind_eq_ok_iff.mp h
    cases hresult
    rfl

theorem setTarget_none (h : context.setTarget platform none request = .ok target) :
    target.headers = request.headers := by
  obtain ⟨path, -, htarget⟩ := Fallible.bind_eq_ok_iff.mp h
  exact setUpstreamTarget_eq_ok htarget

def methodTo : ActualProtocol → String
  | .http1 => "GET"
  | .http2 => "CONNECT"

def protocolTo : ActualProtocol → Option String
  | .http1 => none
  | .http2 => some "websocket"

theorem setTarget_some {prepared : PreparedWebSocket}
    (h : context.setTarget platform (some prepared) request = .ok target) :
    target.headers = request.headers ∧ target.method = methodTo prepared.bridge.upstream ∧
      target.extendedProtocol = protocolTo prepared.bridge.upstream := by
  obtain ⟨path, -, htarget⟩ := Fallible.bind_eq_ok_iff.mp h
  obtain ⟨placed, hplaced, hresult⟩ := Fallible.bind_eq_ok_iff.mp htarget
  have hheaders := setUpstreamTarget_eq_ok hplaced
  cases hupstream : prepared.bridge.upstream with
  | http1 =>
    rw [hupstream] at hresult
    cases hresult
    exact ⟨hheaders, rfl, rfl⟩
  | http2 =>
    rw [hupstream] at hresult
    cases hresult
    exact ⟨hheaders, rfl, rfl⟩

/-- The key that is sent: over HTTP/1 that of the client or a fresh one, over HTTP/2 none. -/
def KeySent (platform : HandshakePlatform) (random : Option RandomKey) :
    DownstreamWebSocket → ActualProtocol → Option String → Prop
  | .http1 key, .http1, sent => sent = some key
  | .http2, .http1, sent => ∃ fresh, random = some fresh ∧ sent = some (platform.base64Encode fresh.bytes)
  | _, .http2, sent => sent = none

theorem prepare_some {websocket : WebSocketRequest} {prepared : Option PreparedWebSocket}
    (h : context.prepare platform (some websocket) = .ok prepared) :
    ∃ ready, prepared = some ready ∧ ready.bridge.upstream = context.protocol ∧
      ready.bridge.downstream = websocket.downstreamProtocol ∧
      KeySent platform context.random websocket.downstream context.protocol ready.upstreamKey := by
  unfold ForwardContext.prepare at h
  dsimp only at h
  split_ifs at h
  obtain ⟨ready, hready, rfl⟩ := Fallible.map_eq_ok_iff.mp h
  refine ⟨ready, rfl, ?_⟩
  obtain ⟨downstream, protocols, names⟩ := websocket
  simp only [prepareWebsocket, WebSocketRequest.downstreamProtocol, WebSocketRequest.downstreamKey]
    at hready ⊢
  cases downstream with
  | http1 =>
    cases hprotocol : context.protocol with
    | http1 =>
      simp only [hprotocol, WebSocketBridge.new] at hready
      cases hready
      exact ⟨rfl, rfl, rfl⟩
    | http2 =>
      simp only [hprotocol, WebSocketBridge.new] at hready
      cases hready
      exact ⟨rfl, rfl, rfl⟩
  | http2 =>
    cases hprotocol : context.protocol with
    | http1 =>
      simp only [hprotocol, WebSocketBridge.new] at hready
      cases hrandom : context.random with
      | none =>
        rw [hrandom] at hready
        cases hready
      | some fresh =>
        rw [hrandom] at hready
        cases hready
        exact ⟨rfl, rfl, fresh, rfl, rfl⟩
    | http2 =>
      simp only [hprotocol, WebSocketBridge.new] at hready
      cases hready
      exact ⟨rfl, rfl, rfl⟩

theorem insertKey_eq_ok {headers sent : HeaderMap} {key : Option String}
    (h : insertKey headers key = .ok sent) :
    (∀ name, name ≠ HeaderName.secWebsocketKey → sent.getAll name = headers.getAll name) ∧
      match key with
      | none => sent = headers
      | some key => ∃ value, value.bytes = key.toUTF8.data.toList ∧ sent.getAll .secWebsocketKey = [value] := by
  cases key with
  | none =>
    cases h
    exact ⟨fun _ _ => rfl, rfl⟩
  | some key =>
    rw [insertKey] at h
    cases hvalue : HeaderValue.fromStr key with
    | none =>
      rw [hvalue] at h
      cases h
    | some value =>
      rw [hvalue] at h
      cases h
      refine ⟨fun name hne => ?_, value, HeaderValue.bytes_of_fromStr hvalue, ?_⟩
      · rw [Multimap.getAll_insert, if_neg hne]
      · rw [Multimap.getAll_insert, if_pos rfl]

theorem outgoing_eq_ok {websocket : Option WebSocketRequest} {sent : OutgoingRequest}
    {prepared : Option PreparedWebSocket}
    (h : context.outgoing platform websocket request = .ok (sent, prepared)) :
    ∃ target sanitized, context.prepare platform websocket = .ok prepared ∧
      context.setTarget platform prepared request = .ok target ∧
      sanitizeRequestHeaders target.headers context.publicAuthority context.clientIp context.publicProto
        context.identity websocket.isSome context.protocol = .ok sanitized ∧
      insertKey sanitized (prepared.bind PreparedWebSocket.upstreamKey) = .ok sent.headers ∧
      sent.method = target.method ∧ sent.extendedProtocol = target.extendedProtocol := by
  obtain ⟨ready, hready, hrest⟩ := Fallible.bind_eq_ok_iff.mp h
  obtain ⟨target, htarget, hrest⟩ := Fallible.bind_eq_ok_iff.mp hrest
  obtain ⟨sanitized, hsanitized, hrest⟩ := Fallible.bind_eq_ok_iff.mp hrest
  obtain ⟨headers, hheaders, hresult⟩ := Fallible.bind_eq_ok_iff.mp hrest
  cases hresult
  exact ⟨target, sanitized, hready, htarget, hsanitized, hheaders, rfl, rfl⟩

end

variable {platform : HandshakePlatform} {request : HyperRequest}

theorem IsOrdinary.outgoing {context : ForwardContext} {extendedProtocol : Option String}
    {sent : OutgoingRequest} {prepared : Option PreparedWebSocket} (hordinary : IsOrdinary request)
    (h : context.outgoing platform none (request.unsent extendedProtocol) = .ok (sent, prepared))
    {name : HeaderName}
    (hname : name ∈ [HeaderName.connection, .upgrade] ++ websocketHandshakeHeaders) :
    sent.headers.getAll name = [] := by
  obtain ⟨target, sanitized, hprepared, htarget, hsanitized, hkey, -⟩ := outgoing_eq_ok h
  cases hprepared
  cases hkey
  rw [setTarget_none htarget] at hsanitized
  rcases List.mem_append.mp hname with hhop | hhandshake
  · exact getAll_sanitized_hop hhop rfl hsanitized
  · have hgenerated : ∀ name ∈ websocketHandshakeHeaders,
        name ∉ generatedNames false context.protocol := by
      cases context.protocol <;> decide
    exact getAll_sanitized_of_nil (hgenerated name hhandshake) (hordinary.handshake name hhandshake)
      hsanitized

def UpstreamKey (platform : HandshakePlatform) (random : Option RandomKey) (request : HyperRequest)
    (sent : HeaderMap) : ActualProtocol → DownstreamWebSocket → Prop
  | .http1, .http1 _ => ∃ value, request.headers.getAll .secWebsocketKey = [value] ∧
      sent.getAll .secWebsocketKey = [value]
  | .http1, .http2 => ∃ fresh value, random = some fresh ∧
      value.bytes = (platform.base64Encode fresh.bytes).toUTF8.data.toList ∧
      sent.getAll .secWebsocketKey = [value]
  | .http2, _ => sent.getAll .secWebsocketKey = []

def UpstreamHop (sent : HeaderMap) : ActualProtocol → Prop
  | .http1 => sent.getAll .connection = [upgradeValue] ∧ sent.getAll .upgrade = [websocketValue]
  | .http2 => sent.getAll .connection = [] ∧ sent.getAll .upgrade = []

structure SentHandshake (platform : HandshakePlatform) (context : ForwardContext) (request : HyperRequest)
    (websocket : WebSocketRequest) (sent : OutgoingRequest) : Prop where
  method : sent.method = methodTo context.protocol
  protocol : sent.extendedProtocol = protocolTo context.protocol
  hop : UpstreamHop sent.headers context.protocol
  version : ∃ value, sent.headers.getAll .secWebsocketVersion = [value] ∧ value.bytes = versionThirteen
  key : UpstreamKey platform context.random request sent.headers context.protocol websocket.downstream
  accept : sent.headers.getAll .secWebsocketAccept = []
  offers : ∀ name ∈ websocketSelections, sent.headers.getAll name = request.headers.getAll name

theorem upstreamKey_of_insertKey {random : Option RandomKey} {sanitized sent : HeaderMap}
    {protocol : ActualProtocol} {downstream : DownstreamWebSocket} {key : Option String}
    (hkeyOf : KeyOf request downstream) (hkeySent : KeySent platform random downstream protocol key)
    (hnone : protocol = .http2 → sanitized.getAll .secWebsocketKey = [])
    (hinserted : insertKey sanitized key = .ok sent) :
    UpstreamKey platform random request sent protocol downstream := by
  obtain ⟨-, hkey⟩ := insertKey_eq_ok hinserted
  cases protocol with
  | http1 =>
    cases downstream with
    | http1 =>
      cases hkeySent
      obtain ⟨value, hvalue, htext⟩ := hkeyOf
      obtain ⟨value', hbytes, hsent⟩ := hkey
      have hsame : value' = value := HeaderValue.ext (hbytes.trans (HeaderValue.bytes_of_toStr htext))
      exact ⟨value, hvalue, hsame ▸ hsent⟩
    | http2 =>
      obtain ⟨fresh, hrandom, rfl⟩ := hkeySent
      obtain ⟨value, hbytes, hsent⟩ := hkey
      exact ⟨fresh, value, hrandom, hbytes, hsent⟩
  | http2 =>
    have hnokey : key = none := by cases downstream <;> exact hkeySent
    subst hnokey
    rw [UpstreamKey, hkey]
    exact hnone rfl

theorem upstreamHop_of_sanitized {headers sanitized sent : HeaderMap} {authority : HeaderValue}
    {clientIp : ClientIp} {publicProto : String} {identity : ProxyIdentity} {protocol : ActualProtocol}
    (h : sanitizeRequestHeaders headers authority clientIp publicProto identity true protocol =
      .ok sanitized)
    (hothers : ∀ name, name ≠ HeaderName.secWebsocketKey → sent.getAll name = sanitized.getAll name) :
    UpstreamHop sent protocol := by
  have hconnection := hothers .connection (by decide)
  have hupgrade := hothers .upgrade (by decide)
  cases protocol with
  | http1 =>
    rw [UpstreamHop, hconnection, hupgrade]
    exact getAll_sanitized_upgrade h
  | http2 =>
    rw [UpstreamHop, hconnection, hupgrade]
    exact ⟨getAll_sanitized_hop (by decide) rfl h, getAll_sanitized_hop (by decide) rfl h⟩

theorem IsHandshake.outgoing {context : ForwardContext} {extendedProtocol : Option String}
    {websocket : WebSocketRequest} {sent : OutgoingRequest} {prepared : Option PreparedWebSocket}
    (hhandshake : IsHandshake request websocket)
    (h : context.outgoing platform (some websocket) (request.unsent extendedProtocol) =
      .ok (sent, prepared)) : SentHandshake platform context request websocket sent := by
  obtain ⟨target, sanitized, hprepared, htarget, hsanitized, hinserted, hmethod, hprotocol⟩ :=
    outgoing_eq_ok h
  obtain ⟨ready, rfl, hupstream, hdownstream, hkeySent⟩ := prepare_some hprepared
  obtain ⟨hheaders, htargetMethod, htargetProtocol⟩ := setTarget_some htarget
  obtain ⟨hothers, -⟩ := insertKey_eq_ok hinserted
  rw [hupstream] at htargetMethod htargetProtocol
  rw [hheaders, Option.isSome_some] at hsanitized
  have hoffer : ∀ name ∈ [HeaderName.secWebsocketVersion, .secWebsocketProtocol,
      .secWebsocketExtensions], sent.headers.getAll name = request.headers.getAll name := by
    intro name hname
    have hne : ∀ name ∈ [HeaderName.secWebsocketVersion, .secWebsocketProtocol,
        .secWebsocketExtensions], name ≠ HeaderName.secWebsocketKey := by decide
    rw [hothers name (hne name hname)]
    exact getAll_sanitized_offer hname (hhandshake.kept name hname) hsanitized
  refine ⟨hmethod.trans htargetMethod, hprotocol.trans htargetProtocol,
    upstreamHop_of_sanitized hsanitized hothers, ?_, ?_, ?_, ?_⟩
  · obtain ⟨value, hvalue, hthirteen⟩ := hhandshake.version
    exact ⟨value, (hoffer _ (by decide)).trans hvalue, hthirteen⟩
  · refine upstreamKey_of_insertKey hhandshake.key hkeySent (fun hhttp2 => ?_) hinserted
    rw [hhttp2] at hsanitized
    exact getAll_sanitized_key (by decide) hsanitized
  · rw [hothers _ (by decide)]
    refine getAll_sanitized_of_nil ?_ hhandshake.accept hsanitized
    exact not_generated_of_websocketKeys (by decide)
  · intro name hname
    have hlisted : ∀ name ∈ websocketSelections, name ∈ [HeaderName.secWebsocketVersion,
        .secWebsocketProtocol, .secWebsocketExtensions] := by decide
    exact hoffer name (hlisted name hname)

end AuthMiniGateway
