import AuthMiniGateway.Proof.HandshakeRequests
import AuthMiniGateway.Proof.ResponseCookies

namespace AuthMiniGateway

open Multimap (getAll_append getAll_insert getAll_removeAll getAll_singleton)

/-! ### The answer -/

variable {u : Unit} {headers sent : HeaderMap} {websocket : WebSocketRequest}
  {platform : HandshakePlatform} {response : UpstreamAnswer} {key : String}
  {renewal : Option String} {name : HeaderName}

theorem unlessOk_eq_ok_iff {condition : Bool} : unlessOk condition = .ok u ↔ condition = true := by
  cases condition with
  | true | false => simp [unlessOk]

theorem asBadGateway_eq_ok_iff {α : Type} {x : Except ProxyError α} {value : α} :
    asBadGateway x = .ok value ↔ x = .ok value := by
  cases x with
  | error e | ok other => simp [asBadGateway]

theorem parseResponseConnectionTokens_eq_ok_iff {names : List HeaderName} :
    parseResponseConnectionTokens headers = .ok names ↔ parseConnectionTokens headers = .ok names := by
  unfold parseResponseConnectionTokens
  cases parseConnectionTokens headers with
  | error e | ok other => simp

structure SelectsFrom (selected : HeaderMap) (protocols extensionNames : List String) : Prop where
  protocol : selected.getAll .secWebsocketProtocol = [] ∨
    ∃ value text, selected.getAll .secWebsocketProtocol = [value] ∧ value.toStr = some text ∧
      text ∈ protocols
  extensions : ∃ names, parseExtensions selected = .ok names ∧ ∀ name ∈ names, name ∈ extensionNames

theorem validateWebsocketResponseSelections_eq_ok
    (h : validateWebsocketResponseSelections headers websocket = .ok u) :
    SelectsFrom headers websocket.protocols websocket.extensionNames := by
  simp only [validateWebsocketResponseSelections, Fallible.bind_eq_ok_iff, unlessOk_eq_ok_iff,
    asBadGateway_eq_ok_iff] at h
  obtain ⟨-, hlength, -, hoffered, names, hnames, hsubset⟩ := h
  refine ⟨?_, names, hnames, fun name hname => ?_⟩
  · cases hselected : headers.getAll .secWebsocketProtocol with
    | nil => exact Or.inl rfl
    | cons value rest =>
      rw [hselected] at hlength hoffered
      have hrest : rest = [] := by
        rw [decide_eq_true_eq, List.length_cons] at hlength
        exact List.length_eq_zero_iff.mp (by omega)
      have hvalue : isOfferedProtocol websocket value = true := hoffered
      rw [isOfferedProtocol, Option.any_eq_true] at hvalue
      obtain ⟨text, htext, hmem⟩ := hvalue
      refine Or.inr ⟨value, text, by rw [hrest], htext, ?_⟩
      exact List.contains_iff_mem.mp (Bool.and_eq_true_iff.mp hmem).2
  · exact List.contains_iff_mem.mp (List.all_eq_true.mp hsubset name hname)

structure AcceptsOverHttp1 (platform : HandshakePlatform) (response : UpstreamAnswer)
    (keyBytes : List UInt8) : Prop where
  status : response.status = 101
  version : response.version = .http11
  connection : namedInConnection response.headers .upgrade = true
  upgrade : ∃ value, response.headers.getAll .upgrade = [value] ∧ isWebsocketUpgrade value = true
  accept : ∃ value, response.headers.getAll .secWebsocketAccept = [value] ∧
    value.bytes = (platform.base64Encode
      (platform.sha1 (keyBytes ++ websocketGuid.toUTF8.data.toList))).toUTF8.data.toList

structure AcceptsOverHttp2 (response : UpstreamAnswer) : Prop where
  status : response.status = 200
  version : response.version = .http2
  absent : ∀ name ∈ h2ResponseForbidden, response.headers.getAll name = []

def Accepts (platform : HandshakePlatform) (response : UpstreamAnswer) (sent : HeaderMap) :
    ActualProtocol → Prop
  | .http1 => ∃ key, sent.getAll .secWebsocketKey = [key] ∧
      AcceptsOverHttp1 platform response key.bytes
  | .http2 => AcceptsOverHttp2 response

def SelectionsKept (response : UpstreamAnswer) : Prop :=
  ∀ name ∈ websocketSelections,
    namedInConnection response.headers name = true → response.headers.getAll name = []

theorem validateH1WebsocketResponse_eq_ok
    (h : validateH1WebsocketResponse platform response websocket key = .ok u) :
    AcceptsOverHttp1 platform response key.toUTF8.data.toList ∧ SelectionsKept response ∧
      SelectsFrom response.headers websocket.protocols websocket.extensionNames := by
  simp only [validateH1WebsocketResponse, Fallible.bind_eq_ok_iff, unlessOk_eq_ok_iff,
    asBadGateway_eq_ok_iff, parseResponseConnectionTokens_eq_ok_iff, exactlyOne_eq_ok_iff] at h
  obtain ⟨-, hhead, tokens, htokens, -, hupgrade, -, -, -, hselections, -, hone, accept, haccept, -, hdigest,
    hselected⟩ := h
  simp only [Bool.and_eq_true, decide_eq_true_eq] at hhead hone hdigest
  obtain ⟨⟨⟨hstatus, hversion⟩, -⟩, -⟩ := hhead
  obtain ⟨hlength, hwebsocket⟩ := hone
  refine ⟨⟨hstatus, hversion, ?_, ?_, accept, haccept, hdigest⟩, ?_,
    validateWebsocketResponseSelections_eq_ok hselected⟩
  · exact (mem_parseConnectionTokens htokens).mp (List.contains_iff_mem.mp hupgrade)
  · obtain ⟨value, hvalue⟩ := List.length_eq_one_iff.mp hlength
    rw [hvalue] at hwebsocket
    exact ⟨value, hvalue, hwebsocket⟩
  · intro name hname hnamed
    exact getAll_eq_nil_of_named htokens (Bool.not_eq_true' _ ▸ hselections) hname hnamed

theorem validateH2WebsocketResponse_eq_ok
    (h : validateH2WebsocketResponse response websocket = .ok u) :
    AcceptsOverHttp2 response ∧ SelectionsKept response ∧
      SelectsFrom response.headers websocket.protocols websocket.extensionNames := by
  simp only [validateH2WebsocketResponse, Fallible.bind_eq_ok_iff, unlessOk_eq_ok_iff] at h
  obtain ⟨-, hhead, -, hforbidden, hselected⟩ := h
  simp only [Bool.and_eq_true, decide_eq_true_eq] at hhead
  have habsent : ∀ name ∈ h2ResponseForbidden, response.headers.getAll name = [] := by
    intro name hname
    rw [Bool.not_eq_true', List.any_eq_false] at hforbidden
    exact containsKey_eq_false_iff.mp (Bool.eq_false_iff.mpr (hforbidden name hname))
  refine ⟨⟨hhead.1.1, hhead.1.2, habsent⟩, fun name _ hnamed => ?_,
    validateWebsocketResponseSelections_eq_ok hselected⟩
  rw [namedInConnection, habsent .connection (by decide)] at hnamed
  cases hnamed

theorem checkAnswer_eq_ok {prepared : PreparedWebSocket}
    (hkey : ∀ key, prepared.upstreamKey = some key → ∃ value, sent.getAll .secWebsocketKey = [value] ∧
      value.bytes = key.toUTF8.data.toList)
    (h : checkAnswer platform websocket prepared response = .ok u) :
    Accepts platform response sent prepared.bridge.upstream ∧ SelectionsKept response ∧
      SelectsFrom response.headers websocket.protocols websocket.extensionNames := by
  unfold checkAnswer validateWebsocketUpstreamResponse at h
  cases hupstream : prepared.bridge.upstream with
  | http1 =>
    rw [hupstream] at h
    dsimp only at h
    rw [asBadGateway_eq_ok_iff] at h
    cases hsome : prepared.upstreamKey with
    | none =>
      rw [hsome] at h
      cases h
    | some key =>
      rw [hsome] at h
      obtain ⟨value, hvalue, hbytes⟩ := hkey key hsome
      obtain ⟨haccepts, hrest⟩ := validateH1WebsocketResponse_eq_ok h
      exact ⟨⟨value, hvalue, hbytes ▸ haccepts⟩, hrest⟩
  | http2 =>
    rw [hupstream] at h
    dsimp only at h
    split_ifs at h
    exact validateH2WebsocketResponse_eq_ok h

/-! ### The answer that the client gets -/

theorem getAll_appendRenewal_other (h : appendRenewal headers renewal = .ok sent)
    (hname : name ≠ .setCookie) : sent.getAll name = headers.getAll name := by
  cases renewal with
  | none =>
    cases h
    rfl
  | some =>
    rw [appendRenewal] at h
    split at h
    · cases h
      rw [appendValue, getAll_append, getAll_singleton, if_neg (Ne.symm hname),
        List.append_nil]
    · cases h

theorem getAll_sanitizeResponseHead_other
    (h : sanitizeResponseHead headers renewal false = .ok sent) (hname : name ≠ .setCookie) :
    sent.getAll name = if namedInConnection headers name || fixedHopHeaders.contains name
        || name == .contentLength || name.startsWith "x-auth-mini-" then []
      else headers.getAll name := by
  rw [sanitizeResponseHead, parseResponseConnectionTokens] at h
  cases hnominated : parseConnectionTokens headers with
  | error =>
    rw [hnominated] at h
    cases h
  | ok =>
    rw [hnominated] at h
    rw [getAll_appendRenewal_other h hname, if_neg Bool.false_ne_true, getAll_removeUpstreamHeaders hnominated,
      if_neg hname]

def ClientForm (platform : HandshakePlatform) (reply : UpstreamResponse) : DownstreamWebSocket → Prop
  | .http1 key => reply.status = 101 ∧ reply.version = .http11 ∧
      reply.headers.getAll .connection = [upgradeValue] ∧
      reply.headers.getAll .upgrade = [websocketValue] ∧
      ∃ value, reply.headers.getAll .secWebsocketAccept = [value] ∧
        value.bytes = (websocketAccept platform key).toUTF8.data.toList
  | .http2 => reply.status = 200 ∧ reply.version = .http2 ∧
      ∀ name ∈ [HeaderName.connection, .upgrade, .secWebsocketAccept], reply.headers.getAll name = []

structure ClientAnswer (platform : HandshakePlatform) (websocket : WebSocketRequest)
    (response : UpstreamAnswer) (reply : UpstreamResponse) : Prop where
  form : ClientForm platform reply websocket.downstream
  selections : ∀ name ∈ websocketSelections,
    reply.headers.getAll name = response.headers.getAll name
  absent : ∀ name ∈ [HeaderName.secWebsocketKey, .secWebsocketVersion], reply.headers.getAll name = []

theorem insertAccept_eq_ok (h : insertAccept platform headers websocket = .ok sent) :
    ∃ key value, websocket.downstreamKey = some key ∧
      value.bytes = (websocketAccept platform key).toUTF8.data.toList ∧
      sent = headers.insert .secWebsocketAccept value := by
  unfold insertAccept at h
  cases hkey : websocket.downstreamKey with
  | none =>
    rw [hkey] at h
    cases h
  | some key =>
    rw [hkey] at h
    dsimp only at h
    cases hvalue : HeaderValue.fromStr (websocketAccept platform key) with
    | none =>
      rw [hvalue] at h
      cases h
    | some value =>
      rw [hvalue] at h
      cases h
      exact ⟨key, value, rfl, HeaderValue.bytes_of_fromStr hvalue, rfl⟩

theorem getAll_stripped_selection {sanitized : HeaderMap} (hkept : SelectionsKept response)
    (h : sanitizeResponseHead response.headers renewal false = .ok sanitized)
    (hname : name ∈ websocketSelections) :
    (sanitized.removeAll h1AnswerRemoved).getAll name = response.headers.getAll name := by
  have hplain : ∀ name ∈ websocketSelections, name ∉ h1AnswerRemoved ∧ name ≠ HeaderName.setCookie ∧
      fixedHopHeaders.contains name = false ∧ (name == HeaderName.contentLength) = false ∧
      name.startsWith "x-auth-mini-" = false := by decide
  obtain ⟨hremoved, hcookie, hhop, hlength, hstart⟩ := hplain name hname
  rw [getAll_removeAll, if_neg hremoved, getAll_sanitizeResponseHead_other h hcookie, hhop,
    hlength, hstart, Bool.or_false, Bool.or_false, Bool.or_false]
  split_ifs with hnamed
  · exact (hkept name hname hnamed).symm
  · rfl

theorem getAll_upgraded {value : HeaderValue}
    (hname : name ∉ [HeaderName.connection, .upgrade, .secWebsocketAccept]) :
    ((setUpgrade headers).insert .secWebsocketAccept value).getAll name = headers.getAll name := by
  simp only [List.mem_cons, List.not_mem_nil, or_false, not_or] at hname
  rw [getAll_insert, if_neg hname.2.2, setUpgrade, getAll_insert, if_neg hname.2.1,
    getAll_insert, if_neg hname.1]

theorem clientAnswer_http1 {value : HeaderValue} (hclient : websocket.downstream = .http1 key)
    (hbytes : value.bytes = (websocketAccept platform key).toUTF8.data.toList)
    (hselections : ∀ name ∈ websocketSelections,
      headers.getAll name = response.headers.getAll name)
    (habsent : ∀ name ∈ h1AnswerRemoved, headers.getAll name = []) :
    ClientAnswer platform websocket response
      ⟨.http11, 101, (setUpgrade headers).insert .secWebsocketAccept value⟩ where
  form := by
    have hne : HeaderName.connection ≠ .upgrade ∧ HeaderName.connection ≠ .secWebsocketAccept ∧
        HeaderName.upgrade ≠ .secWebsocketAccept := by decide
    rw [hclient]
    refine ⟨rfl, rfl, ?_, ?_, value, ?_, hbytes⟩
    · rw [getAll_insert, if_neg hne.2.1, setUpgrade, getAll_insert, if_neg hne.1,
        getAll_insert, if_pos rfl]
    · rw [getAll_insert, if_neg hne.2.2, setUpgrade, getAll_insert, if_pos rfl]
    · rw [getAll_insert, if_pos rfl]
  selections name hname := by
    have hplain : ∀ name ∈ websocketSelections,
        name ∉ [HeaderName.connection, .upgrade, .secWebsocketAccept] := by decide
    rw [← hselections name hname]
    exact getAll_upgraded (hplain name hname)
  absent name hname := by
    have hplain : ∀ name ∈ [HeaderName.secWebsocketKey, .secWebsocketVersion], name ∈ h1AnswerRemoved ∧
        name ∉ [HeaderName.connection, .upgrade, .secWebsocketAccept] := by decide
    rw [← habsent name (hplain name hname).1]
    exact getAll_upgraded (hplain name hname).2

theorem clientAnswer_http2 (hclient : websocket.downstream = .http2)
    (hselections : ∀ name ∈ websocketSelections,
      headers.getAll name = response.headers.getAll name)
    (habsent : ∀ name ∈ h1AnswerRemoved, headers.getAll name = []) :
    ClientAnswer platform websocket response ⟨.http2, 200, removeFixedHopHeaders headers⟩ where
  form := by
    have hplain : ∀ name ∈ [HeaderName.connection, .upgrade, .secWebsocketAccept],
        name ∈ fixedHopHeaders ∨ name ∈ h1AnswerRemoved := by decide
    rw [hclient]
    refine ⟨rfl, rfl, fun name hname => ?_⟩
    rw [removeFixedHopHeaders, getAll_removeAll]
    rcases hplain name hname with hhop | hremoved
    · rw [if_pos hhop]
    · rw [habsent name hremoved, ite_self]
  selections name hname := by
    have hplain : ∀ name ∈ websocketSelections, name ∉ fixedHopHeaders := by decide
    rw [removeFixedHopHeaders, getAll_removeAll, if_neg (hplain name hname)]
    exact hselections name hname
  absent name hname := by
    have hplain : ∀ name ∈ [HeaderName.secWebsocketKey, .secWebsocketVersion],
        name ∈ h1AnswerRemoved := by decide
    rw [removeFixedHopHeaders, getAll_removeAll, habsent name (hplain name hname), ite_self]

theorem sanitizeWebsocketResponseHead_eq_ok {prepared : PreparedWebSocket}
    {reply : UpstreamResponse}
    (hdownstream : prepared.bridge.downstream = websocket.downstreamProtocol)
    (hkept : SelectionsKept response)
    (h : sanitizeWebsocketResponseHead platform response renewal websocket prepared = .ok reply) :
    ClientAnswer platform websocket response reply := by
  obtain ⟨sanitized, hsanitized, hrest⟩ := Fallible.bind_eq_ok_iff.mp h
  have hselections : ∀ name ∈ websocketSelections,
      (sanitized.removeAll h1AnswerRemoved).getAll name = response.headers.getAll name :=
    fun name hname => getAll_stripped_selection hkept hsanitized hname
  have habsent : ∀ name ∈ h1AnswerRemoved, (sanitized.removeAll h1AnswerRemoved).getAll name = [] := by
    intro name hname
    rw [getAll_removeAll, if_pos hname]
  cases hclient : websocket.downstream with
  | http1 =>
    rw [hdownstream, WebSocketRequest.downstreamProtocol, hclient] at hrest
    obtain ⟨headers, hheaders, hreply⟩ := Fallible.bind_eq_ok_iff.mp hrest
    cases hreply
    obtain ⟨key', value, hkey, hbytes, rfl⟩ := insertAccept_eq_ok hheaders
    rw [WebSocketRequest.downstreamKey, hclient, Option.some_inj] at hkey
    exact clientAnswer_http1 hclient (hkey ▸ hbytes) hselections habsent
  | http2 =>
    rw [hdownstream, WebSocketRequest.downstreamProtocol, hclient] at hrest
    cases hrest
    exact clientAnswer_http2 hclient hselections habsent

/-! ### The whole handshake -/

/-- The answer selects at most one subprotocol and some extensions, all of them from the headers that
were sent. -/
structure SelectsOffered (selected sent : HeaderMap) : Prop where
  protocol : selected.getAll .secWebsocketProtocol = [] ∨
    ∃ value text, selected.getAll .secWebsocketProtocol = [value] ∧ value.toStr = some text ∧
      OffersProtocol sent text
  extensions : ∃ names offered, parseExtensions selected = .ok names ∧ parseExtensions sent = .ok offered ∧
    ∀ name ∈ names, name ∈ offered

theorem SelectsFrom.offered {selected : HeaderMap} {request : HyperRequest}
    (h : SelectsFrom selected websocket.protocols websocket.extensionNames)
    (hhandshake : IsHandshake request websocket)
    (hoffers : ∀ name ∈ websocketSelections, sent.getAll name = request.headers.getAll name) :
    SelectsOffered selected sent := by
  have hprotocols : parseProtocols sent = .ok websocket.protocols := by
    rw [parseProtocols, hoffers _ (by decide)]
    exact hhandshake.protocols
  have hextensions : parseExtensions sent = .ok websocket.extensionNames := by
    rw [parseExtensions, hoffers _ (by decide)]
    exact hhandshake.extensions
  obtain ⟨hprotocol, names, hnames, hsubset⟩ := h
  refine ⟨?_, names, _, hnames, hextensions, hsubset⟩
  rcases hprotocol with hnone | ⟨value, text, hvalue, htext, hmem⟩
  · exact Or.inl hnone
  · exact Or.inr ⟨value, text, hvalue, htext, (mem_parseProtocols hprotocols text).mp hmem⟩

theorem outgoing_upstreamKey {context : ForwardContext} {request : OutgoingRequest}
    {sent : OutgoingRequest} {ready : PreparedWebSocket}
    (h : context.outgoing platform (some websocket) request = .ok (sent, some ready))
    (hkey : ready.upstreamKey = some key) :
    ∃ value, sent.headers.getAll .secWebsocketKey = [value] ∧
      value.bytes = key.toUTF8.data.toList := by
  obtain ⟨target, sanitized, -, -, -, hinserted, -⟩ := outgoing_eq_ok h
  rw [Option.bind_some, hkey] at hinserted
  obtain ⟨-, value, hbytes, hvalue⟩ := insertKey_eq_ok hinserted
  exact ⟨value, hvalue, hbytes⟩

/-- **Handshakes.** With an ordinary request nothing of a handshake is sent. A handshake is sent in the
form of the upstream's protocol, with the client's offers as they came. A success is answered only when
the upstream has agreed to what was sent and has selected from it, and the client then gets these
selections in an answer of its own form. -/
theorem handshake_translated (platform : HandshakePlatform) (context : ForwardContext)
    (request : HyperRequest) (extendedProtocol : Option String) (sent : OutgoingRequest)
    (prepared : Option PreparedWebSocket) :
    (parseWebsocketRequest platform request extendedProtocol = .ok none →
      context.outgoing platform none (request.unsent extendedProtocol) = .ok (sent, prepared) →
        ∀ name ∈ [HeaderName.connection, .upgrade] ++ websocketHandshakeHeaders,
          sent.headers.getAll name = []) ∧
    (∀ websocket, parseWebsocketRequest platform request extendedProtocol = .ok (some websocket) →
      context.outgoing platform (some websocket) (request.unsent extendedProtocol) = .ok (sent, prepared) →
        SentHandshake platform context request websocket sent ∧
        ∃ ready, prepared = some ready ∧
          ∀ response reply, context.answer platform websocket ready response = .ok reply →
            Accepts platform response sent.headers context.protocol ∧
            SelectsOffered response.headers sent.headers ∧
            ClientAnswer platform websocket response reply) := by
  refine ⟨fun hparse hsent name hname => ?_, fun websocket hparse hsent => ?_⟩
  · have hordinary : IsOrdinary request := parseWebsocketRequest_eq_ok hparse
    exact hordinary.outgoing hsent hname
  · have hhandshake : IsHandshake request websocket := parseWebsocketRequest_eq_ok hparse
    have hout := hhandshake.outgoing hsent
    obtain ⟨_, _, hprepared, -⟩ := outgoing_eq_ok hsent
    obtain ⟨ready, rfl, hupstream, hdownstream, -⟩ := prepare_some hprepared
    refine ⟨hout, ready, rfl, fun response reply hanswer => ?_⟩
    obtain ⟨u, hcheck, hreply⟩ := Fallible.bind_eq_ok_iff.mp hanswer
    obtain ⟨haccepts, hkept, hselects⟩ :=
      checkAnswer_eq_ok (fun key hkey => outgoing_upstreamKey hsent hkey) hcheck
    rw [hupstream] at haccepts
    exact ⟨haccepts, hselects.offered hhandshake hout.offers,
      sanitizeWebsocketResponseHead_eq_ok hdownstream hkept hreply⟩

theorem isScheme_none : (none : Option String).all (isSchemeText ·.toList) := rfl

theorem isScheme_https : (some "https").all (isSchemeText ·.toList) := by
  decide

def letterPlatform : HandshakePlatform where
  base64Encode bytes := String.ofList (bytes.map fun byte => Char.ofNat (65 + byte.toNat % 26))
  base64Decode text := some (text.toList.map fun c => UInt8.ofNat (c.toNat - 65))
  sha1 bytes := bytes.take 4
  parseUri text := if text = "/chat" then some ⟨none, none, "/chat", none, isScheme_none, rfl, nofun⟩ else none

def sampleConnect : HyperRequest :=
  { version := .http2
    method := "CONNECT"
    uri := ⟨some "https", some "app.example", "/chat", none, isScheme_https, by decide, nofun⟩
    headers := [(.secWebsocketVersion, sampleText "13" (by decide)),
      (.secWebsocketProtocol, sampleText "chat, superchat" (by decide))]
    isEndStream := true
    body := some [] }

def sampleContext : ForwardContext :=
  { upstream := ⟨⟨"http"⟩, "upstream.example", ""⟩
    pathAndQuery := "/chat"
    publicAuthority := sampleText "app.example" (by decide)
    clientIp := ⟨"192.0.2.1", by decide⟩
    publicProto := "https"
    identity := ⟨"alice"⟩
    renewal := none
    protocol := .http1
    extendedConnectEnabled := false
    random := some ⟨List.replicate 16 0, rfl⟩ }

def sampleOffer : WebSocketRequest := ⟨.http2, ["chat", "superchat"], []⟩

def sampleAnswer : UpstreamAnswer :=
  { status := 101
    version := .http11
    headers := [(.connection, upgradeValue), (.upgrade, websocketValue),
      (.secWebsocketAccept, sampleText "NNNN" (by decide)),
      (.secWebsocketProtocol, sampleText "chat" (by decide))]
    isEndStream := true }

def sampleReady : PreparedWebSocket := ⟨.h2ToH1, some "AAAAAAAAAAAAAAAA"⟩

theorem handshake_translated_to_http1 :
    ∃ sent reply,
      sampleContext.outgoing letterPlatform (some sampleOffer) (sampleConnect.unsent (some "websocket")) =
          .ok (sent, some sampleReady) ∧
        sent.method = "GET" ∧
        sampleContext.answer letterPlatform sampleOffer sampleReady sampleAnswer = .ok reply ∧
        reply.status = 200 ∧
        reply.headers.getAll .secWebsocketProtocol = [sampleText "chat" (by decide)] := by
  have hparse : parseWebsocketRequest letterPlatform sampleConnect (some "websocket") =
      .ok (some sampleOffer) := by decide +kernel
  obtain ⟨sent, hsent⟩ : ∃ sent, sampleContext.outgoing letterPlatform (some sampleOffer)
      (sampleConnect.unsent (some "websocket")) = .ok (sent, some sampleReady) := ⟨_, rfl⟩
  obtain ⟨reply, hreply⟩ : ∃ reply, sampleContext.answer letterPlatform sampleOffer sampleReady
      sampleAnswer = .ok reply := ⟨_, rfl⟩
  obtain ⟨hout, ready, hready, hanswer⟩ := (handshake_translated letterPlatform sampleContext
    sampleConnect (some "websocket") sent (some sampleReady)).2 sampleOffer hparse hsent
  cases hready
  obtain ⟨-, -, hclient⟩ := hanswer sampleAnswer reply hreply
  exact ⟨sent, reply, hsent, hout.method, hreply, hclient.form.1, hclient.selections _ (by decide)⟩

end AuthMiniGateway
