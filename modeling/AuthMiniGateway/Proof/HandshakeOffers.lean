import AuthMiniGateway.Handshake
import AuthMiniGateway.Proof.Sanitizing

namespace AuthMiniGateway

/-! ### Checks -/

theorem refuseIf_eq_ok_iff {condition : Bool} {u : Unit} :
    refuseIf condition = .ok u ↔ condition = false := by
  cases condition with
  | true | false => simp [refuseIf]

theorem asBadRequest_eq_ok_iff {α : Type} {x : Except ProxyError α} {value : α} :
    asBadRequest x = .ok value ↔ x = .ok value := by
  cases x with
  | error e | ok other => simp [asBadRequest]

theorem textOrRefuse_eq_ok_iff {x : Option String} {text : String} :
    textOrRefuse x = .ok text ↔ x = some text := by
  cases x with
  | none | some other => simp [textOrRefuse]

theorem requestText_eq_ok_iff {value : HeaderValue} {text : String} :
    requestText value = .ok text ↔ value.toStr = some text := by
  unfold requestText
  cases value.toStr with
  | none | some other => simp

variable {headers : HeaderMap} {name : HeaderName} {platform : HandshakePlatform}
  {request : HyperRequest}

theorem exactlyOne_eq_ok_iff {value : HeaderValue} :
    exactlyOne headers name = .ok value ↔ headers.getAll name = [value] := by
  unfold exactlyOne
  split
  · simp_all
  · rename_i hother
    constructor
    · intro h
      cases h
    · exact fun h => absurd h (hother value)

theorem containsKey_eq_false_iff : headers.containsKey name = false ↔ headers.getAll name = [] := by
  simp [Multimap.containsKey]

/-! ### Subprotocols -/

def OffersProtocol (headers : HeaderMap) (text : String) : Prop :=
  ∃ value ∈ headers.getAll .secWebsocketProtocol, ∃ line, value.toStr = some line ∧
    ∃ piece ∈ line.toList.splitOn ',', String.ofList (trim piece) = text

theorem mem_foldlM_parseProtocol {pieces : List (List Char)} {protocols result : List String}
    (h : pieces.foldlM parseProtocol protocols = .ok result) (text : String) :
    text ∈ result ↔ text ∈ protocols ∨ ∃ piece ∈ pieces, String.ofList (trim piece) = text := by
  refine Fallible.foldlM_ok (motive := fun done acc => text ∈ acc ↔ text ∈ protocols ∨
    ∃ piece ∈ done, String.ofList (trim piece) = text) h (by simp) ?_
  intro done piece before after hbefore hafter
  simp only [parseProtocol] at hafter
  split_ifs at hafter
  cases hafter
  rw [List.mem_append, List.mem_singleton, hbefore, or_assoc, @eq_comm _ text]
  simp only [List.mem_append, List.mem_singleton, or_and_right, exists_or, exists_eq_left]

theorem mem_parseProtocols {protocols : List String} (h : parseProtocols headers = .ok protocols)
    (text : String) : text ∈ protocols ↔ OffersProtocol headers text := by
  refine Fallible.foldlM_ok (motive := fun done acc => text ∈ acc ↔ ∃ value ∈ done, ∃ line,
    value.toStr = some line ∧ ∃ piece ∈ line.toList.splitOn ',', String.ofList (trim piece) = text)
    h (by simp) ?_
  intro done value before after hbefore hafter
  obtain ⟨line, hline, hpieces⟩ := Fallible.bind_eq_ok_iff.mp hafter
  have htext : value.toStr = some line := requestText_eq_ok_iff.mp hline
  rw [mem_foldlM_parseProtocol hpieces, hbefore]
  simp [or_and_right, exists_or, htext]

/-! ### Requests -/

structure IsOrdinary (request : HyperRequest) : Prop where
  upgrade : request.headers.getAll .upgrade = []
  handshake : ∀ name ∈ websocketHandshakeHeaders, request.headers.getAll name = []

def KeyOf (request : HyperRequest) : DownstreamWebSocket → Prop
  | .http1 key => ∃ value, request.headers.getAll .secWebsocketKey = [value] ∧ value.toStr = some key
  | .http2 => request.headers.getAll .secWebsocketKey = []

structure IsHandshake (request : HyperRequest) (websocket : WebSocketRequest) : Prop where
  version : ∃ value, request.headers.getAll .secWebsocketVersion = [value] ∧
    value.bytes = versionThirteen
  key : KeyOf request websocket.downstream
  accept : request.headers.getAll .secWebsocketAccept = []
  kept : ∀ name ∈ [HeaderName.secWebsocketVersion, .secWebsocketProtocol, .secWebsocketExtensions],
    namedInConnection request.headers name = true → request.headers.getAll name = []
  protocols : parseProtocols request.headers = .ok websocket.protocols
  extensions : parseExtensions request.headers = .ok websocket.extensionNames

theorem getAll_eq_nil_of_named {tokens names : List HeaderName}
    (htokens : parseConnectionTokens headers = .ok tokens)
    (hnames : (names.any fun name => headers.containsKey name && tokens.contains name) = false)
    (hname : name ∈ names) (hnamed : namedInConnection headers name = true) :
    headers.getAll name = [] := by
  have hmem : tokens.contains name = true :=
    List.contains_iff_mem.mpr ((mem_parseConnectionTokens htokens).mpr hnamed)
  have habsent := List.any_eq_false.mp hnames name hname
  rw [hmem, Bool.and_true, Bool.not_eq_true] at habsent
  exact containsKey_eq_false_iff.mp habsent

theorem parseH1WebsocketRequest_eq_ok {tokens : List HeaderName} {websocket : WebSocketRequest}
    (htokens : parseConnectionTokens request.headers = .ok tokens)
    (h : parseH1WebsocketRequest platform request tokens = .ok websocket) :
    IsHandshake request websocket := by
  simp only [parseH1WebsocketRequest, Fallible.bind_eq_ok_iff, refuseIf_eq_ok_iff,
    asBadRequest_eq_ok_iff, textOrRefuse_eq_ok_iff, exactlyOne_eq_ok_iff] at h
  obtain ⟨-, -, -, hnominated, -, haccept, -, -, -, -, version, hversion, -, hthirteen, value, hvalue, key,
    hkey, -, -, -, -, -, -, protocols, hprotocols, names, hnames, hresult⟩ := h
  cases hresult
  refine ⟨⟨version, hversion, by simpa using hthirteen⟩, ⟨value, hvalue, hkey⟩,
    containsKey_eq_false_iff.mp haccept, fun name hname hnamed => ?_, hprotocols, hnames⟩
  have hlisted : ∀ name ∈ [HeaderName.secWebsocketVersion, .secWebsocketProtocol,
      .secWebsocketExtensions], name ∈ h1NotNominated := by decide
  exact getAll_eq_nil_of_named htokens hnominated (hlisted name hname) hnamed

theorem parseH2WebsocketRequest_eq_ok {websocket : WebSocketRequest}
    (h : parseH2WebsocketRequest platform request = .ok websocket) :
    IsHandshake request websocket := by
  simp only [parseH2WebsocketRequest, validateH2WebsocketRequest, Fallible.bind_eq_ok_iff,
    refuseIf_eq_ok_iff, asBadRequest_eq_ok_iff, exactlyOne_eq_ok_iff] at h
  obtain ⟨-, ⟨-, -, -, -, -, hforbidden, version, hversion, -, hthirteen, -⟩, protocols, hprotocols, names,
    hnames, hresult⟩ := h
  cases hresult
  have habsent : ∀ name ∈ h2RequestForbidden, request.headers.getAll name = [] := by
    intro name hname
    exact containsKey_eq_false_iff.mp
      (Bool.eq_false_iff.mpr (List.any_eq_false.mp hforbidden name hname))
  refine ⟨⟨version, hversion, by simpa using hthirteen⟩, habsent _ (by decide), habsent _ (by decide),
    fun name _ hnamed => ?_, hprotocols, hnames⟩
  rw [namedInConnection, habsent .connection (by decide)] at hnamed
  cases hnamed

def Classified (request : HyperRequest) : Option WebSocketRequest → Prop
  | none => IsOrdinary request
  | some websocket => IsHandshake request websocket

theorem parseWebsocketRequest_eq_ok {extendedProtocol : Option String}
    {websocket : Option WebSocketRequest}
    (h : parseWebsocketRequest platform request extendedProtocol = .ok websocket) :
    Classified request websocket := by
  unfold parseWebsocketRequest at h
  by_cases hmethod : request.method = "CONNECT"
  · rw [if_pos hmethod] at h
    split_ifs at h
    obtain ⟨parsed, hparsed, rfl⟩ := Fallible.map_eq_ok_iff.mp h
    exact parseH2WebsocketRequest_eq_ok hparsed
  · rw [if_neg hmethod] at h
    by_cases hextended : extendedProtocol.isSome = true
    · rw [if_pos hextended] at h
      cases h
    · rw [if_neg hextended] at h
      split at h
      · cases h
      · next tokens htokens =>
        split_ifs at h with hordinary hpresent
        · cases h
          refine ⟨hordinary.2, fun name hname => ?_⟩
          rw [websocketHandshakeHeadersPresent, List.any_eq_true] at hpresent
          refine containsKey_eq_false_iff.mp (Bool.eq_false_iff.mpr fun hkey => ?_)
          exact hpresent ⟨name, hname, hkey⟩
        · obtain ⟨parsed, hparsed, rfl⟩ := Fallible.map_eq_ok_iff.mp h
          exact parseH1WebsocketRequest_eq_ok htokens hparsed

end AuthMiniGateway
