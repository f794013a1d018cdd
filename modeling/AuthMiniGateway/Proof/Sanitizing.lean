import AuthMiniGateway.Lib.Fallible
import AuthMiniGateway.Lib.Utf8
import AuthMiniGateway.Sanitize

namespace AuthMiniGateway

open HeaderValue (fromBytes fromStr isVisible toStr)

/-! ### The names in Connection -/

theorem mem_of_mem_splitOn {α : Type} [DecidableEq α] {sep : α} {text token : List α}
    (htoken : token ∈ text.splitOn sep) {c : α} (hc : c ∈ token) : c ∈ text := by
  induction text generalizing token with
  | nil =>
    rw [List.splitOn, List.splitOnP_nil, List.mem_singleton] at htoken
    exact htoken ▸ hc
  | cons d rest ih =>
    rw [List.splitOn, List.splitOnP_cons_eq_if_modifyHead] at htoken
    split_ifs at htoken
    · rcases List.mem_cons.mp htoken with rfl | hrest
      · cases hc
      · exact List.mem_cons_of_mem d (ih hrest hc)
    · change token ∈ (rest.splitOn sep).modifyHead (List.cons d) at htoken
      cases hparts : rest.splitOn sep with
      | nil => simp [hparts] at htoken
      | cons first =>
        rw [hparts, List.modifyHead_cons] at htoken
        rcases List.mem_cons.mp htoken with rfl | hother
        · rcases List.mem_cons.mp hc with rfl | hfirst
          · exact List.mem_cons_self
          · refine List.mem_cons_of_mem d (ih ?_ hfirst)
            exact hparts ▸ List.mem_cons_self
        · refine List.mem_cons_of_mem d (ih ?_ hc)
          exact hparts ▸ List.mem_cons_of_mem first hother

theorem mem_of_mem_trim {text : List Char} {c : Char} (hc : c ∈ trim text) : c ∈ text := by
  rw [trim, List.mem_reverse] at hc
  have hdropped := (List.dropWhile_sublist _).mem hc
  rw [List.mem_reverse] at hdropped
  exact (List.dropWhile_sublist _).mem hdropped

theorem ascii_of_toStr {value : HeaderValue} {text : String} (h : value.toStr = some text) {c : Char}
    (hc : c ∈ text.toList) : c.toNat < 128 := by
  rw [toStr] at h
  split_ifs at h with hvisible
  cases h
  rw [String.toList_ofList] at hc
  obtain ⟨byte, hbyte, rfl⟩ := List.mem_map.mp hc
  have hsmall := List.all_eq_true.mp hvisible byte hbyte
  simp only [isVisible, Bool.or_eq_true, Bool.and_eq_true, decide_eq_true_eq,
    beq_iff_eq] at hsmall
  have hlt : byte.toNat < 128 := by omega
  have hvalid : byte.toNat.isValidChar := Or.inl (by omega)
  rw [byteChar, Char.ofNat, dif_pos hvalid]
  exact hlt

variable {name : HeaderName}

theorem HeaderName.fromBytes_eq_some {bytes : List UInt8} :
    HeaderName.fromBytes bytes = some name
      ↔ name.text.toList = bytes.map fun byte => (byteChar byte).toLower := by
  rw [HeaderName.fromBytes]
  constructor
  · intro h
    split_ifs at h
    cases h
    exact String.toList_ofList
  · intro h
    have htext : String.ofList (bytes.map fun byte => (byteChar byte).toLower) = name.text := by
      rw [← h, String.ofList_toList]
    simp only [htext]
    rw [dif_pos name.isName]

theorem HeaderName.toList_ne_nil (name : HeaderName) : name.text.toList ≠ [] := by
  intro hempty
  have hname := name.isName
  rw [hempty] at hname
  cases hname

theorem connectionToken_eq_ok {token : List Char} (hascii : ∀ c ∈ token, c.toNat < 128) :
    connectionToken token = .ok name ↔ name.text.toList = (trim token).map Char.toLower := by
  have hbytes : (String.ofList (trim token)).toUTF8.data.toList.map (fun byte => (byteChar byte).toLower)
      = (trim token).map Char.toLower := by
    have hdecoded := Utf8.map_ofNat_of_ascii fun c hc => hascii c (mem_of_mem_trim hc)
    rw [Utf8.data_toList, String.toList_ofList]
    calc
      ((trim token).flatMap String.utf8EncodeChar).map (fun byte => (byteChar byte).toLower)
        = (((trim token).flatMap String.utf8EncodeChar).map byteChar).map Char.toLower := by
          rw [List.map_map]
          rfl
      _ = (trim token).map Char.toLower := congrArg (List.map Char.toLower) hdecoded
  rw [connectionToken, ← hbytes, ← HeaderName.fromBytes_eq_some]
  by_cases hempty : trim token = []
  · rw [if_pos hempty, hempty]
    constructor
    · intro h
      cases h
    · intro h
      rw [HeaderName.fromBytes_eq_some] at h
      exact absurd h name.toList_ne_nil
  · rw [if_neg hempty]
    cases HeaderName.fromBytes (String.ofList (trim token)).toUTF8.data.toList with
    | none | some other => simp

def namedInConnection (headers : HeaderMap) (name : HeaderName) : Bool :=
  (headers.getAll .connection).any fun value =>
    value.toStr.any fun text =>
      (text.toList.splitOn ',').any fun token => (trim token).map Char.toLower == name.text.toList

theorem mem_connectionTokens {value : HeaderValue} {names : List HeaderName}
    (h : connectionTokens value = .ok names) :
    name ∈ names ↔ value.toStr.any (fun text =>
      (text.toList.splitOn ',').any fun token => (trim token).map Char.toLower == name.text.toList) := by
  rw [connectionTokens] at h
  cases htext : value.toStr with
  | none =>
    rw [htext] at h
    cases h
  | some =>
    rw [htext] at h
    rw [Fallible.mem_of_mapM_ok h, Option.any_some, List.any_eq_true]
    apply exists_congr
    intro token
    apply and_congr_right
    intro htoken
    rw [connectionToken_eq_ok fun c hc => ascii_of_toStr htext (mem_of_mem_splitOn htoken hc), beq_iff_eq]
    exact eq_comm

theorem mem_parseConnectionTokens {headers : HeaderMap} {nominated : List HeaderName}
    (h : parseConnectionTokens headers = .ok nominated) :
    name ∈ nominated ↔ namedInConnection headers name = true := by
  rw [parseConnectionTokens] at h
  cases hvalues : (headers.getAll .connection).mapM connectionTokens with
  | error =>
    rw [hvalues] at h
    cases h
  | ok =>
    rw [hvalues] at h
    cases h
    rw [List.mem_flatten, namedInConnection, List.any_eq_true]
    constructor
    · rintro ⟨names, hnames, hname⟩
      obtain ⟨value, hvalue, htokens⟩ := (Fallible.mem_of_mapM_ok hvalues).mp hnames
      exact ⟨value, hvalue, (mem_connectionTokens htokens).mp hname⟩
    · rintro ⟨value, hvalue, hname⟩
      obtain ⟨names, htokens⟩ := Fallible.exists_of_forall₂ (Fallible.mapM_eq_ok_iff.mp hvalues) hvalue
      exact ⟨names, (Fallible.mem_of_mapM_ok hvalues).mpr ⟨value, hvalue, htokens⟩,
        (mem_connectionTokens htokens).mpr hname⟩

/-! ### What is removed and what is generated -/

/-- Headers that say who the client is or how the request is framed; the gateway sets its own. -/
def gatewayHeaders : List HeaderName :=
  [.host, .cookie, .authorization, .forwarded, .xRealIp, .expect, .contentLength]

def websocketKeys : List HeaderName := [.secWebsocketKey, .secWebsocketAccept]

def alwaysRemoved (name : HeaderName) : Bool :=
  fixedHopHeaders.contains name
    || gatewayHeaders.contains name
    || name.startsWith "x-auth-mini-"
    || name.startsWith "x-forwarded-"

def removed (headers : HeaderMap) (websocket : Bool) (protocol : ActualProtocol) (name : HeaderName) :
    Bool :=
  namedInConnection headers name
    || alwaysRemoved name
    || (websocket && protocol == .http2 && websocketKeys.contains name)

def retained (headers : HeaderMap) (websocket : Bool) (protocol : ActualProtocol) : HeaderMap :=
  headers.filter fun entry => !removed headers websocket protocol entry.1

def hostHeader (authority : HeaderValue) : ActualProtocol → HeaderMap
  | .http1 => [(.host, authority)]
  | .http2 => []

def upgradeHeaders : Bool → ActualProtocol → HeaderMap
  | true, .http1 => [(.connection, upgradeValue), (.upgrade, websocketValue)]
  | _, _ => []

def generated (authority client proto userId : HeaderValue) (websocket : Bool)
    (protocol : ActualProtocol) : HeaderMap :=
  hostHeader authority protocol
    ++ [(.xForwardedFor, client), (.xForwardedProto, proto), (.xForwardedHost, authority),
      (.xAuthMiniUserId, userId)]
    ++ upgradeHeaders websocket protocol

def generatedNames (websocket : Bool) (protocol : ActualProtocol) : List HeaderName :=
  (if protocol = .http1 then [.host] else [])
    ++ [.xForwardedFor, .xForwardedProto, .xForwardedHost, .xAuthMiniUserId]
    ++ if websocket = true ∧ protocol = .http1 then [.connection, .upgrade] else []

theorem generated_names (authority client proto userId : HeaderValue) (websocket : Bool)
    (protocol : ActualProtocol) :
    (generated authority client proto userId websocket protocol).map Prod.fst
      = generatedNames websocket protocol := by
  cases protocol <;> cases websocket <;> rfl

theorem generatedNames_nodup (websocket : Bool) (protocol : ActualProtocol) :
    (generatedNames websocket protocol).Nodup := by
  cases protocol <;> cases websocket <;> decide

theorem alwaysRemoved_of_generated {websocket : Bool} {protocol : ActualProtocol}
    (hname : name ∈ generatedNames websocket protocol) : alwaysRemoved name = true := by
  have halways : ∀ name ∈ generatedNames websocket protocol, alwaysRemoved name = true := by
    cases protocol <;> cases websocket <;> decide
  exact halways name hname

theorem generated_userId (authority client proto userId : HeaderValue) (websocket : Bool)
    (protocol : ActualProtocol) :
    Multimap.getAll (generated authority client proto userId websocket protocol) .xAuthMiniUserId
      = [userId] := by
  cases protocol <;> cases websocket <;> rfl

theorem not_generated_of_websocketKeys {websocket : Bool} {protocol : ActualProtocol}
    (hname : name ∈ websocketKeys) : name ∉ generatedNames websocket protocol := by
  have hall : ∀ name ∈ websocketKeys, name ∉ generatedNames websocket protocol := by
    cases protocol <;> cases websocket <;> decide
  exact hall name hname

theorem getAll_retained (headers : HeaderMap) (websocket : Bool) (protocol : ActualProtocol)
    (name : HeaderName) :
    (retained headers websocket protocol).getAll name
      = if removed headers websocket protocol name then [] else headers.getAll name := by
  have hfilter := Multimap.getAll_filter_keys (m := headers) (k := name)
    fun name => !removed headers websocket protocol name
  rw [retained, hfilter]
  cases removed headers websocket protocol name with
  | true | false => rfl

theorem getAll_removeClientHeaders {headers : HeaderMap} {nominated : List HeaderName}
    (h : parseConnectionTokens headers = .ok nominated) (name : HeaderName) :
    ((removeClientHeaders headers nominated).remove .host).getAll name
      = if namedInConnection headers name || alwaysRemoved name then [] else headers.getAll name := by
  simp only [removeClientHeaders, removePrefixed, removeFixedHopHeaders, Multimap.getAll_remove,
    Multimap.getAll_removeWhere, Multimap.getAll_removeAll, mem_parseConnectionTokens h, ← ite_or]
  congr 1
  apply propext
  simp only [alwaysRemoved, gatewayHeaders, fixedHopHeaders, Bool.or_eq_true, List.contains_iff_mem,
    List.mem_cons, List.not_mem_nil, or_false]
  grind

/-! ### The result -/

def ClientIp.value (clientIp : ClientIp) : HeaderValue := ⟨clientIp.text.toUTF8.data.toList, clientIp.isValue⟩

theorem headerValueOrInternal_clientIp (clientIp : ClientIp) :
    headerValueOrInternal clientIp.text = .ok clientIp.value := by
  rw [headerValueOrInternal, fromStr, fromBytes, dif_pos clientIp.isValue]
  rfl

theorem headerValueOrInternal_cases (text : String) :
    (∃ value, headerValueOrInternal text = .ok value ∧ value.bytes = text.toUTF8.data.toList)
      ∨ fromStr text = none ∧ headerValueOrInternal text = .error .internal := by
  rw [headerValueOrInternal, fromStr, fromBytes]
  split_ifs with hvalue
  · exact Or.inl ⟨_, rfl, rfl⟩
  · exact Or.inr ⟨rfl, rfl⟩

theorem identityHeaderValue_of_safe {text : String} (hsafe : isSafeHeaderValue text = true) :
    ∃ value, identityHeaderValue text = .ok value ∧ value.bytes = text.toUTF8.data.toList := by
  have hvalue : text.toUTF8.data.toList.all isHeaderValueByte = true := by
    rw [isSafeHeaderValue, List.all_eq_true] at hsafe
    rw [List.all_eq_true]
    intro byte hbyte
    rw [isHeaderValueByte, hsafe byte hbyte, Bool.true_or]
  refine ⟨⟨_, hvalue⟩, ?_, rfl⟩
  rw [identityHeaderValue, hsafe, fromStr, fromBytes, dif_pos hvalue]
  rfl

theorem setHost_eq (headers : HeaderMap) (authority : HeaderValue) (protocol : ActualProtocol) :
    setHost headers authority protocol
      = (headers.remove .host).insertAll (hostHeader authority protocol) := by
  cases protocol with
  | http1 => exact Multimap.insert_remove.symm
  | http2 => rfl

def dropWebsocketKeys (headers : HeaderMap) (websocket : Bool) (protocol : ActualProtocol) : HeaderMap :=
  if websocket = true ∧ protocol = .http2 then
    (headers.remove .secWebsocketKey).remove .secWebsocketAccept
  else headers

theorem setWebsocket_eq (headers : HeaderMap) (websocket : Bool) (protocol : ActualProtocol) :
    setWebsocket headers websocket protocol
      = dropWebsocketKeys (headers.insertAll (upgradeHeaders websocket protocol)) websocket protocol := by
  cases protocol <;> cases websocket <;> rfl

theorem getAll_dropWebsocketKeys (headers : HeaderMap) (websocket : Bool) (protocol : ActualProtocol)
    (name : HeaderName) :
    (dropWebsocketKeys headers websocket protocol).getAll name
      = if websocket && protocol == .http2 && websocketKeys.contains name then []
        else headers.getAll name := by
  rw [dropWebsocketKeys]
  by_cases hdrop : websocket = true ∧ protocol = .http2
  · rw [if_pos hdrop, Multimap.getAll_remove, Multimap.getAll_remove, ← ite_or, hdrop.1, hdrop.2]
    congr 1
    simp [websocketKeys, or_comm]
  · rw [if_neg hdrop, if_neg]
    simp only [Bool.and_eq_true, beq_iff_eq, not_and]
    intro h
    exact absurd h hdrop

section

variable {headers : HeaderMap} {authority : HeaderValue} {clientIp : ClientIp} {publicProto : String}
  {identity : ProxyIdentity} {websocket : Bool} {protocol : ActualProtocol}
  {nominated : List HeaderName} {proto userId : HeaderValue}

theorem sanitizeRequestHeaders_eq_ok (hconnection : parseConnectionTokens headers = .ok nominated)
    (hproto : headerValueOrInternal publicProto = .ok proto)
    (huser : identityHeaderValue identity.userId = .ok userId) :
    sanitizeRequestHeaders headers authority clientIp publicProto identity websocket protocol
      = .ok (dropWebsocketKeys
          (((removeClientHeaders headers nominated).remove .host).insertAll
            (generated authority clientIp.value proto userId websocket protocol)) websocket protocol) := by
  rw [sanitizeRequestHeaders, hconnection, headerValueOrInternal_clientIp, hproto, huser, generated,
    Multimap.insertAll_append, Multimap.insertAll_append, ← setHost_eq, ← setWebsocket_eq]
  rfl

theorem sanitizeRequestHeaders_same (hconnection : parseConnectionTokens headers = .ok nominated)
    (hproto : headerValueOrInternal publicProto = .ok proto)
    (huser : identityHeaderValue identity.userId = .ok userId) :
    ∃ sent, sanitizeRequestHeaders headers authority clientIp publicProto identity websocket protocol
        = .ok sent
      ∧ sent.Same (retained headers websocket protocol
          ++ generated authority clientIp.value proto userId websocket protocol) := by
  refine ⟨_, sanitizeRequestHeaders_eq_ok hconnection hproto huser, ?_⟩
  intro name
  have habsent : ∀ entry ∈ generated authority clientIp.value proto userId websocket protocol,
      ((removeClientHeaders headers nominated).remove .host).getAll entry.1 = [] := by
    intro entry hentry
    have hname := generated_names authority clientIp.value proto userId websocket protocol ▸
      List.mem_map_of_mem hentry
    rw [getAll_removeClientHeaders hconnection, alwaysRemoved_of_generated hname, Bool.or_true,
      if_pos rfl]
  have hnodup : ((generated authority clientIp.value proto userId websocket protocol).map
      Prod.fst).Nodup := generated_names .. ▸ generatedNames_nodup websocket protocol
  rw [Multimap.getAll_append, getAll_retained, getAll_dropWebsocketKeys,
    Multimap.getAll_insertAll hnodup habsent, getAll_removeClientHeaders hconnection, removed]
  cases hkeys : websocket && protocol == .http2 && websocketKeys.contains name with
  | true =>
    have hnone : Multimap.getAll (generated authority clientIp.value proto userId websocket protocol) name
        = [] := by
      apply Multimap.getAll_eq_nil_of_not_mem
      rw [generated_names]
      apply not_generated_of_websocketKeys
      exact List.contains_iff_mem.mp (Bool.and_eq_true_iff.mp hkeys).2
    rw [hnone, Bool.or_true]
    rfl
  | false =>
    rw [Bool.or_false]
    rfl

end

/-- **Upstream headers.** When the values of `Connection` can be read, the request is refused only if the
identity or the protocol cannot stand in a header. Otherwise the headers sent upstream are exactly the
retained ones and those of the gateway, with the identity as the one value of `x-auth-mini-user-id`, and
any request with the same retained headers is sent with the same headers. -/
theorem upstream_headers_exact (headers : HeaderMap) (authority : HeaderValue) (clientIp : ClientIp)
    (publicProto : String) (identity : ProxyIdentity) (websocket : Bool) (protocol : ActualProtocol)
    (hconnection : ∃ nominated, parseConnectionTokens headers = .ok nominated) :
    (isSafeHeaderValue identity.userId = false ∨ fromStr publicProto = none →
        sanitizeRequestHeaders headers authority clientIp publicProto identity websocket protocol
          = .error .internal)
      ∧ (isSafeHeaderValue identity.userId = true → fromStr publicProto ≠ none →
        ∃ sent proto userId,
          sanitizeRequestHeaders headers authority clientIp publicProto identity websocket protocol
              = .ok sent
            ∧ proto.bytes = publicProto.toUTF8.data.toList
            ∧ userId.bytes = identity.userId.toUTF8.data.toList
            ∧ sent.Same (retained headers websocket protocol
                ++ generated authority clientIp.value proto userId websocket protocol)
            ∧ sent.getAll .xAuthMiniUserId = [userId]
            ∧ ∀ headers' nominated', parseConnectionTokens headers' = .ok nominated' →
                (retained headers' websocket protocol).Same (retained headers websocket protocol) →
                ∃ sent', sanitizeRequestHeaders headers' authority clientIp publicProto identity websocket
                    protocol = .ok sent'
                  ∧ sent'.Same sent) := by
  obtain ⟨nominated, hnominated⟩ := hconnection
  constructor
  · intro hinvalid
    rw [sanitizeRequestHeaders, hnominated, headerValueOrInternal_clientIp]
    rcases headerValueOrInternal_cases publicProto with ⟨proto, hproto, -⟩ | ⟨-, hproto⟩
    · rcases hinvalid with hunsafe | hnone
      · rw [hproto, identityHeaderValue, if_pos hunsafe]
        rfl
      · rw [headerValueOrInternal, hnone] at hproto
        cases hproto
    · rw [hproto]
      rfl
  · intro hsafe hvalue
    obtain ⟨userId, huser, huserBytes⟩ := identityHeaderValue_of_safe hsafe
    rcases headerValueOrInternal_cases publicProto with ⟨proto, hproto, hprotoBytes⟩ | ⟨hnone, -⟩
    · obtain ⟨sent, hsent, hsame⟩ := sanitizeRequestHeaders_same hnominated hproto huser
      refine ⟨sent, proto, userId, hsent, hprotoBytes, huserBytes, hsame, ?_, ?_⟩
      · have hremoved : removed headers websocket protocol .xAuthMiniUserId = true := by
          have halways : alwaysRemoved .xAuthMiniUserId = true := by decide
          rw [removed, halways, Bool.or_true, Bool.true_or]
        rw [hsame .xAuthMiniUserId, Multimap.getAll_append, getAll_retained, if_pos hremoved,
          generated_userId, List.nil_append]
      · intro headers' nominated' hnominated' hretained
        obtain ⟨sent', hsent', hsame'⟩ := sanitizeRequestHeaders_same hnominated' hproto huser
        refine ⟨sent', hsent', ?_⟩
        intro name
        rw [hsame' name, hsame name, Multimap.getAll_append, Multimap.getAll_append, hretained name]
    · exact absurd hnone hvalue

def sampleText (text : String) (h : text.toUTF8.data.toList.all isHeaderValueByte = true) : HeaderValue :=
  ⟨text.toUTF8.data.toList, h⟩

def sampleHeaders : HeaderMap :=
  [(⟨"accept", by decide⟩, sampleText "text/html" (by decide)),
    (.connection, sampleText "close, X-Debug" (by decide)),
    (⟨"x-debug", by decide⟩, sampleText "1" (by decide)),
    (.xAuthMiniUserId, sampleText "mallory" (by decide)),
    (⟨"accept", by decide⟩, sampleText "*/*" (by decide))]

theorem upstream_headers_exact_sample :
    ∃ sent userId,
      sanitizeRequestHeaders sampleHeaders (sampleText "gateway" (by decide)) ⟨"192.0.2.1", by decide⟩
          "https" ⟨"alice"⟩ false .http1 = .ok sent
        ∧ sent.getAll .xAuthMiniUserId = [userId]
        ∧ userId.bytes = "alice".toUTF8.data.toList := by
  have hconnection : ∃ nominated, parseConnectionTokens sampleHeaders = .ok nominated :=
    ⟨[⟨"close", by decide⟩, ⟨"x-debug", by decide⟩], by decide⟩
  obtain ⟨-, hsent⟩ := upstream_headers_exact sampleHeaders (sampleText "gateway" (by decide))
    ⟨"192.0.2.1", by decide⟩ "https" ⟨"alice"⟩ false .http1 hconnection
  obtain ⟨sent, -, userId, hok, -, hbytes, -, hvalue, -⟩ := hsent (by decide) (by decide)
  exact ⟨sent, userId, hok, hvalue, hbytes⟩

end AuthMiniGateway
