import AuthMiniGateway.Lib.CookieJar
import AuthMiniGateway.Proof.Sanitizing
import AuthMiniGateway.ResponseHead

namespace AuthMiniGateway

open CookieJar (isBlank equalsSign semicolon)

def gatewayCookieNames : List (List UInt8) :=
  [sessionCookie.toUTF8.data.toList, loginStateCookie.toUTF8.data.toList]

/-- Blanks, a token that is not a name of the gateway, and an equals sign. -/
def NamesApplicationCookie (bytes : List UInt8) : Prop :=
  ∃ blanks name rest, bytes = blanks ++ (name ++ equalsSign :: rest) ∧
    (∀ byte ∈ blanks, isBlank byte = true) ∧ name ≠ [] ∧
    (∀ byte ∈ name, isTokenByte byte = true) ∧ name ∉ gatewayCookieNames

/-! ### The grammar of the filter -/

theorem isTokenByte_separates {byte : UInt8} (hbyte : isTokenByte byte = true) :
    isBlank byte = false ∧ byte ≠ semicolon ∧ byte ≠ equalsSign := by
  have hall : ∀ n < 256, isTokenByte (UInt8.ofNat n) = true →
      isBlank (UInt8.ofNat n) = false ∧ UInt8.ofNat n ≠ semicolon ∧ UInt8.ofNat n ≠ equalsSign := by
    decide +kernel
  have hn := hall byte.toNat byte.toNat_lt
  rw [UInt8.ofNat_toNat] at hn
  exact hn hbyte

theorem not_mem_gatewayCookieNames {name : List UInt8} :
    name ∉ gatewayCookieNames ↔
      (decide (name ≠ "amg_session".toUTF8.data.toList)
        && decide (name ≠ "amg_login_state".toUTF8.data.toList)) = true := by
  simp [gatewayCookieNames, sessionCookie, loginStateCookie]

def filteredPair (bytes : List UInt8) : List UInt8 := (bytes.dropWhile isBlank).takeWhile (· ≠ semicolon)

def filteredName (bytes : List UInt8) : List UInt8 := (filteredPair bytes).takeWhile (· ≠ equalsSign)

theorem isAllowedApplicationCookie_eq (value : HeaderValue) :
    isAllowedApplicationCookie value = true ↔
      equalsSign ∈ filteredPair value.bytes ∧ filteredName value.bytes ≠ [] ∧
        (∀ byte ∈ filteredName value.bytes, isTokenByte byte = true) ∧
        filteredName value.bytes ∉ gatewayCookieNames := by
  have hunfold : isAllowedApplicationCookie value =
      if (filteredPair value.bytes).contains equalsSign then
        if filteredName value.bytes = [] ∨ (filteredName value.bytes).all isTokenByte = false then false
        else decide (filteredName value.bytes ≠ "amg_session".toUTF8.data.toList)
          && decide (filteredName value.bytes ≠ "amg_login_state".toUTF8.data.toList)
      else false := rfl
  rw [hunfold]
  split_ifs with hequal hname
  · rw [← Bool.not_eq_true, List.all_eq_true] at hname
    exact ⟨nofun, fun ⟨_, hne, htoken, _⟩ => absurd htoken (hname.resolve_left hne)⟩
  · rw [not_or, Bool.not_eq_false, List.all_eq_true] at hname
    rw [← not_mem_gatewayCookieNames]
    exact ⟨fun hother => ⟨List.contains_iff_mem.mp hequal, hname.1, hname.2, hother⟩,
      fun h => h.2.2.2⟩
  · exact ⟨nofun, fun ⟨hmem, _⟩ => absurd (List.contains_iff_mem.mpr hmem) hequal⟩

theorem exists_value {pair : List UInt8} (hmem : equalsSign ∈ pair) :
    ∃ value, pair = pair.takeWhile (· ≠ equalsSign) ++ equalsSign :: value := by
  have hsplit : pair.takeWhile (· ≠ equalsSign) ++ pair.dropWhile (· ≠ equalsSign) = pair :=
    List.takeWhile_append_dropWhile
  cases hdrop : pair.dropWhile (· ≠ equalsSign) with
  | nil => exact absurd (List.dropWhile_eq_nil_iff.mp hdrop equalsSign hmem) (by decide)
  | cons byte value =>
    have hbyte : byte = equalsSign := by
      have hhead := List.head?_dropWhile_not (fun byte : UInt8 => decide (byte ≠ equalsSign)) pair
      rw [hdrop] at hhead
      simpa using hhead
    rw [hdrop, hbyte] at hsplit
    exact ⟨value, hsplit.symm⟩

theorem exists_filteredName {bytes : List UInt8} (hmem : equalsSign ∈ filteredPair bytes) :
    ∃ rest, bytes = bytes.takeWhile isBlank ++ (filteredName bytes ++ equalsSign :: rest) := by
  obtain ⟨value, hpair⟩ := exists_value hmem
  refine ⟨value ++ (bytes.dropWhile isBlank).dropWhile (· ≠ semicolon), ?_⟩
  calc bytes = bytes.takeWhile isBlank ++ bytes.dropWhile isBlank :=
        List.takeWhile_append_dropWhile.symm
    _ = bytes.takeWhile isBlank
          ++ (filteredPair bytes ++ (bytes.dropWhile isBlank).dropWhile (· ≠ semicolon)) :=
        congrArg (bytes.takeWhile isBlank ++ ·) List.takeWhile_append_dropWhile.symm
    _ = bytes.takeWhile isBlank ++ (filteredName bytes
          ++ equalsSign :: (value ++ (bytes.dropWhile isBlank).dropWhile (· ≠ semicolon))) := by
        conv_lhs => rw [hpair]
        rw [← filteredName, List.append_assoc, List.cons_append]

section

variable {blanks name : List UInt8} (hblanks : ∀ byte ∈ blanks, isBlank byte = true) (hne : name ≠ [])
  (htoken : ∀ byte ∈ name, isTokenByte byte = true)

include hblanks hne htoken

theorem filteredPair_eq (rest : List UInt8) :
    filteredPair (blanks ++ (name ++ equalsSign :: rest)) =
      name ++ equalsSign :: rest.takeWhile (· ≠ semicolon) := by
  have hstart : (name ++ equalsSign :: rest).dropWhile isBlank = name ++ equalsSign :: rest := by
    obtain ⟨byte, name, rfl⟩ := List.exists_cons_of_ne_nil hne
    have hbyte := (isTokenByte_separates (htoken byte List.mem_cons_self)).1
    rw [List.cons_append, List.dropWhile_cons_of_neg (by rw [hbyte]; decide)]
  rw [filteredPair, List.dropWhile_append_of_pos hblanks, hstart,
    List.takeWhile_append_of_pos fun byte hbyte => by
      simpa using (isTokenByte_separates (htoken byte hbyte)).2.1]
  rw [List.takeWhile_cons_of_pos (by decide)]

theorem filteredName_eq (rest : List UInt8) :
    filteredName (blanks ++ (name ++ equalsSign :: rest)) = name := by
  rw [filteredName, filteredPair_eq hblanks hne htoken,
    List.takeWhile_append_of_pos fun byte hbyte => by
      simpa using (isTokenByte_separates (htoken byte hbyte)).2.2]
  rw [List.takeWhile_cons_of_neg (by decide), List.append_nil]

end

theorem isAllowedApplicationCookie_iff (value : HeaderValue) :
    isAllowedApplicationCookie value = true ↔ NamesApplicationCookie value.bytes := by
  rw [isAllowedApplicationCookie_eq]
  constructor
  · rintro ⟨hmem, hne, htoken, hother⟩
    obtain ⟨rest, hbytes⟩ := exists_filteredName hmem
    exact ⟨value.bytes.takeWhile isBlank, filteredName value.bytes, rest, hbytes,
      fun byte hbyte => List.mem_takeWhile_imp hbyte, hne, htoken, hother⟩
  · rintro ⟨blanks, name, rest, hbytes, hblanks, hne, htoken, hother⟩
    rw [hbytes, filteredName_eq hblanks hne htoken, filteredPair_eq hblanks hne htoken]
    exact ⟨List.mem_append_right _ List.mem_cons_self, hne, htoken, hother⟩

theorem NamesApplicationCookie.parse {bytes : List UInt8} (h : NamesApplicationCookie bytes)
    {received : CookieJar.Received} (hparse : CookieJar.parse bytes = some received) :
    received.name ∉ gatewayCookieNames := by
  obtain ⟨blanks, name, rest, rfl, hblanks, -, htoken, hother⟩ := h
  rw [CookieJar.name_of_parse hblanks (fun byte hbyte => isTokenByte_separates (htoken byte hbyte)) hparse]
  exact hother

/-! ### The passes -/

def applicationCookies (headers : HeaderMap) : List HeaderValue :=
  if namedInConnection headers .setCookie then []
  else (headers.getAll .setCookie).filter isAllowedApplicationCookie

theorem getAll_foldl_appendValue (values : List HeaderValue) (headers : HeaderMap) (name : HeaderName) :
    (values.foldl (fun headers value =>
        if isAllowedApplicationCookie value then appendValue headers .setCookie value else headers)
      headers).getAll name =
      headers.getAll name
        ++ if name = .setCookie then values.filter isAllowedApplicationCookie else [] := by
  induction values generalizing headers with
  | nil => simp
  | cons value _ ih =>
    rw [List.foldl_cons, ih, List.filter_cons]
    by_cases hallowed : isAllowedApplicationCookie value = true
    · rw [if_pos hallowed, if_pos hallowed, appendValue, Multimap.getAll_append,
        Multimap.getAll_singleton]
      by_cases hname : name = .setCookie
      · simp [hname]
      · simp [hname, Ne.symm hname]
    · rw [if_neg hallowed, if_neg hallowed]

theorem getAll_filterApplicationCookies (headers : HeaderMap) (name : HeaderName) :
    (filterApplicationCookies headers).getAll name =
      if name = .setCookie then (headers.getAll .setCookie).filter isAllowedApplicationCookie
      else headers.getAll name := by
  rw [filterApplicationCookies, getAll_foldl_appendValue, Multimap.getAll_remove]
  by_cases hname : name = .setCookie
  · simp [hname]
  · simp [hname]

variable {headers : HeaderMap} {renewal : Option String}

theorem getAll_removeUpstreamHeaders {nominated : List HeaderName}
    (h : parseConnectionTokens headers = .ok nominated) (name : HeaderName) :
    (removeUpstreamHeaders headers nominated).getAll name =
      if name = .setCookie then applicationCookies headers
      else if namedInConnection headers name || fixedHopHeaders.contains name
          || name == .contentLength || name.startsWith "x-auth-mini-" then []
      else headers.getAll name := by
  have hrest : ∀ name, (removePrefixed
      ((removeFixedHopHeaders (headers.removeAll nominated)).remove .contentLength)
        "x-auth-mini-").getAll name =
      if namedInConnection headers name || fixedHopHeaders.contains name
          || name == .contentLength || name.startsWith "x-auth-mini-" then []
      else headers.getAll name := by
    intro name
    simp only [removePrefixed, removeFixedHopHeaders, Multimap.getAll_remove,
      Multimap.getAll_removeWhere, Multimap.getAll_removeAll, mem_parseConnectionTokens h, ← ite_or]
    congr 1
    apply propext
    simp only [Bool.or_eq_true, List.contains_iff_mem, beq_iff_eq]
    tauto
  rw [removeUpstreamHeaders, getAll_filterApplicationCookies]
  by_cases hcookie : name = .setCookie
  · have hkept : (fixedHopHeaders.contains HeaderName.setCookie = false
        ∧ (HeaderName.setCookie == HeaderName.contentLength) = false)
        ∧ HeaderName.setCookie.startsWith "x-auth-mini-" = false := by decide
    rw [if_pos hcookie, if_pos hcookie, hrest, hkept.1.1, hkept.1.2, hkept.2, Bool.or_false,
      Bool.or_false, Bool.or_false, applicationCookies]
    split_ifs <;> rfl
  · rw [if_neg hcookie, if_neg hcookie, hrest]

theorem getAll_setUpgrade (headers : HeaderMap) :
    (setUpgrade headers).getAll .setCookie = headers.getAll .setCookie := by
  have hne : HeaderName.setCookie ≠ .upgrade ∧ HeaderName.setCookie ≠ .connection := by decide
  rw [setUpgrade, Multimap.getAll_insert, if_neg hne.1, Multimap.getAll_insert, if_neg hne.2]

theorem getAll_appendRenewal {sent : HeaderMap} (h : appendRenewal headers renewal = .ok sent) :
    ∃ own, renewal.toList.mapM HeaderValue.fromStr = some own ∧
      sent.getAll .setCookie = headers.getAll .setCookie ++ own := by
  cases renewal with
  | none =>
    cases h
    exact ⟨[], rfl, (List.append_nil _).symm⟩
  | some cookie =>
    rw [appendRenewal] at h
    cases hvalue : HeaderValue.fromStr cookie with
    | none =>
      rw [hvalue] at h
      cases h
    | some value =>
      rw [hvalue] at h
      cases h
      refine ⟨[value], ?_, ?_⟩
      · simp [hvalue]
      · rw [appendValue, Multimap.getAll_append, Multimap.getAll_singleton, if_pos rfl]

theorem getAll_sanitizeResponseHead {sent : HeaderMap} {websocket : Bool}
    (h : sanitizeResponseHead headers renewal websocket = .ok sent) :
    ∃ own, renewal.toList.mapM HeaderValue.fromStr = some own ∧
      sent.getAll .setCookie = applicationCookies headers ++ own := by
  rw [sanitizeResponseHead, parseResponseConnectionTokens] at h
  cases hnominated : parseConnectionTokens headers with
  | error =>
    rw [hnominated] at h
    cases h
  | ok nominated =>
    rw [hnominated] at h
    have hcookies : (removeUpstreamHeaders headers nominated).getAll .setCookie =
        applicationCookies headers := by
      rw [getAll_removeUpstreamHeaders hnominated, if_pos rfl]
    obtain ⟨own, hown, hsent⟩ := getAll_appendRenewal h
    refine ⟨own, hown, ?_⟩
    rw [hsent]
    cases websocket with
    | true => rw [if_pos rfl, getAll_setUpgrade, hcookies]
    | false => rw [if_neg nofun, hcookies]

theorem sanitizeResponseHead_isOk (websocket : Bool)
    (hconnection : ∃ nominated, parseConnectionTokens headers = .ok nominated)
    (hrenewal : ∀ cookie, renewal = some cookie → HeaderValue.fromStr cookie ≠ none) :
    ∃ sent, sanitizeResponseHead headers renewal websocket = .ok sent := by
  obtain ⟨nominated, hnominated⟩ := hconnection
  rw [sanitizeResponseHead, parseResponseConnectionTokens, hnominated]
  cases renewal with
  | none => exact ⟨_, rfl⟩
  | some cookie =>
    obtain ⟨value, hvalue⟩ := Option.ne_none_iff_exists'.mp (hrenewal cookie rfl)
    simp only [appendRenewal, hvalue]
    exact ⟨_, rfl⟩

theorem allowed_of_mem_applicationCookies {value : HeaderValue}
    (hvalue : value ∈ applicationCookies headers) : NamesApplicationCookie value.bytes := by
  rw [applicationCookies] at hvalue
  split_ifs at hvalue
  · cases hvalue
  · exact (isAllowedApplicationCookie_iff value).mp (List.mem_filter.mp hvalue).2

/-- **Cookies of a response.** The response is passed on when its `Connection` can be read and the
renewal can stand in a header. It then has the cookies of the upstream whose name is a token other than
those of the gateway, in their order, or none of them when the upstream named `Set-Cookie` in
`Connection`, and after them the renewal. However a user agent scopes what it receives, the cookies of
the upstream leave those of the gateway in its jar as they were. -/
theorem application_cookies_filtered (headers : HeaderMap) (renewal : Option String) (websocket : Bool) :
    (∀ sent, sanitizeResponseHead headers renewal websocket = .ok sent →
      ∃ own, renewal.toList.mapM HeaderValue.fromStr = some own ∧
        sent.getAll .setCookie =
          (if namedInConnection headers .setCookie then []
            else (headers.getAll .setCookie).filter isAllowedApplicationCookie) ++ own) ∧
    (∀ value, isAllowedApplicationCookie value = true ↔ NamesApplicationCookie value.bytes) ∧
    (∀ (S : Type) (agent : CookieJar.Agent S) (jar : List (CookieJar.Cookie S)),
      CookieJar.named (((applicationCookies headers).map HeaderValue.bytes).foldl
          (CookieJar.receive agent) jar) gatewayCookieNames =
        CookieJar.named jar gatewayCookieNames) ∧
    ((∃ nominated, parseConnectionTokens headers = .ok nominated) →
      (∀ cookie, renewal = some cookie → HeaderValue.fromStr cookie ≠ none) →
        ∃ sent, sanitizeResponseHead headers renewal websocket = .ok sent) := by
  refine ⟨fun sent hsent => getAll_sanitizeResponseHead hsent, isAllowedApplicationCookie_iff,
    fun S agent jar => ?_, sanitizeResponseHead_isOk websocket⟩
  apply CookieJar.named_foldl_receive
  intro bytes hbytes received hparse
  obtain ⟨value, hvalue, rfl⟩ := List.mem_map.mp hbytes
  exact (allowed_of_mem_applicationCookies hvalue).parse hparse

def sampleCookies : HeaderMap :=
  [(.setCookie, sampleText "theme=dark; Path=/" (by decide)),
    (.setCookie, sampleText "\tamg_session=forged" (by decide))]

theorem application_cookies_filtered_forged :
    ∃ sent, sanitizeResponseHead sampleCookies (some "amg_session=s1.mac") false = .ok sent ∧
      sent.getAll .setCookie = [sampleText "theme=dark; Path=/" (by decide),
        sampleText "amg_session=s1.mac" (by decide)] := by
  obtain ⟨hcookies, -, -, hsent⟩ :=
    application_cookies_filtered sampleCookies (some "amg_session=s1.mac") false
  obtain ⟨sent, hok⟩ := hsent ⟨[], by decide⟩ (fun cookie hcookie => by
    cases hcookie
    decide)
  obtain ⟨own, hown, hvalues⟩ := hcookies sent hok
  have howned : own = [sampleText "amg_session=s1.mac" (by decide)] := by
    have hread : (some "amg_session=s1.mac").toList.mapM HeaderValue.fromStr =
        some [sampleText "amg_session=s1.mac" (by decide)] := by decide
    exact Option.some_inj.mp (hown.symm.trans hread)
  have hkept : (if namedInConnection sampleCookies .setCookie then []
      else (sampleCookies.getAll .setCookie).filter isAllowedApplicationCookie) =
      [sampleText "theme=dark; Path=/" (by decide)] := by decide
  rw [hkept, howned] at hvalues
  exact ⟨sent, hok, hvalues⟩

end AuthMiniGateway
