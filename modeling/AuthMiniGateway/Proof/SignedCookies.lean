import AuthMiniGateway.Proof.CookieText
import AuthMiniGateway.Proof.Lifetimes
import AuthMiniGateway.Proof.PercentDecoding

namespace AuthMiniGateway

/-! ### Escaping -/

def escapeByte (byte : UInt8) : List UInt8 :=
  if isUnreservedByte byte then [byte]
  else [37, UInt8.ofNat (upperHex (byte.toNat / 16)).toNat, UInt8.ofNat (upperHex (byte.toNat % 16)).toNat]

def escapeChars (byte : UInt8) : List Char :=
  if isUnreservedByte byte then [Char.ofNat byte.toNat]
  else ['%', upperHex (byte.toNat / 16), upperHex (byte.toNat % 16)]

theorem percentEncode_toList (value : String) :
    (percentEncode value).toList = (bytesOf value).flatMap escapeChars := by
  rw [percentEncode, String.toList_ofList]
  rfl

theorem upperHex_cases : ∀ n < 16, hexDigit (UInt8.ofNat (upperHex n).toNat) = some n ∧
    (upperHex n).toNat < 128 ∧ upperHex n ≠ ';' ∧ isWhiteSpace (upperHex n) = false := by
  decide

theorem isUnreservedByte_cases {byte : UInt8} (h : isUnreservedByte byte = true) :
    (byte.toNat < 128 ∧ (Char.ofNat byte.toNat).toNat = byte.toNat) ∧ byte ≠ 37 ∧
      Char.ofNat byte.toNat ≠ ';' ∧ isWhiteSpace (Char.ofNat byte.toNat) = false := by
  have hall : ∀ n < 256, isUnreservedByte (UInt8.ofNat n) = true →
      (n < 128 ∧ (Char.ofNat n).toNat = n) ∧ UInt8.ofNat n ≠ 37 ∧ Char.ofNat n ≠ ';' ∧
        isWhiteSpace (Char.ofNat n) = false := by
    decide +kernel
  have hbyte := hall byte.toNat byte.toNat_lt
  rw [UInt8.ofNat_toNat] at hbyte
  exact hbyte h

theorem escapeChars_plain (byte : UInt8) :
    ∀ c ∈ escapeChars byte, c ≠ ';' ∧ isWhiteSpace c = false := by
  have hlt := byte.toNat_lt
  unfold escapeChars
  split
  · next hkept =>
    intro c hc
    rw [List.mem_singleton.mp hc]
    exact (isUnreservedByte_cases hkept).2.2
  · intro c hc
    simp only [List.mem_cons, List.not_mem_nil, or_false] at hc
    rcases hc with rfl | rfl | rfl
    · decide
    · exact (upperHex_cases _ (by omega)).2.2
    · exact (upperHex_cases _ (by omega)).2.2

theorem mem_percentEncode {value : String} {c : Char} (hc : c ∈ (percentEncode value).toList) :
    c ≠ ';' ∧ isWhiteSpace c = false := by
  rw [percentEncode_toList] at hc
  obtain ⟨byte, _, hmem⟩ := List.mem_flatMap.mp hc
  exact escapeChars_plain byte c hmem

theorem utf8_escapeChars (byte : UInt8) :
    (escapeChars byte).flatMap String.utf8EncodeChar = escapeByte byte := by
  have hlt := byte.toNat_lt
  have hencode (c : Char) (hc : c.toNat < 128) :
      String.utf8EncodeChar c = [UInt8.ofNat c.toNat] := by
    rcases Utf8.encodeChar_cases c with ⟨_, hbytes⟩ | ⟨hwide, _⟩
    · exact hbytes
    · omega
  unfold escapeChars escapeByte
  split
  · next hkept =>
    obtain ⟨hascii, hchar⟩ := (isUnreservedByte_cases hkept).1
    rw [List.flatMap_singleton, hencode _ (by omega), hchar, UInt8.ofNat_toNat]
  · simp only [List.flatMap_cons, List.flatMap_nil, List.append_nil]
    rw [hencode '%' (by decide), hencode _ (upperHex_cases _ (by omega)).2.1,
      hencode _ (upperHex_cases _ (by omega)).2.1]
    rfl

theorem bytesOf_percentEncode (value : String) :
    bytesOf (percentEncode value) = (bytesOf value).flatMap escapeByte := by
  rw [bytesOf, Utf8.data_toList, percentEncode_toList, List.flatMap_assoc]
  congr 1
  funext byte
  exact utf8_escapeChars byte

theorem escapeByte_reads (byte : UInt8) :
    (∃ high low, escapeByte byte = [37, high, low] ∧ fromStrRadix16 high low = some byte) ∨
      escapeByte byte = [byte] ∧ byte ≠ 37 ∧ (false = true → byte ≠ 43) := by
  have hlt := byte.toNat_lt
  by_cases hkept : isUnreservedByte byte = true
  · refine .inr ⟨by rw [escapeByte, if_pos hkept], (isUnreservedByte_cases hkept).2.1, nofun⟩
  · refine .inl ⟨_, _, by rw [escapeByte, if_neg hkept], ?_⟩
    have hhigh := (upperHex_cases (byte.toNat / 16) (by omega)).1
    have hlow := (upperHex_cases (byte.toNat % 16) (by omega)).1
    refine (hexByte_sound ?_).2
    rw [hexByte, hhigh, Option.bind_some, hlow, Option.map_some, Nat.div_add_mod, UInt8.ofNat_toNat]

theorem percentDecode_percentEncode (value : String) :
    percentDecode (percentEncode value) = some value := by
  rw [percentDecode_eq, decodeText_eq_some_iff, bytesOf_percentEncode]
  exact Percent.reads_flatMap escapeByte_reads (bytesOf value)

/-! ### Cookies of a name -/

def IsCookieOf (name : String) (part : List Char) : Prop :=
  ∃ value, splitOnce '=' (trim part) = some (name.toList, value)

theorem findCookie_first {name : String} {before after : List (List Char)} {part value : List Char}
    (hbefore : ∀ earlier ∈ before, ¬ IsCookieOf name earlier)
    (hpart : splitOnce '=' (trim part) = some (name.toList, value)) :
    findCookie name (before ++ part :: after) = percentDecode (String.ofList value) := by
  induction before with
  | nil => simp only [List.nil_append, findCookie, hpart, if_true]
  | cons earlier _ ih =>
    have hrest := ih fun later hlater => hbefore later (List.mem_cons_of_mem _ hlater)
    have hnot := hbefore earlier List.mem_cons_self
    rw [List.cons_append, findCookie]
    cases hsplit : splitOnce '=' (trim earlier) with
    | none => exact hrest
    | some pair =>
      have hne : pair.1 ≠ name.toList := fun heq => hnot ⟨pair.2, by rw [hsplit, ← heq]⟩
      simp only [if_neg hne]
      exact hrest

theorem exists_first_of_findCookie {name found : String} {parts : List (List Char)}
    (h : findCookie name parts = some found) :
    ∃ before part after value, parts = before ++ part :: after ∧
      (∀ earlier ∈ before, ¬ IsCookieOf name earlier) ∧
      splitOnce '=' (trim part) = some (name.toList, value) ∧
      percentDecode (String.ofList value) = some found := by
  induction parts with
  | nil => cases h
  | cons part rest ih =>
    have hskip (hnot : ¬ IsCookieOf name part) (hrest : findCookie name rest = some found) :
        ∃ before first after value, part :: rest = before ++ first :: after ∧
          (∀ earlier ∈ before, ¬ IsCookieOf name earlier) ∧
          splitOnce '=' (trim first) = some (name.toList, value) ∧
          percentDecode (String.ofList value) = some found := by
      obtain ⟨before, first, after, value, heq, hbefore, hfirst⟩ := ih hrest
      refine ⟨part :: before, first, after, value, by rw [heq]; rfl, ?_, hfirst⟩
      intro earlier hmem
      rcases List.mem_cons.mp hmem with rfl | hlater
      · exact hnot
      · exact hbefore earlier hlater
    rw [findCookie] at h
    cases hsplit : splitOnce '=' (trim part) with
    | none =>
      rw [hsplit] at h
      refine hskip ?_ h
      rintro ⟨value, hvalue⟩
      cases hsplit.symm.trans hvalue
    | some pair =>
      simp only [hsplit] at h
      by_cases hname : pair.1 = name.toList
      · rw [if_pos hname] at h
        exact ⟨[], part, rest, pair.2, rfl, fun _ hmem => absurd hmem List.not_mem_nil,
          by rw [hsplit, ← hname], h⟩
      · rw [if_neg hname] at h
        refine hskip ?_ h
        rintro ⟨value, hvalue⟩
        cases hsplit.symm.trans hvalue
        exact hname rfl

/-! ### The cookie that is set -/

/-- A name that a cookie can be found by: it does not end early and is not trimmed. -/
structure IsCookieName (name : String) : Prop where
  no_equals : '=' ∉ name.toList
  no_semicolon : ';' ∉ name.toList
  not_trimmed : ∀ c, name.toList.head? = some c → isWhiteSpace c = false

/-- The name and the value of a `Set-Cookie`, which is what comes back: the text up to the first
semicolon. -/
def cookiePair (setCookie : String) : List Char := setCookie.toList.takeWhile (· ≠ ';')

theorem cookiePair_serializeSignedCookie {name : String} (hname : IsCookieName name) (mac : Mac)
    (value : String) (expiresAt : Int) (config : Config) :
    cookiePair (serializeSignedCookie mac name value expiresAt config) =
      name.toList ++ '=' :: (percentEncode (signValue mac value config.cookieSecret)).toList := by
  have hplain : ∀ c ∈ name.toList ++ '=' ::
      (percentEncode (signValue mac value config.cookieSecret)).toList, decide (c ≠ ';') = true := by
    intro c hc
    refine decide_eq_true ?_
    rcases List.mem_append.mp hc with hc | hc
    · rintro rfl
      exact hname.no_semicolon hc
    · rcases List.mem_cons.mp hc with rfl | hc
      · decide
      · exact (mem_percentEncode hc).1
  have htext : (serializeSignedCookie mac name value expiresAt config).toList =
      (name.toList ++ '=' :: (percentEncode (signValue mac value config.cookieSecret)).toList) ++
        ';' :: ' ' :: (String.intercalate "; " ((["Path=/", "HttpOnly",
          "SameSite=" ++ sameSiteValue config.cookieSameSite] ++
            if config.cookieSecure then ["Secure"] else []) ++
              ["Expires=" ++ formatCookieDate expiresAt])).toList := by
    rw [serializeSignedCookie, cookiePrefix, List.cons_append, List.cons_append, List.cons_append,
      List.cons_append, String.intercalate_cons_cons]
    simp [String.toList_append]
  rw [cookiePair, htext, List.takeWhile_append_of_pos hplain, List.takeWhile_cons_of_neg (by decide),
    List.append_nil]

theorem trim_cookiePair {name : String} (hname : IsCookieName name) {text left right : List Char}
    (htext : ∀ c ∈ text, isWhiteSpace c = false) (hleft : ∀ c ∈ left, isWhiteSpace c = true)
    (hright : ∀ c ∈ right, isWhiteSpace c = true) :
    trim (left ++ ((name.toList ++ '=' :: text) ++ right)) = name.toList ++ '=' :: text := by
  apply trim_around hleft hright
  · intro c hc
    cases hlist : name.toList with
    | nil =>
      rw [hlist] at hc
      cases hc
      decide
    | cons =>
      rw [hlist] at hc
      exact hname.not_trimmed c (by rw [hlist]; exact hc)
  · intro c hc
    rw [List.getLast?_append_cons] at hc
    rcases List.mem_cons.mp (List.mem_of_getLast? hc) with rfl | hmem
    · decide
    · exact htext c hmem
  · simp

/-- **Round trip and exact acceptance.** A signed cookie of the gateway is read back as its value from
every header in which it is the first of its name, with any white space around it; and a value that is
read from a header is the one whose signed form the first cookie of the name decodes to. The text of a
MAC has no dot. -/
theorem signed_cookies_exact (mac : Mac) (hmac : ∀ value secret, '.' ∉ (mac value secret).toList)
    (name : String) :
    (∀ (config : Config) (value : String) (expiresAt : Int) (header : String)
        (before after : List (List Char)) (left right : List Char),
      IsCookieName name →
      header.toList.splitOn ';' = before ++
        (left ++ (cookiePair (serializeSignedCookie mac name value expiresAt config) ++ right)) ::
          after →
      (∀ c ∈ left, isWhiteSpace c = true) → (∀ c ∈ right, isWhiteSpace c = true) →
      (∀ earlier ∈ before, ¬ IsCookieOf name earlier) →
      readSignedCookie mac (some header) name config.cookieSecret = some value) ∧
    (∀ (cookieHeader : Option String) (secret value : String),
      readSignedCookie mac cookieHeader name secret = some value →
      ∃ header before part after text, cookieHeader = some header ∧
        header.toList.splitOn ';' = before ++ part :: after ∧
        (∀ earlier ∈ before, ¬ IsCookieOf name earlier) ∧
        splitOnce '=' (trim part) = some (name.toList, text) ∧
        percentDecode (String.ofList text) = some (value ++ "." ++ mac value secret)) := by
  constructor
  · intro config value expiresAt header before after left right hname hsplit hleft hright
      hbefore
    rw [cookiePair_serializeSignedCookie hname] at hsplit
    have hplain : ∀ c ∈ (percentEncode (signValue mac value config.cookieSecret)).toList,
        isWhiteSpace c = false := fun c hc => (mem_percentEncode hc).2
    have hpart := splitOnce_append (percentEncode (signValue mac value config.cookieSecret)).toList
      hname.no_equals
    rw [← trim_cookiePair hname hplain hleft hright] at hpart
    have hparsed : parseCookie header name = some (signValue mac value config.cookieSecret) := by
      rw [parseCookie, hsplit, findCookie_first hbefore hpart, String.ofList_toList,
        percentDecode_percentEncode]
    calc readSignedCookie mac (some header) name config.cookieSecret
        = (parseCookie header name).bind (unsignValue mac · config.cookieSecret) := rfl
      _ = unsignValue mac (signValue mac value config.cookieSecret) config.cookieSecret := by
          rw [hparsed, Option.bind_some]
      _ = some value := unsignValue_signValue (hmac value config.cookieSecret)
  · intro cookieHeader secret value hread
    obtain ⟨header, hheader, hparsed⟩ := readSignedCookie_eq_some hread
    obtain ⟨before, part, after, text, hsplit, hbefore, hpart, hdecoded⟩ :=
      exists_first_of_findCookie hparsed
    exact ⟨header, before, part, after, text, hheader, hsplit, hbefore, hpart, hdecoded⟩

theorem isCookieName_session : IsCookieName sessionCookie where
  no_equals := by decide
  no_semicolon := by decide
  not_trimmed := by
    intro c hc
    cases hc
    decide

/-- A value with a semicolon, in the second cookie of a header. -/
theorem signed_cookies_exact_session :
    readSignedCookie (fun _ _ => "sig") (some "theme=dark; amg_session=a%3Bb.sig") sessionCookie
      sampleConfig.cookieSecret = some "a;b" := by
  refine (signed_cookies_exact (fun _ _ => "sig") (fun _ _ => by decide) sessionCookie).1 sampleConfig
    "a;b" 0 _ ["theme=dark".toList] [] [' '] [] isCookieName_session ?_
    (List.forall_mem_singleton.mpr (by decide)) nofun ?_
  · rw [cookiePair_serializeSignedCookie isCookieName_session]
    decide
  · rintro earlier hmem ⟨value, hvalue⟩
    rw [List.mem_singleton.mp hmem] at hvalue
    have hsplit : splitOnce '=' (trim "theme=dark".toList) = some ("theme".toList, "dark".toList) := by
      decide
    cases hsplit.symm.trans hvalue

end AuthMiniGateway
