import AuthMiniGateway.Lib.Fallible
import AuthMiniGateway.Proof.CookieText
import AuthMiniGateway.Routing

namespace AuthMiniGateway

/-! ### Names of headers -/

theorem toLower_of_isHeaderChar {c : Char} (hc : isHeaderChar c = true) : c.toLower = c := by
  have hupper : ¬('A'.val ≤ c.val ∧ c.val ≤ 'Z'.val) := by
    rintro ⟨hA, hZ⟩
    simp only [isHeaderChar, Char.isDigit, Char.isLower, Bool.or_eq_true, Bool.and_eq_true,
      decide_eq_true_eq] at hc
    rcases hc with (⟨-, hdigit⟩ | ⟨hlower, -⟩) | hmark
    · exact absurd (UInt32.le_trans hA hdigit) (by decide)
    · exact absurd (UInt32.le_trans hlower hZ) (by decide)
    · have hmarks : "!#$%&'*+-.^_`|~".toList.all (fun d => ¬('A'.val ≤ d.val ∧ d.val ≤ 'Z'.val)) = true := by
        decide
      exact of_decide_eq_true (List.all_eq_true.mp hmarks c (by simpa using hmark)) ⟨hA, hZ⟩
  rw [Char.toLower, dif_neg hupper]

theorem HeaderName.toLower_text (name : HeaderName) :
    name.text.toList.map Char.toLower = name.text.toList := by
  have hname := name.isName
  simp only [isHeaderNameText, Bool.and_eq_true, List.all_eq_true] at hname
  calc name.text.toList.map Char.toLower = name.text.toList.map id :=
        List.map_congr_left fun c hc => toLower_of_isHeaderChar (hname.1.2 c hc)
    _ = name.text.toList := List.map_id _

theorem eqIgnoreAsciiCase_cookie (name : HeaderName) :
    Request.eqIgnoreAsciiCase name.text "Cookie" = decide (name = .cookie) := by
  have hcookie : "Cookie".toList.map Char.toLower = HeaderName.cookie.text.toList := by decide
  rw [Request.eqIgnoreAsciiCase, name.toLower_text, hcookie, Bool.eq_iff_iff, beq_iff_eq,
    decide_eq_true_eq, String.toList_inj, HeaderName.ext_iff]

theorem find_cookie_copied (headers : HeaderMap) (copied : HeaderValue → String) :
    ((headers.map fun entry => (entry.1.text, copied entry.2)).find? fun candidate =>
        Request.eqIgnoreAsciiCase candidate.1 "Cookie").map Prod.snd =
      (headers.get .cookie).map copied := by
  have hfind : headers.get .cookie =
      (headers.find? fun entry => decide (entry.1 = HeaderName.cookie)).map Prod.snd := by
    rw [Multimap.get, Multimap.getAll, List.head?_map, List.head?_filter]
  have hnamed : ((fun candidate : String × String => Request.eqIgnoreAsciiCase candidate.1 "Cookie") ∘
      fun entry : HeaderName × HeaderValue => (entry.1.text, copied entry.2)) =
      fun entry => decide (entry.1 = HeaderName.cookie) := by
    funext entry
    exact eqIgnoreAsciiCase_cookie entry.1
  rw [List.find?_map, hnamed, hfind, Option.map_map, Option.map_map]
  rfl

/-! ### Lines joined -/

namespace HyperRequest

theorem combineCookies_eq (values : List HeaderValue) (text : String) :
    combineCookies values (some text) =
      (values.mapM HeaderValue.toStr).map fun texts => some ("; ".intercalate (text :: texts)) := by
  induction values generalizing text with
  | nil => rfl
  | cons value values ih =>
    rw [combineCookies, List.mapM_cons]
    cases value.toStr with
    | none => rfl
    | some =>
      simp only [Option.elim_some]
      rw [ih]
      cases values.mapM HeaderValue.toStr with
      | none | some texts => rfl

theorem combineCookies_none (values : List HeaderValue) :
    combineCookies values none = (values.mapM HeaderValue.toStr).map fun texts =>
      if texts = [] then none else some ("; ".intercalate texts) := by
  cases values with
  | nil => rfl
  | cons value values =>
    rw [combineCookies, List.mapM_cons]
    cases value.toStr with
    | none => rfl
    | some =>
      simp only [Option.elim_none]
      rw [combineCookies_eq]
      cases values.mapM HeaderValue.toStr with
      | none | some texts => rfl

variable {request : HyperRequest}

theorem proxyAuthCookie_http2 (hversion : request.version = .http2) :
    request.proxyAuthCookie =
      ((request.headers.getAll .cookie).mapM HeaderValue.toStr).map fun texts =>
        if texts = [] then none else some ("; ".intercalate texts) := by
  rw [proxyAuthCookie, if_neg (fun hne => hne hversion), combineCookies_none]

/-! ### The cookie line of a copied request -/

theorem header_localRequest_http2 (hversion : request.version = .http2) (cookie : Option String)
    (body : List UInt8) : (request.localRequest cookie body).header "Cookie" = cookie := by
  have hkept : Multimap.get (request.headers.filter fun entry =>
      request.version ≠ .http2 || entry.1 ≠ HeaderName.cookie) HeaderName.cookie = none := by
    rw [Multimap.get, Multimap.getAll_filter_keys
      (fun name => decide (request.version ≠ .http2) || decide (name ≠ HeaderName.cookie))]
    simp [hversion]
  have hcopied := find_cookie_copied (request.headers.filter fun entry =>
    request.version ≠ .http2 || entry.1 ≠ HeaderName.cookie) (fun value => value.toStr.getD "")
  rw [hkept, Option.map_none, Option.map_eq_none_iff] at hcopied
  simp only [Request.header, localRequest, localHeaders, List.find?_append, hcopied, Option.none_or]
  cases cookie with
  | none => rfl
  | some =>
    have hnamed : Request.eqIgnoreAsciiCase "Cookie" "Cookie" = true := by decide
    simp [hnamed]

theorem header_localRequest_http1 (hversion : request.version ≠ .http2) (body : List UInt8) :
    (request.localRequest none body).header "Cookie" =
      (request.headers.get .cookie).map fun value => value.toStr.getD "" := by
  have hall : (request.headers.filter fun entry =>
      request.version ≠ .http2 || entry.1 ≠ HeaderName.cookie) = request.headers := by
    rw [List.filter_eq_self]
    intro entry _
    simp [hversion]
  simp only [Request.header, localRequest, localHeaders, hall, Option.toList_none, List.map_nil,
    List.append_nil]
  exact find_cookie_copied request.headers fun value => value.toStr.getD ""

theorem handleLocalRequest_localTable {adapterFallback : Bool} {copied : Request}
    (h : handleLocalRequest request adapterFallback = .localTable copied) :
    ∃ cookie body, request.localCookie = some cookie ∧ copied = request.localRequest cookie body := by
  unfold handleLocalRequest at h
  split at h
  · cases h
  · rename_i cookie hcookie
    split_ifs at h
    · split at h <;> cases h
    · split at h
      · cases h
      · rename_i body _
        cases h
        exact ⟨cookie, body, hcookie, rfl⟩

end HyperRequest

/-! ### One reading -/

theorem readSignedCookie_empty (mac : Mac) (name secret : String) :
    readSignedCookie mac (some "") name secret = none := by
  rfl

theorem readSignedCookie_joined (mac : Mac) (texts : List String) (name secret : String) :
    readSignedCookie mac (if texts = [] then none else some ("; ".intercalate texts)) name secret =
      readSignedCookie mac (some ("; ".intercalate texts)) name secret := by
  split_ifs with htexts
  · rw [htexts]
    exact (readSignedCookie_empty mac name secret).symm
  · rfl

theorem readSignedCookie_copied (mac : Mac) (line : Option HeaderValue) (name secret : String) :
    readSignedCookie mac (line.map fun value => value.toStr.getD "") name secret =
      readSignedCookie mac (line.bind HeaderValue.toStr) name secret := by
  cases line with
  | none => rfl
  | some value =>
    rw [Option.map_some, Option.bind_some]
    cases value.toStr with
    | none => exact readSignedCookie_empty mac name secret
    | some => rfl

theorem readSignedCookie_localTable {request : HyperRequest} {adapterFallback : Bool}
    {copied : Request} {proxied : Option String}
    (hlocal : handleLocalRequest request adapterFallback = .localTable copied)
    (hproxied : request.proxyAuthCookie = some proxied) (mac : Mac) (name secret : String) :
    readSignedCookie mac (copied.header "Cookie") name secret =
      readSignedCookie mac proxied name secret := by
  obtain ⟨cookie, body, hcookie, rfl⟩ := HyperRequest.handleLocalRequest_localTable hlocal
  by_cases hversion : request.version = .http2
  · rw [HyperRequest.localCookie, if_pos hversion, hproxied, Option.some_inj] at hcookie
    rw [HyperRequest.header_localRequest_http2 hversion, hcookie]
  · rw [HyperRequest.localCookie, if_neg hversion, Option.some_inj] at hcookie
    rw [HyperRequest.proxyAuthCookie, if_pos hversion, Option.some_inj] at hproxied
    rw [← hcookie, HyperRequest.header_localRequest_http1 hversion, ← hproxied]
    exact readSignedCookie_copied mac _ name secret

/-- **One session.** Where a request gets as far as the reading of a cookie by the handlers of the
gateway's own paths, the reading on the way to the upstream has the same result. Over HTTP/2 it is that
for all the lines joined; a line that cannot be read fails both. -/
theorem front_doors_agree (mac : Mac) (name secret : String) (request : HyperRequest) :
    (∀ adapterFallback copied proxied,
      handleLocalRequest request adapterFallback = .localTable copied →
        request.proxyAuthCookie = some proxied →
          readSignedCookie mac (copied.header "Cookie") name secret =
            readSignedCookie mac proxied name secret) ∧
    (request.version = .http2 →
      (∀ texts, (request.headers.getAll .cookie).mapM HeaderValue.toStr = some texts →
        (∃ proxied, request.proxyAuthCookie = some proxied ∧
          readSignedCookie mac proxied name secret =
            readSignedCookie mac (some ("; ".intercalate texts)) name secret) ∧
        ∀ adapterFallback copied, handleLocalRequest request adapterFallback = .localTable copied →
          readSignedCookie mac (copied.header "Cookie") name secret =
            readSignedCookie mac (some ("; ".intercalate texts)) name secret) ∧
      ((∃ value ∈ request.headers.getAll .cookie, value.toStr = none) →
        request.proxyAuthCookie = none ∧ request.localCookie = none ∧
          ∀ adapterFallback,
            handleLocalRequest request adapterFallback = .generated 400 "Bad request")) := by
  refine ⟨fun _ _ _ hlocal hproxied => readSignedCookie_localTable hlocal hproxied mac name secret,
    fun hversion => ⟨fun texts htexts => ?_, fun ⟨value, hvalue, hunreadable⟩ => ?_⟩⟩
  · have hproxied := HyperRequest.proxyAuthCookie_http2 hversion
    rw [htexts, Option.map_some] at hproxied
    have hjoined := readSignedCookie_joined mac texts name secret
    refine ⟨⟨_, hproxied, hjoined⟩, fun _ _ hlocal => ?_⟩
    rw [readSignedCookie_localTable hlocal hproxied, hjoined]
  · have hproxied := HyperRequest.proxyAuthCookie_http2 hversion
    rw [Fallible.mapM_eq_none_of_mem hvalue hunreadable, Option.map_none] at hproxied
    have hcookie : request.localCookie = none := by
      rw [HyperRequest.localCookie, if_pos hversion, hproxied]
    exact ⟨hproxied, hcookie, fun _ => by rw [handleLocalRequest, hcookie]⟩

def sampleCheck : HyperRequest :=
  { version := .http2
    method := "GET"
    uri := ⟨some "https", some "app.example", "/auth/check", none, by decide, by decide, nofun⟩
    headers := [(.cookie, ⟨"theme=dark".toUTF8.data.toList, by decide⟩),
      (.cookie, ⟨"amg_session=s1.mac".toUTF8.data.toList, by decide⟩)]
    isEndStream := true
    body := some [] }

theorem front_doors_agree_two_lines :
    readSignedCookie (fun _ _ => "mac")
        ((sampleCheck.localRequest (some "theme=dark; amg_session=s1.mac") []).header "Cookie")
        sessionCookie "secret" =
      some "s1" := by
  have hread : readSignedCookie (fun _ _ => "mac") (some "theme=dark; amg_session=s1.mac") sessionCookie
      "secret" = some "s1" := by decide +kernel
  have hagree := front_doors_agree (fun _ _ => "mac") sessionCookie "secret" sampleCheck
  rw [← hread]
  exact hagree.1 false _ (some "theme=dark; amg_session=s1.mac") (by decide +kernel) (by decide +kernel)

end AuthMiniGateway
