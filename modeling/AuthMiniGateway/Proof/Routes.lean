import AuthMiniGateway.Proof.CookieText
import AuthMiniGateway.Proof.Lifetimes
import AuthMiniGateway.Routing

namespace AuthMiniGateway

/-! ### Splitting a target -/

def queryParameters (query : List Char) : Query :=
  (((query.splitOn '&').filter (· ≠ [])).filterMap parsePair).reverse

theorem parseTarget_of_query {path query : List Char} (hpath : '?' ∉ path) :
    parseTarget (String.ofList (path ++ '?' :: query)) = (String.ofList path, queryParameters query) := by
  rw [parseTarget, String.toList_ofList, splitOnce_append query hpath]
  rfl

theorem parseTarget_of_no_query {path : List Char} (hpath : '?' ∉ path) :
    parseTarget (String.ofList path) = (String.ofList path, queryParameters []) := by
  rw [parseTarget, String.toList_ofList, splitOnce_of_not_mem hpath]
  rfl

namespace Uri

theorem not_mem_rawPath (uri : Uri) : '?' ∉ uri.rawPath.toList := by
  intro hmem
  have hcontains := List.contains_iff_mem.mpr hmem
  rw [uri.rawPath_noQuery] at hcontains
  cases hcontains

theorem data_toList (uri : Uri) :
    uri.data.toList = uri.rawPath.toList ++ uri.query.elim [] ('?' :: ·.toList) := by
  rw [data, querySuffix, String.toList_append]
  cases uri.query with
  | none => rfl
  | some => exact congrArg _ (String.toList_append ..)

theorem parseTarget_data (uri : Uri) :
    parseTarget uri.data = (uri.rawPath, queryParameters (uri.query.elim [] String.toList)) := by
  have htext : uri.data = String.ofList (uri.rawPath.toList ++ uri.query.elim [] ('?' :: ·.toList)) := by
    rw [← data_toList, String.ofList_toList]
  rw [htext]
  cases uri.query with
  | none =>
    rw [Option.elim_none, Option.elim_none, List.append_nil,
      parseTarget_of_no_query uri.not_mem_rawPath, String.ofList_toList]
  | some =>
    rw [Option.elim_some, Option.elim_some, parseTarget_of_query uri.not_mem_rawPath,
      String.ofList_toList]

variable {uri : Uri}

theorem rawPath_of_path {p : String} (hpath : uri.path = p) (hempty : p ≠ "") (hroot : p ≠ "/") :
    uri.rawPath = p := by
  rw [path] at hpath
  split_ifs at hpath
  · exact absurd hpath.symm hempty
  · exact absurd hpath.symm hroot
  · exact hpath

theorem data_ne_empty (hraw : uri.rawPath ≠ "") : uri.data ≠ "" := by
  intro hdata
  rw [data, String.append_eq_empty_iff] at hdata
  exact hraw hdata.1

theorem no_authority (hraw : uri.rawPath ≠ "") (hscheme : uri.scheme = none) :
    uri.authority = none := by
  by_contra hauthority
  have hform : (uri.scheme.isNone && uri.authority.isSome) = true := by
    rw [hscheme, Option.isSome_iff_ne_none.mpr hauthority]
    rfl
  exact hraw (uri.authorityForm hform).1

theorem pathAndQuery_eq_data (hraw : uri.rawPath ≠ "") : uri.pathAndQuery = some uri.data := by
  have hshown : uri.scheme.isSome ∨ uri.authority = none := by
    cases hscheme : uri.scheme with
    | some => exact Or.inl rfl
    | none => exact Or.inr (no_authority hraw hscheme)
  rw [pathAndQuery, if_pos hshown, if_neg (data_ne_empty hraw)]

theorem toText_origin (hraw : uri.rawPath ≠ "") (hscheme : uri.scheme = none) :
    uri.toText = uri.data := by
  have hpath : uri.path = uri.rawPath := by
    rw [path, if_neg (fun h => data_ne_empty hraw h.1), if_neg hraw]
  rw [toText, hscheme, no_authority hraw hscheme, hpath]
  change "" ++ ("" ++ uri.data) = uri.data
  rw [String.empty_append, String.empty_append]

theorem toText_absolute (hscheme : uri.scheme ≠ none) :
    ∃ c rest, uri.toText.toList = c :: rest ∧ isSchemeChar c = true := by
  obtain ⟨scheme, hsome⟩ := Option.ne_none_iff_exists'.mp hscheme
  have htext := uri.scheme_isText
  rw [hsome] at htext
  change isSchemeText scheme.toList = true at htext
  cases hlist : scheme.toList with
  | nil =>
    rw [hlist] at htext
    cases htext
  | cons c rest =>
    rw [hlist] at htext
    have hchar : isSchemeChar c = true := by
      have hall := (Bool.and_eq_true_iff.mp htext).2
      exact (List.all_cons ▸ hall |> Bool.and_eq_true_iff.mp).1
    refine ⟨c, rest ++ ("://".toList ++ (uri.authority.getD "" ++ (uri.path ++ uri.querySuffix)).toList),
      ?_, hchar⟩
    rw [toText, hsome, Option.elim_some, String.toList_append, String.toList_append, hlist,
      List.append_assoc]
    rfl

end Uri

theorem parseTarget_head {target : String} {c : Char} {rest : List Char}
    (htarget : target.toList = c :: rest) (hc : c ≠ '?') :
    (parseTarget target).1.toList.head? = some c := by
  rw [parseTarget, htarget, splitOnce_cons_of_ne rest hc]
  cases splitOnce '?' rest with
  | none | some parts => simp

/-! ### The routes -/

inductive OwnedRoute where
  | healthz
  | login
  | callback
  | callbackSession
  | check
  | logout
  deriving DecidableEq, Repr

namespace OwnedRoute

def path : OwnedRoute → String
  | .healthz => "/healthz"
  | .login => "/login"
  | .callback => "/auth/callback"
  | .callbackSession => "/auth/callback/session"
  | .check => "/auth/check"
  | .logout => "/logout"

def notFound : Server Handled := pure (.respond (noStore (Response.text 404 "Not found")))

def answer (platform : Platform) (config : Config) (route : OwnedRoute) (request : Request) :
    Server Handled :=
  match route with
  | .healthz => if request.method = "GET" then pure (.respond (Response.empty 204)) else notFound
  | .login => if request.method = "GET" then handleLogin platform config request else notFound
  | .callback =>
    if request.method = "GET" then pure (.respond (Response.html .callbackPage)) else notFound
  | .callbackSession =>
    if request.method = "POST" then handleCallbackSession platform config request else notFound
  | .check => if request.method = "GET" then handleAuthCheck platform config request else notFound
  | .logout =>
    if request.method = "GET" ∨ request.method = "POST" then handleLogout platform config request
    else notFound

theorem mem_ownedPaths_iff {p : String} : p ∈ ownedPaths ↔ ∃ route : OwnedRoute, p = route.path := by
  constructor
  · intro hp
    simp only [ownedPaths, List.mem_cons, List.not_mem_nil, or_false] at hp
    rcases hp with rfl | rfl | rfl | rfl | rfl | rfl
    exacts [⟨.healthz, rfl⟩, ⟨.login, rfl⟩, ⟨.callback, rfl⟩, ⟨.callbackSession, rfl⟩, ⟨.check, rfl⟩,
      ⟨.logout, rfl⟩]
  · rintro ⟨route, rfl⟩
    cases route <;> decide

theorem path_head (route : OwnedRoute) : route.path.toList.head? = some '/' := by
  cases route <;> rfl

theorem path_ne_empty (route : OwnedRoute) : route.path ≠ "" := by
  cases route <;> decide

theorem path_ne_root (route : OwnedRoute) : route.path ≠ "/" := by
  cases route <;> decide

end OwnedRoute

variable {platform : Platform} {config : Config}

variable {route : OwnedRoute}

theorem handleRequest_of_path {request : Request} (hpath : request.path = route.path) :
    handleRequest platform config request = route.answer platform config request := by
  rw [handleRequest, hpath]
  cases route <;> simp [OwnedRoute.path, OwnedRoute.answer, OwnedRoute.notFound]

theorem handleRequest_of_not_owned {request : Request} (hpath : request.path ∉ ownedPaths) :
    handleRequest platform config request = OwnedRoute.notFound := by
  simp only [ownedPaths, List.mem_cons, List.not_mem_nil, or_false, not_or] at hpath
  rw [handleRequest]
  simp [hpath, OwnedRoute.notFound]

/-! ### Dispatch -/

namespace HyperRequest

structure Admitted (request : HyperRequest) : Prop where
  wellFormed : request.version = .http2 → request.validateOrdinaryH2 = true
  cookies : request.localCookie ≠ none
  expect : request.validateExpect = true
  length : ∀ length ∈ request.declaredLength, length ≤ maxLocalBody
  body : request.localBody ≠ none

/-- The target that is built again starts with the path. -/
def KeepsPath (request : HyperRequest) : Prop := request.version = .http2 ∨ request.uri.scheme = none

instance (request : HyperRequest) : Decidable request.KeepsPath := inferInstanceAs (Decidable (_ ∨ _))

theorem localTarget_eq_data {request : HyperRequest} (hraw : request.uri.rawPath ≠ "")
    (hkeeps : request.KeepsPath) : request.localTarget = request.uri.data := by
  rw [localTarget, Uri.pathAndQuery_eq_data hraw]
  split_ifs with hversion
  · rfl
  · exact Uri.toText_origin hraw (hkeeps.resolve_left hversion)

theorem localTarget_head {request : HyperRequest} (hkeeps : ¬request.KeepsPath) :
    ∃ c rest, request.localTarget.toList = c :: rest ∧ isSchemeChar c = true := by
  rw [KeepsPath, not_or] at hkeeps
  rw [localTarget, if_neg hkeeps.1]
  exact Uri.toText_absolute hkeeps.2

variable {request : HyperRequest} (cookie : Option String) (body : List UInt8)

theorem localRequest_parts {route : OwnedRoute} (hpath : request.uri.path = route.path)
    (hkeeps : request.KeepsPath) :
    (request.localRequest cookie body).path = route.path
      ∧ (request.localRequest cookie body).query
          = queryParameters (request.uri.query.elim [] String.toList) := by
  have hraw : request.uri.rawPath = route.path :=
    Uri.rawPath_of_path hpath route.path_ne_empty route.path_ne_root
  have htarget : parseTarget request.localTarget
      = (route.path, queryParameters (request.uri.query.elim [] String.toList)) := by
    rw [localTarget_eq_data (hraw ▸ route.path_ne_empty) hkeeps, Uri.parseTarget_data, hraw]
  exact ⟨congrArg Prod.fst htarget, congrArg Prod.snd htarget⟩

theorem localRequest_path_not_owned (hkeeps : ¬request.KeepsPath) :
    (request.localRequest cookie body).path ∉ ownedPaths := by
  obtain ⟨c, rest, htarget, hc⟩ := localTarget_head hkeeps
  have hquestion : c ≠ '?' := by
    rintro rfl
    revert hc
    decide
  have hhead : (request.localRequest cookie body).path.toList.head? = some c :=
    parseTarget_head htarget hquestion
  rw [OwnedRoute.mem_ownedPaths_iff]
  rintro ⟨route, hroute⟩
  rw [hroute, route.path_head] at hhead
  cases hhead
  revert hc
  decide

end HyperRequest

variable {request : HyperRequest}

theorem handleLocalRequest_cases (request : HyperRequest) (adapter : Bool) :
    (∃ status text, handleLocalRequest request adapter = .generated status text)
      ∨ ∃ cookie body, request.localCookie = some cookie ∧ request.localBody = some body
          ∧ request.validateExpect = true ∧ (∀ length ∈ request.declaredLength, length ≤ maxLocalBody)
          ∧ handleLocalRequest request adapter
              = if adapter then .adapterNotFound else .localTable (request.localRequest cookie body) := by
  rw [handleLocalRequest]
  cases request.localCookie with
  | none => exact Or.inl ⟨_, _, rfl⟩
  | some cookie =>
    by_cases hexpect : request.validateExpect = false
    · simp only [if_pos hexpect]
      exact Or.inl ⟨_, _, rfl⟩
    · by_cases hlength : request.declaredLength.any (maxLocalBody < ·)
      · simp only [if_neg hexpect, if_pos hlength]
        exact Or.inl ⟨_, _, rfl⟩
      · simp only [if_neg hexpect, if_neg hlength]
        cases request.localBody with
        | none => exact Or.inl ⟨_, _, rfl⟩
        | some body =>
          refine Or.inr ⟨cookie, body, rfl, rfl, Bool.not_eq_false _ ▸ hexpect, ?_, rfl⟩
          intro length hdeclared
          rw [Option.mem_def.mp hdeclared] at hlength
          simpa using hlength

theorem handleLocalRequest_of_admitted (hadmitted : request.Admitted) :
    ∃ cookie body, handleLocalRequest request false = .localTable (request.localRequest cookie body) := by
  obtain ⟨cookie, hcookie⟩ := Option.ne_none_iff_exists'.mp hadmitted.cookies
  obtain ⟨body, hbody⟩ := Option.ne_none_iff_exists'.mp hadmitted.body
  have hlength : ¬request.declaredLength.any (maxLocalBody < ·) = true := by
    cases hdeclared : request.declaredLength with
    | none => exact Bool.false_ne_true
    | some length =>
      have hle : length ≤ maxLocalBody := hadmitted.length length hdeclared
      simpa using hle
  refine ⟨cookie, body, ?_⟩
  simp only [handleLocalRequest, hcookie, hbody, hadmitted.expect, if_neg hlength, if_false,
    Bool.true_eq_false, Bool.false_eq_true]

theorem handleLocalRequest_of_not_admitted (hadmitted : ¬request.Admitted)
    (hwellFormed : request.version = .http2 → request.validateOrdinaryH2 = true) (adapter : Bool) :
    ∃ status text, handleLocalRequest request adapter = .generated status text := by
  rcases handleLocalRequest_cases request adapter with
    hrefused | ⟨cookie, body, hcookie, hbody, hexpect, hlength, -⟩
  · exact hrefused
  · exact absurd
      ⟨hwellFormed, hcookie ▸ Option.some_ne_none _, hexpect, hlength, hbody ▸ Option.some_ne_none _⟩
      hadmitted

theorem handleHyperRequest_of_owned (hmethod : request.method ≠ "CONNECT")
    (hpath : request.uri.path = route.path)
    (hwellFormed : request.version = .http2 → request.validateOrdinaryH2 = true) :
    handleHyperRequest config request = handleLocalRequest request false := by
  have howned : request.uri.path ∈ ownedPaths := OwnedRoute.mem_ownedPaths_iff.mpr ⟨route, hpath⟩
  rw [handleHyperRequest, if_neg, if_neg (fun h => hmethod h.2.1), if_pos howned]
  rintro ⟨hversion, -, hinvalid⟩
  rw [hwellFormed hversion] at hinvalid
  cases hinvalid

/-- The request is routed as its path says: an admitted request for an owned path reaches the table with
that path and the query after it, so that the route's own handler answers, and one that is not admitted
is refused; with an upstream, a request for another path does not reach the table. -/
structure RoutingAgrees (config : Config) (request : HyperRequest) : Prop where
  owned : ∀ route : OwnedRoute, request.uri.path = route.path → request.Admitted →
    ∃ table, handleHyperRequest config request = .localTable table
      ∧ table.method = request.method
      ∧ table.path = route.path
      ∧ table.query = queryParameters (request.uri.query.elim [] String.toList)
      ∧ ∀ platform, handleRequest platform config table = route.answer platform config table
  refused : ∀ route : OwnedRoute, request.uri.path = route.path → ¬request.Admitted →
    ∃ status text, handleHyperRequest config request = .generated status text
  fallback : request.uri.path ∉ ownedPaths → config.upstream ≠ none →
    ∀ table, handleHyperRequest config request ≠ .localTable table

theorem refused_of_not_admitted (hmethod : request.method ≠ "CONNECT")
    (hpath : request.uri.path = route.path) (hadmitted : ¬request.Admitted) :
    ∃ status text, handleHyperRequest config request = .generated status text := by
  by_cases hwellFormed : request.version = .http2 → request.validateOrdinaryH2 = true
  · rw [handleHyperRequest_of_owned hmethod hpath hwellFormed]
    exact handleLocalRequest_of_not_admitted hadmitted hwellFormed false
  · obtain ⟨hversion, hinvalid⟩ := Classical.not_imp.mp hwellFormed
    rw [handleHyperRequest, if_pos ⟨hversion, hmethod, Bool.eq_false_iff.mpr hinvalid⟩]
    exact ⟨_, _, rfl⟩

theorem table_not_reached (hpath : request.uri.path ∉ ownedPaths) (hupstream : config.upstream ≠ none)
    (table : Request) : handleHyperRequest config request ≠ .localTable table := by
  rw [handleHyperRequest]
  split_ifs with hinvalid hconnect
  · exact Routed.noConfusion
  · exact absurd hconnect.1 hpath
  · exact Routed.noConfusion

/-- **Routing agrees with itself except in absolute form over HTTP/1.** A request other than CONNECT is
routed as its path says exactly when, if its path is owned and it is admitted, it came over HTTP/2 or its
target has no scheme. -/
theorem routing_agrees_iff (config : Config) (request : HyperRequest)
    (hmethod : request.method ≠ "CONNECT") :
    RoutingAgrees config request ↔
      (request.uri.path ∈ ownedPaths → request.Admitted → request.KeepsPath) := by
  constructor
  · intro hagrees howned hadmitted
    obtain ⟨route, hpath⟩ := OwnedRoute.mem_ownedPaths_iff.mp howned
    obtain ⟨table, htable, -, htablePath, -⟩ := hagrees.owned route hpath hadmitted
    obtain ⟨cookie, body, hlocal⟩ := handleLocalRequest_of_admitted hadmitted
    rw [handleHyperRequest_of_owned hmethod hpath hadmitted.wellFormed, hlocal] at htable
    cases htable
    by_contra hkeeps
    apply HyperRequest.localRequest_path_not_owned cookie body hkeeps
    exact OwnedRoute.mem_ownedPaths_iff.mpr ⟨route, htablePath⟩
  · intro hkeeps
    refine ⟨?_, ?_, table_not_reached⟩
    · intro route hpath hadmitted
      have howned := OwnedRoute.mem_ownedPaths_iff.mpr ⟨route, hpath⟩
      obtain ⟨cookie, body, hlocal⟩ := handleLocalRequest_of_admitted hadmitted
      obtain ⟨htablePath, hquery⟩ :=
        HyperRequest.localRequest_parts cookie body hpath (hkeeps howned hadmitted)
      refine ⟨request.localRequest cookie body, ?_, rfl, htablePath, hquery, ?_⟩
      · rw [handleHyperRequest_of_owned hmethod hpath hadmitted.wellFormed, hlocal]
      · intro platform
        exact handleRequest_of_path htablePath
    · intro route hpath hadmitted
      exact refused_of_not_admitted hmethod hpath hadmitted

def sampleGet (scheme authority : Option String) (h : scheme.all (isSchemeText ·.toList) = true)
    (hform : (scheme.isNone && authority.isSome) = false) : HyperRequest :=
  { version := .http11
    method := "GET"
    uri :=
      { scheme
        authority
        rawPath := "/healthz"
        query := some "full=1"
        scheme_isText := h
        rawPath_noQuery := by decide
        authorityForm := fun hbare => absurd (hform.symm.trans hbare) Bool.false_ne_true }
    headers := [(.host, ⟨"gateway".toUTF8.data.toList, by decide⟩)]
    isEndStream := true
    body := some [] }

def sampleOrigin : HyperRequest := sampleGet none none rfl rfl

def sampleAbsolute : HyperRequest := sampleGet (some "http") (some "gateway") (by decide) rfl

theorem sampleGet_admitted (scheme authority : Option String) (h) (hform) :
    (sampleGet scheme authority h hform).Admitted := by
  refine ⟨nofun, ?_, rfl, ?_, ?_⟩
  · exact Option.some_ne_none _
  · have hnone : (sampleGet scheme authority h hform).declaredLength = none := by
      change ((Multimap.get [(HeaderName.host, _)] _).bind _).bind _ = none
      decide
    rw [hnone]
    exact nofun
  · exact Option.some_ne_none _

theorem routing_agrees_iff_sample :
    sampleOrigin.uri.path = "/healthz" ∧ sampleOrigin.Admitted ∧ RoutingAgrees sampleConfig sampleOrigin := by
  refine ⟨by decide, sampleGet_admitted _ _ _ _, ?_⟩
  apply (routing_agrees_iff sampleConfig sampleOrigin (by decide)).mpr
  intro _ _
  exact Or.inr rfl

/-- `GET http://gateway/healthz?full=1` over HTTP/1.1 is owned, and is answered as an unknown path. -/
theorem absolute_form_not_found :
    sampleAbsolute.uri.path = "/healthz" ∧ sampleAbsolute.Admitted
      ∧ (∃ table, handleHyperRequest sampleConfig sampleAbsolute = .localTable table
          ∧ table.path = "http://gateway/healthz"
          ∧ ∀ platform, handleRequest platform sampleConfig table = OwnedRoute.notFound)
      ∧ ¬RoutingAgrees sampleConfig sampleAbsolute := by
  have hpath : sampleAbsolute.uri.path = OwnedRoute.healthz.path := by decide
  have hadmitted : sampleAbsolute.Admitted := sampleGet_admitted _ _ _ _
  have htable : handleHyperRequest sampleConfig sampleAbsolute
      = .localTable (sampleAbsolute.localRequest none []) := by
    rw [handleHyperRequest_of_owned (by decide) hpath hadmitted.wellFormed]
    decide
  have htablePath : (sampleAbsolute.localRequest none []).path = "http://gateway/healthz" := by decide
  refine ⟨hpath, hadmitted, ⟨_, htable, htablePath, ?_⟩, ?_⟩
  · intro platform
    apply handleRequest_of_not_owned
    rw [htablePath]
    decide
  · intro hagrees
    obtain ⟨table, hreached, -, hown, -⟩ := hagrees.owned .healthz hpath hadmitted
    rw [htable] at hreached
    cases hreached
    rw [htablePath] at hown
    revert hown
    decide

end AuthMiniGateway
