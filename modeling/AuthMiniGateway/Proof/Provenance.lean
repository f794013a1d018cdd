import AuthMiniGateway.Proof.SafeTargets
import AuthMiniGateway.Proof.SystemRun

namespace AuthMiniGateway

open Trace

/-! ### What a verified token says -/

def FirstWithKid (jwks : Jwks) (kid : String) (key : Jwk) : Prop :=
  ∃ before after, jwks.keys = before ++ key :: after ∧ key.kid = some kid ∧
    ∀ earlier ∈ before, earlier.kid ≠ some kid

/-- Three segments, of which the last is a signature of the first two under the key that the first one
names; the second one holds the payload. -/
def SignedToken (lib : ClientLib) (jwks : Jwks) (token : String) (payload : JsonValue) : Prop :=
  ∃ header body signature headerJson kid key x publicBytes signatureBytes,
    (token.toList.splitOn '.').map String.ofList = [header, body, signature] ∧
    decodeJson lib header = some headerJson ∧
    (headerJson.get "kid").bind JsonValue.asStr = some kid ∧
    FirstWithKid jwks kid key ∧
    key.alg = some "EdDSA" ∧ key.kty = some "OKP" ∧ key.crv = some "Ed25519" ∧
    key.x = some x ∧ lib.b64Decode x = some publicBytes ∧
    lib.b64Decode signature = some signatureBytes ∧
    lib.verifies publicBytes signatureBytes (header ++ "." ++ body) = true ∧
    decodeJson lib body = some payload

structure AccessClaims (payload : JsonValue) (issuer : String) (nowUnix : Int)
    (claims : VerifiedAccessToken) : Prop where
  iss : (payload.get "iss").bind JsonValue.asStr = some issuer
  typ : (payload.get "typ").bind JsonValue.asStr = some "access"
  exp : (payload.get "exp").bind JsonValue.asI64 = some claims.exp
  unexpired : nowUnix < claims.exp
  sub : (payload.get "sub").bind JsonValue.asStr = some claims.userId
  sub_nonempty : claims.userId ≠ ""
  sid : (payload.get "sid").bind JsonValue.asStr = some claims.authSessionId
  sid_nonempty : claims.authSessionId ≠ ""
  amr : payload.get "amr" = some (.array (claims.amr.map .string))

/-- Everything that is asked of a token but its audience. -/
def Genuine (client : AuthMiniClient) (v : Verification) (audience : Option JsonValue) : Prop :=
  ∃ payload, SignedToken client.lib v.jwks v.token payload ∧
    AccessClaims payload client.issuer v.nowUnix v.claims ∧ payload.get "aud" = audience

def AudienceNames (audience : Option JsonValue) (expected : String) : Prop :=
  audience = some (.string expected) ∨
    ∃ names : List String, audience = some (.array (names.map .string)) ∧ (∀ name ∈ names, name ≠ "") ∧
      expected ∈ names

variable {jwks : Jwks} {items : List JsonValue} {nowUnix : Int} {claims : VerifiedAccessToken}
  {client : AuthMiniClient} {token : String}

theorem firstWithKid_of_find? {kid : String} {key : Jwk}
    (h : jwks.keys.find? (fun key => decide (key.kid = some kid)) = some key) :
    FirstWithKid jwks kid key := by
  obtain ⟨hkid, before, after, hkeys, hbefore⟩ := List.find?_eq_some_iff_append.mp h
  refine ⟨before, after, hkeys, of_decide_eq_true hkid, ?_⟩
  intro earlier hearlier heq
  have hnot := hbefore earlier hearlier
  rw [decide_eq_true heq] at hnot
  cases hnot

theorem asStr_eq_some {value : JsonValue} {text : String} :
    value.asStr = some text ↔ value = .string text := by
  cases value <;> simp [JsonValue.asStr]

theorem asArray_eq_some {value : JsonValue} :
    value.asArray = some items ↔ value = .array items := by
  cases value <;> simp [JsonValue.asArray]

theorem step_eq_some {α β : Type} {x : Option α} {f : α → Option β} {b : β} :
    x >>= f = some b ↔ ∃ a, x = some a ∧ f a = some b := Option.bind_eq_some_iff

theorem mapM_asStr {texts : List String} (h : items.mapM JsonValue.asStr = some texts) :
    items = texts.map .string := by
  induction items generalizing texts with
  | nil =>
    cases h
    rfl
  | cons _ _ ih =>
    simp only [List.mapM_cons, step_eq_some] at h
    obtain ⟨text, htext, rest, hrest, ⟨⟩⟩ := h
    rw [asStr_eq_some.mp htext, ih hrest]
    rfl

theorem guard_eq_some_iff {p : Prop} [Decidable p] {u : Unit} : guard (f := Option) p = some u ↔ p := by
  rw [guard]
  split <;> simp_all

theorem accessClaims_of_readClaims {payload : JsonValue} {issuer : String}
    (h : readClaims payload issuer nowUnix = some claims) :
    AccessClaims payload issuer nowUnix claims := by
  simp only [readClaims, step_eq_some, guard_eq_some_iff, Option.filter_eq_some_iff, decide_eq_true_eq] at h
  obtain ⟨_, hiss, _, htyp, exp, hexp, _, hunexpired, userId, ⟨hsub, hsubNonempty⟩, authSessionId,
    ⟨hsid, hsidNonempty⟩, items, hitems, amr, hamr, ⟨⟩⟩ := h
  obtain ⟨value, hvalue, harray⟩ := Option.bind_eq_some_iff.mp hitems
  refine ⟨hiss, htyp, hexp, hunexpired, hsub, hsubNonempty, hsid, hsidNonempty, ?_⟩
  rw [hvalue, asArray_eq_some.mp harray, mapM_asStr hamr]

theorem signingKey_eq_some {lib : ClientLib} {header : JsonValue} {publicBytes : List UInt8}
    (h : signingKey lib header jwks = some publicBytes) :
    ∃ kid key x, (header.get "kid").bind JsonValue.asStr = some kid ∧ FirstWithKid jwks kid key ∧
      key.alg = some "EdDSA" ∧ key.kty = some "OKP" ∧ key.crv = some "Ed25519" ∧
      key.x = some x ∧ lib.b64Decode x = some publicBytes := by
  simp only [signingKey, step_eq_some, guard_eq_some_iff] at h
  obtain ⟨_, -, kid, hkid, key, hkey, _, ⟨halg, hkty, hcrv⟩, x, hx, bytes, hbytes, _, -, ⟨⟩⟩ := h
  exact ⟨kid, key, x, hkid, firstWithKid_of_find? hkey, halg, hkty, hcrv, hx, hbytes⟩

theorem genuine_of_verifyClaims {v : Verification} {audience : Option JsonValue}
    (h : verifyClaims client.lib v.token v.jwks client.issuer v.nowUnix = some (v.claims, audience)) :
    Genuine client v audience := by
  rw [verifyClaims] at h
  split at h
  · rename_i header body signature hsegments
    simp only [step_eq_some, guard_eq_some_iff] at h
    obtain ⟨headerJson, hheader, publicBytes, hkey, signatureBytes, hsignature, _, hverifies, payload,
      hpayload, claims, hclaims, ⟨⟩⟩ := h
    obtain ⟨kid, key, x, hkid, hfirst, halg, hkty, hcrv, hx, hbytes⟩ := signingKey_eq_some hkey
    refine ⟨payload, ?_, accessClaims_of_readClaims hclaims, rfl⟩
    exact ⟨header, body, signature, headerJson, kid, key, x, publicBytes, signatureBytes, hsegments,
      hheader, hkid, hfirst, halg, hkty, hcrv, hx, hbytes, hsignature, hverifies, hpayload⟩
  · cases h

/-! ### The audience -/

def IsName (value : JsonValue) : Prop := ∃ name, value = .string name ∧ name ≠ ""

theorem audienceListContains_cons (expected : String) (item : JsonValue) (items : List JsonValue)
    (found : Bool) :
    (∃ name, item = .string name ∧ name ≠ "" ∧
        audienceListContains expected (item :: items) found
          = audienceListContains expected items (found || decide (name = expected)))
      ∨ ¬IsName item ∧ audienceListContains expected (item :: items) found = false := by
  rw [audienceListContains]
  cases hitem : item.asStr with
  | none =>
    refine Or.inr ⟨?_, rfl⟩
    rintro ⟨name, rfl, -⟩
    cases hitem
  | some name =>
    have hstring := asStr_eq_some.mp hitem
    by_cases hempty : name = ""
    · subst hempty
      refine Or.inr ⟨?_, rfl⟩
      rintro ⟨other, heq, hother⟩
      rw [hstring] at heq
      cases heq
      exact hother rfl
    · refine Or.inl ⟨name, hstring, hempty, ?_⟩
      split
      · rename_i heq
        cases heq
      · rename_i heq
        cases heq
        exact absurd rfl hempty
      · rename_i heq
        cases heq
        rfl

theorem audienceListContains_eq_true {expected : String} {found : Bool} :
    audienceListContains expected items found = true ↔
      (∀ item ∈ items, IsName item) ∧ (found = true ∨ .string expected ∈ items) := by
  induction items generalizing found with
  | nil => simp [audienceListContains]
  | cons item items ih =>
    rw [List.forall_mem_cons, List.mem_cons]
    rcases audienceListContains_cons expected item items found with
      ⟨name, rfl, hname, heq⟩ | ⟨hbad, heq⟩
    · have hnamed : IsName (.string name) := ⟨name, rfl, hname⟩
      rw [heq, ih, Bool.or_eq_true, decide_eq_true_eq, or_assoc]
      simp [hnamed, eq_comm]
    · rw [heq]
      constructor
      · intro h
        cases h
      · rintro ⟨⟨hnamed, -⟩, -⟩
        exact absurd hnamed hbad

/-- **The order of an audience list does not matter**, and neither do repetitions. -/
theorem audienceClaimContains_array_congr (expected : String) {items' : List JsonValue}
    (hsame : ∀ item, item ∈ items ↔ item ∈ items') :
    audienceClaimContains (some (.array items)) expected
      = audienceClaimContains (some (.array items')) expected := by
  rw [Bool.eq_iff_iff]
  change audienceListContains expected items false = true
    ↔ audienceListContains expected items' false = true
  rw [audienceListContains_eq_true, audienceListContains_eq_true]
  simp only [hsame]

theorem exists_names (h : ∀ item ∈ items, IsName item) :
    ∃ names : List String, items = names.map .string ∧ ∀ name ∈ names, name ≠ "" := by
  induction items with
  | nil => exact ⟨[], rfl, fun _ hname => absurd hname List.not_mem_nil⟩
  | cons _ _ ih =>
    obtain ⟨⟨name, rfl, hname⟩, hitems⟩ := List.forall_mem_cons.mp h
    obtain ⟨names, rfl, hnames⟩ := ih hitems
    exact ⟨name :: names, rfl, List.forall_mem_cons.mpr ⟨hname, hnames⟩⟩

theorem audienceNames_of_contains {audience : Option JsonValue} {expected : String}
    (h : audienceClaimContains audience expected = true) : AudienceNames audience expected := by
  unfold audienceClaimContains at h
  split at h
  · left
    rw [of_decide_eq_true h]
  · obtain ⟨hnamed, hfound⟩ := audienceListContains_eq_true.mp h
    obtain ⟨names, rfl, hnames⟩ := exists_names hnamed
    refine Or.inr ⟨names, rfl, hnames, ?_⟩
    rcases hfound with hfalse | hmem
    · cases hfalse
    · obtain ⟨name, hname, heq⟩ := List.mem_map.mp hmem
      cases heq
      exact hname
  · cases h

/-! ### What the client accepts -/

/-- The client accepted the token as it was verified. -/
def Accepted (client : AuthMiniClient) (v : Verification) : Prop :=
  ∃ audience, Genuine client v audience ∧ AudienceNames audience client.audience

theorem accepted_of_ok {v : Verification}
    (h : verifyAccessToken client.lib v.token v.jwks client.issuer client.audience v.nowUnix
      = .ok v.claims) : Accepted client v := by
  rw [verifyAccessToken] at h
  cases hclaims : verifyClaims client.lib v.token v.jwks client.issuer v.nowUnix with
  | none =>
    rw [hclaims] at h
    cases h
  | some result =>
    obtain ⟨claims, audience⟩ := result
    rw [hclaims] at h
    dsimp only at h
    split_ifs at h with haudience
    cases h
    exact ⟨audience, genuine_of_verifyClaims hclaims, audienceNames_of_contains haudience⟩

theorem genuine_of_audienceRejected
    (h : verifyAccessToken client.lib token jwks client.issuer client.audience nowUnix
      = .error .audienceRejected) :
    ∃ claims audience, Genuine client ⟨token, jwks, nowUnix, claims⟩ audience := by
  rw [verifyAccessToken] at h
  cases hclaims : verifyClaims client.lib token jwks client.issuer nowUnix with
  | none =>
    rw [hclaims] at h
    cases h
  | some result =>
    obtain ⟨claims, audience⟩ := result
    exact ⟨claims, audience,
      genuine_of_verifyClaims (v := ⟨token, jwks, nowUnix, claims⟩) hclaims⟩

theorem verifyInitialAccess_eq_ok {keys : Except RefreshError Jwks}
    (h : client.verifyInitialAccess token keys nowUnix = .ok claims) :
    ∃ jwks, keys = .ok jwks ∧
      verifyAccessToken client.lib token jwks client.issuer client.audience nowUnix = .ok claims := by
  unfold AuthMiniClient.verifyInitialAccess at h
  cases keys with
  | error => cases h
  | ok jwks =>
    refine ⟨jwks, rfl, ?_⟩
    dsimp only at h
    split at h
    · cases h
      assumption
    · cases h
    · cases h

theorem verifyRefreshedAccess_eq_ok
    (h : client.verifyRefreshedAccess token jwks nowUnix = .ok claims) :
    verifyAccessToken client.lib token jwks client.issuer client.audience nowUnix = .ok claims := by
  unfold AuthMiniClient.verifyRefreshedAccess at h
  split at h
  · cases h
    assumption
  · cases h
  · cases h

theorem Verification.ofInitial_error (token : String) (nowUnix : Int) (keys : Except RefreshError Jwks)
    (error : InitialAccessError) : ofInitial token nowUnix keys (.error error) = [] := by
  cases keys <;> rfl

theorem AuthMiniClient.Replies.accepted {op : AuthOp} {answer : op.Answer}
    {verified : List Verification} (h : client.Replies op answer verified) :
    ∀ v ∈ verified, Accepted client v := by
  intro v hv
  cases op with
  | verifyInitialAccess token =>
    obtain ⟨cache, now, fetched, nowUnix, hanswer, rfl⟩ := h
    cases hclaims : client.verifyInitialAccess token (client.jwks cache now fetched) nowUnix with
    | error =>
      rw [hanswer, hclaims, Verification.ofInitial_error] at hv
      cases hv
    | ok =>
      obtain ⟨jwks, hkeys, hverified⟩ := verifyInitialAccess_eq_ok hclaims
      rw [hanswer, hclaims, hkeys] at hv
      cases List.mem_singleton.mp hv
      exact accepted_of_ok hverified
  | verifyRefreshedAccess token jwks =>
    obtain ⟨nowUnix, hanswer, rfl⟩ := h
    cases hclaims : client.verifyRefreshedAccess token jwks nowUnix with
    | error =>
      rw [hanswer, hclaims] at hv
      cases hv
    | ok =>
      rw [hanswer, hclaims] at hv
      cases List.mem_singleton.mp hv
      exact accepted_of_ok (verifyRefreshedAccess_eq_ok hclaims)
  | _ =>
    obtain ⟨-, rfl⟩ := h
    cases hv

def AuthOp.Verifies : (op : AuthOp) → op.Answer → String → VerifiedAccessToken → Prop
  | .verifyInitialAccess token, answer, token', claims => token = token' ∧ answer = .ok claims
  | .verifyRefreshedAccess token _, answer, token', claims => token = token' ∧ answer = .ok claims
  | _, _, _, _ => False

theorem AuthMiniClient.Replies.recorded {op : AuthOp} {answer : op.Answer}
    {verified : List Verification} (h : client.Replies op answer verified)
    (hverifies : op.Verifies answer token claims) :
    ∃ v ∈ verified, v.token = token ∧ v.claims = claims := by
  cases op with
  | verifyInitialAccess =>
    obtain ⟨cache, now, fetched, nowUnix, hanswer, rfl⟩ := h
    obtain ⟨rfl, rfl⟩ := hverifies
    obtain ⟨jwks, hkeys, -⟩ := verifyInitialAccess_eq_ok hanswer.symm
    rw [hkeys]
    exact ⟨_, List.mem_singleton_self _, rfl, rfl⟩
  | verifyRefreshedAccess =>
    obtain ⟨nowUnix, hanswer, rfl⟩ := h
    obtain ⟨rfl, rfl⟩ := hverifies
    exact ⟨_, List.mem_singleton_self _, rfl, rfl⟩
  | _ => exact hverifies.elim

/-! ### Lawful changes of the world -/

/-- The tokens that a call stores were verified, for the session they are stored in. -/
def TokensVerified (verifications : List Verification) : StoreOp → Prop
  | .createSession input => ∃ v ∈ verifications, v.token = input.accessToken ∧
      v.claims.authSessionId = input.authSessionId ∧ v.claims.userId = input.userId ∧
      unixToTime v.claims.exp = some input.accessExpiresAt
  | .persistPending original next => ∃ v ∈ verifications, v.token = next.accessToken ∧
      v.claims.authSessionId = original.authSessionId ∧ v.claims.userId = original.userId ∧
      next.userId = original.userId ∧ unixToTime v.claims.exp = some next.accessExpiresAt
  | _ => True

inductive Lawful (json : AmrJson) (client : AuthMiniClient) (w w' : ClientWorld) : Prop where
  | verified {verified : List Verification} (hstore : w'.store = w.store)
      (haccepted : ∀ v ∈ verified, Accepted client v)
      (hrecord : w'.verifications = verified ++ w.verifications)
  | stored {r : Readings} {op : StoreOp} (hstore : w'.store = w.store.step json r op)
      (hfresh : op.creates = true → r.token ∉ w.store.issued)
      (hseen : ∀ session ∈ op.snapshots, session ∈ w.store.seen)
      (htokens : TokensVerified w.verifications op) (hrecord : w'.verifications = w.verifications)

section Lawful

variable {json : AmrJson} {client : AuthMiniClient} {w w' : ClientWorld}

theorem Lawful.of_same (hstore : w'.store = w.store) (hrecord : w'.verifications = w.verifications) :
    Lawful json client w w' :=
  .verified hstore (fun _ hv => absurd hv List.not_mem_nil) hrecord

def StoredFrom (row : SessionRow) (v : Verification) : Prop :=
  row.accessToken = v.token ∧ row.authSessionId = v.claims.authSessionId ∧
    row.userId = v.claims.userId ∧
    ∃ expiresAt, unixToTime v.claims.exp = some expiresAt ∧ row.accessExpiresAt = formatTime expiresAt

def SameOwner (row : SessionRow) (session : GatewaySession) : Prop :=
  row.userId = session.userId ∧ row.authSessionId = session.authSessionId

structure Provenance (client : AuthMiniClient) (w : ClientWorld) : Prop where
  accepted : ∀ v ∈ w.verifications, Accepted client v
  registered : w.store.Registered
  rows : ∀ id row, w.store.db.sessions id = some row → ∃ v ∈ w.verifications, StoredFrom row v
  seen_issued : ∀ session ∈ w.store.seen, session.id ∈ w.store.issued
  seen_owner : ∀ session ∈ w.store.seen, ∀ row, w.store.db.sessions session.id = some row →
    SameOwner row session

variable {r : Readings} {op : StoreOp} {id : String} {row row' : SessionRow}

theorem Provenance.owner_of_update (h : Provenance client w)
    (hseen : ∀ session ∈ op.snapshots, session ∈ w.store.seen)
    (htokens : TokensVerified w.verifications op) (hrow : w.store.db.sessions id = some row)
    (hupdate : RowUpdate json r id op row row') :
    row'.userId = row.userId ∧ row'.authSessionId = row.authSessionId := by
  refine ⟨?_, hupdate.authSessionId_eq⟩
  cases hupdate with
  | persisted hid hversion hlive =>
    rename_i original next
    obtain ⟨v, -, -, -, -, huser, -⟩ := htokens
    have howner := h.seen_owner original (hseen original (List.mem_singleton_self original)) row
      (hid ▸ hrow)
    exact huser.trans howner.1.symm
  | _ => rfl

theorem Provenance.stored_of_update (h : Provenance client w)
    (hseen : ∀ session ∈ op.snapshots, session ∈ w.store.seen)
    (htokens : TokensVerified w.verifications op) (hrow : w.store.db.sessions id = some row)
    (hupdate : RowUpdate json r id op row row') : ∃ v ∈ w.verifications, StoredFrom row' v := by
  cases hupdate with
  | persisted hid hversion hlive =>
    rename_i original next
    obtain ⟨v, hv, htoken, hsession, huser, hnext, hexpires⟩ := htokens
    have howner := h.seen_owner original (hseen original (List.mem_singleton_self original)) row
      (hid ▸ hrow)
    exact ⟨v, hv, htoken.symm, howner.2.trans hsession.symm, hnext.trans huser.symm, _, hexpires, rfl⟩
  | _ =>
    obtain ⟨v, hv, hstored⟩ := h.rows id row hrow
    exact ⟨v, hv, hstored⟩

theorem Lawful.issued_subset (hlawful : Lawful json client w w') : w.store.issued ⊆ w'.store.issued := by
  cases hlawful with
  | verified hstore => rw [hstore]; exact List.Subset.refl _
  | stored hstore => rw [hstore]; exact StoreState.issued_subset_step

theorem Provenance.owner_of_lawful (h : Provenance client w) (hlawful : Lawful json client w w')
    (hissued : id ∈ w.store.issued) (hrow' : w'.store.db.sessions id = some row') :
    ∃ row, w.store.db.sessions id = some row ∧ row'.userId = row.userId ∧
      row'.authSessionId = row.authSessionId := by
  cases hlawful with
  | verified hstore =>
    rw [hstore] at hrow'
    exact ⟨row', hrow', rfl, rfl⟩
  | stored hstore hfresh hseen htokens =>
    rw [hstore] at hrow'
    obtain ⟨row, hrow, hupdate⟩ := StoreState.Tracked.row_before hfresh hissued hrow'
    exact ⟨row, hrow, h.owner_of_update hseen htokens hrow hupdate⟩

theorem Provenance.seen_of_stored {session : GatewaySession} (h : Provenance client w)
    (hseen : ∀ session ∈ op.snapshots, session ∈ w.store.seen)
    (hsession : session ∈ (w.store.step json r op).seen) :
    session ∈ w.store.seen ∨
      ∃ row, (w.store.step json r op).db.sessions session.id = some row ∧ SameOwner row session := by
  rcases List.mem_append.mp hsession with hnew | hold
  · rcases sessionsIn_cases hnew with hsnapshot | ⟨key, row, hrow, hreads, -⟩
    · exact Or.inl (hseen session hsnapshot)
    · have hkeyed : (w.store.step json r op).Keyed := h.registered.keyed.step
      have hid : session.id = key := hreads.id.trans (hkeyed key row hrow)
      exact Or.inr ⟨row, hid ▸ hrow, hreads.userId.symm, hreads.authSessionId.symm⟩
  · exact Or.inl hold

theorem Provenance.rows_of_stored (h : Provenance client w)
    (hseen : ∀ session ∈ op.snapshots, session ∈ w.store.seen)
    (htokens : TokensVerified w.verifications op)
    (hrow : (w.store.step json r op).db.sessions id = some row) :
    ∃ v ∈ w.verifications, StoredFrom row v := by
  have heffect := w.store.step_rowEffect json r op id
  rw [hrow] at heffect
  generalize hbefore : w.store.db.sessions id = before at heffect
  cases heffect with
  | updated hupdate => exact h.stored_of_update hseen htokens hbefore hupdate
  | created hop =>
    subst hop
    obtain ⟨v, hv, htoken, hsession, huser, hexpires⟩ := htokens
    exact ⟨v, hv, htoken.symm, hsession.symm, huser.symm, _, hexpires, rfl⟩

theorem Provenance.lawful (h : Provenance client w) (hlawful : Lawful json client w w') :
    Provenance client w' := by
  cases hlawful with
  | verified hstore haccepted hrecord =>
    refine ⟨?_, hstore ▸ h.registered, ?_, hstore ▸ h.seen_issued, hstore ▸ h.seen_owner⟩
    · intro v hv
      rw [hrecord] at hv
      rcases List.mem_append.mp hv with hnew | hold
      · exact haccepted v hnew
      · exact h.accepted v hold
    · intro id row hrow
      rw [hstore] at hrow
      obtain ⟨v, hv, hstored⟩ := h.rows id row hrow
      rw [hrecord]
      exact ⟨v, List.mem_append_right _ hv, hstored⟩
  | @stored _ _ hstore hfresh hseen htokens hrecord =>
    have hissued : ∀ id row, w'.store.db.sessions id = some row → id ∈ w'.store.issued := by
      rw [hstore]
      intro id row hrow
      exact StoreState.Tracked.row_issued_step h.registered.row_issued hrow
    refine ⟨hrecord ▸ h.accepted, ⟨hstore ▸ h.registered.keyed.step, hissued⟩, ?_, ?_, ?_⟩
    · rw [hstore, hrecord]
      intro id row hrow
      exact h.rows_of_stored hseen htokens hrow
    · intro session hsession
      rw [hstore] at hsession
      rcases h.seen_of_stored hseen hsession with hold | ⟨row, hrow, -⟩
      · rw [hstore]
        exact StoreState.issued_subset_step (h.seen_issued session hold)
      · exact hissued session.id row (hstore ▸ hrow)
    · intro session hsession row hrow
      rw [hstore] at hsession hrow
      rcases h.seen_of_stored hseen hsession with hold | ⟨row', hrow', howner⟩
      · obtain ⟨before, hbefore, hupdate⟩ :=
          StoreState.Tracked.row_before hfresh (h.seen_issued session hold) hrow
        obtain ⟨huser, hauth⟩ := h.owner_of_update hseen htokens hbefore hupdate
        obtain ⟨huser', hauth'⟩ := h.seen_owner session hold before hbefore
        exact ⟨huser.trans huser', hauth.trans hauth'⟩
      · rw [hrow'] at hrow
        cases hrow
        exact howner

theorem provenance_initial (clock : Int) : Provenance client (ClientWorld.initial clock) where
  accepted _ hv := absurd hv List.not_mem_nil
  registered := ⟨fun _ _ hrow => (by cases hrow), fun _ _ hrow => (by cases hrow)⟩
  rows _ _ hrow := by cases hrow
  seen_issued _ hsession := absurd hsession List.not_mem_nil
  seen_owner _ hsession := absurd hsession List.not_mem_nil

end Lawful

/-! ### Runs -/

section Runs

variable {json : AmrJson} {client : AuthMiniClient} {platform : Platform} {config : Config}
  {start : ClientWorld} {pool pool' : Pool serverInterface Nat ClientWorld SystemJob SystemAnswer}

def clientSpec (json : AmrJson) (client : AuthMiniClient) (platform : Platform) (config : Config) :
    ExchangeSpec (clientMachine json client platform config) where
  guar _ := Grounded
  contract job := flightContract (decisionOrigin (cookieSession platform config job.cookie))
  goal := SystemJob.Goal platform config
  kept _ := flightContract_grounded
  starts := grounds_start

variable {w w' : ClientWorld}

/-- An action is a call on the store that was executed, or it leaves the store alone. -/
theorem clientAct_cases {op : ServerOp} {reply : op.Reply} (h : clientAct json client op w reply w') :
    (∃ call r, op = .store call ∧ (call.creates = true → r.token ∉ w.store.issued) ∧
      w'.store = w.store.step json r call ∧ w'.verifications = w.verifications) ∨
    w'.store = w.store ∧ ∃ verified, (∀ v ∈ verified, Accepted client v) ∧
      w'.verifications = verified ++ w.verifications := by
  cases op with
  | store call =>
    obtain ⟨⟨r, hfresh, -, hstep⟩ | ⟨error, -, hsame⟩, -, hrecord⟩ := h
    · exact .inl ⟨call, r, rfl, hfresh, hstep, hrecord⟩
    · exact .inr ⟨hsame, [], nofun, hrecord⟩
  | auth =>
    obtain ⟨verified, hreplies, rfl⟩ := h
    exact .inr ⟨rfl, verified, hreplies.accepted, rfl⟩
  | now =>
    obtain rfl := h
    exact .inr ⟨rfl, [], nofun, rfl⟩
  | waitOutcome =>
    obtain ⟨-, rfl⟩ := h
    exact .inr ⟨rfl, [], nofun, rfl⟩
  | acquire sessionId observed | addAlias flight observed
  | complete => exact .inr ⟨h.2.1, [], nofun, h.2.2⟩

theorem clientAct_subset {op : ServerOp} {reply : op.Reply}
    (h : clientAct json client op w reply w') :
    w.store.seen ⊆ w'.store.seen ∧ w.verifications ⊆ w'.verifications := by
  rcases clientAct_cases h with ⟨call, r, -, -, hstep, hrecord⟩ | ⟨hsame, verified, -, hrecord⟩
  · rw [hstep, hrecord]
    exact ⟨List.subset_append_right _ _, List.Subset.refl _⟩
  · rw [hsame, hrecord]
    exact ⟨List.Subset.refl _, List.subset_append_right _ _⟩

theorem worldStep_subset (hstep : (clientMachine json client platform config).WorldStep w w') :
    w.store.seen ⊆ w'.store.seen ∧ w.verifications ⊆ w'.verifications := by
  rcases hstep with rfl | ⟨i, op, reply, hact⟩
  · exact ⟨List.Subset.refl _, List.Subset.refl _⟩
  · exact clientAct_subset hact

theorem worldRun_subset (hrun : (clientMachine json client platform config).WorldRun w w') :
    w.store.seen ⊆ w'.store.seen ∧ w.verifications ⊆ w'.verifications := by
  induction hrun with
  | refl => exact ⟨List.Subset.refl _, List.Subset.refl _⟩
  | tail _ hstep ih =>
    obtain ⟨hseen, hrecord⟩ := worldStep_subset hstep
    exact ⟨List.Subset.trans ih.1 hseen, List.Subset.trans ih.2 hrecord⟩

section Reached

variable (hrun : PoolRun (clientMachine json client platform config) (Pool.idle start) pool)

include hrun

section Worker

variable {i : Nat} {worker : Worker serverInterface ClientWorld SystemJob SystemAnswer}
  (hworker : pool.workers i = some worker)

include hworker

/-- Whatever a worker was handed is recorded as handed out, and what it was told is verified is recorded
as verified. -/
theorem exchange_recorded {x : Exchange serverInterface}
    (hx : x ∈ worker.history.map Event.toExchange) :
    (∀ session ∈ handedOut x, session ∈ pool.world.store.seen) ∧
      ∀ op answer token claims, x = ⟨.auth op, answer⟩ → op.Verifies answer token claims →
        ∃ v ∈ pool.world.verifications, v.token = token ∧ v.claims = claims := by
  have hchained := Pool.chained_of_run hrun (fun _ _ hidle => by cases hidle) i worker hworker
  obtain ⟨before, after, hevent⟩ := mem_exchanges.mp hx
  obtain ⟨-, hact, hlater⟩ := hchained.of_mem hevent
  obtain ⟨hseen, hrecord⟩ := worldRun_subset hlater
  constructor
  · intro session hsession
    apply hseen
    obtain ⟨op, reply⟩ := x
    cases op with
    | store => exact hact.1.handedOut session hsession
    | _ => cases hsession
  · rintro op answer token claims rfl hverifies
    obtain ⟨verified, hreplies, hafter⟩ := hact
    obtain ⟨v, hv, htoken, hclaims⟩ := hreplies.recorded hverifies
    refine ⟨v, hrecord ?_, htoken, hclaims⟩
    dsimp only at hafter ⊢
    rw [hafter]
    exact List.mem_append_left _ hv

theorem tokensVerified_of_grounded {op : StoreOp}
    (hgrounded : Grounded (.store op) (worker.history.map Event.toExchange)) :
    TokensVerified pool.world.verifications op := by
  cases op with
  | createSession input =>
    obtain ⟨verified, hx, hsession, huser, hexpires⟩ := hgrounded.created input rfl
    obtain ⟨v, hv, htoken, rfl⟩ :=
      (exchange_recorded hrun hworker hx).2 _ _ input.accessToken verified rfl ⟨rfl, rfl⟩
    exact ⟨v, hv, htoken, hsession, huser, hexpires⟩
  | persistPending original next =>
    obtain ⟨refreshed, verified, jwks, -, hx, hsession, huser, haccess, -, hnext, -, hexpires⟩ :=
      hgrounded.persisted original next rfl
    obtain ⟨v, hv, htoken, rfl⟩ :=
      (exchange_recorded hrun hworker hx).2 _ _ refreshed.accessToken verified rfl ⟨rfl, rfl⟩
    exact ⟨v, hv, htoken.trans haccess.symm, hsession, huser, hnext.trans huser, hexpires⟩
  | _ => trivial

end Worker

theorem lawful_of_step
    (hstep : PoolStep (clientMachine json client platform config) pool pool') :
    Lawful json client pool.world pool'.world := by
  cases hstep with
  | env henv =>
    obtain rfl := henv
    exact .of_same rfl rfl
  | spawn i job hfree | call hworker => exact .of_same rfl rfl
  | @request _ _ op _ history _ world _ hworker hact =>
    change Lawful json client pool.world world
    have hsound := (clientSpec json client platform config).discipline.sound_of_run
      ((clientSpec json client platform config).discipline.sound_idle trivial) hrun
    have hgrounded : Grounded op (history.map Event.toExchange) := hsound.guar_of_request hworker
    rcases clientAct_cases hact with ⟨call, r, rfl, hfresh, hstep, hrecord⟩ | ⟨hsame, verified, haccepted, hrecord⟩
    · refine .stored hstep hfresh ?_ (tokensVerified_of_grounded hrun hworker hgrounded) hrecord
      intro session hsession
      obtain ⟨x, hx, hhanded⟩ := hgrounded.snapshots session hsession
      exact (exchange_recorded hrun hworker hx).1 session hhanded
    · exact .verified hsame haccepted hrecord

theorem provenance_of_run (hstart : Provenance client start) : Provenance client pool.world := by
  induction hrun with
  | refl => exact hstart
  | tail hrun hstep ih => exact ih.lawful (lawful_of_step hrun hstep)

variable (hlater : PoolRun (clientMachine json client platform config) pool pool')

include hlater

theorem issued_of_run :
    pool.world.store.issued ⊆ pool'.world.store.issued := by
  induction hlater with
  | refl => exact List.Subset.refl _
  | tail hlater hstep ih =>
    exact List.Subset.trans ih (lawful_of_step (hrun.trans hlater) hstep).issued_subset

theorem owner_of_run (hstart : Provenance client start) {id : String}
    (hissued : id ∈ pool.world.store.issued) {row' : SessionRow}
    (hrow' : pool'.world.store.db.sessions id = some row') :
    ∃ row, pool.world.store.db.sessions id = some row ∧ row'.userId = row.userId ∧
      row'.authSessionId = row.authSessionId := by
  induction hlater generalizing row' with
  | refl => exact ⟨row', hrow', rfl, rfl⟩
  | tail hlater hstep ih =>
    have hreached := hrun.trans hlater
    have hprovenance := provenance_of_run hreached hstart
    obtain ⟨row, hrow, huser, hsession⟩ := hprovenance.owner_of_lawful (lawful_of_step hreached hstep)
      (issued_of_run hrun hlater hissued) hrow'
    obtain ⟨first, hfirst, huser', hsession'⟩ := ih hrow
    exact ⟨first, hfirst, huser.trans huser', hsession.trans hsession'⟩

end Reached

/-- **Provenance.** In every run from an empty store, the access token of every row, its expiry, its
session and its user are those of a token that the client has accepted: signed by the first key with its
identifier, of the configured issuer and for the gateway's audience, not expired when it was verified.
A row keeps its session and its user with every token stored later. A token is reported for its audience
only if everything else is in order, and an audience list counts as a set. -/
theorem token_provenance (json : AmrJson) (client : AuthMiniClient) (platform : Platform)
    (config : Config) (clock : Int)
    (hrun : PoolRun (clientMachine json client platform config) (Pool.idle (.initial clock)) pool) :
    (∀ id row, pool.world.store.db.sessions id = some row →
        ∃ v ∈ pool.world.verifications, Accepted client v ∧ StoredFrom row v) ∧
      (∀ pool', PoolRun (clientMachine json client platform config) pool pool' → ∀ id row row',
        pool.world.store.db.sessions id = some row → pool'.world.store.db.sessions id = some row' →
        row'.authSessionId = row.authSessionId ∧ row'.userId = row.userId) ∧
      (∀ token jwks nowUnix,
        verifyAccessToken client.lib token jwks client.issuer client.audience nowUnix
            = .error .audienceRejected →
          ∃ claims audience, Genuine client ⟨token, jwks, nowUnix, claims⟩ audience) ∧
      ∀ items items' : List JsonValue, (∀ item, item ∈ items ↔ item ∈ items') →
        audienceClaimContains (some (.array items)) client.audience
          = audienceClaimContains (some (.array items')) client.audience := by
  have hstart : Provenance client (.initial clock) := provenance_initial clock
  have hprovenance := provenance_of_run hrun hstart
  refine ⟨?_, ?_, ?_, ?_⟩
  · intro id row hrow
    obtain ⟨v, hv, hstored⟩ := hprovenance.rows id row hrow
    exact ⟨v, hv, hprovenance.accepted v hv, hstored⟩
  · intro pool' hlater id row row' hrow hrow'
    have hissued := hprovenance.registered.row_issued id row hrow
    obtain ⟨first, hfirst, huser, hsession⟩ := owner_of_run hrun hlater hstart hissued hrow'
    rw [hrow] at hfirst
    cases hfirst
    exact ⟨hsession, huser⟩
  · intro token jwks nowUnix hrejected
    exact genuine_of_audienceRejected hrejected
  · intro items items' hsame
    exact audienceClaimContains_array_congr client.audience hsame

end Runs

/-! ### A login -/

def sampleHeader : JsonValue := .object [("alg", .string "EdDSA"), ("kid", .string "key-1")]

def samplePayload : JsonValue :=
  .object
    [("iss", .string "https://auth.example"), ("typ", .string "access"), ("exp", .number (some 900)),
      ("sub", .string "user"), ("sid", .string "auth-session"), ("amr", .array [.string "otp"]),
      ("aud", .array [.string "other.example", .string "public.example"])]

def sampleVerifier : AuthMiniClient where
  lib :=
    { b64Decode := fun text => some text.toUTF8.data.toList
      parseJson := fun bytes => if bytes = [104] then some sampleHeader else some samplePayload
      verifies := fun _ _ _ => true
      parseErrorWire := fun _ => none
      parseTokenWire := fun _ => none
      parseJwks := fun _ => some
        ⟨[{ alg := some "EdDSA", crv := some "Ed25519", kid := some "key-1", kty := some "OKP",
            x := some "0123456789abcdef0123456789abcdef" }]⟩ }
  issuer := "https://auth.example"
  audience := "public.example"

def sampleClaims : VerifiedAccessToken :=
  { userId := "user", authSessionId := "auth-session", amr := ["otp"], exp := 900 }

def sampleCallback : Platform :=
  { samplePlatform with
    readCallback := fun _ => some
      { accessToken := some "h.p.s", refreshToken := some "refresh-0",
        sessionId := some "auth-session", tokenType := some "Bearer", state := some "session" } }

def sampleCallbackRequest : Request :=
  { method := "POST", target := "/auth/callback/session",
    headers := [("cookie", "amg_login_state=session.session0123456789abcdef0123456789abcdef")],
    body := [] }

theorem sampleClaims_verified :
    sampleVerifier.verifyInitialAccess "h.p.s" (sampleVerifier.jwks none 0 (.response 200 (some []))) 10
      = .ok sampleClaims := by
  decide

abbrev sampleMachine : Machine serverInterface Nat ClientWorld SystemJob SystemAnswer :=
  clientMachine .quoted sampleVerifier sampleCallback sampleConfig

def sampleOpened : StoreState :=
  (StoreState.initial 0).step .quoted (sampleReadings 10) (.createLoginState "/" 600)

theorem poolRun_login :
    ∃ pool, PoolRun sampleMachine (Pool.idle (.initial 0)) pool ∧
      pool.world = { ClientWorld.initial 0 with store := sampleOpened } ∧ pool.workers 1 = none := by
  let job : SystemJob := .proxyAuth none "/"
  let login : StoreOp := .createLoginState "/" 600
  let start := ClientWorld.initial 0
  obtain ⟨next, hstart⟩ : ∃ next, sampleMachine.start job = .request (.store login) next := ⟨_, rfl⟩
  let spawned : Pool serverInterface Nat ClientWorld SystemJob SystemAnswer :=
    (Pool.idle start).set 0 ⟨job, sampleMachine.start job, [], start⟩ start
  have hworker : spawned.workers 0 = some ⟨job, .request (.store login) next, [], start⟩ := by
    rw [← hstart]
    rfl
  have hact : sampleMachine.act 0 (.store login) start
      (login.exec .quoted (sampleReadings 10) start.store.db).1 { start with store := sampleOpened } :=
    ⟨Or.inl ⟨sampleReadings 10, fun h => (by cases h), Or.inl rfl, rfl⟩, rfl, rfl⟩
  have hspawn : PoolStep sampleMachine (Pool.idle start) spawned := .spawn 0 job rfl
  exact ⟨_, (Relation.ReflTransGen.single hspawn).tail (.request hworker hact), rfl, rfl⟩

theorem poolRun_callback :
    ∃ pool row, PoolRun sampleMachine (Pool.idle (.initial 0)) pool ∧
      pool.world.store.db.sessions "row" = some row ∧ row.accessToken = "h.p.s" := by
  let opened : ClientWorld := { ClientWorld.initial 0 with store := sampleOpened }
  let consumed : ClientWorld :=
    { opened with store := sampleOpened.step .quoted (sampleReadings 20) (.consumeLoginState "session") }
  let verified : ClientWorld :=
    { consumed with
      verifications := Verification.ofInitial "h.p.s" 10
        (sampleVerifier.jwks none 0 (.response 200 (some []))) (.ok sampleClaims) }
  let readings : Readings := { sampleReadings 30 with token := "row" }
  let input : NewSession :=
    { sampleLogin with
      accessToken := "h.p.s", idleTtlSeconds := 604800,
      absoluteTtlSeconds := 2592000 }
  have hconsumed : (Store.consumeLoginState (20 * nanosPerSecond) sampleOpened.db "session").1
      = .ok (some { id := "session", returnTo := "/", expiresAt := 610 * nanosPerSecond }) := by
    decide
  have hstored : ((verified.store.step .quoted readings (.createSession input)).db.sessions "row").map
      SessionRow.accessToken = some "h.p.s" := by
    decide
  obtain ⟨pool, hrun, hworld, hfree⟩ := poolRun_login
  obtain ⟨_, hrun, hspawned, hworker⟩ := PoolRun.extend_spawn hrun 1 (.request sampleCallbackRequest) hfree
  rw [hworld] at hspawned
  obtain ⟨_, hrun, hworld, hworker⟩ := PoolRun.extend_request hrun hspawned hworker
    (.ok (some { id := "session", returnTo := "/", expiresAt := 610 * nanosPerSecond })) consumed
    ⟨Or.inl ⟨sampleReadings 20, fun h => (by cases h), Or.inl hconsumed.symm, rfl⟩, rfl, rfl⟩
  obtain ⟨asked, hrun, hworld, hworker⟩ := PoolRun.extend_request hrun hworld hworker
    (.ok sampleClaims) verified
    ⟨_, ⟨none, 0, .response 200 (some []), 10, sampleClaims_verified.symm, rfl⟩, rfl⟩
  obtain ⟨job, next, history, born, hcreate⟩ : ∃ job next history born, asked.workers 1
      = some ⟨job, .request (ServerOp.store (.createSession input)) next, history, born⟩ :=
    ⟨_, _, _, _, hworker⟩
  obtain ⟨pool, hrun, hworld, -⟩ := PoolRun.extend_request hrun hworld hcreate
    ((StoreOp.createSession input).exec .quoted readings verified.store.db).1
    { verified with store := verified.store.step .quoted readings (.createSession input) }
    ⟨Or.inl ⟨readings, fun _ => List.not_mem_nil, Or.inl rfl, rfl⟩, rfl, rfl⟩
  obtain ⟨row, hrow, htoken⟩ := Option.map_eq_some_iff.mp hstored
  exact ⟨pool, row, hrun, hworld ▸ hrow, htoken⟩

theorem token_provenance_callback :
    ∃ row v, row.accessToken = "h.p.s" ∧ Accepted sampleVerifier v ∧ StoredFrom row v := by
  obtain ⟨pool, row, hrun, hrow, htoken⟩ := poolRun_callback
  obtain ⟨hrows, -⟩ := token_provenance .quoted sampleVerifier sampleCallback sampleConfig 0 hrun
  obtain ⟨v, -, haccepted, hstored⟩ := hrows "row" row hrow
  exact ⟨row, v, htoken, haccepted, hstored⟩

end AuthMiniGateway
