import AuthMiniGateway.Handlers
import AuthMiniGateway.Lib.UrlText
import AuthMiniGateway.Proof.Lifetimes
import AuthMiniGateway.Proof.LoginStates

/-!
# Where a browser can be sent

The check for unsafe bytes is enough for the text of a parsed target. It is not enough for the place: removing
dot segments can leave an empty first segment, and the origin of a `blob` URL is that of the URL in its path.
`Diverts` describes these targets, and all others stay on the public origin.
-/

namespace AuthMiniGateway

open Whatwg (Rules Url Escaped)
open Whatwg (fragmentOf hexValue isSeparator isSpecial join join_rooted origin originOf
  origin_of_parse_special origin_withRest parse parse_rooted pathFrom pathFrom_special_ne_nil
  queryOf slash_not_mem_pathFrom toAsciiLower toNat_ge_of_hexValue withRest)

def SafeCode (n : Nat) : Prop := n ≠ 0x5c ∧ 0x20 ≤ n ∧ n ≠ 0x7f

instance (n : Nat) : Decidable (SafeCode n) := inferInstanceAs (Decidable (_ ∧ _))

/-- No backslash, no control character and no percent-encoding of one, at any place. -/
structure Clean (text : List Char) : Prop where
  plain : ∀ c ∈ text, SafeCode c.toNat
  escaped : ∀ a b n m rest, '%' :: a :: b :: rest <:+ text → hexValue a = some n →
    hexValue b = some m → SafeCode (16 * n + m)

theorem safeCode_wide (n : Nat) (h : 128 ≤ n) : SafeCode n :=
  ⟨by omega, by omega, by omega⟩

theorem safeCode_printable (n : Nat) (h : SafeCode n) : 0x20 ≤ n := h.2.1

theorem safeCode_hex (c : Char) (h : (hexValue c).isSome = true) : SafeCode c.toNat := by
  unfold hexValue at h
  dsimp only at h
  unfold SafeCode
  split_ifs at h
  all_goals first | omega | cases h

variable {text : List Char} {byte : UInt8}

theorem Clean.of_escaped (h : Escaped SafeCode text) : Clean text := by
  refine ⟨h.forall_mem (fun c hc => hc) (by decide) safeCode_hex, ?_⟩
  intro a b n m rest hsuffix ha hb
  have hdigit : ∀ {c : Char} {k : Nat}, hexValue c = some k → c ≠ '%' := by
    rintro c k hc rfl
    cases hc
  induction h with
  | nil => exact absurd hsuffix (by simp)
  | plain hpercent _ _ ih =>
    rcases List.suffix_cons_iff.mp hsuffix with heq | hsuffix
    · cases heq
      exact absurd rfl hpercent
    · exact ih hsuffix
  | escape hx hy hok _ ih =>
    rcases List.suffix_cons_iff.mp hsuffix with heq | hsuffix
    · cases heq
      rw [ha] at hx
      rw [hb] at hy
      cases hx
      cases hy
      exact hok
    · -- no percent sign stands inside an escape
      rcases List.suffix_cons_iff.mp hsuffix with heq | hsuffix
      · cases heq
        exact absurd rfl (hdigit hx)
      · rcases List.suffix_cons_iff.mp hsuffix with heq | hsuffix
        · cases heq
          exact absurd rfl (hdigit hy)
        · exact ih hsuffix

/-! ### The check on the bytes -/

theorem safeCode_of_isUnsafeByte (h : isUnsafeByte byte = false) : SafeCode byte.toNat := by
  simp only [isUnsafeByte, Bool.or_eq_false_iff, decide_eq_false_iff_not, UInt8.lt_iff_toNat_lt,
    ← UInt8.toNat_inj] at h
  obtain ⟨⟨hbackslash, hcontrol⟩, hdelete⟩ := h
  exact ⟨hbackslash, Nat.le_of_not_lt hcontrol, hdelete⟩

theorem hasUnsafeByteIn_cons (rest : List UInt8) (h : byte ≠ 37) :
    hasUnsafeByteIn (byte :: rest) = (isUnsafeByte byte || hasUnsafeByteIn rest) := by
  rw [hasUnsafeByteIn]
  · intro high low rest' heq
    exact absurd heq h
  · intro heq
    exact absurd heq h

theorem hasUnsafeByteIn_percent {rest : List UInt8} (h : hasUnsafeByteIn (37 :: rest) = false) :
    ∃ high low more decoded, rest = high :: low :: more ∧ fromStrRadix16 high low = some decoded ∧
      isUnsafeByte decoded = false ∧ hasUnsafeByteIn more = false := by
  match rest with
  | [] | [high] => cases h
  | high :: low :: more =>
    rw [hasUnsafeByteIn] at h
    split at h
    · cases h
    · next decoded hdecoded =>
      obtain ⟨hsafe, hmore⟩ := Bool.or_eq_false_iff.mp h
      exact ⟨high, low, more, decoded, rfl, hdecoded, hsafe, hmore⟩

theorem hasUnsafeByteIn_wide {bytes rest : List UInt8} (h : ∀ byte ∈ bytes, 128 ≤ byte.toNat) :
    hasUnsafeByteIn (bytes ++ rest) = hasUnsafeByteIn rest := by
  induction bytes with
  | nil => rfl
  | cons byte _ ih =>
    have hbyte := h byte List.mem_cons_self
    have hpercent : byte ≠ 37 := by
      rintro rfl
      exact absurd hbyte (by decide)
    have hsafe : isUnsafeByte byte = false := by
      simp only [isUnsafeByte, Bool.or_eq_false_iff, decide_eq_false_iff_not,
        UInt8.lt_iff_toNat_lt, ← UInt8.toNat_inj]
      have h32 : (0x20 : UInt8).toNat = 32 := rfl
      have h92 : (92 : UInt8).toNat = 92 := rfl
      have h127 : (0x7f : UInt8).toNat = 127 := rfl
      omega
    rw [List.cons_append, hasUnsafeByteIn_cons _ hpercent, hsafe, Bool.false_or]
    exact ih fun b hb => h b (List.mem_cons_of_mem _ hb)

theorem ascii_front {more : List UInt8} (hascii : byte.toNat < 128)
    (h : text.flatMap String.utf8EncodeChar = byte :: more) :
    ∃ c rest, text = c :: rest ∧ c.toNat = byte.toNat ∧
      rest.flatMap String.utf8EncodeChar = more := by
  cases text with
  | nil => cases h
  | cons c rest =>
    rw [List.flatMap_cons] at h
    rcases Utf8.encodeChar_cases c with ⟨hsmall, hbytes⟩ | ⟨-, hne, hwide⟩
    · rw [hbytes] at h
      cases h
      refine ⟨c, rest, rfl, ?_, rfl⟩
      rw [UInt8.toNat_ofNat', Nat.mod_eq_of_lt (by omega)]
    · obtain ⟨first, others, hfirst⟩ := List.exists_cons_of_ne_nil hne
      rw [hfirst] at h hwide
      cases h
      exact absurd (hwide byte List.mem_cons_self) (by omega)

theorem hexDigit_lt {n : Nat} (h : hexDigit byte = some n) :
    byte.toNat < 128 ∧ n < 16 ∧ ∀ c : Char, c.toNat = byte.toNat → hexValue c = some n := by
  unfold hexDigit at h
  dsimp only at h
  refine ⟨?_, ?_, ?_⟩
  · split_ifs at h
    all_goals omega
  · split_ifs at h
    all_goals
      cases h
      omega
  · intro c hc
    unfold hexValue
    dsimp only
    rw [hc]
    exact h

theorem fromStrRadix16_safe {high low decoded : UInt8} (h : fromStrRadix16 high low = some decoded)
    (hsafe : SafeCode decoded.toNat) :
    ∃ n m, hexDigit high = some n ∧ hexDigit low = some m ∧ decoded.toNat = 16 * n + m := by
  unfold fromStrRadix16 at h
  split_ifs at h
  · obtain ⟨m, hlow, rfl⟩ := Option.map_eq_some_iff.mp h
    obtain ⟨-, hlt, -⟩ := hexDigit_lt hlow
    have hprintable := safeCode_printable _ hsafe
    rw [UInt8.toNat_ofNat', Nat.mod_eq_of_lt (by omega)] at hprintable
    omega
  · split at h
    · next n m hhigh hlow =>
      cases h
      obtain ⟨-, hn, -⟩ := hexDigit_lt hhigh
      obtain ⟨-, hm, -⟩ := hexDigit_lt hlow
      refine ⟨n, m, hhigh, hlow, ?_⟩
      rw [UInt8.toNat_ofNat', Nat.mod_eq_of_lt (by omega)]
    · cases h

theorem escaped_of_bytes (h : hasUnsafeByteIn (text.flatMap String.utf8EncodeChar) = false) :
    Escaped SafeCode text := by
  -- an escape takes three characters at once
  induction hlength : text.length using Nat.strong_induction_on generalizing text with
  | _ length ih =>
    cases text with
    | nil => exact .nil
    | cons c rest =>
      rw [List.flatMap_cons] at h
      rcases Utf8.encodeChar_cases c with ⟨hsmall, hbytes⟩ | ⟨hwide, -, hbytes⟩
      · rw [hbytes, List.singleton_append] at h
        by_cases hpercent : c = '%'
        · subst hpercent
          obtain ⟨high, low, more, decoded, hrest, hdecoded, hsafe, hmore⟩ :=
            hasUnsafeByteIn_percent h
          have hok := safeCode_of_isUnsafeByte hsafe
          obtain ⟨n, m, hhigh, hlow, hvalue⟩ := fromStrRadix16_safe hdecoded hok
          obtain ⟨hhighLt, -, hhighValue⟩ := hexDigit_lt hhigh
          obtain ⟨hlowLt, -, hlowValue⟩ := hexDigit_lt hlow
          obtain ⟨a, rest, rfl, ha, hrest⟩ := ascii_front hhighLt hrest
          obtain ⟨b, rest, rfl, hb, hrest⟩ := ascii_front hlowLt hrest
          subst hrest
          rw [hvalue] at hok
          refine .escape (hhighValue a ha) (hlowValue b hb) hok (ih rest.length ?_ hmore rfl)
          simp only [List.length_cons] at hlength
          omega
        · have hbyte : UInt8.ofNat c.toNat ≠ 37 := by
            intro heq
            have hnat := congrArg UInt8.toNat heq
            rw [UInt8.toNat_ofNat', Nat.mod_eq_of_lt (by omega)] at hnat
            exact hpercent (Char.ext (UInt32.toNat_inj.mp hnat))
          rw [hasUnsafeByteIn_cons _ hbyte, Bool.or_eq_false_iff] at h
          have hok := safeCode_of_isUnsafeByte h.1
          rw [UInt8.toNat_ofNat', Nat.mod_eq_of_lt (by omega)] at hok
          refine .plain hpercent hok (ih rest.length ?_ h.2 rfl)
          simp only [List.length_cons] at hlength
          omega
      · rw [hasUnsafeByteIn_wide hbytes] at h
        have hpercent : c ≠ '%' := by
          rintro rfl
          exact absurd hwide (by decide)
        refine .plain hpercent (safeCode_wide _ hwide) (ih rest.length ?_ h rfl)
        simp only [List.length_cons] at hlength
        omega

theorem escaped_of_hasUnsafeBytes {raw : String} (h : hasUnsafeBytes raw = false) :
    Escaped SafeCode raw.toList := by
  unfold hasUnsafeBytes at h
  rw [Utf8.data_toList] at h
  exact escaped_of_bytes h

/-! ### Targets -/

/-- The public base URL is an absolute URL over HTTP or HTTPS. -/
structure PublicBase (rules : Rules) (publicBaseUrl : String) (base : Url) : Prop where
  parses : parse rules publicBaseUrl.toList = some base
  scheme : base.scheme = ['h', 't', 't', 'p'] ∨ base.scheme = ['h', 't', 't', 'p', 's']

structure SafeTarget (rules : Rules) (base : Url) (out : String) : Prop where
  rooted : ∃ rest, out.toList = '/' :: rest ∧ rest.head? ≠ some '/'
  clean : Clean out.toList
  sameOrigin : ∃ url o, join rules base out.toList = some url ∧
    origin rules url = some o ∧ origin rules base = some o

/-- The path of the URL is not one that a browser resolves on the same origin. -/
def LeavesPath (url : Url) : Prop :=
  url.scheme = ['b', 'l', 'o', 'b'] ∨ ∃ next more, url.path = .segments ([] :: next :: more)

/-- The target passes the check on its bytes, stands for a URL on the public origin, and the path of
that URL begins with an empty segment before another one, or the URL is a `blob`. -/
def Diverts (rules : Rules) (input : Option String) (publicBaseUrl : String)
    (mode : ReturnTargetMode) : Prop :=
  mode = .directLogin ∧ ∃ raw base url, rawTarget input mode = some raw ∧
    hasUnsafeBytes raw = false ∧ parse rules publicBaseUrl.toList = some base ∧
    directTarget rules raw.toList base = some url ∧ LeavesPath url

section Targets

variable {rules : Rules} {publicBaseUrl : String} {base url : Url}

theorem PublicBase.special (h : PublicBase rules publicBaseUrl base) :
    isSpecial base.scheme = true := by
  rcases h.scheme with hscheme | hscheme <;> rw [hscheme] <;> decide

theorem Clean.second_plain {rest kept : List Char} (hclean : Clean ('/' :: rest))
    (hrest : rest.head? ≠ some '/') (hkept : kept <+: rest) :
    ∀ d, kept.head? = some d → isSeparator true d = false := by
  intro d hd
  obtain ⟨dropped, rfl⟩ := hkept
  obtain ⟨kept, rfl⟩ := List.head?_eq_some_iff.mp hd
  have hsafe := hclean.plain d (by simp)
  simp only [isSeparator, Bool.true_and, Bool.or_eq_false_iff, beq_eq_false_iff_ne]
  refine ⟨?_, ?_⟩
  · rintro rfl
    exact hrest rfl
  · rintro rfl
    exact hsafe.1 rfl

variable {out : String} {input : Option String}

theorem PublicBase.safeTarget (h : PublicBase rules publicBaseUrl base) {rest : List Char}
    (hescaped : Escaped SafeCode out.toList) (hout : out.toList = '/' :: rest)
    (hrest : rest.head? ≠ some '/') : SafeTarget rules base out := by
  obtain ⟨⟨path, hpath⟩, o, horigin⟩ := origin_of_parse_special h.parses h.special
  have hclean := Clean.of_escaped hescaped
  refine ⟨⟨rest, hout, hrest⟩, hclean, ?_⟩
  rw [hout] at hescaped hclean ⊢
  obtain ⟨kept, hprepare, hkept⟩ := hescaped.prepare_cons safeCode_printable rfl
  have hsecond := hclean.second_plain hrest hkept
  refine ⟨_, o, join_rooted hpath h.special hsecond hprepare, ?_, horigin⟩
  rw [origin_withRest h.special]
  exact horigin

theorem escaped_pathQueryFragment {front : Url} {text : List Char} (htext : Escaped SafeCode text) :
    Escaped SafeCode (pathQueryFragment (withRest rules front text)) := by
  have hmark : ∀ {c : Char} {part : List Char}, c ≠ '%' → SafeCode c.toNat →
      Escaped SafeCode part → Escaped SafeCode (c :: part) :=
    fun hpercent hok hpart => .plain hpercent hok hpart
  refine .append (.append ?_ ?_) ?_
  · apply Escaped.flatMap
    intro segment hsegment
    exact hmark (by decide) (by decide) (htext.pathFrom safeCode_wide segment hsegment)
  · cases hquery : queryOf rules text with
    | none => simpa [withRest, hquery] using Escaped.nil
    | some =>
      simp only [withRest, hquery, Option.elim_some]
      exact hmark (by decide) (by decide) (htext.queryOf safeCode_wide hquery)
  · cases hfragment : fragmentOf rules text with
    | none => simpa [withRest, hfragment] using Escaped.nil
    | some =>
      simp only [withRest, hfragment, Option.elim_some]
      exact hmark (by decide) (by decide) (htext.fragmentOf safeCode_wide hfragment)

/-- The text of a special URL's path begins with two slashes exactly when its first segment is empty
and another one follows. -/
theorem rooted_pathQueryFragment {front : Url} {text : List Char}
    (hspecial : isSpecial front.scheme = true) (hurl : url = withRest rules front text) :
    ∃ rest, pathQueryFragment url = '/' :: rest ∧ (rest.head? = some '/' ↔ LeavesPath url) := by
  have hscheme : url.scheme = front.scheme := by rw [hurl]; rfl
  have hblob : url.scheme ≠ ['b', 'l', 'o', 'b'] := by
    rw [hscheme]
    intro hblob
    rw [hblob] at hspecial
    exact absurd hspecial (by decide)
  have hpath : url.path = .segments (pathFrom rules true text) := by
    rw [hurl, withRest, hspecial]
  have hslash : ∀ segment ∈ pathFrom rules true text, '/' ∉ segment :=
    slash_not_mem_pathFrom
  have hne : pathFrom rules true text ≠ [] := pathFrom_special_ne_nil
  obtain ⟨first, others, hsegments⟩ := List.exists_cons_of_ne_nil hne
  rw [hsegments] at hpath hslash
  refine ⟨first ++ others.flatMap ('/' :: ·) ++ url.query.elim [] ('?' :: ·)
    ++ url.fragment.elim [] ('#' :: ·), ?_, ?_⟩
  · simp [pathQueryFragment, hpath, Whatwg.Path.text]
  · unfold LeavesPath
    rw [hpath]
    cases first with
    | cons c =>
      have hc : c ≠ '/' := by
        rintro rfl
        exact hslash _ List.mem_cons_self List.mem_cons_self
      simp [hblob, hc]
    | nil =>
      cases others with
      | cons => simp
      | nil =>
        simp only [List.flatMap_nil, List.nil_append, hblob, false_or]
        cases url.query <;> cases url.fragment <;> simp

theorem scheme_of_origin {o : Whatwg.Origin} (h : origin rules url = some o) :
    isSpecial url.scheme = true ∨ url.scheme = ['b', 'l', 'o', 'b'] := by
  unfold origin originOf at h
  split_ifs at h with hblob hspecial
  · exact Or.inr hblob
  · exact Or.inl hspecial

theorem directTarget_cases (h : PublicBase rules publicBaseUrl base) {raw : List Char}
    (hraw : Escaped SafeCode raw) (htarget : directTarget rules raw base = some url) :
    (∃ front text, isSpecial front.scheme = true ∧ Escaped SafeCode text ∧
      url = withRest rules front text) ∨
    url.scheme = ['b', 'l', 'o', 'b'] ∧ ∃ o, origin rules url = some o := by
  unfold directTarget at htarget
  split at htarget
  · cases htarget
  · rename_i rest hdouble
    left
    obtain ⟨⟨path, hpath⟩, -⟩ := origin_of_parse_special h.parses h.special
    obtain ⟨kept, hprepare, hkept⟩ := hraw.prepare_cons safeCode_printable rfl
    have hrest : rest.head? ≠ some '/' := by
      intro hhead
      obtain ⟨tail, rfl⟩ := List.head?_eq_some_iff.mp hhead
      exact hdouble tail rfl
    have hsecond := (Clean.of_escaped hraw).second_plain hrest hkept
    rw [join_rooted hpath h.special hsecond hprepare] at htarget
    cases htarget
    refine ⟨base, _, h.special, ?_, rfl⟩
    rw [← hprepare]
    exact hraw.prepare safeCode_printable
  · split at htarget
    · cases htarget
    · next parsed hparse =>
      split at htarget
      · cases htarget
      · next o horigin =>
        split_ifs at htarget
        cases htarget
        rcases scheme_of_origin horigin with hspecial | hblob
        · obtain ⟨front, text, htext, hfront, hurl⟩ :=
            hraw.parse_special safeCode_printable hparse hspecial
          exact Or.inl ⟨front, text, by rwa [hfront], htext, hurl⟩
        · exact Or.inr ⟨hblob, o, horigin⟩

theorem blob_not_rooted {o : Whatwg.Origin} (hblob : url.scheme = ['b', 'l', 'o', 'b'])
    (horigin : origin rules url = some o) (rest : List Char) :
    pathQueryFragment url ≠ '/' :: rest := by
  unfold origin originOf at horigin
  rw [if_pos hblob] at horigin
  unfold pathQueryFragment
  cases htext : url.path.text with
  | nil =>
    rw [htext] at horigin
    cases horigin
  | cons =>
    intro hrooted
    cases hrooted
    rw [htext, parse_rooted] at horigin
    cases horigin

theorem safeTarget_formatPath_iff (h : PublicBase rules publicBaseUrl base) {raw : List Char}
    (hraw : Escaped SafeCode raw) (htarget : directTarget rules raw base = some url) :
    SafeTarget rules base (formatPath url) ↔ ¬LeavesPath url := by
  have hout : (formatPath url).toList = pathQueryFragment url := String.toList_ofList
  rcases directTarget_cases h hraw htarget with ⟨front, text, hspecial, htext, hurl⟩ | ⟨hblob, o, ho⟩
  · obtain ⟨rest, hrest, hleaves⟩ := rooted_pathQueryFragment hspecial hurl
    constructor
    · intro hsafe
      obtain ⟨rest', hrest', hsecond⟩ := hsafe.rooted
      rw [hout, hrest] at hrest'
      cases hrest'
      rwa [← hleaves]
    · intro hstays
      have hescaped : Escaped SafeCode (pathQueryFragment url) := by
        rw [hurl]
        exact escaped_pathQueryFragment htext
      refine h.safeTarget (by rwa [hout]) (hout.trans hrest) ?_
      rwa [Ne, hleaves]
  · constructor
    · intro hsafe
      obtain ⟨rest, hrest, -⟩ := hsafe.rooted
      exact absurd (hout.symm.trans hrest) (blob_not_rooted hblob ho rest)
    · intro hstays
      exact absurd (Or.inl hblob) hstays

theorem normalizeReturnTarget_proxyFallback
    (hout : normalizeReturnTarget rules input publicBaseUrl .proxyFallback = some out) :
    hasUnsafeBytes out = false ∧ ∃ rest, out.toList = '/' :: rest ∧ rest.head? ≠ some '/' := by
  unfold normalizeReturnTarget at hout
  cases input with
  | none => cases hout
  | some =>
    dsimp only [rawTarget] at hout
    split_ifs at hout with hunsafe hrefused
    cases hout
    push Not at hrefused
    obtain ⟨hrooted, hdouble, -⟩ := hrefused
    obtain ⟨rest, hrest⟩ := List.head?_eq_some_iff.mp hrooted
    refine ⟨by simpa using hunsafe, rest, hrest, ?_⟩
    intro hhead
    obtain ⟨tail, rfl⟩ := List.head?_eq_some_iff.mp hhead
    exact hdouble (by rw [hrest]; rfl)

theorem normalizeReturnTarget_directLogin
    (hbase : parse rules publicBaseUrl.toList = some base)
    (hout : normalizeReturnTarget rules input publicBaseUrl .directLogin = some out) :
    ∃ raw url, rawTarget input .directLogin = some raw ∧ hasUnsafeBytes raw = false ∧
      directTarget rules raw.toList base = some url ∧ out = formatPath url := by
  unfold normalizeReturnTarget at hout
  split at hout
  · cases hout
  · next raw hraw =>
    dsimp only at hout
    split_ifs at hout with hunsafe
    rw [hbase] at hout
    obtain ⟨url, htarget, rfl⟩ := Option.map_eq_some_iff.mp hout
    exact ⟨raw, url, hraw, by simpa using hunsafe, htarget, rfl⟩

theorem safeTarget_iff (h : PublicBase rules publicBaseUrl base) {mode : ReturnTargetMode}
    (hout : normalizeReturnTarget rules input publicBaseUrl mode = some out) :
    SafeTarget rules base out ↔ ¬Diverts rules input publicBaseUrl mode := by
  cases mode with
  | proxyFallback =>
    obtain ⟨hchecked, rest, hrest, hsecond⟩ := normalizeReturnTarget_proxyFallback hout
    constructor
    · intro _ hdiverts
      cases hdiverts.1
    · intro _
      exact h.safeTarget (escaped_of_hasUnsafeBytes hchecked) hrest hsecond
  | directLogin =>
    obtain ⟨raw, url, hraw, hchecked, htarget, rfl⟩ := normalizeReturnTarget_directLogin h.parses hout
    rw [safeTarget_formatPath_iff h (escaped_of_hasUnsafeBytes hchecked) htarget, not_iff_not]
    constructor
    · intro hleaves
      exact ⟨rfl, raw, base, url, hraw, hchecked, h.parses, htarget, hleaves⟩
    · rintro ⟨-, raw', base', url', hraw', -, hparses, htarget', hleaves⟩
      rw [hraw] at hraw'
      cases hraw'
      rw [h.parses] at hparses
      cases hparses
      rw [htarget] at htarget'
      cases htarget'
      exact hleaves

end Targets

/-! ### Handlers -/

def noCalls : Contract serverInterface (List (Exchange serverInterface)) where
  pre _ _ := False
  post _ _ _ _ := True

theorem noCalls_kept (view : View serverInterface (List (Exchange serverInterface))) :
    noCalls.Kept view ServerProc.body := by
  intro proc trace hpre
  cases hpre

section Handlers

variable {platform : Platform} {config : Config} {request : Request}
  {trace : List (Exchange serverInterface)}

theorem handleLogin_stores {returnTo : String} {ttl : Int}
    (h : (handleLogin platform config request).Issues ServerProc.body trace
      (.store (.createLoginState returnTo ttl))) :
    normalizeReturnTo platform.rules (loginInput request) config = some returnTo := by
  let guar : ServerOp → List (Exchange serverInterface) → Prop := fun op _ =>
    ∀ returnTo ttl, op = .store (.createLoginState returnTo ttl) →
      normalizeReturnTo platform.rules (loginInput request) config = some returnTo
  have hmeets : (handleLogin platform config request).Meets (exchangeView guar) noCalls []
      fun _ _ => True := by
    unfold handleLogin
    cases hnormal : normalizeReturnTo platform.rules (loginInput request) config with
    | none => exact meets_pure_iff.mpr trivial
    | some =>
      refine meets_request_iff.mpr ⟨?_, ?_⟩
      · rintro _ _ ⟨⟩
        exact hnormal
      · intro reply
        cases reply <;> exact meets_pure_iff.mpr trivial
  exact h.guarantee (noCalls_kept _) hmeets returnTo ttl rfl

/-- A handler whose exchanges do not matter here: it ends as `goal` says. -/
abbrev EndsAs (goal : Handled → Prop) (p : Server Handled)
    (trace : List (Exchange serverInterface)) : Prop :=
  p.Meets (exchangeView fun _ _ => True) noCalls trace fun _ => goal

def RespondsWith (response : Response) (handled : Handled) : Prop :=
  ∀ other, handled = some (.ok other) → other = response

theorem endsAs_revokeLocally (sessionId : String) (snapshot : Option String) :
    EndsAs (RespondsWith (logoutResponse platform config request))
      (revokeLocally platform config request sessionId snapshot) trace := by
  have hresponds : RespondsWith (logoutResponse platform config request)
      (.respond (logoutResponse platform config request)) := by
    rintro other ⟨⟩
    rfl
  refine meets_request_iff.mpr ⟨trivial, ?_⟩
  intro reply
  cases reply with
  | ok =>
    cases snapshot with
    | none => exact meets_pure_iff.mpr hresponds
    | some =>
      exact meets_request_iff.mpr ⟨trivial, fun _ => meets_pure_iff.mpr hresponds⟩
  | err error | panic => exact meets_pure_iff.mpr nofun

variable {response : Response}

theorem handleLogout_responds
    (h : (handleLogout platform config request).Ends ServerProc.body trace (some (.ok response))) :
    response = logoutResponse platform config request := by
  have hmeets : EndsAs (RespondsWith (logoutResponse platform config request))
      (handleLogout platform config request) [] := by
    unfold handleLogout
    split
    · refine meets_pure_iff.mpr ?_
      rintro other ⟨⟩
      rfl
    · refine meets_request_iff.mpr ⟨trivial, ?_⟩
      intro snapshot
      cases snapshot with
      | ok snapshot => exact endsAs_revokeLocally _ snapshot
      | err => exact endsAs_revokeLocally _ none
      | panic => exact meets_pure_iff.mpr nofun
  exact h.satisfies (noCalls_kept _) hmeets response rfl

theorem withHeader_body (response : Response) (name value : String) :
    (response.withHeader name value).body = response.body := by
  unfold Response.withHeader
  split_ifs <;> rfl

theorem mem_withHeader {name value : String} {entry : String × String}
    (h : entry ∈ (response.withHeader name value).headers) :
    entry ∈ response.headers ∨ entry = (name, value) := by
  unfold Response.withHeader at h
  split_ifs at h
  · simpa using h
  · exact Or.inl h

/-- The target of a response of the callback is that of the login state it consumed. -/
def TakesTarget (trace : List (Exchange serverInterface)) (handled : Handled) : Prop :=
  ∀ response target, handled = some (.ok response) → response.body = .returnTo target →
    ∃ id state, ⟨.store (.consumeLoginState id), .ok (some state)⟩ ∈ trace ∧
      state.returnTo = target

theorem takesTarget_refuse (status : Nat) (text : String) :
    TakesTarget trace (refuseCallback config status text) := by
  rintro response target ⟨⟩ hbody
  simp [noStore, Response.withCookie, withHeader_body, Response.text, Response.new] at hbody

theorem takesTarget_response {session : GatewaySession} {id : String} {state : LoginState}
    (hconsumed : ⟨.store (.consumeLoginState id), .ok (some state)⟩ ∈ trace) :
    TakesTarget trace (.respond (callbackResponse platform config session state.returnTo)) := by
  rintro response target ⟨⟩ hbody
  refine ⟨id, state, hconsumed, ?_⟩
  unfold callbackResponse at hbody
  cases hpolicy : evaluateSessionPolicy session config with
  | allow =>
    simpa [hpolicy, noStore, Response.withCookie, withHeader_body, Response.json,
      Response.new] using hbody
  | deny =>
    simp [hpolicy, noStore, Response.withCookie, withHeader_body, Response.text,
      Response.new] at hbody

abbrev Takes (p : Server Handled) (trace : List (Exchange serverInterface)) : Prop :=
  p.Meets (exchangeView fun _ _ => True) noCalls trace TakesTarget

theorem meets_createVerifiedSession (tokens : TokenInput) (verified : VerifiedAccessToken) :
    (createVerifiedSession config tokens verified).Meets (exchangeView fun _ _ => True) noCalls trace
      fun trace' _ => trace ⊆ trace' := by
  unfold createVerifiedSession
  split_ifs
  · exact meets_pure_iff.mpr (List.Subset.refl _)
  · split
    · exact meets_pure_iff.mpr (List.Subset.refl _)
    · refine meets_request_iff.mpr ⟨trivial, ?_⟩
      intro reply
      cases reply <;> exact meets_pure_iff.mpr (List.subset_cons_self _ _)

theorem meets_createSessionFromTokens (tokens : TokenInput) :
    (createSessionFromTokens config tokens).Meets (exchangeView fun _ _ => True) noCalls trace
      fun trace' _ => trace ⊆ trace' := by
  refine meets_request_iff.mpr ⟨trivial, ?_⟩
  intro answer
  cases answer with
  | error => exact meets_pure_iff.mpr (List.subset_cons_self _ _)
  | ok verified =>
    apply (meets_createVerifiedSession tokens verified).mono
    intro trace' _ hkept
    exact fun exchange hmem => hkept (List.mem_cons_of_mem _ hmem)

theorem takes_exchangeTokens {body : CallbackBody} {id : String} {state : LoginState}
    (hconsumed : ⟨.store (.consumeLoginState id), .ok (some state)⟩ ∈ trace) :
    Takes (exchangeTokens platform config body state.returnTo) trace := by
  unfold exchangeTokens
  split
  · exact meets_pure_iff.mpr (takesTarget_refuse 400 _)
  · rename_i tokens htokens
    apply Program.Meets.bind
    apply (meets_createSessionFromTokens tokens).mono
    intro trace' created hkept
    match created with
    | none => exact meets_pure_iff.mpr nofun
    | some none => exact meets_pure_iff.mpr (takesTarget_refuse 401 _)
    | some (some session) => exact meets_pure_iff.mpr (takesTarget_response (hkept hconsumed))

theorem handleCallbackSession_takesTarget {target : String}
    (h : (handleCallbackSession platform config request).Ends ServerProc.body trace
      (some (.ok response))) (hbody : response.body = .returnTo target) :
    ∃ id state, ⟨.store (.consumeLoginState id), .ok (some state)⟩ ∈ trace ∧
      state.returnTo = target := by
  have hmeets : Takes (handleCallbackSession platform config request) [] := by
    unfold handleCallbackSession
    split
    · exact meets_pure_iff.mpr (takesTarget_refuse 400 _)
    · split
      · exact meets_pure_iff.mpr (takesTarget_refuse 400 _)
      · refine meets_request_iff.mpr ⟨trivial, ?_⟩
        intro reply
        match reply with
        | .err error | .panic => exact meets_pure_iff.mpr nofun
        | .ok none => exact meets_pure_iff.mpr (takesTarget_refuse 400 _)
        | .ok (some state) =>
          change Takes (if _ then _ else _) _
          split_ifs
          · exact meets_pure_iff.mpr (takesTarget_refuse 400 _)
          · exact takes_exchangeTokens List.mem_cons_self
  have htaken := h.satisfies (noCalls_kept _) hmeets response target rfl hbody
  rwa [List.append_nil] at htaken

theorem location_logoutResponse {location : String}
    (h : location ∈ (logoutResponse platform config request).headerValues "Location") :
    location = (normalizeReturnTo platform.rules (logoutInput config request) config).getD "/" := by
  obtain ⟨⟨name, value⟩, hentry, rfl⟩ := List.mem_map.mp h
  obtain ⟨hmem, hname⟩ := List.mem_filter.mp hentry
  dsimp only at hname
  rcases mem_withHeader hmem with hmem | hcookie
  · rcases mem_withHeader hmem with hmem | hstore
    · rcases mem_withHeader hmem with hmem | hlocation
      · cases hmem
      · cases hlocation
        rfl
    · cases hstore
      exact absurd hname (by decide)
  · cases hcookie
    exact absurd hname (by decide)

theorem Diverts.accepted {rules : Rules} {input : Option String} {publicBaseUrl : String}
    (h : Diverts rules input publicBaseUrl .directLogin) :
    ∃ out, normalizeReturnTarget rules input publicBaseUrl .directLogin = some out := by
  obtain ⟨-, raw, base, url, hraw, hchecked, hbase, htarget, -⟩ := h
  refine ⟨formatPath url, ?_⟩
  unfold normalizeReturnTarget
  rw [hraw]
  dsimp only
  rw [if_neg (by simp [hchecked]), hbase]
  dsimp only
  rw [htarget]
  rfl

variable {base : Url} (hbase : PublicBase platform.rules config.publicBaseUrl base)

include hbase

theorem safeTarget_logout_iff {location : String}
    (h : (handleLogout platform config request).Ends ServerProc.body trace (some (.ok response)))
    (hlocation : location ∈ response.headerValues "Location") :
    SafeTarget platform.rules base location ↔
      ¬Diverts platform.rules (logoutInput config request) config.publicBaseUrl .directLogin := by
  rw [handleLogout_responds h] at hlocation
  rw [location_logoutResponse hlocation]
  cases hnormal : normalizeReturnTo platform.rules (logoutInput config request) config with
  | some => exact safeTarget_iff hbase hnormal
  | none =>
    constructor
    · intro _ hdiverts
      obtain ⟨out, hout⟩ := hdiverts.accepted
      rw [normalizeReturnTo, hout] at hnormal
      cases hnormal
    · intro _
      exact hbase.safeTarget (.plain (by decide) (by decide) .nil) rfl nofun

/-- **No open redirect.** A target that is accepted stays on the public origin exactly when it does not
divert. So does what a login stores and the `Location` of a logout; the target that a callback hands
to the browser is the one of the login state that it consumed, and that one was stored in the same run
of the store. -/
theorem returns_stay_iff :
    (∀ input mode out,
      normalizeReturnTarget platform.rules input config.publicBaseUrl mode = some out →
      (SafeTarget platform.rules base out ↔
        ¬Diverts platform.rules input config.publicBaseUrl mode)) ∧
    (∀ request trace returnTo ttl,
      (handleLogin platform config request).Issues ServerProc.body trace
        (.store (.createLoginState returnTo ttl)) →
      (SafeTarget platform.rules base returnTo ↔
        ¬Diverts platform.rules (loginInput request) config.publicBaseUrl .directLogin)) ∧
    (∀ request trace response target,
      (handleCallbackSession platform config request).Ends ServerProc.body trace
        (some (.ok response)) → response.body = .returnTo target →
      ∃ id state, ⟨.store (.consumeLoginState id), .ok (some state)⟩ ∈ trace ∧
        state.returnTo = target) ∧
    (∀ json clock s, StoreRun json (.initial clock) s → ∀ r id state,
      (StoreOp.exec json r s.db (.consumeLoginState id)).1 = .ok (some state) →
      ∃ event ∈ s.log, ∃ ttl, event.op = .createLoginState state.returnTo ttl) ∧
    (∀ request trace response location,
      (handleLogout platform config request).Ends ServerProc.body trace (some (.ok response)) →
      location ∈ response.headerValues "Location" →
      (SafeTarget platform.rules base location ↔
        ¬Diverts platform.rules (logoutInput config request) config.publicBaseUrl
          .directLogin)) := by
  refine ⟨fun input mode out hout => safeTarget_iff hbase hout, ?_, ?_, ?_, ?_⟩
  · intro request trace returnTo ttl hissues
    exact safeTarget_iff hbase (handleLogin_stores hissues)
  · intro request trace response target hends hbody
    exact handleCallbackSession_takesTarget hends hbody
  · intro json clock s hrun r id state hconsumed
    obtain ⟨row, hrow, htarget⟩ := consumeLoginState_returnTo hconsumed
    rw [← htarget]
    exact StoreState.targetsLogged_of_run hrun id row hrow
  · intro request trace response location hends hlocation
    exact safeTarget_logout_iff hbase hends hlocation

end Handlers

/-! ### Two targets -/

def sampleRules : Rules where
  encodes component c :=
    decide (c.toNat < 0x20) || decide (0x7e < c.toNat) || decide (component ≠ .opaquePath) && c == ' '
  host _ text := some (String.ofList (text.map toAsciiLower))
  encodes_space := by
    rintro component (rfl | rfl | rfl) <;> decide
  encodes_percent := by
    intro component
    cases component <;> decide
  encodes_hex := by
    intro component c hc
    have hge := toNat_ge_of_hexValue hc
    have hle : c.toNat ≤ 0x7e := by
      unfold hexValue at hc
      dsimp only at hc
      split_ifs at hc
      all_goals first | omega | cases hc
    have hspace : c ≠ ' ' := by
      rintro rfl
      exact absurd hge (by decide)
    simp [hspace]
    omega

def samplePlatform : Platform :=
  { mac := fun value secret => value ++ secret
    rules := sampleRules
    readCallback := fun _ => none
    loginUrl := fun state => "https://auth.example/login?state=" ++ state }

def sampleBase : Url :=
  { scheme := ['h', 't', 't', 'p', 's'], username := [], password := [],
    host := some "public.example", port := none, path := .segments [[]], query := none,
    fragment := none }

theorem sampleBase_public : PublicBase sampleRules sampleConfig.publicBaseUrl sampleBase :=
  ⟨by decide, Or.inr rfl⟩

def sampleTarget : Url :=
  { sampleBase with path := .segments [['a', 'p', 'p']], query := some ['q', '=', '1'] }

theorem sampleTarget_stays :
    ¬Diverts sampleRules (some "https://public.example/x/../app?q=1") sampleConfig.publicBaseUrl
      .directLogin := by
  rintro ⟨-, raw, base, url, hraw, -, hparses, htarget, hleaves⟩
  have hraw' : rawTarget (some "https://public.example/x/../app?q=1") .directLogin =
      some "https://public.example/x/../app?q=1" := by decide
  rw [hraw'] at hraw
  cases hraw
  rw [sampleBase_public.parses] at hparses
  cases hparses
  have htarget' : directTarget sampleRules "https://public.example/x/../app?q=1".toList sampleBase =
      some sampleTarget := by decide
  rw [htarget'] at htarget
  cases htarget
  rcases hleaves with hblob | ⟨next, more, hpath⟩
  · exact absurd hblob (by decide)
  · cases hpath

theorem returns_stay_iff_sample :
    normalizeReturnTarget sampleRules (some "https://public.example/x/../app?q=1")
        sampleConfig.publicBaseUrl .directLogin = some "/app?q=1" ∧
      SafeTarget sampleRules sampleBase "/app?q=1" := by
  have hnormal : normalizeReturnTarget sampleRules (some "https://public.example/x/../app?q=1")
      sampleConfig.publicBaseUrl .directLogin = some "/app?q=1" := by decide
  have hbase : PublicBase samplePlatform.rules sampleConfig.publicBaseUrl sampleBase :=
    sampleBase_public
  exact ⟨hnormal, ((returns_stay_iff hbase).1 _ _ _ hnormal).mpr sampleTarget_stays⟩

/-- A target on the public origin, and one from its root, that send the browser to another host. -/
theorem returnTarget_leaves :
    normalizeReturnTarget sampleRules (some "https://public.example//evil.example")
        sampleConfig.publicBaseUrl .directLogin = some "//evil.example" ∧
      normalizeReturnTarget sampleRules (some "/.//evil.example")
        sampleConfig.publicBaseUrl .directLogin = some "//evil.example" ∧
      ((join sampleRules sampleBase "//evil.example".toList).bind
        (origin sampleRules)).map Whatwg.Origin.host = some "evil.example" ∧
      ¬SafeTarget sampleRules sampleBase "//evil.example" := by
  refine ⟨by decide, by decide, by decide, ?_⟩
  intro hsafe
  obtain ⟨rest, hrest, hsecond⟩ := hsafe.rooted
  cases hrest
  exact hsecond rfl

end AuthMiniGateway
