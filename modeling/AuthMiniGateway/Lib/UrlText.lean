import AuthMiniGateway.Lib.Url
import AuthMiniGateway.Lib.Utf8

/-!
# Percent-encoded text

A text is `Escaped ok` when every percent sign in it begins a well-formed escape, and every code in it,
escaped or not, is one that `ok` admits. The parts into which a URL parser cuts a text, and their
percent-encoding, are escaped again.
-/

namespace Whatwg

inductive Escaped (ok : Nat → Prop) : List Char → Prop where
  | nil : Escaped ok []
  | plain {c : Char} {rest : List Char} (hpercent : c ≠ '%') (hok : ok c.toNat)
      (hrest : Escaped ok rest) : Escaped ok (c :: rest)
  | escape {a b : Char} {n m : Nat} {rest : List Char} (ha : hexValue a = some n)
      (hb : hexValue b = some m) (hok : ok (16 * n + m)) (hrest : Escaped ok rest) :
      Escaped ok ('%' :: a :: b :: rest)

def IsDelimiter (c : Char) : Prop := c ≠ '%' ∧ hexValue c = none

variable {ok : Nat → Prop} {text a b : List Char}

namespace Escaped

theorem append (ha : Escaped ok a) (hb : Escaped ok b) : Escaped ok (a ++ b) := by
  induction ha with
  | nil => exact hb
  | plain hpercent hok _ ih => exact .plain hpercent hok ih
  | escape hfirst hsecond hok _ ih => exact .escape hfirst hsecond hok ih

theorem flatMap {α : Type} {list : List α} {f : α → List Char} (h : ∀ x ∈ list, Escaped ok (f x)) :
    Escaped ok (list.flatMap f) := by
  induction list with
  | nil => exact .nil
  | cons x _ ih =>
    rw [List.flatMap_cons]
    exact (h x List.mem_cons_self).append (ih fun y hy => h y (List.mem_cons_of_mem _ hy))

/-- A text can be cut before a delimiter. -/
theorem split {d : Char} (hd : IsDelimiter d) (h : Escaped ok (a ++ d :: b)) :
    Escaped ok a ∧ Escaped ok (d :: b) := by
  generalize hwhole : a ++ d :: b = whole at h
  induction h generalizing a with
  | nil => cases a <;> cases hwhole
  | @plain _ _ hpercent hok hrest ih =>
    cases a with
    | nil =>
      cases hwhole
      exact ⟨.nil, .plain hpercent hok hrest⟩
    | cons =>
      cases hwhole
      obtain ⟨hleft, hright⟩ := ih rfl
      exact ⟨.plain hpercent hok hleft, hright⟩
  | @escape _ _ _ _ _ hx hy hok _ ih =>
    cases a with
    | nil =>
      cases hwhole
      exact absurd rfl hd.1
    | cons _ a =>
      cases a with
      | nil =>
        cases hwhole
        rw [hd.2] at hx
        cases hx
      | cons _ a =>
        cases a with
        | nil =>
          cases hwhole
          rw [hd.2] at hy
          cases hy
        | cons =>
          cases hwhole
          obtain ⟨hleft, hright⟩ := ih rfl
          exact ⟨.escape hx hy hok hleft, hright⟩

theorem tail_of_delimiter {d : Char} (hd : IsDelimiter d) (h : Escaped ok (d :: b)) :
    Escaped ok b := by
  cases h with
  | plain _ _ hrest => exact hrest
  | escape => exact absurd rfl hd.1

theorem of_append_right (h : Escaped ok (a ++ b)) (hb : ∀ d, b.head? = some d → IsDelimiter d) :
    Escaped ok b := by
  cases b with
  | nil => exact .nil
  | cons d => exact (h.split (hb d rfl)).2

theorem of_append_left (h : Escaped ok (a ++ b)) (hb : ∀ d, b.head? = some d → IsDelimiter d) :
    Escaped ok a := by
  cases b with
  | nil => rwa [List.append_nil] at h
  | cons d => exact (h.split (hb d rfl)).1

end Escaped

/-! ### Cutting -/

variable {p isSep : Char → Bool} {c : Char}

theorem head_dropWhile {d : Char} (h : (text.dropWhile p).head? = some d) : p d = false := by
  have hhead := List.head?_dropWhile_not p text
  rw [h] at hhead
  simpa using hhead

section Cutting

variable {p : Char → Bool} (hp : ∀ c, p c = false → IsDelimiter c)

include hp

theorem Escaped.takeWhile (h : Escaped ok text) : Escaped ok (text.takeWhile p) := by
  rw [← List.takeWhile_append_dropWhile (p := p) (l := text)] at h
  exact h.of_append_left fun d hd => hp d (head_dropWhile hd)

theorem Escaped.dropWhile (h : Escaped ok text) : Escaped ok (text.dropWhile p) := by
  rw [← List.takeWhile_append_dropWhile (p := p) (l := text)] at h
  exact h.of_append_right fun d hd => hp d (head_dropWhile hd)

end Cutting

/-! ### Encoding -/

theorem hexValue_hexDigit {n : Nat} (h : n < 16) : hexValue (hexDigit n) = some n := by
  have hall : ∀ n < 16, hexValue (hexDigit n) = some n := by decide
  exact hall n h

theorem escaped_percentByte {byte : UInt8} (hok : ok byte.toNat) : Escaped ok (percentByte byte) := by
  have hlt : byte.toNat < 256 := UInt8.toNat_lt byte
  refine .escape (hexValue_hexDigit (by omega)) (hexValue_hexDigit (Nat.mod_lt _ (by decide))) ?_ .nil
  rwa [Nat.div_add_mod]

section Encoding

variable {rules : Rules} {component : Component}

theorem escaped_encodeChar {c : Char} (hwide : ∀ n, 128 ≤ n → ok n) (hpercent : c ≠ '%')
    (hok : ok c.toNat) : Escaped ok (encodeChar rules component c) := by
  unfold encodeChar
  split_ifs
  · apply Escaped.flatMap
    intro byte hbyte
    apply escaped_percentByte
    rcases Utf8.encodeChar_cases c with ⟨hascii, hbytes⟩ | ⟨-, -, hbytes⟩
    · rw [hbytes, List.mem_singleton] at hbyte
      rw [hbyte, UInt8.toNat_ofNat', Nat.mod_eq_of_lt (by omega)]
      exact hok
    · exact hwide _ (hbytes byte hbyte)
  · exact .plain hpercent hok .nil

theorem Escaped.encode (hwide : ∀ n, 128 ≤ n → ok n) (h : Escaped ok text) :
    Escaped ok (encode rules component text) := by
  induction h with
  | nil => exact .nil
  | plain hpercent hok _ ih =>
    rw [Whatwg.encode, List.flatMap_cons]
    exact (escaped_encodeChar hwide hpercent hok).append ih
  | @escape a b _ _ _ ha hb hok _ ih =>
    have hfirst : encodeChar rules component '%' = ['%'] := by
      simp [encodeChar, rules.encodes_percent]
    have hsecond : encodeChar rules component a = [a] := by
      simp [encodeChar, rules.encodes_hex component a (by simp [ha])]
    have hthird : encodeChar rules component b = [b] := by
      simp [encodeChar, rules.encodes_hex component b (by simp [hb])]
    simp only [Whatwg.encode, List.flatMap_cons, hfirst, hsecond, hthird]
    exact .escape ha hb hok ih

/-- What encoding adds is percent signs and hexadecimal digits. -/
theorem mem_encode {c : Char} (hc : c ∈ encode rules component text) :
    c = '%' ∨ (hexValue c).isSome = true ∨ c ∈ text ∧ rules.encodes component c = false := by
  obtain ⟨source, hsource, hmem⟩ := List.mem_flatMap.mp hc
  unfold encodeChar at hmem
  split_ifs at hmem with hencodes
  · obtain ⟨byte, -, hdigit⟩ := List.mem_flatMap.mp hmem
    have hlt : byte.toNat < 256 := UInt8.toNat_lt byte
    simp only [percentByte, List.mem_cons, List.not_mem_nil, or_false] at hdigit
    rcases hdigit with rfl | rfl | rfl
    · exact Or.inl rfl
    · exact Or.inr (Or.inl (by rw [hexValue_hexDigit (by omega)]; rfl))
    · exact Or.inr (Or.inl (by rw [hexValue_hexDigit (Nat.mod_lt _ (by decide))]; rfl))
  · rw [List.mem_singleton] at hmem
    subst hmem
    exact Or.inr (Or.inr ⟨hsource, by simpa using hencodes⟩)

end Encoding

/-! ### Segments -/

theorem splitSegments_ne_nil (isSep : Char → Bool) (text : List Char) :
    splitSegments isSep text ≠ [] := by
  induction text with
  | nil => simp [splitSegments]
  | cons =>
    unfold splitSegments
    split_ifs
    · simp
    · split <;> simp

theorem splitSegments_cons (rest : List Char) (hc : isSep c = false) :
    ∃ segment segments, splitSegments isSep rest = segment :: segments ∧
      splitSegments isSep (c :: rest) = (c :: segment) :: segments := by
  cases hsplit : splitSegments isSep rest with
  | nil => exact absurd hsplit (splitSegments_ne_nil isSep rest)
  | cons segment segments =>
    refine ⟨segment, segments, rfl, ?_⟩
    rw [splitSegments, if_neg (by simp [hc]), hsplit]

theorem mem_splitSegments {segment : List Char} (h : segment ∈ splitSegments isSep text) :
    ∀ c ∈ segment, isSep c = false := by
  induction text generalizing segment with
  | nil =>
    rw [splitSegments, List.mem_singleton] at h
    simp [h]
  | cons c rest ih =>
    by_cases hc : isSep c = true
    · rw [splitSegments, if_pos hc] at h
      rcases List.mem_cons.mp h with rfl | h
      · simp
      · exact ih h
    · have hc : isSep c = false := by simpa using hc
      obtain ⟨first, segments, hrest, hsplit⟩ := splitSegments_cons rest hc
      rw [hsplit] at h
      rcases List.mem_cons.mp h with rfl | h
      · intro d hd
        rcases List.mem_cons.mp hd with rfl | hd
        · exact hc
        · exact ih (by rw [hrest]; exact List.mem_cons_self) d hd
      · exact ih (by rw [hrest]; exact List.mem_cons_of_mem _ h)

theorem Escaped.splitSegments (hsep : ∀ c, isSep c = true → IsDelimiter c) (h : Escaped ok text) :
    ∀ segment ∈ splitSegments isSep text, Escaped ok segment := by
  have hplain : ∀ c, ¬IsDelimiter c → isSep c = false := by
    intro c hc
    by_contra hne
    exact hc (hsep c (by simpa using hne))
  induction h with
  | nil =>
    intro segment hsegment
    rw [Whatwg.splitSegments, List.mem_singleton] at hsegment
    rw [hsegment]
    exact .nil
  | @plain c rest hpercent hok _ ih =>
    intro segment hsegment
    by_cases hc : isSep c = true
    · rw [Whatwg.splitSegments, if_pos hc] at hsegment
      rcases List.mem_cons.mp hsegment with rfl | hsegment
      · exact .nil
      · exact ih segment hsegment
    · obtain ⟨first, segments, hrest, hsplit⟩ :=
        splitSegments_cons (rest) (Bool.eq_false_iff.mpr hc)
      rw [hrest] at ih
      rw [hsplit] at hsegment
      rcases List.mem_cons.mp hsegment with rfl | hsegment
      · exact .plain hpercent hok (ih first List.mem_cons_self)
      · exact ih segment (List.mem_cons_of_mem _ hsegment)
  | @escape x y n m rest hx hy hok _ ih =>
    intro segment hsegment
    obtain ⟨first, segments, hrest, hsplit⟩ :=
      splitSegments_cons (rest) (hplain y fun hd => by simp [hd.2] at hy)
    obtain ⟨first', segments', hrest', hsplit'⟩ :=
      splitSegments_cons (y :: rest) (hplain x fun hd => by simp [hd.2] at hx)
    obtain ⟨first'', segments'', hrest'', hsplit''⟩ :=
      splitSegments_cons (x :: y :: rest) (hplain '%' fun hd => hd.1 rfl)
    rw [hsplit] at hrest'
    cases hrest'
    rw [hsplit'] at hrest''
    cases hrest''
    rw [hrest] at ih
    rw [hsplit''] at hsegment
    rcases List.mem_cons.mp hsegment with rfl | hsegment
    · exact .escape hx hy hok (ih first List.mem_cons_self)
    · exact ih segment (List.mem_cons_of_mem _ hsegment)

section Paths

variable {rules : Rules}

/-- What holds of the empty segment and of every encoded one holds of all segments of the path. -/
theorem addSegments_forall (property : List Char → Prop) (hnil : property [])
    {path raw : List (List Char)} (hpath : ∀ segment ∈ path, property segment)
    (hraw : ∀ segment ∈ raw, property (encode rules .path segment)) :
    ∀ segment ∈ addSegments rules path raw, property segment := by
  have hdrop : ∀ {path : List (List Char)}, (∀ segment ∈ path, property segment) →
      ∀ segment ∈ path.dropLast, property segment :=
    fun hpath segment hsegment => hpath segment (List.dropLast_subset _ hsegment)
  have hsnoc : ∀ {path : List (List Char)} {last : List Char},
      (∀ segment ∈ path, property segment) → property last →
      ∀ segment ∈ path ++ [last], property segment := by
    intro path last hpath hlast segment hsegment
    rcases List.mem_append.mp hsegment with hsegment | hsegment
    · exact hpath segment hsegment
    · rw [List.mem_singleton.mp hsegment]
      exact hlast
  induction raw generalizing path with
  | nil => exact hpath
  | cons segment rest ih =>
    have hbuffer := hraw segment List.mem_cons_self
    have hrest := fun s hs => hraw s (List.mem_cons_of_mem _ hs)
    cases rest with
    | nil =>
      unfold addSegments
      dsimp only
      split_ifs
      · exact hsnoc (hdrop hpath) hnil
      · exact hsnoc hpath hnil
      · exact hsnoc hpath hbuffer
    | cons =>
      unfold addSegments
      dsimp only
      split_ifs
      · exact ih (hdrop hpath) hrest
      · exact ih hpath hrest
      · exact ih (hsnoc hpath hbuffer) hrest

theorem addSegments_ne_nil {path raw : List (List Char)} (hraw : raw ≠ []) :
    addSegments rules path raw ≠ [] := by
  induction raw generalizing path with
  | nil => exact absurd rfl hraw
  | cons _ rest ih =>
    cases rest with
    | nil =>
      unfold addSegments
      dsimp only
      split_ifs <;> simp
    | cons =>
      unfold addSegments
      dsimp only
      split_ifs <;> exact ih (by simp)

variable {special : Bool}

theorem isDelimiter_of_isSeparator {c : Char} (h : isSeparator special c = true) :
    IsDelimiter c := by
  simp only [isSeparator, Bool.or_eq_true, Bool.and_eq_true, beq_iff_eq] at h
  rcases h with rfl | ⟨-, rfl⟩ <;> exact ⟨by decide, by decide⟩

theorem Escaped.afterFirst {c : Char} {rest : List Char} (hc : IsDelimiter c)
    (h : Escaped ok text) (hrest : afterFirst c text = some rest) : Escaped ok rest := by
  have hp : ∀ d, decide (d ≠ c) = false → IsDelimiter d := by
    intro d hd
    rw [of_not_not (of_decide_eq_false hd)]
    exact hc
  have hdrop := h.dropWhile hp
  have hhead : ∀ d, (text.dropWhile (· ≠ c)).head? = some d → IsDelimiter d :=
    fun d hd => hp d (head_dropWhile hd)
  unfold Whatwg.afterFirst at hrest
  cases htail : text.dropWhile (· ≠ c) with
  | nil =>
    rw [htail] at hrest
    cases hrest
  | cons d =>
    rw [htail] at hrest hdrop hhead
    cases hrest
    exact hdrop.tail_of_delimiter (hhead d rfl)

theorem Escaped.beforeFragment (h : Escaped ok text) : Escaped ok (beforeFragment text) := by
  apply h.takeWhile
  intro c hc
  rw [of_not_not (of_decide_eq_false hc)]
  exact ⟨by decide, by decide⟩

theorem Escaped.pathPart (h : Escaped ok text) : Escaped ok (pathPart text) := by
  apply h.beforeFragment.takeWhile
  intro c hc
  rw [of_not_not (of_decide_eq_false hc)]
  exact ⟨by decide, by decide⟩

theorem Escaped.dropSeparator (h : Escaped ok text) : Escaped ok (dropSeparator special text) := by
  unfold Whatwg.dropSeparator
  split
  · exact .nil
  · split_ifs with hsep
    · exact h.tail_of_delimiter (isDelimiter_of_isSeparator hsep)
    · exact h

section Wide

variable (hwide : ∀ n, 128 ≤ n → ok n)

include hwide

theorem Escaped.queryOf {query : List Char} (h : Escaped ok text)
    (hquery : queryOf rules text = some query) : Escaped ok query := by
  obtain ⟨rest, hrest, rfl⟩ := Option.map_eq_some_iff.mp hquery
  exact (h.beforeFragment.afterFirst ⟨by decide, by decide⟩ hrest).encode hwide

theorem Escaped.fragmentOf {fragment : List Char} (h : Escaped ok text)
    (hfragment : fragmentOf rules text = some fragment) : Escaped ok fragment := by
  obtain ⟨rest, hrest, rfl⟩ := Option.map_eq_some_iff.mp hfragment
  exact (h.afterFirst ⟨by decide, by decide⟩ hrest).encode hwide

theorem Escaped.pathFrom {special : Bool} (h : Escaped ok text) :
    ∀ segment ∈ pathFrom rules special text, Escaped ok segment := by
  unfold Whatwg.pathFrom
  dsimp only
  split_ifs
  · simp
  · apply addSegments_forall (Escaped ok) .nil (by simp)
    intro segment hsegment
    have hseparator : ∀ c, isSeparator special c = true → IsDelimiter c :=
      fun c hc => isDelimiter_of_isSeparator hc
    exact (h.pathPart.dropSeparator.splitSegments hseparator segment hsegment).encode hwide

end Wide

theorem slash_not_mem_pathFrom : ∀ segment ∈ pathFrom rules special text, '/' ∉ segment := by
  unfold pathFrom
  dsimp only
  split_ifs
  · simp
  · apply addSegments_forall ('/' ∉ ·) (by simp) (by simp)
    intro segment hsegment hslash
    rcases mem_encode hslash with hpercent | hhex | ⟨hmem, -⟩
    · exact absurd hpercent (by decide)
    · exact absurd hhex (by decide)
    · have hplain := mem_splitSegments hsegment _ hmem
      simp [isSeparator] at hplain

theorem pathFrom_special_ne_nil : pathFrom rules true text ≠ [] := by
  unfold pathFrom
  dsimp only
  rw [if_neg (by simp)]
  exact addSegments_ne_nil (splitSegments_ne_nil _ _)

end Paths

/-! ### Preparation -/

theorem isDelimiter_of_isC0OrSpace (h : isC0OrSpace c = true) : IsDelimiter c := by
  have hle : c.toNat ≤ 32 := of_decide_eq_true h
  constructor
  · rintro rfl
    exact absurd hle (by decide)
  · unfold hexValue
    dsimp only
    rw [if_neg (by omega), if_neg (by omega), if_neg (by omega)]

theorem Escaped.dropWhile_delimiters (hp : ∀ c, p c = true → IsDelimiter c) (h : Escaped ok text) :
    Escaped ok (text.dropWhile p) := by
  induction text with
  | nil => exact .nil
  | cons c _ ih =>
    by_cases hc : p c = true
    · rw [List.dropWhile_cons_of_pos hc]
      exact ih (h.tail_of_delimiter (hp c hc))
    · rwa [List.dropWhile_cons_of_neg hc]

theorem Escaped.rdropWhile_delimiters (hp : ∀ c, p c = true → IsDelimiter c) (h : Escaped ok text) :
    Escaped ok (text.rdropWhile p) := by
  rw [← List.rdropWhile_append_rtakeWhile (p := p) (l := text)] at h
  apply h.of_append_left
  intro d hd
  exact hp d (List.mem_rtakeWhile_imp (List.mem_of_mem_head? hd))

/-- A property of the admitted characters, the percent sign and the hexadecimal digits. -/
theorem Escaped.forall_mem {property : Char → Prop} (h : Escaped ok text)
    (hok : ∀ c : Char, ok c.toNat → property c) (hpercent : property '%')
    (hhex : ∀ c, (hexValue c).isSome = true → property c) : ∀ c ∈ text, property c := by
  induction h with
  | nil => simp
  | plain _ hplain _ ih => exact List.forall_mem_cons.mpr ⟨hok _ hplain, ih⟩
  | escape ha hb _ _ ih =>
    refine List.forall_mem_cons.mpr ⟨hpercent, List.forall_mem_cons.mpr ⟨?_, ?_⟩⟩
    · exact hhex _ (by simp [ha])
    · exact List.forall_mem_cons.mpr ⟨hhex _ (by simp [hb]), ih⟩

theorem toNat_ge_of_hexValue (h : (hexValue c).isSome = true) : 48 ≤ c.toNat := by
  by_contra hlt
  unfold hexValue at h
  dsimp only at h
  rw [if_neg (by omega), if_neg (by omega), if_neg (by omega)] at h
  cases h

theorem rdropWhile_cons (rest : List Char) (hc : isC0OrSpace c = false) :
    ∃ kept, (c :: rest).rdropWhile isC0OrSpace = c :: kept ∧ kept <+: rest := by
  have hpre := List.rdropWhile_prefix isC0OrSpace (l := c :: rest)
  cases hkept : (c :: rest).rdropWhile isC0OrSpace with
  | nil =>
    have hall := List.rdropWhile_eq_nil_iff.mp hkept c List.mem_cons_self
    rw [hc] at hall
    cases hall
  | cons d kept =>
    rw [hkept] at hpre
    obtain ⟨rfl, hrest⟩ := List.cons_prefix_cons.mp hpre
    exact ⟨kept, rfl, hrest⟩

section Prepare

variable (hprintable : ∀ n, ok n → 0x20 ≤ n)

include hprintable

theorem Escaped.printable (h : Escaped ok text) : ∀ c ∈ text, 0x20 ≤ c.toNat := by
  apply h.forall_mem (fun c hc => hprintable _ hc) (by decide)
  intro c hc
  exact le_trans (by decide) (toNat_ge_of_hexValue hc)

theorem Escaped.prepare_eq (h : Escaped ok text) :
    prepare text = (text.dropWhile isC0OrSpace).rdropWhile isC0OrSpace := by
  have htrimmed := (h.dropWhile_delimiters fun c hc => isDelimiter_of_isC0OrSpace hc)
    |>.rdropWhile_delimiters fun c hc => isDelimiter_of_isC0OrSpace hc
  refine List.filter_eq_self.mpr ?_
  intro c hc
  have hge := htrimmed.printable hprintable c hc
  simp only [isTabOrNewline, Bool.not_eq_true', Bool.or_eq_false_iff, beq_eq_false_iff_ne]
  refine ⟨⟨?_, ?_⟩, ?_⟩ <;> rintro rfl <;> exact absurd hge (by decide)

theorem Escaped.prepare (h : Escaped ok text) : Escaped ok (prepare text) := by
  rw [h.prepare_eq hprintable]
  exact (h.dropWhile_delimiters fun c hc => isDelimiter_of_isC0OrSpace hc)
    |>.rdropWhile_delimiters fun c hc => isDelimiter_of_isC0OrSpace hc

/-- Preparation keeps the first character of a text that does not begin with a space, and drops only
from its end. -/
theorem Escaped.prepare_cons {c : Char} {rest : List Char} (hc : isC0OrSpace c = false)
    (h : Escaped ok (c :: rest)) : ∃ kept, Whatwg.prepare (c :: rest) = c :: kept ∧ kept <+: rest := by
  rw [h.prepare_eq hprintable, List.dropWhile_cons_of_neg (by simp [hc])]
  exact rdropWhile_cons rest hc

end Prepare

/-! ### Special URLs

A URL of a special scheme ends in what `withRest` reads, whether it was parsed on its own or resolved
from its root, so one set of lemmas covers both. -/

section Special

variable {rules : Rules} {url base : Url} {raw rest : List Char}

variable {scheme : List Char}

theorem parseAuthority_eq_withRest (h : parseAuthority rules scheme text = some url) :
    ∃ front host, front.scheme = scheme ∧ front.host = some host ∧
      url = withRest rules front (text.dropWhile (! endsAuthority (isSpecial scheme) ·)) := by
  unfold parseAuthority at h
  dsimp only at h
  split at h
  · cases h
  · split_ifs at h
    obtain ⟨port, -, rfl⟩ := Option.map_eq_some_iff.mp h
    exact ⟨_, _, rfl, rfl, rfl⟩

theorem parseAbsolute_scheme (h : parseAbsolute rules scheme text = some url) :
    url.scheme = scheme := by
  have hauthority : ∀ {text}, parseAuthority rules scheme text = some url → url.scheme = scheme := by
    intro text h
    obtain ⟨front, host, hfront, -, rfl⟩ := parseAuthority_eq_withRest h
    exact hfront
  unfold parseAbsolute at h
  split_ifs at h
  · exact hauthority h
  · split at h
    · exact hauthority h
    · cases h
      rfl
    · cases h
      rfl

theorem parse_eq_parseAbsolute (h : parse rules raw = some url) :
    ∃ scheme rest, readScheme (prepare raw) = some (scheme, rest) ∧
      parseAbsolute rules scheme rest = some url := by
  unfold parse parseWith at h
  dsimp only at h
  cases hscheme : readScheme (prepare raw) with
  | none =>
    rw [hscheme] at h
    cases h
  | some pair =>
    rw [hscheme] at h
    exact ⟨pair.1, pair.2, rfl, h⟩

theorem parse_rooted (rest : List Char) : parse rules ('/' :: rest) = none := by
  obtain ⟨kept, hkept, -⟩ := rdropWhile_cons rest (c := '/') rfl
  have hprepare : prepare ('/' :: rest) = '/' :: kept.filter (! isTabOrNewline ·) := by
    unfold prepare
    rw [List.dropWhile_cons_of_neg (by decide)]
    change ((('/' :: rest).rdropWhile isC0OrSpace).filter (! isTabOrNewline ·)) = _
    rw [hkept]
    rfl
  unfold parse parseWith
  rw [hprepare]
  rfl

theorem parse_special (h : parse rules raw = some url) (hspecial : isSpecial url.scheme = true) :
    ∃ scheme rest front host, readScheme (prepare raw) = some (scheme, rest) ∧
      front.scheme = url.scheme ∧ front.host = some host ∧
      url = withRest rules front ((dropSlashes true rest).dropWhile (! endsAuthority true ·)) := by
  obtain ⟨scheme, rest, hread, habsolute⟩ := parse_eq_parseAbsolute h
  obtain rfl := parseAbsolute_scheme habsolute
  unfold parseAbsolute at habsolute
  rw [if_pos hspecial] at habsolute
  split_ifs at habsolute
  obtain ⟨front, host, hfront, hhost, hurl⟩ := parseAuthority_eq_withRest habsolute
  rw [hspecial] at hurl
  exact ⟨_, rest, front, host, hread, hfront, hhost, hurl⟩

theorem isDelimiter_of_endsAuthority {special : Bool} {c : Char}
    (h : endsAuthority special c = true) : IsDelimiter c := by
  simp only [endsAuthority, Bool.or_eq_true, beq_iff_eq] at h
  rcases h with (h | rfl) | rfl
  · exact isDelimiter_of_isSeparator h
  · exact ⟨by decide, by decide⟩
  · exact ⟨by decide, by decide⟩

theorem Escaped.readScheme (h : Escaped ok text) (hread : readScheme text = some (scheme, rest)) :
    Escaped ok rest := by
  unfold Whatwg.readScheme at hread
  split at hread
  · cases hread
  · split_ifs at hread
    split at hread
    · rename_i hdrop
      cases hread
      rw [← List.takeWhile_append_dropWhile (p := isSchemeChar) (l := _ :: _), hdrop] at h
      have hcolon : IsDelimiter ':' := ⟨by decide, by decide⟩
      exact (h.split hcolon).2.tail_of_delimiter hcolon
    · cases hread

theorem Escaped.parse_special (hprintable : ∀ n, ok n → 0x20 ≤ n) (hraw : Escaped ok raw)
    (h : parse rules raw = some url) (hspecial : isSpecial url.scheme = true) :
    ∃ front rest, Escaped ok rest ∧ front.scheme = url.scheme ∧ url = withRest rules front rest := by
  obtain ⟨scheme, rest, front, -, hread, hfront, -, hurl⟩ := Whatwg.parse_special h hspecial
  refine ⟨front, _, ?_, hfront, hurl⟩
  have hrest := (hraw.prepare hprintable).readScheme hread
  refine (hrest.dropWhile_delimiters fun c hc => isDelimiter_of_isSeparator hc).dropWhile ?_
  intro c hc
  exact isDelimiter_of_endsAuthority (by simpa using hc)

theorem origin_eq_tupleOrigin (hspecial : isSpecial url.scheme = true) :
    origin rules url = tupleOrigin url := by
  have hblob : url.scheme ≠ ['b', 'l', 'o', 'b'] := by
    intro hblob
    rw [hblob] at hspecial
    exact absurd hspecial (by decide)
  rw [origin, originOf, if_neg hblob, if_pos hspecial]

theorem defaultPort_isSome (hspecial : isSpecial scheme = true) :
    ∃ port, defaultPort scheme = some port := by
  simp only [isSpecial, Bool.or_eq_true, beq_iff_eq] at hspecial
  rcases hspecial with (((rfl | rfl) | rfl) | rfl) | rfl <;> exact ⟨_, rfl⟩

/-- A special URL that parses has an origin, and its path is a list of segments. -/
theorem origin_of_parse_special (h : parse rules raw = some url)
    (hspecial : isSpecial url.scheme = true) :
    (∃ path, url.path = .segments path) ∧ ∃ o, origin rules url = some o := by
  obtain ⟨scheme, rest, front, host, -, hfront, hhost, hurl⟩ := parse_special h hspecial
  obtain ⟨port, hport⟩ := defaultPort_isSome hspecial
  have hhost : url.host = some host := by rw [hurl]; exact hhost
  refine ⟨⟨_, by rw [hurl]; rfl⟩, ?_⟩
  rw [origin_eq_tupleOrigin hspecial, tupleOrigin, hhost, hport]
  cases url.port with
  | none | some port => exact ⟨_, rfl⟩

theorem origin_withRest (hspecial : isSpecial base.scheme = true) :
    origin rules (withRest rules base text) = origin rules base := by
  have hsame : isSpecial (withRest rules base text).scheme = true := hspecial
  rw [origin_eq_tupleOrigin hspecial, origin_eq_tupleOrigin hsame]
  rfl

theorem parseRelative_rooted {path : List (List Char)} (hspecial : isSpecial base.scheme = true)
    (hsecond : ∀ d, rest.head? = some d → isSeparator true d = false) :
    parseRelative rules base path ('/' :: rest) = some (withRest rules base ('/' :: rest)) := by
  unfold parseRelative
  rw [hspecial]
  cases rest with
  | nil => rfl
  | cons d =>
    have hd : ¬isSeparator true d = true := by simp [hsecond d rfl]
    exact if_neg hd

theorem join_rooted {path : List (List Char)} (hpath : base.path = .segments path)
    (hspecial : isSpecial base.scheme = true)
    (hsecond : ∀ d, rest.head? = some d → isSeparator true d = false)
    (hprepare : prepare raw = '/' :: rest) :
    join rules base raw = some (withRest rules base ('/' :: rest)) := by
  have hscheme : readScheme ('/' :: rest) = none := rfl
  unfold join parseWith
  dsimp only
  rw [hprepare, hscheme]
  dsimp only
  rw [hpath]
  exact parseRelative_rooted hspecial hsecond

end Special

end Whatwg
