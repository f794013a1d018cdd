import AuthMiniGateway.ExtensionGrammar
import AuthMiniGateway.Lib.Fallible
import AuthMiniGateway.Lib.Utf8
import AuthMiniGateway.Proof.CookieText

namespace AuthMiniGateway

open HttpText ExtensionGrammar

/-! ### Characters -/

theorem isQuotedText_eq (c : Char) : isQuotedText c = isQuotedChar c := by
  by_cases hc : c.toNat < 128
  · refine ascii_induction ?_ hc
    decide +kernel
  · have hquoted : isQuotedText c = false := by
      simp only [isQuotedText, Bool.or_eq_false_iff, Bool.and_eq_false_iff, decide_eq_false_iff_not]
      refine ⟨⟨⟨?_, .inr (by omega)⟩, .inr (by omega)⟩, .inr (by omega)⟩
      rintro rfl
      exact hc (by decide)
    have hescapable : isEscapable c = false :=
      Bool.eq_false_iff.mpr fun h => hc (toNat_lt_of_isEscapable h)
    rw [hquoted, isQuotedChar, hescapable]
    rfl

variable {text value inner name : List Char} {c : Char}

theorem isTokenText_iff : isTokenText text = true ↔ ∀ c ∈ text, isTchar c = true := by
  have hchar : ∀ c : Char, (String.utf8EncodeChar c).all isTokenByte = true ↔ isTchar c = true := by
    intro c
    rcases Utf8.encodeChar_cases c with ⟨hascii, hbytes⟩ | ⟨hwide, hne, hbytes⟩
    · rw [hbytes, List.all_cons, List.all_nil, Bool.and_true]
      clear hbytes
      refine ascii_induction ?_ hascii
      decide +kernel
    · have hnot : isTchar c = false := Bool.eq_false_iff.mpr fun h => by
        have := toNat_lt_of_isTchar h
        omega
      rw [hnot]
      refine iff_of_false (fun h => ?_) (by decide)
      obtain ⟨byte, hbyte⟩ := List.exists_mem_of_ne_nil _ hne
      have hall : ∀ n < 256, 128 ≤ n → isTokenByte (UInt8.ofNat n) = false := by decide +kernel
      have hlarge := hall byte.toNat byte.toNat_lt (hbytes byte hbyte)
      rw [UInt8.ofNat_toNat] at hlarge
      exact Bool.false_ne_true (hlarge.symm.trans (List.all_eq_true.mp h byte hbyte))
  rw [isTokenText, Utf8.data_toList, String.toList_ofList, List.all_flatMap, List.all_eq_true]
  exact forall₂_congr fun c _ => hchar c

theorem token_iff : Token text ↔ text ≠ [] ∧ isTokenText text = true := by
  rw [isTokenText_iff]
  exact ⟨fun h => ⟨h.1, h.2⟩, fun h => ⟨h.1, h.2⟩⟩

/-! ### Splitting -/

section

variable {delimiter : Char}

theorem splitPieces_body {body : List Char} (hbody : QuotedBody body) (piece rest : List Char) :
    splitPieces delimiter true false piece (body ++ '"' :: rest)
      = splitPieces delimiter false false ('"' :: (body.reverse ++ piece)) rest := by
  induction hbody generalizing piece with
  | nil => simp [splitPieces]
  | @text c _ hc _ ih =>
    have hquoted : isQuotedText c = true := (isQuotedText_eq c).trans hc
    simp only [isQuotedChar, Bool.and_eq_true, decide_eq_true_eq] at hc
    simp [splitPieces, hc.1.2, hc.2, hquoted, ih]
  | @pair c _ hc _ ih =>
    have hquotable : isQuotable c = true := hc
    simp [splitPieces, hquotable, ih]

theorem splitPieces_closed {text : List Char} (htext : Closed delimiter text) (piece rest : List Char) :
    splitPieces delimiter false false piece (text ++ rest)
      = splitPieces delimiter false false (text.reverse ++ piece) rest := by
  induction htext generalizing piece with
  | nil => rfl
  | plain hquote hdelimiter _ ih => simp [splitPieces, hquote, hdelimiter, ih]
  | @quoted body text hbody _ ih =>
    have hsplit : '"' :: (body ++ '"' :: text) ++ rest = '"' :: (body ++ '"' :: (text ++ rest)) := by simp
    have hquote : splitPieces delimiter false false piece ('"' :: (body ++ '"' :: (text ++ rest)))
        = splitPieces delimiter true false ('"' :: piece) (body ++ '"' :: (text ++ rest)) := by
      simp [splitPieces]
    rw [hsplit, hquote, splitPieces_body hbody, ih]
    simp

variable {pieces : List (List Char)}

theorem splitWebsocketHeader_intercalate (hdelimiter : delimiter ≠ '"') (hne : pieces ≠ [])
    (hclosed : ∀ piece ∈ pieces, Closed delimiter piece) :
    splitWebsocketHeader ([delimiter].intercalate pieces) delimiter = .ok pieces := by
  unfold splitWebsocketHeader
  induction pieces with
  | nil => exact absurd rfl hne
  | cons first rest ih =>
    have hfirst := splitPieces_closed (hclosed first List.mem_cons_self) []
    cases rest with
    | nil =>
      have hread := hfirst []
      rw [List.append_nil, List.append_nil] at hread
      rw [List.intercalate_singleton, hread, splitPieces]
      simp
    | cons =>
      have hrest := ih (by simp) fun piece hpiece => hclosed piece (List.mem_cons_of_mem first hpiece)
      rw [List.intercalate_cons_cons, List.append_assoc, hfirst, List.singleton_append, splitPieces]
      simp [hdelimiter, hrest, Except.map]

/-- What is left of the current piece in a state of the splitter. -/
inductive Remains (delimiter : Char) : Bool → Bool → List Char → Prop
  | outside {text : List Char} : Closed delimiter text → Remains delimiter false false text
  | inside {body text : List Char} : QuotedBody body → Closed delimiter text →
      Remains delimiter true false (body ++ '"' :: text)
  | escaped {c : Char} {body text : List Char} : isEscapable c = true → QuotedBody body →
      Closed delimiter text → Remains delimiter true true (c :: (body ++ '"' :: text))

def HasSplit (delimiter : Char) (quoted escaped : Bool) (piece rest : List Char)
    (pieces : List (List Char)) : Prop :=
  ∃ first others, pieces = (piece.reverse ++ first) :: others ∧
    rest = [delimiter].intercalate (first :: others) ∧ Remains delimiter quoted escaped first ∧
    ∀ other ∈ others, Closed delimiter other

theorem HasSplit.cons {quoted escaped quoted' escaped' : Bool} {c : Char} {piece rest : List Char}
    (h : HasSplit delimiter quoted' escaped' (c :: piece) rest pieces)
    (hstep : ∀ text, Remains delimiter quoted' escaped' text → Remains delimiter quoted escaped (c :: text)) :
    HasSplit delimiter quoted escaped piece (c :: rest) pieces := by
  obtain ⟨first, others, rfl, rfl, hfirst, hothers⟩ := h
  refine ⟨c :: first, others, by simp, ?_, hstep first hfirst, hothers⟩
  cases others with
  | nil => rw [List.intercalate_singleton, List.intercalate_singleton]
  | cons => simp [List.intercalate_cons_cons]

theorem remains_quote (text : List Char) (h : Remains delimiter true false text) :
    Remains delimiter false false ('"' :: text) := by
  cases h with
  | inside hbody htext => exact .outside (.quoted hbody htext)

theorem remains_endQuote (text : List Char) (h : Remains delimiter false false text) :
    Remains delimiter true false ('"' :: text) := by
  cases h with
  | outside htext => exact .inside .nil htext

theorem remains_backslash (text : List Char) (h : Remains delimiter true true text) :
    Remains delimiter true false ('\\' :: text) := by
  cases h with
  | escaped hc hbody htext =>
    have hinside := Remains.inside (QuotedBody.pair hc hbody) htext
    exact hinside

theorem splitPieces_sound {quoted escaped : Bool} (hstate : escaped = true → quoted = true)
    {piece rest : List Char} (h : splitPieces delimiter quoted escaped piece rest = .ok pieces) :
    HasSplit delimiter quoted escaped piece rest pieces := by
  induction rest generalizing quoted escaped piece pieces with
  | nil =>
    simp only [splitPieces] at h
    split at h
    · cases h
    · rename_i hopen
      cases h
      simp only [Bool.or_eq_true, not_or, Bool.not_eq_true] at hopen
      obtain ⟨rfl, rfl⟩ := hopen
      exact ⟨[], [], by simp, by simp, .outside .nil, nofun⟩
  | cons c rest ih =>
    simp only [splitPieces] at h
    cases quoted with
    | true =>
      cases escaped with
      | true =>
        simp only [if_true] at h
        split at h
        · rename_i hc
          refine (ih (by simp) h).cons ?_
          rintro text (_ | ⟨hbody, htext⟩)
          exact .escaped hc hbody htext
        · cases h
      | false =>
        simp only [if_true, Bool.false_eq_true, if_false] at h
        split at h
        · rename_i hc
          subst hc
          exact (ih (by simp) h).cons remains_backslash
        · split at h
          · rename_i hc
            subst hc
            exact (ih (by simp) h).cons remains_endQuote
          · split at h
            · rename_i hc
              refine (ih (by simp) h).cons ?_
              rintro text (_ | ⟨hbody, htext⟩)
              exact .inside (.text ((isQuotedText_eq c).symm.trans hc) hbody) htext
            · cases h
    | false =>
      have hplain : escaped = false := by
        cases escaped with
        | false => rfl
        | true => exact absurd (hstate rfl) (by decide)
      subst hplain
      simp only [Bool.false_eq_true, if_false] at h
      split at h
      · rename_i hc
        subst hc
        exact (ih (by simp) h).cons remains_quote
      · rename_i hquote
        split at h
        · rename_i hc
          subst hc
          obtain ⟨later, hlater, rfl⟩ := Fallible.map_eq_ok_iff.mp h
          obtain ⟨first, others, rfl, rfl, ⟨hfirst⟩, hothers⟩ := ih (by simp) hlater
          refine ⟨[], first :: others, by simp, by simp [List.intercalate_cons_cons], .outside .nil, ?_⟩
          intro other hother
          rcases List.mem_cons.mp hother with rfl | hother
          · exact hfirst
          · exact hothers other hother
        · rename_i hdelimiter
          refine (ih (by simp) h).cons ?_
          rintro text ⟨htext⟩
          exact .outside (.plain hquote hdelimiter htext)

theorem splitWebsocketHeader_sound {value : List Char}
    (h : splitWebsocketHeader value delimiter = .ok pieces) :
    pieces ≠ [] ∧ (∀ piece ∈ pieces, Closed delimiter piece) ∧ [delimiter].intercalate pieces = value := by
  obtain ⟨first, others, rfl, rfl, ⟨hfirst⟩, hothers⟩ := splitPieces_sound (by simp) h
  refine ⟨by simp, ?_, by simp⟩
  intro piece hpiece
  rcases List.mem_cons.mp hpiece with rfl | hpiece
  · exact hfirst
  · exact hothers piece hpiece

end

/-! ### Quoted strings -/

theorem validQuotedText_iff :
    (validQuotedText false text = true ↔ QuotedBody text) ∧
      (validQuotedText true text = true ↔
        ∃ c body, isEscapable c = true ∧ QuotedBody body ∧ text = c :: body) := by
  induction text with
  | nil => exact ⟨⟨fun _ => .nil, fun _ => rfl⟩, ⟨nofun, nofun⟩⟩
  | cons c rest ih =>
    obtain ⟨hplain, hescaped⟩ := ih
    constructor
    · by_cases hbackslash : c = '\\'
      · subst hbackslash
        have hstep : validQuotedText false ('\\' :: rest) = validQuotedText true rest := by
          simp [validQuotedText]
        rw [hstep, hescaped]
        constructor
        · rintro ⟨d, body, hd, hbody, rfl⟩
          exact .pair hd hbody
        · intro h
          cases h with
          | text hc => exact absurd hc (by decide)
          | pair hd hbody => exact ⟨_, _, hd, hbody, rfl⟩
      · have hstep : validQuotedText false (c :: rest)
            = (decide (c ≠ '"') && isQuotedChar c && validQuotedText false rest) := by
          simp [validQuotedText, hbackslash, isQuotedText_eq]
        rw [hstep, Bool.and_eq_true, Bool.and_eq_true, decide_eq_true_eq, hplain]
        constructor
        · rintro ⟨⟨-, hc⟩, hrest⟩
          exact .text hc hrest
        · intro h
          cases h with
          | text hc hrest =>
            refine ⟨⟨?_, hc⟩, hrest⟩
            rintro rfl
            exact absurd hc (by decide)
          | pair => exact absurd rfl hbackslash
    · have hstep : validQuotedText true (c :: rest) = (isQuotable c && validQuotedText false rest) := by
        simp [validQuotedText]
      rw [hstep, Bool.and_eq_true, hplain]
      constructor
      · rintro ⟨hc, hrest⟩
        exact ⟨c, rest, hc, hrest, rfl⟩
      · rintro ⟨d, body, hd, hbody, heq⟩
        cases heq
        exact ⟨hd, hbody⟩

theorem validWebsocketQuotedString_iff :
    validWebsocketQuotedString value = true ↔ QuotedString value := by
  simp only [validWebsocketQuotedString, Bool.and_eq_true, decide_eq_true_eq, validQuotedText_iff.1]
  constructor
  · rintro ⟨⟨⟨hlength, hhead⟩, hlast⟩, hbody⟩
    refine ⟨_, hbody, ?_⟩
    cases value with
    | nil => cases hhead
    | cons c rest =>
      cases hhead
      have hne : rest ≠ [] := by
        rintro rfl
        simp at hlength
      rw [List.drop_one, List.tail_cons]
      rw [List.getLast?_cons_of_ne_nil hne] at hlast
      have hend : rest.getLast hne = '"' := by
        rw [List.getLast?_eq_getLast_of_ne_nil hne] at hlast
        exact Option.some.inj hlast
      rw [← hend, List.dropLast_append_getLast]
  · rintro ⟨body, hbody, rfl⟩
    refine ⟨⟨⟨by simp, rfl⟩, ?_⟩, ?_⟩
    · rw [← List.cons_append, List.getLast?_append]
      rfl
    · rw [List.drop_one, List.tail_cons, List.dropLast_concat]
      exact hbody

theorem isParameterValue_iff :
    isParameterValue value = true ↔ Token value ∨ QuotedString value := by
  rw [isParameterValue, Bool.and_eq_true, Bool.or_eq_true, decide_eq_true_eq, token_iff,
    validWebsocketQuotedString_iff, and_or_left]
  refine or_congr_right ⟨fun h => h.2, fun h => ⟨?_, h⟩⟩
  obtain ⟨body, -, rfl⟩ := h
  simp

/-! ### Trimming -/

def Visible (text : List Char) : Prop := ∀ c ∈ text, isEscapable c = true

theorem isWhiteSpace_of_isEscapable (h : isEscapable c = true) : isWhiteSpace c = isBlank c := by
  have hlt := toNat_lt_of_isEscapable h
  revert h
  refine ascii_induction ?_ hlt
  decide +kernel

theorem Visible.of_subset (h : Visible text) (hsub : inner ⊆ text) :
    Visible inner := fun c hc => h c (hsub hc)

theorem Visible.blank (h : Visible text) (hspace : ∀ c ∈ text, isWhiteSpace c = true) :
    Blank text := fun c hc => (isWhiteSpace_of_isEscapable (h c hc)).symm.trans (hspace c hc)

theorem trim_split (text : List Char) :
    ∃ left right, (∀ c ∈ left, isWhiteSpace c = true) ∧ (∀ c ∈ right, isWhiteSpace c = true) ∧
      text = left ++ (trim text ++ right) := by
  have hright := List.takeWhile_append_dropWhile
    (p := isWhiteSpace) (l := (text.dropWhile isWhiteSpace).reverse)
  refine ⟨text.takeWhile isWhiteSpace, ((text.dropWhile isWhiteSpace).reverse.takeWhile isWhiteSpace).reverse,
    fun c hc => List.mem_takeWhile_imp hc,
    fun c hc => List.mem_takeWhile_imp (List.mem_reverse.mp hc), ?_⟩
  have hend := congrArg List.reverse hright
  rw [List.reverse_append, List.reverse_reverse] at hend
  rw [trim, hend, List.takeWhile_append_dropWhile]

theorem padded_trim (h : Visible text) : Padded text (trim text) := by
  obtain ⟨left, right, hleft, hright, htext⟩ := trim_split text
  have hin : left ⊆ text ∧ right ⊆ text := by
    rw [htext]
    exact ⟨List.subset_append_left _ _, fun c hc => List.mem_append_right _ (List.mem_append_right _ hc)⟩
  exact ⟨left, right, (h.of_subset hin.1).blank hleft, (h.of_subset hin.2).blank hright, htext⟩

theorem ExtensionGrammar.Padded.visible_of_inner (h : Padded text inner) (hinner : Visible inner) :
    Visible text := by
  obtain ⟨before, after, hbefore, hafter, rfl⟩ := h.padding
  have hblank : ∀ c, isBlank c = true → isEscapable c = true := by
    intro c hc
    simp only [isBlank, Bool.or_eq_true, decide_eq_true_eq] at hc
    rcases hc with rfl | rfl <;> decide
  intro c hc
  rcases List.mem_append.mp hc with hc | hc
  · exact hblank c (hbefore c hc)
  · rcases List.mem_append.mp hc with hc | hc
    · exact hinner c hc
    · exact hblank c (hafter c hc)

structure Solid (text : List Char) : Prop where
  ne_nil : text ≠ []
  first : ∀ c, text.head? = some c → isWhiteSpace c = false
  last : ∀ c, text.getLast? = some c → isWhiteSpace c = false

theorem ExtensionGrammar.Padded.trim_eq (h : Padded text inner) (hsolid : Solid inner) :
    trim text = inner := by
  obtain ⟨before, after, hbefore, hafter, rfl⟩ := h.padding
  have hspace : ∀ c, isBlank c = true → isWhiteSpace c = true := by
    intro c hc
    simp only [isBlank, Bool.or_eq_true, decide_eq_true_eq] at hc
    rcases hc with rfl | rfl <;> decide
  exact trim_around (fun c hc => hspace c (hbefore c hc)) (fun c hc => hspace c (hafter c hc))
    hsolid.first hsolid.last hsolid.ne_nil

theorem isWhiteSpace_of_isTchar (h : isTchar c = true) : isWhiteSpace c = false :=
  (isWhiteSpace_of_isEscapable (isTchar_facts h).1).trans (isTchar_facts h).2.1

theorem solid_token (h : Token text) : Solid text where
  ne_nil := h.ne_nil
  first c hc := isWhiteSpace_of_isTchar (h.isTchar c (List.mem_of_mem_head? hc))
  last c hc := isWhiteSpace_of_isTchar (h.isTchar c (List.mem_of_mem_getLast? hc))

theorem solid_value (h : Token value ∨ QuotedString value) : Solid value := by
  rcases h with htoken | ⟨body, -, rfl⟩
  · exact solid_token htoken
  · refine ⟨by simp, ?_, ?_⟩
    · intro c hc
      cases hc
      decide
    · intro c hc
      rw [← List.cons_append, List.getLast?_append] at hc
      cases hc
      decide

theorem Solid.between {left right : List Char} (hleft : Solid left) (hright : Solid right)
    (middle : List Char) : Solid (left ++ (middle ++ right)) where
  ne_nil := by simp [hleft.ne_nil]
  first c hc := by
    rw [List.head?_append_of_ne_nil _ hleft.ne_nil] at hc
    exact hleft.first c hc
  last c hc := by
    rw [List.getLast?_append_of_ne_nil _ (by simp [hright.ne_nil]),
      List.getLast?_append_of_ne_nil _ hright.ne_nil] at hc
    exact hright.last c hc

/-! ### Parameters -/

theorem token_not_mem (h : Token text) (hc : isTchar c = false) : c ∉ text :=
  fun hmem => Bool.false_ne_true (hc.symm.trans (h.isTchar c hmem))

theorem ExtensionGrammar.Padded.not_mem (h : Padded text inner) (hc : isBlank c = false)
    (hinner : c ∉ inner) : c ∉ text := by
  obtain ⟨before, after, hbefore, hafter, rfl⟩ := h.padding
  intro hmem
  rcases List.mem_append.mp hmem with hmem | hmem
  · exact Bool.false_ne_true (hc.symm.trans (hbefore c hmem))
  · rcases List.mem_append.mp hmem with hmem | hmem
    · exact hinner hmem
    · exact Bool.false_ne_true (hc.symm.trans (hafter c hmem))

def parameterParts (parameter : List Char) : List Char × Option (List Char) :=
  match splitOnce '=' parameter with
  | some (name, value) => (trim name, some (trim value))
  | none => (parameter, none)

theorem parseParameter_eq_ok {parameters after : List String} :
    parseParameter parameters text = .ok after ↔
      trim text ≠ [] ∧ Token (parameterParts (trim text)).1 ∧
        (∀ value, (parameterParts (trim text)).2 = some value → Token value ∨ QuotedString value) ∧
        asciiLowercase (parameterParts (trim text)).1 ∉ parameters ∧
        after = asciiLowercase (parameterParts (trim text)).1 :: parameters := by
  have hstep : parseParameter parameters text =
      if trim text = [] ∨ (parameterParts (trim text)).1 = [] ∨
          isTokenText (parameterParts (trim text)).1 = false ∨
          parameters.contains (asciiLowercase (parameterParts (trim text)).1) ∨
          (parameterParts (trim text)).2.all isParameterValue = false then .error .badRequest
      else .ok (asciiLowercase (parameterParts (trim text)).1 :: parameters) := rfl
  have hvalues : (parameterParts (trim text)).2.all isParameterValue = true ↔
      ∀ value, (parameterParts (trim text)).2 = some value → Token value ∨ QuotedString value := by
    rw [Option.all_eq_true]
    exact forall₂_congr fun value _ => isParameterValue_iff
  rw [hstep, ← hvalues, token_iff]
  split
  · rename_i hbad
    refine iff_of_false nofun ?_
    rintro ⟨htrim, ⟨hname, htoken⟩, hvalue, hnew, -⟩
    rcases hbad with h | h | h | h | h
    · exact htrim h
    · exact hname h
    · exact Bool.false_ne_true (h.symm.trans htoken)
    · exact hnew (List.contains_iff_mem.mp h)
    · exact Bool.false_ne_true (h.symm.trans hvalue)
  · rename_i hgood
    simp only [not_or, Bool.not_eq_false, List.contains_iff_mem] at hgood
    obtain ⟨htrim, hname, htoken, hnew, hvalue⟩ := hgood
    rw [Except.ok.injEq]
    exact ⟨fun h => ⟨htrim, ⟨hname, htoken⟩, hvalue, hnew, h.symm⟩, fun h => h.2.2.2.2.symm⟩

theorem isParameter_of_parts (hvisible : Visible text)
    (hname : Token (parameterParts (trim text)).1)
    (hvalue : ∀ value, (parameterParts (trim text)).2 = some value → Token value ∨ QuotedString value) :
    IsParameter text (parameterParts (trim text)).1 := by
  have hpadded := padded_trim hvisible
  unfold parameterParts at hname hvalue ⊢
  cases hsplit : splitOnce '=' (trim text) with
  | none =>
    rw [hsplit] at hname
    exact .bare hname hpadded
  | some parts =>
    obtain ⟨left, right⟩ := parts
    rw [hsplit] at hname hvalue
    obtain ⟨before, after, hbefore, hafter, htext⟩ := hpadded.padding
    rw [splitOnce_eq_some hsplit] at htext
    have hin : left ⊆ text ∧ right ⊆ text := by
      rw [htext]
      constructor
      · intro c hc
        simp [hc]
      · intro c hc
        simp [hc]
    obtain ⟨before', after', hbefore', hafter', hleft⟩ := (padded_trim (hvisible.of_subset hin.1)).padding
    obtain ⟨before'', after'', hbefore'', hafter'', hright⟩ :=
      (padded_trim (hvisible.of_subset hin.2)).padding
    have hjoined : text = (before ++ left) ++ '=' :: (right ++ after) := by
      rw [htext]
      simp
    rw [hjoined]
    refine .valued hname (hvalue _ rfl) ⟨before ++ before', after', hbefore.append hbefore', hafter', ?_⟩
      ⟨before'', after'' ++ after, hbefore'', hafter''.append hafter, ?_⟩
    · conv_lhs => rw [hleft]
      simp
    · conv_lhs => rw [hright]
      simp

theorem parts_of_isParameter (h : IsParameter text name) :
    trim text ≠ [] ∧ (parameterParts (trim text)).1 = name ∧ Token name ∧
      ∀ value, (parameterParts (trim text)).2 = some value → Token value ∨ QuotedString value := by
  have hequals : isTchar '=' = false := by decide
  cases h with
  | bare hname hpadded =>
    rw [hpadded.trim_eq (solid_token hname), parameterParts, splitOnce_of_not_mem (token_not_mem hname hequals)]
    exact ⟨hname.ne_nil, rfl, hname, nofun⟩
  | @valued left right name value hname hvalue hleft hright =>
    obtain ⟨before, middle, hbefore, hmiddle, hleftText⟩ := hleft.padding
    obtain ⟨start, after, hstart, hafter, hrightText⟩ := hright.padding
    have hpadded : Padded (left ++ '=' :: right) (name ++ ((middle ++ '=' :: start) ++ value)) := by
      refine ⟨before, after, hbefore, hafter, ?_⟩
      rw [hleftText, hrightText]
      simp
    have hsplit : name ++ ((middle ++ '=' :: start) ++ value) = (name ++ middle) ++ '=' :: (start ++ value) := by
      simp
    have hnameEnd : Padded (name ++ middle) name := ⟨[], middle, nofun, hmiddle, rfl⟩
    have hvalueStart : Padded (start ++ value) value := ⟨start, [], hstart, nofun, by simp⟩
    have hnot : '=' ∉ name ++ middle := hnameEnd.not_mem (by decide) (token_not_mem hname hequals)
    rw [hpadded.trim_eq ((solid_token hname).between (solid_value hvalue) _), hsplit, parameterParts,
      splitOnce_append _ hnot]
    refine ⟨by simp, hnameEnd.trim_eq (solid_token hname), hname, ?_⟩
    intro other hother
    cases hother
    rw [hvalueStart.trim_eq (solid_value hvalue)]
    exact hvalue

theorem parseParameter_iff (hvisible : Visible text) (parameters after : List String) :
    parseParameter parameters text = .ok after ↔
      ∃ name, IsParameter text name ∧ asciiLowercase name ∉ parameters ∧
        after = asciiLowercase name :: parameters := by
  rw [parseParameter_eq_ok]
  constructor
  · rintro ⟨-, hname, hvalue, hnew, rfl⟩
    exact ⟨_, isParameter_of_parts hvisible hname hvalue, hnew, rfl⟩
  · rintro ⟨name, hparameter, hnew, rfl⟩
    obtain ⟨hne, hname, htoken, hvalue⟩ := parts_of_isParameter hparameter
    rw [hname]
    exact ⟨hne, htoken, hvalue, hnew, rfl⟩

/-! ### What a derivation looks like -/

theorem visible_token (h : Token text) : Visible text :=
  fun c hc => (isTchar_facts (h.isTchar c hc)).1

theorem visible_body {body : List Char} (h : QuotedBody body) : Visible body := by
  induction h with
  | nil => nofun
  | text hc _ ih =>
    simp only [isQuotedChar, Bool.and_eq_true] at hc
    exact List.forall_mem_cons.mpr ⟨hc.1.1, ih⟩
  | pair hc _ ih => exact List.forall_mem_cons.mpr ⟨by decide, List.forall_mem_cons.mpr ⟨hc, ih⟩⟩

theorem visible_value (h : Token value ∨ QuotedString value) : Visible value := by
  rcases h with htoken | ⟨body, hbody, rfl⟩
  · exact visible_token htoken
  · have hquote : isEscapable '"' = true := by decide
    refine List.forall_mem_cons.mpr ⟨hquote, List.forall_mem_append.mpr ⟨visible_body hbody, ?_⟩⟩
    exact List.forall_mem_singleton.mpr hquote

theorem visible_intercalate {joint : Char} (hjoint : isEscapable joint = true) {texts : List (List Char)}
    (h : ∀ text ∈ texts, Visible text) : Visible ([joint].intercalate texts) := by
  induction texts with
  | nil => nofun
  | cons first rest ih =>
    have hfirst := h first List.mem_cons_self
    have hrest := ih fun text htext => h text (List.mem_cons_of_mem first htext)
    cases rest with
    | nil => rwa [List.intercalate_singleton]
    | cons =>
      rw [List.intercalate_cons_cons, List.append_assoc]
      exact List.forall_mem_append.mpr ⟨hfirst, List.forall_mem_cons.mpr ⟨hjoint, hrest⟩⟩

theorem mem_intercalate {joint : Char} {texts : List (List Char)} (htext : text ∈ texts)
    (hc : c ∈ text) : c ∈ [joint].intercalate texts := by
  induction texts with
  | nil => cases htext
  | cons _ rest ih =>
    cases rest with
    | nil =>
      rw [List.mem_singleton.mp htext] at hc
      rwa [List.intercalate_singleton]
    | cons =>
      rw [List.intercalate_cons_cons, List.append_assoc, List.mem_append]
      rcases List.mem_cons.mp htext with rfl | htext
      · exact Or.inl hc
      · exact Or.inr (List.mem_cons_of_mem joint (ih htext))

/-- A separator of the grammar: a character that stands in no token and is no blank. -/
structure IsSeparator (c : Char) : Prop where
  tchar : isTchar c = false
  blank : isBlank c = false
  ne_equals : c ≠ '='

section

variable {separator : Char}

variable {text : List Char}

theorem closed_padded (hseparator : IsSeparator separator) {inner : List Char}
    (h : Padded text inner) (hinner : Closed separator inner) : Closed separator text := by
  have hblank : ∀ text, Blank text → Closed separator text := by
    intro text htext
    refine .of_plain fun c hc => ⟨?_, ?_⟩
    · rintro rfl
      exact absurd (htext _ hc) (by decide)
    · rintro rfl
      exact Bool.false_ne_true (hseparator.blank.symm.trans (htext _ hc))
  obtain ⟨before, after, hbefore, hafter, rfl⟩ := h.padding
  exact (hblank before hbefore).append (hinner.append (hblank after hafter))

theorem closed_token (hseparator : IsSeparator separator) (h : Token text) :
    Closed separator text :=
  .of_plain fun c hc => ⟨(isTchar_facts (h.isTchar c hc)).2.2.1, fun heq =>
    token_not_mem h hseparator.tchar (heq ▸ hc)⟩

theorem closed_parameter (hseparator : IsSeparator separator) {name : List Char}
    (h : IsParameter text name) : Closed separator text := by
  cases h with
  | bare hname hpadded => exact closed_padded hseparator hpadded (closed_token hseparator hname)
  | valued hname hvalue hleft hright =>
    have hclosed := hvalue.elim (closed_token hseparator) Closed.of_quotedString
    exact (closed_padded hseparator hleft (closed_token hseparator hname)).append
      (.plain (by decide) hseparator.ne_equals.symm (closed_padded hseparator hright hclosed))

end

theorem visible_parameter (h : IsParameter text name) : Visible text := by
  cases h with
  | bare hname hpadded => exact hpadded.visible_of_inner (visible_token hname)
  | valued hname hvalue hleft hright =>
    exact List.forall_mem_append.mpr ⟨hleft.visible_of_inner (visible_token hname),
      List.forall_mem_cons.mpr ⟨by decide, hright.visible_of_inner (visible_value hvalue)⟩⟩

theorem visible_extension (h : IsExtension text name) : Visible text := by
  obtain ⟨head, parameters, names, rfl, hhead, hparameters, -⟩ := h.parts
  refine visible_intercalate (by decide) (List.forall_mem_cons.mpr ⟨?_, ?_⟩)
  · exact hhead.visible_of_inner (visible_token h.token)
  · intro parameter hparameter
    obtain ⟨name, hname⟩ := Fallible.exists_of_forall₂ hparameters hparameter
    exact visible_parameter hname

theorem closed_extension (h : IsExtension text name) : Closed ',' text := by
  have hcomma : IsSeparator ',' := ⟨by decide, by decide, by decide⟩
  obtain ⟨head, parameters, names, rfl, hhead, hparameters, -⟩ := h.parts
  refine .intercalate (by decide) (by decide) (List.forall_mem_cons.mpr ⟨?_, ?_⟩)
  · exact closed_padded hcomma hhead (closed_token hcomma h.token)
  · intro parameter hparameter
    obtain ⟨name, hname⟩ := Fallible.exists_of_forall₂ hparameters hparameter
    exact closed_parameter hcomma hname

theorem visible_line {names : List (List Char)} (h : IsLine text names) : Visible text := by
  obtain ⟨elements, -, rfl, helements⟩ := h
  refine visible_intercalate (by decide) fun element helement => ?_
  obtain ⟨name, hname⟩ := Fallible.exists_of_forall₂ helements helement
  exact visible_extension hname

/-! ### Extensions -/

theorem parseExtension_eq_ok {names after : List String} :
    parseExtension names text = .ok after ↔
      ∃ pieces found, splitWebsocketHeader text ';' = .ok pieces ∧ Token (trim (pieces.headD [])) ∧
        asciiLowercase (trim (pieces.headD [])) ∉ names ∧
        (pieces.drop 1).foldlM parseParameter [] = .ok found ∧
        after = asciiLowercase (trim (pieces.headD [])) :: names := by
  rw [parseExtension, Fallible.bind_eq_ok_iff]
  constructor
  · rintro ⟨pieces, hpieces, h⟩
    dsimp only at h
    split at h
    · cases h
    · rename_i hgood
      simp only [not_or, Bool.not_eq_false, List.contains_iff_mem] at hgood
      obtain ⟨found, hfound, hafter⟩ := Fallible.bind_eq_ok_iff.mp h
      cases hafter
      exact ⟨pieces, found, hpieces, token_iff.mpr ⟨hgood.1, hgood.2.1⟩, hgood.2.2, hfound, rfl⟩
  · rintro ⟨pieces, found, hpieces, htoken, hnew, hfound, rfl⟩
    refine ⟨pieces, hpieces, ?_⟩
    obtain ⟨hne, htext⟩ := token_iff.mp htoken
    dsimp only
    rw [if_neg (by simp only [not_or, Bool.not_eq_false, List.contains_iff_mem]; exact ⟨hne, htext, hnew⟩),
      hfound]
    rfl

theorem parseExtension_iff (hvisible : Visible text) (names after : List String) :
    parseExtension names text = .ok after ↔
      ∃ name, IsExtension text name ∧ asciiLowercase name ∉ names ∧ after = asciiLowercase name :: names := by
  have hsemicolon : IsSeparator ';' := ⟨by decide, by decide, by decide⟩
  rw [parseExtension_eq_ok]
  constructor
  · rintro ⟨pieces, found, hpieces, htoken, hnew, hfound, rfl⟩
    obtain ⟨hne, -, htext⟩ := splitWebsocketHeader_sound hpieces
    obtain ⟨head, parameters, rfl⟩ := List.exists_cons_of_ne_nil hne
    have hpiece : ∀ piece ∈ head :: parameters, Visible piece := fun piece hmem =>
      hvisible.of_subset fun c hc => htext ▸ mem_intercalate hmem hc
    have hread : ∀ parameter ∈ parameters, ∀ seen after, _ := fun parameter hmem =>
      parseParameter_iff (hpiece parameter (List.mem_cons_of_mem head hmem))
    obtain ⟨parameterNames, hparameters, hnodup, -, -⟩ :=
      (Fallible.foldlM_collect_one hread [] found).mp hfound
    exact ⟨_, ⟨htoken, head, parameters, parameterNames, htext.symm,
      padded_trim (hpiece head List.mem_cons_self), hparameters, hnodup⟩, hnew, rfl⟩
  · rintro ⟨name, hextension, hnew, rfl⟩
    obtain ⟨head, parameters, parameterNames, rfl, hhead, hparameters, hnodup⟩ := hextension.parts
    have hname : trim ((head :: parameters).headD []) = name := hhead.trim_eq (solid_token hextension.token)
    have hvalid : ∀ parameter ∈ parameters, ∃ name, IsParameter parameter name := fun _ =>
      Fallible.exists_of_forall₂ hparameters
    have hread : ∀ parameter ∈ parameters, ∀ seen after, _ := fun parameter hmem =>
      parseParameter_iff (visible_parameter (hvalid parameter hmem).choose_spec)
    refine ⟨head :: parameters, _, splitWebsocketHeader_intercalate (by decide) (by simp) ?_, ?_, ?_,
      (Fallible.foldlM_collect_one hread [] _).mpr ⟨parameterNames, hparameters, hnodup, by simp, rfl⟩, ?_⟩
    · refine List.forall_mem_cons.mpr ⟨closed_padded hsemicolon hhead (closed_token hsemicolon hextension.token), ?_⟩
      intro parameter hmem
      exact closed_parameter hsemicolon (hvalid parameter hmem).choose_spec
    · rw [hname]
      exact hextension.token
    · rw [hname]
      exact hnew
    · rw [hname]

/-! ### Lines -/

theorem requestText_eq_ok {value : HeaderValue} {text : String} :
    requestText value = .ok text ↔
      Visible (value.bytes.map byteChar) ∧ text = String.ofList (value.bytes.map byteChar) := by
  have hbyte : ∀ byte : UInt8, HeaderValue.isVisible byte = isEscapable (byteChar byte) := by
    have hall : ∀ n < 256, HeaderValue.isVisible (UInt8.ofNat n) = isEscapable (byteChar (UInt8.ofNat n)) := by
      decide +kernel
    intro byte
    have hn := hall byte.toNat byte.toNat_lt
    rwa [UInt8.ofNat_toNat] at hn
  have hvisible : value.bytes.all HeaderValue.isVisible = true ↔ Visible (value.bytes.map byteChar) := by
    rw [List.all_eq_true, Visible, List.forall_mem_map]
    exact forall₂_congr fun byte _ => by rw [hbyte]
  rw [← hvisible, requestText, HeaderValue.toStr]
  cases value.bytes.all HeaderValue.isVisible with
  | false => simp
  | true => simp [eq_comm]

theorem parseExtensionLine_iff (names : List String) (value : HeaderValue) (after : List String) :
    parseExtensionLine names value = .ok after ↔
      ∃ found, IsLine (value.bytes.map byteChar) found ∧ (found.map asciiLowercase).Nodup ∧
        (∀ name ∈ found, asciiLowercase name ∉ names) ∧
        after = (found.map asciiLowercase).reverse ++ names := by
  simp only [parseExtensionLine, Fallible.bind_eq_ok_iff, requestText_eq_ok]
  constructor
  · rintro ⟨text, ⟨hvisible, rfl⟩, elements, hsplit, hfold⟩
    rw [String.toList_ofList] at hsplit
    obtain ⟨hne, -, htext⟩ := splitWebsocketHeader_sound hsplit
    have hread : ∀ element ∈ elements, ∀ seen after, _ := fun element hmem =>
      parseExtension_iff (hvisible.of_subset fun c hc => htext ▸ mem_intercalate hmem hc)
    obtain ⟨found, hfound, hrest⟩ := (Fallible.foldlM_collect_one hread names after).mp hfold
    exact ⟨found, ⟨elements, hne, htext.symm, hfound⟩, hrest⟩
  · rintro ⟨found, hline, hrest⟩
    have hvisible := visible_line hline
    obtain ⟨elements, hne, htext, hfound⟩ := hline
    have hvalid : ∀ element ∈ elements, ∃ name, IsExtension element name := fun _ => Fallible.exists_of_forall₂ hfound
    have hread : ∀ element ∈ elements, ∀ seen after, _ := fun element hmem =>
      parseExtension_iff (visible_extension (hvalid element hmem).choose_spec)
    refine ⟨_, ⟨hvisible, rfl⟩, elements, ?_,
      (Fallible.foldlM_collect_one hread names after).mpr ⟨found, hfound, hrest⟩⟩
    rw [String.toList_ofList, htext]
    exact splitWebsocketHeader_intercalate (by decide) hne fun element hmem =>
      closed_extension (hvalid element hmem).choose_spec

/-- **Reading is deriving.** The reader of extensions goes through exactly when every value is derived by
the grammar and no name stands twice, whatever its case; it gives back the names in lower case. The
splitter gives back closed pieces which joined by the delimiter are the text, and splits no closed piece. -/
theorem parseExtensions_derives (headers : HeaderMap) :
    (∀ result, parseExtensions headers = .ok result ↔
      ∃ lines : List (List (List Char)),
        List.Forall₂ IsLine
          ((headers.getAll .secWebsocketExtensions).map fun value => value.bytes.map byteChar) lines ∧
        (lines.flatten.map asciiLowercase).Nodup ∧ result = (lines.flatten.map asciiLowercase).reverse) ∧
    (∀ value delimiter pieces, splitWebsocketHeader value delimiter = .ok pieces →
      pieces ≠ [] ∧ (∀ piece ∈ pieces, Closed delimiter piece) ∧
        [delimiter].intercalate pieces = value) ∧
    (∀ delimiter ∈ [',', ';'], ∀ pieces, pieces ≠ [] → (∀ piece ∈ pieces, Closed delimiter piece) →
      splitWebsocketHeader ([delimiter].intercalate pieces) delimiter = .ok pieces) := by
  refine ⟨fun result => ?_, fun _ _ _ => splitWebsocketHeader_sound, ?_⟩
  · rw [parseExtensions, Fallible.foldlM_collect (fun value _ seen after =>
      parseExtensionLine_iff seen value after)]
    simp only [List.not_mem_nil, not_false_eq_true, implies_true, true_and, List.append_nil,
      List.forall₂_map_left_iff]
  · intro delimiter hdelimiter pieces
    refine splitWebsocketHeader_intercalate ?_
    rintro rfl
    simp at hdelimiter

theorem parseExtensions_derives_quoted_comma :
    ∃ pieces, splitWebsocketHeader "a;b=\"x,y\",c".toList ',' = .ok pieces ∧ pieces.length = 2 ∧
      [','].intercalate pieces = "a;b=\"x,y\",c".toList ∧
      splitWebsocketHeader ([','].intercalate pieces) ',' = .ok pieces := by
  have hsplit : splitWebsocketHeader "a;b=\"x,y\",c".toList ','
      = .ok ["a;b=\"x,y\"".toList, "c".toList] := by decide +kernel
  obtain ⟨hne, hclosed, hjoined⟩ := (parseExtensions_derives []).2.1 _ _ _ hsplit
  exact ⟨_, hsplit, rfl, hjoined, (parseExtensions_derives []).2.2 ',' (by simp) _ hne hclosed⟩

end AuthMiniGateway
