import Mathlib

/-!
# Tokens and quoted strings

A text is closed for a separator when each of its quotes ends and the separator stands only inside of quotes, so
that texts joined by the separator can be told apart.
-/

namespace HttpText

def isTchar (c : Char) : Bool :=
  c.isAlphanum || "!#$%&'*+-.^_`|~".toList.contains c

def isBlank (c : Char) : Bool := c = ' ' || c = '\t'

/-- What a backslash may escape: a visible character or a blank. -/
def isEscapable (c : Char) : Bool := c = '\t' || (0x20 ≤ c.toNat && c.toNat ≤ 0x7e)

def isQuotedChar (c : Char) : Bool := isEscapable c && c ≠ '"' && c ≠ '\\'

structure Token (text : List Char) : Prop where
  ne_nil : text ≠ []
  isTchar : ∀ c ∈ text, isTchar c = true

def Blank (text : List Char) : Prop := ∀ c ∈ text, isBlank c = true

inductive QuotedBody : List Char → Prop
  | nil : QuotedBody []
  | text {c : Char} {rest : List Char} : isQuotedChar c = true → QuotedBody rest → QuotedBody (c :: rest)
  | pair {c : Char} {rest : List Char} : isEscapable c = true → QuotedBody rest →
      QuotedBody ('\\' :: c :: rest)

def QuotedString (text : List Char) : Prop := ∃ body, QuotedBody body ∧ text = '"' :: (body ++ ['"'])

inductive Closed (separator : Char) : List Char → Prop
  | nil : Closed separator []
  | plain {c : Char} {rest : List Char} : c ≠ '"' → c ≠ separator → Closed separator rest →
      Closed separator (c :: rest)
  | quoted {body rest : List Char} : QuotedBody body → Closed separator rest →
      Closed separator ('"' :: (body ++ '"' :: rest))

/-! ### Blanks -/

theorem Blank.append {left right : List Char} (hleft : Blank left) (hright : Blank right) :
    Blank (left ++ right) := by
  intro c hc
  rcases List.mem_append.mp hc with h | h
  · exact hleft c h
  · exact hright c h

/-! ### Closed texts -/

namespace Closed

variable {separator : Char}

theorem append {left right : List Char} (hleft : Closed separator left)
    (hright : Closed separator right) : Closed separator (left ++ right) := by
  induction hleft with
  | nil => exact hright
  | plain hquote hsep _ ih => exact .plain hquote hsep ih
  | @quoted body rest hbody _ ih =>
    have heq : '"' :: (body ++ '"' :: rest) ++ right = '"' :: (body ++ '"' :: (rest ++ right)) := by simp
    rw [heq]
    exact .quoted hbody ih

theorem of_plain {text : List Char} (h : ∀ c ∈ text, c ≠ '"' ∧ c ≠ separator) :
    Closed separator text := by
  induction text with
  | nil => exact .nil
  | cons c _ ih =>
    obtain ⟨hquote, hsep⟩ := h c List.mem_cons_self
    exact .plain hquote hsep (ih fun d hd => h d (List.mem_cons_of_mem c hd))

theorem of_quotedString {text : List Char} (h : QuotedString text) : Closed separator text := by
  obtain ⟨body, hbody, rfl⟩ := h
  exact .quoted hbody .nil

/-- Texts joined by a plain character are closed when each of them is. -/
theorem intercalate {joint : Char} (hquote : joint ≠ '"') (hsep : joint ≠ separator)
    {texts : List (List Char)} (h : ∀ text ∈ texts, Closed separator text) :
    Closed separator ([joint].intercalate texts) := by
  induction texts with
  | nil => exact .nil
  | cons first rest ih =>
    have hfirst := h first List.mem_cons_self
    have hrest := ih fun text htext => h text (List.mem_cons_of_mem first htext)
    cases rest with
    | nil => simpa [List.intercalate] using hfirst
    | cons =>
      rw [List.intercalate_cons_cons, List.append_assoc]
      exact hfirst.append (.plain hquote hsep hrest)

end Closed

/-! ### Characters -/

/-- A fact about an ASCII character is checked for each of them. -/
@[elab_as_elim]
theorem ascii_induction {motive : Char → Prop} (h : ∀ n < 128, motive (Char.ofNat n)) {c : Char}
    (hc : c.toNat < 128) : motive c := by
  have hn := h c.toNat hc
  rwa [Char.ofNat_toNat] at hn

theorem toNat_lt_of_isTchar {c : Char} (h : isTchar c = true) : c.toNat < 128 := by
  simp only [isTchar, Bool.or_eq_true, List.contains_iff_mem] at h
  rcases h with h | h
  · simp only [Char.isAlphanum, Char.isAlpha, Char.isUpper, Char.isLower, Char.isDigit, Bool.or_eq_true,
      Bool.and_eq_true, decide_eq_true_eq, UInt32.le_iff_toNat_le] at h
    have hval : c.val.toNat = c.toNat := rfl
    rw [hval] at h
    simp at h
    omega
  · have hmarks : "!#$%&'*+-.^_`|~".toList.all (fun c => c.toNat < 128) = true := by decide
    exact of_decide_eq_true (List.all_eq_true.mp hmarks c h)

theorem toNat_lt_of_isEscapable {c : Char} (h : isEscapable c = true) : c.toNat < 128 := by
  simp only [isEscapable, Bool.or_eq_true, Bool.and_eq_true, decide_eq_true_eq] at h
  rcases h with rfl | h
  · decide
  · omega

/-- A token has no separators, no quotes and no blanks in it. -/
theorem isTchar_facts {c : Char} (h : isTchar c = true) :
    isEscapable c = true ∧ isBlank c = false ∧ c ≠ '"' ∧ c ≠ ',' ∧ c ≠ ';' ∧ c ≠ '=' := by
  have hlt := toNat_lt_of_isTchar h
  revert h
  refine ascii_induction ?_ hlt
  decide +kernel

end HttpText
