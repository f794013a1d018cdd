import Mathlib

/-!
# Programs that ask their environment

A `Program` computes a value by requests to an environment that it shares with others, and by calls of named
procedures, which can be recursive without a bound. Over a `View`, `may` is what can happen while the program
waits, `act` what a request of its own does, and `guar` what it owes at each request. `Program.Meets` is the
weakest precondition in this setting. A procedure is used through its contract only.
-/

structure Interface where
  Op : Type
  Reply : Op → Type
  Proc : Type
  Out : Proc → Type

inductive Program (I : Interface) (α : Type) : Type where
  | pure (value : α)
  | request (op : I.Op) (next : I.Reply op → Program I α)
  | call (proc : I.Proc) (next : I.Out proc → Program I α)

namespace Program

variable {I : Interface} {α β γ : Type}

def bind : Program I α → (α → Program I β) → Program I β
  | pure value, f => f value
  | request op next, f => request op fun reply => (next reply).bind f
  | call proc next, f => call proc fun out => (next out).bind f

instance : Monad (Program I) where
  pure := Program.pure
  bind := Program.bind

def ask (op : I.Op) : Program I (I.Reply op) := request op pure

def invoke (proc : I.Proc) : Program I (I.Out proc) := call proc pure

theorem bind_assoc (p : Program I α) (f : α → Program I β) (g : β → Program I γ) :
    (p.bind f).bind g = p.bind fun a => (f a).bind g := by
  induction p with
  | pure => rfl
  | request op next ih | call proc next ih => simp only [bind, ih]

theorem pure_eq (value : α) : (Pure.pure value : Program I α) = pure value := rfl

theorem bind_eq (p : Program I α) (f : α → Program I β) : p >>= f = p.bind f := rfl

theorem ask_bind (op : I.Op) (f : I.Reply op → Program I β) : (ask op).bind f = request op f := rfl

theorem invoke_bind (proc : I.Proc) (f : I.Out proc → Program I β) :
    (invoke proc).bind f = call proc f := rfl

/-- The program in which every request and every call is carried out by a program over another
interface. -/
def expand {I' : Interface} (handle : (op : I.Op) → Program I' (I.Reply op))
    (handleCall : (proc : I.Proc) → Program I' (I.Out proc)) : Program I α → Program I' α
  | pure value => pure value
  | request op next => (handle op).bind fun reply => (next reply).expand handle handleCall
  | call proc next => (handleCall proc).bind fun out => (next out).expand handle handleCall

theorem expand_bind {I' : Interface} (handle : (op : I.Op) → Program I' (I.Reply op))
    (handleCall : (proc : I.Proc) → Program I' (I.Out proc)) (p : Program I α)
    (f : α → Program I β) :
    (p.bind f).expand handle handleCall =
      (p.expand handle handleCall).bind fun a => (f a).expand handle handleCall := by
  induction p with
  | pure => rfl
  | request op next ih | call proc next ih => simp only [bind, expand, ih, bind_assoc]

end Program

/-! ### Assertions -/

structure View (I : Interface) (V : Type) where
  may : V → V → Prop
  act : (op : I.Op) → V → I.Reply op → V → Prop
  guar : I.Op → V → Prop
  may_refl : ∀ v, may v v
  may_trans : ∀ {u v w}, may u v → may v w → may u w

structure Contract (I : Interface) (V : Type) where
  pre : I.Proc → V → Prop
  post : (proc : I.Proc) → V → I.Out proc → V → Prop

namespace Program

variable {I : Interface} {V α β : Type} (view : View I V) (contract : Contract I V)

def Meets : Program I α → V → (V → α → Prop) → Prop
  | pure value, v, post => ∀ v', view.may v v' → post v' value
  | request op next, v, post => ∀ v', view.may v v' →
      view.guar op v' ∧ ∀ reply v'', view.act op v' reply v'' → (next reply).Meets v'' post
  | call proc next, v, post => ∀ v', view.may v v' →
      contract.pre proc v' ∧ ∀ out v'', contract.post proc v' out v'' → (next out).Meets v'' post

variable {view contract} {p : Program I α} {f : α → Program I β} {v v' : V}
  {post post' : V → α → Prop} {goal : V → β → Prop}

theorem Meets.of_may (h : p.Meets view contract v post) (hmay : view.may v v') :
    p.Meets view contract v' post := by
  cases p with
  | pure value | request op next | call proc next => exact fun w hw => h w (view.may_trans hmay hw)

theorem Meets.mono (h : p.Meets view contract v post) (himp : ∀ v a, post v a → post' v a) :
    p.Meets view contract v post' := by
  induction p generalizing v with
  | pure value => exact fun w hw => himp w value (h w hw)
  | request _ _ ih =>
    intro w hw
    obtain ⟨hguar, hnext⟩ := h w hw
    exact ⟨hguar, fun reply w' hact => ih reply (hnext reply w' hact)⟩
  | call _ _ ih =>
    intro w hw
    obtain ⟨hpre, hnext⟩ := h w hw
    exact ⟨hpre, fun out w' hpost => ih out (hnext out w' hpost)⟩

theorem Meets.bind (h : p.Meets view contract v fun v' a => (f a).Meets view contract v' goal) :
    (p.bind f).Meets view contract v goal := by
  induction p generalizing v with
  | pure => exact h v (view.may_refl v)
  | request _ _ ih =>
    intro w hw
    obtain ⟨hguar, hnext⟩ := h w hw
    exact ⟨hguar, fun reply w' hact => ih reply (hnext reply w' hact)⟩
  | call _ _ ih =>
    intro w hw
    obtain ⟨hpre, hnext⟩ := h w hw
    exact ⟨hpre, fun out w' hpost => ih out (hnext out w' hpost)⟩

end Program

section Procedures

variable {I : Interface} {V α : Type}

/-- Every procedure's body keeps its contract. -/
def Contract.Kept (contract : Contract I V) (view : View I V)
    (body : (proc : I.Proc) → Program I (I.Out proc)) : Prop :=
  ∀ proc v, contract.pre proc v →
    (body proc).Meets view contract v fun v' out => contract.post proc v out v'

theorem Program.Meets.unfold {view : View I V} {contract : Contract I V}
    {body : (proc : I.Proc) → Program I (I.Out proc)} {proc : I.Proc}
    {next : I.Out proc → Program I α} {v : V} {post : V → α → Prop}
    (hkept : contract.Kept view body) (h : (Program.call proc next).Meets view contract v post) :
    ((body proc).bind next).Meets view contract v post := by
  obtain ⟨hpre, hnext⟩ := h v (view.may_refl v)
  apply Program.Meets.bind
  apply (hkept proc v hpre).mono
  intro v' out hpost
  exact hnext out v' hpost

end Procedures

/-! ### Assertions about the exchanges alone -/

structure Exchange (I : Interface) where
  op : I.Op
  reply : I.Reply op

section Exchanges

variable {I : Interface} {α : Type}

inductive Program.Issues (body : (proc : I.Proc) → Program I (I.Out proc)) :
    Program I α → List (Exchange I) → I.Op → Prop where
  | here {op : I.Op} {next : I.Reply op → Program I α} : Issues body (.request op next) [] op
  | later {op op' : I.Op} {next : I.Reply op → Program I α} {trace : List (Exchange I)}
      (reply : I.Reply op) (h : Issues body (next reply) trace op') :
      Issues body (.request op next) (trace ++ [⟨op, reply⟩]) op'
  | unfold {proc : I.Proc} {next : I.Out proc → Program I α} {trace : List (Exchange I)}
      {op : I.Op} (h : Issues body ((body proc).bind next) trace op) :
      Issues body (.call proc next) trace op

inductive Program.Ends (body : (proc : I.Proc) → Program I (I.Out proc)) :
    Program I α → List (Exchange I) → α → Prop where
  | here {value : α} : Ends body (.pure value) [] value
  | later {op : I.Op} {value : α} {next : I.Reply op → Program I α} {trace : List (Exchange I)}
      (reply : I.Reply op) (h : Ends body (next reply) trace value) :
      Ends body (.request op next) (trace ++ [⟨op, reply⟩]) value
  | unfold {proc : I.Proc} {next : I.Out proc → Program I α} {trace : List (Exchange I)}
      {value : α} (h : Ends body ((body proc).bind next) trace value) :
      Ends body (.call proc next) trace value

/-- The view of a program that looks at nothing but its own exchanges, the latest one first. -/
def exchangeView (guar : I.Op → List (Exchange I) → Prop) : View I (List (Exchange I)) where
  may := Eq
  act op h reply h' := h' = ⟨op, reply⟩ :: h
  guar := guar
  may_refl _ := rfl
  may_trans := Eq.trans

variable {guar : I.Op → List (Exchange I) → Prop} {contract : Contract I (List (Exchange I))}
  {h : List (Exchange I)} {post : List (Exchange I) → α → Prop}

theorem meets_pure_iff {value : α} :
    (Program.pure value).Meets (exchangeView guar) contract h post ↔ post h value := by
  constructor
  · intro hmeets
    exact hmeets h rfl
  · rintro hpost _ rfl
    exact hpost

theorem meets_request_iff {op : I.Op} {next : I.Reply op → Program I α} :
    (Program.request op next).Meets (exchangeView guar) contract h post ↔
      guar op h ∧ ∀ reply,
        (next reply).Meets (exchangeView guar) contract (⟨op, reply⟩ :: h) post := by
  constructor
  · intro hmeets
    obtain ⟨hguar, hnext⟩ := hmeets h rfl
    exact ⟨hguar, fun reply => hnext reply _ rfl⟩
  · rintro ⟨hguar, hnext⟩ _ rfl
    refine ⟨hguar, ?_⟩
    rintro reply _ rfl
    exact hnext reply

theorem meets_call_iff {proc : I.Proc} {next : I.Out proc → Program I α} :
    (Program.call proc next).Meets (exchangeView guar) contract h post ↔
      contract.pre proc h ∧ ∀ out h', contract.post proc h out h' →
        (next out).Meets (exchangeView guar) contract h' post := by
  constructor
  · intro hmeets
    exact hmeets h rfl
  · rintro hmeets _ rfl
    exact hmeets

theorem Program.Meets.weaken {guar' : I.Op → List (Exchange I) → Prop} {p : Program I α}
    (hmeets : p.Meets (exchangeView guar) contract h post)
    (himp : ∀ op h, guar op h → guar' op h) : p.Meets (exchangeView guar') contract h post := by
  induction p generalizing h with
  | pure => exact meets_pure_iff.mpr (meets_pure_iff.mp hmeets)
  | request op _ ih =>
    obtain ⟨hguar, hnext⟩ := meets_request_iff.mp hmeets
    exact meets_request_iff.mpr ⟨himp op h hguar, fun reply => ih reply (hnext reply)⟩
  | call _ _ ih =>
    obtain ⟨hpre, hnext⟩ := meets_call_iff.mp hmeets
    exact meets_call_iff.mpr ⟨hpre, fun out h' hpost => ih out (hnext out h' hpost)⟩

theorem Program.Issues.guarantee {body : (proc : I.Proc) → Program I (I.Out proc)} {p : Program I α}
    {trace : List (Exchange I)} {op : I.Op} (hissues : p.Issues body trace op)
    (hkept : contract.Kept (exchangeView guar) body)
    (hmeets : p.Meets (exchangeView guar) contract h post) : guar op (trace ++ h) := by
  induction hissues generalizing h with
  | here => exact (meets_request_iff.mp hmeets).1
  | later reply _ ih =>
    have hnext := (meets_request_iff.mp hmeets).2 reply
    rw [List.append_assoc]
    exact ih hnext
  | unfold _ ih => exact ih (hmeets.unfold hkept)

theorem Program.Ends.satisfies {body : (proc : I.Proc) → Program I (I.Out proc)} {p : Program I α}
    {trace : List (Exchange I)} {value : α} (hends : p.Ends body trace value)
    (hkept : contract.Kept (exchangeView guar) body)
    (hmeets : p.Meets (exchangeView guar) contract h post) : post (trace ++ h) value := by
  induction hends generalizing h with
  | here => exact meets_pure_iff.mp hmeets
  | later reply _ ih =>
    have hnext := (meets_request_iff.mp hmeets).2 reply
    rw [List.append_assoc]
    exact ih hnext
  | unfold _ ih => exact ih (hmeets.unfold hkept)

end Exchanges
