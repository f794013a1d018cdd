import AuthMiniGateway.Lib.Transition

/-!
# Programs that can be cut off

A program changes a state that outlives it. It is given by the states in which it can be cut off, before each of
its writes and after the last one, and by the state and the value it ends with. `Ensures` says that `inv` holds
wherever it can be cut off before a write, and `done` or `failed` at its end.
-/

structure CutOff.Outcome (σ ε α : Type) where
  passed : List σ
  state : σ
  result : Except ε α

def CutOff (σ ε α : Type) : Type := σ → CutOff.Outcome σ ε α

namespace CutOff

variable {σ ε α β : Type}

def pure (value : α) : CutOff σ ε α := fun state => ⟨[], state, .ok value⟩

def bind (p : CutOff σ ε α) (f : α → CutOff σ ε β) : CutOff σ ε β := fun state =>
  match p state with
  | ⟨passed, last, .error e⟩ => ⟨passed, last, .error e⟩
  | ⟨passed, last, .ok value⟩ =>
    match f value last with
    | ⟨passed', last', result⟩ => ⟨passed ++ passed', last', result⟩

instance : Monad (CutOff σ ε) where
  pure := pure
  bind := bind

def read : CutOff σ ε σ := fun state => ⟨[], state, .ok state⟩

def write (f : σ → σ) : CutOff σ ε Unit := fun state => ⟨[state], f state, .ok ()⟩

def ofExcept (result : Except ε α) : CutOff σ ε α := fun state => ⟨[], state, result⟩

/-- The handler runs in the state in which the program has failed. -/
def orElse (p : CutOff σ ε α) (handler : ε → CutOff σ ε α) : CutOff σ ε α := fun state =>
  match p state with
  | ⟨passed, last, .ok value⟩ => ⟨passed, last, .ok value⟩
  | ⟨passed, last, .error e⟩ =>
    match handler e last with
    | ⟨passed', last', result⟩ => ⟨passed ++ passed', last', result⟩

/-! ### What a program ensures -/

def Ensures (p : CutOff σ ε α) (inv : σ → Prop) (done : α → σ → Prop) (failed : ε → σ → Prop)
    (state : σ) : Prop :=
  (∀ passed ∈ (p state).passed, inv passed) ∧
    match (p state).result with
    | .ok value => done value (p state).state
    | .error e => failed e (p state).state

variable {p : CutOff σ ε α} {f : α → CutOff σ ε β} {inv inv' : σ → Prop} {done done' : α → σ → Prop}
  {failed failed' : ε → σ → Prop} {goal : β → σ → Prop} {state : σ}

theorem Ensures.mono (h : p.Ensures inv done failed state) (hinv : ∀ state, inv state → inv' state)
    (hdone : ∀ value state, done value state → done' value state)
    (hfailed : ∀ e state, failed e state → failed' e state) : p.Ensures inv' done' failed' state := by
  refine ⟨fun passed hmem => hinv passed (h.1 passed hmem), ?_⟩
  have hlast := h.2
  cases hresult : (p state).result with
  | ok value =>
    rw [hresult] at hlast
    exact hdone value _ hlast
  | error e =>
    rw [hresult] at hlast
    exact hfailed e _ hlast

theorem Ensures.imp (h : p.Ensures inv done failed state)
    (hdone : ∀ value state, done value state → done' value state) : p.Ensures inv done' failed state :=
  h.mono (fun _ => id) hdone (fun _ _ => id)

variable {value : α}

theorem Ensures.of_ok (h : p.Ensures inv done failed state)
    (hresult : (p state).result = .ok value) : done value (p state).state := by
  have hlast := h.2
  rw [hresult] at hlast
  exact hlast

@[simp]
theorem ensures_pure :
    (Pure.pure value : CutOff σ ε α).Ensures inv done failed state ↔ done value state := by
  simp [Pure.pure, pure, Ensures]

@[simp]
theorem ensures_read {done : σ → σ → Prop} :
    (read : CutOff σ ε σ).Ensures inv done failed state ↔ done state state := by
  simp [read, Ensures]

@[simp]
theorem ensures_write {change : σ → σ} {done : Unit → σ → Prop} :
    (write change : CutOff σ ε Unit).Ensures inv done failed state ↔
      inv state ∧ done () (change state) := by
  simp [write, Ensures]

theorem ensures_ofExcept {result : Except ε α} :
    (ofExcept result : CutOff σ ε α).Ensures inv done failed state ↔
      (∀ value, result = .ok value → done value state) ∧ ∀ e, result = .error e → failed e state := by
  cases result with
  | ok value | error e => simp [ofExcept, Ensures]

@[simp]
theorem ensures_ok :
    (ofExcept (.ok value) : CutOff σ ε α).Ensures inv done failed state ↔ done value state := by
  simp [ensures_ofExcept]

@[simp]
theorem ensures_error {e : ε} :
    (ofExcept (.error e) : CutOff σ ε α).Ensures inv done failed state ↔ failed e state := by
  simp [ensures_ofExcept]

theorem ensures_bind :
    (p >>= f).Ensures inv goal failed state ↔
      p.Ensures inv (fun value state => (f value).Ensures inv goal failed state) failed state := by
  change (bind p f).Ensures inv goal failed state ↔ _
  unfold Ensures bind
  rcases p state with ⟨passed, last, e | value⟩
  · rfl
  · simp only [List.forall_mem_append]
    exact and_assoc

theorem Ensures.bind (mid : α → σ → Prop) (hfirst : p.Ensures inv mid failed state)
    (hsecond : ∀ value state, mid value state → (f value).Ensures inv goal failed state) :
    (p >>= f).Ensures inv goal failed state :=
  ensures_bind.mpr (hfirst.imp hsecond)

theorem ensures_orElse {handler : ε → CutOff σ ε α} :
    (p.orElse handler).Ensures inv done failed state ↔
      p.Ensures inv done (fun e state => (handler e).Ensures inv done failed state) state := by
  unfold Ensures orElse
  rcases p state with ⟨passed, last, e | value⟩
  · simp only [List.forall_mem_append]
    exact and_assoc
  · rfl

/-! ### What a program leaves alone -/

/-- The invariant holds wherever the program can be cut off and however it ends. -/
def Stays (p : CutOff σ ε α) (inv : σ → Prop) (state : σ) : Prop :=
  p.Ensures inv (fun _ => inv) (fun _ => inv) state

/-- The program does not change what `view` shows of the state. -/
def Preserves {τ : Type} (view : σ → τ) (p : CutOff σ ε α) : Prop :=
  ∀ state, p.Stays (fun passed => view passed = view state) state

section Preserves

variable {τ : Type} {view : σ → τ}

theorem preserves_ofExcept (result : Except ε α) : (ofExcept result : CutOff σ ε α).Preserves view :=
  fun _ => ensures_ofExcept.mpr ⟨fun _ _ => rfl, fun _ _ => rfl⟩

theorem preserves_read : (read : CutOff σ ε σ).Preserves view := fun _ => ensures_read.mpr rfl

theorem preserves_write {change : σ → σ} (h : ∀ state, view (change state) = view state) :
    (write change : CutOff σ ε Unit).Preserves view :=
  fun state => ensures_write.mpr ⟨rfl, h state⟩

theorem Preserves.bind (hfirst : p.Preserves view) (hsecond : ∀ value, (f value).Preserves view) :
    (p >>= f).Preserves view := by
  intro state
  refine ensures_bind.mpr ((hfirst state).imp ?_)
  intro value middle hmiddle
  exact (hsecond value middle).mono (fun _ h => h.trans hmiddle) (fun _ _ h => h.trans hmiddle)
    (fun _ _ h => h.trans hmiddle)

theorem Preserves.stays (h : p.Preserves view)
    (hview : ∀ first second, view second = view first → inv first → inv second) (hinv : inv state) :
    p.Stays inv state :=
  (h state).mono (fun _ hsame => hview _ _ hsame hinv) (fun _ _ hsame => hview _ _ hsame hinv)
    (fun _ _ hsame => hview _ _ hsame hinv)

/-- A program that keeps what depends on the view alone, and then another one. -/
theorem Preserves.andThen {keep : σ → Prop} (h : p.Preserves view)
    (hview : ∀ first second, view second = view first → keep first → keep second) (hkeep : keep state)
    (hinv : ∀ state, keep state → inv state) (hfailed : ∀ e state, keep state → failed e state)
    (hthen : ∀ value state, keep state → (f value).Ensures inv goal failed state) :
    (p >>= f).Ensures inv goal failed state :=
  Ensures.bind (fun _ => keep) ((h.stays hview hkeep).mono hinv (fun _ _ => id) hfailed) hthen

end Preserves

/-! ### Programs seen through a view -/

/-- Where the view shows `seen`, the program keeps `inv` of the view wherever it is cut off or fails, and
at its end `done` holds of the value and of the view. -/
def Meets {τ : Type} (view : σ → τ) (inv : τ → Prop) (p : CutOff σ ε α) (done : α → τ → Prop)
    (seen : τ) : Prop :=
  ∀ state, view state = seen →
    p.Ensures (fun state => inv (view state)) (fun value state => done value (view state))
      (fun _ state => inv (view state)) state

section Meets

variable {τ : Type} {view : σ → τ} {inv : τ → Prop} {done done' : α → τ → Prop} {goal : β → τ → Prop}
  {seen : τ}

theorem Meets.imp (h : p.Meets view inv done seen)
    (hdone : ∀ value seen, done value seen → done' value seen) : p.Meets view inv done' seen :=
  fun state hstate => (h state hstate).imp fun value _ => hdone value _

theorem meets_pure {value : α} (h : done value seen) :
    (Pure.pure value : CutOff σ ε α).Meets view inv done seen := by
  rintro state rfl
  exact ensures_pure.mpr h

theorem meets_error {e : ε} (h : inv seen) :
    (ofExcept (.error e) : CutOff σ ε α).Meets view inv done seen := by
  rintro state rfl
  exact ensures_error.mpr h

theorem meets_ofExcept {result : Except ε α} (hinv : inv seen)
    (h : ∀ value, result = .ok value → done value seen) :
    (ofExcept result : CutOff σ ε α).Meets view inv done seen := by
  rintro state rfl
  exact ensures_ofExcept.mpr ⟨h, fun _ _ => hinv⟩

theorem meets_write {change : σ → σ} {done : Unit → τ → Prop} (hinv : inv seen)
    (h : ∀ state, view state = seen → done () (view (change state))) :
    (write change : CutOff σ ε Unit).Meets view inv done seen :=
  fun state hstate => ensures_write.mpr ⟨hstate ▸ hinv, h state hstate⟩

theorem Meets.bind {mid : α → τ → Prop} (hfirst : p.Meets view inv mid seen)
    (hsecond : ∀ value seen, mid value seen → (f value).Meets view inv goal seen) :
    (p >>= f).Meets view inv goal seen := by
  intro state hstate
  refine Ensures.bind _ (hfirst state hstate) ?_
  intro value middle hmiddle
  exact hsecond value (view middle) hmiddle middle rfl

theorem Meets.map {g : α → β} (h : p.Meets view inv (fun value => goal (g value)) seen) :
    (g <$> p).Meets view inv goal seen :=
  h.bind fun _ _ hgoal => meets_pure hgoal

/-- A program may look at the whole state. -/
theorem Meets.read {g : σ → CutOff σ ε β}
    (h : ∀ state, view state = seen → (g state).Meets view inv goal seen) :
    (read >>= g).Meets view inv goal seen :=
  fun state hstate => ensures_bind.mpr (ensures_read.mpr (h state hstate state hstate))

/-- A check, and what its success says. -/
theorem Meets.ofExcept {result : Except ε α} (hinv : inv seen)
    (h : ∀ value, result = .ok value → (f value).Meets view inv goal seen) :
    (CutOff.ofExcept result >>= f).Meets view inv goal seen := by
  intro state hstate
  refine ensures_bind.mpr (ensures_ofExcept.mpr ⟨fun value hvalue => ?_, fun _ _ => hstate ▸ hinv⟩)
  exact h value hvalue state hstate

/-- A write, and the view after it. -/
theorem Meets.write {change : σ → σ} {g : Unit → CutOff σ ε β} (hinv : inv seen)
    (h : ∀ state, view state = seen → (g ()).Meets view inv goal (view (change state))) :
    (CutOff.write change >>= g).Meets view inv goal seen := by
  intro state hstate
  refine ensures_bind.mpr (ensures_write.mpr ⟨hstate ▸ hinv, ?_⟩)
  exact h state hstate (change state) rfl

theorem Preserves.meets (h : p.Preserves view) (hinv : inv seen) (hdone : ∀ value, done value seen) :
    p.Meets view inv done seen := by
  rintro state rfl
  refine (h state).mono ?_ ?_ ?_
  · intro passed hsame
    exact hsame ▸ hinv
  · intro value last hsame
    exact hsame ▸ hdone value
  · intro _ last hsame
    exact hsame ▸ hinv

theorem Preserves.then (h : p.Preserves view) (hinv : inv seen)
    (hsecond : ∀ value, (f value).Meets view inv goal seen) : (p >>= f).Meets view inv goal seen :=
  (h.meets hinv fun _ => (rfl : seen = seen)).bind fun value _ hseen => hseen ▸ hsecond value

theorem Meets.orElse {handler : ε → CutOff σ ε α} (h : p.Meets view inv done seen)
    (hhandler : ∀ e seen, inv seen → (handler e).Meets view inv done seen) :
    (p.orElse handler).Meets view inv done seen := by
  intro state hstate
  refine ensures_orElse.mpr ((h state hstate).mono (fun _ => id) (fun _ _ => id) ?_)
  intro e middle hmiddle
  exact hhandler e (view middle) hmiddle middle rfl

theorem Meets.stays {state : σ} (h : p.Meets view inv done (view state))
    (hdone : ∀ value seen, done value seen → inv seen) :
    p.Stays (fun state => inv (view state)) state :=
  (h state rfl).imp fun value _ => hdone value _

variable {items : List α}

/-- A loop over a list, with what the part that is done has established. -/
theorem meets_forM {body : α → CutOff σ ε Unit} (mid : List α → τ → Prop) (hstart : mid [] seen)
    (hbody : ∀ before item rest seen, before ++ item :: rest = items → mid before seen →
      (body item).Meets view inv (fun _ => mid (before ++ [item])) seen) :
    (items.forM body).Meets view inv (fun _ => mid items) seen := by
  suffices h : ∀ rest before seen, before ++ rest = items → mid before seen →
      (rest.forM body).Meets view inv (fun _ => mid items) seen from h items [] seen rfl hstart
  intro rest
  induction rest with
  | nil =>
    intro before seen hitems hmid
    rw [List.append_nil] at hitems
    exact meets_pure (hitems ▸ hmid)
  | cons item rest ih =>
    intro before seen hitems hmid
    refine (hbody before item rest seen hitems hmid).bind ?_
    intro _ next hnext
    exact ih (before ++ [item]) next (by rw [List.append_assoc, List.singleton_append, hitems]) hnext

/-- A fold over a list, with what holds of the value between two rounds. -/
theorem meets_foldlM {body : β → α → CutOff σ ε β} {mid : β → τ → Prop} {value : β}
    (hstart : mid value seen)
    (hbody : ∀ item value seen, mid value seen → (body value item).Meets view inv mid seen) :
    (items.foldlM body value).Meets view inv mid seen := by
  induction items generalizing value seen with
  | nil => exact meets_pure hstart
  | cons item _ ih =>
    rw [List.foldlM_cons]
    exact (hbody item value seen hstart).bind fun next seen' hnext => ih hnext

theorem preserves_forM {body : α → CutOff σ ε Unit}
    (h : ∀ item ∈ items, (body item).Preserves view) : (items.forM body).Preserves view := by
  induction items with
  | nil => exact preserves_ofExcept (.ok ())
  | cons item _ ih =>
    exact (h item (by simp)).bind fun _ => ih fun other hother => h other (by simp [hother])

end Meets

/-! ### One program after the other -/

/-- Programs are run one at a time. Each runs to its end or is cut off. -/
def system {Event : Type} (program : Event → CutOff σ ε α) : Transitions σ Event where
  step state event next :=
    next ∈ (program event state).passed ∨ next = (program event state).state

theorem Stays.of_step {Event : Type} {program : Event → CutOff σ ε α} {event : Event} {next : σ}
    (h : (program event).Stays inv state) (hstep : (system program).step state event next) : inv next := by
  rcases hstep with hpassed | rfl
  · exact h.1 next hpassed
  · have hlast := h.2
    split at hlast
    · exact hlast
    · exact hlast

theorem invariant_of_run {Event : Type} {program : Event → CutOff σ ε α} {start : σ}
    {events : List Event} (hrun : (system program).Run start events state) (hstart : inv start)
    (hkeeps : ∀ event state, inv state → (program event).Stays inv state) : inv state :=
  hrun.invariant inv hstart fun state event _ hinv hstep => (hkeeps event state hinv).of_step hstep

end CutOff
