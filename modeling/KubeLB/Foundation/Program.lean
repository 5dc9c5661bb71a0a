import Mathlib.Tactic

/-!
Programs on a state that may return an error or panic, and rules for what holds
after them.

An error leaves the writes that were made before it. A panic, or a call that does not
return, is `none`: `Ensures` says nothing after it, `Returns` excludes it.
-/

/-- A program on the states `σ` that returns an `α` or an error. -/
def Program (σ ε α : Type) : Type := σ → Option (Except ε α × σ)

namespace Program
variable {σ ε α β : Type}

instance : Monad (Program σ ε) where
  pure a := fun s => some (.ok a, s)
  bind x f := fun s =>
    match x s with
    | none => none
    | some (.error err, s') => some (.error err, s')
    | some (.ok a, s') => f a s'

theorem bind_apply (x : Program σ ε α) (f : α → Program σ ε β) (s : σ) :
    (x >>= f) s =
      match x s with
      | none => none
      | some (.error err, s') => some (.error err, s')
      | some (.ok a, s') => f a s' :=
  rfl

def fail (err : ε) : Program σ ε α := fun s => some (.error err, s)

def crash : Program σ ε α := fun _ => none

def read (f : σ → α) : Program σ ε α := fun s => some (.ok (f s), s)

def write (f : σ → σ) : Program σ ε Unit := fun s => some (.ok (), f s)

/-- A request that the environment answers with an error or with none. -/
def attempt : Option ε → Program σ ε Unit
  | none => pure ()
  | some err => fail err

def ofExcept : Except ε α → Program σ ε α
  | .ok a => pure a
  | .error err => fail err

def ofOption : Option α → Program σ ε α
  | some a => pure a
  | none => crash

section
variable (s : σ) (f : α → Program σ ε β)

theorem bind_bind {γ : Type} (x : Program σ ε α) (g : β → Program σ ε γ) :
    ((x >>= f) >>= g) s = (x >>= fun a => f a >>= g) s := by
  simp only [bind_apply]
  cases x s with
  | none => rfl
  | some result =>
      obtain ⟨outcome, s'⟩ := result
      cases outcome with
      | error err => rfl
      | ok a => rfl

theorem read_bind (look : σ → α) : (read look >>= f) s = f (look s) s :=
  rfl

theorem write_bind (change : σ → σ) (f : Unit → Program σ ε β) :
    (write change >>= f) s = f () (change s) :=
  rfl

theorem attempt_none_bind (f : Unit → Program σ ε β) : (attempt none >>= f) s = f () s :=
  rfl

theorem ofOption_none_bind : (ofOption none >>= f) s = none :=
  rfl

theorem ofOption_some_bind (a : α) : (ofOption (some a) >>= f) s = f a s :=
  rfl

theorem ofExcept_error_bind (err : ε) : (ofExcept (.error err) >>= f) s = some (.error err, s) :=
  rfl

theorem ofExcept_ok_bind (a : α) : (ofExcept (.ok a) >>= f) s = f a s :=
  rfl

end

/-- What holds after the program from `s`: `Q` when it returns, `E` after an error. -/
def Ensures (s : σ) (x : Program σ ε α) (Q : α → σ → Prop) (E : σ → Prop) : Prop :=
  match x s with
  | none => True
  | some (.ok a, s') => Q a s'
  | some (.error _, s') => E s'

section
variable {s s' : σ} {x : Program σ ε α} {Q R : α → σ → Prop} {E F : σ → Prop}

theorem Ensures.of_ok {a : α} (ensures : Ensures s x Q E) (ran : x s = some (.ok a, s')) :
    Q a s' := by
  rw [Ensures, ran] at ensures
  exact ensures

theorem Ensures.of_error {err : ε} (ensures : Ensures s x Q E)
    (ran : x s = some (.error err, s')) : E s' := by
  rw [Ensures, ran] at ensures
  exact ensures

theorem Ensures.elim {P : Prop} {outcome : Except ε α} (ensures : Ensures s x Q E)
    (ran : x s = some (outcome, s')) (returned : ∀ a, Q a s' → P) (failed : E s' → P) : P := by
  cases outcome with
  | ok a => exact returned a (ensures.of_ok ran)
  | error err => exact failed (ensures.of_error ran)

theorem Ensures.mono (ensures : Ensures s x Q E) (weaker : ∀ a s', Q a s' → R a s')
    (weakerE : ∀ s', E s' → F s') : Ensures s x R F := by
  unfold Ensures at *
  split at ensures
  · trivial
  · exact weaker _ _ ensures
  · exact weakerE _ ensures

@[simp] theorem ensures_pure (a : α) : Ensures s (pure a : Program σ ε α) Q E ↔ Q a s :=
  Iff.rfl

@[simp] theorem ensures_fail (err : ε) : Ensures s (fail err : Program σ ε α) Q E ↔ E s :=
  Iff.rfl

@[simp] theorem ensures_crash : Ensures s (crash : Program σ ε α) Q E :=
  True.intro

@[simp] theorem ensures_read (f : σ → α) :
    Ensures s (read f : Program σ ε α) Q E ↔ Q (f s) s :=
  Iff.rfl

@[simp] theorem ensures_write (f : σ → σ) (Q : Unit → σ → Prop) :
    Ensures s (write f : Program σ ε Unit) Q E ↔ Q () (f s) :=
  Iff.rfl

/-- A sequence: what the second part needs is what the first has to ensure. -/
@[simp] theorem ensures_bind (f : α → Program σ ε β) (Q : β → σ → Prop) :
    Ensures s (x >>= f) Q E ↔ Ensures s x (fun a s' => Ensures s' (f a) Q E) E := by
  rw [Ensures, Ensures, bind_apply]
  cases x s with
  | none => rfl
  | some result =>
      obtain ⟨outcome, s'⟩ := result
      cases outcome with
      | error err => rfl
      | ok a => rfl

/-- The rule for a sequence, by the specification of its first part. -/
theorem Ensures.bind {f : α → Program σ ε β} {Q' : β → σ → Prop} (first : Ensures s x Q E)
    (second : ∀ a s', Q a s' → Ensures s' (f a) Q' F) (failed : ∀ s', E s' → F s') :
    Ensures s (x >>= f) Q' F :=
  (ensures_bind f Q').mpr (first.mono second failed)

@[simp] theorem ensures_attempt (fault : Option ε) (Q : Unit → σ → Prop) :
    Ensures s (attempt fault : Program σ ε Unit) Q E ↔
      (fault = none → Q () s) ∧ (fault ≠ none → E s) := by
  cases fault with
  | none => simp [attempt]
  | some err => simp [attempt]

theorem Ensures.attempt {fault : Option ε} {f : Unit → Program σ ε α} (failed : E s)
    (passed : Ensures s (f ()) Q E) : Ensures s (Program.attempt fault >>= f) Q E :=
  (ensures_bind _ _).mpr ((ensures_attempt _ _).mpr ⟨fun _ => passed, fun _ => failed⟩)

@[simp] theorem ensures_ofExcept (e : Except ε α) :
    Ensures s (ofExcept e : Program σ ε α) Q E ↔
      (∀ a, e = .ok a → Q a s) ∧ (∀ err, e = .error err → E s) := by
  cases e with
  | error err => simp [ofExcept]
  | ok a => simp [ofExcept]

@[simp] theorem ensures_ofOption (o : Option α) :
    Ensures s (ofOption o : Program σ ε α) Q E ↔ ∀ a, o = some a → Q a s := by
  cases o with
  | none => simp [ofOption]
  | some a => simp [ofOption]

@[simp] theorem ensures_ite (p : Prop) [Decidable p] (y : Program σ ε α) :
    Ensures s (if p then x else y) Q E ↔ (p → Ensures s x Q E) ∧ (¬ p → Ensures s y Q E) := by
  split <;> simp [*]

end

/-- The program does not panic from `s`, and `Q` holds if it returns without an error. -/
def Returns (s : σ) (x : Program σ ε α) (Q : α → σ → Prop) : Prop :=
  match x s with
  | none => False
  | some (.ok a, s') => Q a s'
  | some (.error _, _) => True

section
variable {s : σ} {x : Program σ ε α} {Q R : α → σ → Prop}

theorem returns_iff : Returns s x Q ↔ (x s).isSome ∧ Ensures s x Q fun _ => True := by
  rw [Returns, Ensures]
  cases x s with
  | none => simp
  | some result =>
      obtain ⟨outcome, s'⟩ := result
      cases outcome with
      | error err => simp
      | ok a => simp

theorem isSome_iff_returns : (x s).isSome ↔ Returns s x fun _ _ => True := by
  rw [returns_iff]
  refine (and_iff_left ?_).symm
  unfold Ensures
  split <;> trivial

theorem Returns.mono (returns : Returns s x Q) (weaker : ∀ a s', Q a s' → R a s') :
    Returns s x R := by
  rw [returns_iff] at *
  exact ⟨returns.1, returns.2.mono weaker fun _ => id⟩

@[simp] theorem returns_pure (a : α) : Returns s (pure a : Program σ ε α) Q ↔ Q a s :=
  Iff.rfl

@[simp] theorem returns_fail (err : ε) : Returns s (fail err : Program σ ε α) Q :=
  True.intro

@[simp] theorem not_returns_crash : ¬ Returns s (crash : Program σ ε α) Q :=
  id

@[simp] theorem returns_read (f : σ → α) : Returns s (read f : Program σ ε α) Q ↔ Q (f s) s :=
  Iff.rfl

@[simp] theorem returns_write (f : σ → σ) (Q : Unit → σ → Prop) :
    Returns s (write f : Program σ ε Unit) Q ↔ Q () (f s) :=
  Iff.rfl

@[simp] theorem returns_bind (f : α → Program σ ε β) (Q : β → σ → Prop) :
    Returns s (x >>= f) Q ↔ Returns s x fun a s' => Returns s' (f a) Q := by
  rw [Returns, Returns, bind_apply]
  cases x s with
  | none => rfl
  | some result =>
      obtain ⟨outcome, s'⟩ := result
      cases outcome with
      | error err => rfl
      | ok a => rfl

@[simp] theorem returns_attempt (fault : Option ε) (Q : Unit → σ → Prop) :
    Returns s (attempt fault : Program σ ε Unit) Q ↔ (fault = none → Q () s) := by
  cases fault with
  | none => simp [attempt]
  | some err => simp [attempt]

@[simp] theorem returns_ofExcept (e : Except ε α) :
    Returns s (ofExcept e : Program σ ε α) Q ↔ ∀ a, e = .ok a → Q a s := by
  cases e with
  | error err => simp [ofExcept]
  | ok a => simp [ofExcept]

@[simp] theorem returns_ofOption (o : Option α) :
    Returns s (ofOption o : Program σ ε α) Q ↔ ∃ a, o = some a ∧ Q a s := by
  cases o with
  | none => simp [ofOption]
  | some a => simp [ofOption]

@[simp] theorem returns_ite (p : Prop) [Decidable p] (y : Program σ ε α) :
    Returns s (if p then x else y) Q ↔ (p → Returns s x Q) ∧ (¬ p → Returns s y Q) := by
  split <;> simp [*]

end

end Program
