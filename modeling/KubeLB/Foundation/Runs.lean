import Mathlib.Data.List.Infix
import Mathlib.Logic.Relator
import Mathlib.Tactic

/-!
Runs of a system given by a partial step function, and the rules by which a
property of one step becomes a property of every state of a run.

`step s a = none` means that the action is not enabled in `s`, or that the
call it stands for has not returned. Nothing is said about the states of a run
that stops there.
-/

namespace Runs
variable {σ α : Type}

def run (step : σ → α → Option σ) (init : σ) (actions : List α) : Option σ :=
  actions.foldlM step init

variable (step : σ → α → Option σ) (init : σ)

theorem run_concat (actions : List α) (a : α) :
    run step init (actions ++ [a]) = (run step init actions).bind fun s => step s a := by
  simp only [run, List.foldlM_append, List.foldlM_cons, List.foldlM_nil]
  cases actions.foldlM step init <;> simp

theorem run_append (actions later : List α) :
    run step init (actions ++ later) = (run step init actions).bind fun s => run step s later := by
  simp only [run, List.foldlM_append]
  rfl

/-- Every state that the run passes through, the first and the last included. -/
def Throughout (actions : List α) (P : σ → Prop) : Prop :=
  ∀ before s, before <+: actions → run step init before = some s → P s

/-- Every step of the run, with the state it is taken in and the one it leads to. -/
def EachStep (actions : List α) (C : σ → α → σ → Prop) : Prop :=
  ∀ before a s s', before ++ [a] <+: actions →
    run step init before = some s → step s a = some s' → C s a s'

variable {step init}

theorem run_cons (s : σ) (a : α) (actions : List α) :
    run step s (a :: actions) = (step s a).bind fun s' => run step s' actions := rfl

theorem eachStep_nil (C : σ → α → σ → Prop) : EachStep step init [] C := by
  intro before a s s' small
  simp at small

theorem eachStep_cons {a : α} {actions : List α} {C : σ → α → σ → Prop}
    (first : ∀ s', step init a = some s' → C init a s' ∧ EachStep step s' actions C) :
    EachStep step init (a :: actions) C := by
  intro before b s s' small reached taken
  cases before with
  | nil =>
      obtain ⟨rfl, _⟩ := List.cons_prefix_cons.mp small
      cases reached
      exact (first s' taken).1
  | cons c before =>
      obtain ⟨rfl, smaller⟩ := List.cons_prefix_cons.mp small
      rw [run_cons] at reached
      obtain ⟨middle, begun, reached⟩ := Option.bind_eq_some_iff.mp reached
      exact (first middle begun).2 before b s s' smaller reached taken

theorem eachStep_taken {a : α} {s' : σ} {actions : List α} {C : σ → α → σ → Prop}
    (taken : step init a = some s') (first : C init a s') (rest : EachStep step s' actions C) :
    EachStep step init (a :: actions) C := by
  refine eachStep_cons fun s'' taken' => ?_
  cases taken.symm.trans taken'
  exact ⟨first, rest⟩

/-- The invariant rule: a property of the initial state that every step taken
keeps, when the step meets `C`, holds throughout each run whose steps meet `C`. -/
theorem throughout_of_eachStep {P : σ → Prop} {C : σ → α → σ → Prop} (start : P init)
    (keep : ∀ s a s', P s → C s a s' → step s a = some s' → P s')
    {actions : List α} (meets : EachStep step init actions C) :
    Throughout step init actions P := by
  intro before
  induction before using List.reverseRecOn with
  | nil =>
      intro s _ reached
      cases reached
      exact start
  | append_singleton earlier a ih =>
      intro s' small reached
      rw [run_concat] at reached
      obtain ⟨s, atS, taken⟩ := Option.bind_eq_some_iff.mp reached
      have shorter := (List.prefix_append earlier [a]).trans small
      exact keep s a s' (ih s shorter atS) (meets earlier a s s' small atS taken) taken

theorem throughout_of_step {P : σ → Prop} (start : P init)
    (keep : ∀ s a s', P s → step s a = some s' → P s') (actions : List α) :
    Throughout step init actions P :=
  throughout_of_eachStep (C := fun _ _ _ => True) start
    (fun s a s' holds _ taken => keep s a s' holds taken) fun _ _ _ _ _ _ _ => True.intro

/-- The rule for steps: from a state with `P` a step that meets `C` keeps `P` and
meets `D`. -/
theorem eachStep_of_eachStep {P : σ → Prop} {C D : σ → α → σ → Prop} (start : P init)
    (each : ∀ s a s', P s → C s a s' → step s a = some s' → P s' ∧ D s a s')
    {actions : List α} (meets : EachStep step init actions C) :
    EachStep step init actions D := by
  have holds : Throughout step init actions P :=
    throughout_of_eachStep start
      (fun s a s' holds met taken => (each s a s' holds met taken).1) meets
  intro before a s s' small reached taken
  have shorter := (List.prefix_append before [a]).trans small
  exact (each s a s' (holds before s shorter reached)
    (meets before a s s' small reached taken) taken).2

/-- Two conditions that agree on the steps from states with `P` agree on a run
that keeps to such states. -/
theorem eachStep_congr {P : σ → Prop} {C D : σ → α → σ → Prop} {actions : List α}
    (holds : Throughout step init actions P)
    (same : ∀ s a s', P s → step s a = some s' → (C s a s' ↔ D s a s')) :
    EachStep step init actions C ↔ EachStep step init actions D := by
  have agree (before a s s') (small : before ++ [a] <+: actions)
      (reached : run step init before = some s) (taken : step s a = some s') :=
    same s a s' (holds before s ((List.prefix_append before [a]).trans small) reached) taken
  constructor
  · intro meets before a s s' small reached taken
    exact (agree before a s s' small reached taken).mp
      (meets before a s s' small reached taken)
  · intro meets before a s s' small reached taken
    exact (agree before a s s' small reached taken).mpr
      (meets before a s s' small reached taken)

theorem eachStep_congr_of_step {C D : σ → α → σ → Prop}
    (same : ∀ s a s', step s a = some s' → (C s a s' ↔ D s a s')) (actions : List α) :
    EachStep step init actions C ↔ EachStep step init actions D :=
  eachStep_congr (P := fun _ => True) (fun _ _ _ _ => True.intro)
    fun s a s' _ taken => same s a s' taken

/-- When one step keeps `P` exactly if it meets `C`, the runs that keep `P` are
exactly those whose steps meet `C`. `I` is what may be assumed of every state. -/
theorem throughout_iff_eachStep {I P : σ → Prop} {C : σ → α → σ → Prop}
    (startI : I init) (keepI : ∀ s a s', I s → step s a = some s' → I s')
    (startP : P init)
    (exact_ : ∀ s a s', I s → P s → step s a = some s' → (P s' ↔ C s a s'))
    (actions : List α) :
    Throughout step init actions P ↔ EachStep step init actions C := by
  have invariant := throughout_of_step startI keepI actions
  constructor
  · intro holds before a s s' small reached taken
    have shorter := (List.prefix_append before [a]).trans small
    have next : run step init (before ++ [a]) = some s' := by
      rw [run_concat, reached]
      exact taken
    exact (exact_ s a s' (invariant before s shorter reached)
      (holds before s shorter reached) taken).mp (holds _ s' small next)
  · intro meets
    have both : EachStep step init actions fun s a s' => I s ∧ C s a s' :=
      fun before a s s' small reached taken =>
        ⟨invariant before s ((List.prefix_append before [a]).trans small) reached,
          meets before a s s' small reached taken⟩
    exact throughout_of_eachStep startP
      (fun s a s' holds h taken => (exact_ s a s' h.1 holds taken).mpr h.2) both

end Runs

namespace Ownership
open Relator
variable {α β : Type}

/-- A relation that grows only by pairs whose right-hand sides have no other
owner keeps one owner for each right-hand side. -/
theorem leftUnique_grow {R N R' : α → β → Prop} (old : LeftUnique R) (new : LeftUnique N)
    (cross : ∀ a a' b, N a b → R a' b → a = a')
    (grows : ∀ a b, R' a b → R a b ∨ N a b) : LeftUnique R' := by
  intro a a' b first second
  cases grows a b first with
  | inl oldFirst =>
      cases grows a' b second with
      | inl oldSecond => exact old oldFirst oldSecond
      | inr newSecond => exact (cross a' a b newSecond oldFirst).symm
  | inr newFirst =>
      cases grows a' b second with
      | inl oldSecond => exact cross a a' b newFirst oldSecond
      | inr newSecond => exact new newFirst newSecond

theorem rightUnique_grow {R N R' : α → β → Prop} (old : RightUnique R) (new : RightUnique N)
    (cross : ∀ a b b', N a b → R a b' → b = b')
    (grows : ∀ a b, R' a b → R a b ∨ N a b) : RightUnique R' := by
  have flipped : LeftUnique fun b a => R' a b :=
    leftUnique_grow (R := fun b a => R a b) (N := fun b a => N a b)
      (fun b b' a first second => old first second)
      (fun b b' a first second => new first second)
      (fun b b' a first second => cross a b b' first second)
      (fun b a h => grows a b h)
  exact fun a b b' first second => flipped first second

end Ownership
