import Mathlib.Data.List.Basic
import Mathlib.Data.List.Infix
import Mathlib.Logic.Function.Basic
import Mathlib.Tactic

/-!
A value that is written again and again, and a reader that follows it at a distance.

The reader passes the versions in the order in which they were written and skips
none, but it may be any number of them behind. A family of such values is written
one at a time.
-/

namespace Informer
variable {ι α : Type}

/-- The present version, and those before it that the reader has yet to pass, the one
it shows first. -/
structure Versions (α : Type) where
  behind : List α := []
  present : α

namespace Versions
variable (v : Versions α)

def all : List α := v.behind ++ [v.present]

def seen : α := v.behind.headD v.present

def write (new : α) : Versions α := ⟨v.behind ++ [v.present], new⟩

def advance : Versions α := ⟨v.behind.tail, v.present⟩

@[simp] theorem present_write (new : α) : (v.write new).present = new := rfl

@[simp] theorem present_advance : v.advance.present = v.present := rfl

@[simp] theorem all_write (new : α) : (v.write new).all = v.all ++ [new] := rfl

theorem present_mem : v.present ∈ v.all := List.mem_append_right _ (List.mem_singleton_self _)

/-- What the reader shows comes before all that it has yet to show. -/
theorem all_eq_seen_cons : v.all = v.seen :: v.all.tail := by
  cases v with
  | mk behind present => cases behind <;> rfl

theorem seen_mem : v.seen ∈ v.all := by
  rw [all_eq_seen_cons]
  exact List.mem_cons_self

theorem all_advance : v.advance.all <:+ v.all := by
  cases v with
  | mk behind present =>
      cases behind with
      | nil => exact List.suffix_rfl
      | cons first behind => exact List.suffix_cons first _

theorem seen_write (new : α) : (v.write new).seen = v.seen := by
  cases v with
  | mk behind present => cases behind <;> rfl

theorem behind_write_ne_nil (new : α) : (v.write new).behind ≠ [] :=
  List.append_ne_nil_of_right_ne_nil _ (List.cons_ne_nil _ _)

variable {v} {R : α → α → Prop}

theorem seen_eq_present (caught : v.behind = []) : v.seen = v.present := by
  rw [Versions.seen, caught]
  rfl

theorem pairwise_write {new : α} (ordered : v.all.Pairwise R) (later : ∀ old ∈ v.all, R old new) :
    (v.write new).all.Pairwise R := by
  rw [all_write, List.pairwise_append]
  refine ⟨ordered, List.pairwise_singleton R new, ?_⟩
  intro old earlier last isNew
  rw [List.mem_singleton.mp isNew]
  exact later old earlier

theorem pairwise_advance (ordered : v.all.Pairwise R) : v.advance.all.Pairwise R :=
  ordered.sublist v.all_advance.sublist

/-- All that the reader has yet to show is later than what it shows. -/
theorem rel_seen (ordered : v.all.Pairwise R) {version : α} (shown : version ∈ v.all) :
    version = v.seen ∨ R v.seen version := by
  rw [all_eq_seen_cons] at ordered shown
  exact (List.mem_cons.mp shown).imp_right ((List.pairwise_cons.mp ordered).1 version)

theorem rel_present (ordered : v.all.Pairwise R) {version : α} (shown : version ∈ v.all) :
    version = v.present ∨ R version v.present := by
  rcases List.mem_append.mp shown with earlier | last
  · exact Or.inr ((List.pairwise_append.mp ordered).2.2 version earlier _
      (List.mem_singleton_self _))
  · exact Or.inl (List.mem_singleton.mp last)

/-! ### What the versions have in common -/

theorem forall_mem_all_write {P : α → Prop} {new : α} :
    (∀ a ∈ (v.write new).all, P a) ↔ (∀ a ∈ v.all, P a) ∧ P new := by
  rw [all_write, List.forall_mem_append, List.forall_mem_singleton]

theorem forall_mem_all_advance {P : α → Prop} (each : ∀ a ∈ v.all, P a) :
    ∀ a ∈ v.advance.all, P a :=
  fun a shown => each a (v.all_advance.subset shown)

def Constant {γ : Type} (f : α → γ) (v : Versions α) : Prop :=
  ∀ a ∈ v.all, ∀ b ∈ v.all, f a = f b

section
variable {γ : Type} {f : α → γ}

theorem Constant.seen (constant : Constant f v) : f v.seen = f v.present :=
  constant _ v.seen_mem _ v.present_mem

theorem Constant.advance (constant : Constant f v) : Constant f v.advance :=
  fun a isA b isB => constant a (v.all_advance.subset isA) b (v.all_advance.subset isB)

theorem Constant.write {new : α} (constant : Constant f v) (same : f new = f v.present) :
    Constant f (v.write new) := by
  have each : ∀ a ∈ (v.write new).all, f a = f v.present :=
    forall_mem_all_write.mpr ⟨fun a isA => constant a isA _ v.present_mem, same⟩
  exact fun a isA b isB => (each a isA).trans (each b isB).symm

theorem Constant.of_write {new : α} (constant : Constant f (v.write new)) : Constant f v :=
  fun a isA b isB => constant a (List.mem_append_left _ isA) b (List.mem_append_left _ isB)

theorem Constant.eq_of_write {new : α} (constant : Constant f (v.write new)) :
    f new = f v.present :=
  constant new (v.write new).present_mem v.present (List.mem_append_left _ v.present_mem)

/-- Passing on to a version that is alike leaves nothing different behind. -/
theorem Constant.of_advance (constant : Constant f v.advance) (same : f v.advance.seen = f v.seen) :
    Constant f v := by
  have each : ∀ a ∈ v.all, f a = f v.advance.seen := by
    intro a isA
    rw [all_eq_seen_cons] at isA
    rcases List.mem_cons.mp isA with rfl | later
    · exact same.symm
    · refine constant a ?_ _ v.advance.seen_mem
      cases v with
      | mk behind present =>
          cases behind with
          | nil => cases later
          | cons first behind => exact later
  exact fun a isA b isB => (each a isA).trans (each b isB).symm

end

end Versions

variable [DecidableEq ι]

def put (family : ι → Versions α) (key : ι) (new : α) : ι → Versions α :=
  Function.update family key ((family key).write new)

def deliver (family : ι → Versions α) (key : ι) : ι → Versions α :=
  Function.update family key (family key).advance

section
variable (family : ι → Versions α) (key : ι)

@[simp] theorem present_put (new : α) (other : ι) :
    (put family key new other).present = if other = key then new else (family other).present := by
  unfold put
  by_cases same : other = key
  · subst same
    simp
  · simp [same]

@[simp] theorem present_deliver (other : ι) :
    (deliver family key other).present = (family other).present := by
  unfold deliver
  by_cases same : other = key
  · subst same
    simp
  · simp [same]

theorem mem_all_put {new version : α} {other : ι} :
    version ∈ (put family key new other).all ↔
      version ∈ (family other).all ∨ other = key ∧ version = new := by
  unfold put
  by_cases same : other = key
  · subst same
    simp
  · simp [same]

theorem mem_all_of_deliver {version : α} {other : ι}
    (shown : version ∈ (deliver family key other).all) : version ∈ (family other).all := by
  unfold deliver at shown
  by_cases same : other = key
  · subst same
    rw [Function.update_self] at shown
    exact (family other).all_advance.subset shown
  · rwa [Function.update_of_ne same] at shown

variable {family key} {R : α → α → Prop}

theorem pairwise_put {new : α} (ordered : ∀ other, (family other).all.Pairwise R)
    (later : ∀ old ∈ (family key).all, R old new) (other : ι) :
    (put family key new other).all.Pairwise R := by
  unfold put
  by_cases same : other = key
  · subst same
    rw [Function.update_self]
    exact Versions.pairwise_write (ordered other) later
  · rw [Function.update_of_ne same]
    exact ordered other

theorem pairwise_deliver (ordered : ∀ other, (family other).all.Pairwise R) (other : ι) :
    (deliver family key other).all.Pairwise R := by
  unfold deliver
  by_cases same : other = key
  · subst same
    rw [Function.update_self]
    exact Versions.pairwise_advance (ordered other)
  · rw [Function.update_of_ne same]
    exact ordered other

end

end Informer
