import Mathlib.Data.List.Basic
import Mathlib.Tactic

/-!
A heap of values of one type: cells are added and changed in place, never freed. A
reference is the position of its cell.
-/

structure Heap (α : Type) where
  cells : List α

namespace Heap
variable {α : Type}

def read (heap : Heap α) (ref : Nat) : Option α := heap.cells[ref]?

def alloc (heap : Heap α) (value : α) : Nat × Heap α :=
  (heap.cells.length, ⟨heap.cells ++ [value]⟩)

def modify (heap : Heap α) (ref : Nat) (f : α → α) : Heap α := ⟨heap.cells.modify ref f⟩

theorem read_alloc_self (heap : Heap α) (value : α) :
    (heap.alloc value).2.read (heap.alloc value).1 = some value := by
  simp [alloc, read]

theorem read_alloc_of_read {heap : Heap α} {ref : Nat} {old : α} (value : α)
    (found : heap.read ref = some old) : (heap.alloc value).2.read ref = some old := by
  have inside : ref < heap.cells.length := (List.getElem?_eq_some_iff.mp found).1
  rw [read, alloc, List.getElem?_append_left inside]
  exact found

theorem ne_alloc_of_read {heap : Heap α} {ref : Nat} {old : α} (value : α)
    (found : heap.read ref = some old) : (heap.alloc value).1 ≠ ref :=
  Nat.ne_of_gt (List.getElem?_eq_some_iff.mp found).1

theorem read_modify_self (heap : Heap α) (ref : Nat) (f : α → α) :
    (heap.modify ref f).read ref = (heap.read ref).map f := by
  simp [modify, read]

theorem read_modify_of_ne {heap : Heap α} {ref other : Nat} (f : α → α) (differ : ref ≠ other) :
    (heap.modify ref f).read other = heap.read other := by
  simp [modify, read, differ]

end Heap
