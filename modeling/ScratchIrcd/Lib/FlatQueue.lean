/-
  File:      ScratchIrcd/Lib/FlatQueue.lean
  Subject:   A queue that is a window of a flat buffer.

  The buffer is a block of cells; the queue is the `length` cells from `start` on. What lies
  outside the window is whatever was there before. Every operation is stated by what it does to
  the cells, and has one lemma that says what it does to `contents`.
-/
import Mathlib.Data.List.Basic

/-- A window of a block of cells. -/
structure FlatQueue (α : Type*) where
  cells : List α
  start : Nat
  length : Nat
  /-- The window lies inside the block. -/
  fits : start + length ≤ cells.length

namespace FlatQueue

variable {α : Type*}

/-- What is queued, oldest first. -/
def contents (q : FlatQueue α) : List α := (q.cells.drop q.start).take q.length

def capacity (q : FlatQueue α) : Nat := q.cells.length

/-- No block at all. -/
def empty : FlatQueue α := ⟨[], 0, 0, Nat.le_refl 0⟩

@[simp] theorem length_contents (q : FlatQueue α) : q.contents.length = q.length := by
  have := q.fits
  simp only [contents, List.length_take, List.length_drop]
  omega

theorem contents_eq_nil {q : FlatQueue α} (h : q.length = 0) : q.contents = [] := by
  rw [← List.length_eq_zero_iff, length_contents, h]

/-! ## 1. Moving and growing the block -/

/-- Move the window to the front of the block. -/
def compact (q : FlatQueue α) : FlatQueue α where
  cells := q.contents ++ q.cells.drop q.length
  start := 0
  length := q.length
  fits := by simp

@[simp] theorem contents_compact (q : FlatQueue α) : q.compact.contents = q.contents := by
  exact List.take_left' (length_contents q)

/-- A block of at least `n` cells with the old ones in front. -/
def reserve [Inhabited α] (q : FlatQueue α) (n : Nat) : FlatQueue α where
  cells := q.cells ++ List.replicate (n - q.cells.length) default
  start := q.start
  length := q.length
  fits := by
    have := q.fits
    simp only [List.length_append]
    omega

@[simp] theorem contents_reserve [Inhabited α] (q : FlatQueue α) (n : Nat) :
    (q.reserve n).contents = q.contents := by
  have := q.fits
  simp only [contents, reserve]
  rw [List.drop_append_of_le_length (by omega),
    List.take_append_of_le_length (by rw [List.length_drop]; omega)]

/-! ## 2. Both ends -/

/-- Write `data` behind the window. -/
def push (q : FlatQueue α) (data : List α) : FlatQueue α where
  cells := q.cells.take (q.start + q.length) ++ data ++
    q.cells.drop (q.start + q.length + data.length)
  start := q.start
  length := q.length + data.length
  fits := by
    have := q.fits
    simp only [List.length_append, List.length_take]
    omega

@[simp] theorem contents_push (q : FlatQueue α) (data : List α) :
    (q.push data).contents = q.contents ++ data := by
  have hfits := q.fits
  have hfront : (q.cells.take (q.start + q.length)).drop q.start = q.contents := by
    rw [List.drop_take, Nat.add_sub_cancel_left]
    rfl
  simp only [contents, push, List.append_assoc]
  rw [List.drop_append_of_le_length (by rw [List.length_take]; omega), hfront,
    ← List.append_assoc, List.take_append_of_le_length (by simp), List.take_of_length_le (by simp)]
  rfl

/-- Take `n` off the front of the window. -/
def advance (q : FlatQueue α) (n : Nat) : FlatQueue α where
  cells := q.cells
  start := q.start + min n q.length
  length := q.length - n
  fits := by
    have := q.fits
    omega

theorem contents_advance {q : FlatQueue α} {n : Nat} (h : n ≤ q.length) :
    (q.advance n).contents = q.contents.drop n := by
  simp only [contents, advance, Nat.min_eq_left h]
  rw [List.drop_take, List.drop_drop]

/-- An empty window starts at the front again. -/
def rewind (q : FlatQueue α) : FlatQueue α where
  cells := q.cells
  start := 0
  length := q.length
  fits := by
    have := q.fits
    omega

/-- What a reader finds that starts at the window. -/
theorem take_drop_start {q : FlatQueue α} {n : Nat} (h : n ≤ q.length) :
    (q.cells.drop q.start).take n = q.contents.take n := by
  rw [contents, List.take_take, Nat.min_eq_left h]

end FlatQueue
