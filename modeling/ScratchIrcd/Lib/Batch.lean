/-
  File:      ScratchIrcd/Lib/Batch.lean
  Subject:   Taking elements of a queue in batches.

  A batch is the first elements, in some order, of those that are selected. It is deleted by a
  range: whatever is selected and not after its last element. `through_iff` says that the range is
  the batch, as long as the order tells elements of the queue apart.
-/
import Mathlib.Data.List.Basic
import Mathlib.Data.List.Pairwise
import Mathlib.Data.List.Nodup
import Mathlib.Data.List.Perm.Subperm

namespace Batch

variable {α : Type*} {sel : α → Prop} {le : α → α → Prop} {queue listed : List α}

/-- The selected elements of a queue, each once and in order. -/
structure Lists (sel : α → Prop) (le : α → α → Prop) (queue listed : List α) : Prop where
  mem : ∀ x, x ∈ listed ↔ x ∈ queue ∧ sel x
  sorted : listed.Pairwise le
  nodup : listed.Nodup

/-- The order tells the elements of a queue apart. -/
def Separates (le : α → α → Prop) (queue : List α) : Prop :=
  ∀ x ∈ queue, ∀ y ∈ queue, le x y → le y x → x = y

/-- Elements of a batch are not after its last one. -/
theorem Lists.le_last (h : Lists sel le queue listed) (hrefl : ∀ x, le x x) {k : Nat} {last x : α}
    (hlast : (listed.take k).getLast? = some last) (hx : x ∈ listed.take k) : le x last := by
  obtain ⟨init, hinit⟩ := List.getLast?_eq_some_iff.mp hlast
  have hsorted := h.sorted.sublist (List.take_sublist k listed)
  rw [hinit] at hx hsorted
  rcases List.mem_append.mp hx with hx | hx
  · exact (List.pairwise_append.mp hsorted).2.2 x hx last (List.mem_singleton_self last)
  · rw [List.mem_singleton.mp hx]
    exact hrefl last

/-- **The range is the batch.** -/
theorem Lists.through_iff (h : Lists sel le queue listed) (hrefl : ∀ x, le x x)
    (hsep : Separates le queue) {k : Nat} {last x : α}
    (hlast : (listed.take k).getLast? = some last) (hx : x ∈ queue) :
    (sel x ∧ le x last) ↔ x ∈ listed.take k := by
  have hlastmem : last ∈ listed.take k := List.mem_of_getLast? hlast
  have hlastqueue : last ∈ queue := ((h.mem last).mp (List.mem_of_mem_take hlastmem)).1
  constructor
  · rintro ⟨hsel, hle⟩
    have hmem : x ∈ listed := (h.mem x).mpr ⟨hx, hsel⟩
    rw [← List.take_append_drop k listed] at hmem
    rcases List.mem_append.mp hmem with hmem | hmem
    · exact hmem
    · -- after the batch, so after its last element: it is that element
      have hsorted := h.sorted
      rw [← List.take_append_drop k listed] at hsorted
      have hafter := (List.pairwise_append.mp hsorted).2.2 last hlastmem x hmem
      rw [hsep x hx last hlastqueue hle hafter]
      exact hlastmem
  · intro hmem
    exact ⟨((h.mem x).mp (List.mem_of_mem_take hmem)).2, h.le_last hrefl hlast hmem⟩

/-- What is listed once the batch is gone is the rest of the list. -/
theorem Lists.eq_drop (h : Lists sel le queue listed) (hsep : Separates le queue) {k : Nat}
    {left listed' : List α} (hleft : ∀ x, x ∈ left ↔ x ∈ queue ∧ x ∉ listed.take k)
    (h' : Lists sel le left listed') : listed' = listed.drop k := by
  have hnodup := h.nodup
  rw [← List.take_append_drop k listed] at hnodup
  have hmem : ∀ x, x ∈ listed' ↔ x ∈ listed.drop k := by
    intro x
    rw [h'.mem, hleft, and_right_comm, ← h.mem, ← List.take_append_drop k listed, List.mem_append,
      List.take_append_drop]
    constructor
    · rintro ⟨hx, hnot⟩
      exact hx.resolve_left hnot
    · intro hx
      exact ⟨.inr hx, fun hin => (List.nodup_append.mp hnodup).2.2 x hin x hx rfl⟩
  refine List.Perm.eq_of_pairwise (fun x y hx hy => hsep x ?_ y ?_) h'.sorted
    (h.sorted.sublist (List.drop_sublist k listed))
    ((List.perm_ext_iff_of_nodup h'.nodup (h.nodup.sublist (List.drop_sublist k listed))).mpr hmem)
  · exact ((h.mem x).mp (List.mem_of_mem_drop ((hmem x).mp hx))).1
  · exact ((h.mem y).mp (List.mem_of_mem_drop hy)).1

/-- What is left of the queue is one element shorter for each of the batch. -/
theorem length_filter_not {batch : List α} {p : α → Bool} (hqueue : queue.Nodup)
    (hbatch : batch.Nodup) (hsub : ∀ x ∈ batch, x ∈ queue)
    (hp : ∀ x ∈ queue, p x = true ↔ x ∈ batch) :
    (queue.filter fun x => !p x).length = queue.length - batch.length := by
  have hperm : (queue.filter p).Perm batch := by
    rw [List.perm_ext_iff_of_nodup (hqueue.filter p) hbatch]
    intro x
    rw [List.mem_filter]
    exact ⟨fun ⟨hx, hpx⟩ => (hp x hx).mp hpx, fun hx => ⟨hsub x hx, (hp x (hsub x hx)).mpr hx⟩⟩
  have hsplit := List.length_eq_length_filter_add (l := queue) p
  rw [hperm.length_eq] at hsplit
  omega

end Batch
