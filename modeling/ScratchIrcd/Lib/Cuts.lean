/-
  File:      ScratchIrcd/Lib/Cuts.lean
  Subject:   Cuts of a list: parts that together carry the items, in order and each once.

  A part is anything that carries items (`carried`), a line being filled for instance. A greedy
  loop is shown to cut its input by its own induction, with the two rules below.
-/
import Mathlib.Data.List.Basic

variable {α β : Type*}

/-- The parts carry the items and pass the test. -/
structure Cut (carried : α → List β) (fit : α → Bool) (items : List β) (parts : List α) : Prop where
  items : parts.flatMap carried = items
  fits : ∀ p ∈ parts, fit p = true

namespace Cut

variable {carried : α → List β} {fit : α → Bool} {items : List β} {parts : List α}

theorem nil : Cut carried fit [] [] := ⟨rfl, fun _ hp => absurd hp List.not_mem_nil⟩

theorem cons {p : α} (hp : fit p = true) (h : Cut carried fit items parts) :
    Cut carried fit (carried p ++ items) (p :: parts) where
  items := by rw [List.flatMap_cons, h.items]
  fits := List.forall_mem_cons.mpr ⟨hp, h.fits⟩

theorem single {p : α} (hp : fit p = true) : Cut carried fit (carried p) [p] := by
  have h : Cut carried fit (carried p ++ []) [p] := cons hp nil
  rwa [List.append_nil] at h

/-- A part without items may follow. -/
theorem concat {p : α} (h : Cut carried fit items parts) (hempty : carried p = []) (hp : fit p = true) :
    Cut carried fit items (parts ++ [p]) where
  items := by rw [List.flatMap_append, List.flatMap_singleton, hempty, List.append_nil, h.items]
  fits := List.forall_mem_append.mpr ⟨h.fits, List.forall_mem_singleton.mpr hp⟩

end Cut
