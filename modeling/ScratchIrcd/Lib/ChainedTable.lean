/-
  File:      ScratchIrcd/Lib/ChainedTable.lean
  Subject:   A hash table with separate chaining, keyed up to an equivalence.

  A table is an array of chains. A key is hashed, reduced modulo the number of chains, and
  searched for in that chain by the key equivalence; a new key goes to the front of its chain,
  a present one keeps its entry and only its value changes. The structure carries the two facts
  every reader relies on: an entry lies in the chain of its hash (`placed`), and a chain holds
  at most one entry per key (`unique`).

  `get_empty`, `get_set` and `get_remove` say that the table is a finite map modulo the
  equivalence; `values` walks the chains in order, and `filter_values_remove` says that a walk
  that skips the value of a key does not notice when the key is removed.
-/
import Mathlib.Data.List.Basic
import Mathlib.Data.List.Pairwise
import Mathlib.Logic.Function.Basic

/-- How keys are compared and hashed: an equivalence, and a hash that respects it. -/
structure Keying (K : Type*) where
  eqv : K → K → Bool
  hash : K → Nat
  refl : ∀ a, eqv a a = true
  symm : ∀ {a b}, eqv a b = true → eqv b a = true
  trans : ∀ {a b c}, eqv a b = true → eqv b c = true → eqv a c = true
  hash_congr : ∀ {a b}, eqv a b = true → hash a = hash b

namespace Keying

variable {K V : Type*} (κ : Keying K)

/-- Equal keys answer every comparison alike. -/
theorem eqv_congr {a b : K} (h : κ.eqv a b = true) (c : K) : κ.eqv a c = κ.eqv b c := by
  rw [Bool.eq_iff_iff]
  exact ⟨fun hac => κ.trans (κ.symm h) hac, fun hbc => κ.trans h hbc⟩

theorem eqv_comm (a b : K) : κ.eqv a b = κ.eqv b a := by
  rw [Bool.eq_iff_iff]
  exact ⟨κ.symm, κ.symm⟩

/-! ## 1. Chains -/

/-- The value of the first entry with this key. -/
def chainGet (k : K) : List (K × V) → Option V
  | [] => none
  | e :: l => if κ.eqv e.1 k then some e.2 else chainGet k l

/-- Overwrite the value of the first entry with this key; the entry keeps its own key. -/
def chainReplace (k : K) (v : V) : List (K × V) → List (K × V)
  | [] => []
  | e :: l => if κ.eqv e.1 k then (e.1, v) :: l else e :: chainReplace k v l

/-- Unlink the first entry with this key. -/
def chainRemove (k : K) : List (K × V) → List (K × V)
  | [] => []
  | e :: l => if κ.eqv e.1 k then l else e :: chainRemove k l

/-- Overwrite in place, or push a new entry at the front. -/
def chainSet (k : K) (v : V) (l : List (K × V)) : List (K × V) :=
  if (κ.chainGet k l).isSome then κ.chainReplace k v l else (k, v) :: l

/-- No two entries of a chain have the same key. -/
def ChainUnique (l : List (K × V)) : Prop := l.Pairwise fun a b => κ.eqv a.1 b.1 = false

variable {κ}

theorem chainGet_congr {k k' : K} (h : κ.eqv k k' = true) (l : List (K × V)) :
    κ.chainGet k l = κ.chainGet k' l := by
  induction l with
  | nil => rfl
  | cons e l ih => simp only [chainGet, κ.eqv_comm e.1, κ.eqv_congr h, ih]

theorem chainGet_none_iff {k : K} {l : List (K × V)} :
    κ.chainGet k l = none ↔ ∀ e ∈ l, κ.eqv e.1 k = false := by
  induction l with
  | nil => simp [chainGet]
  | cons e l ih => by_cases h : κ.eqv e.1 k = true <;> simp [chainGet, h, ih]

theorem chainGet_replace {k k' : K} {v : V} {l : List (K × V)} :
    κ.chainGet k' (κ.chainReplace k v l) =
      if κ.eqv k k' = true ∧ (κ.chainGet k l).isSome then some v else κ.chainGet k' l := by
  induction l with
  | nil => simp [chainGet, chainReplace]
  | cons e l ih =>
    by_cases hk : κ.eqv e.1 k = true
    · by_cases hk' : κ.eqv k k' = true
      · simp [chainGet, chainReplace, hk, hk', κ.trans hk hk']
      · have he : κ.eqv e.1 k' = false := by
          rw [κ.eqv_congr hk]
          simpa using hk'
        simp [chainGet, chainReplace, hk, hk', he]
    · simp only [chainReplace, hk, Bool.false_eq_true, if_false, chainGet, ih]
      by_cases he : κ.eqv e.1 k' = true
      · have : ¬ κ.eqv k k' = true := fun h => hk (κ.trans he (κ.symm h))
        simp [he, this]
      · simp [he]

theorem chainGet_set {k k' : K} {v : V} {l : List (K × V)} :
    κ.chainGet k' (κ.chainSet k v l) = if κ.eqv k k' = true then some v else κ.chainGet k' l := by
  unfold chainSet
  split
  · rename_i h
    simp only [chainGet_replace, h, and_true]
  · rfl

theorem chainGet_remove {k k' : K} {l : List (K × V)} (hu : κ.ChainUnique l) :
    κ.chainGet k' (κ.chainRemove k l) = if κ.eqv k k' = true then none else κ.chainGet k' l := by
  induction l with
  | nil => simp [chainGet, chainRemove]
  | cons e l ih =>
    obtain ⟨he, hl⟩ := List.pairwise_cons.mp hu
    by_cases hk : κ.eqv e.1 k = true
    · simp only [chainRemove, hk, if_true, chainGet]
      by_cases hk' : κ.eqv k k' = true
      · -- the removed entry was the only one with this key
        rw [if_pos hk', chainGet_none_iff]
        intro a ha
        rw [κ.eqv_comm, ← κ.eqv_congr (κ.trans hk hk')]
        exact he a ha
      · have : κ.eqv e.1 k' = false := by
          rw [κ.eqv_congr hk]
          simpa using hk'
        simp [hk', this]
    · simp only [chainRemove, hk, Bool.false_eq_true, if_false, chainGet, ih hl]
      by_cases he' : κ.eqv e.1 k' = true
      · have : ¬ κ.eqv k k' = true := fun h => hk (κ.trans he' (κ.symm h))
        simp [he', this]
      · simp [he']

theorem mem_chainReplace {k : K} {v : V} {l : List (K × V)} {e : K × V}
    (h : e ∈ κ.chainReplace k v l) : ∃ e' ∈ l, e'.1 = e.1 := by
  induction l with
  | nil => cases h
  | cons a l ih =>
    simp only [chainReplace] at h
    split at h
    · rcases List.mem_cons.mp h with rfl | h
      · exact ⟨a, List.mem_cons_self, rfl⟩
      · exact ⟨e, List.mem_cons_of_mem _ h, rfl⟩
    · rcases List.mem_cons.mp h with rfl | h
      · exact ⟨e, List.mem_cons_self, rfl⟩
      · obtain ⟨e', he', hk⟩ := ih h
        exact ⟨e', List.mem_cons_of_mem _ he', hk⟩

theorem chainRemove_sublist (k : K) (l : List (K × V)) : (κ.chainRemove k l).Sublist l := by
  induction l with
  | nil => exact List.Sublist.refl _
  | cons e l ih =>
    simp only [chainRemove]
    split
    · exact List.sublist_cons_self _ _
    · exact ih.cons_cons _

/-- A reader that skips the value of `k` does not notice when its entry is unlinked. -/
theorem filter_chainRemove {k : K} {p : V → Bool} (l : List (K × V))
    (h : ∀ v, κ.chainGet k l = some v → p v = false) :
    ((κ.chainRemove k l).map Prod.snd).filter p = (l.map Prod.snd).filter p := by
  induction l with
  | nil => rfl
  | cons e l ih =>
    by_cases hk : κ.eqv e.1 k = true
    · have hp : p e.2 = false := h e.2 (by simp [chainGet, hk])
      simp [chainRemove, hk, hp]
    · have hrest := ih fun v hv => h v (by simpa [chainGet, hk] using hv)
      simp only [chainRemove, hk, Bool.false_eq_true, if_false, List.map_cons, List.filter_cons, hrest]

theorem ChainUnique.replace {k : K} {v : V} {l : List (K × V)} (hu : κ.ChainUnique l) :
    κ.ChainUnique (κ.chainReplace k v l) := by
  induction l with
  | nil => exact List.Pairwise.nil
  | cons e l ih =>
    obtain ⟨he, hl⟩ := List.pairwise_cons.mp hu
    simp only [chainReplace]
    split
    · exact List.pairwise_cons.mpr ⟨he, hl⟩
    · refine List.pairwise_cons.mpr ⟨fun a ha => ?_, ih hl⟩
      obtain ⟨a', ha', hk⟩ := mem_chainReplace ha
      exact hk ▸ he a' ha'

theorem ChainUnique.set {k : K} {v : V} {l : List (K × V)} (hu : κ.ChainUnique l) :
    κ.ChainUnique (κ.chainSet k v l) := by
  unfold chainSet
  split
  · exact hu.replace
  · rename_i h
    refine List.pairwise_cons.mpr ⟨fun a ha => ?_, hu⟩
    have hn : κ.chainGet k l = none := by simpa using h
    rw [κ.eqv_comm]
    exact chainGet_none_iff.mp hn a ha

end Keying

/-! ## 2. Tables -/

/-- A hash table: `count` chains, each entry in the chain of its hash, each key at most once. -/
structure ChainedTable {K : Type*} (κ : Keying K) (V : Type*) where
  count : Nat
  pos : 0 < count
  chain : Nat → List (K × V)
  placed : ∀ i, ∀ e ∈ chain i, κ.hash e.1 % count = i
  unique : ∀ i, κ.ChainUnique (chain i)

namespace ChainedTable

variable {K V : Type*} {κ : Keying K}

/-- The chain a key belongs to. -/
def index (t : ChainedTable κ V) (k : K) : Nat := κ.hash k % t.count

/-- A fresh table: every chain is empty. -/
def empty (count : Nat) (pos : 0 < count) : ChainedTable κ V where
  count := count
  pos := pos
  chain := fun _ => []
  placed := fun _ _ h => absurd h List.not_mem_nil
  unique := fun _ => List.Pairwise.nil

def get (t : ChainedTable κ V) (k : K) : Option V := κ.chainGet k (t.chain (t.index k))

def set (t : ChainedTable κ V) (k : K) (v : V) : ChainedTable κ V where
  count := t.count
  pos := t.pos
  chain := Function.update t.chain (t.index k) (κ.chainSet k v (t.chain (t.index k)))
  placed := by
    intro i e he
    by_cases hi : i = t.index k
    · subst hi
      rw [Function.update_self] at he
      unfold Keying.chainSet at he
      split at he
      · obtain ⟨e', he', hk⟩ := Keying.mem_chainReplace he
        exact hk ▸ t.placed _ e' he'
      · rcases List.mem_cons.mp he with rfl | he
        · rfl
        · exact t.placed _ e he
    · rw [Function.update_of_ne hi] at he
      exact t.placed i e he
  unique := by
    intro i
    by_cases hi : i = t.index k
    · subst hi
      rw [Function.update_self]
      exact (t.unique _).set
    · rw [Function.update_of_ne hi]
      exact t.unique i

def remove (t : ChainedTable κ V) (k : K) : ChainedTable κ V where
  count := t.count
  pos := t.pos
  chain := Function.update t.chain (t.index k) (κ.chainRemove k (t.chain (t.index k)))
  placed := by
    intro i e he
    by_cases hi : i = t.index k
    · subst hi
      rw [Function.update_self] at he
      exact t.placed _ e ((Keying.chainRemove_sublist _ _).subset he)
    · rw [Function.update_of_ne hi] at he
      exact t.placed i e he
  unique := by
    intro i
    by_cases hi : i = t.index k
    · subst hi
      rw [Function.update_self]
      exact (t.unique _).sublist (Keying.chainRemove_sublist _ _)
    · rw [Function.update_of_ne hi]
      exact t.unique i

/-- The values in the order of a walk over all chains. -/
def values (t : ChainedTable κ V) : List V :=
  (List.range t.count).flatMap fun i => (t.chain i).map Prod.snd

/-! ## 3. The table is a finite map -/

@[simp] theorem get_empty (count : Nat) (pos : 0 < count) (k : K) :
    (empty count pos : ChainedTable κ V).get k = none := rfl

section

variable (t : ChainedTable κ V)

theorem get_congr {k k' : K} (h : κ.eqv k k' = true) :
    t.get k = t.get k' := by
  unfold get index
  rw [κ.hash_congr h]
  exact Keying.chainGet_congr h _

theorem get_set (k k' : K) (v : V) :
    (t.set k v).get k' = if κ.eqv k k' = true then some v else t.get k' := by
  show κ.chainGet k' (Function.update t.chain (t.index k) _ (t.index k')) = _
  by_cases hi : t.index k' = t.index k
  · rw [hi, Function.update_self, Keying.chainGet_set, ← hi]
    rfl
  · have hk : ¬ κ.eqv k k' = true := fun h => hi (by simp only [index, κ.hash_congr h])
    rw [Function.update_of_ne hi, if_neg hk]
    rfl

theorem get_remove (k k' : K) :
    (t.remove k).get k' = if κ.eqv k k' = true then none else t.get k' := by
  show κ.chainGet k' (Function.update t.chain (t.index k) _ (t.index k')) = _
  by_cases hi : t.index k' = t.index k
  · rw [hi, Function.update_self, Keying.chainGet_remove (t.unique _), ← hi]
    rfl
  · have hk : ¬ κ.eqv k k' = true := fun h => hi (by simp only [index, κ.hash_congr h])
    rw [Function.update_of_ne hi, if_neg hk]
    rfl

@[simp] theorem get_set_self (k : K) (v : V) :
    (t.set k v).get k = some v := by
  rw [get_set, if_pos (κ.refl k)]

@[simp] theorem get_remove_self (k : K) : (t.remove k).get k = none := by
  rw [get_remove, if_pos (κ.refl k)]

theorem filter_values_remove {k : K} {p : V → Bool} (h : ∀ v, t.get k = some v → p v = false) :
    (t.remove k).values.filter p = t.values.filter p := by
  have hchain : ∀ i, (((t.remove k).chain i).map Prod.snd).filter p =
      ((t.chain i).map Prod.snd).filter p := by
    intro i
    by_cases hi : i = t.index k
    · subst hi
      have hself : (t.remove k).chain (t.index k) = κ.chainRemove k (t.chain (t.index k)) :=
        Function.update_self ..
      rw [hself]
      exact Keying.filter_chainRemove _ h
    · have hother : (t.remove k).chain i = t.chain i := Function.update_of_ne hi ..
      rw [hother]
  have hcount : (t.remove k).count = t.count := rfl
  unfold values
  rw [List.filter_flatMap, List.filter_flatMap, hcount]
  exact congrArg (fun f => (List.range t.count).flatMap f) (funext hchain)

end

end ChainedTable
