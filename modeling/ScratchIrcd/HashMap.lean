/-
  File:      ScratchIrcd/HashMap.lean
  Subject:   The hash table (src/hash.c) is a finite map on folded keys.

  `hash_ci` and `key_equal_ci` fold a key by `irc_fold`, one while it hashes and one while it
  compares; that they fold alike is a field of `ircKeys` (Names.lean). Here whole sequences of calls
  on a table are compared with the same calls on a finite map whose keys are folded texts.
-/
import ScratchIrcd.Names
import ScratchIrcd.Lib.Runs
import Mathlib.Data.Finmap

namespace ScratchIrcd

open CText

/-! ## 1. Calls -/

inductive HashCall (V : Type) where
  | set (key : Text) (value : V)
  | remove (key : Text)
  | get (key : Text)

/-- What a call returns: 0, or a value or NULL. -/
inductive HashAnswer (V : Type) where
  | done
  | value (v : Option V)

variable {V : Type}

/-- The loop of `hash_remove` on its chain: the value of the entry it unlinks, and what is left. -/
def hashUnlink (key : Text) : List (Text × V) → Option V × List (Text × V)
  | [] => (none, [])
  | e :: l =>
      if nameEq e.1 key then (some e.2, l)
      else ((hashUnlink key l).1, e :: (hashUnlink key l).2)

theorem hashUnlink_eq (key : Text) (l : List (Text × V)) :
    hashUnlink key l = (ircKeys.chainGet key l, ircKeys.chainRemove key l) := by
  induction l with
  | nil => rfl
  | cons e l ih =>
    rw [hashUnlink, Keying.chainGet, Keying.chainRemove, ircKeys_eqv, ih]
    split <;> rfl

/-- `hash_set`, `hash_remove` and `hash_get`, with memory to be had. -/
def HashTable.call (t : HashTable V) : HashCall V → HashAnswer V × HashTable V
  | .set key value => (.done, t.set key value)
  | .remove key => (.value (hashUnlink key (t.chain (t.index key))).1, t.remove key)
  | .get key => (.value (t.get key), t)

/-- A finite map whose keys are names after folding. -/
abbrev FoldedMap (V : Type) := Finmap fun _ : Text => V

/-- The name that stands for all names equal to this one. -/
def foldName (key : Text) : Text := key.map ircFold

def FoldedMap.call (m : FoldedMap V) : HashCall V → HashAnswer V × FoldedMap V
  | .set key value => (.done, m.insert (foldName key) value)
  | .remove key => (.value (m.lookup (foldName key)), m.erase (foldName key))
  | .get key => (.value (m.lookup (foldName key)), m)

/-- What a sequence of calls returns, call by call. -/
def answers {σ : Type} (call : σ → HashCall V → HashAnswer V × σ) : σ → List (HashCall V) →
    List (HashAnswer V)
  | _, [] => []
  | s, c :: cs => (call s c).1 :: answers call (call s c).2 cs

/-! ## 2. The table refines the map -/

theorem nameEq_iff_foldName {a b : Text} : nameEq a b = true ↔ foldName a = foldName b := foldEq_iff

/-- Looking a name up in the table is looking the folded name up in the map. -/
def Represents (t : HashTable V) (m : FoldedMap V) : Prop :=
  ∀ key, t.get key = m.lookup (foldName key)

/-- **One call.** The answers agree, and table and map still do. -/
theorem Represents.call {t : HashTable V} {m : FoldedMap V} (h : Represents t m) (c : HashCall V) :
    (t.call c).1 = (FoldedMap.call m c).1 ∧ Represents (t.call c).2 (FoldedMap.call m c).2 := by
  cases c with
  | get key => exact ⟨congrArg HashAnswer.value (h key), h⟩
  | set key value =>
    refine ⟨rfl, fun key' => ?_⟩
    show (ChainedTable.set t key value).get key' = (m.insert (foldName key) value).lookup (foldName key')
    rw [ChainedTable.get_set, ircKeys_eqv]
    by_cases heq : foldName key = foldName key'
    · rw [if_pos (nameEq_iff_foldName.mpr heq), ← heq, Finmap.lookup_insert]
    · rw [if_neg fun hk => heq (nameEq_iff_foldName.mp hk),
        Finmap.lookup_insert_of_ne _ (Ne.symm heq)]
      exact h key'
  | remove key =>
    refine ⟨?_, fun key' => ?_⟩
    · show HashAnswer.value (hashUnlink key _).1 = _
      rw [hashUnlink_eq]
      exact congrArg HashAnswer.value (h key)
    · show (ChainedTable.remove t key).get key' = (m.erase (foldName key)).lookup (foldName key')
      rw [ChainedTable.get_remove, ircKeys_eqv]
      by_cases heq : foldName key = foldName key'
      · rw [if_pos (nameEq_iff_foldName.mpr heq), ← heq, Finmap.lookup_erase]
      · rw [if_neg fun hk => heq (nameEq_iff_foldName.mp hk), Finmap.lookup_erase_ne (Ne.symm heq)]
        exact h key'

theorem Represents.answers {t : HashTable V} {m : FoldedMap V} (h : Represents t m)
    (calls : List (HashCall V)) :
    ScratchIrcd.answers HashTable.call t calls = ScratchIrcd.answers FoldedMap.call m calls := by
  induction calls generalizing t m with
  | nil => rfl
  | cons c cs ih =>
    obtain ⟨hanswer, hnext⟩ := h.call c
    rw [ScratchIrcd.answers, ScratchIrcd.answers, hanswer, ih hnext]

/-- A table of `hash_init` after some calls. -/
def hashAfter (count : Nat) (pos : 0 < count) (calls : List (HashCall V)) : HashTable V :=
  Runs.exec (fun t c => (HashTable.call t c).2) (ChainedTable.empty count pos) calls

theorem count_hashAfter (count : Nat) (pos : 0 < count) (calls : List (HashCall V)) :
    (hashAfter count pos calls).count = count := by
  refine List.foldlRecOn (motive := fun t : HashTable V => t.count = count) calls _ rfl ?_
  intro t ht c _
  cases c <;> exact ht

theorem ircFold_ircFold (c : Char) : ircFold (ircFold c) = ircFold c := by
  by_cases hc : 'A' ≤ c ∧ c ≤ 'Z'
  · have h1 : 65 ≤ c.toNat := hc.1
    have h2 : c.toNat ≤ 90 := hc.2
    rw [← Char.ofNat_toNat c]
    generalize c.toNat = n at h1 h2
    interval_cases n <;> rfl
  · unfold ircFold
    rw [if_neg hc]
    split_ifs <;> first | rfl | contradiction

/-- A name and its folded name have one chain. -/
theorem hashCi_foldName (key : Text) : hashCi (foldName key) = hashCi key := by
  refine hashCi_congr (nameEq_iff_foldName.mpr ?_)
  rw [foldName, foldName, List.map_map]
  exact List.map_congr_left fun c _ => ircFold_ircFold c

/-- **The table is a finite map modulo folding.** From a fresh table with any number of chains, any
    sequence of calls is answered as by the map; no chain ever holds two entries of equal names, and
    every entry is in the chain of its folded name. -/
theorem hash_refines_map (count : Nat) (pos : 0 < count) (calls : List (HashCall V)) :
    answers HashTable.call (ChainedTable.empty count pos) calls = answers FoldedMap.call ∅ calls ∧
      (∀ i, ((hashAfter count pos calls).chain i).Pairwise fun a b => foldName a.1 ≠ foldName b.1) ∧
      ∀ i, ∀ e ∈ (hashAfter count pos calls).chain i, i = hashCi (foldName e.1) % count := by
  have hstart : Represents (ChainedTable.empty count pos : HashTable V) ∅ := by
    intro key
    rw [ChainedTable.get_empty, Finmap.lookup_empty]
  refine ⟨hstart.answers calls, fun i => ?_, fun i e he => ?_⟩
  · refine List.Pairwise.imp (fun hne heq => ?_) ((hashAfter count pos calls).unique i)
    rw [ircKeys_eqv, nameEq_iff_foldName.mpr heq] at hne
    cases hne
  · have hplaced := (hashAfter count pos calls).placed i e he
    rw [count_hashAfter] at hplaced
    rw [hashCi_foldName]
    exact hplaced.symm

/-- One chain for two names, one of them spelled in two ways. -/
theorem hash_refines_map_one_chain :
    0 < 1 ∧ answers HashTable.call (ChainedTable.empty 1 (by decide) : HashTable Nat)
        [.set "Ann[".toList 1, .set "bob".toList 2, .set "aNN\x7b".toList 3, .remove "BOB".toList] =
      answers FoldedMap.call ∅
        [.set "Ann[".toList 1, .set "bob".toList 2, .set "aNN\x7b".toList 3, .remove "BOB".toList] :=
  ⟨by decide, (hash_refines_map 1 (by decide) _).1⟩

end ScratchIrcd
