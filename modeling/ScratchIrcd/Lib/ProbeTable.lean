/-
  File:      ScratchIrcd/Lib/ProbeTable.lean
  Subject:   Open addressing with linear probing, for a table that only grows.

  A slot is free or holds a value, and a value knows its key. The search for a key starts at its home
  slot and stops at the first slot that is free or has the key. `Holds` relates the slots to the map
  they stand for; while a slot is free the search ends, a lookup finds what the map has (`Holds.lookup`)
  and writing to the slot where the search stopped updates the map at that key only (`Holds.insert`).
-/
import Mathlib.Data.Finset.Card
import Mathlib.Data.Nat.Find
import Mathlib.Logic.Function.Basic

/-- The fixed part of a table: its size, where a key belongs, the key of a value. -/
structure ProbeTable (K V : Type*) where
  size : Nat
  home : K → Nat
  home_lt : ∀ k, home k < size
  keyOf : V → K

namespace ProbeTable

variable {K V : Type*} (T : ProbeTable K V) (slots : Nat → Option V)

/-- The search from a slot on; `none` if it does not end within the given steps. -/
def probeFrom [DecidableEq K] (k : K) : Nat → Nat → Option Nat
  | 0, _ => none
  | fuel + 1, slot =>
      match slots slot with
      | none => some slot
      | some v => if T.keyOf v = k then some slot else probeFrom k fuel ((slot + 1) % T.size)

/-- After `size` steps the search has seen every slot. -/
def probe [DecidableEq K] (k : K) : Option Nat := T.probeFrom slots k T.size (T.home k)

/-- The search for the key ends at the slot. -/
def Stops (k : K) (slot : Nat) : Prop := ∀ v, slots slot = some v → T.keyOf v = k

/-- The slot of the given step of the search. -/
def position (k : K) (step : Nat) : Nat := (T.home k + step) % T.size

/-- The search for the key gets to the slot, and ends there if it ends at all. -/
def Reaches (k : K) (slot : Nat) : Prop :=
  ∃ steps < T.size, slot = T.position k steps ∧ ∀ i < steps, ¬ T.Stops slots k (T.position k i)

def occupied : Finset Nat := {slot ∈ Finset.range T.size | (slots slot).isSome}

/-- The slots hold the values of the map, each where the search for its key ends, in at most `count` slots. -/
structure Holds (m : K → Option V) (count : Nat) : Prop where
  placed : ∀ slot < T.size, ∀ v, slots slot = some v → T.Reaches slots (T.keyOf v) slot
  sound : ∀ slot < T.size, ∀ v, slots slot = some v → m (T.keyOf v) = some v
  complete : ∀ k v, m k = some v → T.keyOf v = k ∧ ∃ slot < T.size, slots slot = some v
  card_le : (T.occupied slots).card ≤ count

variable {T slots} {k : K} {slot : Nat} {v : V} {m : K → Option V} {count : Nat}

theorem position_lt (k : K) (step : Nat) : T.position k step < T.size :=
  Nat.mod_lt _ (Nat.zero_lt_of_lt (T.home_lt k))

/-- Every slot is some step of every search. -/
theorem exists_position (k : K) (h : slot < T.size) : ∃ step < T.size, T.position k step = slot := by
  have hhome := T.home_lt k
  refine ⟨(slot + (T.size - T.home k)) % T.size, Nat.mod_lt _ (Nat.zero_lt_of_lt h), ?_⟩
  have hround : T.home k + (slot + (T.size - T.home k)) = slot + T.size := by omega
  rw [position, Nat.add_mod_mod, hround, Nat.add_mod_right, Nat.mod_eq_of_lt h]

/-- With a free slot the search ends. -/
theorem exists_probe (hfree : ∃ slot < T.size, slots slot = none) (k : K) :
    ∃ slot < T.size, T.Reaches slots k slot ∧ T.Stops slots k slot := by
  classical
  obtain ⟨free, hlt, hnone⟩ := hfree
  obtain ⟨last, hlast, rfl⟩ := exists_position k hlt
  have hstops : ∃ step, T.Stops slots k (T.position k step) :=
    ⟨last, fun v hv => by rw [hnone] at hv; cases hv⟩
  have hfirst : Nat.find hstops ≤ last := Nat.find_min' hstops fun v hv => by rw [hnone] at hv; cases hv
  exact ⟨_, position_lt k _, ⟨Nat.find hstops, Nat.lt_of_le_of_lt hfirst hlast, rfl, fun i hi => Nat.find_min hstops hi⟩,
    Nat.find_spec hstops⟩

theorem Holds.exists_free (h : T.Holds slots m count) (hcount : count < T.size) :
    ∃ slot < T.size, slots slot = none := by
  by_contra hfull
  have hall : T.occupied slots = Finset.range T.size := by
    refine Finset.filter_true_of_mem fun slot hslot => ?_
    rw [← Option.ne_none_iff_isSome]
    exact fun hnone => hfull ⟨slot, Finset.mem_range.mp hslot, hnone⟩
  have hcard := h.card_le
  rw [hall, Finset.card_range] at hcard
  exact absurd hcard (Nat.not_le.mpr hcount)

theorem holds_empty : T.Holds (fun _ => none) (fun _ => none) 0 where
  placed := fun _ _ _ h => absurd h.symm (Option.some_ne_none _)
  sound := fun _ _ _ h => absurd h.symm (Option.some_ne_none _)
  complete := fun _ _ h => absurd h.symm (Option.some_ne_none _)
  card_le := by simp [occupied]

/-- Writing where the search stopped leaves every other search going on where it went on. -/
theorem not_stops_update {p : Nat} (hgoes : ¬ T.Stops slots k p) (hother : p = slot → k ≠ T.keyOf v) :
    ¬ T.Stops (Function.update slots slot (some v)) k p := by
  intro hstops
  by_cases hp : p = slot
  · exact hother hp (hstops v (by rw [hp, Function.update_self])).symm
  · exact hgoes fun v' hv' => hstops v' (by rw [Function.update_of_ne hp, hv'])

variable [DecidableEq K]

/-- The search takes the steps that do not stop it and returns the slot that does. -/
theorem probeFrom_eq {start steps fuel : Nat} (hstart : start < T.size) (hfuel : steps < fuel)
    (hpath : ∀ i < steps, ¬ T.Stops slots k ((start + i) % T.size))
    (hstop : T.Stops slots k ((start + steps) % T.size)) :
    T.probeFrom slots k fuel start = some ((start + steps) % T.size) := by
  induction steps generalizing start fuel with
  | zero =>
    obtain ⟨fuel, rfl⟩ := Nat.exists_eq_add_one.mpr hfuel
    have hhere : (start + 0) % T.size = start := Nat.mod_eq_of_lt hstart
    rw [hhere] at hstop ⊢
    unfold probeFrom
    cases hv : slots start with
    | none => rfl
    | some v => exact if_pos (hstop v hv)
  | succ steps ih =>
    obtain ⟨fuel, rfl⟩ := Nat.exists_eq_add_one.mpr (Nat.zero_lt_of_lt hfuel)
    have hhere := hpath 0 (Nat.succ_pos steps)
    rw [Nat.add_zero, Nat.mod_eq_of_lt hstart] at hhere
    have hnext (i : Nat) : ((start + 1) % T.size + i) % T.size = (start + (i + 1)) % T.size := by
      rw [Nat.mod_add_mod, Nat.add_assoc, Nat.add_comm 1 i]
    unfold probeFrom
    cases hv : slots start with
    | none => exact absurd (fun v hv' => by rw [hv] at hv'; cases hv') hhere
    | some v =>
      have hkey : T.keyOf v ≠ k := by
        intro hkey
        refine hhere fun v' hv' => ?_
        obtain rfl := Option.some.inj (hv.symm.trans hv')
        exact hkey
      dsimp only
      rw [if_neg hkey, ih (Nat.mod_lt _ (Nat.zero_lt_of_lt hstart)) (Nat.lt_of_succ_lt_succ hfuel), hnext]
      · intro i hi
        rw [hnext]
        exact hpath (i + 1) (Nat.succ_lt_succ hi)
      · rwa [hnext]

theorem probe_eq (hreach : T.Reaches slots k slot) (hstop : T.Stops slots k slot) :
    T.probe slots k = some slot := by
  obtain ⟨steps, hsteps, rfl, hpath⟩ := hreach
  exact probeFrom_eq (T.home_lt k) hsteps hpath hstop

/-- **Lookup**: the search for a key of the map ends at its value. -/
theorem Holds.lookup (h : T.Holds slots m count) (hm : m k = some v) :
    ∃ slot, T.probe slots k = some slot ∧ slots slot = some v := by
  obtain ⟨rfl, slot, hslot, hv⟩ := h.complete k v hm
  refine ⟨slot, probe_eq (h.placed slot hslot v hv) fun v' hv' => ?_, hv⟩
  rw [Option.some.inj (hv'.symm.trans hv)]

section Insert

variable (hreach : T.Reaches slots (T.keyOf v) slot) (hstop : T.Stops slots (T.keyOf v) slot)

include hreach hstop

theorem Holds.insert_slot (h : T.Holds slots m count) (hslot : slot < T.size) :
    T.Holds (Function.update slots slot (some v)) (Function.update m (T.keyOf v) (some v)) (count + 1) where
  placed := by
    intro slot' hslot' v' hv'
    by_cases heq : slot' = slot
    · subst heq
      rw [Function.update_self] at hv'
      obtain rfl := Option.some.inj hv'
      obtain ⟨steps, hsteps, hpos, hpath⟩ := hreach
      refine ⟨steps, hsteps, hpos, fun i hi => not_stops_update (hpath i hi) fun hp => ?_⟩
      exact absurd (hp ▸ hstop) (hpath i hi)
    · rw [Function.update_of_ne heq] at hv'
      obtain ⟨steps, hsteps, hpos, hpath⟩ := h.placed slot' hslot' v' hv'
      refine ⟨steps, hsteps, hpos, fun i hi => not_stops_update (hpath i hi) fun hp hkey => ?_⟩
      -- the slot written to would have stopped the search for its own key
      refine hpath i hi ?_
      rw [hp, hkey]
      exact hstop
  sound := by
    intro slot' hslot' v' hv'
    by_cases heq : slot' = slot
    · rw [heq, Function.update_self] at hv'
      rw [← Option.some.inj hv', Function.update_self]
    · rw [Function.update_of_ne heq] at hv'
      rw [Function.update_of_ne, h.sound slot' hslot' v' hv']
      intro hkey
      have hfound := probe_eq (h.placed slot' hslot' v' hv') fun v'' hv'' => by
        rw [Option.some.inj (hv''.symm.trans hv')]
      rw [hkey, probe_eq hreach hstop] at hfound
      exact heq (Option.some.inj hfound).symm
  complete := by
    intro k v' hm
    by_cases hkey : k = T.keyOf v
    · rw [hkey, Function.update_self] at hm
      obtain rfl := Option.some.inj hm
      exact ⟨hkey.symm, slot, hslot, Function.update_self ..⟩
    · rw [Function.update_of_ne hkey] at hm
      obtain ⟨rfl, slot', hslot', hv'⟩ := h.complete k v' hm
      refine ⟨rfl, slot', hslot', ?_⟩
      rw [Function.update_of_ne, hv']
      rintro rfl
      exact hkey (hstop v' hv')
  card_le := by
    have hsub : T.occupied (Function.update slots slot (some v)) ⊆ insert slot (T.occupied slots) := by
      intro slot' hslot'
      rw [occupied, Finset.mem_filter] at hslot'
      by_cases heq : slot' = slot
      · exact Finset.mem_insert.mpr (.inl heq)
      · rw [Function.update_of_ne heq] at hslot'
        exact Finset.mem_insert_of_mem (Finset.mem_filter.mpr hslot')
    exact (Finset.card_le_card hsub).trans ((Finset.card_insert_le _ _).trans (Nat.succ_le_succ h.card_le))

end Insert

/-- **Insertion**: while fewer than `size` values went in, the search ends at a slot where the next goes. -/
theorem Holds.insert (h : T.Holds slots m count) (hcount : count < T.size) (v : V) :
    ∃ slot, T.probe slots (T.keyOf v) = some slot ∧
      T.Holds (Function.update slots slot (some v)) (Function.update m (T.keyOf v) (some v)) (count + 1) := by
  obtain ⟨slot, hslot, hreach, hstop⟩ := exists_probe (h.exists_free hcount) (T.keyOf v)
  exact ⟨slot, probe_eq hreach hstop, h.insert_slot hreach hstop hslot⟩

end ProbeTable
