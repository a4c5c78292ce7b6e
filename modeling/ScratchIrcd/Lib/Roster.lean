/-
  File:      ScratchIrcd/Lib/Roster.lean
  Subject:   Who is where: rooms found by name, and a membership kept on both sides.

  A room is an object with a name and a list of members; a person has a list of rooms. Rooms in
  use are found through a map keyed up to an equivalence. Nothing in the data keeps the two lists
  and the map in step: `Sound` says that they are, and every elementary move keeps it
  (`Sound.of_step`). `leave` needs no condition at all, `drop` that the room is empty. A counter of
  the rooms that are found is right after every move (`Counted.of_step`); that somebody is in each of
  them (`Occupied`) is lost by `create` and `leave`, and `enter` and `drop` bring it back.
-/
import ScratchIrcd.Lib.ChainedTable
import Mathlib.Data.Set.Card

/-- Rooms `D` under names `K`, and people `C`. -/
structure Roster (K C D : Type*) where
  find : K → Option D
  name : D → K
  members : D → List C
  rooms : C → List D
  /-- The room objects allocated so far; a freed one is not used again. -/
  used : Set D
  count : Nat

namespace Roster

variable {K C D : Type*} [DecidableEq C] [DecidableEq D] (κ : Keying K) (ok : K → Prop)

/-! ## 1. Moves -/

/-- A new room `d` under the name `k`. -/
def create (r : Roster K C D) (k : K) (d : D) : Roster K C D where
  find k' := if κ.eqv k k' = true then some d else r.find k'
  name := Function.update r.name d k
  members := Function.update r.members d []
  rooms := r.rooms
  used := insert d r.used
  count := r.count + 1

/-- `c` enters `d`. -/
def enter (r : Roster K C D) (c : C) (d : D) : Roster K C D :=
  { r with
    members := Function.update r.members d (c :: r.members d)
    rooms := Function.update r.rooms c (d :: r.rooms c) }

/-- `c` leaves `d`. -/
def leave (r : Roster K C D) (c : C) (d : D) : Roster K C D :=
  { r with
    members := Function.update r.members d ((r.members d).erase c)
    rooms := Function.update r.rooms c ((r.rooms c).erase d) }

/-- The name of `d` no longer leads anywhere. -/
def drop (r : Roster K C D) (d : D) : Roster K C D :=
  { r with
    find := fun k => if κ.eqv (r.name d) k = true then none else r.find k
    count := r.count - 1 }

/-- The elementary moves, each with what it may rely on. -/
inductive Step : Roster K C D → Roster K C D → Prop
  | create {r : Roster K C D} {k : K} {d : D} (hok : ok k) (hnone : r.find k = none) (hnew : d ∉ r.used) :
      Step r (r.create κ k d)
  | enter {r : Roster K C D} {c : C} {d : D} {k : K} (hfind : r.find k = some d)
      (hout : c ∉ r.members d) : Step r (r.enter c d)
  | leave {r : Roster K C D} (c : C) (d : D) : Step r (r.leave c d)
  | drop {r : Roster K C D} {d : D} (hlive : r.find (r.name d) = some d)
      (hempty : r.members d = []) : Step r (r.drop κ d)

/-! ## 2. Soundness -/

/-- The map leads to rooms of the name asked for, names are admissible, people are in rooms that can be found, and both
    sides of every membership agree. -/
structure Sound (r : Roster K C D) : Prop where
  congr : ∀ {a b}, κ.eqv a b = true → r.find a = r.find b
  named : ∀ {k d}, r.find k = some d → κ.eqv (r.name d) k = true
  valid : ∀ {k d}, r.find k = some d → ok (r.name d)
  inUse : ∀ {k d}, r.find k = some d → d ∈ r.used
  live : ∀ {c d}, d ∈ r.rooms c → r.find (r.name d) = some d
  linked : ∀ {k d}, r.find k = some d → ∀ c, d ∈ r.rooms c ↔ c ∈ r.members d
  rooms_nodup : ∀ c, (r.rooms c).Nodup
  members_nodup : ∀ d, (r.members d).Nodup

variable {κ ok} {r : Roster K C D}

omit [DecidableEq C] [DecidableEq D] in
theorem Sound.live_of_find (h : r.Sound κ ok) {k : K} {d : D} (hfind : r.find k = some d) :
    r.find (r.name d) = some d := (h.congr (h.named hfind)).trans hfind

omit [DecidableEq C] in
theorem Sound.create (h : r.Sound κ ok) {k : K} {d : D} (hok : ok k)
    (hnone : r.find k = none) (hnew : d ∉ r.used) : (r.create κ k d).Sound κ ok := by
  -- every room that is found was allocated before `d`
  have old : ∀ {k' d'}, r.find k' = some d' → d' ≠ d :=
    fun hfind heq => hnew (heq ▸ h.inUse hfind)
  refine ⟨?_, ?_, ?_, ?_, ?_, ?_, h.rooms_nodup, ?_⟩
  · intro a b hab
    have hk : κ.eqv k a = κ.eqv k b := by
      rw [κ.eqv_comm k a, κ.eqv_comm k b]; exact κ.eqv_congr hab k
    simp only [Roster.create, hk, h.congr hab]
  · intro k' d' hfind
    simp only [Roster.create] at hfind ⊢
    split at hfind
    · rename_i heq
      cases hfind
      rwa [Function.update_self]
    · rw [Function.update_of_ne (old hfind)]
      exact h.named hfind
  · intro k' d' hfind
    simp only [Roster.create] at hfind ⊢
    split at hfind
    · cases hfind
      rwa [Function.update_self]
    · rw [Function.update_of_ne (old hfind)]
      exact h.valid hfind
  · intro k' d' hfind
    simp only [Roster.create] at hfind ⊢
    split at hfind
    · cases hfind
      exact Set.mem_insert _ _
    · exact Set.mem_insert_of_mem _ (h.inUse hfind)
  · intro c d' hd'
    have hlive := h.live hd'
    simp only [Roster.create, Function.update_of_ne (old hlive)]
    split
    · rename_i heq
      rw [← h.congr heq, hnone] at hlive
      cases hlive
    · exact hlive
  · intro k' d' hfind c
    simp only [Roster.create] at hfind ⊢
    split at hfind
    · cases hfind
      rw [Function.update_self]
      exact ⟨fun hd => absurd (h.inUse (h.live hd)) hnew, fun hc => by cases hc⟩
    · rw [Function.update_of_ne (old hfind)]
      exact h.linked hfind c
  · intro d'
    simp only [Roster.create]
    by_cases hd : d' = d
    · subst hd
      rw [Function.update_self]
      exact List.nodup_nil
    · rw [Function.update_of_ne hd]
      exact h.members_nodup d'

/-- Membership on one side after one entry changed. -/
private theorem mem_update {α β : Type*} [DecidableEq α] (f : α → List β) (a a' : α) (l : List β)
    (b : β) : b ∈ Function.update f a l a' ↔ if a' = a then b ∈ l else b ∈ f a' := by
  by_cases h : a' = a
  · subst h; simp
  · simp [h]

theorem Sound.enter (h : r.Sound κ ok) {c : C} {d : D} {k : K} (hfind : r.find k = some d)
    (hout : c ∉ r.members d) : (r.enter c d).Sound κ ok := by
  have hnot : d ∉ r.rooms c := fun hd => hout ((h.linked hfind c).mp hd)
  refine ⟨h.congr, h.named, h.valid, h.inUse, ?_, ?_, ?_, ?_⟩
  · intro c' d' hd'
    simp only [Roster.enter, mem_update] at hd'
    split at hd'
    · rename_i hc
      rcases List.mem_cons.mp hd' with rfl | hd'
      · exact h.live_of_find hfind
      · exact h.live hd'
    · exact h.live hd'
  · intro k' d' hfind' c'
    simp only [Roster.enter, mem_update]
    have := h.linked hfind' c'
    by_cases hc : c' = c <;> by_cases hd : d' = d <;> simp_all
  · intro c'
    simp only [Roster.enter]
    by_cases hc : c' = c
    · subst hc
      rw [Function.update_self]
      exact List.nodup_cons.mpr ⟨hnot, h.rooms_nodup c'⟩
    · rw [Function.update_of_ne hc]
      exact h.rooms_nodup c'
  · intro d'
    simp only [Roster.enter]
    by_cases hd : d' = d
    · subst hd
      rw [Function.update_self]
      exact List.nodup_cons.mpr ⟨hout, h.members_nodup d'⟩
    · rw [Function.update_of_ne hd]
      exact h.members_nodup d'

theorem Sound.leave (h : r.Sound κ ok) (c : C) (d : D) : (r.leave c d).Sound κ ok := by
  refine ⟨h.congr, h.named, h.valid, h.inUse, ?_, ?_, ?_, ?_⟩
  · intro c' d' hd'
    simp only [Roster.leave, mem_update] at hd'
    split at hd'
    · exact h.live (List.mem_of_mem_erase hd')
    · exact h.live hd'
  · intro k' d' hfind' c'
    simp only [Roster.leave, mem_update]
    have := h.linked hfind' c'
    by_cases hc : c' = c <;> by_cases hd : d' = d <;>
      simp_all [(h.rooms_nodup c).mem_erase_iff, (h.members_nodup d).mem_erase_iff]
  · intro c'
    simp only [Roster.leave]
    by_cases hc : c' = c
    · subst hc
      rw [Function.update_self]
      exact (h.rooms_nodup c').erase d
    · rw [Function.update_of_ne hc]
      exact h.rooms_nodup c'
  · intro d'
    simp only [Roster.leave]
    by_cases hd : d' = d
    · subst hd
      rw [Function.update_self]
      exact (h.members_nodup d').erase c
    · rw [Function.update_of_ne hd]
      exact h.members_nodup d'

omit [DecidableEq C] [DecidableEq D] in
theorem Sound.drop (h : r.Sound κ ok) {d : D} (hlive : r.find (r.name d) = some d)
    (hempty : r.members d = []) : (r.drop κ d).Sound κ ok := by
  have hfind : ∀ {k d'}, (r.drop κ d).find k = some d' → r.find k = some d' := by
    intro k d' hk
    simp only [Roster.drop] at hk
    split at hk
    · cases hk
    · exact hk
  refine ⟨?_, fun hk => h.named (hfind hk), fun hk => h.valid (hfind hk),
    fun hk => h.inUse (hfind hk), ?_, fun hk => h.linked (hfind hk), h.rooms_nodup,
    h.members_nodup⟩
  · intro a b hab
    have hk : κ.eqv (r.name d) a = κ.eqv (r.name d) b := by
      rw [κ.eqv_comm _ a, κ.eqv_comm _ b]; exact κ.eqv_congr hab _
    simp only [Roster.drop, hk, h.congr hab]
  · intro c d' hd'
    have hlive' := h.live hd'
    simp only [Roster.drop]
    split
    · -- the name dropped is the name of `d'`, so `d'` is `d`, where nobody is
      rename_i heq
      rw [← h.congr heq, hlive] at hlive'
      cases hlive'
      have := (h.linked hlive c).mp hd'
      rw [hempty] at this
      cases this
    · exact hlive'

/-- **Every move keeps a roster sound.** -/
theorem Sound.of_step {r' : Roster K C D} (h : r.Sound κ ok) (hstep : Step κ ok r r') : r'.Sound κ ok := by
  cases hstep with
  | create hok hnone hnew => exact h.create hok hnone hnew
  | enter hfind hout => exact h.enter hfind hout
  | leave c d => exact h.leave c d
  | drop hlive hempty => exact h.drop hlive hempty

theorem leave_enter (r : Roster K C D) (c : C) (d : D) : (r.enter c d).leave c d = r := by
  simp [enter, leave]

/-! ## 3. How many rooms there are -/

/-- The rooms that are found. -/
def stored (r : Roster K C D) : Set D := { d | ∃ k, r.find k = some d }

/-- The counter is the number of rooms that are found. -/
def Counted (r : Roster K C D) : Prop := r.stored.Finite ∧ r.count = r.stored.ncard

omit [DecidableEq C] in
theorem stored_create (h : r.Sound κ ok) {k : K} (d : D) (hnone : r.find k = none) :
    (r.create κ k d).stored = insert d r.stored := by
  ext d'
  constructor
  · rintro ⟨k', hk'⟩
    simp only [create] at hk'
    split at hk'
    · cases hk'
      exact Set.mem_insert _ _
    · exact Set.mem_insert_of_mem _ ⟨k', hk'⟩
  · rintro (rfl | ⟨k', hk'⟩)
    · exact ⟨k, if_pos (κ.refl k)⟩
    · refine ⟨k', (if_neg fun heq => ?_).trans hk'⟩
      rw [← h.congr heq, hnone] at hk'
      cases hk'

omit [DecidableEq C] [DecidableEq D] in
theorem stored_drop (h : r.Sound κ ok) {d : D} (hlive : r.find (r.name d) = some d) :
    (r.drop κ d).stored = r.stored \ {d} := by
  ext d'
  constructor
  · rintro ⟨k, hk⟩
    simp only [drop] at hk
    split at hk
    · cases hk
    · rename_i hne
      exact ⟨⟨k, hk⟩, fun heq => hne (h.named (heq ▸ hk))⟩
  · rintro ⟨⟨k, hk⟩, hne⟩
    refine ⟨k, (if_neg fun heq => hne ?_).trans hk⟩
    rw [← h.congr heq, hlive] at hk
    exact (Option.some_inj.mp hk).symm

/-- **Every move keeps the counter right.** -/
theorem Counted.of_step {r' : Roster K C D} (hc : r.Counted) (h : r.Sound κ ok)
    (hstep : Step κ ok r r') : r'.Counted := by
  obtain ⟨hfin, hcount⟩ := hc
  cases hstep with
  | create _ hnone hnew =>
    have hout : _ ∉ r.stored := fun ⟨_, hk⟩ => hnew (h.inUse hk)
    rw [Counted, stored_create h _ hnone, Set.ncard_insert_of_notMem hout hfin, ← hcount]
    exact ⟨hfin.insert _, rfl⟩
  | enter | leave => exact ⟨hfin, hcount⟩
  | drop hlive _ =>
    have hin : _ ∈ r.stored := ⟨_, hlive⟩
    rw [Counted, stored_drop h hlive, Set.ncard_sdiff_singleton_of_mem hin, ← hcount]
    exact ⟨hfin.sdiff, rfl⟩

/-! ## 4. Rooms with somebody in them -/

/-- Somebody is in every room that is found. -/
def Occupied (r : Roster K C D) : Prop := ∀ ⦃k d⦄, r.find k = some d → r.members d ≠ []

/-- The same, apart from one room. -/
def OccupiedBut (d : D) (r : Roster K C D) : Prop :=
  ∀ ⦃k d'⦄, r.find k = some d' → d' ≠ d → r.members d' ≠ []

omit [DecidableEq C] [DecidableEq D] in
theorem OccupiedBut.occupied {d : D} (h : r.OccupiedBut d) (hd : r.members d ≠ []) : r.Occupied := by
  intro k d' hk
  by_cases heq : d' = d
  · rwa [heq]
  · exact h hk heq

omit [DecidableEq C] in
theorem Occupied.create (h : r.Occupied) (k : K) (d : D) : (r.create κ k d).OccupiedBut d := by
  intro k' d' hk' hne
  simp only [Roster.create, Function.update_of_ne hne] at hk' ⊢
  split at hk'
  · exact absurd (Option.some_inj.mp hk').symm hne
  · exact h hk'

theorem OccupiedBut.enter {d : D} (h : r.OccupiedBut d) (c : C) : (r.enter c d).Occupied := by
  refine occupied (d := d) (fun k d' hk hne => ?_) (by simp [Roster.enter])
  simp only [Roster.enter, Function.update_of_ne hne]
  exact h hk hne

theorem Occupied.leave (h : r.Occupied) (c : C) (d : D) : (r.leave c d).OccupiedBut d := by
  intro k d' hk hne
  simp only [Roster.leave, Function.update_of_ne hne]
  exact h hk

omit [DecidableEq C] [DecidableEq D] in
theorem OccupiedBut.drop {d : D} (h : r.OccupiedBut d) (hs : r.Sound κ ok) : (r.drop κ d).Occupied := by
  intro k d' hk
  simp only [Roster.drop] at hk
  split at hk
  · cases hk
  · rename_i hne
    exact h hk fun heq => hne (hs.named (heq ▸ hk))

omit [DecidableEq C] [DecidableEq D] in
/-- Then the rooms that are found are those that somebody has on the list. -/
theorem Occupied.stored_eq (h : r.Occupied) (hs : r.Sound κ ok) : r.stored = { d | ∃ c, d ∈ r.rooms c } := by
  ext d
  constructor
  · rintro ⟨k, hk⟩
    obtain ⟨c, hc⟩ := List.exists_mem_of_ne_nil _ (h hk)
    exact ⟨c, (hs.linked hk c).mpr hc⟩
  · rintro ⟨c, hd⟩
    exact ⟨_, hs.live hd⟩

end Roster
