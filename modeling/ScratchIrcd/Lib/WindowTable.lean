/-
  File:      ScratchIrcd/Lib/WindowTable.lean
  Subject:   A table of slots that count per key within a window of time.

  One pass looks for the slot of a key and remembers the first slot that is free: empty, or with a
  window that is over. The first time a slot is used in a window its count starts again. The start 0
  stands for "never", so a clock that reads 0 opens no window.

  * `find` -- the pass, and `find_cases`, all it can do;
  * `request` -- ask for one unit under a limit;
  * `Accounts` -- every slot counts what was recorded for its key since its window began.
-/
import Mathlib.Data.Fin.Basic
import Mathlib.Data.List.FinRange
import Mathlib.Logic.Function.Basic

structure WindowSlot (κ : Type) where
  owner : Option κ := none
  start : Nat := 0
  count : Nat := 0
  deriving DecidableEq

namespace WindowTable

variable {κ : Type} [DecidableEq κ] {n : Nat}

/-- The window that began at `start` is over. -/
def windowOver (start now window : Nat) : Bool :=
  start == 0 || decide (now < start) || decide (window ≤ now - start)

def free (slot : WindowSlot κ) (now window : Nat) : Bool :=
  slot.owner.isNone || windowOver slot.start now window

/-- The pass: the slot of the key ends it; `found` is the first free slot so far. -/
def scan (slots : Fin n → WindowSlot κ) (key : κ) (now window : Nat) :
    Option (Fin n) → List (Fin n) → Bool × Option (Fin n)
  | found, [] => (false, found)
  | found, i :: rest =>
      if (slots i).owner = some key then (true, some i)
      else scan slots key now window
        (if found.isNone && free (slots i) now window then some i else found) rest

/-- The slot for the key, and the table with that slot brought up to date. -/
def find (slots : Fin n → WindowSlot κ) (key : κ) (now window : Nat) :
    Option (Fin n) × (Fin n → WindowSlot κ) :=
  match scan slots key now window none (List.finRange n) with
  | (true, some i) =>
      (some i, if windowOver (slots i).start now window then
        Function.update slots i { slots i with start := now, count := 0 } else slots)
  | (false, some i) => (some i, Function.update slots i { owner := some key, start := now })
  | (_, none) => (none, slots)

/-- May the key have one more? `record` counts it. -/
def request (slots : Fin n → WindowSlot κ) (key : κ) (now window limit : Nat) (record : Bool) :
    Bool × (Fin n → WindowSlot κ) :=
  match find slots key now window with
  | (none, slots) => (false, slots)
  | (some i, slots) =>
      if limit ≤ (slots i).count then (false, slots)
      else (true, if record then
        Function.update slots i { slots i with count := (slots i).count + 1 } else slots)

/-! ## 1. All the pass can do -/

variable {slots : Fin n → WindowSlot κ} {key : κ} {now window : Nat}

theorem scan_true {found : Option (Fin n)} {order : List (Fin n)} {i : Option (Fin n)}
    (h : scan slots key now window found order = (true, i)) : ∃ j, i = some j ∧ (slots j).owner = some key := by
  induction order generalizing found with
  | nil => cases h
  | cons j rest ih =>
    unfold scan at h
    split at h
    · rename_i howner
      exact ⟨j, (Prod.mk.inj h).2.symm, howner⟩
    · exact ih h

theorem scan_false {found : Option (Fin n)} {order : List (Fin n)} {i : Option (Fin n)}
    (hfound : ∀ j, found = some j → free (slots j) now window = true)
    (h : scan slots key now window found order = (false, i)) :
    (∀ j ∈ order, (slots j).owner ≠ some key) ∧ ∀ j, i = some j → free (slots j) now window = true := by
  induction order generalizing found with
  | nil =>
    obtain ⟨-, rfl⟩ := Prod.mk.inj h
    exact ⟨fun j hj => absurd hj List.not_mem_nil, hfound⟩
  | cons j rest ih =>
    unfold scan at h
    split at h
    · cases h
    rename_i howner
    obtain ⟨hrest, hfree⟩ := ih (fun k hk => by
      split at hk
      · rename_i hj
        obtain rfl := Option.some.inj hk
        exact (Bool.and_eq_true _ _ ▸ hj).2
      · exact hfound k hk) h
    exact ⟨List.forall_mem_cons.mpr ⟨howner, hrest⟩, hfree⟩

/-- The slot of the key, a free slot for a key that has none, or no room. -/
theorem find_cases (slots : Fin n → WindowSlot κ) (key : κ) (now window : Nat) :
    (∃ i, (slots i).owner = some key ∧ windowOver (slots i).start now window = false ∧
      find slots key now window = (some i, slots)) ∨
    (∃ i, (slots i).owner = some key ∧ windowOver (slots i).start now window = true ∧
      find slots key now window = (some i, Function.update slots i { slots i with start := now, count := 0 })) ∨
    (∃ i, free (slots i) now window = true ∧ (∀ j, (slots j).owner ≠ some key) ∧
      find slots key now window = (some i, Function.update slots i { owner := some key, start := now })) ∨
    find slots key now window = (none, slots) := by
  unfold find
  cases hscan : scan slots key now window none (List.finRange n) with
  | mk matched i =>
    cases matched with
    | true =>
      obtain ⟨i, rfl, howner⟩ := scan_true hscan
      by_cases hover : windowOver (slots i).start now window = true
      · refine .inr (.inl ⟨i, howner, hover, ?_⟩)
        dsimp only
        rw [if_pos hover]
      · refine .inl ⟨i, howner, Bool.eq_false_of_not_eq_true hover, ?_⟩
        dsimp only
        rw [if_neg hover]
    | false =>
      have hstart : ∀ j, (none : Option (Fin n)) = some j → free (slots j) now window = true := nofun
      obtain ⟨hnone, hfree⟩ := scan_false hstart hscan
      cases i with
      | none => exact .inr (.inr (.inr rfl))
      | some i =>
        exact .inr (.inr (.inl ⟨i, hfree i rfl, fun j => hnone j (List.mem_finRange j), rfl⟩))

/-! ## 2. Every slot counts its window -/

/-- `log` holds the key and the time of everything recorded up to `clock`. -/
structure Accounts (window limit clock : Nat) (slots : Fin n → WindowSlot κ) (log : List (κ × Nat)) : Prop where
  once : ∀ i j key, (slots i).owner = some key → (slots j).owner = some key → i = j
  started : ∀ i key, (slots i).owner = some key → 0 < (slots i).start ∧ (slots i).start ≤ clock
  counted : ∀ i key, (slots i).owner = some key →
    (slots i).count = log.countP fun e => decide (e.1 = key ∧ (slots i).start ≤ e.2)
  bounded : ∀ i, (slots i).count ≤ limit
  recent : ∀ i, ∀ e ∈ log, (slots i).owner = some e.1 → e.2 < (slots i).start + window
  gone : ∀ e ∈ log, (∀ i, (slots i).owner ≠ some e.1) → e.2 < clock
  past : ∀ e ∈ log, e.2 ≤ clock

variable {limit clock : Nat} {log : List (κ × Nat)}

theorem accounts_empty (window limit clock : Nat) :
    Accounts window limit clock (fun _ : Fin n => ({} : WindowSlot κ)) [] where
  once _ _ _ h := nomatch h
  started _ _ h := nomatch h
  counted _ _ h := nomatch h
  bounded _ := Nat.zero_le _
  recent _ _ h := absurd h List.not_mem_nil
  gone _ h := absurd h List.not_mem_nil
  past _ h := absurd h List.not_mem_nil

namespace Accounts

section

variable (h : Accounts window limit clock slots log) (hclock : clock ≤ now)
include h hclock

theorem later :
    Accounts window limit now slots log where
  once := h.once
  started i key howner := ⟨(h.started i key howner).1, (h.started i key howner).2.trans hclock⟩
  counted := h.counted
  bounded := h.bounded
  recent := h.recent
  gone e he hnone := Nat.lt_of_lt_of_le (h.gone e he hnone) hclock
  past e he := (h.past e he).trans hclock

/-- A window that is over lies before now, with all that was recorded for its owner. -/
theorem before_of_over {i : Fin n} (hover : windowOver (slots i).start now window = true)
    {e : κ × Nat} (he : e ∈ log) (howner : (slots i).owner = some e.1) : e.2 < now := by
  have hrecent := h.recent i e he howner
  obtain ⟨hstart, hle⟩ := h.started i e.1 howner
  simp only [windowOver, Bool.or_eq_true, beq_iff_eq, decide_eq_true_eq] at hover
  omega

/-- A window begins: nothing was recorded for the key from now on, and the slot's last owner has
    nothing to remember. -/
theorem restart (hnow : 0 < now) (hwindow : 0 < window) {i : Fin n}
    (hothers : ∀ j, j ≠ i → (slots j).owner ≠ some key) (hkey : ∀ e ∈ log, e.1 = key → e.2 < now)
    (hlast : ∀ e ∈ log, (slots i).owner = some e.1 → e.2 < now) :
    Accounts window limit now (Function.update slots i { owner := some key, start := now }) log where
  once j k key' hj hk := by
    by_cases hji : j = i <;> by_cases hki : k = i
    · rw [hji, hki]
    · subst hji
      rw [Function.update_self] at hj
      rw [Function.update_of_ne hki, ← hj] at hk
      exact absurd hk (hothers k hki)
    · subst hki
      rw [Function.update_self] at hk
      rw [Function.update_of_ne hji, ← hk] at hj
      exact absurd hj (hothers j hji)
    · rw [Function.update_of_ne hji] at hj
      rw [Function.update_of_ne hki] at hk
      exact h.once j k key' hj hk
  started j key' hj := by
    by_cases hji : j = i
    · subst hji
      rw [Function.update_self]
      exact ⟨hnow, Nat.le_refl _⟩
    · rw [Function.update_of_ne hji] at hj ⊢
      exact (h.later hclock).started j key' hj
  counted j key' hj := by
    by_cases hji : j = i
    · subst hji
      rw [Function.update_self] at hj ⊢
      obtain rfl := Option.some.inj hj
      refine (List.countP_eq_zero.mpr fun e he => ?_).symm
      rw [decide_eq_true_iff]
      exact fun hsince => absurd (hkey e he hsince.1) (Nat.not_lt.mpr hsince.2)
    · rw [Function.update_of_ne hji] at hj ⊢
      exact h.counted j key' hj
  bounded j := by
    by_cases hji : j = i
    · subst hji
      rw [Function.update_self]
      exact Nat.zero_le _
    · rw [Function.update_of_ne hji]
      exact h.bounded j
  recent j e he hj := by
    by_cases hji : j = i
    · subst hji
      rw [Function.update_self] at hj ⊢
      have hlt := hkey e he (Option.some.inj hj).symm
      show e.2 < now + window
      omega
    · rw [Function.update_of_ne hji] at hj ⊢
      exact h.recent j e he hj
  gone e he hnone := by
    by_cases hi : (slots i).owner = some e.1
    · exact hlast e he hi
    · refine Nat.lt_of_lt_of_le (h.gone e he fun j hj => ?_) hclock
      by_cases hji : j = i
      · subst hji
        exact hi hj
      · exact hnone j (by rwa [Function.update_of_ne hji])
  past e he := (h.past e he).trans hclock

/-- The slot found is in its window, and the books are still right. -/
theorem find (hnow : 0 < now) (hwindow : 0 < window) (key : κ) :
    Accounts window limit now (WindowTable.find slots key now window).2 log ∧
      ∀ i, (WindowTable.find slots key now window).1 = some i →
        ((WindowTable.find slots key now window).2 i).owner = some key ∧
          ((WindowTable.find slots key now window).2 i).start ≤ now ∧
          now < ((WindowTable.find slots key now window).2 i).start + window := by
  rcases find_cases slots key now window with ⟨i, howner, hover, heq⟩ | ⟨i, howner, hover, heq⟩ |
    ⟨i, hfree, hnone, heq⟩ | heq
  · rw [heq]
    refine ⟨h.later hclock, fun j hj => ?_⟩
    obtain rfl := Option.some.inj hj
    obtain ⟨hstart, hle⟩ := h.started i key howner
    simp only [windowOver, Bool.or_eq_false_iff, beq_eq_false_iff_ne, decide_eq_false_iff_not] at hover
    have hend : now < (slots i).start + window := by omega
    exact ⟨howner, hle.trans hclock, hend⟩
  · have hbefore : ∀ e ∈ log, (slots i).owner = some e.1 → e.2 < now :=
      fun e he => h.before_of_over hclock hover he
    have hslot : { slots i with start := now, count := 0 } = { owner := some key, start := now } := by
      dsimp only
      rw [howner]
    rw [heq, hslot]
    refine ⟨h.restart hclock hnow hwindow (fun j hj hkey => hj (h.once j i key hkey howner))
      (fun e he hkey => hbefore e he (by rw [howner, hkey])) hbefore, fun j hj => ?_⟩
    obtain rfl := Option.some.inj hj
    simp only [Function.update_self]
    exact ⟨trivial, Nat.le_refl _, by omega⟩
  · have hbefore : ∀ e ∈ log, (slots i).owner = some e.1 → e.2 < now := by
      intro e he howner
      rw [free, howner] at hfree
      exact h.before_of_over hclock hfree he howner
    have hkey : ∀ e ∈ log, e.1 = key → e.2 < now := by
      rintro e he rfl
      exact Nat.lt_of_lt_of_le (h.gone e he hnone) hclock
    rw [heq]
    refine ⟨h.restart hclock hnow hwindow (fun j _ => hnone j) hkey hbefore, fun j hj => ?_⟩
    obtain rfl := Option.some.inj hj
    simp only [Function.update_self]
    exact ⟨trivial, Nat.le_refl _, by omega⟩
  · rw [heq]
    exact ⟨h.later hclock, fun i hi => nomatch hi⟩

end

/-- One more is recorded for the owner of a slot that has room. -/
theorem record (h : Accounts window limit now slots log) {i : Fin n} (howner : (slots i).owner = some key)
    (hstart : (slots i).start ≤ now) (hend : now < (slots i).start + window) (hroom : (slots i).count < limit) :
    Accounts window limit now (Function.update slots i { slots i with count := (slots i).count + 1 })
      (log ++ [(key, now)]) := by
  have howners : ∀ j, (Function.update slots i { slots i with count := (slots i).count + 1 } j).owner =
      (slots j).owner := by
    intro j
    by_cases hji : j = i
    · subst hji
      rw [Function.update_self]
    · rw [Function.update_of_ne hji]
  have hstarts : ∀ j, (Function.update slots i { slots i with count := (slots i).count + 1 } j).start =
      (slots j).start := by
    intro j
    by_cases hji : j = i
    · subst hji
      rw [Function.update_self]
    · rw [Function.update_of_ne hji]
  refine ⟨?_, ?_, ?_, ?_, ?_, ?_, ?_⟩
  · simpa only [howners] using h.once
  · simpa only [howners, hstarts] using h.started
  · intro j key' hj
    rw [howners] at hj
    rw [hstarts, List.countP_append, List.countP_singleton]
    by_cases hji : j = i
    · subst hji
      obtain rfl := Option.some.inj (howner.symm.trans hj)
      rw [Function.update_self, if_pos (by simp [hstart]), ← h.counted j _ hj]
    · have hkey : key ≠ key' := by
        rintro rfl
        exact hji (h.once j i _ hj howner)
      rw [Function.update_of_ne hji, if_neg (by simp [hkey]), Nat.add_zero]
      exact h.counted j key' hj
  · intro j
    by_cases hji : j = i
    · subst hji
      rw [Function.update_self]
      exact hroom
    · rw [Function.update_of_ne hji]
      exact h.bounded j
  · intro j e he hj
    rw [howners] at hj
    rw [hstarts]
    rcases List.mem_append.mp he with he | he
    · exact h.recent j e he hj
    · obtain rfl := List.mem_singleton.mp he
      rw [h.once j i _ hj howner]
      exact hend
  · intro e he hnone
    simp only [howners] at hnone
    rcases List.mem_append.mp he with he | he
    · exact h.gone e he hnone
    · obtain rfl := List.mem_singleton.mp he
      exact absurd howner (hnone i)
  · intro e he
    rcases List.mem_append.mp he with he | he
    · exact h.past e he
    · rw [List.mem_singleton.mp he]

theorem request (h : Accounts window limit clock slots log) (hclock : clock ≤ now) (hnow : 0 < now)
    (hwindow : 0 < window) (key : κ) (record : Bool) :
    Accounts window limit now (WindowTable.request slots key now window limit record).2
      (if (WindowTable.request slots key now window limit record).1 && record then log ++ [(key, now)] else log) := by
  obtain ⟨hbooks, hslot⟩ := h.find hclock hnow hwindow key
  unfold WindowTable.request
  generalize WindowTable.find slots key now window = found at hbooks hslot ⊢
  obtain ⟨_ | i, slots'⟩ := found
  · exact hbooks
  dsimp only
  split
  · exact hbooks
  · rename_i hroom
    obtain ⟨howner, hstart, hend⟩ := hslot i rfl
    cases record with
    | false => exact hbooks
    | true => exact hbooks.record howner hstart hend (Nat.lt_of_not_le hroom)

end Accounts

/-! ## 3. What one request leaves alone -/

/-- A refusal for want of room changes nothing. -/
theorem request_refused {limit : Nat} (hlimit : limit ≠ 0) {record : Bool}
    (h : (request slots key now window limit record).1 = false) :
    (request slots key now window limit record).2 = slots := by
  unfold request at h ⊢
  rcases find_cases slots key now window with ⟨i, -, -, heq⟩ | ⟨i, -, -, heq⟩ | ⟨i, -, -, heq⟩ | heq
  · rw [heq] at h ⊢
    dsimp only at h ⊢
    split at h
    · rename_i hfull
      rw [if_pos hfull]
    · cases h
  -- a window that has just begun has room
  iterate 2
    rw [heq] at h
    dsimp only at h
    rw [Function.update_self, if_neg (by simpa using hlimit)] at h
    cases h
  · rw [heq]

/-- A slot whose window is not over keeps its owner. -/
theorem owner_request {limit : Nat} {record : Bool} {i : Fin n} {owner : κ} (howner : (slots i).owner = some owner)
    (hopen : windowOver (slots i).start now window = false) :
    ((request slots key now window limit record).2 i).owner = some owner := by
  have hfind : ((find slots key now window).2 i).owner = some owner := by
    rcases find_cases slots key now window with ⟨j, -, -, heq⟩ | ⟨j, hj, hover, heq⟩ | ⟨j, hfree, -, heq⟩ | heq
    · rw [heq]
      exact howner
    · have hij : i ≠ j := by
        rintro rfl
        rw [hover] at hopen
        cases hopen
      rw [heq]
      dsimp only
      rw [Function.update_of_ne hij]
      exact howner
    · have hij : i ≠ j := by
        rintro rfl
        rw [free, howner, hopen] at hfree
        cases hfree
      rw [heq]
      dsimp only
      rw [Function.update_of_ne hij]
      exact howner
    · rw [heq]
      exact howner
  unfold request
  generalize find slots key now window = found at hfind ⊢
  obtain ⟨_ | j, slots'⟩ := found
  · exact hfind
  dsimp only
  split
  · exact hfind
  cases record with
  | false => exact hfind
  | true =>
    by_cases hij : i = j
    · subst hij
      simp only [if_true, Function.update_self]
      exact hfind
    · simp only [if_true, Function.update_of_ne hij]
      exact hfind

end WindowTable
