/-
  File:      ScratchIrcd/Lib/BitPrefix.lean
  Subject:   The first bits of a string of bytes, and their comparison byte by byte.

  Bits are counted from the highest of the first byte. Two strings agree in their first `n` bits
  exactly when they agree in `n / 8` whole bytes and in the `n % 8` high bits of the byte after
  them, which a mask cuts out.
-/
import Mathlib.Data.Nat.Bitwise
import Mathlib.Data.List.GetD

namespace BitPrefix

/-- Bit `i` of a string of bytes. -/
def bit (bytes : List Nat) (i : Nat) : Bool := (bytes.getD (i / 8) 0).testBit (7 - i % 8)

/-- The first `n` bits are the same. -/
def Agree (n : Nat) (x y : List Nat) : Prop := ∀ i < n, bit x i = bit y i

theorem Agree.trans {n : Nat} {x y z : List Nat} (hxy : Agree n x y) (hyz : Agree n y z) :
    Agree n x z :=
  fun i hi => (hxy i hi).trans (hyz i hi)

theorem Agree.mono {m n : Nat} {x y : List Nat} (hmn : m ≤ n) (h : Agree n x y) : Agree m x y :=
  fun i hi => h i (Nat.lt_of_lt_of_le hi hmn)

/-- The mask of the `r` high bits of a byte. -/
def highMask (r : Nat) : Nat := (0xFF <<< (8 - r)) % 256

theorem testBit_highMask {r : Nat} (hr : r ≤ 8) (k : Nat) :
    (highMask r).testBit k = decide (8 - r ≤ k ∧ k < 8) := by
  have hff : (0xFF : Nat) = 2 ^ 8 - 1 := rfl
  have hbyte : (256 : Nat) = 2 ^ 8 := rfl
  unfold highMask
  rw [hff, hbyte, Nat.testBit_mod_two_pow, Nat.testBit_shiftLeft, Nat.testBit_two_pow_sub_one]
  rw [Bool.eq_iff_iff]
  simp only [Bool.and_eq_true, decide_eq_true_eq]
  omega

/-- The mask compares the high bits. -/
theorem land_highMask_eq_iff {x y r : Nat} (hr : r ≤ 8) :
    x &&& highMask r = y &&& highMask r ↔ ∀ j < r, x.testBit (7 - j) = y.testBit (7 - j) := by
  constructor
  · intro h j hj
    have hbit := congrArg (Nat.testBit · (7 - j)) h
    have hmask : (highMask r).testBit (7 - j) = true := by
      rw [testBit_highMask hr]
      exact decide_eq_true (by omega)
    simpa only [Nat.testBit_land, hmask, Bool.and_true] using hbit
  · intro h
    refine Nat.eq_of_testBit_eq fun k => ?_
    rw [Nat.testBit_land, Nat.testBit_land, testBit_highMask hr]
    by_cases hk : 8 - r ≤ k ∧ k < 8
    · have hj := h (7 - k) (by omega)
      have hback : 7 - (7 - k) = k := by omega
      rw [hback] at hj
      rw [hj]
    · rw [decide_eq_false hk, Bool.and_false, Bool.and_false]

/-- Bytes are equal when their eight bits are. -/
theorem byte_eq_iff {x y : Nat} (hx : x < 256) (hy : y < 256) :
    x = y ↔ ∀ j < 8, x.testBit (7 - j) = y.testBit (7 - j) := by
  constructor
  · rintro rfl j _
    rfl
  · intro h
    refine Nat.eq_of_testBit_eq fun k => ?_
    by_cases hk : k < 8
    · have hj := h (7 - k) (by omega)
      have hback : 7 - (7 - k) = k := by omega
      rwa [hback] at hj
    · have hpow : 256 ≤ 2 ^ k :=
        (show 256 = 2 ^ 8 from rfl) ▸ Nat.pow_le_pow_right (by decide) (Nat.le_of_not_lt hk)
      rw [Nat.testBit_lt_two_pow (Nat.lt_of_lt_of_le hx hpow),
        Nat.testBit_lt_two_pow (Nat.lt_of_lt_of_le hy hpow)]

/-- Whole bytes: a common front is what has the same bits. -/
theorem take_eq_iff {x y : List Nat} (hx : ∀ b ∈ x, b < 256) (hy : ∀ b ∈ y, b < 256)
    (hlen : x.length = y.length) {k : Nat} (hk : k ≤ x.length) :
    x.take k = y.take k ↔ Agree (8 * k) x y := by
  constructor
  · intro h i hi
    have hdiv : i / 8 < k := by omega
    have hget : x.getD (i / 8) 0 = y.getD (i / 8) 0 := by
      have hcong := congrArg (·.getD (i / 8) 0) h
      simpa only [List.getD_eq_getElem?_getD, List.getElem?_take_of_lt hdiv] using hcong
    rw [bit, bit, hget]
  · intro h
    refine List.ext_getElem (by rw [List.length_take, List.length_take, hlen]) fun m hm hm' => ?_
    rw [List.length_take] at hm hm'
    have hmx : m < x.length := by omega
    have hmy : m < y.length := by omega
    rw [List.getElem_take, List.getElem_take,
      byte_eq_iff (hx _ (List.getElem_mem hmx)) (hy _ (List.getElem_mem hmy))]
    intro j hj
    have hbit := h (8 * m + j) (by omega)
    have hdiv : (8 * m + j) / 8 = m := by omega
    have hmod : (8 * m + j) % 8 = j := by omega
    rwa [bit, bit, hdiv, hmod, List.getD_eq_getElem _ _ hmx, List.getD_eq_getElem _ _ hmy] at hbit

/-- **Bits, compared byte by byte**: whole bytes, and the masked byte after them. -/
theorem agree_iff {x y : List Nat} (hx : ∀ b ∈ x, b < 256) (hy : ∀ b ∈ y, b < 256)
    (hlen : x.length = y.length) {n : Nat} (hn : n ≤ 8 * x.length) :
    Agree n x y ↔ x.take (n / 8) = y.take (n / 8) ∧
      (n % 8 = 0 ∨ x.getD (n / 8) 0 &&& highMask (n % 8) = y.getD (n / 8) 0 &&& highMask (n % 8)) := by
  have hk : n / 8 ≤ x.length := by omega
  have hr : n % 8 ≤ 8 := by omega
  rw [take_eq_iff hx hy hlen hk, land_highMask_eq_iff hr]
  constructor
  · intro h
    refine ⟨h.mono (by omega), .inr fun j hj => ?_⟩
    have hbit := h (8 * (n / 8) + j) (by omega)
    have hdiv : (8 * (n / 8) + j) / 8 = n / 8 := by omega
    have hmod : (8 * (n / 8) + j) % 8 = j := by omega
    rwa [bit, bit, hdiv, hmod] at hbit
  · rintro ⟨hwhole, hrest⟩ i hi
    by_cases hin : i < 8 * (n / 8)
    · exact hwhole i hin
    · have hdiv : i / 8 = n / 8 := by omega
      rcases hrest with hzero | hhigh
      · omega
      · rw [bit, bit, hdiv]
        exact hhigh (i % 8) (by omega)

end BitPrefix
