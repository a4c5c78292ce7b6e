/-
  File:      ScratchIrcd/Lib/Base64.lean
  Subject:   Base64 (RFC 4648, section 4) over texts whose signs are bytes.

  Three bytes are four signs of the alphabet; a last group of one or two bytes is filled up with
  `=`. `decode` takes groups of four signs and gives three bytes for each, so that the padding
  comes out as zero bytes.
-/
import Mathlib.Data.List.Basic

namespace Base64

/-- The 64 signs. -/
def alphabet : List Char :=
  "ABCDEFGHIJKLMNOPQRSTUVWXYZabcdefghijklmnopqrstuvwxyz0123456789+/".toList

/-- The sign of a number below 64. -/
def sign (n : Nat) : Char := alphabet.getD n 'A'

/-- A text of bytes. -/
def IsBytes (text : List Char) : Prop := ∀ x ∈ text, x.toNat < 256

/-- The number that three bytes make up. -/
def group (a b c : Nat) : Nat := a * 65536 + b * 256 + c

/-- The four signs of such a number. -/
def sign₁ (n : Nat) : Char := sign (n / 262144 % 64)
def sign₂ (n : Nat) : Char := sign (n / 4096 % 64)
def sign₃ (n : Nat) : Char := sign (n / 64 % 64)
def sign₄ (n : Nat) : Char := sign (n % 64)

def encode : List Char → List Char
  | [] => []
  | [a] =>
      let n := group a.toNat 0 0
      [sign₁ n, sign₂ n, '=', '=']
  | [a, b] =>
      let n := group a.toNat b.toNat 0
      [sign₁ n, sign₂ n, sign₃ n, '=']
  | a :: b :: c :: rest =>
      let n := group a.toNat b.toNat c.toNat
      sign₁ n :: sign₂ n :: sign₃ n :: sign₄ n :: encode rest

/-- How many `=` there are at the end. -/
def padding (bytes : List Char) : Nat := (3 - bytes.length % 3) % 3

/-- The number of a sign; a `=` counts as 0. -/
def value (x : Char) : Option Nat :=
  if x = '=' then some 0 else alphabet.idxOf? x

/-- The three bytes of four signs. -/
def bytesOf (d₁ d₂ d₃ d₄ : Nat) : List Char :=
  let n := d₁ * 262144 + d₂ * 4096 + d₃ * 64 + d₄
  [Char.ofNat (n / 65536), Char.ofNat (n / 256 % 256), Char.ofNat (n % 256)]

def decode : List Char → Option (List Char)
  | [] => some []
  | x₁ :: x₂ :: x₃ :: x₄ :: rest =>
      match value x₁, value x₂, value x₃, value x₄, decode rest with
      | some d₁, some d₂, some d₃, some d₄, some bytes => some (bytesOf d₁ d₂ d₃ d₄ ++ bytes)
      | _, _, _, _, _ => none
  | _ => none

/-! ## 1. Signs -/

theorem sign_spec : ∀ n < 64, value (sign n) = some n ∧ sign n ∈ alphabet := by
  decide +kernel

theorem value_sign {n : Nat} (h : n < 64) : value (sign n) = some n := (sign_spec n h).1

theorem sign_mem {n : Nat} (h : n < 64) : sign n ∈ alphabet := (sign_spec n h).2

theorem value_equals : value '=' = some 0 := rfl

section

variable (n : Nat)

theorem sign₁_mem : sign₁ n ∈ alphabet := sign_mem (Nat.mod_lt _ (by decide))

theorem sign₂_mem : sign₂ n ∈ alphabet := sign_mem (Nat.mod_lt _ (by decide))

theorem sign₃_mem : sign₃ n ∈ alphabet := sign_mem (Nat.mod_lt _ (by decide))

theorem sign₄_mem : sign₄ n ∈ alphabet := sign_mem (Nat.mod_lt _ (by decide))

theorem value_sign₁ : value (sign₁ n) = some (n / 262144 % 64) :=
  value_sign (Nat.mod_lt _ (by decide))

theorem value_sign₂ : value (sign₂ n) = some (n / 4096 % 64) :=
  value_sign (Nat.mod_lt _ (by decide))

theorem value_sign₃ : value (sign₃ n) = some (n / 64 % 64) :=
  value_sign (Nat.mod_lt _ (by decide))

theorem value_sign₄ : value (sign₄ n) = some (n % 64) :=
  value_sign (Nat.mod_lt _ (by decide))

end

/-! ## 2. Shape of an encoding -/

/-- An encoding is signs of the alphabet, and then the padding. -/
theorem encode_shape (bytes : List Char) :
    ∃ body, encode bytes = body ++ List.replicate (padding bytes) '=' ∧ ∀ x ∈ body, x ∈ alphabet := by
  induction bytes using encode.induct with
  | case1 => exact ⟨[], rfl, by simp⟩
  | case2 a =>
    generalize hn : group a.toNat 0 0 = n
    refine ⟨[sign₁ n, sign₂ n], by rw [← hn]; rfl, ?_⟩
    simp [sign₁_mem, sign₂_mem]
  | case3 a b =>
    generalize hn : group a.toNat b.toNat 0 = n
    refine ⟨[sign₁ n, sign₂ n, sign₃ n], by rw [← hn]; rfl, ?_⟩
    simp [sign₁_mem, sign₂_mem, sign₃_mem]
  | case4 a b c rest ih =>
    generalize hn : group a.toNat b.toNat c.toNat = n
    obtain ⟨body, heq, hmem⟩ := ih
    refine ⟨sign₁ n :: sign₂ n :: sign₃ n :: sign₄ n :: body, ?_, ?_⟩
    · have hpad : padding (a :: b :: c :: rest) = padding rest := by
        unfold padding
        simp only [List.length_cons]
        omega
      rw [encode, heq, hpad, ← hn]
      rfl
    · simp only [List.forall_mem_cons]
      exact ⟨sign₁_mem n, sign₂_mem n, sign₃_mem n, sign₄_mem n, hmem⟩

/-- Four signs for every three bytes that were begun. -/
theorem length_encode (bytes : List Char) :
    (encode bytes).length = (bytes.length + 2) / 3 * 4 := by
  induction bytes using encode.induct with
  | case1 => rfl
  | case2 a => simp [encode]
  | case3 a b => simp [encode]
  | case4 a b c rest ih =>
    rw [encode]
    simp only [List.length_cons, ih]
    omega

/-! ## 3. Decoding -/

/-- Four digits to the base 64 make up the number again. -/
theorem bytesOf_group {a b c : Nat} (ha : a < 256) (hb : b < 256) (hc : c < 256) :
    bytesOf (group a b c / 262144 % 64) (group a b c / 4096 % 64) (group a b c / 64 % 64)
      (group a b c % 64) = [Char.ofNat a, Char.ofNat b, Char.ofNat c] := by
  have hwhole : group a b c / 262144 % 64 * 262144 + group a b c / 4096 % 64 * 4096 +
      group a b c / 64 % 64 * 64 + group a b c % 64 = group a b c := by
    unfold group
    omega
  unfold bytesOf
  dsimp only
  rw [hwhole]
  have h₁ : group a b c / 65536 = a := by unfold group; omega
  have h₂ : group a b c / 256 % 256 = b := by unfold group; omega
  have h₃ : group a b c % 256 = c := by unfold group; omega
  rw [h₁, h₂, h₃]

theorem group_low (a b : Nat) : group a b 0 % 64 = 0 ∧ group a 0 0 / 64 % 64 = 0 := by
  unfold group
  omega

/-- **Decoding an encoding gives the bytes**, and zeros for the padding. -/
theorem decode_encode {bytes : List Char} (h : IsBytes bytes) :
    decode (encode bytes) = some (bytes ++ List.replicate (padding bytes) '\x00') := by
  induction bytes using encode.induct with
  | case1 => rfl
  | case2 a =>
    have ha : a.toNat < 256 := h a (by simp)
    have hdigits := bytesOf_group ha (by decide : 0 < 256) (by decide : 0 < 256)
    rw [(group_low a.toNat 0).1, (group_low a.toNat 0).2] at hdigits
    simp only [encode, decode, value_sign₁, value_sign₂, value_equals, hdigits, Char.ofNat_toNat]
    rfl
  | case3 a b =>
    have ha : a.toNat < 256 := h a (by simp)
    have hb : b.toNat < 256 := h b (by simp)
    have hdigits := bytesOf_group ha hb (by decide : 0 < 256)
    rw [(group_low a.toNat b.toNat).1] at hdigits
    simp only [encode, decode, value_sign₁, value_sign₂, value_sign₃, value_equals, hdigits,
      Char.ofNat_toNat]
    rfl
  | case4 a b c rest ih =>
    have ha : a.toNat < 256 := h a (by simp)
    have hb : b.toNat < 256 := h b (by simp)
    have hc : c.toNat < 256 := h c (by simp)
    have hrest := ih fun x hx => h x (by simp [hx])
    have hpad : padding (a :: b :: c :: rest) = padding rest := by
      unfold padding
      simp only [List.length_cons]
      omega
    simp only [encode, decode, value_sign₁, value_sign₂, value_sign₃, value_sign₄, hrest,
      bytesOf_group ha hb hc, Char.ofNat_toNat, hpad]
    rfl

end Base64
