/-
  File:      ScratchIrcd/BanDuration.lean
  Subject:   How long a ban lasts: `geoban_duration_parse` (src/geoban_db.c) and
             `parse_eline_duration` (src/commands/kline.c).

  Both read a number with `strtoull` or `strtoul` (64 bits each) and multiply it by the seconds of
  a unit. ELINE asks before it multiplies whether the product is within bounds. GEOBAN multiplies
  first, modulo 2^64, and looks at what is left: 2^62 minutes are 0 seconds, and 0 is how a
  permanent ban is stored.
-/
import ScratchIrcd.ChannelMode
import Mathlib.Algebra.Group.Nat.Hom

namespace ScratchIrcd

open CText

variable {c : Char} {multiplier : Nat} {ds : Text}

/-! ## 1. The parsers -/

/-- `IRCD_BAN_DURATION_HARD_MAX_SECONDS` -/
def ircdBanDurationHardMaxSeconds : Nat := 31536000

/-- `UINT_MAX`, `UINT32_MAX`. -/
def uintMax : Nat := 2 ^ 32 - 1

/-- White space and a sign at the front: is it negative, and what follows. -/
def splitSign (text : Text) : Bool × Text :=
  match text.dropWhile isCSpace with
  | '-' :: rest => (true, rest)
  | '+' :: rest => (false, rest)
  | rest => (false, rest)

/-- `strtoull(text, &end, 10)` with its end; `none` for no digits (`end == text`) and for
    `ERANGE`. -/
def strtoull (text : Text) : Option (Nat × Text) :=
  let (negative, body) := splitSign text
  let digits := body.takeWhile (·.isDigit)
  let value := (digitsVal 0 digits).getD 0
  if digits.isEmpty || decide (2 ^ 64 ≤ value) then none
  else some (if negative then (2 ^ 64 - value) % 2 ^ 64 else value, body.dropWhile (·.isDigit))

/-- The seconds of a GEOBAN unit; no unit is seconds. -/
def geobanMultiplier : Option Char → Option Nat
  | none => some 1
  | some unit =>
      match asciiLower unit with
      | 's' => some 1
      | 'm' => some 60
      | 'h' => some 3600
      | 'd' => some 86400
      | 'w' => some 604800
      | _ => none

/-- `geoban_duration_parse` -/
def geobanDurationParse (text : Text) : Option Nat :=
  if text.isEmpty then none
  else if strcasecmpEq text "permanent".toList || strcasecmpEq text "perm".toList ||
      strcasecmpEq text "forever".toList || text == ['0'] then some 0
  else match strtoull text with
    | none => none
    | some (number, rest) =>
        if number = 0 ∨ 2 ≤ rest.length then none
        else (geobanMultiplier rest.head?).bind fun multiplier =>
          let total := number * multiplier % 2 ^ 64
          if ircdBanDurationHardMaxSeconds < total ∨ uintMax < total then none else some total

/-- The seconds of an ELINE unit. -/
def elineMultiplier : Char → Option Nat
  | 'm' => some 60
  | 'h' => some (60 * 60)
  | 'd' => some (24 * 60 * 60)
  | 'w' => some (7 * 24 * 60 * 60)
  | _ => none

/-- `parse_eline_duration` -/
def parseElineDuration (text : Text) : Option Nat :=
  if text.isEmpty then none
  else if text == ['0'] then some 0
  else match strtoull text with
    | some (number, [unit]) =>
        if number = 0 then none
        else (elineMultiplier unit).bind fun multiplier =>
          if uintMax / multiplier < number then none
          else some (number * multiplier % 2 ^ 64 % 2 ^ 32)
    | _ => none

/-! ## 2. Reading digits and a unit -/

theorem isDigit_of_digitVal {d : Nat} (h : digitVal c = some d) : c.isDigit = true := by
  unfold digitVal at h
  split at h
  · rename_i hc
    simp only [Char.isDigit, Bool.and_eq_true, decide_eq_true_eq]
    exact hc
  · cases h

/-- A text with a decimal value is all digits. -/
theorem isDigit_of_digitsVal {acc n : Nat} (h : digitsVal acc ds = some n) :
    ∀ x ∈ ds, x.isDigit = true := by
  induction ds generalizing acc with
  | nil => exact fun _ hx => absurd hx List.not_mem_nil
  | cons c ds ih =>
    obtain ⟨d, hd, hrest⟩ := Option.bind_eq_some_iff.mp h
    exact List.forall_mem_cons.mpr ⟨isDigit_of_digitVal hd, ih hrest⟩

/-- A digit is no white space and no sign. -/
theorem plain_of_isDigit (h : c.isDigit = true) : isCSpace c = false ∧ c ≠ '-' ∧ c ≠ '+' := by
  refine ⟨?_, ?_, ?_⟩
  · simp only [Char.isDigit, Bool.and_eq_true, decide_eq_true_eq] at h
    have hlow : 48 ≤ c.toNat := h.1
    unfold isCSpace
    rw [Bool.or_eq_false_iff]
    constructor
    · rw [beq_eq_false_iff_ne]
      rintro rfl
      exact absurd hlow (by decide)
    · rw [Bool.and_eq_false_iff]
      right
      rw [decide_eq_false_iff_not]
      intro hle
      have hhigh : c.toNat ≤ 13 := hle
      omega
  · rintro rfl
    exact absurd h (by decide)
  · rintro rfl
    exact absurd h (by decide)

theorem splitSign_of_isDigit {text : Text} (h : c.isDigit = true) :
    splitSign (c :: text) = (false, c :: text) := by
  obtain ⟨hspace, hminus, hplus⟩ := plain_of_isDigit h
  unfold splitSign
  rw [List.dropWhile_cons_of_neg (by simp [hspace])]
  split
  · rename_i heq
    exact absurd (List.cons.inj heq).1 hminus
  · rename_i heq
    exact absurd (List.cons.inj heq).1 hplus
  · rfl

/-- `strtoull` reads the digits and stops at the unit. -/
theorem strtoull_digits {n : Nat} (hds : digitsVal 0 ds = some n) (hne : ds ≠ [])
    {unit : Option Char} (hunit : ∀ x ∈ unit, x.isDigit = false) :
    strtoull (ds ++ unit.toList) = if 2 ^ 64 ≤ n then none else some (n, unit.toList) := by
  have hdigits := isDigit_of_digitsVal hds
  have htake : (ds ++ unit.toList).takeWhile (·.isDigit) = ds := by
    rw [List.takeWhile_append_of_pos hdigits]
    cases unit with
    | none => simp
    | some u => simp [hunit u rfl]
  have hdrop : (ds ++ unit.toList).dropWhile (·.isDigit) = unit.toList := by
    rw [List.dropWhile_append_of_pos hdigits]
    cases unit with
    | none => simp
    | some u => simp [hunit u rfl]
  have hsign : splitSign (ds ++ unit.toList) = (false, ds ++ unit.toList) := by
    obtain ⟨c, ds, rfl⟩ := List.exists_cons_of_ne_nil hne
    exact splitSign_of_isDigit (hdigits c List.mem_cons_self)
  unfold strtoull
  rw [hsign]
  dsimp only
  rw [htake, hdrop, hds, Option.getD_some, List.isEmpty_eq_false_iff.mpr hne, Bool.false_or]
  by_cases hbig : 2 ^ 64 ≤ n
  · rw [if_pos (decide_eq_true hbig), if_pos hbig]
  · rw [if_neg (by simpa using hbig), if_neg hbig]
    rfl

/-! ## 3. Exactness -/

/-- If GEOBAN takes the text, it is within the maximum and nothing but its value is stored. -/
def GeobanExact (text : Text) (seconds : Nat) : Prop :=
  ∀ stored, geobanDurationParse text = some stored →
    seconds ≤ ircdBanDurationHardMaxSeconds ∧ stored = seconds

/-- The same for ELINE. -/
def ElineExact (text : Text) (seconds : Nat) : Prop :=
  ∀ stored, parseElineDuration text = some stored → seconds ≤ uintMax ∧ stored = seconds

/-- A number of 64 bits whose product with the unit is too long, and does not look so modulo 2^64. -/
def WrapsAround (n multiplier : Nat) : Prop :=
  n < 2 ^ 64 ∧ ircdBanDurationHardMaxSeconds < n * multiplier ∧
    n * multiplier % 2 ^ 64 ≤ ircdBanDurationHardMaxSeconds

theorem asciiLower_of_isDigit {x : Char} (h : x.isDigit = true) : asciiLower x = x := by
  simp only [Char.isDigit, Bool.and_eq_true, decide_eq_true_eq] at h
  unfold asciiLower
  rw [if_neg]
  rintro ⟨hlow, -⟩
  have hupper : 65 ≤ x.toNat := hlow
  have hdigit : x.toNat ≤ 57 := h.2
  omega

/-- A unit is no digit. -/
theorem isDigit_of_geobanMultiplier {unit : Option Char}
    (h : geobanMultiplier unit = some multiplier) : ∀ x ∈ unit, x.isDigit = false := by
  intro x hx
  cases hx
  rw [Bool.eq_false_iff]
  intro hdigit
  rw [geobanMultiplier, asciiLower_of_isDigit hdigit] at h
  split at h <;> first | exact absurd hdigit (by decide) | cases h

/-- A word that starts with a letter is not a text that starts with a digit. -/
theorem strcasecmpEq_digits {rest word : Text} {w : Char} (hne : ds ≠ [])
    (hdigits : ∀ x ∈ ds, x.isDigit = true) (hw : asciiLower w = w) (hletter : w.isDigit = false) :
    strcasecmpEq (ds ++ rest) (w :: word) = false := by
  obtain ⟨c, ds, rfl⟩ := List.exists_cons_of_ne_nil hne
  have hc := hdigits c List.mem_cons_self
  rw [Bool.eq_false_iff]
  intro heq
  have hmap := foldEq_iff.mp heq
  rw [List.cons_append, List.map_cons, List.map_cons] at hmap
  have hhead := (List.cons.inj hmap).1
  rw [asciiLower_of_isDigit hc, hw] at hhead
  rw [hhead, hletter] at hc
  cases hc

/-- A unit of ELINE is a unit of GEOBAN, of the same length. -/
theorem elineMultiplier_le {u : Char} (h : elineMultiplier u = some multiplier) :
    geobanMultiplier (some u) = some multiplier := by
  unfold elineMultiplier at h
  split at h <;> cases h <;> decide

section Digits

variable {ds : Text} {n : Nat} (hds : digitsVal 0 ds = some n) (hn : 1 ≤ n) {unit : Option Char}

include hds hn

theorem digits_ne_nil : ds ≠ [] := by
  rintro rfl
  cases hds
  omega

/-- The text is not the `0` that both parsers take for permanent. -/
theorem digits_ne_zero : (ds ++ unit.toList == ['0']) = false := by
  rw [beq_eq_false_iff_ne]
  intro heq
  obtain ⟨c, rest, hcons⟩ := List.exists_cons_of_ne_nil (digits_ne_nil hds hn)
  subst hcons
  obtain ⟨rfl, htail⟩ := List.cons.inj (heq : c :: (rest ++ unit.toList) = ['0'])
  obtain ⟨rfl, -⟩ := List.append_eq_nil_iff.mp htail
  have hzero : n = 0 := (Option.some.inj hds).symm
  omega

theorem digits_append_ne_nil : (ds ++ unit.toList).isEmpty = false := by
  rw [List.isEmpty_eq_false_iff]
  intro hnil
  exact digits_ne_nil hds hn (List.append_eq_nil_iff.mp hnil).1

/-- GEOBAN stores the product modulo 2^64, when that is within the maximum. -/
theorem geobanDurationParse_digits (hunit : geobanMultiplier unit = some multiplier) :
    geobanDurationParse (ds ++ unit.toList) =
      if 2 ^ 64 ≤ n ∨ ircdBanDurationHardMaxSeconds < n * multiplier % 2 ^ 64 then none
      else some (n * multiplier % 2 ^ 64) := by
  have hne := digits_ne_nil hds hn
  have hdigits := isDigit_of_digitsVal hds
  have hperm : (strcasecmpEq (ds ++ unit.toList) "permanent".toList ||
      strcasecmpEq (ds ++ unit.toList) "perm".toList ||
      strcasecmpEq (ds ++ unit.toList) "forever".toList ||
      (ds ++ unit.toList == ['0'])) = false := by
    have hpermanent : strcasecmpEq (ds ++ unit.toList) "permanent".toList = false :=
      strcasecmpEq_digits hne hdigits (by decide) (by decide)
    have hshort : strcasecmpEq (ds ++ unit.toList) "perm".toList = false :=
      strcasecmpEq_digits hne hdigits (by decide) (by decide)
    have hforever : strcasecmpEq (ds ++ unit.toList) "forever".toList = false :=
      strcasecmpEq_digits hne hdigits (by decide) (by decide)
    rw [hpermanent, hshort, hforever, digits_ne_zero hds hn]
    rfl
  unfold geobanDurationParse
  rw [digits_append_ne_nil hds hn, hperm,
    strtoull_digits hds hne (isDigit_of_geobanMultiplier hunit)]
  by_cases hbig : 2 ^ 64 ≤ n
  · simp only [hbig, if_true, true_or, Bool.false_eq_true, if_false]
  · have hshort : ¬ (n = 0 ∨ 2 ≤ unit.toList.length) := by
      cases unit <;> simp <;> omega
    have hhead : unit.toList.head? = unit := by cases unit <;> rfl
    have hmax : ∀ total, (ircdBanDurationHardMaxSeconds < total ∨ uintMax < total) ↔
        ircdBanDurationHardMaxSeconds < total := by
      intro total
      have hless : ircdBanDurationHardMaxSeconds ≤ uintMax := by decide
      exact ⟨fun h => h.elim id hless.trans_lt, Or.inl⟩
    simp only [hbig, if_false, false_or, Bool.false_eq_true, hshort, hhead, hunit, Option.bind_some,
      hmax]

/-- ELINE stores the product, or nothing. -/
theorem elineExact_digits (hunit : geobanMultiplier unit = some multiplier) :
    ElineExact (ds ++ unit.toList) (n * multiplier) := by
  intro stored hstored
  have hne := digits_ne_nil hds hn
  unfold parseElineDuration at hstored
  rw [digits_append_ne_nil hds hn, digits_ne_zero hds hn,
    strtoull_digits hds hne (isDigit_of_geobanMultiplier hunit)] at hstored
  simp only [Bool.false_eq_true, if_false] at hstored
  split at hstored
  · rename_i number u heq
    split at heq
    · cases heq
    obtain ⟨rfl, hu⟩ := Prod.mk.inj (Option.some.inj heq)
    split at hstored
    · cases hstored
    obtain ⟨m, hm, hstored⟩ := Option.bind_eq_some_iff.mp hstored
    split at hstored
    · cases hstored
    rename_i hbound
    -- the unit is the one letter that was left, so the two multipliers agree
    have hsame : unit = some u := by
      cases unit with
      | none => cases hu
      | some v => rw [(List.cons.inj hu).1]
    rw [hsame, elineMultiplier_le hm] at hunit
    cases hunit
    have hpos : 0 < multiplier := by
      unfold elineMultiplier at hm
      split at hm <;> cases hm <;> decide
    have hle : n * multiplier ≤ uintMax := (Nat.le_div_iff_mul_le hpos).mp (Nat.not_lt.mp hbound)
    have hmax : uintMax = 2 ^ 32 - 1 := rfl
    cases hstored
    refine ⟨hle, ?_⟩
    rw [Nat.mod_eq_of_lt (by omega), Nat.mod_eq_of_lt (by omega)]
  · cases hstored

/-- **Both parsers are exact on a number with a unit exactly when the product does not wrap
    around to something GEOBAN takes.** -/
theorem duration_exact_iff {multiplier : Nat} (hunit : geobanMultiplier unit = some multiplier) :
    GeobanExact (ds ++ unit.toList) (n * multiplier) ∧ ElineExact (ds ++ unit.toList) (n * multiplier) ↔
      ¬ WrapsAround n multiplier := by
  have hparse := geobanDurationParse_digits hds hn hunit
  have heline := elineExact_digits hds hn hunit
  constructor
  · rintro ⟨hgeoban, -⟩ ⟨hsmall, hlong, hwrapped⟩
    rw [if_neg (by omega)] at hparse
    have hle := (hgeoban _ hparse).1
    omega
  · intro hwrap
    refine ⟨fun stored hstored => ?_, heline⟩
    rw [hparse] at hstored
    split at hstored
    · cases hstored
    rename_i hok
    rw [not_or, Nat.not_le, Nat.not_lt] at hok
    have hle : n * multiplier ≤ ircdBanDurationHardMaxSeconds := by
      by_contra hlong
      exact hwrap ⟨hok.1, Nat.not_le.mp hlong, hok.2⟩
    have hmax : ircdBanDurationHardMaxSeconds = 31536000 := rfl
    cases hstored
    exact ⟨hle, Nat.mod_eq_of_lt (by omega)⟩

end Digits

theorem duration_exact_iff_two_weeks :
    GeobanExact "2w".toList 1209600 ∧ ElineExact "2w".toList 1209600 := by
  have hds : digitsVal 0 ['2'] = some 2 := rfl
  have hunit : geobanMultiplier (some 'w') = some 604800 := rfl
  exact (duration_exact_iff hds (by decide) hunit).mpr fun h => absurd h.2.1 (by decide)

/-- 2^62 minutes are a permanent ban. -/
theorem geoban_wraps_to_permanent :
    digitsVal 0 "4611686018427387904".toList = some (2 ^ 62) ∧
      geobanDurationParse "4611686018427387904m".toList = some 0 ∧
      ¬ GeobanExact "4611686018427387904m".toList (2 ^ 62 * 60) := by
  have hparse : geobanDurationParse "4611686018427387904m".toList = some 0 := by decide +kernel
  exact ⟨by decide +kernel, hparse, fun h => absurd (h 0 hparse).1 (by decide)⟩

end ScratchIrcd
