/-
  File:      ScratchIrcd/Lib/CText.lean
  Subject:   NUL-terminated C strings as lists of characters, and the few library
             functions of <string.h>/<strings.h> a line-oriented server lives on.

  One `Char` stands for one byte; the terminating NUL is the end of the list, so
  `strlen` is `List.length`. Two strings are compared either literally, or after
  folding every character (`FoldEq`): ASCII folding is `strcasecmp(a, b) == 0` in the
  C locale (and SQLite's NOCASE collation).
-/
import Mathlib.Data.List.Basic
import Mathlib.Data.List.TakeDrop
import Mathlib.Data.List.TakeWhile

namespace CText

variable {isDelim : Char → Bool} {a b rest s tok : Text}

/-- A C string: its bytes, without the terminating NUL. -/
abbrev Text := List Char

/-- What holds of every character of a literal, looked up one by one. -/
theorem forall_mem_of_all {α : Type*} {p : α → Prop} [DecidablePred p] {l : List α}
    (h : l.all (fun x => decide (p x)) = true) : ∀ x ∈ l, p x := fun x hx =>
  of_decide_eq_true (List.all_eq_true.mp h x hx)

/-! ## 1. Equality modulo a folding of characters -/

section Fold

variable (f : Char → Char)

/-- Two strings agree character by character after folding. -/
def foldEq (a b : Text) : Bool := a.map f == b.map f

variable {f}

theorem foldEq_iff : foldEq f a b = true ↔ a.map f = b.map f := by
  simp [foldEq]

@[simp] theorem foldEq_refl (a : Text) : foldEq f a a = true := by simp [foldEq]

theorem foldEq_symm (h : foldEq f a b = true) : foldEq f b a = true :=
  foldEq_iff.mpr (foldEq_iff.mp h).symm

theorem foldEq_trans {c : Text} (hab : foldEq f a b = true) (hbc : foldEq f b c = true) :
    foldEq f a c = true :=
  foldEq_iff.mpr ((foldEq_iff.mp hab).trans (foldEq_iff.mp hbc))

/-- A coarser folding equates more: if `g` factors through `f`, `f`-equal is `g`-equal. -/
theorem foldEq_mono {g h : Char → Char} (hg : ∀ c, g c = h (f c)) (hab : foldEq f a b = true) :
    foldEq g a b = true := by
  have hcomp : ∀ x : Text, x.map g = (x.map f).map h := by
    intro x
    rw [List.map_map]
    exact List.map_congr_left fun c _ => hg c
  rw [foldEq_iff, hcomp, hcomp, foldEq_iff.mp hab]

end Fold

/-- `tolower` in the C locale: only `A`-`Z` move. -/
def asciiLower (c : Char) : Char :=
  if 'A' ≤ c ∧ c ≤ 'Z' then Char.ofNat (c.toNat + 32) else c

/-- `strcasecmp(a, b) == 0` in the C locale; also equality under SQLite's NOCASE. -/
def strcasecmpEq (a b : Text) : Bool := foldEq asciiLower a b

/-! ## 2. Tokens -/

/-- One call of `strtok`: skip leading delimiters, return the token and what is left after the
    one delimiter that ends it; `none` when only delimiters remain. -/
def strtok (isDelim : Char → Bool) (s : Text) : Option (Text × Text) :=
  match s.dropWhile isDelim with
  | [] => none
  | c :: rest =>
      some ((c :: rest).takeWhile (fun x => !isDelim x),
        ((c :: rest).dropWhile (fun x => !isDelim x)).tail)

/-- `strtok(s, " ")`. -/
def strtokSpace (s : Text) : Option (Text × Text) := strtok (· == ' ') s

/-- `strtok(NULL, "")`: with no delimiter the token is all that is left, if anything is. -/
def strtokRest (s : Text) : Option Text := if s.isEmpty then none else some s

section

variable (h : strtok isDelim s = some (tok, rest))
include h

/-- A token is not empty and has no delimiter in it. -/
theorem strtok_token :
    tok ≠ [] ∧ ∀ x ∈ tok, isDelim x = false := by
  unfold strtok at h
  split at h
  · cases h
  · rename_i c tl hs
    simp only [Option.some.injEq, Prod.mk.injEq] at h
    obtain ⟨rfl, -⟩ := h
    have hc : isDelim c = false := by
      have := List.head?_dropWhile_not isDelim s
      rw [hs] at this
      simpa using this
    refine ⟨by simp [hc], fun x hx => ?_⟩
    simpa using List.mem_takeWhile_imp hx

/-- Where a token stands in the text: after delimiters only, and before one or the end. -/
theorem strtok_split :
    ∃ lead, (s = lead ++ tok ∧ rest = []) ∨ ∃ d, isDelim d = true ∧ s = lead ++ (tok ++ d :: rest) := by
  unfold strtok at h
  split at h
  · cases h
  · rename_i c tl hs
    simp only [Option.some.injEq, Prod.mk.injEq] at h
    obtain ⟨rfl, rfl⟩ := h
    refine ⟨s.takeWhile isDelim, ?_⟩
    have hlead : s = s.takeWhile isDelim ++ (c :: tl) := by
      rw [← hs, List.takeWhile_append_dropWhile]
    have htok := List.takeWhile_append_dropWhile (p := fun x => !isDelim x) (l := c :: tl)
    have hend := List.head?_dropWhile_not (fun x => !isDelim x) (c :: tl)
    cases hrest : (c :: tl).dropWhile (fun x => !isDelim x) with
    | nil =>
      rw [hrest, List.append_nil] at htok
      rw [htok]
      exact .inl ⟨hlead, rfl⟩
    | cons d rest =>
      rw [hrest] at htok hend
      refine .inr ⟨d, by simpa using hend, ?_⟩
      rw [List.tail_cons, htok]
      exact hlead

/-- Token and rest are made of the characters of the text. -/
theorem mem_of_strtok {x : Char} (hx : x ∈ tok ∨ x ∈ rest) : x ∈ s := by
  obtain ⟨lead, ⟨rfl, rfl⟩ | ⟨d, -, rfl⟩⟩ := strtok_split h
  · exact List.mem_append_right _ (hx.resolve_right List.not_mem_nil)
  · refine List.mem_append_right _ (List.mem_append.mpr ?_)
    exact hx.imp_right (List.mem_cons_of_mem _)

end

/-- Reading a token back from a text it was put in front of. -/
theorem strtok_append {d : Char} (hne : tok ≠ []) (htok : ∀ x ∈ tok, isDelim x = false)
    (hd : isDelim d = true) : strtok isDelim (tok ++ d :: rest) = some (tok, rest) := by
  obtain ⟨c, tl, rfl⟩ := List.exists_cons_of_ne_nil hne
  have hc : isDelim c = false := htok c List.mem_cons_self
  have hall : ∀ x ∈ c :: tl, (!isDelim x) = true := fun x hx => by rw [htok x hx]; rfl
  unfold strtok
  rw [List.cons_append, List.dropWhile_cons_of_neg (by simp [hc])]
  dsimp only
  rw [← List.cons_append, List.takeWhile_append_of_pos hall, List.dropWhile_append_of_pos hall]
  simp [hd]

theorem strtok_self (hne : tok ≠ []) (htok : ∀ x ∈ tok, isDelim x = false) :
    strtok isDelim tok = some (tok, []) := by
  obtain ⟨c, tl, rfl⟩ := List.exists_cons_of_ne_nil hne
  have hc : isDelim c = false := htok c List.mem_cons_self
  have hall : ∀ x ∈ c :: tl, (!isDelim x) = true := fun x hx => by rw [htok x hx]; rfl
  unfold strtok
  rw [List.dropWhile_cons_of_neg (by simp [hc])]
  dsimp only
  rw [List.takeWhile_eq_self_iff.mpr hall, List.dropWhile_eq_nil_iff.mpr hall, List.tail_nil]

/-- Drop one leading `:`, as every trailing-parameter reader does. -/
def dropColon : Text → Text
  | ':' :: rest => rest
  | s => s

/-! ## 3. Numbers -/

/-- `%u`: the decimal text of a natural number. -/
def decimal (n : Nat) : Text := Nat.toDigits 10 n

/-- The value of one decimal digit. -/
def digitVal (c : Char) : Option Nat :=
  if '0' ≤ c ∧ c ≤ '9' then some (c.toNat - '0'.toNat) else none

/-- The value of a non-empty all-digit text, read left to right onto `acc`. -/
def digitsVal : Nat → Text → Option Nat
  | acc, [] => some acc
  | acc, c :: rest => (digitVal c).bind fun d => digitsVal (acc * 10 + d) rest

theorem digitsVal_append (acc : Nat) (s : Text) (c : Char) :
    digitsVal acc (s ++ [c]) = (digitsVal acc s).bind fun n => (digitVal c).map (n * 10 + ·) := by
  induction s generalizing acc with
  | nil => cases h : digitVal c <;> simp [digitsVal, h]
  | cons d s ih => cases h : digitVal d <;> simp [digitsVal, h, ih]

theorem digitVal_digitChar : ∀ n < 10, digitVal (Nat.digitChar n) = some n := by decide

/-- A number is read back from its text. -/
theorem digitsVal_decimal (n : Nat) : digitsVal 0 (decimal n) = some n := by
  induction n using Nat.strongRecOn with
  | _ n ih =>
    unfold decimal at *
    rw [Nat.toDigits_eq_if (by decide)]
    split
    · rename_i hlt
      simp [digitsVal, digitVal_digitChar n hlt]
    · rename_i hge
      rw [digitsVal_append, ih (n / 10) (by omega), digitVal_digitChar (n % 10) (by omega)]
      simp only [Option.bind_some, Option.map_some, Option.some.injEq]
      omega

theorem decimal_injective {a b : Nat} (h : decimal a = decimal b) : a = b := by
  have hval := congrArg (digitsVal 0) h
  rwa [digitsVal_decimal, digitsVal_decimal, Option.some.injEq] at hval

/-- `snprintf(buf, n + 1, "%s", s)`: the copy keeps the first `n` bytes. -/
def bounded (n : Nat) (s : Text) : Text := s.take n

theorem bounded_of_length_le {n : Nat} (h : s.length ≤ n) : bounded n s = s :=
  List.take_of_length_le h

/-- The bytes up to the first NUL: what a reader of a C string takes from them. -/
def cString (s : Text) : Text := s.takeWhile (· != '\x00')

theorem not_mem_cString (s : Text) : '\x00' ∉ cString s := by
  intro h
  simpa using List.mem_takeWhile_imp h

theorem cString_of_not_mem (h : '\x00' ∉ s) : cString s = s := by
  refine List.takeWhile_eq_self_iff.mpr fun x hx => ?_
  have hne : x ≠ '\x00' := fun heq => h (heq ▸ hx)
  simpa using hne

/-- CR or LF: what ends a line on the wire. -/
def isLineBreak (c : Char) : Bool := c == '\r' || c == '\n'

end CText
