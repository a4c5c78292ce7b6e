/-
  File:      ScratchIrcd/LogFiles.lean
  Subject:   Which file the log of a channel is (`safe_component`, `log_path` of src/channel_log.c).

  A file is named after the spelling of the channel that a queued row has. Letters keep their
  case there, and so do the brackets that RFC1459 folds, so one channel has many files; the prefix
  is cut off and other signs become `_`, so one file has many channels.
-/
import ScratchIrcd.ChannelLog

namespace ScratchIrcd

open CText

/-! ## 1. Signs -/

/-- A sign that is `_` in the name of a file. -/
def fileBlurred (x : Char) : Bool := !fileKept x || x == '_'

/-- Signs that a file name cannot tell apart. -/
def FileConfused (x y : Char) : Prop := x = y ∨ fileBlurred x = true ∧ fileBlurred y = true

/-- The two signs that RFC1459 takes for one and that no file keeps. -/
def isBar (x : Char) : Bool := x == '|' || x == '\\'

/-- Signs that are the same letter and the same in a file. -/
def FileSame (x y : Char) : Prop := x = y ∨ isBar x = true ∧ isBar y = true

theorem fileSign_of_blurred {x : Char} (h : fileBlurred x = true) : fileSign x = '_' := by
  unfold fileBlurred at h
  unfold fileSign
  split
  · rename_i hkept
    rw [hkept] at h
    simpa using h
  · rfl

theorem fileSign_of_clear {x : Char} (h : fileBlurred x = false) : fileSign x = x ∧ x ≠ '_' := by
  unfold fileBlurred at h
  rw [Bool.or_eq_false_iff, Bool.not_eq_false'] at h
  unfold fileSign
  rw [if_pos h.1]
  exact ⟨rfl, by simpa using h.2⟩

theorem fileSign_eq_iff (x y : Char) : fileSign x = fileSign y ↔ FileConfused x y := by
  unfold FileConfused
  cases hx : fileBlurred x with
  | false =>
    obtain ⟨hx₁, hx₂⟩ := fileSign_of_clear hx
    cases hy : fileBlurred y with
    | false =>
      rw [hx₁, (fileSign_of_clear hy).1]
      simp
    | true =>
      rw [hx₁, fileSign_of_blurred hy]
      refine ⟨fun h => absurd h hx₂, fun h => ?_⟩
      rcases h with rfl | ⟨hfalse, -⟩
      · rw [hx] at hy
        cases hy
      · cases hfalse
  | true =>
    cases hy : fileBlurred y with
    | false =>
      obtain ⟨hy₁, hy₂⟩ := fileSign_of_clear hy
      rw [fileSign_of_blurred hx, hy₁]
      refine ⟨fun h => absurd h.symm hy₂, fun h => ?_⟩
      rcases h with rfl | ⟨-, hfalse⟩
      · rw [hx] at hy
        cases hy
      · cases hfalse
    | true =>
      rw [fileSign_of_blurred hx, fileSign_of_blurred hy]
      simp

/-- Of the signs that RFC1459 folds, only the bar is blurred. -/
theorem ircFold_of_blurred {x : Char} (h : fileBlurred x = true) :
    ircFold x = if x = '|' then '\\' else x := by
  have hclear : ∀ c ∈ ['\x7b', '\x7d', '~'], fileBlurred c = false :=
    forall_mem_of_all (by decide)
  have hupper : ¬ ('A' ≤ x ∧ x ≤ 'Z') := by
    intro hx
    have hkept : fileKept x = true := by
      have hletter : x.isUpper = true := decide_eq_true hx
      have hwords : x.isAlphanum = (x.isUpper || x.isLower || x.isDigit) := rfl
      unfold fileKept
      rw [hwords, hletter]
      rfl
    have hne : x ≠ '_' := by
      rintro rfl
      exact absurd hx (by decide)
    unfold fileBlurred at h
    rw [hkept] at h
    exact hne (by simpa using h)
  unfold ircFold
  rw [if_neg hupper]
  have hno : ∀ c ∈ ['\x7b', '\x7d', '~'], x ≠ c := by
    rintro c hc rfl
    rw [hclear x hc] at h
    cases h
  rw [if_neg (hno _ (by decide)), if_neg (hno _ (by decide))]
  split
  · rfl
  · rw [if_neg (hno _ (by decide))]

/-- Signs of one letter that a file cannot tell apart are the same, or bars. -/
theorem fileSame_iff {x y : Char} (h : ircFold x = ircFold y) : FileConfused x y ↔ FileSame x y := by
  constructor
  · rintro (rfl | ⟨hx, hy⟩)
    · exact .inl rfl
    · rw [ircFold_of_blurred hx, ircFold_of_blurred hy] at h
      by_cases hxb : x = '|' <;> by_cases hyb : y = '|' <;> simp only [hxb, hyb, if_true, if_false] at h
      · exact .inl (hxb.trans hyb.symm)
      · right
        rw [hxb, ← h]
        decide
      · right
        rw [hyb, h]
        decide
      · exact .inl h
  · rintro (rfl | ⟨hx, hy⟩)
    · exact .inl rfl
    · have hbar : ∀ c, isBar c = true → fileBlurred c = true := by
        intro c hc
        unfold isBar at hc
        rw [Bool.or_eq_true, beq_iff_eq, beq_iff_eq] at hc
        rcases hc with rfl | rfl <;> decide
      exact .inr ⟨hbar x hx, hbar y hy⟩

/-! ## 2. Names -/

theorem map_eq_map_iff {f : Char → Char} (a b : Text) :
    a.map f = b.map f ↔ List.Forall₂ (fun x y => f x = f y) a b := by
  rw [← List.forall₂_eq_eq_eq, List.forall₂_map_left_iff, List.forall₂_map_right_iff]

/-- The file name of a valid channel name has a sign for each of its bytes but the prefix. -/
theorem safeComponent_valid {name : Text} (h : channelNameValid name = true) :
    safeComponent name = name.tail.map fileSign := by
  unfold channelNameValid at h
  simp only [Bool.and_eq_true, decide_eq_true_eq] at h
  obtain ⟨⟨⟨hstart, htwo⟩, hmax⟩, -⟩ := h
  have hlen : name.tail.length = name.length - 1 := List.length_tail
  unfold safeComponent
  rw [if_pos hstart]
  dsimp only
  rw [bounded_of_length_le (by omega), if_neg]
  rw [List.isEmpty_iff, List.map_eq_nil_iff, ← List.length_eq_zero_iff]
  omega

theorem logPath_eq_iff {a b : Text} (ha : channelNameValid a = true) (hb : channelNameValid b = true)
    (suffix : Text) :
    logPath a suffix = logPath b suffix ↔ List.Forall₂ FileConfused a.tail b.tail := by
  have hpath : logPath a suffix = logPath b suffix ↔ safeComponent a = safeComponent b := by
    unfold logPath
    rw [List.append_left_inj, List.append_left_inj, List.append_right_inj]
  rw [hpath, safeComponent_valid ha, safeComponent_valid hb, map_eq_map_iff]
  simp only [fileSign_eq_iff]

/-- RFC1459-equal names have the same letter everywhere. -/
theorem forall₂_fold_of_nameEq {a b : Text} (h : nameEq a b = true) :
    List.Forall₂ (fun x y => ircFold x = ircFold y) a.tail b.tail := by
  rw [← map_eq_map_iff, List.map_tail, List.map_tail, foldEq_iff.mp h]

theorem forall₂_fileSame_iff {a b : Text}
    (h : List.Forall₂ (fun x y => ircFold x = ircFold y) a b) :
    List.Forall₂ FileConfused a b ↔ List.Forall₂ FileSame a b := by
  induction h with
  | nil => exact ⟨fun _ => .nil, fun _ => .nil⟩
  | cons hxy _ ih => rw [List.forall₂_cons, List.forall₂_cons, fileSame_iff hxy, ih]

/-- **One file for one channel**, at any date: exactly when two spellings of one name differ, after
    the prefix, in nothing but bars, and two names of different channels differ in a sign that a
    file keeps. -/
theorem log_file_iff {a b : Text} (ha : channelNameValid a = true) (hb : channelNameValid b = true)
    (suffix : Text) :
    (logPath a suffix = logPath b suffix ↔ nameEq a b = true) ↔
      (nameEq a b = true ∧ List.Forall₂ FileSame a.tail b.tail) ∨
      (nameEq a b = false ∧ ¬ List.Forall₂ FileConfused a.tail b.tail) := by
  rw [logPath_eq_iff ha hb]
  cases h : nameEq a b with
  | true =>
    rw [forall₂_fileSame_iff (forall₂_fold_of_nameEq h)]
    simp
  | false => simp

/-- Two channels and two files. -/
theorem log_file_iff_ab : logPath "#a".toList "01Jan2026".toList = logPath "#b".toList "01Jan2026".toList ↔
    nameEq "#a".toList "#b".toList = true :=
  (log_file_iff (by decide) (by decide) _).mpr
    (.inr ⟨by decide, fun h => by
      rw [← logPath_eq_iff (by decide) (by decide) []] at h
      exact absurd h (by decide)⟩)

/-- Two channels in one file, and one channel in two files. -/
theorem log_file_shared :
    (logPath "#a+b".toList "01Jan2026".toList = logPath "#a!b".toList "01Jan2026".toList ∧
      nameEq "#a+b".toList "#a!b".toList = false) ∧
    (nameEq "#Chat".toList "#chat".toList = true ∧
      logPath "#Chat".toList "01Jan2026".toList ≠ logPath "#chat".toList "01Jan2026".toList) := by
  decide

end ScratchIrcd
