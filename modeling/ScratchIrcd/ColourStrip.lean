/-
  File:      ScratchIrcd/ColourStrip.lean
  Subject:   What is left after `message_strip_color` (src/message_policy.c).

  The scan removes whole codes: `\x03` and `\x04` with their digits, and ANSI SGR sequences. It
  goes on behind the code it removed and never looks back, so the two ends of the hole meet
  unseen: an escape that starts nothing (`ESC` `ESC[m` `[m`) is kept, the code behind it goes, and
  what follows makes a sequence of it. `Rejoins` describes these texts; for all others the result
  is clean.
-/
import ScratchIrcd.Message

namespace ScratchIrcd

open CText

variable {x : Char} {rest text : Text}

/-! ## 1. The scan as a function of the text alone -/

/-- Digits, semicolons and colons: what may stand between `ESC[` and `m`. -/
def isSgrParam (x : Char) : Bool := x.isDigit || x == ';' || x == ':'

/-- What follows the code at the front of the text, if there is one. -/
def dropCode : Text → Option Text
  | [] => none
  | x :: text =>
      if x == '\x03' then some (skipIrcColor text)
      else if x == '\x04' then some (skipIrcHexColor text)
      else if x == '\x1b' then skipAnsiSgr text
      else none

/-- The result of the scan. -/
def stripColor (text : Text) : Text := stripColorLoop text.length text

theorem skipUpTo_suffix (kind : Char → Bool) (n : Nat) (text : Text) :
    skipUpTo kind n text <:+ text := by
  induction n generalizing text with
  | zero => exact List.suffix_refl _
  | succ n ih =>
    cases text with
    | nil => exact List.suffix_refl _
    | cons x text =>
      unfold skipUpTo
      split
      · exact (ih text).trans (List.suffix_cons x text)
      · exact List.suffix_refl _

theorem skipColor_suffix (digit : Char → Bool) (n : Nat) (text : Text) :
    skipColor digit n text <:+ text := by
  unfold skipColor
  split
  · rename_i rest hskip
    have hcomma : rest <:+ ',' :: rest := List.suffix_cons ',' rest
    exact ((skipUpTo_suffix digit n rest).trans hcomma).trans (hskip ▸ skipUpTo_suffix digit n text)
  · exact skipUpTo_suffix digit n text

/-- `skip_ansi_sgr` finds `[`, parameters and `m`. -/
theorem skipAnsiSgr_eq_some :
    skipAnsiSgr text = some rest ↔
      ∃ params : Text, (∀ x ∈ params, isSgrParam x = true) ∧ text = '[' :: params ++ 'm' :: rest := by
  constructor
  · intro h
    unfold skipAnsiSgr at h
    split at h
    · rename_i t
      split at h
      · rename_i rest' hdrop
        cases h
        refine ⟨t.takeWhile isSgrParam, fun x hx => List.mem_takeWhile_imp hx, ?_⟩
        have hsplit : t.takeWhile isSgrParam ++ t.dropWhile isSgrParam = t :=
          List.takeWhile_append_dropWhile
        have hdrop' : t.dropWhile isSgrParam = 'm' :: rest := hdrop
        rw [hdrop'] at hsplit
        rw [List.cons_append, hsplit]
      · cases h
    · cases h
  · rintro ⟨params, hparams, rfl⟩
    have hdrop : (params ++ 'm' :: rest).dropWhile isSgrParam = 'm' :: rest := by
      rw [List.dropWhile_append_of_pos hparams]
      rfl
    have hdrop' : (params ++ 'm' :: rest).dropWhile (fun x => x.isDigit || x == ';' || x == ':') =
        'm' :: rest := hdrop
    simp only [skipAnsiSgr, List.cons_append, hdrop']

/-- A code takes at least one character, and leaves an end of the text. -/
theorem dropCode_suffix (h : dropCode (x :: text) = some rest) : rest <:+ text := by
  rw [dropCode] at h
  split at h
  · cases h
    exact skipColor_suffix _ _ _
  split at h
  · cases h
    exact skipColor_suffix _ _ _
  split at h
  · obtain ⟨params, -, rfl⟩ := skipAnsiSgr_eq_some.mp h
    exact ⟨'[' :: params ++ ['m'], by simp⟩
  · cases h

/-- One turn of the loop. -/
theorem stripColorLoop_succ (fuel : Nat) (x : Char) (text : Text) :
    stripColorLoop (fuel + 1) (x :: text) =
      (dropCode (x :: text)).elim (x :: stripColorLoop fuel text) (stripColorLoop fuel) := by
  rw [dropCode, stripColorLoop]
  split
  · rfl
  split
  · rfl
  split
  · cases skipAnsiSgr text <;> rfl
  · rfl

/-- Fuel for every character is enough. -/
theorem stripColorLoop_fuel (n m : Nat) (text : Text) (hn : text.length ≤ n) (hm : text.length ≤ m) :
    stripColorLoop n text = stripColorLoop m text := by
  induction n generalizing m text with
  | zero =>
    rw [List.length_eq_zero_iff.mp (Nat.le_zero.mp hn)]
    cases m <;> rfl
  | succ n ih =>
    cases text with
    | nil => cases m <;> rfl
    | cons x text =>
      obtain ⟨m, rfl⟩ : ∃ k, m = k + 1 := Nat.exists_eq_succ_of_ne_zero (by rintro rfl; simp at hm)
      rw [List.length_cons] at hn hm
      rw [stripColorLoop_succ, stripColorLoop_succ]
      cases hcode : dropCode (x :: text) with
      | none => exact congrArg (x :: ·) (ih m text (by omega) (by omega))
      | some rest =>
        have hrest := (dropCode_suffix hcode).length_le
        exact ih m rest (by omega) (by omega)

@[simp] theorem stripColor_nil : stripColor [] = [] := rfl

/-- A code at the front goes. -/
theorem stripColor_of_code (h : dropCode text = some rest) : stripColor text = stripColor rest := by
  cases text with
  | nil => cases h
  | cons x text =>
    unfold stripColor
    rw [List.length_cons, stripColorLoop_succ, h]
    exact stripColorLoop_fuel _ _ rest (dropCode_suffix h).length_le le_rfl

/-- A character that starts no code stays. -/
theorem stripColor_of_plain (h : dropCode (x :: text) = none) :
    stripColor (x :: text) = x :: stripColor text := by
  unfold stripColor
  rw [List.length_cons, stripColorLoop_succ, h]
  rfl

/-- Induction along the scan. -/
theorem scan_induct {P : Text → Prop} (nil : P [])
    (code : ∀ text rest, dropCode text = some rest → P rest → P text)
    (plain : ∀ x text, dropCode (x :: text) = none → P text → P (x :: text)) (text : Text) : P text := by
  induction hlen : text.length using Nat.strong_induction_on generalizing text with
  | h n ih =>
    cases text with
    | nil => exact nil
    | cons x text =>
      rw [List.length_cons] at hlen
      cases hcode : dropCode (x :: text) with
      | none => exact plain x text hcode (ih text.length (by omega) text rfl)
      | some rest =>
        have hrest := (dropCode_suffix hcode).length_le
        exact code _ rest hcode (ih rest.length (by omega) rest rfl)

/-! ## 2. What is always so -/

theorem stripColor_sublist (text : Text) : (stripColor text).Sublist text := by
  induction text using scan_induct with
  | nil => exact List.Sublist.refl _
  | code text rest h ih =>
    rw [stripColor_of_code h]
    cases text with
    | nil => cases h
    | cons x text => exact (ih.trans (dropCode_suffix h).sublist).trans (List.sublist_cons_self x text)
  | plain x text h ih =>
    rw [stripColor_of_plain h]
    exact ih.cons_cons x

/-- A character that is kept is no colour code. -/
theorem not_color_of_plain (h : dropCode (x :: text) = none) : x ≠ '\x03' ∧ x ≠ '\x04' := by
  rw [dropCode] at h
  constructor
  · rintro rfl
    simp at h
  · rintro rfl
    simp at h

theorem not_color_of_mem_stripColor (hx : x ∈ stripColor text) : x ≠ '\x03' ∧ x ≠ '\x04' := by
  induction text using scan_induct with
  | nil => cases hx
  | code text rest h ih =>
    rw [stripColor_of_code h] at hx
    exact ih hx
  | plain y text h ih =>
    rw [stripColor_of_plain h] at hx
    rcases List.mem_cons.mp hx with rfl | hx
    · exact not_color_of_plain h
    · exact ih hx

/-! ## 3. Sequences that come together -/

/-- An SGR sequence, after its escape. -/
def StartsSgr (text : Text) : Prop := (skipAnsiSgr text).isSome = true

/-- There is an SGR sequence in the text. -/
def HasSgr (text : Text) : Prop := ∃ before after, text = before ++ '\x1b' :: after ∧ StartsSgr after

/-- The text reads, between codes that will be removed, `[` (unless it was read), parameters
    and `m`. -/
inductive Spells : Bool → Text → Prop where
  | code {opened : Bool} {text rest : Text} (h : dropCode text = some rest) :
      Spells opened rest → Spells opened text
  | bracket {text : Text} : Spells true text → Spells false ('[' :: text)
  | param {x : Char} {text : Text} (hx : isSgrParam x = true) :
      Spells true text → Spells true (x :: text)
  | close {text : Text} : Spells true ('m' :: text)

/-- Somewhere an escape that starts no sequence is followed by the rest of one, with codes
    between its characters. -/
inductive Rejoins : Text → Prop where
  | here {text : Text} (h : skipAnsiSgr text = none) : Spells false text → Rejoins ('\x1b' :: text)
  | code {text rest : Text} (h : dropCode text = some rest) : Rejoins rest → Rejoins text
  | plain {x : Char} {text : Text} (h : dropCode (x :: text) = none) :
      Rejoins text → Rejoins (x :: text)

/-- `[`, if still to come, parameters and `m` at the front of a text. -/
def Completes : Bool → Text → Prop
  | false, text => StartsSgr text
  | true, text => ∃ params rest : Text, (∀ x ∈ params, isSgrParam x = true) ∧ text = params ++ 'm' :: rest

theorem completes_false_iff :
    Completes false text ↔ ∃ rest, text = '[' :: rest ∧ Completes true rest := by
  constructor
  · intro h
    obtain ⟨rest, h⟩ := Option.isSome_iff_exists.mp h
    obtain ⟨params, hparams, rfl⟩ := skipAnsiSgr_eq_some.mp h
    exact ⟨params ++ 'm' :: rest, rfl, params, rest, hparams, rfl⟩
  · rintro ⟨-, rfl, params, rest, hparams, rfl⟩
    exact Option.isSome_iff_exists.mpr ⟨rest, skipAnsiSgr_eq_some.mpr ⟨params, hparams, rfl⟩⟩

theorem completes_true_cons :
    Completes true (x :: text) ↔ x = 'm' ∨ isSgrParam x = true ∧ Completes true text := by
  constructor
  · rintro ⟨params, rest, hparams, heq⟩
    cases params with
    | nil => exact .inl (List.cons.inj heq).1
    | cons y params =>
      obtain ⟨rfl, rfl⟩ := List.cons.inj heq
      obtain ⟨hx, hparams⟩ := List.forall_mem_cons.mp hparams
      exact .inr ⟨hx, params, rest, hparams, rfl⟩
  · rintro (rfl | ⟨hx, params, rest, hparams, rfl⟩)
    · exact ⟨[], text, fun _ h => absurd h List.not_mem_nil, rfl⟩
    · exact ⟨x :: params, rest, List.forall_mem_cons.mpr ⟨hx, hparams⟩, rfl⟩

/-- Only three characters start a code. -/
theorem dropCode_of_visible (h : x ≠ '\x03' ∧ x ≠ '\x04' ∧ x ≠ '\x1b') :
    dropCode (x :: text) = none := by
  obtain ⟨h3, h4, hesc⟩ := h
  rw [dropCode]
  simp [h3, h4, hesc]

theorem visible_of_isSgrParam (hx : isSgrParam x = true) :
    x ≠ '\x03' ∧ x ≠ '\x04' ∧ x ≠ '\x1b' := by
  refine ⟨?_, ?_, ?_⟩ <;> rintro rfl <;> exact absurd hx (by decide)

theorem spells_code_iff {opened : Bool} (h : dropCode text = some rest) :
    Spells opened text ↔ Spells opened rest := by
  refine ⟨fun hs => ?_, Spells.code h⟩
  cases hs with
  | code h' hs =>
    rw [h] at h'
    cases h'
    exact hs
  | bracket hs =>
    rw [dropCode_of_visible (by decide)] at h
    cases h
  | param hx hs =>
    rw [dropCode_of_visible (visible_of_isSgrParam hx)] at h
    cases h
  | close =>
    rw [dropCode_of_visible (by decide)] at h
    cases h

theorem spells_false_plain (h : dropCode (x :: text) = none) :
    Spells false (x :: text) ↔ x = '[' ∧ Spells true text := by
  constructor
  · intro hs
    cases hs with
    | code h' hs => rw [h] at h'; cases h'
    | bracket hs => exact ⟨rfl, hs⟩
  · rintro ⟨rfl, hs⟩
    exact .bracket hs

theorem spells_true_plain (h : dropCode (x :: text) = none) :
    Spells true (x :: text) ↔ x = 'm' ∨ isSgrParam x = true ∧ Spells true text := by
  constructor
  · intro hs
    cases hs with
    | code h' hs => rw [h] at h'; cases h'
    | param hx hs => exact .inr ⟨hx, hs⟩
    | close => exact .inl rfl
  · rintro (rfl | ⟨hx, hs⟩)
    · exact .close
    · exact .param hx hs

/-- What is spelled between codes stands together when the codes are gone. -/
theorem spells_iff (text : Text) : ∀ opened, Spells opened text ↔ Completes opened (stripColor text) := by
  induction text using scan_induct with
  | nil =>
    intro opened
    refine iff_of_false (fun hs => ?_) (fun hc => ?_)
    · cases hs with
      | code h => cases h
    · cases opened with
      | false => exact Bool.false_ne_true hc
      | true =>
        obtain ⟨params, rest, -, heq⟩ := hc
        exact absurd heq (by simp)
  | code text rest h ih =>
    intro opened
    rw [stripColor_of_code h, ← ih opened]
    exact spells_code_iff h
  | plain x text h ih =>
    intro opened
    rw [stripColor_of_plain h]
    cases opened with
    | false =>
      rw [spells_false_plain h, completes_false_iff, ih true]
      constructor
      · rintro ⟨rfl, hc⟩
        exact ⟨_, rfl, hc⟩
      · rintro ⟨rest, heq, hc⟩
        obtain ⟨rfl, rfl⟩ := List.cons.inj heq
        exact ⟨rfl, hc⟩
    | true => rw [spells_true_plain h, completes_true_cons, ih true]

theorem hasSgr_cons : HasSgr (x :: text) ↔ x = '\x1b' ∧ StartsSgr text ∨ HasSgr text := by
  constructor
  · rintro ⟨before, after, heq, hstart⟩
    cases before with
    | nil =>
      obtain ⟨rfl, rfl⟩ := List.cons.inj heq
      exact .inl ⟨rfl, hstart⟩
    | cons y before =>
      obtain ⟨rfl, rfl⟩ := List.cons.inj heq
      exact .inr ⟨before, after, rfl, hstart⟩
  · rintro (⟨rfl, hstart⟩ | ⟨before, after, rfl, hstart⟩)
    · exact ⟨[], text, rfl, hstart⟩
    · exact ⟨x :: before, after, rfl, hstart⟩

/-- **An SGR sequence is left over exactly when one comes together.** -/
theorem hasSgr_stripColor_iff (text : Text) : HasSgr (stripColor text) ↔ Rejoins text := by
  induction text using scan_induct with
  | nil =>
    refine iff_of_false ?_ (fun hr => ?_)
    · rintro ⟨before, after, heq, -⟩
      exact absurd heq (by simp)
    · cases hr with
      | code h => cases h
  | code text rest h ih =>
    rw [stripColor_of_code h, ih]
    refine ⟨Rejoins.code h, fun hr => ?_⟩
    cases hr with
    | @here text h' =>
      have hnone : dropCode ('\x1b' :: text) = none := h'
      rw [hnone] at h
      cases h
    | code h' hr => rw [h] at h'; cases h'; exact hr
    | plain h' => rw [h] at h'; cases h'
  | plain x text h ih =>
    rw [stripColor_of_plain h, hasSgr_cons, ih]
    constructor
    · rintro (⟨rfl, hstart⟩ | hr)
      · exact .here h ((spells_iff text false).mpr hstart)
      · exact .plain h hr
    · intro hr
      cases hr with
      | here _ hs => exact .inl ⟨rfl, (spells_iff text false).mp hs⟩
      | code h' => rw [h] at h'; cases h'
      | plain _ hr => exact .inr hr

/-- Without colour codes and sequences there is nothing to remove. -/
theorem stripColor_of_clean (h3 : '\x03' ∉ text) (h4 : '\x04' ∉ text) (hsgr : ¬ HasSgr text) :
    stripColor text = text := by
  induction text with
  | nil => rfl
  | cons x text ih =>
    rw [hasSgr_cons, not_or] at hsgr
    have hx3 : '\x03' ≠ x := fun h => h3 (h ▸ List.mem_cons_self)
    have hx4 : '\x04' ≠ x := fun h => h4 (h ▸ List.mem_cons_self)
    have hplain : dropCode (x :: text) = none := by
      by_cases hesc : x = '\x1b'
      · subst hesc
        have hnone : ¬ StartsSgr text := fun hs => hsgr.1 ⟨rfl, hs⟩
        exact Option.not_isSome_iff_eq_none.mp hnone
      · exact dropCode_of_visible ⟨hx3.symm, hx4.symm, hesc⟩
    rw [stripColor_of_plain hplain, ih (fun h => h3 (List.mem_cons_of_mem x h))
      (fun h => h4 (List.mem_cons_of_mem x h)) hsgr.2]

/-! ## 4. The buffer -/

/-- The text fits, so nothing is cut off. -/
theorem messageStripColor_eq {outSize : Nat} (h : text.length < outSize) :
    messageStripColor outSize text = stripColor text := by
  unfold messageStripColor
  have hlen := (stripColor_sublist text).length_le
  exact bounded_of_length_le (by unfold stripColor at hlen; omega)

/-- No colour code, no SGR sequence, nothing added, and nothing left to strip. -/
structure Stripped (outSize : Nat) (text : Text) : Prop where
  noColor : '\x03' ∉ messageStripColor outSize text
  noHexColor : '\x04' ∉ messageStripColor outSize text
  noSgr : ¬ HasSgr (messageStripColor outSize text)
  sublist : (messageStripColor outSize text).Sublist text
  again : messageStripColor outSize (messageStripColor outSize text) = messageStripColor outSize text

/-- **Stripping a text that fits the buffer is complete exactly when no escape of it is joined to
    the rest of a sequence by the removal of the codes between them.** -/
theorem stripped_iff {outSize : Nat} {text : Text} (h : text.length < outSize) :
    Stripped outSize text ↔ ¬ Rejoins text := by
  have hsub := stripColor_sublist text
  have hagain : (stripColor text).length < outSize := hsub.length_le.trans_lt h
  have h3 : '\x03' ∉ stripColor text := fun hx => (not_color_of_mem_stripColor hx).1 rfl
  have h4 : '\x04' ∉ stripColor text := fun hx => (not_color_of_mem_stripColor hx).2 rfl
  rw [← hasSgr_stripColor_iff]
  constructor
  · intro hs
    have hsgr := hs.noSgr
    rwa [messageStripColor_eq h] at hsgr
  · intro hsgr
    refine ⟨?_, ?_, ?_, ?_, ?_⟩
    all_goals rw [messageStripColor_eq h]
    · exact h3
    · exact h4
    · exact hsgr
    · exact hsub
    · rw [messageStripColor_eq hagain, stripColor_of_clean h3 h4 hsgr]

/-- An escape, a whole sequence, and the rest of a sequence for the first escape. -/
theorem not_stripped_nested :
    messageStripColor 1024 "\x1b\x1b[m[31mred".toList = "\x1b[31mred".toList ∧
      messageStripColor 1024 (messageStripColor 1024 "\x1b\x1b[m[31mred".toList) = "red".toList := by
  decide

theorem stripped_iff_bold : Stripped 1024 "\x1b[1mhi\x034,12!".toList := by
  refine (stripped_iff (by decide)).mpr fun hr => ?_
  obtain ⟨before, after, heq, -⟩ := (hasSgr_stripColor_iff _).mpr hr
  have hesc : '\x1b' ∈ stripColor "\x1b[1mhi\x034,12!".toList := by
    rw [heq]
    exact List.mem_append_right before List.mem_cons_self
  exact absurd hesc (by decide)

end ScratchIrcd
