/-
  File:      ScratchIrcd/MaskMatch.lean
  Subject:   The two greedy matchers, `irc_mask_match` (channel_policy.c) and `wildcard_match`
             (ban_db.c).

  Both loops go back to the last star only (Lib/Glob.lean says why that is enough); they differ in
  how a letter is folded. A loop that is cut off by its fuel answers false, so beside the answer
  the loop is followed turn by turn, where a cut off loop has no answer.
-/
import ScratchIrcd.ElineMask

namespace ScratchIrcd

open CText

/-- A sign of a mask, but for the star, fits a letter. -/
def maskFits (c t : Char) : Bool := c == '?' || rfc1459Fold c == rfc1459Fold t

/-- The texts of a mask. -/
def MaskMatches : Text → Text → Prop := Glob.Matches '*' maskFits

theorem maskMatchLoop_eq (n : Nat) : maskMatchLoop n = Glob.search '*' maskFits n := by
  refine Glob.eq_search (fun _ _ _ => rfl) (fun _ _ _ => rfl) ?_ ?_ n
  · intro n x t back
    rcases back with _ | ⟨sp, _ | ⟨y, rest⟩⟩ <;> rfl
  · intro n c p x t back
    by_cases hc : c = '*'
    · subst hc
      rfl
    · rw [if_neg (by simpa using hc)]
      conv_lhs => unfold maskMatchLoop
      dsimp only
      split
      · rename_i heq
        exact absurd (List.cons.inj heq).1 hc
      · rename_i heq
        obtain ⟨rfl, rfl⟩ := List.cons.inj heq
        rcases back with _ | ⟨sp, _ | ⟨y, rest⟩⟩ <;> rfl
      · rename_i heq
        cases heq

theorem ircMaskMatch_iff {p t : Text} : ircMaskMatch p t = true ↔ MaskMatches p t := by
  unfold ircMaskMatch MaskMatches
  rw [maskMatchLoop_eq]
  exact Glob.search_none_iff (turns_lt p t)

/-- `irc_mask_match` after some turns of its loop, `none` as long as it has not returned. -/
def ircMaskRun (turns : Nat) (pattern text : Text) : Option Bool :=
  Glob.run '*' maskFits turns pattern text none

/-- `wildcard_match` after some turns of its loop. -/
def wildcardRun (turns : Nat) (pattern text : Text) : Option Bool :=
  Glob.run '*' wildcardFits turns pattern text none

/-- **Enough turns, and always the same answer.** -/
theorem run_eventually {fits : Char → Char → Bool} {matched : Bool} (p t : Text)
    (h : matched = true ↔ Glob.Matches '*' fits p t) :
    ∃ turns, ∀ n, turns ≤ n → Glob.run '*' fits n p t none = some matched := by
  refine ⟨(t.length + 1) * (p.length + t.length + 2), fun n hn => ?_⟩
  have hturns := Nat.lt_of_lt_of_le (turns_lt p t) hn
  rw [Glob.run_none hturns, Option.some.injEq, Bool.eq_iff_iff, h]
  exact Glob.search_none_iff hturns

/-- **Both matchers return, and decide their patterns.** A star stands for any text, a question mark
    for any letter, and every other sign for the letters that fold as it does. -/
theorem greedy_matchers_decide (pattern text : Text) :
    ((∃ turns, ∀ n, turns ≤ n → ircMaskRun n pattern text = some (ircMaskMatch pattern text)) ∧
      (ircMaskMatch pattern text = true ↔ MaskMatches pattern text)) ∧
    (∃ turns, ∀ n, turns ≤ n → wildcardRun n pattern text = some (wildcardMatch pattern text)) ∧
      (wildcardMatch pattern text = true ↔ WildcardMatches pattern text) :=
  ⟨⟨run_eventually pattern text ircMaskMatch_iff, ircMaskMatch_iff⟩,
    run_eventually pattern text wildcardMatch_iff, wildcardMatch_iff⟩

end ScratchIrcd
