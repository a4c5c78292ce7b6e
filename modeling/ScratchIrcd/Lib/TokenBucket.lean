/-
  File:      ScratchIrcd/Lib/TokenBucket.lean
  Subject:   Token buckets: what can be taken out of one in a period of time.

  A bucket holds at most `burst` tokens and gains `rate` tokens a second. It is filled when it is
  looked at, from the time of the last look; time 0 stands for "never", and a bucket that was never
  looked at is full. `Spends` is any history of looks, each taking no more than there is.

  * `Spends.tokens_le` -- the bucket never holds more than `burst`;
  * **`Spends.sum_le`** -- what is taken within `t` seconds is at most `burst + rate * t`.
-/
import Mathlib.Algebra.BigOperators.Group.List.Basic
import Mathlib.Tactic.Ring

/-- The tokens left, and when the bucket was last filled. -/
structure Bucket where
  tokens : Nat := 0
  updated : Nat := 0
  deriving DecidableEq, Repr

namespace Bucket

variable (burst rate : Nat)

/-- The tokens of `elapsed` seconds, in an unsigned word of 64 bits. -/
def gain (elapsed : Nat) : Nat := elapsed * rate % 2 ^ 64

/-- Fill the bucket up to now. -/
def refill (now : Nat) (b : Bucket) : Bucket :=
  if b.updated = 0 then ⟨burst, now⟩
  else if now ≤ b.updated then b
  else ⟨if burst ≤ b.tokens ∨ burst - b.tokens ≤ gain rate (now - b.updated) then burst
    else b.tokens + gain rate (now - b.updated), now⟩

/-- Take tokens out. -/
def take (x : Nat) (b : Bucket) : Bucket := { b with tokens := b.tokens - x }

/-- A history, each moment with its time and the tokens taken: the bucket is left alone, or looked
    at. -/
inductive Spends : Bucket → List (Nat × Nat) → Bucket → Prop
  | nil (b : Bucket) : Spends b [] b
  | skip {b b' : Bucket} {now : Nat} {es : List (Nat × Nat)} (h : Spends b es b') :
      Spends b ((now, 0) :: es) b'
  | cons {b b' : Bucket} {now x : Nat} {es : List (Nat × Nat)} (hx : x ≤ (b.refill burst rate now).tokens)
      (h : Spends ((b.refill burst rate now).take x) es b') : Spends b ((now, x) :: es) b'

variable {burst rate} {b b' : Bucket} {now : Nat} {es : List (Nat × Nat)}

theorem refill_tokens_le (h : b.tokens ≤ burst) : (b.refill burst rate now).tokens ≤ burst := by
  unfold refill
  split_ifs with hnew hold hfull
  · exact le_rfl
  · exact h
  · exact le_rfl
  · show b.tokens + gain rate (now - b.updated) ≤ burst
    omega

theorem Spends.tokens_le (h : Spends burst rate b es b') (hb : b.tokens ≤ burst) :
    b'.tokens ≤ burst := by
  induction h with
  | nil => exact hb
  | skip _ ih => exact ih hb
  | cons _ _ ih => exact ih (le_trans (Nat.sub_le _ _) (refill_tokens_le hb))

/-- After a look the bucket is of now. -/
theorem refill_updated (h : b.updated ≤ now) : (b.refill burst rate now).updated = now := by
  unfold refill
  split_ifs with hnew hold
  · rfl
  · exact le_antisymm h hold
  · rfl
  · rfl

/-- A bucket that was looked at gains `rate` tokens a second, and no more. -/
theorem refill_tokens_le_add (hb : b.updated ≠ 0) (hfull : b.tokens ≤ burst) :
    (b.refill burst rate now).tokens ≤ b.tokens + rate * (now - b.updated) := by
  have hgain : gain rate (now - b.updated) ≤ rate * (now - b.updated) := by
    rw [Nat.mul_comm rate]
    exact Nat.mod_le _ _
  unfold refill
  split_ifs with hnew hold hcap
  · exact absurd hnew hb
  · exact Nat.le_add_right _ _
  · show burst ≤ _
    omega
  · show b.tokens + gain rate (now - b.updated) ≤ _
    omega

/-- What is taken up to `z` was there or came since the last look. By induction on the looks: each
    takes from what the last one left. -/
theorem Spends.sum_le_add (h : Spends burst rate b es b') (hb : b.updated ≠ 0) (hfull : b.tokens ≤ burst)
    {z : Nat} (hz : ∀ e ∈ es, e.1 ≤ z) (hsorted : (b.updated :: es.map (·.1)).Pairwise (· ≤ ·))
    (hle : b.updated ≤ z) : (es.map (·.2)).sum ≤ b.tokens + rate * (z - b.updated) := by
  induction h with
  | nil => exact Nat.zero_le _
  | @skip b b' now es h ih =>
    rw [List.map_cons, List.sum_cons, Nat.zero_add]
    exact ih hb hfull (fun e he => hz e (List.mem_cons_of_mem _ he))
      (hsorted.sublist ((List.sublist_cons_self _ _).cons_cons _)) hle
  | @cons b b' now x es hx h ih =>
    rw [List.map_cons, List.pairwise_cons] at hsorted
    have hnow : b.updated ≤ now := hsorted.1 now List.mem_cons_self
    have hz' : now ≤ z := hz (now, x) List.mem_cons_self
    have hup : ((b.refill burst rate now).take x).updated = now := refill_updated hnow
    have hgain : (b.refill burst rate now).tokens ≤ _ := refill_tokens_le_add hb hfull
    have hrest : (es.map (·.2)).sum ≤ (b.refill burst rate now).tokens - x + rate * (z - now) := by
      have := ih (by rw [hup]; omega) (le_trans (Nat.sub_le _ _) (refill_tokens_le hfull))
        (fun e he => hz e (List.mem_cons_of_mem _ he)) (by rw [hup]; exact hsorted.2)
        (by rw [hup]; exact hz')
      rwa [hup] at this
    have hsplit : rate * (z - b.updated) = rate * (now - b.updated) + rate * (z - now) := by
      rw [← Nat.mul_add]
      congr 1
      omega
    rw [List.map_cons, List.sum_cons, hsplit]
    omega

/-- A bucket is never of later than the last look. -/
theorem Spends.updated_le (h : Spends burst rate b es b') {z : Nat} (hb : b.updated ≤ z)
    (hz : ∀ e ∈ es, e.1 ≤ z) : b'.updated ≤ z := by
  induction h with
  | nil => exact hb
  | skip _ ih => exact ih hb fun e he => hz e (List.mem_cons_of_mem _ he)
  | @cons b b' now x es hx h ih =>
    refine ih ?_ fun e he => hz e (List.mem_cons_of_mem _ he)
    show (b.refill burst rate now).updated ≤ z
    unfold refill
    split_ifs
    · exact hz (now, x) List.mem_cons_self
    · exact hb
    · exact hz (now, x) List.mem_cons_self
    · exact hz (now, x) List.mem_cons_self

/-- **What is taken within `t` seconds** is at most a full bucket and what came in that time. -/
theorem Spends.sum_le (h : Spends burst rate b es b') (hfull : b.tokens ≤ burst)
    (hpos : ∀ e ∈ es, 0 < e.1) (hsorted : (b.updated :: es.map (·.1)).Pairwise (· ≤ ·)) {a t : Nat}
    (hperiod : ∀ e ∈ es, a ≤ e.1 ∧ e.1 ≤ a + t) : (es.map (·.2)).sum ≤ burst + rate * t := by
  induction h with
  | nil => exact Nat.zero_le _
  | @skip b b' now es h ih =>
    rw [List.map_cons, List.sum_cons, Nat.zero_add]
    exact ih hfull (fun e he => hpos e (List.mem_cons_of_mem _ he))
      (hsorted.sublist ((List.sublist_cons_self _ _).cons_cons _))
      (fun e he => hperiod e (List.mem_cons_of_mem _ he))
  | @cons b b' now x es hx h =>
    rw [List.map_cons, List.pairwise_cons] at hsorted
    have hnow : b.updated ≤ now := hsorted.1 now List.mem_cons_self
    obtain ⟨ha, hz⟩ := hperiod (now, x) List.mem_cons_self
    have hup : ((b.refill burst rate now).take x).updated = now := refill_updated hnow
    have hfirst : (b.refill burst rate now).tokens ≤ burst := refill_tokens_le hfull
    have hrest := h.sum_le_add (by rw [hup]; exact (hpos (now, x) List.mem_cons_self).ne')
      (le_trans (Nat.sub_le _ _) hfirst) (z := a + t)
      (fun e he => (hperiod e (List.mem_cons_of_mem _ he)).2) (by rw [hup]; exact hsorted.2)
      (by rw [hup]; exact hz)
    rw [hup] at hrest
    have hspan : rate * (a + t - now) ≤ rate * t := Nat.mul_le_mul_left _ (by omega)
    have htake : ((b.refill burst rate now).take x).tokens = (b.refill burst rate now).tokens - x := rfl
    rw [List.map_cons, List.sum_cons]
    omega

/-- The same for the last part of a whole history of a new bucket. -/
theorem Spends.sum_le_after {es' : List (Nat × Nat)} {b : Bucket} (h : Spends burst rate {} es b)
    (h' : Spends burst rate b es' b') (hpos : ∀ e ∈ es', 0 < e.1)
    (hsorted : ((es ++ es').map (·.1)).Pairwise (· ≤ ·)) {a t : Nat}
    (hperiod : ∀ e ∈ es', a ≤ e.1 ∧ e.1 ≤ a + t) : (es'.map (·.2)).sum ≤ burst + rate * t := by
  rw [List.map_append, List.pairwise_append] at hsorted
  obtain ⟨-, hlater, hcross⟩ := hsorted
  refine h'.sum_le (h.tokens_le (Nat.zero_le _)) hpos (List.pairwise_cons.mpr ⟨?_, hlater⟩) hperiod
  intro z hz
  exact h.updated_le (Nat.zero_le _) fun e he => hcross _ (List.mem_map_of_mem he) _ hz

end Bucket
