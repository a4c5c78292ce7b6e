/-
  File:      ScratchIrcd/Lib/Runs.lean
  Subject:   Runs of a deterministic event machine, and the two rules every safety proof
             about one uses.

  A machine is a function `step : σ → ε → σ`. A run is a start state and a list of events;
  `Allowed ok s es` says that each event meets the side condition `ok` in the state it finds.

  * `exec_invariant` -- what holds at the start and is kept by every allowed step holds in
    every state the run reaches;
  * `steps_invariant` -- the same over the reflexive transitive closure of a step relation, the
    form in which a concrete machine is refined by an abstract one;
  * `tally_le` -- what every step pays for from a level, and only some steps pay in, happens no
    more often than that;
  * `last_touch` -- what only some events touch is as the last of them left it.
-/
import Mathlib.Data.List.Induction
import Mathlib.Logic.Relation

namespace Runs

variable {σ ε : Type*} (step : σ → ε → σ)

/-- The state a list of events leads to. -/
def exec (s : σ) (es : List ε) : σ := es.foldl step s

@[simp] theorem exec_cons (s : σ) (e : ε) (es : List ε) :
    exec step s (e :: es) = exec step (step s e) es := rfl

theorem exec_append (s : σ) (es es' : List ε) :
    exec step s (es ++ es') = exec step (exec step s es) es' := List.foldl_append

/-- Every event of the run meets the side condition `ok` in the state it is handled in. -/
def Allowed (ok : σ → ε → Prop) : σ → List ε → Prop
  | _, [] => True
  | s, e :: es => ok s e ∧ Allowed ok (step s e) es

variable {step}

/-- A side condition that does not look at the state. -/
theorem allowed_of_forall {ok : ε → Prop} (s : σ) {es : List ε} (h : ∀ e ∈ es, ok e) :
    Allowed step (fun _ e => ok e) s es := by
  induction es generalizing s with
  | nil => trivial
  | cons e es ih => exact ⟨h e List.mem_cons_self, ih _ fun e' he' => h e' (List.mem_cons_of_mem _ he')⟩

/-- **The invariant rule**: kept by every allowed step, so true in the state the run reaches. -/
theorem exec_invariant {ok : σ → ε → Prop} {P : σ → Prop}
    (hstep : ∀ s e, P s → ok s e → P (step s e)) {s : σ} {es : List ε} (h0 : P s)
    (ha : Allowed step ok s es) : P (exec step s es) := by
  induction es generalizing s with
  | nil => exact h0
  | cons e es ih => exact ih (hstep s e h0 ha.1) ha.2

/-- What no step changes. -/
theorem exec_same {α : Type*} (value : σ → α) (hkeep : ∀ s e, value (step s e) = value s) (s : σ)
    (es : List ε) : value (exec step s es) = value s := by
  induction es generalizing s with
  | nil => rfl
  | cons e es ih => exact (ih _).trans (hkeep s e)

/-- The invariant rule for what every step does. -/
theorem Allowed.of_invariant {ok good : σ → ε → Prop} {P : σ → Prop}
    (hstep : ∀ s e, P s → ok s e → P (step s e)) (hgood : ∀ s e, P s → ok s e → good s e) {s : σ}
    {es : List ε} (h0 : P s) (ha : Allowed step ok s es) : Allowed step good s es := by
  induction es generalizing s with
  | nil => trivial
  | cons e es ih => exact ⟨hgood s e h0 ha.1, ih (hstep s e h0 ha.1) ha.2⟩

/-- The invariant rule over a step relation. -/
theorem steps_invariant {α : Type*} {R : α → α → Prop} {P : α → Prop}
    (hstep : ∀ a b, P a → R a b → P b) {a b : α} (h0 : P a)
    (h : Relation.ReflTransGen R a b) : P b := by
  induction h with
  | refl => exact h0
  | tail _ hbc ih => exact hstep _ _ ih hbc

/-! ## Counting -/

/-- How many events of a run `p` holds of. -/
def tally (step : σ → ε → σ) (p : σ → ε → Bool) : σ → List ε → Nat
  | _, [] => 0
  | s, e :: es => (p s e).toNat + tally step p (step s e) es

/-- **The accounting rule**: whatever `p` spends was there at the start or paid in by `q`. -/
theorem tally_le {P : σ → Prop} (level : σ → Nat) {p q : σ → ε → Bool}
    (hstep : ∀ s e, P s → P (step s e) ∧
      level (step s e) + (p s e).toNat ≤ level s + (q s e).toNat) {s : σ} (h0 : P s) (es : List ε) :
    tally step p s es ≤ level s + tally step q s es := by
  induction es generalizing s with
  | nil => exact Nat.zero_le _
  | cons e es ih =>
    obtain ⟨hnext, hpaid⟩ := hstep s e h0
    have hrest := ih hnext
    simp only [tally]
    omega

/-! ## The last event that touched something -/

/-- No event of the run touches it. -/
def Untouched (step : σ → ε → σ) (touch : σ → ε → Bool) (s : σ) (es : List ε) : Prop :=
  ∀ front e back, es = front ++ e :: back → touch (exec step s front) e = false

variable {touch : σ → ε → Bool}

theorem Untouched.concat {s : σ} {es : List ε} (h : Untouched step touch s es) {e : ε}
    (he : touch (exec step s es) e = false) : Untouched step touch s (es ++ [e]) := by
  intro front e' back heq
  rcases List.eq_nil_or_concat back with rfl | ⟨back, last, rfl⟩
  · obtain ⟨rfl, hlast⟩ := List.append_inj' heq rfl
    rwa [← List.singleton_inj.mp hlast]
  · have hsplit : es ++ [e] = (front ++ e' :: back) ++ [last] := by
      rw [heq]
      simp
    exact h front e' back (List.append_inj' hsplit rfl).1

/-- Either nothing touched it, or there is a last event that did, and it is as that event left it. -/
theorem last_touch {α : Type*} (value : σ → α) (hkeep : ∀ s e, touch s e = false → value (step s e) = value s)
    (s : σ) (es : List ε) :
    value (exec step s es) = value s ∨
      ∃ front e back, es = front ++ e :: back ∧ touch (exec step s front) e = true ∧
        Untouched step touch (exec step s (front ++ [e])) back ∧
        value (exec step s es) = value (step (exec step s front) e) := by
  induction es using List.reverseRecOn with
  | nil => exact .inl rfl
  | append_singleton es e ih =>
    have hexec : exec step s (es ++ [e]) = step (exec step s es) e := exec_append step s es [e]
    cases htouch : touch (exec step s es) e with
    | true =>
      refine .inr ⟨es, e, [], rfl, htouch, fun front _ _ heq => ?_, by rw [hexec]⟩
      exact absurd heq.symm (List.append_ne_nil_of_right_ne_nil front (List.cons_ne_nil _ _))
    | false =>
      have hsame : value (exec step s (es ++ [e])) = value (exec step s es) := by rw [hexec, hkeep _ _ htouch]
      rcases ih with hstart | ⟨front, e', back, rfl, he', hback, hvalue⟩
      · exact .inl (hsame.trans hstart)
      · refine .inr ⟨front, e', back ++ [e], by simp, he', hback.concat ?_, hsame.trans hvalue⟩
        rw [← exec_append, List.append_assoc]
        exact htouch

/-- The last event that touched it comes after every other one that did. -/
theorem Untouched.after {s : σ} {front back u v : List ε} {e e' : ε}
    (h : Untouched step touch (exec step s (front ++ [e])) back) (heq : front ++ e :: back = u ++ e' :: v)
    (he' : touch (exec step s u) e' = true) (hne : e ≠ e') : e ∈ v := by
  rcases List.append_eq_append_iff.mp heq with ⟨w, rfl, hw⟩ | ⟨w, rfl, hw⟩
  · cases w with
    | nil => exact absurd (List.cons.inj hw).1 hne
    | cons x w =>
      obtain ⟨rfl, hback⟩ := List.cons.inj hw
      have hfalse := h w e' v hback
      rw [← exec_append, List.append_assoc, List.singleton_append, he'] at hfalse
      cases hfalse
  · cases w with
    | nil => exact absurd (List.cons.inj hw).1.symm hne
    | cons x w =>
      obtain ⟨-, rfl⟩ := List.cons.inj hw
      exact List.mem_append_right _ List.mem_cons_self

end Runs
