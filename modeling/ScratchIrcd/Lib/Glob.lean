/-
  File:      ScratchIrcd/Lib/Glob.lean
  Subject:   Patterns with a star, and the matcher that goes back to the last star only.

  A pattern is a list of signs; `star` stands for any text, and every other sign for one letter
  that `fits`. The matcher keeps the pattern behind the last star it met and the text it met it at.
  On a mismatch it lets that star take one letter more. Older stars need not be tried again: what
  an older star could still reach, the last one reaches too (`Matches.shift`).
-/
import Mathlib.Data.List.Infix

namespace Glob

variable {limit n size : Nat}

variable {α β : Type*} [DecidableEq α] (star : α) (fits : α → β → Bool)

/-! ## 1. What a pattern matches -/

/-- The texts of a pattern. -/
def Matches : List α → List β → Prop
  | [], t => t = []
  | c :: p, t =>
      if c = star then ∃ t', t' <:+ t ∧ Matches p t'
      else ∃ x t', t = x :: t' ∧ fits c x = true ∧ Matches p t'

variable {star fits}

theorem matches_star {p : List α} {t : List β} :
    Matches star fits (star :: p) t ↔ ∃ t', t' <:+ t ∧ Matches star fits p t' := by
  rw [Matches, if_pos rfl]

theorem matches_cons {c : α} (hc : c ≠ star) {p : List α} {x : β} {t : List β} :
    Matches star fits (c :: p) (x :: t) ↔ fits c x = true ∧ Matches star fits p t := by
  rw [Matches, if_neg hc]
  constructor
  · rintro ⟨x', t', heq, hfits, hrest⟩
    cases heq
    exact ⟨hfits, hrest⟩
  · rintro ⟨hfits, hrest⟩
    exact ⟨x, t, rfl, hfits, hrest⟩

theorem not_matches_cons_nil {c : α} (hc : c ≠ star) {p : List α} :
    ¬ Matches star fits (c :: p) ([] : List β) := by
  rw [Matches, if_neg hc]
  rintro ⟨x, t', heq, -⟩
  cases heq

/-- A star takes more. -/
theorem Matches.star_suffix {p : List α} {t t' : List β} (h : Matches star fits (star :: p) t')
    (ht : t' <:+ t) : Matches star fits (star :: p) t := by
  obtain ⟨t'', hsuffix, hmatch⟩ := matches_star.mp h
  exact matches_star.mpr ⟨t'', hsuffix.trans ht, hmatch⟩

/-- A pattern in two parts. -/
theorem matches_append {p q : List α} {t : List β} : Matches star fits (p ++ q) t ↔
    ∃ t₁ t₂, t = t₁ ++ t₂ ∧ Matches star fits p t₁ ∧ Matches star fits q t₂ := by
  induction p generalizing t with
  | nil =>
    constructor
    · intro h
      exact ⟨[], t, rfl, rfl, h⟩
    · rintro ⟨t₁, t₂, rfl, rfl, h⟩
      exact h
  | cons c p ih =>
    by_cases hc : c = star
    · subst hc
      rw [List.cons_append, matches_star]
      constructor
      · rintro ⟨t', ⟨skipped, rfl⟩, h⟩
        obtain ⟨t₁, t₂, rfl, h₁, h₂⟩ := ih.mp h
        exact ⟨skipped ++ t₁, t₂, (List.append_assoc _ _ _).symm,
          matches_star.mpr ⟨t₁, List.suffix_append _ _, h₁⟩, h₂⟩
      · rintro ⟨t₁, t₂, rfl, h₁, h₂⟩
        obtain ⟨t', ⟨skipped, rfl⟩, h'⟩ := matches_star.mp h₁
        exact ⟨t' ++ t₂, ⟨skipped, (List.append_assoc _ _ _).symm⟩, ih.mpr ⟨t', t₂, rfl, h', h₂⟩⟩
    · rw [List.cons_append]
      constructor
      · intro h
        rw [Matches, if_neg hc] at h
        obtain ⟨x, t', rfl, hfits, h'⟩ := h
        obtain ⟨t₁, t₂, rfl, h₁, h₂⟩ := ih.mp h'
        exact ⟨x :: t₁, t₂, rfl, (matches_cons hc).mpr ⟨hfits, h₁⟩, h₂⟩
      · rintro ⟨t₁, t₂, rfl, h₁, h₂⟩
        rw [Matches, if_neg hc] at h₁
        obtain ⟨x, t', rfl, hfits, h'⟩ := h₁
        exact (matches_cons hc).mpr ⟨hfits, ih.mpr ⟨t', t₂, rfl, h', h₂⟩⟩

/-- Without a star a pattern takes as many letters as it has signs. -/
theorem Matches.length_eq {p : List α} {t : List β} (hp : star ∉ p) (h : Matches star fits p t) :
    t.length = p.length := by
  induction p generalizing t with
  | nil => exact congrArg List.length h
  | cons c p ih =>
    rw [List.mem_cons, not_or] at hp
    obtain ⟨hc, hp⟩ := hp
    rw [Matches, if_neg (Ne.symm hc)] at h
    obtain ⟨x, t', rfl, -, h'⟩ := h
    rw [List.length_cons, List.length_cons, ih hp h']

/-- Every sign but the star stands for a letter of the text. -/
theorem Matches.exists_fits {c : α} {p : List α} {t : List β} (h : Matches star fits p t)
    (hmem : c ∈ p) (hc : c ≠ star) : ∃ x ∈ t, fits c x = true := by
  obtain ⟨p₁, p₂, rfl⟩ := List.append_of_mem hmem
  obtain ⟨t₁, t₂, rfl, -, h₂⟩ := matches_append.mp h
  rw [Matches, if_neg hc] at h₂
  obtain ⟨x, t', rfl, hfits, -⟩ := h₂
  exact ⟨x, List.mem_append_right _ List.mem_cons_self, hfits⟩

/-- A text has at least as many letters as the pattern has signs beside stars. -/
theorem Matches.length_filter_le {p : List α} {t : List β} (h : Matches star fits p t) :
    (p.filter (· != star)).length ≤ t.length := by
  induction p generalizing t with
  | nil => exact Nat.zero_le _
  | cons c p ih =>
    by_cases hc : c = star
    · subst hc
      obtain ⟨t', ht', h'⟩ := matches_star.mp h
      rw [List.filter_cons_of_neg (by simp)]
      exact (ih h').trans ht'.length_le
    · rw [Matches, if_neg hc] at h
      obtain ⟨x, t', rfl, -, h'⟩ := h
      rw [List.filter_cons_of_pos (by simpa using hc), List.length_cons, List.length_cons]
      exact Nat.succ_le_succ (ih h')

/-- Where signs are letters that fit themselves, the signs beside the stars are a text of the
    pattern. -/
theorem matches_filter {fits : α → α → Bool} (hself : ∀ c, fits c c = true) (p : List α) :
    Matches star fits p (p.filter (· != star)) := by
  induction p with
  | nil => rfl
  | cons c p ih =>
    by_cases hc : c = star
    · subst hc
      rw [List.filter_cons_of_neg (by simp)]
      exact matches_star.mpr ⟨_, List.suffix_rfl, ih⟩
    · rw [List.filter_cons_of_pos (by simpa using hc)]
      exact (matches_cons hc).mpr ⟨hself c, ih⟩

/-- What an older star could still reach, the rest of the pattern reaches from where it is. -/
theorem Matches.shift {segment p : List α} {done t t' : List β} (hsegment : star ∉ segment)
    (hlen : done.length = segment.length) (ht' : t' <:+ (done ++ t).tail)
    (h : Matches star fits (segment ++ p) t') : ∃ z, z <:+ t ∧ Matches star fits p z := by
  obtain ⟨t₁, z, rfl, h₁, h₂⟩ := matches_append.mp h
  refine ⟨z, ?_, h₂⟩
  have hz : z <:+ done ++ t := (List.suffix_append _ _).trans (ht'.trans (List.tail_suffix _))
  have hlong := ht'.length_le
  rw [List.length_append, List.length_tail, List.length_append, h₁.length_eq hsegment] at hlong
  exact List.suffix_of_suffix_length_le hz (List.suffix_append _ _) (by omega)

/-! ## 2. The matcher -/

variable (star fits)

/-- The last star takes one letter more. -/
def retry (go : List α → List β → Option (List α × List β) → Bool) :
    Option (List α × List β) → Bool
  | some (sp, _ :: rest) => go sp rest (some (sp, rest))
  | _ => false

/-- One turn per unit of fuel; `back` is the pattern behind the last star and the text it was met
    at. -/
def search : Nat → List α → List β → Option (List α × List β) → Bool
  | 0, _, _, _ => false
  | _ + 1, p, [], _ => p.all (· == star)
  | n + 1, [], _ :: _, back => retry (search n) back
  | n + 1, c :: p, x :: t, back =>
      if c == star then search n p (x :: t) (some (p, x :: t))
      else if fits c x then search n p t back
      else retry (search n) back

/-- `retry` with a result to wait for. -/
def again (go : List α → List β → Option (List α × List β) → Option Bool) :
    Option (List α × List β) → Option Bool
  | some (sp, _ :: rest) => go sp rest (some (sp, rest))
  | _ => some false

/-- The matcher after some turns: `none` as long as it has not answered. -/
def run : Nat → List α → List β → Option (List α × List β) → Option Bool
  | 0, _, _, _ => none
  | _ + 1, p, [], _ => some (p.all (· == star))
  | n + 1, [], _ :: _, back => again (run n) back
  | n + 1, c :: p, x :: t, back =>
      if c == star then run n p (x :: t) (some (p, x :: t))
      else if fits c x then run n p t back
      else again (run n) back

variable {star fits}

/-- A loop that turns as the matcher does is the matcher. -/
theorem eq_search {go : Nat → List α → List β → Option (List α × List β) → Bool}
    (hzero : ∀ p t back, go 0 p t back = false)
    (hend : ∀ n p back, go (n + 1) p [] back = p.all (· == star))
    (hnil : ∀ n x t back, go (n + 1) [] (x :: t) back = retry (go n) back)
    (hcons : ∀ n c p x t back, go (n + 1) (c :: p) (x :: t) back =
      if c == star then go n p (x :: t) (some (p, x :: t))
      else if fits c x then go n p t back else retry (go n) back) (n : Nat) :
    go n = search star fits n := by
  induction n with
  | zero =>
    funext p t back
    exact hzero p t back
  | succ n ih =>
    funext p t back
    cases t with
    | nil => exact hend n p back
    | cons x t =>
      cases p with
      | nil => rw [hnil, ih, search]
      | cons c p => rw [hcons, ih, search]

theorem matches_nil_iff {p : List α} :
    Matches star fits p ([] : List β) ↔ p.all (· == star) = true := by
  induction p with
  | nil => exact iff_of_true rfl rfl
  | cons c p ih =>
    rw [List.all_cons, Bool.and_eq_true, beq_iff_eq, ← ih]
    by_cases hc : c = star
    · subst hc
      rw [matches_star]
      constructor
      · rintro ⟨t', ht', h⟩
        rw [List.suffix_nil.mp ht'] at h
        exact ⟨rfl, h⟩
      · rintro ⟨-, h⟩
        exact ⟨[], List.suffix_rfl, h⟩
    · exact iff_of_false (not_matches_cons_nil hc) fun h => hc h.1

/-- What the matcher knows about the last star: no star stands between it and where the matcher is,
    and the text in between is as long as the pattern in between. -/
def Behind (star : α) (p : List α) (t : List β) (back : Option (List α × List β)) : Prop :=
  ∀ sp rt, back = some (sp, rt) → ∃ segment done, star ∉ segment ∧
    done.length = segment.length ∧ sp = segment ++ p ∧ rt = done ++ t

/-- What is reached through the last star. -/
def Reached (star : α) (fits : α → β → Bool) (back : Option (List α × List β)) : Prop :=
  ∃ sp rt, back = some (sp, rt) ∧ ∃ t', t' <:+ rt.tail ∧ Matches star fits sp t'

/-- Room for the turns that are left: the last star can take `limit` letters, and for each of them
    pattern and text are passed over once. -/
structure Budget (size limit : Nat) (p : List α) (t : List β) (back : Option (List α × List β)) :
    Prop where
  here : p.length + t.length ≤ size
  text : t.length ≤ limit
  back : ∀ sp rt, back = some (sp, rt) → rt.length = limit ∧ sp.length + rt.length ≤ size

omit [DecidableEq α] in
/-- A star just met can take the whole text. -/
theorem Budget.self {p : List α} {t : List β} (h : p.length + t.length ≤ size) :
    Budget size t.length p t (some (p, t)) := by
  refine ⟨h, Nat.le_refl _, ?_⟩
  rintro sp rt heq
  cases heq
  exact ⟨rfl, h⟩

omit [DecidableEq α] in
/-- Room for one letter more to the last star. -/
theorem Budget.retry {p sp : List α} {t rest : List β} {y : β}
    (h : Budget size limit p t (some (sp, y :: rest)))
    (hn : limit * size + p.length + t.length < n + 1) (ht : 0 < t.length) :
    Budget size rest.length sp rest (some (sp, rest)) ∧
      rest.length * size + sp.length + rest.length < n := by
  obtain ⟨hlimit, hsize⟩ := h.back sp (y :: rest) rfl
  rw [List.length_cons] at hlimit hsize
  subst hlimit
  rw [Nat.succ_mul] at hn
  exact ⟨Budget.self (by omega), by omega⟩

omit [DecidableEq α] in
theorem behind_self (p : List α) (t : List β) : Behind star p t (some (p, t)) := by
  rintro sp rt heq
  cases heq
  exact ⟨[], [], List.not_mem_nil, rfl, rfl, rfl⟩

omit [DecidableEq α] in
theorem Behind.next {c : α} {p : List α} {x : β} {t : List β} {back : Option (List α × List β)}
    (h : Behind star (c :: p) (x :: t) back) (hc : c ≠ star) : Behind star p t back := by
  intro sp rt heq
  obtain ⟨segment, done, hsegment, hlen, rfl, rfl⟩ := h sp rt heq
  refine ⟨segment ++ [c], done ++ [x], ?_, ?_, List.append_cons _ _ _, List.append_cons _ _ _⟩
  · rw [List.mem_append, List.mem_singleton, not_or]
    exact ⟨hsegment, fun heq => hc heq.symm⟩
  · rw [List.length_append, List.length_append, hlen]
    rfl

theorem Behind.reached {p : List α} {t : List β} {back : Option (List α × List β)}
    (h : Behind star p t back) (hreached : Reached star fits back) :
    ∃ z, z <:+ t ∧ Matches star fits p z := by
  obtain ⟨sp, rt, heq, t', ht', hmatch⟩ := hreached
  obtain ⟨segment, done, hsegment, hlen, rfl, rfl⟩ := h sp rt heq
  exact hmatch.shift hsegment hlen ht'

/-- A star at the end of its own pattern: the whole rest of the text is tried. -/
theorem matches_or_reached {p : List α} {t : List β} :
    Matches star fits p t ∨ Reached star fits (some (p, t)) ↔ ∃ t', t' <:+ t ∧ Matches star fits p t' := by
  constructor
  · rintro (h | ⟨sp, rt, heq, t', ht', h⟩)
    · exact ⟨t, List.suffix_rfl, h⟩
    · cases heq
      exact ⟨t', ht'.trans (List.tail_suffix _), h⟩
  · rintro ⟨t', ht', h⟩
    cases t with
    | nil =>
      rw [List.suffix_nil.mp ht'] at h
      exact .inl h
    | cons x t =>
      rcases List.suffix_cons_iff.mp ht' with rfl | ht'
      · exact .inl h
      · exact .inr ⟨p, x :: t, rfl, t', ht', h⟩

theorem retry_iff {p : List α} {x : β} {t : List β} {back : Option (List α × List β)}
    (ih : ∀ {limit : Nat} {p : List α} {t : List β} {back : Option (List α × List β)}, Behind star
      p t back → Budget size limit p t back → limit * size + p.length + t.length < n → (search
      star fits n p t back = true ↔ Matches star fits p t ∨ Reached star fits back))
    (hbehind : Behind star p (x :: t) back) (hbudget : Budget size limit p (x :: t) back)
    (hn : limit * size + p.length + (x :: t).length < n + 1) :
    retry (search star fits n) back = true ↔ Reached star fits back := by
  match back with
  | none =>
    refine iff_of_false Bool.false_ne_true ?_
    rintro ⟨sp, rt, heq, -⟩
    cases heq
  | some (sp, []) =>
    obtain ⟨segment, done, -, -, -, hrt⟩ := hbehind sp [] rfl
    have := congrArg List.length hrt
    simp at this
  | some (sp, y :: rest) =>
    obtain ⟨hnext, hfuel⟩ := hbudget.retry hn (Nat.succ_pos _)
    rw [retry, ih (behind_self sp rest) hnext hfuel, matches_or_reached]
    constructor
    · rintro ⟨t', ht', h⟩
      exact ⟨sp, y :: rest, rfl, t', ht', h⟩
    · rintro ⟨sp', rt', heq, t', ht', h⟩
      cases heq
      exact ⟨t', ht', h⟩

/-- **The matcher finds what the pattern matches or the last star reaches**, given fuel. -/
theorem search_iff : ∀ {limit : Nat} {p : List α} {t : List β}
    {back : Option (List α × List β)}, Behind star p t back → Budget size limit p t back →
    limit * size + p.length + t.length < n →
    (search star fits n p t back = true ↔ Matches star fits p t ∨ Reached star fits back) := by
  induction n with
  | zero => exact fun _ _ hn => absurd hn (Nat.not_lt_zero _)
  | succ n ih =>
    intro limit p t back hbehind hbudget hn
    cases t with
    | nil =>
      rw [search, ← matches_nil_iff]
      refine ⟨.inl, fun h => h.elim id fun hreached => ?_⟩
      obtain ⟨z, hz, hmatch⟩ := hbehind.reached hreached
      rwa [List.suffix_nil.mp hz] at hmatch
    | cons x t =>
      have hretry := retry_iff ih hbehind hbudget hn
      cases p with
      | nil =>
        have hnone : ¬ Matches star fits [] (x :: t) := List.cons_ne_nil _ _
        rw [search, hretry, or_iff_right hnone]
      | cons c p =>
        rw [List.length_cons, List.length_cons] at hn
        have hsize := hbudget.here
        have htext := hbudget.text
        rw [List.length_cons, List.length_cons] at hsize
        rw [List.length_cons] at htext
        by_cases hc : c = star
        · subst hc
          have hroom : p.length + (x :: t).length ≤ size := by rw [List.length_cons]; omega
          have hfuel : (t.length + 1) * size ≤ limit * size := Nat.mul_le_mul_right _ htext
          rw [search, if_pos (beq_self_eq_true c),
            ih (behind_self p (x :: t)) (Budget.self hroom) (by rw [List.length_cons]; omega), matches_or_reached,
            ← matches_star]
          refine ⟨.inl, fun h => h.elim id fun hreached => ?_⟩
          obtain ⟨z, hz, hmatch⟩ := hbehind.reached hreached
          exact hmatch.star_suffix hz
        · rw [search, if_neg (by simpa using hc)]
          by_cases hfits : fits c x = true
          · have hnext : Budget size limit p t back := ⟨by omega, by omega, hbudget.back⟩
            rw [if_pos hfits, ih (hbehind.next hc) hnext (by omega), matches_cons hc,
              and_iff_right hfits]
          · have hnone : ¬ Matches star fits (c :: p) (x :: t) := fun h => hfits ((matches_cons hc).mp h).1
            rw [if_neg hfits, hretry, or_iff_right hnone]

/-- **The matcher answers**, given turns. -/
theorem run_eq_search : ∀ {limit : Nat} {p : List α} {t : List β}
    {back : Option (List α × List β)}, Budget size limit p t back →
    limit * size + p.length + t.length < n →
    run star fits n p t back = some (search star fits n p t back) := by
  induction n with
  | zero => exact fun _ hn => absurd hn (Nat.not_lt_zero _)
  | succ n ih =>
    intro limit p t back hbudget hn
    cases t with
    | nil => rw [run, search]
    | cons x t =>
      have hagain : again (run star fits n) back = some (retry (search star fits n) back) := by
        match back with
        | none => rfl
        | some (sp, []) => rfl
        | some (sp, y :: rest) =>
          obtain ⟨hnext, hfuel⟩ := hbudget.retry hn (Nat.succ_pos _)
          exact ih hnext hfuel
      cases p with
      | nil => rw [run, search, hagain]
      | cons c p =>
        have hsize := hbudget.here
        have htext := hbudget.text
        rw [List.length_cons, List.length_cons] at hsize hn
        rw [List.length_cons] at htext
        have hfuel : (t.length + 1) * size ≤ limit * size := Nat.mul_le_mul_right _ htext
        rw [run, search, hagain,
          ih (Budget.self (t := x :: t) (by rw [List.length_cons]; omega)) (by rw [List.length_cons]; omega),
          ih ⟨by omega, by omega, hbudget.back⟩ (by omega)]
        split_ifs <;> rfl

omit [DecidableEq α] in
theorem budget_none (p : List α) (t : List β) : Budget (p.length + t.length) t.length p t none :=
  ⟨Nat.le_refl _, Nat.le_refl _, fun _ _ heq => by cases heq⟩

theorem run_none {p : List α} {t : List β}
    (hn : t.length * (p.length + t.length) + p.length + t.length < n) :
    run star fits n p t none = some (search star fits n p t none) :=
  run_eq_search (budget_none p t) hn

/-- **The matcher decides the pattern.** -/
theorem search_none_iff {p : List α} {t : List β}
    (hn : t.length * (p.length + t.length) + p.length + t.length < n) :
    search star fits n p t none = true ↔ Matches star fits p t := by
  have hbehind : Behind star p t none := fun _ _ heq => by cases heq
  refine (search_iff hbehind (budget_none p t) hn).trans (or_iff_left ?_)
  rintro ⟨sp, rt, heq, -⟩
  cases heq

end Glob
