/-
  File:      ScratchIrcd/GeoGlob.lean
  Subject:   The glob of GEOBAN ORG (`glob_match_ci` and `class_match`, geoban_db.c).

  `GlobMatches` says which texts a pattern stands for, `Members` how the inside of a bracket is read;
  neither mentions a loop. A bracket that is never closed has no reading, so its pattern has no
  text.
-/
import ScratchIrcd.Bans

namespace ScratchIrcd

open CText

variable {c x : Char} {ms : List (Char × Char)} {n : Nat} {p q rest : Text}

/-! ## 1. The language of a pattern -/

/-- The letter a pattern begins with: behind a backslash any letter, and a backslash itself only
    where nothing follows it. -/
inductive Sign : Text → Char → Text → Prop
  | escaped (x : Char) (rest : Text) : Sign ('\\' :: x :: rest) x rest
  | plain {x : Char} {rest : Text} (h : x ≠ '\\' ∨ rest = []) : Sign (x :: rest) x rest

/-- A `-` between two members makes a range; before the bracket or at the end it is a letter. -/
def opensRange : Text → Bool
  | '-' :: y :: _ => y != ']'
  | _ => false

/-- The inside of a bracket as ranges, a single letter being a range from itself to itself, and the
    pattern behind the bracket. -/
inductive Members : Text → List (Char × Char) → Text → Prop
  | close (rest : Text) : Members (']' :: rest) [] rest
  | range {p q q' rest : Text} {x y : Char} {ms : List (Char × Char)} (hp : p.head? ≠ some ']')
      (hx : Sign p x ('-' :: q)) (hopen : opensRange ('-' :: q) = true) (hy : Sign q y q')
      (h : Members q' ms rest) : Members p ((x, y) :: ms) rest
  | single {p q rest : Text} {x : Char} {ms : List (Char × Char)} (hp : p.head? ≠ some ']')
      (hx : Sign p x q) (hopen : opensRange q = false) (h : Members q ms rest) :
      Members p ((x, x) :: ms) rest

/-- Bounds and letter are compared in lower case. -/
def inRange (c : Char) (m : Char × Char) : Bool :=
  asciiLower m.1 ≤ asciiLower c && asciiLower c ≤ asciiLower m.2

/-- A bracket without its `[`: negated or not, then its members. -/
inductive Bracket : Text → Bool → List (Char × Char) → Text → Prop
  | negated {d : Char} {p rest : Text} {ms : List (Char × Char)} (hd : d = '!' ∨ d = '^')
      (h : Members p ms rest) : Bracket (d :: p) true ms rest
  | plain {p rest : Text} {ms : List (Char × Char)}
      (hp : p.head? ≠ some '!' ∧ p.head? ≠ some '^') (h : Members p ms rest) :
      Bracket p false ms rest

/-- **The texts of a pattern.** -/
inductive GlobMatches : Text → Text → Prop
  | done : GlobMatches [] []
  | star {p t t' : Text} (ht : t' <:+ t) (h : GlobMatches p t') : GlobMatches ('*' :: p) t
  | any {p t : Text} (x : Char) (h : GlobMatches p t) : GlobMatches ('?' :: p) (x :: t)
  | bracket {p rest t : Text} {negate : Bool} {ms : List (Char × Char)} {x : Char}
      (hclass : Bracket p negate ms rest) (hx : ms.any (inRange x) = !negate)
      (h : GlobMatches rest t) : GlobMatches ('[' :: p) (x :: t)
  | literal {p rest t : Text} {c x : Char}
      (hp : p.head? ≠ some '*' ∧ p.head? ≠ some '?' ∧ p.head? ≠ some '[') (hc : Sign p c rest)
      (hx : asciiLower c = asciiLower x) (h : GlobMatches rest t) : GlobMatches p (x :: t)

/-! ## 2. The class scanner -/

theorem classSign_of_sign (h : Sign p x rest) : classSign p = some (asciiLower x, rest) := by
  cases h with
  | escaped x rest => rfl
  | plain h =>
    unfold classSign
    split
    · rename_i heq
      obtain ⟨rfl, rfl⟩ := List.cons.inj heq
      exact absurd rfl (h.resolve_right (List.cons_ne_nil _ _))
    · rename_i heq
      obtain ⟨rfl, rfl⟩ := List.cons.inj heq
      rfl
    · rename_i heq
      cases heq

theorem exists_sign (hp : p ≠ []) : ∃ x rest, Sign p x rest := by
  match p with
  | [] => exact absurd rfl hp
  | [x] => exact ⟨x, [], .plain (.inr rfl)⟩
  | x :: y :: rest =>
    by_cases hx : x = '\\'
    · subst hx
      exact ⟨y, rest, .escaped y rest⟩
    · exact ⟨x, y :: rest, .plain (.inl hx)⟩

theorem Sign.length_lt (h : Sign p x rest) : rest.length < p.length := by
  cases h with
  | escaped x rest => exact Nat.lt_succ_of_lt (Nat.lt_succ_self _)
  | plain _ => exact Nat.lt_succ_self _

theorem Sign.ne_nil (h : Sign p x rest) : p ≠ [] := by
  rintro rfl
  cases h

/-- The loop reads a member unless it is at the bracket or at the end. -/
theorem classLoop_succ (hne : p ≠ []) (hp : p.head? ≠ some ']') (n : Nat) (matched : Bool) :
    classLoop c (n + 1) p matched =
      match classSign p with
      | none => none
      | some (first, '-' :: y :: rest) =>
          if y = ']' then classLoop c n ('-' :: y :: rest) (matched || c == first)
          else
            match classSign (y :: rest) with
            | none => none
            | some (last, rest) => classLoop c n rest (matched || (first ≤ c && c ≤ last))
      | some (first, rest) => classLoop c n rest (matched || c == first) := by
  refine classLoop.eq_4 c p matched n hne fun rest h => hp ?_
  rw [h]
  rfl

/-- A turn of the loop that reads a range. -/
theorem classLoop_range {y : Char} {q' : Text} (hp : p.head? ≠ some ']')
    (hx : Sign p x ('-' :: q)) (hopen : opensRange ('-' :: q) = true) (hy : Sign q y q') (n : Nat)
    (matched : Bool) : classLoop (asciiLower c) (n + 1) p matched =
      classLoop (asciiLower c) n q' (matched || inRange c (x, y)) := by
  match q with
  | [] => cases hy
  | z :: q =>
    have hz : z ≠ ']' := by simpa [opensRange] using hopen
    rw [classLoop_succ hx.ne_nil hp, classSign_of_sign hx]
    simp only [if_neg hz, classSign_of_sign hy]
    rfl

/-- A turn of the loop that reads a single letter. -/
theorem classLoop_single (hp : p.head? ≠ some ']') (hx : Sign p x q)
    (hopen : opensRange q = false) (n : Nat) (matched : Bool) :
    classLoop (asciiLower c) (n + 1) p matched =
      classLoop (asciiLower c) n q (matched || inRange c (x, x)) := by
  have heq : inRange c (x, x) = (asciiLower c == asciiLower x) := by
    rw [Bool.eq_iff_iff, inRange, Bool.and_eq_true, decide_eq_true_eq, decide_eq_true_eq, beq_iff_eq]
    exact ⟨fun h => Char.le_antisymm h.2 h.1, fun h => h ▸ ⟨Char.le_refl _, Char.le_refl _⟩⟩
  rw [classLoop_succ hx.ne_nil hp, classSign_of_sign hx, heq]
  split
  · rename_i h
    cases h
  · rename_i y rest h
    cases h
    have hy : y = ']' := by simpa [opensRange] using hopen
    rw [if_pos hy]
  · rename_i h
    cases h
    rfl

/-- What has a reading is scanned to its end. -/
theorem classLoop_of_members (h : Members p ms rest) : ∀ {n : Nat} (matched : Bool), p.length < n →
    classLoop (asciiLower c) n p matched = some (matched || ms.any (inRange c), rest) := by
  induction h with
  | close rest =>
    intro n matched hn
    obtain ⟨n, rfl⟩ := Nat.exists_eq_add_of_lt hn
    rw [List.any_nil, Bool.or_false]
    rfl
  | range hp hx hopen hy h ih =>
    intro n matched hn
    have h1 := hx.length_lt
    have h2 := hy.length_lt
    rw [List.length_cons] at h1
    obtain ⟨n, rfl⟩ : ∃ m, n = m + 1 := ⟨n - 1, by omega⟩
    rw [classLoop_range hp hx hopen hy, ih _ (by omega), List.any_cons, Bool.or_assoc]
  | single hp hx hopen h ih =>
    intro n matched hn
    have h1 := hx.length_lt
    obtain ⟨n, rfl⟩ : ∃ m, n = m + 1 := ⟨n - 1, by omega⟩
    rw [classLoop_single hp hx hopen, ih _ (by omega), List.any_cons, Bool.or_assoc]

/-- What is scanned to its end has a reading. -/
theorem members_of_classLoop : ∀ {p : Text} {matched b : Bool},
    classLoop (asciiLower c) n p matched = some (b, rest) → ∃ ms, Members p ms rest := by
  induction n with
  | zero =>
    intro p matched b h
    cases h
  | succ n ih =>
    intro p matched b h
    by_cases hne : p = []
    · subst hne
      cases h
    by_cases hp : p.head? = some ']'
    · obtain ⟨q, rfl⟩ := List.head?_eq_some_iff.mp hp
      cases h
      exact ⟨[], .close rest⟩
    obtain ⟨x, q, hx⟩ := exists_sign hne
    cases hopen : opensRange q with
    | false =>
      rw [classLoop_single hp hx hopen] at h
      obtain ⟨ms, hms⟩ := ih h
      exact ⟨_, .single hp hx hopen hms⟩
    | true =>
      obtain ⟨y, q, rfl⟩ : ∃ y q', q = '-' :: y :: q' := by
        unfold opensRange at hopen
        split at hopen
        · exact ⟨_, _, rfl⟩
        · cases hopen
      obtain ⟨last, q', hy⟩ := exists_sign (List.cons_ne_nil y q)
      rw [classLoop_range hp hx hopen hy] at h
      obtain ⟨ms, hms⟩ := ih h
      exact ⟨_, .range hp hx hopen hy hms⟩

/-- A bracket that is not negated is scanned from its first sign. -/
theorem classMatch_plain (hp : p.head? ≠ some '!' ∧ p.head? ≠ some '^') :
    classMatch c p = classLoop (asciiLower c) (p.length + 1) p false := by
  have hneg : (decide (p.head? = some '!') || decide (p.head? = some '^')) = false := by
    rw [decide_eq_false hp.1, decide_eq_false hp.2]
    rfl
  unfold classMatch
  simp only [hneg, Bool.false_eq_true, if_false, Bool.bne_false]
  exact Option.map_id'

theorem classMatch_negated {d : Char} (hd : d = '!' ∨ d = '^') :
    classMatch c (d :: p) =
      (classLoop (asciiLower c) (p.length + 1) p false).map fun r => (r.1 != true, r.2) := by
  rcases hd with rfl | rfl <;> rfl

/-- **`class_match`**: a letter passes a bracket if it is in one of the ranges, or in none of a
    negated one. -/
theorem classMatch_iff : classMatch c p = some (true, rest) ↔
    ∃ negate ms, Bracket p negate ms rest ∧ ms.any (inRange c) = !negate := by
  constructor
  · intro h
    by_cases hp : p.head? ≠ some '!' ∧ p.head? ≠ some '^'
    · rw [classMatch_plain hp] at h
      obtain ⟨ms, hms⟩ := members_of_classLoop h
      rw [classLoop_of_members hms _ (Nat.lt_succ_self _)] at h
      exact ⟨false, ms, .plain hp hms, congrArg Prod.fst (Option.some.inj h)⟩
    · obtain ⟨d, q, hd, rfl⟩ : ∃ d q, (d = '!' ∨ d = '^') ∧ p = d :: q := by
        rcases not_and_or.mp hp with hp | hp
        · obtain ⟨q, rfl⟩ := List.head?_eq_some_iff.mp (not_not.mp hp)
          exact ⟨_, q, .inl rfl, rfl⟩
        · obtain ⟨q, rfl⟩ := List.head?_eq_some_iff.mp (not_not.mp hp)
          exact ⟨_, q, .inr rfl, rfl⟩
      rw [classMatch_negated hd] at h
      obtain ⟨⟨b, rest'⟩, hloop, heq⟩ := Option.map_eq_some_iff.mp h
      obtain ⟨hb, rfl⟩ := Prod.mk.inj heq
      obtain ⟨ms, hms⟩ := members_of_classLoop hloop
      rw [classLoop_of_members hms _ (Nat.lt_succ_self _)] at hloop
      have hany : ms.any (inRange c) = b := congrArg Prod.fst (Option.some.inj hloop)
      exact ⟨true, ms, .negated hd hms, by simpa [hany] using hb⟩
  · rintro ⟨negate, ms, hclass, hx⟩
    cases hclass with
    | negated hd hms =>
      rw [classMatch_negated hd, classLoop_of_members hms _ (Nat.lt_succ_self _), hx]
      rfl
    | plain hp hms =>
      rw [classMatch_plain hp, classLoop_of_members hms _ (Nat.lt_succ_self _), hx]
      rfl

theorem Members.length_lt (h : Members p ms rest) : rest.length < p.length := by
  induction h with
  | close rest => exact Nat.lt_succ_self _
  | range hp hx hopen hy h ih =>
    have h1 := hx.length_lt
    rw [List.length_cons] at h1
    exact (ih.trans hy.length_lt).trans (Nat.lt_of_succ_lt h1)
  | single hp hx hopen h ih => exact ih.trans hx.length_lt

theorem Bracket.length_lt {negate : Bool} (h : Bracket p negate ms rest) :
    rest.length < p.length := by
  cases h with
  | negated hd h => exact Nat.lt_succ_of_lt h.length_lt
  | plain hp h => exact h.length_lt

/-! ## 3. The matcher -/

/-- A sign that is neither a wildcard nor a bracket. -/
theorem globMatchCi_literal (hp : p.head? ≠ some '*' ∧ p.head? ≠ some '?' ∧ p.head? ≠ some '[')
    (hc : Sign p c rest) (n : Nat) (x : Char) (t : Text) : globMatchCi (n + 1) p (x :: t) =
      (asciiLower c == asciiLower x && globMatchCi n rest t) := by
  cases hc with
  | escaped c rest => rfl
  | plain h =>
    have hhead : ∀ d, c = d → (c :: rest).head? = some d := fun d h => congrArg some h
    rw [globMatchCi]
    · exact fun h => hp.1 (hhead _ h)
    · exact fun h => hp.2.1 (hhead _ h)
    · exact fun h => hp.2.2 (hhead _ h)
    · rintro y q rfl rfl
      exact h.elim (fun h => h rfl) (List.cons_ne_nil _ _)

/-- A star takes nothing, or a letter and then what it takes of the rest. -/
theorem globMatches_star_iff {t : Text} : GlobMatches ('*' :: p) t ↔
    GlobMatches p t ∨ ∃ x t', t = x :: t' ∧ GlobMatches ('*' :: p) t' := by
  constructor
  · intro h
    cases h with
    | star ht h =>
      cases t with
      | nil =>
        rw [List.suffix_nil.mp ht] at h
        exact .inl h
      | cons x t =>
        rcases List.suffix_cons_iff.mp ht with rfl | ht
        · exact .inl h
        · exact .inr ⟨x, t, rfl, .star ht h⟩
    | literal hp => exact absurd rfl hp.1
  · rintro (h | ⟨x, t', rfl, h⟩)
    · exact .star List.suffix_rfl h
    · cases h with
      | star ht h => exact .star (ht.trans (List.suffix_cons x t')) h
      | literal hp => exact absurd rfl hp.1

/-- **Enough fuel decides the pattern.** By the first sign, as the loop reads it. -/
theorem globMatchCi_iff : ∀ {p t : Text}, p.length + t.length < n →
    (globMatchCi n p t = true ↔ GlobMatches p t) := by
  induction n with
  | zero => exact fun hn => absurd hn (Nat.not_lt_zero _)
  | succ n ih =>
    intro p t hn
    by_cases hne : p = []
    · subst hne
      rw [globMatchCi, List.isEmpty_iff]
      constructor
      · rintro rfl
        exact .done
      · intro h
        cases h with
        | done => rfl
        | literal hp hc => cases hc
    by_cases hstar : p.head? = some '*'
    · obtain ⟨q, rfl⟩ := List.head?_eq_some_iff.mp hstar
      rw [List.length_cons] at hn
      have hloop : globMatchCi (n + 1) ('*' :: q) t = (globMatchCi n q t || match t with
          | [] => false
          | _ :: rest => globMatchCi n ('*' :: q) rest) := by cases t <;> rfl
      rw [hloop, Bool.or_eq_true, ih (by omega), globMatches_star_iff]
      refine or_congr_right ?_
      cases t with
      | nil => exact iff_of_false Bool.false_ne_true fun ⟨x, t', heq, _⟩ => by cases heq
      | cons x t =>
        rw [List.length_cons] at hn
        rw [ih (by rw [List.length_cons]; omega)]
        constructor
        · exact fun h => ⟨x, t, rfl, h⟩
        · rintro ⟨x', t', heq, h⟩
          cases heq
          exact h
    cases t with
    | nil =>
      -- every sign but the star takes a letter
      refine iff_of_false ?_ ?_
      · obtain ⟨d, q, rfl⟩ := List.exists_cons_of_ne_nil hne
        have hd : d ≠ '*' := fun h => hstar (congrArg some h)
        rw [globMatchCi.eq_5 n d q hd]
        exact Bool.false_ne_true
      · intro h
        cases h with
        | done => exact hne rfl
        | star ht h => exact hstar rfl
    | cons x t =>
      rw [List.length_cons] at hn
      by_cases hany : p.head? = some '?'
      · obtain ⟨q, rfl⟩ := List.head?_eq_some_iff.mp hany
        rw [List.length_cons] at hn
        rw [globMatchCi, ih (by omega)]
        constructor
        · exact .any x
        · intro h
          cases h with
          | any x h => exact h
          | literal hp => exact absurd rfl hp.2.1
      by_cases hopen : p.head? = some '['
      · obtain ⟨q, rfl⟩ := List.head?_eq_some_iff.mp hopen
        rw [List.length_cons] at hn
        rw [globMatchCi]
        constructor
        · intro h
          split at h
          · rename_i rest hclass
            obtain ⟨negate, ms, hbracket, hx⟩ := classMatch_iff.mp hclass
            have hlen := hbracket.length_lt
            exact .bracket hbracket hx ((ih (by omega)).mp h)
          · cases h
        · intro h
          cases h with
          | bracket hbracket hx h =>
            have hlen := hbracket.length_lt
            rw [classMatch_iff.mpr ⟨_, _, hbracket, hx⟩]
            exact (ih (by omega)).mpr h
          | literal hp => exact absurd rfl hp.2.2
      obtain ⟨c, rest, hc⟩ := exists_sign hne
      have hlen := hc.length_lt
      rw [globMatchCi_literal ⟨hstar, hany, hopen⟩ hc, Bool.and_eq_true, beq_iff_eq,
        ih (by omega)]
      constructor
      · exact fun ⟨hx, h⟩ => .literal ⟨hstar, hany, hopen⟩ hc hx h
      · intro h
        cases h with
        | star ht h => exact absurd rfl hstar
        | any x h => exact absurd rfl hany
        | bracket hbracket hx h => exact absurd rfl hopen
        | literal hp hc' hx h =>
          obtain ⟨hsame, rfl⟩ := Prod.mk.inj
            (Option.some.inj ((classSign_of_sign hc).symm.trans (classSign_of_sign hc')))
          exact ⟨hsame.trans hx, h⟩

/-- **`glob_match_ci` decides the language of its pattern**, for every pattern and text, with the
    fuel `geoban_record_matches` is modelled with and with any more. -/
theorem glob_match_ci_decides (pattern text : Text) (more : Nat) :
    globMatchCi (pattern.length + text.length + 1 + more) pattern text = true ↔
      GlobMatches pattern text :=
  globMatchCi_iff (by omega)

end ScratchIrcd
