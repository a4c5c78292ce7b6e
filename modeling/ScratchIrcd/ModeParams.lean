/-
  File:      ScratchIrcd/ModeParams.lean
  Subject:   The two readers of a channel MODE: `validate_channel_mode_params` checks parameters
             before `mode_channel` stores them, and each keeps its own index into them.

  Both advance alike, except at a +j whose parameter has 64 bytes or more: there the check goes
  on to the next parameter and `mode_channel` does not.
-/
import ScratchIrcd.ModeWire

namespace ScratchIrcd

open CText

variable {adding : Bool} {e : ChannelEdit} {letter : Char} {letters : List (Bool × Char)}
  {args checked : List Text} {shown : Option Text} {r : Reading}

/-- A letter of a mode string and the parameter it reads: the string from the letter on, and the
    parameters from the index on. -/
abbrev Reading := List (Bool × Char) × List Text

/-- The letters whose parameter is checked beforehand: +l, +L and +B. -/
def checkedLetter (adding : Bool) (letter : Char) : Bool :=
  adding && (letter == 'l' || letter == 'L' || letter == 'B')

/-- A +j whose parameter does not fit the 64 bytes of `copy`. -/
def overlongThrottle (adding : Bool) (letter : Char) (param : Option Text) : Bool :=
  adding && letter == 'j' && param.any fun p => decide (64 ≤ p.length)

/-- The reading of a letter, if it is one that is checked. -/
def readingAt (adding : Bool) (letter : Char) (rest : List (Bool × Char)) (args : List Text) :
    List Reading :=
  if checkedLetter adding letter then [((adding, letter) :: rest, args)] else []

namespace Server

/-! ## 1. Readings -/

/-- What the loop of `validate_channel_mode_params` reads. -/
def validatorReads : List (Bool × Char) → List Text → List Reading
  | [], _ => []
  | (adding, letter) :: rest, args =>
      readingAt adding letter rest args ++
        validatorReads rest (if takesParam adding letter then args.tail else args)

/-- What the loop of `mode_channel` reads. -/
def modeReads (c : ClientRef) (ch : ChannelRef) (mayChange : Bool) :
    List (Bool × Char) → ModeRun → List Reading
  | [], _ => []
  | (adding, letter) :: rest, run =>
      match listKind letter, run.args with
      | some kind, [] =>
          modeReads c ch mayChange rest { run with server := run.server.sendMaskList c ch kind }
      | _, _ =>
          if !mayChange then []
          else readingAt adding letter rest run.args ++
            modeReads c ch mayChange rest (run.apply c ch adding letter
              (run.server.modeLetter c ch adding letter run.args.head?))

/-- The same for a reader who may change modes, from the mode string and the parameters alone. -/
def coreReads : List (Bool × Char) → List Text → List Reading
  | [], _ => []
  | (adding, letter) :: rest, args =>
      readingAt adding letter rest args ++
        coreReads rest (if takesParam adding letter && !overlongThrottle adding letter args.head?
          then args.tail else args)

/-- Does a checked letter come while parameters are left, once `mode_channel` is behind? -/
def readsBehind : List (Bool × Char) → List Text → Bool
  | [], _ => false
  | (adding, letter) :: rest, args =>
      checkedLetter adding letter && !args.isEmpty ||
        readsBehind rest (if takesParam adding letter && !overlongThrottle adding letter args.head?
          then args.tail else args)

/-- Does a +l, +L or +B that a parameter is left for come after a +j whose parameter has 64 bytes
    or more? -/
def misreads : List (Bool × Char) → List Text → Bool
  | [], _ => false
  | (adding, letter) :: rest, args =>
      if overlongThrottle adding letter args.head? then readsBehind rest args
      else misreads rest (if takesParam adding letter then args.tail else args)

end Server

/-- The redirect a reading hands over. -/
def Reading.redirect? : Reading → Option Text
  | ((_, letter) :: _, t :: _) => if letter == 'L' || letter == 'B' then some t else none
  | _ => none

/-- The redirect an edit stores. -/
def ChannelEdit.redirect? : ChannelEdit → Option Text
  | .limitRedirect t => some t
  | .banRedirect t => some t
  | _ => none

/-- The parameters of the +L and +B of a line. -/
def Server.redirectParams (letters : List (Bool × Char)) (args : List Text) : List Text :=
  (Server.validatorReads letters args).filterMap Reading.redirect?

/-! ## 2. What one letter uses -/

/-- Whether the letter uses up its parameter. -/
def LetterOutcome.consumes : LetterOutcome → Bool
  | .refuse _ _ consumes => consumes
  | .change _ consumes _ => consumes

/-- Where the values of an edit come from. -/
def ChannelEdit.ReadsFrom (adding : Bool) (letter : Char) (param : Option Text) : ChannelEdit → Prop
  | .key k => k = [] ∨ param = some k
  | .limit n => n = 0 ∨ adding = true ∧ letter = 'l' ∧ param.bind parseUint = some n
  | .limitRedirect t => t = [] ∨ adding = true ∧ letter = 'L' ∧ param = some t
  | .banRedirect t => t = [] ∨ adding = true ∧ letter = 'B' ∧ param = some t
  | .addMask _ mask _ => param = some mask
  | _ => True

namespace Server

section Letter

variable {s : Server} {c : ClientRef} {ch : ChannelRef} 
  {adding : Bool} {letter : Char} {param : Option Text}

theorem consumes_modePrivilege {p : ChannelPrivilege} {param : Text} :
    (s.modePrivilege c ch adding p param).1.consumes = true := by
  unfold modePrivilege
  split
  · rfl
  split
  · rfl
  rename_i subject _ _
  generalize (if adding then s.secureopsAllows ch subject p else (true, s)) = asked
  dsimp only
  split
  · rfl
  split <;> rfl

theorem consumes_modeMask {kind : MaskKind} {mask : Text} :
    (s.modeMask c ch adding kind mask).consumes = true := by
  unfold modeMask
  split
  · rfl
  dsimp only
  split <;> rfl

theorem overlongThrottle_of_ne (h : letter ≠ 'j') : overlongThrottle adding letter param = false := by
  unfold overlongThrottle
  rw [beq_false_of_ne h, Bool.and_false, Bool.false_and]

theorem consumes_modeValue {outcome : LetterOutcome} (h : modeValue adding letter param = some outcome) :
    outcome.consumes = (param.isSome && takesParam adding letter &&
      !overlongThrottle adding letter param) := by
  unfold modeValue at h
  split at h
  · rename_i hx
    obtain rfl : letter = 'k' := by simpa using hx
    rw [overlongThrottle_of_ne (by decide)]
    cases adding <;> cases param <;> cases h <;> rfl
  split at h
  · rename_i hx
    obtain rfl : letter = 'l' := by simpa using hx
    rw [overlongThrottle_of_ne (by decide)]
    cases adding <;> cases param
    · cases h; rfl
    · cases h; rfl
    · cases h; rfl
    · replace h := Option.some.inj h
      dsimp only at h
      split at h <;> cases h <;> rfl
  split at h
  · rename_i hx
    obtain rfl : letter = 'j' := by simpa using hx
    cases adding with
    | false => cases param <;> cases h <;> rfl
    | true =>
      cases param with
      | none => cases h; rfl
      | some p =>
        replace h := Option.some.inj h
        dsimp only at h
        have hover : overlongThrottle true 'j' (some p) = decide (64 ≤ p.length) := rfl
        have htakes : takesParam true 'j' = true := by decide
        rw [hover, htakes]
        split at h
        · rename_i hlong
          cases h
          simp [LetterOutcome.consumes, modeNeedsParam, hlong]
        · rename_i hlong
          split at h <;> cases h <;> simp [LetterOutcome.consumes, modeNeedsParam, hlong]
  split at h
  · rename_i hx
    obtain rfl : letter = 'L' := by simpa using hx
    rw [overlongThrottle_of_ne (by decide)]
    cases adding <;> cases param <;> cases h <;> rfl
  split at h
  · rename_i hx
    obtain rfl : letter = 'B' := by simpa using hx
    rw [overlongThrottle_of_ne (by decide)]
    cases adding <;> cases param <;> cases h <;> rfl
  · cases h

theorem takesParam_of_unknown (hpriv : channelPrivilegeBit letter = none)
    (hvalue : modeValue adding letter param = none) (hlist : listKind letter = none) :
    takesParam adding letter = false := by
  unfold modeValue at hvalue
  split_ifs at hvalue with hk hl hj hL hB
  unfold takesParam
  rw [hpriv, hlist]
  simp only [hk, hl, hj, hL, hB]
  cases adding <;> rfl

/-- **A letter uses up its parameter when the check expects it to, a +j with too long a parameter
    apart.** -/
theorem consumes_modeLetter (s : Server) (c : ClientRef) (ch : ChannelRef)
    (adding : Bool) (letter : Char) (param : Option Text) :
    (s.modeLetter c ch adding letter param).1.consumes =
      (param.isSome && takesParam adding letter && !overlongThrottle adding letter param) := by
  have hother : ∀ p, channelPrivilegeBit letter = some p → letter ≠ 'j' := by
    rintro p hp rfl
    cases hp
  unfold modeLetter
  split
  · rename_i hbit
    rw [takesParam_of_boolean hbit, Bool.and_false, Bool.false_and]
    rfl
  · rename_i hbit
    rw [takesParam_of_boolean hbit, Bool.and_false, Bool.false_and]
    rfl
  split
  · rfl
  · rename_i p param hp
    rw [consumes_modePrivilege, overlongThrottle_of_ne (hother p hp)]
    unfold takesParam
    rw [hp]
    rfl
  rename_i hpriv
  split
  · rename_i hvalue
    exact consumes_modeValue hvalue
  rename_i hvalue
  have hne : letter ≠ 'j' := by
    rintro rfl
    cases hvalue
  rw [overlongThrottle_of_ne hne]
  split
  · rename_i hkind
    rw [consumes_modeMask]
    unfold takesParam
    rw [hkind]
    simp
  · rfl
  · rename_i hlist
    rw [takesParam_of_unknown hpriv hvalue hlist, Bool.and_false]
    rfl

theorem args_apply (run : ModeRun) (c : ClientRef) (ch : ChannelRef) (adding : Bool) (letter : Char) :
    (run.apply c ch adding letter
      (run.server.modeLetter c ch adding letter run.args.head?)).args =
      if takesParam adding letter && !overlongThrottle adding letter run.args.head?
        then run.args.tail else run.args := by
  have hconsumes := run.server.consumes_modeLetter c ch adding letter run.args.head?
  generalize run.server.modeLetter c ch adding letter run.args.head? = decided at hconsumes
  have happly : (run.apply c ch adding letter decided).args =
      if decided.1.consumes then run.args.tail else run.args := by
    obtain ⟨outcome, s⟩ := decided
    cases outcome <;> rfl
  rw [happly, hconsumes]
  cases run.args with
  | nil => simp
  | cons a as => rfl

/-- What a letter stores it has from its parameter. -/
theorem readsFrom_modeValue {consumes : Bool}
    (h : modeValue adding letter param = some (.change e consumes shown)) :
    e.ReadsFrom adding letter param := by
  unfold modeValue at h
  split at h
  · cases adding <;> cases param <;> cases h
    · exact .inl rfl
    · exact .inl rfl
    · exact .inr rfl
  split at h
  · rename_i hx
    obtain rfl : letter = 'l' := by simpa using hx
    cases adding with
    | false =>
      cases h
      exact .inl rfl
    | true =>
      cases param with
      | none => cases h
      | some p =>
        replace h := Option.some.inj h
        dsimp only at h
        split at h <;> cases h
        rename_i n hn
        exact .inr ⟨rfl, rfl, hn⟩
  split at h
  · cases adding with
    | false =>
      cases h
      trivial
    | true =>
      cases param with
      | none => cases h
      | some p =>
        replace h := Option.some.inj h
        dsimp only at h
        split at h
        · cases h
        · split at h <;> cases h
          trivial
  split at h
  · rename_i hx
    obtain rfl : letter = 'L' := by simpa using hx
    cases adding <;> cases param <;> cases h
    · exact .inl rfl
    · exact .inl rfl
    · exact .inr ⟨rfl, rfl, rfl⟩
  split at h
  · rename_i hx
    obtain rfl : letter = 'B' := by simpa using hx
    cases adding <;> cases param <;> cases h
    · exact .inl rfl
    · exact .inl rfl
    · exact .inr ⟨rfl, rfl, rfl⟩
  · cases h

theorem readsFrom_modePrivilege {p : ChannelPrivilege} {param : Text} {consumes : Bool}
    (h : (s.modePrivilege c ch adding p param).1 = .change e consumes shown)
    (given : Option Text) : e.ReadsFrom adding letter given := by
  unfold modePrivilege at h
  split at h
  · cases h
  split at h
  · cases h
  rename_i subject _ _
  generalize (if adding then s.secureopsAllows ch subject p else (true, s)) = asked at h
  dsimp only at h
  split at h
  · cases h
  split at h
  · cases h
  · obtain ⟨rfl, -⟩ := LetterOutcome.change.inj h
    cases adding <;> trivial

theorem readsFrom_modeLetter {consumes : Bool}
    (h : (s.modeLetter c ch adding letter param).1 = .change e consumes shown) :
    e.ReadsFrom adding letter param := by
  unfold modeLetter at h
  split at h
  · cases h
  · cases h
    trivial
  split at h
  · cases h
  · exact readsFrom_modePrivilege h _
  split at h
  · rename_i hvalue
    dsimp only at h
    exact readsFrom_modeValue (h ▸ hvalue)
  split at h
  · dsimp only at h
    unfold modeMask at h
    split at h
    · cases h
      trivial
    · dsimp only at h
      split at h <;> cases h
      rfl
  · cases h
  · cases h

end Letter

/-! ## 3. The two scans -/

theorem readingAt_of_listKind {kind : MaskKind} (h : listKind letter = some kind)
    (rest : List (Bool × Char)) (args : List Text) : readingAt adding letter rest args = [] := by
  have hunchecked : checkedLetter adding letter = false := by
    unfold listKind at h
    split_ifs at h with hb he hi
    · rw [eq_of_beq hb]; cases adding <;> decide
    · rw [eq_of_beq he]; cases adding <;> decide
    · rw [eq_of_beq hi]; cases adding <;> decide
  rw [readingAt, hunchecked]
  rfl

/-- The readings of the loop do not depend on the server. -/
theorem modeReads_eq (c : ClientRef) (ch : ChannelRef) (letters : List (Bool × Char)) (run : ModeRun) :
    modeReads c ch true letters run = coreReads letters run.args := by
  induction letters generalizing run with
  | nil => rfl
  | cons l rest ih =>
    obtain ⟨adding, letter⟩ := l
    unfold modeReads coreReads
    split
    · rename_i hkind hargs
      rw [ih, readingAt_of_listKind hkind, hargs]
      simp
    · rw [ih, args_apply]
      rfl

theorem modeReads_of_not_mayChange (c : ClientRef) (ch : ChannelRef) (letters : List (Bool × Char))
    (run : ModeRun) : modeReads c ch false letters run = [] := by
  induction letters generalizing run with
  | nil => rfl
  | cons l rest ih =>
    unfold modeReads
    split
    · exact ih _
    · rfl

theorem mem_readingAt {rest : List (Bool × Char)} (h : r ∈ readingAt adding letter rest args) :
    checkedLetter adding letter = true ∧ r = ((adding, letter) :: rest, args) := by
  unfold readingAt at h
  split at h
  · rename_i hchecked
    exact ⟨hchecked, List.mem_singleton.mp h⟩
  · cases h

theorem length_validatorReads (h : r ∈ validatorReads letters args) :
    r.1.length ≤ letters.length := by
  induction letters generalizing args with
  | nil => cases h
  | cons l rest ih =>
    rcases List.mem_append.mp h with h | h
    · rw [(mem_readingAt h).2]
    · exact (ih h).trans (Nat.le_succ _)

theorem length_coreReads (h : r ∈ coreReads letters args) : r.1.length ≤ letters.length := by
  induction letters generalizing args with
  | nil => cases h
  | cons l rest ih =>
    rcases List.mem_append.mp h with h | h
    · rw [(mem_readingAt h).2]
    · exact (ih h).trans (Nat.le_succ _)

theorem readsBehind_nil (letters : List (Bool × Char)) : readsBehind letters [] = false := by
  induction letters with
  | nil => rfl
  | cons l rest ih =>
    obtain ⟨adding, letter⟩ := l
    unfold readsBehind
    rw [List.tail_nil, ite_self, ih]
    simp

/-- While no checked letter finds a parameter, being behind makes no difference. -/
theorem coreReads_of_not_readsBehind (h : readsBehind letters args = false)
    (hlen : checked.length ≤ args.length) :
    coreReads letters args = validatorReads letters checked := by
  induction letters generalizing args checked with
  | nil => rfl
  | cons l rest ih =>
    obtain ⟨adding, letter⟩ := l
    unfold readsBehind at h
    obtain ⟨hhere, hrest⟩ := Bool.or_eq_false_iff.mp h
    unfold coreReads validatorReads
    congr 1
    · unfold readingAt
      split
      · rename_i hchecked
        obtain rfl : args = [] := by simpa [hchecked] using hhere
        obtain rfl : checked = [] := by simpa using hlen
        rfl
      · rfl
    · refine ih hrest ?_
      have htail : checked.tail.length ≤ args.tail.length := by simpa using Nat.sub_le_sub_right hlen 1
      have hdrop : args.tail.length ≤ args.length := by simp
      cases takesParam adding letter
      · simpa using hlen
      · cases overlongThrottle adding letter args.head?
        · simpa using htail
        · simpa using htail.trans hdrop

/-- The distance stays while the check has parameters left, and then nothing catches up. -/
theorem stays_behind {takes keeps : Bool} (hlen : checked.length < args.length)
    (hpos : 0 < (if takes && !keeps then args.tail else args).length) :
    (if takes then checked.tail else checked).length <
      (if takes && !keeps then args.tail else args).length := by
  cases takes
  · exact hlen
  · cases keeps
    · simp only [Bool.not_false, Bool.and_self, if_true, List.length_tail] at hpos ⊢
      omega
    · simp only [Bool.not_true, Bool.and_false, Bool.false_eq_true, if_true, if_false,
        List.length_tail]
      omega

/-- What is read at a later letter is not what was read here. -/
theorem not_mem_of_later {args' : List Text} (hr : r ∈ coreReads letters args')
    (hnot : r ∉ validatorReads letters checked) :
    r ∉ readingAt adding letter letters args ++ validatorReads letters checked := by
  intro hmem
  rcases List.mem_append.mp hmem with hmem | hmem
  · have := length_coreReads hr
    rw [(mem_readingAt hmem).2] at this
    exact absurd this (Nat.not_succ_le_self _)
  · exact hnot hmem

/-- Once behind, the first checked letter with a parameter left is misread. -/
theorem misread_of_readsBehind (h : readsBehind letters args = true)
    (hlen : checked.length < args.length) :
    ∃ r ∈ coreReads letters args, r ∉ validatorReads letters checked := by
  induction letters generalizing args checked with
  | nil => cases h
  | cons l rest ih =>
    obtain ⟨adding, letter⟩ := l
    unfold readsBehind at h
    unfold coreReads validatorReads
    rcases Bool.or_eq_true _ _ ▸ h with h | h
    · refine ⟨((adding, letter) :: rest, args), List.mem_append_left _ ?_, fun hmem => ?_⟩
      · rw [readingAt, if_pos (Bool.and_eq_true _ _ ▸ h).1]
        exact List.mem_singleton.mpr rfl
      · rcases List.mem_append.mp hmem with hmem | hmem
        · have hargs : args = checked := congrArg Prod.snd (mem_readingAt hmem).2
          rw [hargs] at hlen
          exact lt_irrefl _ hlen
        · exact absurd (length_validatorReads hmem) (Nat.not_succ_le_self _)
    · have hleft : ∀ {left : List Text}, readsBehind rest left = true → 0 < left.length := by
        rintro left hbehind
        refine List.length_pos_of_ne_nil ?_
        rintro rfl
        rw [readsBehind_nil] at hbehind
        cases hbehind
      obtain ⟨r, hr, hnot⟩ := ih h (stays_behind hlen (hleft h))
      exact ⟨r, List.mem_append_right _ hr, not_mem_of_later hr hnot⟩

theorem overlongThrottle_parts (h : overlongThrottle adding letter args.head? = true) :
    checkedLetter adding letter = false ∧ takesParam adding letter = true ∧ args ≠ [] := by
  unfold overlongThrottle at h
  simp only [Bool.and_eq_true, beq_iff_eq] at h
  obtain ⟨⟨rfl, rfl⟩, hlong⟩ := h
  refine ⟨by decide, by decide, ?_⟩
  rintro rfl
  cases hlong

/-- **The two scans agree unless a line misreads.** -/
theorem coreReads_eq_of_not_misreads (h : misreads letters args = false) :
    coreReads letters args = validatorReads letters args := by
  induction letters generalizing args with
  | nil => rfl
  | cons l rest ih =>
    obtain ⟨adding, letter⟩ := l
    unfold misreads at h
    unfold coreReads validatorReads
    congr 1
    split at h
    · rename_i hover
      rw [hover, (overlongThrottle_parts hover).2.1]
      exact coreReads_of_not_readsBehind h (by simp)
    · rename_i hover
      rw [Bool.not_eq_true] at hover
      rw [hover, Bool.not_false, Bool.and_true]
      exact ih h

theorem misread_of_misreads (h : misreads letters args = true) :
    ∃ r ∈ coreReads letters args, r ∉ validatorReads letters args := by
  induction letters generalizing args with
  | nil => cases h
  | cons l rest ih =>
    obtain ⟨adding, letter⟩ := l
    unfold misreads at h
    unfold coreReads validatorReads
    split at h
    · rename_i hover
      obtain ⟨-, htakes, hne⟩ := overlongThrottle_parts hover
      rw [hover, htakes]
      have hlen : args.tail.length < args.length := by
        have := List.length_pos_of_ne_nil hne
        simp
        omega
      obtain ⟨r, hr, hnot⟩ := misread_of_readsBehind h hlen
      exact ⟨r, List.mem_append_right _ hr, not_mem_of_later hr hnot⟩
    · rename_i hover
      rw [Bool.not_eq_true] at hover
      rw [hover, Bool.not_false, Bool.and_true]
      obtain ⟨r, hr, hnot⟩ := ih h
      exact ⟨r, List.mem_append_right _ hr, not_mem_of_later hr hnot⟩

/-! ## 4. Redirects -/

theorem redirectAcceptable_of_validated {chan : Channel}
    (h : validateParams chan letters args = none) :
    ∀ t ∈ redirectParams letters args, redirectAcceptable chan t = true := by
  induction letters generalizing args with
  | nil => exact fun _ h => by cases h
  | cons l rest ih =>
    obtain ⟨adding, letter⟩ := l
    unfold validateParams at h
    split at h
    · cases h
    split at h
    · cases h
    rename_i hacceptable
    intro t ht
    unfold redirectParams validatorReads at ht
    rw [List.filterMap_append] at ht
    rcases List.mem_append.mp ht with ht | ht
    · obtain ⟨r, hr, hread⟩ := List.mem_filterMap.mp ht
      obtain ⟨hchecked, rfl⟩ := mem_readingAt hr
      have hadding : adding = true := (Bool.and_eq_true _ _ ▸ hchecked).1
      cases args with
      | nil => cases hread
      | cons a as =>
        unfold Reading.redirect? at hread
        dsimp only at hread
        split at hread
        · rename_i hletter
          cases hread
          simpa [hadding, hletter] using hacceptable
        · cases hread
    · exact ih h t ht

/-- What one decided letter stores as a redirect. -/
theorem redirect_modeLetter (s : Server) (c : ClientRef) (ch : ChannelRef)
    (adding : Bool) (letter : Char) (rest : List (Bool × Char))
    (args : List Text) {t : Text} (hne : t ≠ []) :
    (∃ e consumes shown, (s.modeLetter c ch adding letter args.head?).1 = .change e consumes shown ∧
      e.redirect? = some t) ↔
      t ∈ (readingAt adding letter rest args).filterMap Reading.redirect? := by
  constructor
  · rintro ⟨e, consumes, shown, hchange, hredirect⟩
    have hfrom := readsFrom_modeLetter hchange
    have hread : ∀ l, l = 'L' ∨ l = 'B' → adding = true → letter = l → args.head? = some t →
        t ∈ (readingAt adding letter rest args).filterMap Reading.redirect? := by
      rintro l hl rfl rfl hargs
      obtain ⟨as, rfl⟩ : ∃ as, args = t :: as := by
        cases args with
        | nil => cases hargs
        | cons a as => exact ⟨as, by cases hargs; rfl⟩
      rcases hl with rfl | rfl <;> exact List.mem_singleton.mpr rfl
    cases e with
    | limitRedirect t' =>
      cases hredirect
      rcases hfrom with rfl | ⟨hadding, hletter, hparam⟩
      · exact absurd rfl hne
      · exact hread 'L' (.inl rfl) hadding hletter hparam
    | banRedirect t' =>
      cases hredirect
      rcases hfrom with rfl | ⟨hadding, hletter, hparam⟩
      · exact absurd rfl hne
      · exact hread 'B' (.inr rfl) hadding hletter hparam
    | _ => cases hredirect
  · intro h
    obtain ⟨r, hr, hread⟩ := List.mem_filterMap.mp h
    obtain ⟨hchecked, rfl⟩ := mem_readingAt hr
    obtain rfl : adding = true := (Bool.and_eq_true _ _ ▸ hchecked).1
    cases args with
    | nil => cases hread
    | cons a as =>
      unfold Reading.redirect? at hread
      dsimp only at hread
      split at hread
      · rename_i hletter
        cases hread
        rcases Bool.or_eq_true _ _ ▸ hletter with hletter | hletter
        · rw [eq_of_beq hletter]
          exact ⟨.limitRedirect t, true, some t, rfl, rfl⟩
        · rw [eq_of_beq hletter]
          exact ⟨.banRedirect t, true, some t, rfl, rfl⟩
      · cases hread

theorem edits_apply (run : ModeRun) (c : ClientRef) (ch : ChannelRef) (adding : Bool) (letter : Char)
    (decided : LetterOutcome × Server) (e : ChannelEdit) :
    e ∈ (run.apply c ch adding letter decided).edits ↔
      e ∈ run.edits ∨ ∃ consumes shown, decided.1 = .change e consumes shown := by
  obtain ⟨outcome, s⟩ := decided
  cases outcome with
  | refuse code params consumes => exact ⟨.inl, fun h => h.resolve_right fun ⟨_, _, h⟩ => by cases h⟩
  | change e' consumes shown =>
    have hedits : (run.apply c ch adding letter (.change e' consumes shown, s)).edits =
        run.edits ++ [e'] := rfl
    rw [hedits, List.mem_append, List.mem_singleton]
    refine or_congr_right ⟨?_, ?_⟩
    · rintro rfl
      exact ⟨consumes, shown, rfl⟩
    · rintro ⟨_, _, h⟩
      cases h
      rfl

/-- **The redirects a mode string stores are the parameters its +L and +B read.** -/
theorem redirects_modeLoop (c : ClientRef) (ch : ChannelRef) (letters : List (Bool × Char))
    (run : ModeRun) {t : Text} (hne : t ≠ []) :
    (∃ e ∈ (modeLoop c ch true letters run).2.edits, e.redirect? = some t) ↔
      (∃ e ∈ run.edits, e.redirect? = some t) ∨
        t ∈ (coreReads letters run.args).filterMap Reading.redirect? := by
  induction letters generalizing run with
  | nil => simp [modeLoop, coreReads]
  | cons l rest ih =>
    obtain ⟨adding, letter⟩ := l
    by_cases hquery : ∃ kind, listKind letter = some kind ∧ run.args = []
    · obtain ⟨kind, hkind, hargs⟩ := hquery
      rw [modeLoop_query hkind hargs, ih, coreReads, readingAt_of_listKind hkind]
      simp [hargs]
    · have hletter : (listKind letter).isSome = true → run.args ≠ [] := fun hsome hargs =>
        hquery ⟨_, (Option.some_get hsome).symm, hargs⟩
      rw [modeLoop_letter hletter, ih, args_apply, coreReads, List.filterMap_append,
        List.mem_append, ← or_assoc,
        ← redirect_modeLetter run.server c ch adding letter rest run.args hne]
      refine or_congr_left ?_
      constructor
      · rintro ⟨e, he, hredirect⟩
        rcases (edits_apply ..).mp he with he | ⟨consumes, shown, hchange⟩
        · exact .inl ⟨e, he, hredirect⟩
        · exact .inr ⟨e, consumes, shown, hchange, hredirect⟩
      · rintro (⟨e, he, hredirect⟩ | ⟨e, consumes, shown, hchange, hredirect⟩)
        · exact ⟨e, (edits_apply ..).mpr (.inl he), hredirect⟩
        · exact ⟨e, (edits_apply ..).mpr (.inr ⟨consumes, shown, hchange⟩), hredirect⟩

/-! ## 5. The check and the parser -/

/-- The parameters `mode_channel` pairs with the +l, +L and +B of a line are those that were
    checked for them. -/
def ReadsChecked (s : Server) (c : ClientRef) (ch : ChannelRef) (letters : Text) (args : List Text) :
    Prop :=
  ∀ r ∈ modeReads c ch ((s.channel ch).mayChange c) (signedLetters true letters)
      { server := s, args := args }, r ∈ validatorReads (signedLetters true letters) args

/-- A redirect that is stored is a channel name, whole, and not the channel's own. -/
def StoresRedirects (s : Server) (c : ClientRef) (ch : ChannelRef) (letters : Text) (args : List Text) :
    Prop :=
  ∀ t, t ≠ [] → (∃ e ∈ (modeLoop c ch ((s.channel ch).mayChange c) (signedLetters true letters)
      { server := s, args := args }).2.edits, e.redirect? = some t) →
    startsChannel t = true ∧ t.length ≤ ircChannelNameMax ∧ bounded ircChannelNameMax t = t ∧
      nameEq t (s.channel ch).name = false

/-- **Where the check and the parser agree.** Of the lines that pass the check, the parser reads
    and stores what was checked exactly when its sender may not change the channel, or no +l, +L
    or +B with a parameter left comes after an overlong +j and no redirect is the channel's own
    name in RFC1459 case mapping alone. -/
theorem checked_params_stored_iff (s : Server) (c : ClientRef) (ch : ChannelRef) (letters : Text)
    (args : List Text)
    (hvalid : validateParams (s.channel ch) (signedLetters true letters) args = none) :
    (s.ReadsChecked c ch letters args ∧ s.StoresRedirects c ch letters args) ↔
      ((s.channel ch).mayChange c = false ∨
        misreads (signedLetters true letters) args = false ∧
          ∀ t ∈ redirectParams (signedLetters true letters) args,
            nameEq t (s.channel ch).name = true → strcasecmpEq t (s.channel ch).name = true) := by
  have haccepted := redirectAcceptable_of_validated hvalid
  unfold ReadsChecked StoresRedirects
  cases hmay : (s.channel ch).mayChange c with
  | false =>
    refine iff_of_true ⟨?_, ?_⟩ (.inl rfl)
    · intro r hr
      rw [modeReads_of_not_mayChange] at hr
      cases hr
    · rintro t - ⟨e, he, -⟩
      rw [edits_modeLoop_of_not_mayChange] at he
      cases he
  | true =>
    have hstores : ∀ {t}, t ≠ [] → ((∃ e ∈ (modeLoop c ch true (signedLetters true letters)
        { server := s, args := args }).2.edits, e.redirect? = some t) ↔
        t ∈ (coreReads (signedLetters true letters) args).filterMap Reading.redirect?) := by
      intro t hne
      rw [redirects_modeLoop _ _ _ _ hne]
      simp
    rw [modeReads_eq]
    constructor
    · rintro ⟨hreads, hredirects⟩
      have hmis : misreads (signedLetters true letters) args = false := by
        by_contra hmis
        obtain ⟨r, hr, hnot⟩ := misread_of_misreads (by simpa using hmis)
        exact hnot (hreads r hr)
      refine .inr ⟨hmis, fun t ht hsame => ?_⟩
      have hne : t ≠ [] := by
        rintro rfl
        cases haccepted _ ht
      unfold redirectParams at ht
      rw [← coreReads_eq_of_not_misreads hmis] at ht
      have hdiffers := (hredirects t hne ((hstores hne).mpr ht)).2.2.2
      rw [hsame] at hdiffers
      cases hdiffers
    · rintro (h | ⟨hmis, hnames⟩)
      · cases h
      have hscan := coreReads_eq_of_not_misreads hmis
      refine ⟨fun r hr => hscan ▸ hr, fun t hne hstored => ?_⟩
      have ht : t ∈ redirectParams (signedLetters true letters) args := by
        unfold redirectParams
        rw [← hscan]
        exact (hstores hne).mp hstored
      have hok := haccepted t ht
      simp only [redirectAcceptable, Bool.and_eq_true, decide_eq_true_eq, Bool.not_eq_true'] at hok
      obtain ⟨⟨hstarts, hlen⟩, hother⟩ := hok
      refine ⟨hstarts, hlen, bounded_of_length_le hlen, ?_⟩
      by_contra hsame
      rw [hnames t ht (by simpa using hsame)] at hother
      cases hother

/-- With a throttle that fits, the redirect is the one that was checked. -/
theorem checked_params_stored_iff_throttle :
    lonelyOperator.ReadsChecked 0 0 "+jL".toList ["3:10".toList, "#other".toList] ∧
      lonelyOperator.StoresRedirects 0 0 "+jL".toList ["3:10".toList, "#other".toList] :=
  (checked_params_stored_iff lonelyOperator 0 0 "+jL".toList ["3:10".toList, "#other".toList]
    (by decide +kernel)).mpr (.inr ⟨by decide, by decide +kernel⟩)

/-- The line passes the check, which looked at `#other`; `mode_channel` stores the throttle that
    was too long for +j, cut to 32 bytes, as the redirect of +L. -/
theorem overlong_throttle_becomes_redirect :
    lonelyOperator.modeRequest 0 (some ("#c +jL ".toList ++ List.replicate 64 'x' ++ " #other".toList)) =
      some (0, "+jL".toList, [List.replicate 64 'x', "#other".toList]) ∧
    ¬ lonelyOperator.ReadsChecked 0 0 "+jL".toList [List.replicate 64 'x', "#other".toList] ∧
    ((lonelyOperator.dispatchMode 0
      (some ("#c +jL ".toList ++ List.replicate 64 'x' ++ " #other".toList))).channel 0).limitRedirect =
        List.replicate 32 'x' := by
  refine ⟨by decide +kernel, ?_, by decide +kernel⟩
  unfold ReadsChecked
  decide +kernel

end Server

end ScratchIrcd
