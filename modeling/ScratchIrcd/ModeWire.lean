/-
  File:      ScratchIrcd/ModeWire.lean
  Subject:   Is the line check of the dispatcher enough? `channel_mode_wire_fits`
             (src/commands/dispatch.c) measures the text of a MODE as it came in, `mode_channel`
             (src/commands/mode.c) broadcasts one that it has put together anew.

  The loop is followed by a balance: the bytes already written, the sign still to be written,
  and the bytes still to be read. No letter, sign or parameter raises it, and it starts one above
  the length of the text, because a mode string without a sign in front gets one in the echo.
  So the echo is at most one byte longer than the text, and exactly one byte longer when nothing
  of the text is lost on the way (`echoesAll`).
-/
import ScratchIrcd.ModeRule

namespace ScratchIrcd

open CText

variable {ch : ChannelRef} {c : ClientRef} {line : Line} {args : List Text} {run : ModeRun}
  {s : Server} {letters params target : Text}

/-! ## 1. The words of the text -/

/-- Words with a blank before each: parameters as they follow the mode letters. -/
def blankWords (ws : List Text) : Text := ws.flatMap (' ' :: ·)

/-- The letter is carried out. -/
def LetterOutcome.accepted : LetterOutcome → Bool
  | .refuse _ _ _ => false
  | .change _ _ _ => true

@[simp] theorem blankWords_nil : blankWords [] = [] := rfl

@[simp] theorem blankWords_cons (w : Text) (ws : List Text) :
    blankWords (w :: ws) = ' ' :: (w ++ blankWords ws) := rfl

namespace Server

theorem blankWords_spaceWords (fuel : Nat) (t : Text) :
    (blankWords (modeWords.spaceWords fuel t)).Sublist (' ' :: t) := by
  induction fuel generalizing t with
  | zero => exact List.nil_sublist _
  | succ fuel ih =>
    rw [modeWords.spaceWords]
    split
    · exact List.nil_sublist _
    · rename_i word rest htok
      rw [blankWords_cons]
      refine List.Sublist.cons_cons _ ?_
      obtain ⟨lead, ⟨rfl, rfl⟩ | ⟨d, hd, rfl⟩⟩ := strtok_split htok
      · have hnil : modeWords.spaceWords fuel [] = [] := by cases fuel <;> rfl
        rw [hnil, blankWords_nil, List.append_nil]
        exact List.sublist_append_right ..
      · obtain rfl : d = ' ' := by simpa using hd
        exact ((ih rest).append_left word).trans (List.sublist_append_right ..)

theorem blankWords_take (n : Nat) (ws : List Text) :
    (blankWords (ws.take n)).Sublist (blankWords ws) := by
  have hsplit : blankWords ws = blankWords (ws.take n) ++ blankWords (ws.drop n) := by
    unfold blankWords
    rw [← List.flatMap_append, List.take_append_drop]
  rw [hsplit]
  exact List.sublist_append_left ..

/-- Target, mode string and parameters with single blanks between them are what is left of the
    text when other blanks, and parameters past the 32nd, are taken out. -/
theorem modeWords_sublist (h : modeWords params = some (target, some (letters, args))) :
    (target ++ ' ' :: (letters ++ blankWords args)).Sublist params := by
  obtain ⟨⟨tok, rest⟩, htok, heq⟩ := Option.map_eq_some_iff.mp h
  obtain ⟨rfl, hwords⟩ := Prod.mk.inj heq
  obtain ⟨⟨tok', rest'⟩, htok', heq'⟩ := Option.map_eq_some_iff.mp hwords
  obtain ⟨rfl, rfl⟩ := Prod.mk.inj heq'
  have hargs := (blankWords_take 32 _).trans (blankWords_spaceWords rest'.length rest')
  obtain ⟨lead, ⟨rfl, rfl⟩ | ⟨d, hd, rfl⟩⟩ := strtok_split htok
  · cases htok'
  · obtain rfl : d = ' ' := by simpa using hd
    refine List.Sublist.trans ?_ (List.sublist_append_right lead _)
    refine List.Sublist.append_left (List.Sublist.cons_cons _ ?_) tok
    obtain ⟨lead', ⟨rfl, rfl⟩ | ⟨d', hd', rfl⟩⟩ := strtok_split htok'
    · rw [show modeWords.spaceWords (List.length []) [] = [] from rfl, List.take_nil,
        blankWords_nil, List.append_nil]
      exact List.sublist_append_right lead' tok'
    · obtain rfl : d' = ' ' := by simpa using hd'
      exact (hargs.append_left tok').trans (List.sublist_append_right lead' _)

theorem mem_spaceWords {fuel : Nat} {t w : Text} (h : w ∈ modeWords.spaceWords fuel t) :
    w ≠ [] ∧ ' ' ∉ w := by
  induction fuel generalizing t with
  | zero => cases h
  | succ fuel ih =>
    rw [modeWords.spaceWords] at h
    split at h
    · cases h
    · rename_i word rest htok
      rcases List.mem_cons.mp h with rfl | h
      · obtain ⟨hne, hno⟩ := strtok_token htok
        exact ⟨hne, fun hblank => by simpa using hno ' ' hblank⟩
      · exact ih h

/-- Parameters are words. -/
theorem modeWords_args (h : modeWords params = some (target, some (letters, args))) :
    ∀ w ∈ args, w ≠ [] ∧ ' ' ∉ w := by
  obtain ⟨⟨tok, rest⟩, -, heq⟩ := Option.map_eq_some_iff.mp h
  obtain ⟨-, hwords⟩ := Prod.mk.inj heq
  obtain ⟨⟨tok', rest'⟩, -, heq'⟩ := Option.map_eq_some_iff.mp hwords
  obtain ⟨-, rfl⟩ := Prod.mk.inj heq'
  exact fun w hw => mem_spaceWords (List.mem_of_mem_take hw)

/-! ## 2. The balance -/

/-- A nickname leads to a client of that nickname. -/
def NicksOk (s : Server) : Prop :=
  ∀ nick c, s.findNick nick = some c → nameEq (s.client c).nick nick = true

/-- Bytes that the collected parameters take, with the blank before the first of them. -/
def paramBytes (params : Text) : Nat := if params.isEmpty then 0 else 1 + params.length

/-- Bytes of the announcement so far. -/
def ModeRun.written (run : ModeRun) : Nat := run.changed.length + paramBytes run.changedParams

/-- 0 for what is written, 1 for what is due. -/
def due (lastSign : Option Char) (sign : Char) : Nat := if lastSign = some sign then 0 else 1

/-- The sign in force is not on the announcement yet. -/
def ModeRun.signDue (run : ModeRun) (adding : Bool) : Nat := due run.lastSign (signChar adding)

/-- Bytes written, due, and still to be read. -/
def ModeRun.balance (run : ModeRun) (adding : Bool) (letters : Text) : Nat :=
  run.written + run.signDue adding + letters.length + (blankWords run.args).length

/-- A change shows the parameter it uses up, or a nickname equal to it, and nothing otherwise. -/
def ShowsParam (param : Option Text) : LetterOutcome → Prop
  | .refuse _ _ _ => True
  | .change _ consumes shown => (consumes = false ∧ shown = none) ∨
      (consumes = true ∧ ∃ p q, param = some p ∧ shown = some q ∧ nameEq q p = true)

theorem showsParam_modeValue {adding : Bool} {letter : Char} {param : Option Text}
    {outcome : LetterOutcome} (h : modeValue adding letter param = some outcome) :
    ShowsParam param outcome := by
  have none_shown : ∀ e, ShowsParam param (.change e false none) := fun _ => .inl ⟨rfl, rfl⟩
  have self_shown : ∀ e p, param = some p → ShowsParam param (.change e true (some p)) :=
    fun _ p hp => .inr ⟨rfl, p, p, hp, rfl, nameEq_refl p⟩
  unfold modeValue at h
  split at h
  · cases h
    split
    · trivial
    · exact self_shown _ _ rfl
    · cases param with
      | none => exact none_shown _
      | some p => exact self_shown _ _ rfl
  · split at h
    · cases h
      split
      · trivial
      · split
        · exact self_shown _ _ rfl
        · trivial
      · exact none_shown _
    · split at h
      · cases h
        split
        · trivial
        · split
          · trivial
          · split
            · exact self_shown _ _ rfl
            · trivial
        · exact none_shown _
      · split at h
        · cases h
          split
          · trivial
          · exact self_shown _ _ rfl
          · exact none_shown _
        · split at h
          · cases h
            split
            · trivial
            · exact self_shown _ _ rfl
            · exact none_shown _
          · cases h

theorem showsParam_modePrivilege (hnicks : s.NicksOk) (c : ClientRef) (ch : ChannelRef)
    (adding : Bool) (p : ChannelPrivilege) (param : Text) :
    ShowsParam (some param) (s.modePrivilege c ch adding p param).1 := by
  unfold modePrivilege
  split
  · trivial
  · rename_i subject hfind
    split
    · trivial
    · -- SecureOps may read the database, which leaves the nicknames
      have hnick : ∀ s₁ : Server, s₁ = (if adding = true then s.secureopsAllows ch subject p
          else (true, s)).2 → nameEq (s₁.client subject).nick param = true := by
        rintro s₁ rfl
        have hclient : (if adding = true then s.secureopsAllows ch subject p
            else (true, s)).2.client = s.client := by
          split
          · exact (s.silent_secureopsAllows ch subject p).1.toQuiet.client
          · rfl
        rw [hclient]
        exact hnicks param subject hfind
      generalize (if adding = true then s.secureopsAllows ch subject p else (true, s)) = asked
        at hnick
      obtain ⟨allowed, s₁⟩ := asked
      dsimp only
      split
      · trivial
      · split
        · trivial
        · exact .inr ⟨rfl, param, _, rfl, rfl, hnick s₁ rfl⟩

theorem showsParam_modeLetter (hnicks : s.NicksOk) (c : ClientRef) (ch : ChannelRef)
    (adding : Bool) (letter : Char) (param : Option Text) :
    ShowsParam param (s.modeLetter c ch adding letter param).1 := by
  unfold modeLetter
  split
  · trivial
  · exact .inl ⟨rfl, rfl⟩
  · split
    · trivial
    · exact showsParam_modePrivilege hnicks ..
    · split
      · rename_i hvalue
        exact showsParam_modeValue hvalue
      · split
        · unfold modeMask
          dsimp only
          split
          · exact .inr ⟨rfl, _, _, rfl, rfl, nameEq_refl _⟩
          · split
            · trivial
            · exact .inr ⟨rfl, _, _, rfl, rfl, nameEq_refl _⟩
        · trivial
        · trivial

/-- There is room for the letter, and for its sign if that is due. -/
def ModeRun.hasRoom (run : ModeRun) (adding : Bool) : Bool :=
  decide (run.changed.length + run.signDue adding + 1 < 128)

/-- `append_mode` writes what is due and the letter, if there is room for both; if not, a byte is
    lost. -/
theorem length_appendMode (buffer : Text) (lastSign : Option Char) (sign letter : Char) :
    (appendMode 128 buffer lastSign sign letter).1.length +
        due (appendMode 128 buffer lastSign sign letter).2 sign +
        (if buffer.length + due lastSign sign + 1 < 128 then 0 else 1) =
      buffer.length + due lastSign sign + 1 := by
  unfold appendMode due
  by_cases hsign : lastSign = some sign
  · by_cases hroom : buffer.length + 1 < 128
    · simp [hsign, hroom]
    · simp [hsign, hroom]
  · by_cases hfirst : buffer.length + 1 < 128
    · by_cases hroom : buffer.length + 2 < 128
      · simp [hsign, hfirst, hroom]
      · simp [hsign, hfirst, hroom]
    · have hroom : ¬ buffer.length + 2 < 128 := by omega
      simp [hsign, hfirst, hroom]

/-- `append_param` writes all of a parameter while the buffer lasts. -/
theorem paramBytes_appendParam {buffer param : Text} (hne : param ≠ [])
    (hroom : paramBytes buffer + 1 + param.length ≤ 1024) :
    paramBytes (appendParam buffer param) = paramBytes buffer + 1 + param.length := by
  unfold appendParam
  unfold paramBytes at hroom ⊢
  cases buffer with
  | nil =>
    simp only [List.isEmpty_nil, if_true, Nat.zero_add] at hroom ⊢
    rw [bounded_of_length_le (by omega)]
    simp [hne]
  | cons x buffer =>
    simp only [List.isEmpty_cons, Bool.false_eq_true, if_false, List.length_cons] at hroom ⊢
    rw [bounded_of_length_le (by simp; omega)]
    simp
    omega

/-- What a letter leaves of the parameters. -/
theorem length_blankWords_tail_le (consumes : Bool) (args : List Text) :
    (blankWords (if consumes then args.tail else args)).length ≤ (blankWords args).length := by
  cases consumes with
  | false => exact le_rfl
  | true =>
    cases args with
    | nil => exact le_rfl
    | cons w ws =>
      simp only [if_true, List.tail_cons, blankWords_cons, List.length_cons, List.length_append]
      omega

/-- **One letter**: the balance stays if the letter is accepted and there is room for it, and
    falls otherwise. -/
theorem balance_apply (hnicks : run.server.NicksOk) (c : ClientRef) (ch : ChannelRef)
    (adding : Bool) (x : Char) (rest : Text) (hargs : ∀ w ∈ run.args, w ≠ [])
    (hbound : run.balance adding (x :: rest) ≤ 1024) {decided : LetterOutcome × Server}
    (hdecided : run.server.modeLetter c ch adding x run.args.head? = decided) :
    (run.apply c ch adding x decided).balance adding rest ≤ run.balance adding (x :: rest) ∧
      ((run.apply c ch adding x decided).balance adding rest = run.balance adding (x :: rest) ↔
        decided.1.accepted && run.hasRoom adding) := by
  have hshows := showsParam_modeLetter hnicks c ch adding x run.args.head?
  rw [hdecided] at hshows
  obtain ⟨outcome, s₁⟩ := decided
  have hbefore : run.balance adding (x :: rest) = run.changed.length +
      paramBytes run.changedParams + due run.lastSign (signChar adding) + (rest.length + 1) +
      (blankWords run.args).length := rfl
  cases outcome with
  | refuse code params consumes =>
    have hcost := length_blankWords_tail_le consumes run.args
    have hafter : (run.apply c ch adding x (.refuse code params consumes, s₁)).balance adding rest =
        run.changed.length + paramBytes run.changedParams + due run.lastSign (signChar adding) +
          rest.length + (blankWords (if consumes then run.args.tail else run.args)).length := rfl
    simp only [LetterOutcome.accepted, Bool.false_and, Bool.false_eq_true, iff_false]
    omega
  | change e consumes shown =>
    have hmode := length_appendMode run.changed run.lastSign (signChar adding) x
    -- the parameter leaves the text and enters the announcement
    obtain ⟨params, args, hafter, hparam⟩ : ∃ params args,
        (run.apply c ch adding x (.change e consumes shown, s₁)).balance adding rest =
          (appendMode 128 run.changed run.lastSign (signChar adding) x).1.length +
            paramBytes params + due (appendMode 128 run.changed run.lastSign (signChar adding) x).2
              (signChar adding) + rest.length + (blankWords args).length ∧
        paramBytes params + (blankWords args).length =
          paramBytes run.changedParams + (blankWords run.args).length := by
      rcases hshows with ⟨rfl, rfl⟩ | ⟨rfl, p, q, hp, rfl, hsame⟩
      · exact ⟨_, _, rfl, rfl⟩
      · have hlen := length_eq_of_nameEq hsame
        refine ⟨appendParam run.changedParams q, run.args.tail, rfl, ?_⟩
        obtain ⟨ws, hrun⟩ : ∃ ws, run.args = p :: ws := by
          cases hrun : run.args with
          | nil => rw [hrun] at hp; cases hp
          | cons w ws => rw [hrun] at hp; cases hp; exact ⟨ws, rfl⟩
        have hq : q ≠ [] := by
          rintro rfl
          refine hargs p (hrun ▸ List.mem_cons_self) (List.length_eq_zero_iff.mp hlen.symm)
        rw [hrun, blankWords_cons, List.length_cons, List.length_append] at hbefore ⊢
        rw [paramBytes_appendParam hq (by omega)]
        rw [List.tail_cons]
        omega
    have hroom : run.hasRoom adding = decide (run.changed.length +
        due run.lastSign (signChar adding) + 1 < 128) := rfl
    simp only [LetterOutcome.accepted, Bool.true_and, hroom, decide_eq_true_eq]
    split at hmode
    · rename_i hyes
      simp only [hyes, iff_true]
      omega
    · rename_i hno
      simp only [hno, iff_false]
      omega

/-- Every byte of the mode string, and of the parameters, comes back in the announcement: no sign
    is in front or repeated or without a letter, no letter is refused or a list query or past the
    end of the buffer, no parameter is left over. -/
def echoesAll (c : ClientRef) (ch : ChannelRef) : Bool → Text → ModeRun → Bool
  | adding, [], run => run.signDue adding == 0 && run.args.isEmpty
  | adding, x :: rest, run =>
      if isSign x then
        run.signDue adding == 0 && run.signDue (x == '+') == 1 && echoesAll c ch (x == '+') rest run
      else
        let decided := run.server.modeLetter c ch adding x run.args.head?
        decided.1.accepted && run.hasRoom adding &&
          echoesAll c ch adding rest (run.apply c ch adding x decided)

theorem signDue_le_one (run : ModeRun) (adding : Bool) : run.signDue adding ≤ 1 := by
  unfold ModeRun.signDue due
  split <;> omega

theorem length_blankWords_pos (h : args ≠ []) : 0 < (blankWords args).length := by
  cases args with
  | nil => exact absurd rfl h
  | cons w ws => simp

/-- Nicknames stay what they are through a letter. -/
theorem nicksOk_apply (h : run.server.NicksOk) (c : ClientRef) (ch : ChannelRef) (adding : Bool)
    (x : Char) (param : Option Text) :
    (run.apply c ch adding x (run.server.modeLetter c ch adding x param)).server.NicksOk := by
  have hout := quiet_apply run c ch adding x param
  intro nick subject hfind
  rw [hout.client]
  rw [findNick, hout.clientsByNick] at hfind
  exact h nick subject hfind

/-- A list letter without a parameter is a query, never a change. -/
theorem accepted_query (s : Server) (c : ClientRef) (ch : ChannelRef)
    (adding : Bool) {x : Char} {kind : MaskKind} (h : listKind x = some kind) :
    (s.modeLetter c ch adding x none).1.accepted = false := by
  have hx : x = 'b' ∨ x = 'e' ∨ x = 'I' := by
    unfold listKind at h
    split_ifs at h with h₁ h₂ h₃
    · exact .inl (by simpa using h₁)
    · exact .inr (.inl (by simpa using h₂))
    · exact .inr (.inr (by simpa using h₃))
  rcases hx with rfl | rfl | rfl <;> rfl

/-- **The loop**: what is written at the end is at most the balance at the start, and all of it
    exactly if the text is echoed in full. -/
theorem written_modeLoop (c : ClientRef) (ch : ChannelRef) (letters : Text) (adding : Bool)
    (run : ModeRun) (hnicks : run.server.NicksOk) (hargs : ∀ w ∈ run.args, w ≠ [])
    (hbound : run.balance adding letters ≤ 1024) :
    (modeLoop c ch true (signedLetters adding letters) run).2.written ≤ run.balance adding letters ∧
      ((modeLoop c ch true (signedLetters adding letters) run).2.written =
        run.balance adding letters ↔ echoesAll c ch adding letters run = true) := by
  induction letters generalizing adding run with
  | nil =>
    have hcost : (blankWords run.args).length = 0 ↔ run.args = [] := by
      refine ⟨fun h => ?_, fun h => by rw [h]; rfl⟩
      by_contra hne
      have := length_blankWords_pos hne
      omega
    show run.written ≤ _ ∧ (run.written = _ ↔ _)
    unfold ModeRun.balance echoesAll
    simp only [List.length_nil, Bool.and_eq_true, beq_iff_eq, List.isEmpty_iff, ← hcost]
    omega
  | cons x rest ih =>
    rw [signedLetters, echoesAll]
    split
    · -- a sign: it pays for itself if the one before it is written and differs
      have hsame : run.balance adding (x :: rest) + run.signDue (x == '+') =
          run.balance (x == '+') rest + run.signDue adding + 1 := by
        unfold ModeRun.balance
        rw [List.length_cons]
        omega
      have hdue := signDue_le_one run adding
      have hdue' := signDue_le_one run (x == '+')
      obtain ⟨hle, hiff⟩ := ih (x == '+') run hnicks hargs (by omega)
      simp only [Bool.and_eq_true, beq_iff_eq, ← hiff]
      omega
    · rw [modeLoop]
      split
      · -- a list query
        rename_i kind hkind hnone
        have hbalance : ModeRun.balance
            { run with server := run.server.sendMaskList c ch kind } adding rest + 1 =
            run.balance adding (x :: rest) := by
          show run.written + run.signDue adding + rest.length + (blankWords run.args).length + 1 =
            run.written + run.signDue adding + (rest.length + 1) + (blankWords run.args).length
          omega
        obtain ⟨hle, -⟩ := ih adding { run with server := run.server.sendMaskList c ch kind } hnicks
          hargs (by omega)
        have hsilent : (run.server.modeLetter c ch adding x run.args.head?).1.accepted =
            false := by
          rw [hnone]
          exact run.server.accepted_query c ch adding hkind
        dsimp only
        rw [hsilent]
        simp only [Bool.false_and, Bool.false_eq_true, iff_false]
        omega
      · rw [if_neg (by simp)]
        cases hdecided : run.server.modeLetter c ch adding x run.args.head? with
        | mk outcome s₁ =>
          obtain ⟨hle, hiff⟩ := balance_apply hnicks c ch adding x rest hargs hbound hdecided
          have hnicks' := nicksOk_apply hnicks c ch adding x run.args.head?
          rw [hdecided] at hnicks'
          have hargs' : ∀ w ∈ (run.apply c ch adding x (outcome, s₁)).args, w ≠ [] := by
            have hsub : ∀ consumes : Bool, ∀ w ∈ (if consumes then run.args.tail else run.args),
                w ≠ [] := by
              intro consumes w hw
              cases consumes with
              | false => exact hargs w hw
              | true => exact hargs w (List.mem_of_mem_tail hw)
            cases outcome with
            | refuse code params consumes => exact hsub consumes
            | change e consumes shown => exact hsub consumes
          obtain ⟨hle', hiff'⟩ := ih adding _ hnicks' hargs' (by omega)
          dsimp only
          simp only [Bool.and_eq_true] at hiff ⊢
          rw [← hiff, ← hiff']
          omega

/-- Nothing is announced of a mode string that may not change anything. -/
theorem changed_modeLoop_of_not_mayChange (c : ClientRef) (ch : ChannelRef)
    (letters : List (Bool × Char)) (run : ModeRun) :
    (modeLoop c ch false letters run).2.changed = run.changed :=
  modeLoop_induct (P := fun run' => run'.changed = run.changed) (fun _ _ _ h => h)
    (fun h => by cases h) rfl

/-! ## 3. The line -/

/-- The loop of `mode_channel` for a MODE of `c`. -/
def modeRun (s : Server) (c : ClientRef) (ch : ChannelRef) (letters : Text) (args : List Text) :
    Bool × ModeRun :=
  modeLoop c ch ((s.channel ch).mayChange c) (signedLetters true letters)
    { server := s, args := args }

/-- The letters and all the parameters to be announced. -/
def ModeRun.changes (run : ModeRun) : Text :=
  run.changed ++ (if run.changedParams.isEmpty then [] else ' ' :: run.changedParams)

/-- The line `mode_channel` has to announce for a MODE, with its channel. -/
def modeEcho (s : Server) (c : ClientRef) (params : Option Text) : Option (ChannelRef × Line) :=
  (s.modeRequest c params).bind fun (ch, letters, args) =>
    let (finished, run) := s.modeRun c ch letters args
    if finished && !run.changed.isEmpty then
      some (ch, ⟨s.userSource c, .mode (s.channel ch).name run.changes⟩)
    else none

/-- The bytes `channel_mode_wire_fits` counts. -/
def modeWireLength (cl : Client) (params : Text) : Nat :=
  1 + cl.nick.length + 1 + cl.user.length + 1 + cl.displayHost.length + 6 + params.length

/-- The text fills the line to the last byte, has no blank too many and no sign in front, and
    comes back in full. -/
def echoOverflows (s : Server) (c : ClientRef) (params : Text) : Bool :=
  modeWireLength (s.client c) params == ircLineContentMax &&
    match modeWords params with
    | some (target, some (letters, args)) =>
        params == target ++ ' ' :: (letters ++ blankWords args) &&
          (s.findChannel target).any fun ch =>
            echoesAll c ch true letters { server := s, args := args }
    | _ => false

theorem length_changes (run : ModeRun) : run.changes.length = run.written := by
  unfold ModeRun.changes ModeRun.written paramBytes
  rw [List.length_append]
  split
  · rfl
  · rw [List.length_cons]
    omega

/-- What a line to announce comes from. -/
theorem modeEcho_spec (h : s.modeEcho c (some params) = some (ch, line)) :
    ∃ letters args, s.modeRequest c (some params) = some (ch, letters, args) ∧
      (s.channel ch).mayChange c = true ∧ (s.modeRun c ch letters args).1 = true ∧
      (s.modeRun c ch letters args).2.changed ≠ [] ∧
      line = ⟨s.userSource c, .mode (s.channel ch).name (s.modeRun c ch letters args).2.changes⟩ := by
  obtain ⟨⟨ch', letters, args⟩, hreq, h⟩ := Option.bind_eq_some_iff.mp h
  dsimp only at h
  split at h
  · rename_i hdone
    cases h
    simp only [Bool.and_eq_true, Bool.not_eq_true', List.isEmpty_eq_false_iff] at hdone
    refine ⟨letters, args, hreq, ?_, hdone.1, hdone.2, rfl⟩
    cases hmay : (s.channel ch).mayChange c with
    | true => rfl
    | false =>
      have hnone := changed_modeLoop_of_not_mayChange c ch (signedLetters true letters)
        { server := s, args := args }
      rw [modeRun, hmay] at hdone
      exact absurd hnone hdone.2
  · cases h

theorem length_modeLine (s : Server) (c : ClientRef) (name changes serverName : Text) :
    ((⟨s.userSource c, .mode name changes⟩ : Line).wire serverName).length =
      1 + (s.client c).nick.length + 1 + (s.client c).user.length + 1 +
        (s.client c).displayHost.length + 6 + (name.length + 1 + changes.length) := by
  have hverb : "MODE ".toList.length = 5 := by decide
  unfold Line.wire Source.wire Body.wire userSource
  simp only [List.length_append, List.length_cons, List.length_nil]
  rw [hverb]
  omega

/-- The dispatcher looks at the channel that `strtok` will find. -/
theorem modeWireLength_le {cl : Client} {modes : Option (Text × List Text)}
    (hwords : modeWords params = some (target, modes)) (hstarts : startsChannel target = true)
    (hfits : modeWireFits cl (some params) = true) :
    modeWireLength cl params ≤ ircLineContentMax := by
  have hfirst : startsChannel (params.dropWhile (· == ' ')) = true := by
    obtain ⟨⟨tok, rest⟩, htok, heq⟩ := Option.map_eq_some_iff.mp hwords
    obtain ⟨rfl, -⟩ := Prod.mk.inj heq
    rw [strtokSpace, strtok] at htok
    cases hdrop : params.dropWhile (· == ' ') with
    | nil => rw [hdrop] at htok; cases htok
    | cons x xs =>
      rw [hdrop] at htok
      obtain ⟨rfl, -⟩ := Prod.mk.inj (Option.some.inj htok)
      rw [List.takeWhile_cons] at hstarts
      split at hstarts
      · exact hstarts
      · cases hstarts
  unfold modeWireLength ircLineContentMax
  simpa [modeWireFits, hfirst] using hfits

/-- **The line has one byte too many exactly if the text overflows it.** -/
theorem length_modeEcho (hok : s.ChannelsOk) (hnicks : s.NicksOk)
    (h : s.modeEcho c (some params) = some (ch, line)) :
    (line.wire s.config.serverName).length ≤ ircLineContentMax ↔
      s.echoOverflows c params = false := by
  obtain ⟨letters, args, hreq, hmay, -, -, rfl⟩ := modeEcho_spec h
  obtain ⟨hwire, -, target, hwords, hstarts, hfind, -⟩ := modeRequest_parts hreq
  rw [Option.bind_some] at hwords
  have hsub := modeWords_sublist hwords
  have hlen := hsub.length_le
  have hfull : (target ++ ' ' :: (letters ++ blankWords args)).length = params.length ↔
      params = target ++ ' ' :: (letters ++ blankWords args) :=
    ⟨fun heq => (hsub.eq_of_length heq).symm, fun heq => by rw [← heq]⟩
  have hname := length_eq_of_nameEq (hok.named hfind)
  have hfits := modeWireLength_le hwords hstarts hwire
  have hover : s.echoOverflows c params = true ↔
      modeWireLength (s.client c) params = ircLineContentMax ∧
        params = target ++ ' ' :: (letters ++ blankWords args) ∧
        echoesAll c ch true letters { server := s, args := args } = true := by
    simp [echoOverflows, hwords, hfind]
  rw [List.length_append, List.length_cons, List.length_append] at hlen hfull
  unfold modeWireLength ircLineContentMax at hfits hover
  -- the balance at the start: the sign that is due, and the text
  have hstart : ModeRun.balance { server := s, args := args } true letters =
      1 + letters.length + (blankWords args).length := by
    simp [ModeRun.balance, ModeRun.written, ModeRun.signDue, due, paramBytes]
  obtain ⟨hle, hiff⟩ := written_modeLoop c ch letters true { server := s, args := args }
    hnicks (fun w hw => (modeWords_args hwords w hw).1) (by omega)
  rw [length_modeLine, length_changes, modeRun, hmay, ← Bool.not_eq_true, hover, ← hiff, ← hfull]
  unfold ircLineContentMax
  omega

/-- A line that fits is announced with all its parameters. -/
theorem announceModes_of_fits (h : run.server.fits ⟨run.server.userSource c, .mode
      (run.server.channel ch).name run.changes⟩ = true) :
    run.server.announceModes c ch run.changed run.changedParams = run.server.broadcast ch none
      ⟨run.server.userSource c, .mode (run.server.channel ch).name run.changes⟩ := by
  have hletters : run.server.fits
      ⟨run.server.userSource c, .mode (run.server.channel ch).name run.changed⟩ = true := by
    refine decide_eq_true (Nat.le_trans ?_ (of_decide_eq_true h))
    rw [length_modeLine, length_modeLine]
    unfold ModeRun.changes
    rw [List.length_append]
    omega
  unfold announceModes
  dsimp only
  rw [hletters, if_neg (by simp)]
  unfold ModeRun.changes at h ⊢
  cases hparams : run.changedParams.isEmpty with
  | true => simp
  | false =>
    rw [hparams] at h
    rw [if_pos (by simpa using h)]
    rfl

/-- A request whose line fits, in full: the loop, the announcement, the saves. -/
theorem dispatchMode_of_modeEcho (hok : s.ChannelsOk)
    (h : s.modeEcho c (some params) = some (ch, line))
    (hreq : s.modeRequest c (some params) = some (ch, letters, args))
    (hfits : (line.wire s.config.serverName).length ≤ ircLineContentMax) :
    ∃ before name, s.dispatchMode c (some params) =
      (((s.modeRun c ch letters args).2.server.broadcast ch none line).persistChannel ch).modeSave
        before name := by
  obtain ⟨letters', args', hreq', -, hdone, hchanged, rfl⟩ := modeEcho_spec h
  obtain ⟨-, rfl, rfl⟩ : ch = ch ∧ letters = letters' ∧ args = args' := by
    have := Option.some.inj (hreq.symm.trans hreq')
    obtain ⟨h₁, h₂⟩ := Prod.mk.inj this
    exact ⟨h₁, Prod.mk.inj h₂⟩
  obtain ⟨before, name, -, hrun⟩ := dispatchMode_of_modeRequest hok hreq
  refine ⟨before, name, ?_⟩
  have hquiet := (s.modeOutcome_modeLoop c ch ((s.channel ch).mayChange c)
    (signedLetters true letters) args).quiet
  unfold modeRun at hdone hchanged hfits ⊢
  rw [hrun, modeChannel]
  generalize modeLoop c ch ((s.channel ch).mayChange c) (signedLetters true letters)
    { server := s, args := args } = final at *
  obtain ⟨finished, run⟩ := final
  dsimp only at hdone hchanged hfits hquiet ⊢
  subst hdone
  have hsource : run.server.userSource c = s.userSource c := by
    unfold userSource
    rw [hquiet.client]
  have hall : run.server.fits ⟨s.userSource c, .mode (s.channel ch).name run.changes⟩ = true := by
    rw [fits, hquiet.config]
    exact decide_eq_true hfits
  rw [← hsource, ← hquiet.name ch] at hall ⊢
  dsimp only
  rw [if_neg (by simpa using hchanged), announceModes_of_fits hall]

/-- A line that fits is what the members get. -/
theorem out_dispatchMode_of_modeEcho (hok : s.ChannelsOk)
    (h : s.modeEcho c (some params) = some (ch, line))
    (hfits : (line.wire s.config.serverName).length ≤ ircLineContentMax) :
    ∃ s' : Server, s'.memberRefs ch = s.memberRefs ch ∧
      (s.dispatchMode c (some params)).out = (s'.broadcast ch none line).out := by
  obtain ⟨letters, args, hreq, -⟩ := modeEcho_spec h
  obtain ⟨before, name, hrun⟩ := dispatchMode_of_modeEcho hok h hreq hfits
  refine ⟨_, (s.modeOutcome_modeLoop c ch ((s.channel ch).mayChange c)
    (signedLetters true letters) args).quiet.memberRefs ch, ?_⟩
  rw [hrun, out_modeSave]
  rfl

/-- **When the check of the dispatcher is enough.** A MODE line to be announced has at most 510
    bytes exactly if the text it was built from does not overflow it, and then it goes out with all
    its parameters. -/
theorem mode_echo_fits_iff (s : Server) (hok : s.ChannelsOk) (hnicks : s.NicksOk) (c : ClientRef)
    (params : Text) (ch : ChannelRef) (line : Line)
    (h : s.modeEcho c (some params) = some (ch, line)) :
    ((line.wire s.config.serverName).length ≤ 510 ↔ s.echoOverflows c params = false) ∧
      ((line.wire s.config.serverName).length ≤ 510 →
        ∃ s' : Server, s'.memberRefs ch = s.memberRefs ch ∧
          (s.dispatchMode c (some params)).out = (s'.broadcast ch none line).out) :=
  ⟨length_modeEcho hok hnicks h, out_dispatchMode_of_modeEcho hok h⟩

/-- An operator alone in a channel. -/
def lonelyOperator : Server :=
  { Server.initial {} {} {} with
    clients := [0]
    client := fun _ => { id := 1, registered := true, nick := "a".toList, user := "u".toList
                         displayHost := "h".toList, channels := [0] }
    clientsByNick := (ChainedTable.empty 4093 buckets_pos).set "a".toList 0
    channelsByName := (ChainedTable.empty 4093 buckets_pos).set "#c".toList 0
    channel := fun _ => (Channel.addMember { name := "#c".toList } 0).updateMember 0 fun _ =>
      { manual := {.operator} }
    nextChannel := 1
    channelCount := 1 }

theorem nicksOk_lonelyOperator : lonelyOperator.NicksOk := by
  intro nick c h
  rw [findNick, lonelyOperator, ChainedTable.get_set] at h
  split at h
  · rename_i heq
    exact heq
  · cases h

theorem channelsOk_lonelyOperator : lonelyOperator.ChannelsOk := by
  have hfound : ∀ {name ch}, lonelyOperator.findChannel name = some ch →
      nameEq "#c".toList name = true ∧ ch = 0 := by
    intro name ch h
    rw [findChannel, lonelyOperator, ChainedTable.get_set] at h
    split at h
    · rename_i heq
      exact ⟨heq, (Option.some.inj h).symm⟩
    · cases h
  refine ⟨fun h => ?_, fun h => ?_, fun h => ?_⟩
  · exact (hfound h).1
  · rw [(hfound h).2]
    decide +kernel
  · rw [(hfound h).2]
    decide +kernel

/-- With a sign in front the announcement is the text. -/
theorem mode_echo_fits_iff_signed :
    ∃ s' : Server, s'.memberRefs 0 = lonelyOperator.memberRefs 0 ∧
      (lonelyOperator.dispatchMode 0 (some "#c +mb *!*@bad".toList)).out = (s'.broadcast 0 none
        ⟨.user 0 "a".toList "u".toList "h".toList, .mode "#c".toList "+mb *!*@bad".toList⟩).out :=
  (mode_echo_fits_iff lonelyOperator channelsOk_lonelyOperator nicksOk_lonelyOperator 0
    "#c +mb *!*@bad".toList 0 _ (by decide +kernel)).2 (by decide +kernel)

/-- Five bans of 97 bytes, and no sign in front of their letters. -/
def unsignedBans : Text :=
  "#c bbbbb".toList ++ blankWords (['v', 'w', 'x', 'y', 'z'].map (List.replicate 97))

/-- The text passes the check with 510 bytes, the line built from it has 511, and the members hear
    of five bans without their masks. -/
theorem unsigned_bans_lose_masks :
    modeWireFits (lonelyOperator.client 0) (some unsignedBans) = true ∧
      (lonelyOperator.modeEcho 0 (some unsignedBans)).map
        (fun e => (e.2.wire lonelyOperator.config.serverName).length) = some 511 ∧
      (lonelyOperator.dispatchMode 0 (some unsignedBans)).out.map (·.line) =
        [⟨.user 0 "a".toList "u".toList "h".toList, .mode "#c".toList "+bbbbb".toList⟩] ∧
      ((lonelyOperator.dispatchMode 0 (some unsignedBans)).channel 0).banList.length = 5 := by
  decide +kernel

end Server

end ScratchIrcd
