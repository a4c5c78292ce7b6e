/-
  File:      ScratchIrcd/Input.lean
  Subject:   From the bytes of a connection to the lines of its commands
             (`client_input_line_fits`, `process_buffered_lines`, `read_client` of src/server.c).

  What a line does is not ours: `InputHandler` stands for `irc_handle_line` and for the 417 reply.
  Output queues that overflow are not modelled here. A client that is gone has no buffer.

  * **`framing_cut_independent_iff`** -- for a client that lets the server catch up after every
    read, it does not matter how the stream is cut into reads, exactly if the server comes to no
    line that is too long and yet fits into the input buffer. Such a line is judged in one way
    when it is complete and in another when its beginning is.
-/
import ScratchIrcd.Line

namespace ScratchIrcd

open CText

/-! ## 1. One line -/

/-- `IRCV3_CLIENT_TAG_SECTION_MAX`. -/
def ircv3ClientTagSectionMax : Nat := 4096

/-- `IRC_INPUT_LINE_MAX`. -/
def ircInputLineMax : Nat := ircv3ClientTagSectionMax + ircLineContentMax

/-- `IRC_INPUT_BUFFER_SIZE`. -/
def ircInputBufferSize : Nat := 8192

/-- `SERVER_INPUT_LINE_BUDGET_PER_CLIENT`. -/
def serverInputLineBudgetPerClient : Nat := 32

/-- `client_input_line_fits`. -/
def clientInputLineFits (line : Text) : Bool :=
  if line.head? ≠ some '@' then decide (line.length ≤ ircLineContentMax)
  else
    let separator := line.idxOf ' '
    decide (separator < line.length) && separator != 1 &&
      decide (separator + 1 ≤ ircv3ClientTagSectionMax) &&
      decide (line.length - (separator + 1) ≤ ircLineContentMax)

/-- What `process_buffered_lines` finds a complete line to be. -/
inductive LineFate where
  /-- Malformed, or too long without tags: the client has to go. -/
  | broken
  /-- Too long with tags: 417. -/
  | tooLong
  | handed (line : Text)
  deriving DecidableEq, Repr

/-- The bytes before the newline, without the CR that may end them. -/
def stripCr (raw : Text) : Text := if raw.getLast? = some '\r' then raw.dropLast else raw

def lineFate (raw : Text) : LineFate :=
  if raw.contains '\x00' || (stripCr raw).contains '\r' then .broken
  else if clientInputLineFits (stripCr raw) then .handed (stripCr raw)
  else if raw.head? ≠ some '@' then .broken
  else .tooLong

/-- `irc_handle_line` (does the client have to go?) and the reply 417. -/
structure InputHandler (σ : Type*) where
  handle : σ → Text → σ × Bool
  reject : σ → σ

/-- What the client's peer can tell: a line was carried out, or refused. -/
inductive InputEvent where
  | line (text : Text)
  | tooLong
  deriving DecidableEq, Repr

/-- A stretch of input handling: what it left of the state and of the buffer, how many lines it
    took, what happened, and whether the client has to go. -/
structure InputPass (σ : Type*) where
  state : σ
  buf : Text := []
  handled : Nat := 0
  events : List InputEvent := []
  gone : Bool := false

/-- One stretch after another. -/
def InputPass.andThen {σ : Type*} (p q : InputPass σ) : InputPass σ :=
  { q with handled := p.handled + q.handled, events := p.events ++ q.events }

namespace InputHandler

variable {σ : Type*} (h : InputHandler σ)

/-- What one complete line leads to; `rest` is what follows it in the buffer. -/
def takeLine (st : σ) (raw rest : Text) : InputPass σ :=
  match lineFate raw with
  | .broken => { state := st, gone := true }
  | .tooLong => { state := h.reject st, buf := rest, handled := 1, events := [.tooLong] }
  | .handed line =>
      if line.isEmpty then { state := st, buf := rest, handled := 1 }
      else
        let (st, quit) := h.handle st line
        { state := st, buf := if quit then [] else rest, handled := 1, events := [.line line]
          gone := quit }

/-! ## 2. The buffer -/

/-- The bytes up to the first newline, and those behind it (`memchr`). -/
def nextLine (buf : Text) : Option (Text × Text) :=
  match buf.dropWhile (· != '\n') with
  | [] => none
  | _ :: rest => some (buf.takeWhile (· != '\n'), rest)

/-- The loop of `process_buffered_lines`, for at most `n` lines. -/
def processLines : Nat → σ → Text → InputPass σ
  | 0, st, buf => { state := st, buf := buf }
  | n + 1, st, buf =>
      match nextLine buf with
      | none => { state := st, buf := buf }
      | some (raw, rest) =>
          let p := h.takeLine st raw rest
          if p.gone then p else p.andThen (processLines n p.state p.buf)

/-- How long a line may get before its newline comes, the CR included. -/
def lineLimit (buf : Text) : Nat :=
  (if buf.head? = some '@' then ircInputLineMax else ircLineContentMax) + 1

/-- What is left in the buffer is judged, too: a line that is already too long will not do. -/
def judgePartial (st : σ) (buf : Text) : InputPass σ :=
  if lineLimit buf < buf.length && !buf.contains '\n' then
    { state := h.reject st, events := [.tooLong], gone := true }
  else { state := st, buf := buf }

/-- `process_buffered_lines` with a budget of `n` lines. -/
def processBufferedLines (n : Nat) (st : σ) (buf : Text) : InputPass σ :=
  let p := h.processLines n st buf
  if p.gone then p else p.andThen (h.judgePartial p.state p.buf)

/-- The `pending` that `process_buffered_lines` reports. -/
def pending (p : InputPass σ) : Bool := !p.gone && p.buf.contains '\n'

/-- The server comes back to the client until it has no complete line left. -/
def drain : Nat → σ → Text → InputPass σ
  | 0, st, buf => { state := st, buf := buf }
  | fuel + 1, st, buf =>
      let p := h.processBufferedLines serverInputLineBudgetPerClient st buf
      if pending p then p.andThen (drain fuel p.state p.buf) else p

/-! ## 3. Reading -/

/-- `read_client`, and the server catching up: every pass takes a line, so the length of the
    buffer bounds their number. -/
def read (c : InputPass σ) (chunk : Text) : InputPass σ :=
  if c.gone then c
  else c.andThen (h.drain ((c.buf ++ chunk).length + 1) c.state (c.buf ++ chunk))

/-- The connection after a sequence of reads. -/
def readAll (c : InputPass σ) (chunks : List Text) : InputPass σ := chunks.foldl h.read c

/-- No read returns more than the buffer has room for. -/
def ReadsFit : InputPass σ → List Text → Prop
  | _, [] => True
  | c, chunk :: chunks =>
      (c.gone = true ∨ c.buf.length + chunk.length ≤ ircInputBufferSize - 1) ∧
        ReadsFit (h.read c chunk) chunks

/-- `chunks` is a way to cut `stream` into reads of a new connection. -/
structure IsCut (st : σ) (stream : Text) (chunks : List Text) : Prop where
  whole : chunks.flatten = stream
  nonempty : ∀ chunk ∈ chunks, chunk ≠ []
  fits : h.ReadsFit { state := st } chunks

end InputHandler

/-- The lines handed over and the replies in their order, how many lines were taken, and whether
    the client then has to go. -/
structure InputOutcome where
  events : List InputEvent
  handled : Nat
  gone : Bool
  deriving DecidableEq, Repr

def InputOutcome.andThen (a b : InputOutcome) : InputOutcome :=
  ⟨a.events ++ b.events, a.handled + b.handled, b.gone⟩

def InputPass.outcome {σ : Type*} (p : InputPass σ) : InputOutcome := ⟨p.events, p.handled, p.gone⟩

/-! ## 4. Catching up, line by line -/

namespace InputPass

variable {σ : Type*}

theorem andThen_assoc (p q r : InputPass σ) :
    (p.andThen q).andThen r = p.andThen (q.andThen r) := by
  simp only [andThen, Nat.add_assoc, List.append_assoc]

@[simp] theorem state_andThen (p q : InputPass σ) : (p.andThen q).state = q.state := rfl
@[simp] theorem buf_andThen (p q : InputPass σ) : (p.andThen q).buf = q.buf := rfl
@[simp] theorem gone_andThen (p q : InputPass σ) : (p.andThen q).gone = q.gone := rfl

theorem fresh_andThen (st : σ) (p : InputPass σ) :
    ({ state := st } : InputPass σ).andThen p = p := by
  simp only [andThen, Nat.zero_add, List.nil_append]

theorem outcome_andThen (p q : InputPass σ) :
    (p.andThen q).outcome = p.outcome.andThen q.outcome := rfl

/-- What came before is told apart from what follows. -/
theorem outcome_andThen_inj {p q r : InputPass σ} :
    (p.andThen q).outcome = (p.andThen r).outcome ↔ q.outcome = r.outcome := by
  simp [outcome, andThen]

end InputPass

namespace InputHandler

variable {σ : Type*} {h : InputHandler σ} {st : σ} {buf raw rest : Text}

theorem nextLine_append (hraw : '\n' ∉ raw) : nextLine (raw ++ '\n' :: rest) = some (raw, rest) := by
  have hall : ∀ x ∈ raw, (x != '\n') = true := fun x hx => bne_iff_ne.mpr fun heq => hraw (heq ▸ hx)
  unfold nextLine
  rw [List.dropWhile_append_of_pos hall, List.takeWhile_append_of_pos hall]
  simp

theorem nextLine_eq_some (heq : nextLine buf = some (raw, rest)) :
    buf = raw ++ '\n' :: rest ∧ '\n' ∉ raw := by
  unfold nextLine at heq
  split at heq
  · cases heq
  · rename_i x rest' hdrop
    cases heq
    have hx : (x != '\n') = false := by
      have := List.head?_dropWhile_not (· != '\n') buf
      simpa only [hdrop, List.head?_cons] using this
    refine ⟨?_, fun hmem => ?_⟩
    · have hcut : buf = buf.takeWhile (· != '\n') ++ x :: rest := by
        rw [← hdrop, List.takeWhile_append_dropWhile]
      rwa [bne_eq_false_iff_eq.mp hx] at hcut
    · have := List.mem_takeWhile_imp hmem
      simp at this

theorem nextLine_eq_none : nextLine buf = none ↔ '\n' ∉ buf := by
  constructor
  · intro hnone hmem
    obtain ⟨raw, rest, rfl, hraw⟩ := List.eq_append_cons_of_mem hmem
    rw [nextLine_append hraw] at hnone
    cases hnone
  · intro hno
    cases hnext : nextLine buf with
    | none => rfl
    | some line =>
      obtain ⟨rfl, -⟩ := nextLine_eq_some hnext
      exact absurd (List.mem_append_right _ List.mem_cons_self) hno

variable (h)

/-- Catching up, as a relation: line after line, then a look at what is left. -/
inductive Settles : σ → Text → InputPass σ → Prop
  | tail {st : σ} {buf : Text} (hnone : nextLine buf = none) :
      Settles st buf (h.judgePartial st buf)
  | quit {st : σ} {buf raw rest : Text} (hsome : nextLine buf = some (raw, rest))
      (hgone : (h.takeLine st raw rest).gone = true) : Settles st buf (h.takeLine st raw rest)
  | line {st : σ} {buf raw rest : Text} {q : InputPass σ} (hsome : nextLine buf = some (raw, rest))
      (hstay : (h.takeLine st raw rest).gone = false)
      (hrest : Settles (h.takeLine st raw rest).state (h.takeLine st raw rest).buf q) :
      Settles st buf ((h.takeLine st raw rest).andThen q)

variable {h}

theorem Settles.unique {p q : InputPass σ} (hp : h.Settles st buf p) (hq : h.Settles st buf q) :
    p = q := by
  induction hp generalizing q with
  | tail hnone =>
    cases hq with
    | tail => rfl
    | quit hsome => rw [hnone] at hsome; cases hsome
    | line hsome => rw [hnone] at hsome; cases hsome
  | quit hsome hgone =>
    cases hq with
    | tail hnone => rw [hsome] at hnone; cases hnone
    | quit hsome' => rw [hsome] at hsome'; cases hsome'; rfl
    | line hsome' hstay =>
      rw [hsome] at hsome'
      cases hsome'
      rw [hgone] at hstay
      cases hstay
  | line hsome hstay _ ih =>
    cases hq with
    | tail hnone => rw [hsome] at hnone; cases hnone
    | quit hsome' hgone =>
      rw [hsome] at hsome'
      cases hsome'
      rw [hgone] at hstay
      cases hstay
    | line hsome' _ hrest =>
      rw [hsome] at hsome'
      cases hsome'
      rw [ih hrest]

/-- Whatever the budget, a pass does what catching up begins with. -/
theorem processLines_settles (n : Nat) (st : σ) (buf : Text) :
    ((h.processLines n st buf).gone = true → h.Settles st buf (h.processLines n st buf)) ∧
      ((h.processLines n st buf).gone = false → ∀ q,
        h.Settles (h.processLines n st buf).state (h.processLines n st buf).buf q →
        h.Settles st buf ((h.processLines n st buf).andThen q)) := by
  induction n generalizing st buf with
  | zero =>
    refine ⟨(fun hg => by cases hg), fun _ q hq => ?_⟩
    rwa [processLines, InputPass.andThen, Nat.zero_add, List.nil_append]
  | succ n ih =>
    unfold processLines
    cases hnext : nextLine buf with
    | none =>
      refine ⟨(fun hg => by cases hg), fun _ q hq => ?_⟩
      rwa [InputPass.andThen, Nat.zero_add, List.nil_append]
    | some line =>
      dsimp only
      cases hgone : (h.takeLine st line.1 line.2).gone with
      | true =>
        rw [if_pos rfl]
        exact ⟨fun _ => .quit hnext hgone, fun hstay => by rw [hgone] at hstay; cases hstay⟩
      | false =>
        rw [if_neg Bool.false_ne_true]
        obtain ⟨hquit, hgo⟩ := ih (h.takeLine st line.1 line.2).state (h.takeLine st line.1 line.2).buf
        refine ⟨fun hg => .line hnext hgone (hquit hg), fun hg q hq => ?_⟩
        rw [InputPass.andThen_assoc]
        exact .line hnext hgone (hgo hg q hq)

theorem takeLine_buf (st : σ) (raw rest : Text) :
    (h.takeLine st raw rest).buf = if (h.takeLine st raw rest).gone then [] else rest := by
  unfold takeLine
  split
  · rfl
  · rfl
  · split
    · rfl
    · rfl

theorem processLines_buf_le (n : Nat) (st : σ) (buf : Text) :
    (h.processLines n st buf).buf.length ≤ buf.length := by
  induction n generalizing st buf with
  | zero => exact Nat.le_refl _
  | succ n ih =>
    unfold processLines
    split
    · exact Nat.le_refl _
    · rename_i raw rest hnext
      obtain ⟨rfl, -⟩ := nextLine_eq_some hnext
      have hbuf := h.takeLine_buf st raw rest
      dsimp only
      split
      · rename_i hgone
        rw [hbuf, if_pos hgone]
        exact Nat.zero_le _
      · rename_i hgone
        rw [if_neg hgone] at hbuf
        refine (ih _ _).trans ?_
        rw [hbuf, List.length_append, List.length_cons]
        omega

/-- A pass with a budget takes a line off a buffer that has one. -/
theorem processLines_buf_lt {n : Nat} (hmem : '\n' ∈ buf) :
    (h.processLines (n + 1) st buf).buf.length < buf.length := by
  unfold processLines
  split
  · rename_i hnone
    exact absurd hmem (nextLine_eq_none.mp hnone)
  · rename_i raw rest hnext
    obtain ⟨rfl, -⟩ := nextLine_eq_some hnext
    have hbuf := h.takeLine_buf st raw rest
    rw [List.length_append, List.length_cons]
    dsimp only
    split
    · rename_i hgone
      rw [hbuf, if_pos hgone, List.length_nil]
      omega
    · rename_i hgone
      rw [if_neg hgone] at hbuf
      refine Nat.lt_of_le_of_lt (h.processLines_buf_le n _ _) ?_
      rw [hbuf]
      omega

theorem judgePartial_of_mem (hmem : '\n' ∈ buf) :
    h.judgePartial st buf = { state := st, buf := buf } := by
  unfold judgePartial
  rw [List.contains_iff_mem.mpr hmem, Bool.not_true, Bool.and_false, if_neg Bool.false_ne_true]

theorem processLines_of_none (hnone : nextLine buf = none) (n : Nat) :
    h.processLines n st buf = { state := st, buf := buf } := by
  cases n with
  | zero => rfl
  | succ n => rw [processLines, hnone]

/-- One pass: it caught up, or there is a shorter buffer to go on with. -/
theorem processBufferedLines_settles (n : Nat) (st : σ) (buf : Text) :
    (pending (h.processBufferedLines (n + 1) st buf) = false →
        h.Settles st buf (h.processBufferedLines (n + 1) st buf)) ∧
      (pending (h.processBufferedLines (n + 1) st buf) = true →
        (h.processBufferedLines (n + 1) st buf).buf.length < buf.length ∧ ∀ q,
          h.Settles (h.processBufferedLines (n + 1) st buf).state
            (h.processBufferedLines (n + 1) st buf).buf q →
          h.Settles st buf ((h.processBufferedLines (n + 1) st buf).andThen q)) := by
  obtain ⟨hquit, hgo⟩ := h.processLines_settles (n + 1) st buf
  have hlt : '\n' ∈ buf → (h.processLines (n + 1) st buf).buf.length < buf.length :=
    fun hmem => h.processLines_buf_lt hmem
  have hnone : nextLine buf = none → h.processLines (n + 1) st buf = { state := st, buf := buf } :=
    fun hnone => h.processLines_of_none hnone (n + 1)
  unfold processBufferedLines
  generalize h.processLines (n + 1) st buf = p at hquit hgo hlt hnone
  dsimp only
  cases hgone : p.gone with
  | true =>
    rw [if_pos rfl]
    refine ⟨fun _ => hquit hgone, fun hp => ?_⟩
    rw [pending, hgone] at hp
    cases hp
  | false =>
    rw [if_neg Bool.false_ne_true]
    by_cases hmem : '\n' ∈ p.buf
    · rw [judgePartial_of_mem hmem]
      refine ⟨fun hp => ?_, fun _ => ⟨?_, fun q hq => ?_⟩⟩
      · rw [pending, InputPass.buf_andThen, List.contains_iff_mem.mpr hmem] at hp
        cases hp
      · refine hlt ?_
        by_contra hno
        rw [hnone (nextLine_eq_none.mpr hno)] at hmem
        exact hno hmem
      · rw [InputPass.andThen_assoc]
        refine hgo hgone _ ?_
        rwa [InputPass.andThen, Nat.zero_add, List.nil_append]
    · refine ⟨fun _ => hgo hgone _ (.tail (nextLine_eq_none.mpr hmem)), fun hp => ?_⟩
      unfold pending judgePartial at hp
      split at hp
      · cases hp
      · simp only [InputPass.gone_andThen, InputPass.buf_andThen, Bool.not_false, Bool.true_and] at hp
        exact absurd (List.contains_iff_mem.mp hp) hmem

/-- **The server catches up**: pass after pass, it takes line after line. -/
theorem drain_settles {fuel : Nat} (hfuel : buf.length < fuel) :
    h.Settles st buf (h.drain fuel st buf) := by
  induction fuel generalizing st buf with
  | zero => exact absurd hfuel (Nat.not_lt_zero _)
  | succ fuel ih =>
    obtain ⟨hdone, hmore⟩ := h.processBufferedLines_settles 31 st buf
    unfold drain serverInputLineBudgetPerClient
    dsimp only
    split
    · rename_i hp
      obtain ⟨hlt, hgo⟩ := hmore hp
      exact hgo _ (ih (Nat.lt_of_lt_of_le hlt (Nat.lt_succ_iff.mp hfuel)))
    · rename_i hp
      exact hdone (Bool.not_eq_true _ ▸ hp)

/-! ## 5. One read -/

variable {c : InputPass σ} {chunk : Text}

/-- No line is complete yet. -/
theorem read_unfinished (hstay : c.gone = false) (hno : '\n' ∉ c.buf ++ chunk) :
    h.read c chunk = c.andThen (h.judgePartial c.state (c.buf ++ chunk)) := by
  have hdrain : h.Settles c.state (c.buf ++ chunk) _ := drain_settles (Nat.lt_succ_self _)
  rw [read, hstay, if_neg Bool.false_ne_true,
    hdrain.unique (.tail (nextLine_eq_none.mpr hno))]

/-- The first line is complete, and the client has to go. -/
theorem read_quit (hstay : c.gone = false) (heq : c.buf ++ chunk = raw ++ '\n' :: rest)
    (hraw : '\n' ∉ raw) (hgone : (h.takeLine c.state raw rest).gone = true) :
    h.read c chunk = c.andThen (h.takeLine c.state raw rest) := by
  have hdrain : h.Settles c.state (c.buf ++ chunk) _ := drain_settles (Nat.lt_succ_self _)
  rw [read, hstay, if_neg Bool.false_ne_true,
    hdrain.unique (.quit (by rw [heq]; exact nextLine_append hraw) hgone)]

/-- The first line is complete and taken: what follows it is read on its own. -/
theorem read_line (hstay : c.gone = false) (heq : c.buf ++ chunk = raw ++ '\n' :: rest)
    (hraw : '\n' ∉ raw) (hkeep : (h.takeLine c.state raw rest).gone = false) :
    h.read c chunk = (c.andThen (h.takeLine c.state raw rest)).andThen
      (h.read { state := (h.takeLine c.state raw rest).state } rest) := by
  have hdrain : h.Settles c.state (c.buf ++ chunk) _ := drain_settles (Nat.lt_succ_self _)
  have hbuf := h.takeLine_buf c.state raw rest
  rw [hkeep, if_neg Bool.false_ne_true] at hbuf
  have hrest : h.Settles (h.takeLine c.state raw rest).state (h.takeLine c.state raw rest).buf
      (h.drain (rest.length + 1) (h.takeLine c.state raw rest).state rest) := by
    rw [hbuf]
    exact drain_settles (Nat.lt_succ_self _)
  rw [read, hstay, if_neg Bool.false_ne_true,
    hdrain.unique (.line (by rw [heq]; exact nextLine_append hraw) hkeep hrest),
    InputPass.andThen_assoc, read, if_neg Bool.false_ne_true, InputPass.fresh_andThen,
    List.nil_append]

theorem read_of_gone (hgone : c.gone = true) : h.read c chunk = c := by
  rw [read, if_pos hgone]

theorem readAll_of_gone (hgone : c.gone = true) (chunks : List Text) : h.readAll c chunks = c := by
  induction chunks with
  | nil => rfl
  | cons chunk chunks ih => rw [readAll, List.foldl_cons, read_of_gone hgone]; exact ih

/-- What happened before a read does not change what the read does. -/
theorem read_andThen (p c : InputPass σ) (chunk : Text) :
    h.read (p.andThen c) chunk = p.andThen (h.read c chunk) := by
  unfold read
  rw [InputPass.gone_andThen, InputPass.buf_andThen, InputPass.state_andThen]
  split
  · rfl
  · rw [InputPass.andThen_assoc]

theorem readAll_andThen (p c : InputPass σ) (chunks : List Text) :
    h.readAll (p.andThen c) chunks = p.andThen (h.readAll c chunks) := by
  induction chunks generalizing c with
  | nil => rfl
  | cons chunk chunks ih =>
    rw [readAll, List.foldl_cons, read_andThen]
    exact ih (h.read c chunk)

theorem readsFit_andThen (p c : InputPass σ) (chunks : List Text) :
    h.ReadsFit (p.andThen c) chunks ↔ h.ReadsFit c chunks := by
  induction chunks generalizing c with
  | nil => exact Iff.rfl
  | cons chunk chunks ih =>
    rw [ReadsFit, ReadsFit, read_andThen, ih]
    exact Iff.rfl

/-! ## 6. Streams whose cuts do not matter -/

variable (h)

/-- The server comes to no line that is too long and yet fits into the buffer with its newline. -/
inductive Unambiguous : σ → Text → Prop
  | tail {st : σ} {stream : Text} (hno : '\n' ∉ stream) : Unambiguous st stream
  /-- The buffer is full before the newline comes. -/
  | endless {st : σ} {raw rest : Text} (hraw : '\n' ∉ raw)
      (hlong : ircInputBufferSize - 1 ≤ raw.length) : Unambiguous st (raw ++ '\n' :: rest)
  | last {st : σ} {raw rest : Text} (hraw : '\n' ∉ raw) (hfit : raw.length ≤ lineLimit raw)
      (hgone : (h.takeLine st raw rest).gone = true) : Unambiguous st (raw ++ '\n' :: rest)
  | line {st : σ} {raw rest : Text} (hraw : '\n' ∉ raw) (hfit : raw.length ≤ lineLimit raw)
      (hkeep : (h.takeLine st raw rest).gone = false)
      (hrest : Unambiguous (h.takeLine st raw rest).state rest) :
      Unambiguous st (raw ++ '\n' :: rest)

variable {h}

theorem split_unique {raw' rest' : Text} (heq : raw ++ '\n' :: rest = raw' ++ '\n' :: rest')
    (hraw : '\n' ∉ raw) (hraw' : '\n' ∉ raw') : raw = raw' ∧ rest = rest' := by
  have hnext : nextLine (raw ++ '\n' :: rest) = some (raw, rest) := nextLine_append hraw
  exact Prod.mk.inj (Option.some.inj (hnext.symm.trans (heq ▸ nextLine_append hraw')))

/-- What comes before any newline is part of the first line. -/
theorem prefix_of_append {p q : Text} (heq : p ++ q = raw ++ '\n' :: rest) (hp : '\n' ∉ p) :
    p <+: raw := by
  have hp' : p <+: raw ++ ['\n'] ++ rest := ⟨q, by rw [heq]; simp⟩
  rcases List.prefix_or_prefix_of_prefix hp' (List.prefix_append _ rest) with hpre | hpre
  · rcases List.prefix_concat_iff.mp hpre with rfl | hpre
    · exact absurd (List.mem_append_right _ List.mem_cons_self) hp
    · exact hpre
  · exact absurd (hpre.subset (List.mem_append_right _ List.mem_cons_self)) hp

theorem lineLimit_of_beginning {p : Text} (hpre : p <+: raw) (hne : p ≠ []) :
    lineLimit p = lineLimit raw := by
  obtain ⟨q, rfl⟩ := hpre
  unfold lineLimit
  rw [List.head?_append_of_ne_nil _ hne]

theorem lineLimit_pos (buf : Text) : 0 < lineLimit buf := Nat.succ_pos _

/-- The beginning of a line that is not too long is not too long. -/
theorem length_le_of_beginning {p : Text} (hpre : p <+: raw) (hfit : raw.length ≤ lineLimit raw) :
    p.length ≤ lineLimit p := by
  by_cases hne : p = []
  · rw [hne]
    exact Nat.zero_le _
  · rw [lineLimit_of_beginning hpre hne]
    exact hpre.length_le.trans hfit

theorem judgePartial_of_le (hle : buf.length ≤ lineLimit buf) :
    h.judgePartial st buf = { state := st, buf := buf } := by
  unfold judgePartial
  rw [decide_eq_false (Nat.not_lt.mpr hle), Bool.false_and, if_neg Bool.false_ne_true]

theorem judgePartial_of_lt (hno : '\n' ∉ buf) (hlt : lineLimit buf < buf.length) :
    h.judgePartial st buf = { state := h.reject st, events := [.tooLong], gone := true } := by
  unfold judgePartial
  have hcontains : buf.contains '\n' = false := by
    rw [← Bool.not_eq_true, List.contains_iff_mem]
    exact hno
  rw [decide_eq_true hlt, hcontains, Bool.not_false, Bool.and_self, if_pos rfl]

/-- The client is told that its line is too long, and goes. -/
def refused : InputOutcome := ⟨[.tooLong], 0, true⟩

section Partial

variable {chunks : List Text}

/-- A read that completes no line and makes it too long is the last one. -/
theorem readAll_refused (hno : '\n' ∉ buf ++ chunk) (hlt : lineLimit (buf ++ chunk) < (buf ++ chunk).length) :
    (h.readAll { state := st, buf := buf } (chunk :: chunks)).outcome = refused := by
  rw [readAll, List.foldl_cons, read_unfinished rfl hno, judgePartial_of_lt hno hlt]
  exact congrArg InputPass.outcome (readAll_of_gone rfl chunks)

/-- A read that completes no line and does not make it too long is kept. -/
theorem read_kept (hno : '\n' ∉ buf ++ chunk) (hle : (buf ++ chunk).length ≤ lineLimit (buf ++ chunk)) :
    h.read { state := st, buf := buf } chunk = { state := st, buf := buf ++ chunk } := by
  rw [read_unfinished rfl hno, judgePartial_of_le hle]
  rfl

end Partial

theorem takeLine_rest (st : σ) (raw rest rest' : Text) :
    (h.takeLine st raw rest).state = (h.takeLine st raw rest').state ∧
      (h.takeLine st raw rest).outcome = (h.takeLine st raw rest').outcome := by
  unfold takeLine
  split
  · exact ⟨rfl, rfl⟩
  · exact ⟨rfl, rfl⟩
  · split
    · exact ⟨rfl, rfl⟩
    · exact ⟨rfl, rfl⟩

/-- A piece of a line that is not too long just waits in the buffer. -/
def Waits (buf : Text) : Prop := '\n' ∉ buf ∧ buf.length ≤ lineLimit buf

/-- The rule for reads: it is enough to look at those that do more than wait. -/
theorem readAll_outcome {stream : Text} {o : InputOutcome}
    (hend : Waits stream → o = ⟨[], 0, false⟩)
    (hstep : ∀ buf chunk chunks, buf ++ chunk ++ chunks.flatten = stream → ¬ Waits (buf ++ chunk) →
      h.ReadsFit { state := st, buf := buf } (chunk :: chunks) →
      (h.readAll { state := st, buf := buf } (chunk :: chunks)).outcome = o) :
    ∀ buf chunks, buf ++ chunks.flatten = stream → Waits buf →
      h.ReadsFit { state := st, buf := buf } chunks →
      (h.readAll { state := st, buf := buf } chunks).outcome = o := by
  intro buf chunks
  induction chunks generalizing buf with
  | nil =>
    intro heq hwaits _
    rw [List.flatten_nil, List.append_nil] at heq
    rw [hend (heq ▸ hwaits)]
    rfl
  | cons chunk chunks ih =>
    intro heq _ hfit
    rw [List.flatten_cons, ← List.append_assoc] at heq
    by_cases hwaits : Waits (buf ++ chunk)
    · have hkept : h.read { state := st, buf := buf } chunk = { state := st, buf := buf ++ chunk } :=
        read_kept hwaits.1 hwaits.2
      rw [readAll, List.foldl_cons, hkept]
      exact ih (buf ++ chunk) heq hwaits (hkept ▸ hfit.2)
    · exact hstep buf chunk chunks heq hwaits hfit

theorem not_waits_append : ¬ Waits (raw ++ '\n' :: rest) :=
  fun hw => hw.1 (List.mem_append_right _ List.mem_cons_self)

/-- A beginning of a stream that does more than wait, its first line being short enough, holds
    that line. -/
theorem holds_line {p q : Text} (heq : p ++ q = raw ++ '\n' :: rest) (hraw : '\n' ∉ raw)
    (hfit : raw.length ≤ lineLimit raw) (hw : ¬ Waits p) :
    ∃ r, p = raw ++ '\n' :: r ∧ r ++ q = rest := by
  have hmem : '\n' ∈ p := by
    by_contra hno
    exact hw ⟨hno, length_le_of_beginning (prefix_of_append heq hno) hfit⟩
  obtain ⟨raw', r, rfl, hraw'⟩ := List.eq_append_cons_of_mem hmem
  rw [List.append_assoc, List.cons_append] at heq
  obtain ⟨rfl, hrest⟩ := split_unique heq hraw' hraw
  exact ⟨r, rfl, hrest⟩

/-- **One outcome for all cuts** of a stream, and for every beginning of it that already waits in
    the buffer. The induction is on the lines the server comes to. -/
theorem Unambiguous.outcome {stream : Text} (hu : h.Unambiguous st stream) :
    ∃ o, ∀ buf chunks, buf ++ chunks.flatten = stream → Waits buf →
      h.ReadsFit { state := st, buf := buf } chunks →
      (h.readAll { state := st, buf := buf } chunks).outcome = o := by
  induction hu with
  | @tail st stream hno =>
    by_cases hlong : lineLimit stream < stream.length
    · refine ⟨refused, readAll_outcome (fun hw => absurd hw.2 (Nat.not_le.mpr hlong)) ?_⟩
      intro buf chunk chunks heq hw _
      have hno' : '\n' ∉ buf ++ chunk := fun hmem => hno (heq ▸ List.mem_append_left _ hmem)
      exact readAll_refused hno' (Nat.not_le.mp fun hle => hw ⟨hno', hle⟩)
    · refine ⟨_, readAll_outcome (fun _ => rfl) ?_⟩
      intro buf chunk chunks heq hw _
      have hpre : buf ++ chunk <+: stream := ⟨_, heq⟩
      exact absurd ⟨fun hmem => hno (hpre.subset hmem),
        length_le_of_beginning hpre (Nat.not_lt.mp hlong)⟩ hw
  | @endless st raw rest hraw hlong =>
    refine ⟨refused, readAll_outcome (fun hw => absurd hw not_waits_append) ?_⟩
    intro buf chunk chunks heq hw hreads
    have hroom : (buf ++ chunk).length ≤ ircInputBufferSize - 1 := by
      rw [List.length_append]
      exact hreads.1.resolve_left Bool.false_ne_true
    have hpre : buf ++ chunk <+: raw :=
      List.prefix_of_prefix_length_le ⟨_, heq⟩ (List.prefix_append ..) (hroom.trans hlong)
    have hno' : '\n' ∉ buf ++ chunk := fun hmem => hraw (hpre.subset hmem)
    exact readAll_refused hno' (Nat.not_le.mp fun hle => hw ⟨hno', hle⟩)
  | @last st raw rest hraw hfit hgone =>
    refine ⟨(h.takeLine st raw rest).outcome,
      readAll_outcome (fun hw => absurd hw not_waits_append) ?_⟩
    intro buf chunk chunks heq hw _
    obtain ⟨r, hcut, -⟩ := holds_line heq hraw hfit hw
    obtain ⟨-, hsame⟩ := h.takeLine_rest st raw r rest
    have hgone' : (h.takeLine st raw r).gone = true := (congrArg InputOutcome.gone hsame).trans hgone
    rw [readAll, List.foldl_cons, read_quit rfl hcut hraw hgone', ← readAll,
      readAll_of_gone (by exact hgone'), ← hsame]
    simp only [InputPass.outcome, InputPass.andThen, List.nil_append, Nat.zero_add]
  | @line st raw rest hraw hfit hkeep _ ih =>
    obtain ⟨o, ho⟩ := ih
    refine ⟨(h.takeLine st raw rest).outcome.andThen o,
      readAll_outcome (fun hw => absurd hw not_waits_append) ?_⟩
    intro buf chunk chunks heq hw hreads
    obtain ⟨r, hcut, hmore⟩ := holds_line heq hraw hfit hw
    obtain ⟨hstate, hsame⟩ := h.takeLine_rest st raw r rest
    have hkeep' : (h.takeLine st raw r).gone = false := (congrArg InputOutcome.gone hsame).trans hkeep
    have hread := read_line (h := h) (c := { state := st, buf := buf }) rfl hcut hraw hkeep'
    -- what follows the line in the buffer is the first read of the rest of the stream
    have hfits : h.ReadsFit { state := (h.takeLine st raw rest).state } (r :: chunks) := by
      refine ⟨.inr ?_, ?_⟩
      · have hroom : buf.length + chunk.length ≤ ircInputBufferSize - 1 :=
          hreads.1.resolve_left Bool.false_ne_true
        have hlen := congrArg List.length hcut
        simp only [List.length_append, List.length_cons] at hlen
        simp only [List.length_nil]
        omega
      · have := hreads.2
        rw [hread, readsFit_andThen, hstate] at this
        exact this
    have := ho [] (r :: chunks) hmore ⟨List.not_mem_nil, Nat.zero_le _⟩ hfits
    rw [readAll, List.foldl_cons, hread, ← readAll, readAll_andThen, InputPass.outcome_andThen,
      InputPass.outcome_andThen, hsame, hstate, ← this]
    simp only [InputPass.outcome, InputOutcome.andThen, List.nil_append, Nat.zero_add]
    rfl

/-! ## 7. Streams whose cuts matter -/

/-- After catching up, the client is gone or a piece of a line waits. -/
theorem Settles.waits {p : InputPass σ} (hp : h.Settles st buf p) : p.gone = true ∨ Waits p.buf := by
  induction hp with
  | @tail st buf hnone =>
    have hno := nextLine_eq_none.mp hnone
    rcases Nat.lt_or_ge (lineLimit buf) buf.length with hlt | hle
    · rw [judgePartial_of_lt hno hlt]
      exact .inl rfl
    · rw [judgePartial_of_le hle]
      exact .inr ⟨hno, hle⟩
  | quit _ hgone => exact .inl hgone
  | line _ _ _ ih => exact ih

theorem waits_read (hw : c.gone = true ∨ Waits c.buf) (chunk : Text) :
    (h.read c chunk).gone = true ∨ Waits (h.read c chunk).buf := by
  unfold read
  split
  · exact hw
  · exact (drain_settles (Nat.lt_succ_self _)).waits

/-- Byte by byte, everything fits. -/
theorem readsFit_singles (hw : c.gone = true ∨ Waits c.buf) (stream : Text) :
    h.ReadsFit c (stream.map ([·])) := by
  induction stream generalizing c with
  | nil => trivial
  | cons x stream ih =>
    refine ⟨hw.imp_right fun hw => ?_, ih (waits_read hw [x])⟩
    have hle := hw.2
    have hmax : lineLimit c.buf ≤ ircInputLineMax + 1 := by
      unfold lineLimit
      split <;> decide
    have hbuf : ircInputLineMax + 2 ≤ ircInputBufferSize - 1 := by decide
    rw [List.length_singleton]
    omega

theorem head?_stripCr (hlen : 1 < raw.length) : (stripCr raw).head? = raw.head? := by
  unfold stripCr
  split
  · match raw, hlen with
    | a :: b :: more, _ => rfl
  · rfl

/-- A line that is too long while it comes in is too long when it is complete. -/
theorem lineFate_of_lt (hlt : lineLimit raw < raw.length) :
    lineFate raw = .broken ∨ lineFate raw = .tooLong := by
  have hlen : raw.length ≤ (stripCr raw).length + 1 := by
    unfold stripCr
    split
    · rw [List.length_dropLast]
      omega
    · omega
  have hhead : (stripCr raw).head? = raw.head? :=
    head?_stripCr (Nat.lt_of_le_of_lt (lineLimit_pos raw) hlt)
  have hfits : clientInputLineFits (stripCr raw) = false := by
    unfold clientInputLineFits
    unfold lineLimit ircInputLineMax at hlt
    rw [hhead]
    split
    · rename_i hno
      rw [if_neg hno] at hlt
      exact decide_eq_false (by omega)
    · rename_i hat
      rw [if_pos (Decidable.not_not.mp hat)] at hlt
      rw [Bool.eq_false_iff]
      simp only [ne_eq, Bool.and_eq_true, decide_eq_true_eq]
      rintro ⟨⟨-, htags⟩, hrest⟩
      omega
  unfold lineFate
  rw [hfits]
  split
  · exact .inl rfl
  · split
    · rename_i hno
      cases hno
    · split
      · exact .inl rfl
      · exact .inr rfl

/-- Such a line makes the difference: read at once, it is dropped with the client and no reply, or
    refused and the client kept; read in two pieces, it is refused and the client goes. -/
theorem cuts_differ (hraw : '\n' ∉ raw) (hlt : lineLimit raw < raw.length)
    (hroom : raw.length < ircInputBufferSize - 1) :
    ∃ a b, h.IsCut st (raw ++ '\n' :: rest) a ∧ h.IsCut st (raw ++ '\n' :: rest) b ∧
      (h.readAll { state := st } a).outcome ≠ (h.readAll { state := st } b).outcome := by
  have hnew : ({ state := st } : InputPass σ).gone = true ∨ Waits ({ state := st } : InputPass σ).buf :=
    .inr ⟨List.not_mem_nil, Nat.zero_le _⟩
  have hsingles : ∀ stream : Text, (stream.map ([·])).flatten = stream := by
    intro stream
    rw [← List.flatMap_def, List.flatMap_singleton']
  have hne : ∀ {stream : Text}, ∀ chunk ∈ stream.map ([·]), chunk ≠ [] := by
    intro stream chunk hmem
    obtain ⟨x, -, rfl⟩ := List.mem_map.mp hmem
    exact List.cons_ne_nil _ _
  refine ⟨(raw ++ ['\n']) :: rest.map ([·]),
    raw.take (lineLimit raw + 1) :: (raw.drop (lineLimit raw + 1) ++ '\n' :: rest).map ([·]),
    ⟨?_, ?_, ?_, readsFit_singles (waits_read hnew _) _⟩,
    ⟨?_, ?_, ?_, readsFit_singles (waits_read hnew _) _⟩, ?_⟩
  · rw [List.flatten_cons, hsingles]
    simp
  · intro chunk hmem
    rcases List.mem_cons.mp hmem with rfl | hmem
    · exact List.append_ne_nil_of_right_ne_nil _ (List.cons_ne_nil _ _)
    · exact hne chunk hmem
  · refine .inr ?_
    simp only [List.length_nil, List.length_append, List.length_singleton]
    omega
  · rw [List.flatten_cons, hsingles, ← List.append_assoc, List.take_append_drop]
  · intro chunk hmem
    rcases List.mem_cons.mp hmem with rfl | hmem
    · refine List.length_pos_iff.mp ?_
      rw [List.length_take]
      omega
    · exact hne chunk hmem
  · refine .inr ?_
    simp only [List.length_nil, List.length_take]
    omega
  · -- the second cut is refused at once
    have hpre : raw.take (lineLimit raw + 1) <+: raw := List.take_prefix ..
    have hlen : (raw.take (lineLimit raw + 1)).length = lineLimit raw + 1 := by
      rw [List.length_take]
      omega
    have hpiece : raw.take (lineLimit raw + 1) ≠ [] := by
      refine List.length_pos_iff.mp ?_
      omega
    have hb : (h.readAll { state := st, buf := [] } (raw.take (lineLimit raw + 1) ::
        (raw.drop (lineLimit raw + 1) ++ '\n' :: rest).map ([·]))).outcome = refused :=
      readAll_refused (fun hmem => hraw (hpre.subset hmem))
        (by rw [List.nil_append, lineLimit_of_beginning hpre hpiece, hlen]; omega)
    rw [hb]
    have hcut : ({ state := st } : InputPass σ).buf ++ (raw ++ ['\n']) = raw ++ '\n' :: [] := rfl
    rcases lineFate_of_lt hlt with hfate | hfate
    · have htake : h.takeLine st raw [] = { state := st, gone := true } := by
        rw [takeLine, hfate]
      rw [readAll, List.foldl_cons, read_quit rfl hcut hraw (by rw [htake]), ← readAll,
        readAll_of_gone (by rw [htake]; rfl), htake]
      intro heq
      cases congrArg InputOutcome.events heq
    · have htake : h.takeLine st raw [] =
          { state := h.reject st, handled := 1, events := [.tooLong] } := by
        rw [takeLine, hfate]
      rw [readAll, List.foldl_cons, read_line rfl hcut hraw (by rw [htake]), ← readAll,
        readAll_andThen, htake]
      intro heq
      have := congrArg InputOutcome.handled heq
      simp only [InputPass.outcome, InputPass.andThen, refused] at this
      omega

theorem exists_cuts (stream : Text) (hno : ¬ h.Unambiguous st stream) :
    ∃ a b, h.IsCut st stream a ∧ h.IsCut st stream b ∧
      (h.readAll { state := st } a).outcome ≠ (h.readAll { state := st } b).outcome := by
  induction hlen : stream.length using Nat.strong_induction_on generalizing stream st with
  | _ n ih =>
    subst hlen
    cases hnext : nextLine stream with
    | none => exact absurd (.tail (nextLine_eq_none.mp hnext)) hno
    | some line =>
      obtain ⟨raw, rest⟩ := line
      obtain ⟨rfl, hraw⟩ := nextLine_eq_some hnext
      rcases Nat.lt_or_ge raw.length (ircInputBufferSize - 1) with hroom | hlong
      · rcases Nat.lt_or_ge (lineLimit raw) raw.length with hlt | hfit
        · exact cuts_differ hraw hlt hroom
        · cases hgone : (h.takeLine st raw rest).gone with
          | true => exact absurd (.last hraw hfit hgone) hno
          | false =>
            -- the line makes no difference, so something behind it does
            obtain ⟨a, b, ha, hb, hdiff⟩ := ih rest.length
              (by rw [List.length_append, List.length_cons]; omega)
              rest (fun hu => hno (.line hraw hfit hgone hu)) rfl
            obtain ⟨hstate, hsame⟩ := h.takeLine_rest st raw [] rest
            have hcut : ({ state := st } : InputPass σ).buf ++ (raw ++ ['\n']) = raw ++ '\n' :: [] := rfl
            have hkeep : (h.takeLine st raw []).gone = false :=
              (congrArg InputOutcome.gone hsame).trans hgone
            have hread := read_line (h := h) (c := { state := st }) rfl hcut hraw hkeep
            have hidle : h.read { state := (h.takeLine st raw []).state } [] =
                { state := (h.takeLine st raw rest).state } := by
              rw [read_kept List.not_mem_nil (Nat.zero_le _), hstate]
              rfl
            rw [hidle] at hread
            have hextend : ∀ {chunks}, h.IsCut (h.takeLine st raw rest).state rest chunks →
                h.IsCut st (raw ++ '\n' :: rest) ((raw ++ ['\n']) :: chunks) := by
              intro chunks hc
              refine ⟨?_, ?_, .inr ?_, ?_⟩
              · rw [List.flatten_cons, hc.whole]
                simp
              · intro chunk hmem
                rcases List.mem_cons.mp hmem with rfl | hmem
                · exact List.append_ne_nil_of_right_ne_nil _ (List.cons_ne_nil _ _)
                · exact hc.nonempty chunk hmem
              · simp only [List.length_nil, List.length_append, List.length_singleton]
                omega
              · rw [hread, readsFit_andThen]
                exact hc.fits
            refine ⟨_, _, hextend ha, hextend hb, ?_⟩
            rw [readAll, readAll, List.foldl_cons, List.foldl_cons, hread, ← readAll, ← readAll,
              readAll_andThen, readAll_andThen, ne_eq, InputPass.outcome_andThen_inj]
            exact hdiff
      · exact absurd (.endless hraw hlong) hno

/-- **Framing and packet boundaries.** The lines handed over, the replies, and whether and after
    which line the client goes are the same for every two ways to cut the stream into reads,
    exactly if the server comes to no line that is too long and yet fits into the buffer. -/
theorem framing_cut_independent_iff (h : InputHandler σ) (st : σ) (stream : Text) :
    (∀ a b, h.IsCut st stream a → h.IsCut st stream b →
      (h.readAll { state := st } a).outcome = (h.readAll { state := st } b).outcome) ↔
      h.Unambiguous st stream := by
  constructor
  · intro hall
    by_contra hno
    obtain ⟨a, b, ha, hb, hdiff⟩ := exists_cuts stream hno
    exact hdiff (hall a b ha hb)
  · intro hu a b ha hb
    obtain ⟨o, ho⟩ := hu.outcome
    have hnew : Waits [] := ⟨List.not_mem_nil, Nat.zero_le _⟩
    exact (ho [] a ha.whole hnew ha.fits).trans (ho [] b hb.whole hnew hb.fits).symm

/-- Commands that do nothing. -/
def idle : InputHandler Unit := ⟨fun st _ => (st, false), id⟩

/-- 512 bytes without tags. -/
def plainLine : Text := List.replicate 512 'A'

/-- The line gets its 417 only if it does not come at once. -/
theorem overlong_line_depends_on_cut :
    idle.IsCut () (plainLine ++ ['\n']) [plainLine ++ ['\n']] ∧
      idle.IsCut () (plainLine ++ ['\n']) [plainLine, ['\n']] ∧
      (idle.readAll { state := () } [plainLine ++ ['\n']]).outcome = ⟨[], 0, true⟩ ∧
      (idle.readAll { state := () } [plainLine, ['\n']]).outcome = ⟨[.tooLong], 0, true⟩ := by
  refine ⟨⟨by decide +kernel, by decide +kernel, .inr (by decide +kernel), trivial⟩,
    ⟨by decide +kernel, by decide +kernel, .inr (by decide +kernel), .inl (by decide +kernel),
      trivial⟩, by decide +kernel, by decide +kernel⟩

end InputHandler

end ScratchIrcd
