/-
  File:      ScratchIrcd/Output.lean
  Subject:   The output queue of a client and the transport behind it
             (`queue_append`, `transport_write`, `client_flush_output`, `client_send_raw` of
             src/client.c).

  What the transport does is not ours: `answers` holds what each `SSL_write` or `send` of the
  connection returns, in call order, so that a statement over every `ClientOutput` is one over
  every pattern of partial writes, retries and errors. `accepted`, `offers` and `failed` record
  what went over the interface; the source reads none of them.

  * **`output_stream_faithful`** -- as long as nothing overflowed and the transport did not fail,
    what it accepted followed by what is queued is what was sent; a TLS write that has to be
    retried is offered again byte for byte; and the queue stays within its limit.
-/
import ScratchIrcd.Lib.CText
import ScratchIrcd.Lib.FlatQueue
import ScratchIrcd.Lib.Runs
import Mathlib.Algebra.Group.Nat.Hom
import Mathlib.Data.List.Chain

namespace ScratchIrcd

open CText

variable {alloc : Bool} {q q' : FlatQueue Char} {chunk length limit : Nat}

/-! ## 1. The connection -/

/-- What one call of `SSL_write` or `send` returns. -/
inductive TransportAnswer where
  /-- `n + 1` bytes were taken, or all if fewer were offered. -/
  | accept (n : Nat)
  /-- `SSL_ERROR_WANT_READ` and `SSL_ERROR_WANT_WRITE`; on a plain socket both stand for
      EAGAIN, EWOULDBLOCK or EINTR. -/
  | wantRead | wantWrite
  | fatal
  deriving DecidableEq, Repr

/-- OpenSSL asks for the same write again. -/
def TransportAnswer.wants : TransportAnswer → Bool
  | .wantRead | .wantWrite => true
  | .accept _ | .fatal => false

/-- One call of `SSL_write`: the bytes it was given, and its answer. -/
structure Offer where
  bytes : Text
  answer : TransportAnswer
  deriving DecidableEq, Repr

/-- The fields of `Client` that its output uses, and the record of what the transport did. -/
structure ClientOutput where
  /-- `client->ssl != NULL`. -/
  ssl : Bool
  /-- `tls_state == CLIENT_TLS_ESTABLISHED`. -/
  tlsEstablished : Bool := false
  inputRetryPending : Bool := false
  /-- `outbuf`, `outbuf_start`, `outbuf_len`, `outbuf_capacity`. -/
  queue : FlatQueue Char := .empty
  /-- `outbuf_limit`. -/
  limit : Nat
  overflowed : Bool := false
  retryPending : Bool := false
  wantRead : Bool := false
  retryLength : Nat := 0
  /-- What the transport answers, call by call, and how often it was called. -/
  answers : Nat → TransportAnswer
  asked : Nat := 0
  /-- The bytes the transport took. -/
  accepted : Text := []
  /-- The calls of `SSL_write`, newest first. -/
  offers : List Offer := []
  /-- The transport reported a fatal error. -/
  failed : Bool := false

/-- `CLIENT_OUTPUT_FLUSH_BUDGET_BYTES`. -/
def clientOutputFlushBudgetBytes : Nat := 65536

/-- `INT_MAX`. -/
def intMax : Nat := 2147483647

/-- What `transport_write` returns: -1, 0, or 1 with the number of bytes written. -/
inductive WriteResult where
  | failed | wait | wrote (n : Nat)
  deriving DecidableEq, Repr

namespace ClientOutput

/-! ## 2. The queue -/

/-- Twice the capacity, or the limit where that is too much or wraps around. -/
def nextCapacity (limit capacity : Nat) : Nat :=
  let next := capacity * 2 % 2 ^ 64
  if next < capacity ∨ limit < next then limit else next

/-- The loop of `queue_append` that grows the capacity; `needed` turns are enough
    (`newCapacity_ends`). -/
def growCapacity (limit needed : Nat) : Nat → Nat → Nat
  | 0, capacity => capacity
  | fuel + 1, capacity =>
      if needed ≤ capacity then capacity
      else
        let next := nextCapacity limit capacity
        if next < needed ∧ next = limit then next else growCapacity limit needed fuel next

/-- The capacity of the block that replaces the one of `q`. -/
def newCapacity (q : FlatQueue Char) (limit needed : Nat) : Nat :=
  growCapacity limit needed needed (if q.capacity = 0 then 4096 else q.capacity)

theorem nextCapacity_grows {limit capacity : Nat} (hpos : 0 < capacity) (hword : capacity < 2 ^ 64) :
    nextCapacity limit capacity = limit ∨ capacity < nextCapacity limit capacity := by
  unfold nextCapacity
  dsimp only
  split
  · exact .inl rfl
  · right
    omega

theorem growCapacity_of_le {limit needed capacity : Nat} (h : needed ≤ capacity) (fuel : Nat) :
    growCapacity limit needed fuel capacity = capacity := by
  cases fuel with
  | zero => rfl
  | succ fuel => exact if_pos h

/-- **The turns are enough**: the loop ends where the source's does, with the capacity that is
    needed or at the limit. -/
theorem newCapacity_ends (q : FlatQueue Char) (limit needed : Nat) (hword : needed ≤ 2 ^ 64) :
    needed ≤ newCapacity q limit needed ∨ newCapacity q limit needed = limit := by
  have ends : ∀ fuel capacity, 0 < capacity → needed ≤ capacity + fuel →
      needed ≤ growCapacity limit needed fuel capacity ∨ growCapacity limit needed fuel capacity = limit := by
    intro fuel
    induction fuel with
    | zero => exact fun capacity _ henough => .inl henough
    | succ fuel ih =>
      intro capacity hpos henough
      unfold growCapacity
      split
      · exact .inl ‹_›
      · rename_i hsmall
        dsimp only
        split
        · rename_i hstop
          exact .inr hstop.2
        · rename_i hgo
          rcases nextCapacity_grows hpos (by omega : capacity < 2 ^ 64) with hlimit | hgrows
          · rw [hlimit] at hgo ⊢
            rw [growCapacity_of_le (by omega)]
            exact .inr rfl
          · exact ih _ (by omega) (by omega)
  unfold newCapacity
  refine ends needed _ ?_ (Nat.le_add_left _ _)
  split <;> omega

/-- The `memmove` of `queue_append`: to the front, if `n` more bytes do not fit behind. -/
def makeRoom (q : FlatQueue Char) (n : Nat) : FlatQueue Char :=
  if q.start ≠ 0 ∧ q.capacity < q.start + q.length + n then q.compact else q

/-- The `realloc` and `memcpy` of `queue_append`; `alloc` says whether `realloc` succeeds. -/
def place (q : FlatQueue Char) (limit : Nat) (data : Text) (alloc : Bool) :
    Option (FlatQueue Char) :=
  let needed := q.start + q.length + data.length
  if needed ≤ q.capacity then some (q.push data)
  else if newCapacity q limit needed < needed then none
  else if alloc then some ((q.reserve (newCapacity q limit needed)).push data)
  else none

/-- `queue_append`. `none` is an overflow. -/
def queueAppend (q : FlatQueue Char) (limit : Nat) (data : Text) (alloc : Bool) :
    Option (FlatQueue Char) :=
  if data.length = 0 then some q
  else if limit = 0 ∨ limit - q.length < data.length then none
  else place (makeRoom q data.length) limit data alloc

/-- `queue_append` on the client. -/
def append (c : ClientOutput) (data : Text) (alloc : Bool) : ClientOutput × Bool :=
  match queueAppend c.queue c.limit data alloc with
  | some q => ({ c with queue := q }, true)
  | none => ({ c with overflowed := true }, false)

/-! ## 3. The transport -/

/-- `SSL_write` of `chunk` bytes at `data`, and what `transport_write` makes of the answer. -/
def sslWrite (c : ClientOutput) (data : Text) (chunk : Nat) : ClientOutput × WriteResult :=
  let answer := c.answers c.asked
  let c := { c with
    asked := c.asked + 1
    offers := ⟨data.take chunk, answer⟩ :: c.offers }
  match answer with
  | .accept n =>
      ({ c with
          accepted := c.accepted ++ data.take (min (n + 1) chunk)
          retryPending := false, wantRead := false, retryLength := 0 },
        .wrote (min (n + 1) chunk))
  | .wantRead =>
      ({ c with retryPending := true, wantRead := true, retryLength := chunk }, .wait)
  | .wantWrite =>
      ({ c with retryPending := true, wantRead := false, retryLength := chunk }, .wait)
  | .fatal => ({ c with failed := true }, .failed)

/-- `send` on a plain socket. -/
def plainSend (c : ClientOutput) (data : Text) (length : Nat) : ClientOutput × WriteResult :=
  let answer := c.answers c.asked
  let c := { c with asked := c.asked + 1, retryPending := false, retryLength := 0 }
  match answer with
  | .accept n =>
      ({ c with accepted := c.accepted ++ data.take (min (n + 1) length) },
        .wrote (min (n + 1) length))
  | .wantRead | .wantWrite => (c, .wait)
  | .fatal => ({ c with failed := true }, .failed)

/-- `transport_write` of `length` bytes at `data`. -/
def transportWrite (c : ClientOutput) (data : Text) (length : Nat) : ClientOutput × WriteResult :=
  if c.ssl && !c.tlsEstablished then
    ({ c with retryPending := false, wantRead := false, retryLength := 0 }, .wait)
  else if c.ssl then
    if c.inputRetryPending then (c, .wait)
    else if c.retryPending then
      if c.retryLength = 0 ∨ length < c.retryLength then (c, .failed)
      else c.sslWrite data c.retryLength
    else c.sslWrite data (min length intMax)
  else c.plainSend data length

/-! ## 4. Sending and flushing -/

/-- The loop of `client_send_raw`: what is left when it stops, or `none` on an error. Every
    write takes at least one byte of the fuel. -/
def sendLoop : Nat → ClientOutput → Text → ClientOutput × Option Text
  | 0, c, data => (c, some data)
  | fuel + 1, c, data =>
      if data.length = 0 then (c, some data)
      else
        match c.transportWrite data data.length with
        | (c, .failed) => (c, none)
        | (c, .wait) => (c, some data)
        | (c, .wrote n) => sendLoop fuel c (data.drop n)

/-- `client_send_raw`; the flag is false where the source returns -1. -/
def clientSendRaw (c : ClientOutput) (data : Text) (alloc : Bool) : ClientOutput × Bool :=
  if data.length = 0 then (c, true)
  else if c.overflowed then (c, false)
  else if c.queue.length ≠ 0 then c.append data alloc
  else
    match sendLoop data.length c data with
    | (c, none) => (c, false)
    | (c, some rest) => if rest.length = 0 then (c, true) else c.append rest alloc

/-- How much `client_flush_output` offers next. -/
def flushAttempt (c : ClientOutput) (flushed : Nat) : Nat :=
  let attempt := min c.queue.length (clientOutputFlushBudgetBytes - flushed)
  if c.retryPending ∧ attempt < c.retryLength then c.retryLength else attempt

/-- The loop of `client_flush_output` and what follows it. The fuel is above the number of bytes
    queued. -/
def flushLoop : Nat → Nat → ClientOutput → ClientOutput × Int
  | 0, _, c => (c, 0)
  | fuel + 1, flushed, c =>
      if c.queue.length ≠ 0 ∧ flushed < clientOutputFlushBudgetBytes then
        match c.transportWrite (c.queue.cells.drop c.queue.start) (c.flushAttempt flushed) with
        | (c, .failed) => (c, -1)
        | (c, .wait) => (c, 0)
        | (c, .wrote n) => flushLoop fuel (flushed + n) { c with queue := c.queue.advance n }
      else if c.queue.length ≠ 0 then (c, 0)
      else
        ({ c with queue := c.queue.rewind, retryPending := false, wantRead := false
                  retryLength := 0 }, 1)

/-- `client_flush_output`. -/
def clientFlushOutput (c : ClientOutput) : ClientOutput × Int :=
  flushLoop (c.queue.length + 1) 0 c

end ClientOutput

/-! ## 5. Runs -/

/-- What can happen to a client's output. -/
inductive OutputCall where
  | sendRaw (data : Text) (alloc : Bool)
  | flushOutput
  /-- The TLS handshake completes (`advance_tls_handshake`). -/
  | established
  /-- `read_client` sets or clears `input_retry_pending`. -/
  | inputRetry (pending : Bool)

/-- The bytes a call hands over. -/
def OutputCall.data : OutputCall → Text
  | .sendRaw data _ => data
  | .flushOutput | .established | .inputRetry _ => []

def ClientOutput.step (c : ClientOutput) : OutputCall → ClientOutput
  | .sendRaw data alloc => (c.clientSendRaw data alloc).1
  | .flushOutput => c.clientFlushOutput.1
  | .established => { c with tlsEstablished := c.tlsEstablished || c.ssl }
  | .inputRetry pending => { c with inputRetryPending := pending }

namespace ClientOutput

variable {c : ClientOutput} {data rest sent : Text}

/-! ## 6. The queue keeps what it holds -/

theorem contents_makeRoom (q : FlatQueue Char) (n : Nat) :
    (makeRoom q n).contents = q.contents := by
  unfold makeRoom
  split
  · exact q.contents_compact
  · rfl

theorem contents_place (h : place q limit data alloc = some q') :
    q'.contents = q.contents ++ data := by
  unfold place at h
  dsimp only at h
  split at h
  · cases h
    exact q.contents_push data
  · split at h
    · cases h
    · split at h
      · cases h
        rw [FlatQueue.contents_push, FlatQueue.contents_reserve]
      · cases h

/-- Appending either overflows or puts the bytes behind those queued, within the limit. -/
theorem queueAppend_spec (hq : q.length ≤ limit) (h : queueAppend q limit data alloc = some q') :
    q'.contents = q.contents ++ data ∧ q'.length ≤ limit := by
  unfold queueAppend at h
  split at h
  · rename_i hnil
    cases h
    rw [List.length_eq_zero_iff.mp hnil, List.append_nil]
    exact ⟨rfl, hq⟩
  · split at h
    · cases h
    · have hc := contents_place h
      rw [contents_makeRoom] at hc
      have hlen := congrArg List.length hc
      rw [List.length_append, FlatQueue.length_contents, FlatQueue.length_contents] at hlen
      exact ⟨hc, by omega⟩

/-! ## 7. One write -/

/-- OpenSSL is offered again what it asked for again. -/
def Repeats (new old : Offer) : Prop := old.answer.wants = true → new.bytes = old.bytes

/-- `sent` was handed over, and `rest` of it is still to go. -/
structure Faithful (c : ClientOutput) (rest sent : Text) : Prop where
  stream : c.accepted ++ rest = sent
  /-- A pending retry is for the bytes that go next. -/
  retry : c.retryPending = true → 0 < c.retryLength ∧ c.retryLength ≤ rest.length ∧
    ∀ o ∈ c.offers.head?, o.bytes = rest.take c.retryLength
  /-- Only a pending retry is still wanted. -/
  settled : c.retryPending = false → ∀ o ∈ c.offers.head?, o.answer.wants = false
  repeats : c.offers.IsChain Repeats
  /-- `SSL_write` is called after the handshake only. -/
  shaken : (c.ssl && c.tlsEstablished) = false → c.offers = [] ∧ c.retryPending = false

/-- What a write of `length` bytes leads to. -/
def Progress (rest sent : Text) (length : Nat) : ClientOutput × WriteResult → Prop
  | (c, .failed) => c.failed = true
  | (c, .wait) => c.Faithful rest sent
  | (c, .wrote n) => 0 < n ∧ n ≤ length ∧ c.Faithful (rest.drop n) sent ∧ c.retryPending = false

section

variable (h : c.Faithful rest sent)
include h

theorem Faithful.offer (answer : TransportAnswer)
    (hretry : c.retryPending = true → chunk = c.retryLength) :
    ((⟨rest.take chunk, answer⟩ : Offer) :: c.offers).IsChain Repeats := by
  refine h.repeats.cons fun o ho hwants => ?_
  cases hp : c.retryPending with
  | true => rw [hretry hp, (h.retry hp).2.2 o ho]
  | false =>
    rw [h.settled hp o ho] at hwants
    cases hwants

/-- `n` bytes of what is to go went. -/
theorem Faithful.accept (n : Nat) :
    c.accepted ++ rest.take n ++ rest.drop n = sent := by
  rw [List.append_assoc, List.take_append_drop, h.stream]

theorem sslWrite_progress (hssl : (c.ssl && c.tlsEstablished) = true)
    (hdata : data.take chunk = rest.take chunk) (hpos : 0 < chunk) (hle : chunk ≤ rest.length)
    (hretry : c.retryPending = true → chunk = c.retryLength) :
    Progress rest sent chunk (c.sslWrite data chunk) := by
  have hchain := fun answer => h.offer answer hretry
  have hshaken : ∀ {p : Prop}, (c.ssl && c.tlsEstablished) = false → p := fun hno => by
    rw [hssl] at hno
    cases hno
  -- the retry that a want-read or want-write leaves behind
  have hwait : ∀ {o : Offer}, o = ⟨rest.take chunk, o.answer⟩ →
      0 < chunk ∧ chunk ≤ rest.length ∧ ∀ o' ∈ (o :: c.offers).head?, o'.bytes = rest.take chunk := by
    intro o ho
    refine ⟨hpos, hle, fun o' ho' => ?_⟩
    cases ho'
    rw [ho]
  unfold sslWrite
  rw [hdata]
  cases hanswer : c.answers c.asked with
  | accept n =>
    have hn : data.take (min (n + 1) chunk) = rest.take (min (n + 1) chunk) := by
      have := congrArg (List.take (n + 1)) hdata
      rwa [List.take_take, List.take_take] at this
    refine ⟨by omega, by omega, ⟨?_, (fun hp => by cases hp), fun _ o ho => ?_, hchain _, fun hno => hshaken hno⟩, rfl⟩
    · show c.accepted ++ data.take _ ++ _ = sent
      rw [hn]
      exact h.accept _
    · cases ho
      rfl
  | wantRead => exact ⟨h.stream, fun _ => hwait rfl, (fun hp => by cases hp), hchain _, fun hno => hshaken hno⟩
  | wantWrite => exact ⟨h.stream, fun _ => hwait rfl, (fun hp => by cases hp), hchain _, fun hno => hshaken hno⟩
  | fatal => rfl

theorem plainSend_progress (hplain : c.ssl = false) (hdata : data.take length = rest.take length)
    (hpos : 0 < length) :
    Progress rest sent length (c.plainSend data length) := by
  obtain ⟨hnone, -⟩ := h.shaken (by rw [hplain]; rfl)
  have hquiet : ∀ o ∈ c.offers.head?, o.answer.wants = false := fun o ho => by
    rw [hnone] at ho
    cases ho
  unfold plainSend
  cases hanswer : c.answers c.asked with
  | accept n =>
    have hn : data.take (min (n + 1) length) = rest.take (min (n + 1) length) := by
      have := congrArg (List.take (n + 1)) hdata
      rwa [List.take_take, List.take_take] at this
    refine ⟨by omega, by omega, ⟨?_, (fun hp => by cases hp), fun _ => hquiet, h.repeats, fun _ => ⟨hnone, rfl⟩⟩, rfl⟩
    show c.accepted ++ data.take _ ++ _ = sent
    rw [hn]
    exact h.accept _
  | wantRead => exact ⟨h.stream, (fun hp => by cases hp), fun _ => hquiet, h.repeats, fun _ => ⟨hnone, rfl⟩⟩
  | wantWrite => exact ⟨h.stream, (fun hp => by cases hp), fun _ => hquiet, h.repeats, fun _ => ⟨hnone, rfl⟩⟩
  | fatal => rfl

/-- **One call of `transport_write`**: offered the bytes that go next, and all of a pending
    retry, it moves them over, waits, or the transport has failed. -/
theorem transportWrite_progress (hdata : data.take length = rest.take length) (hpos : 0 < length)
    (hle : length ≤ rest.length) (hretry : c.retryPending = true → c.retryLength ≤ length) :
    Progress rest sent length (c.transportWrite data length) := by
  -- fewer bytes of the same
  have hless : ∀ {n}, n ≤ length → data.take n = rest.take n := fun {n} hn => by
    have := congrArg (List.take n) hdata
    rwa [List.take_take, List.take_take, Nat.min_eq_left hn] at this
  have hweaken : ∀ {n r}, n ≤ length → Progress rest sent n r → Progress rest sent length r := by
    intro n r hn hr
    match r, hr with
    | (_, .failed), hr => exact hr
    | (_, .wait), hr => exact hr
    | (_, .wrote _), ⟨hp, hm, hrest⟩ => exact ⟨hp, hm.trans hn, hrest⟩
  unfold transportWrite
  cases hssl : c.ssl with
  | false =>
    simp only [Bool.false_and, Bool.false_eq_true, if_false]
    exact plainSend_progress h hssl hdata hpos
  | true =>
    cases hdone : c.tlsEstablished with
    | false =>
      obtain ⟨hnone, -⟩ := h.shaken (by rw [hssl, hdone]; rfl)
      simp only [Bool.not_false, Bool.and_self, if_true]
      refine ⟨h.stream, (fun hp => by cases hp), fun _ o ho => ?_, h.repeats, fun _ => ⟨hnone, rfl⟩⟩
      change o ∈ c.offers.head? at ho
      rw [hnone] at ho
      cases ho
    | true =>
      have hup : (c.ssl && c.tlsEstablished) = true := by rw [hssl, hdone]; rfl
      simp only [Bool.not_true, Bool.and_false, Bool.false_eq_true, if_false, if_true]
      split
      · exact h
      · split
        · rename_i hp
          obtain ⟨hlen, hwithin, -⟩ := h.retry hp
          rw [if_neg (by have := hretry hp; omega)]
          exact hweaken (hretry hp) (sslWrite_progress h hup (hless (hretry hp)) hlen hwithin fun _ => rfl)
        · rename_i hp
          have hmin : min length intMax ≤ length := Nat.min_le_left ..
          refine hweaken hmin (sslWrite_progress h hup (hless hmin) ?_ (hmin.trans hle) fun hp' => absurd hp' hp)
          exact Nat.lt_min.mpr ⟨hpos, by decide⟩

end

/-- What `transport_write` leaves alone. -/
structure KeepsQueue (c c' : ClientOutput) : Prop where
  queue : c'.queue = c.queue
  limit : c'.limit = c.limit
  overflowed : c'.overflowed = c.overflowed
  failed : c.failed = true → c'.failed = true

theorem transportWrite_keepsQueue (c : ClientOutput) (data : Text) (length : Nat) :
    c.KeepsQueue (c.transportWrite data length).1 := by
  have hssl : ∀ chunk, c.KeepsQueue (c.sslWrite data chunk).1 := by
    intro chunk
    unfold sslWrite
    cases c.answers c.asked with
    | fatal => exact ⟨rfl, rfl, rfl, fun _ => rfl⟩
    | accept | wantRead | wantWrite => exact ⟨rfl, rfl, rfl, id⟩
  have hplain : c.KeepsQueue (c.plainSend data length).1 := by
    unfold plainSend
    cases c.answers c.asked with
    | fatal => exact ⟨rfl, rfl, rfl, fun _ => rfl⟩
    | accept | wantRead | wantWrite => exact ⟨rfl, rfl, rfl, id⟩
  unfold transportWrite
  repeat' split
  all_goals first
    | exact hssl _
    | exact hplain
    | exact ⟨rfl, rfl, rfl, id⟩

/-! ## 8. The loops -/

theorem KeepsQueue.refl (c : ClientOutput) : c.KeepsQueue c := ⟨rfl, rfl, rfl, id⟩

theorem KeepsQueue.trans {a b d : ClientOutput} (h : a.KeepsQueue b) (h' : b.KeepsQueue d) :
    a.KeepsQueue d :=
  ⟨h'.queue.trans h.queue, h'.limit.trans h.limit, h'.overflowed.trans h.overflowed,
    fun hf => h'.failed (h.failed hf)⟩

theorem sendLoop_keepsQueue (fuel : Nat) (c : ClientOutput) (data : Text) :
    c.KeepsQueue (sendLoop fuel c data).1 := by
  induction fuel generalizing c data with
  | zero => exact .refl c
  | succ fuel ih =>
    have hwrite := transportWrite_keepsQueue c data data.length
    unfold sendLoop
    split
    · exact .refl c
    · split
      · rename_i heq
        rwa [heq] at hwrite
      · rename_i heq
        rwa [heq] at hwrite
      · rename_i heq
        rw [heq] at hwrite
        exact hwrite.trans (ih _ _)

/-- What the loop of `client_send_raw` leaves over is what still has to go. -/
def LeavesOver (sent : Text) : ClientOutput × Option Text → Prop
  | (c, none) => c.failed = true
  | (c, some rest) => c.Faithful rest sent

theorem sendLoop_faithful (fuel : Nat) (h : c.Faithful data sent) (hidle : c.retryPending = false) :
    LeavesOver sent (sendLoop fuel c data) := by
  induction fuel generalizing c data with
  | zero => exact h
  | succ fuel ih =>
    unfold sendLoop
    by_cases hnil : data.length = 0
    · rw [if_pos hnil]
      exact h
    · rw [if_neg hnil]
      have hwrite := transportWrite_progress h rfl (Nat.pos_of_ne_zero hnil) (Nat.le_refl _)
        fun hp => by
          rw [hidle] at hp
          cases hp
      cases hr : c.transportWrite data data.length with
      | mk c' r =>
        rw [hr] at hwrite
        cases r with
        | failed | wait => exact hwrite
        | wrote n => exact ih hwrite.2.2.1 hwrite.2.2.2

/-- The queue is within the limit; and unless something overflowed or failed, it holds what of
    `sent` the transport has not taken. -/
structure Intact (c : ClientOutput) (limit : Nat) (sent : Text) : Prop where
  limited : c.limit = limit
  bounded : c.queue.length ≤ c.limit
  faithful : c.overflowed = false → c.failed = false → c.Faithful c.queue.contents sent

variable {limit : Nat}

/-- Bytes put behind those queued. -/
theorem Intact.append (hl : c.limit = limit) (hb : c.queue.length ≤ c.limit)
    (h : c.overflowed = false → c.failed = false → c.Faithful (c.queue.contents ++ data) sent)
    (alloc : Bool) : (c.append data alloc).1.Intact limit sent := by
  unfold ClientOutput.append
  cases hq : queueAppend c.queue c.limit data alloc with
  | none => exact ⟨hl, hb, fun ho => by cases ho⟩
  | some q =>
    obtain ⟨hcontents, hlimit⟩ := queueAppend_spec hb hq
    refine ⟨hl, hlimit, fun ho hf => ?_⟩
    have hf := h ho hf
    rw [← hcontents] at hf
    exact ⟨hf.stream, hf.retry, hf.settled, hf.repeats, hf.shaken⟩

/-- After writes that kept the queue: the limits are as before, and a clean state was clean. -/
theorem Intact.keeps {c' : ClientOutput} (h : c.Intact limit sent) (hkeep : c.KeepsQueue c') :
    c'.limit = limit ∧ c'.queue.length ≤ c'.limit ∧
      (c'.overflowed = false → c'.failed = false → c.overflowed = false ∧ c.failed = false) := by
  refine ⟨hkeep.limit.trans h.limited, ?_, fun ho hf => ⟨hkeep.overflowed ▸ ho, ?_⟩⟩
  · rw [hkeep.queue, hkeep.limit]
    exact h.bounded
  · cases hc : c.failed with
    | false => rfl
    | true =>
      rw [hkeep.failed hc] at hf
      cases hf

/-- More bytes to go behind the ones there are. -/
theorem Faithful.extend (h : c.Faithful rest sent) (data : Text) :
    c.Faithful (rest ++ data) (sent ++ data) where
  stream := by rw [← List.append_assoc, h.stream]
  retry hp := by
    obtain ⟨hpos, hle, hbytes⟩ := h.retry hp
    refine ⟨hpos, by rw [List.length_append]; omega, fun o ho => ?_⟩
    rw [hbytes o ho, List.take_append_of_le_length hle]
  settled := h.settled
  repeats := h.repeats
  shaken := h.shaken

/-- An empty queue leaves nothing to retry. -/
theorem Faithful.idle (h : c.Faithful c.queue.contents sent) (hempty : c.queue.length = 0) :
    c.retryPending = false := by
  cases hp : c.retryPending with
  | false => rfl
  | true =>
    obtain ⟨hpos, hle, -⟩ := h.retry hp
    rw [FlatQueue.length_contents, hempty] at hle
    omega

theorem Intact.sendRaw (h : c.Intact limit sent) (data : Text) (alloc : Bool) :
    (c.clientSendRaw data alloc).1.Intact limit (sent ++ data) := by
  unfold clientSendRaw
  split
  · rename_i hnil
    rw [List.length_eq_zero_iff.mp hnil, List.append_nil]
    exact h
  · split
    · rename_i hover
      refine ⟨h.limited, h.bounded, fun ho => ?_⟩
      rw [hover] at ho
      cases ho
    · split
      · exact Intact.append h.limited h.bounded (fun ho hf => (h.faithful ho hf).extend data) alloc
      · rename_i hqueue
        have hempty : c.queue.length = 0 := Decidable.not_not.mp hqueue
        have hkeep := sendLoop_keepsQueue data.length c data
        -- the loop ran on an empty queue, so nothing was waiting for a retry
        have hloop : c.overflowed = false → c.failed = false →
            LeavesOver (sent ++ data) (sendLoop data.length c data) := by
          intro ho hf
          have hstart := h.faithful ho hf
          have hmore := hstart.extend data
          rw [FlatQueue.contents_eq_nil hempty, List.nil_append] at hmore
          exact sendLoop_faithful data.length hmore (hstart.idle hempty)
        cases hr : sendLoop data.length c data with
        | mk c' left =>
          rw [hr] at hkeep hloop
          obtain ⟨hl, hb, hclean⟩ := h.keeps hkeep
          have hcontents : c'.queue.contents = [] := by
            rw [hkeep.queue]
            exact FlatQueue.contents_eq_nil hempty
          have hleft : c'.overflowed = false → c'.failed = false →
              LeavesOver (sent ++ data) (c', left) := fun ho hf =>
            hloop (hclean ho hf).1 (hclean ho hf).2
          cases left with
          | none =>
            refine ⟨hl, hb, fun ho hf => ?_⟩
            rw [show c'.failed = true from hleft ho hf] at hf
            cases hf
          | some left =>
            by_cases hdone : left.length = 0
            · simp only [if_pos hdone]
              refine ⟨hl, hb, fun ho hf => ?_⟩
              rw [hcontents, ← List.length_eq_zero_iff.mp hdone]
              exact hleft ho hf
            · simp only [if_neg hdone]
              refine Intact.append hl hb (fun ho hf => ?_) alloc
              rw [hcontents]
              exact hleft ho hf

/-- `flush` offers something, no more than is queued, and all of a pending retry. -/
theorem flushAttempt_spec (h : c.Faithful c.queue.contents sent) {flushed : Nat}
    (hqueue : c.queue.length ≠ 0) (hbudget : flushed < clientOutputFlushBudgetBytes) :
    0 < c.flushAttempt flushed ∧ c.flushAttempt flushed ≤ c.queue.length ∧
      (c.retryPending = true → c.retryLength ≤ c.flushAttempt flushed) := by
  have hretry : c.retryPending = true → 0 < c.retryLength ∧ c.retryLength ≤ c.queue.length := by
    intro hp
    obtain ⟨hpos, hle, -⟩ := h.retry hp
    rw [FlatQueue.length_contents] at hle
    exact ⟨hpos, hle⟩
  unfold flushAttempt
  dsimp only
  split
  · rename_i hlong
    obtain ⟨hpos, hle⟩ := hretry hlong.1
    exact ⟨hpos, hle, fun _ => Nat.le_refl _⟩
  · rename_i hshort
    refine ⟨by omega, by omega, fun hp => ?_⟩
    by_contra hlt
    exact hshort ⟨hp, Nat.lt_of_not_le hlt⟩

theorem Intact.flushLoop (fuel flushed : Nat) (h : c.Intact limit sent) :
    (ClientOutput.flushLoop fuel flushed c).1.Intact limit sent := by
  induction fuel generalizing c flushed with
  | zero => exact h
  | succ fuel ih =>
    unfold ClientOutput.flushLoop
    split
    · rename_i hmore
      have hkeep := transportWrite_keepsQueue c (c.queue.cells.drop c.queue.start)
        (c.flushAttempt flushed)
      have hwrite : c.overflowed = false → c.failed = false →
          c.flushAttempt flushed ≤ c.queue.length ∧
          Progress c.queue.contents sent (c.flushAttempt flushed)
            (c.transportWrite (c.queue.cells.drop c.queue.start) (c.flushAttempt flushed)) := by
        intro ho hf
        have hc := h.faithful ho hf
        obtain ⟨hpos, hle, hretry⟩ := flushAttempt_spec hc hmore.1 hmore.2
        refine ⟨hle, transportWrite_progress hc (FlatQueue.take_drop_start hle) hpos ?_ hretry⟩
        rw [FlatQueue.length_contents]
        exact hle
      cases hr : c.transportWrite (c.queue.cells.drop c.queue.start) (c.flushAttempt flushed) with
      | mk c' r =>
        rw [hr] at hkeep hwrite
        obtain ⟨hl, hb, hclean⟩ := h.keeps hkeep
        have hresult : c'.overflowed = false → c'.failed = false →
            c.flushAttempt flushed ≤ c.queue.length ∧
            Progress c.queue.contents sent (c.flushAttempt flushed) (c', r) := fun ho hf =>
          hwrite (hclean ho hf).1 (hclean ho hf).2
        cases r with
        | failed =>
          refine ⟨hl, hb, fun ho hf => ?_⟩
          rw [show c'.failed = true from (hresult ho hf).2] at hf
          cases hf
        | wait =>
          refine ⟨hl, hb, fun ho hf => ?_⟩
          rw [hkeep.queue]
          exact (hresult ho hf).2
        | wrote n =>
          refine ih (flushed + n) ⟨hl, (Nat.sub_le ..).trans hb, fun ho hf => ?_⟩
          obtain ⟨hle, -, hn, hfaithful, -⟩ := hresult ho hf
          have hcontents : (c'.queue.advance n).contents = c.queue.contents.drop n := by
            rw [hkeep.queue]
            exact FlatQueue.contents_advance (hn.trans hle)
          rw [← hcontents] at hfaithful
          exact ⟨hfaithful.stream, hfaithful.retry, hfaithful.settled, hfaithful.repeats,
            hfaithful.shaken⟩
    · split
      · exact h
      · rename_i hqueue
        have hempty : c.queue.length = 0 := Decidable.not_not.mp hqueue
        refine ⟨h.limited, h.bounded, fun ho hf => ?_⟩
        have hc := h.faithful ho hf
        have hnil : c.queue.rewind.contents = c.queue.contents := by
          rw [FlatQueue.contents_eq_nil hempty]
          exact FlatQueue.contents_eq_nil hempty
        refine ⟨?_, (fun hp => by cases hp), fun _ => hc.settled (hc.idle hempty), hc.repeats,
          fun hno => ⟨(hc.shaken hno).1, rfl⟩⟩
        rw [hnil]
        exact hc.stream

/-! ## 9. Every run -/

theorem Intact.step (h : c.Intact limit sent) (call : OutputCall) :
    (c.step call).Intact limit (sent ++ call.data) := by
  cases call with
  | sendRaw data alloc => exact h.sendRaw data alloc
  | flushOutput =>
    rw [OutputCall.data, List.append_nil]
    exact Intact.flushLoop _ _ h
  | established =>
    rw [OutputCall.data, List.append_nil]
    refine ⟨h.limited, h.bounded, fun ho hf => ?_⟩
    have hc := h.faithful ho hf
    refine ⟨hc.stream, hc.retry, hc.settled, hc.repeats, fun hno => hc.shaken ?_⟩
    change (c.ssl && (c.tlsEstablished || c.ssl)) = false at hno
    cases hssl : c.ssl with
    | false => rfl
    | true =>
      rw [hssl, Bool.or_true] at hno
      cases hno
  | inputRetry pending =>
    rw [OutputCall.data, List.append_nil]
    refine ⟨h.limited, h.bounded, fun ho hf => ?_⟩
    have hc := h.faithful ho hf
    exact ⟨hc.stream, hc.retry, hc.settled, hc.repeats, hc.shaken⟩

theorem Intact.run (h : c.Intact limit sent) (calls : List OutputCall) :
    (Runs.exec ClientOutput.step c calls).Intact limit
      (sent ++ calls.flatMap OutputCall.data) := by
  induction calls generalizing c sent with
  | nil =>
    rw [List.flatMap_nil, List.append_nil]
    exact h
  | cons call calls ih =>
    rw [List.flatMap_cons, ← List.append_assoc]
    exact ih (h.step call)

/-- A client that was just accepted: nothing queued, nothing written. -/
def fresh (ssl : Bool) (limit : Nat) (answers : Nat → TransportAnswer) : ClientOutput :=
  { ssl := ssl, limit := limit, answers := answers }

theorem intact_fresh (ssl : Bool) (limit : Nat) (answers : Nat → TransportAnswer) :
    (fresh ssl limit answers).Intact limit [] :=
  ⟨rfl, Nat.zero_le _, fun _ _ => ⟨rfl, (fun hp => by cases hp), (fun _ _ ho => by cases ho), .nil,
    fun _ => ⟨rfl, rfl⟩⟩⟩

/-- **The output stream is faithful.** Whatever is sent and flushed in whatever order, and
    whatever the transport answers: the queue stays within its limit; and as long as nothing
    overflowed and the transport did not fail, the bytes it took followed by the bytes queued are
    the bytes sent, and every `SSL_write` that follows one to be retried offers the same bytes. -/
theorem output_stream_faithful (ssl : Bool) (limit : Nat) (answers : Nat → TransportAnswer)
    (calls : List OutputCall) :
    (Runs.exec step (fresh ssl limit answers) calls).queue.length ≤ limit ∧
      ((Runs.exec step (fresh ssl limit answers) calls).overflowed = false →
        (Runs.exec step (fresh ssl limit answers) calls).failed = false →
        (Runs.exec step (fresh ssl limit answers) calls).accepted ++
            (Runs.exec step (fresh ssl limit answers) calls).queue.contents =
          calls.flatMap OutputCall.data ∧
        (Runs.exec step (fresh ssl limit answers) calls).offers.IsChain Repeats) := by
  have h := (intact_fresh ssl limit answers).run calls
  refine ⟨?_, fun ho hf => ⟨(h.faithful ho hf).stream, (h.faithful ho hf).repeats⟩⟩
  have := h.bounded
  rwa [h.limited] at this

/-- A TLS client whose first write has to be retried and is then taken byte by byte. -/
def retried : ClientOutput :=
  Runs.exec step (fresh true 8 fun n => if n = 0 then .wantWrite else .accept 0)
    [.established, .sendRaw "abc".toList true, .sendRaw "de".toList true, .flushOutput]

theorem output_stream_faithful_retried :
    retried.overflowed = false ∧ retried.failed = false ∧ retried.accepted = "abcde".toList ∧
      retried.accepted ++ retried.queue.contents = "abcde".toList ∧
      retried.offers.IsChain Repeats :=
  ⟨by decide +kernel, by decide +kernel, by decide +kernel,
    (output_stream_faithful true 8 (fun n => if n = 0 then .wantWrite else .accept 0)
      [.established, .sendRaw "abc".toList true, .sendRaw "de".toList true, .flushOutput]).2
      (by decide +kernel) (by decide +kernel)⟩

end ClientOutput

end ScratchIrcd
