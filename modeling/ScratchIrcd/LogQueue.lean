/-
  File:      ScratchIrcd/LogQueue.lean
  Subject:   The durable log queue when calls fail (src/channel_log.c).

  Here every call has an outcome: a fetch, the writing of each row, a delete, the INSERT. A delete
  or an INSERT has two, what it did and what it reported. `files` are the lines that were appended,
  in order. The notices about failures, rate limited like the one about a full queue, are left out.

  * **`LogStore.log_queue_durable`** -- a row leaves the queue in the pass that appended it, rows
    are fetched and appended in the order of the queue, and the count is right as long as reports
    are.
-/
import ScratchIrcd.ChannelLog
import ScratchIrcd.Lib.Batch

namespace ScratchIrcd

open CText

/-! ## 1. Writing -/

/-- The log, and the lines written to files so far: path and text. -/
structure LogStore where
  log : ChannelLog
  files : List (Text × Text) := []

/-- How the calls of one round of a flush turn out. -/
structure RoundOutcome where
  fetched : Bool := true
  /-- The rows of the batch, by position. -/
  written : Nat → Bool := fun _ => true
  deleted : Bool := true
  reported : Bool := true

/-- How the calls of an event turn out: the look at the setting, the INSERT, and its report. -/
structure AddOutcome where
  read : Bool := true
  added : Bool := true
  reported : Bool := true

/-- Local time: the date in the name of a file and the time of day in a line. -/
abbrev Calendar := Nat → Option (Text × Text)

/-- The line of a row, and the file it goes to. -/
def QueueRow.line (calendar : Calendar) (row : QueueRow) : Option (Text × Text) :=
  (calendar row.time).map fun (suffix, stamp) =>
    (logPath row.channel suffix, '[' :: stamp ++ "] ".toList ++ row.body ++ ['\n'])

namespace LogStore

/-- `write_queue_record`. The state of the channel is made before anything can fail. -/
def writeRecord (calendar : Calendar) (ok : Bool) (row : QueueRow) (st : LogStore) :
    Bool × LogStore :=
  if row.channel.isEmpty then (false, st)
  else
    let st := { st with log := st.log.writeQueueRecord row }
    match row.line calendar with
    | none => (false, st)
    | some line => if ok then (true, { st with files := st.files ++ [line] }) else (false, st)

/-- The rows of a batch up to the first that fails: those that were appended, and whether these
    are all. -/
def writeRows (calendar : Calendar) (ok : Nat → Bool) :
    Nat → List QueueRow → LogStore → List QueueRow × Bool × LogStore
  | _, [], st => ([], true, st)
  | i, row :: rows, st =>
      match st.writeRecord calendar (ok i) row with
      | (false, st) => ([], false, st)
      | (true, st) =>
          let (done, all, st) := writeRows calendar ok (i + 1) rows st
          (row :: done, all, st)

/-! ## 2. A pass -/

/-- What a flush did: whether every row it fetched was written, what is left, the rows of each
    fetch and the rows it appended. -/
structure Pass where
  wrote : Bool := true
  store : LogStore
  rounds : List (List QueueRow) := []
  appended : List QueueRow := []

/-- All rows that were fetched. -/
def Pass.fetched (p : Pass) : List QueueRow := p.rounds.flatten

/-- `flush_channel` and `flush_queued`: rounds of 128 rows, `left` rows at most, up to a call that
    reports a failure. -/
def flushPass (maxRows : Nat) (calendar : Calendar) (fetch : List QueueRow → List QueueRow)
    (through : QueueRow → QueueRow → Bool) (outcome : Nat → RoundOutcome) :
    Nat → Nat → LogStore → Pass
  | 0, _, st => { store := st }
  | fuel + 1, left, st =>
      let o := outcome fuel
      let rows := (fetch st.log.queue).take (min channelLogFlushFetchRows left)
      if left = 0 ∨ o.fetched = false then { store := st }
      else match rows.getLast? with
        | none => { store := st }
        | some last =>
          match st.writeRows calendar o.written 0 rows with
          | (done, false, st) => { wrote := false, store := st, rounds := [rows], appended := done }
          | (done, true, st) =>
            let queue := if o.deleted then st.log.queue.filter fun row => !through last row
              else st.log.queue
            if o.reported then
              let count := st.log.queueCount - rows.length
              let p := flushPass maxRows calendar fetch through outcome fuel (left - rows.length)
                { st with log := { st.log with
                    queue := queue, count := some count
                    fullNoticeTime := if count < maxRows then 0 else st.log.fullNoticeTime } }
              { p with rounds := rows :: p.rounds, appended := done ++ p.appended }
            else
              { store := { st with log := { st.log with queue := queue } }
                rounds := [rows], appended := done }

/-! ## 3. Operations -/

/-- `chanserv_db_logging_queue_add`, and the row counted. -/
def queueAdd (o : AddOutcome) (name : Text) (time : Nat) (body : Text) (log : ChannelLog) :
    ChannelLog :=
  if h : name.length ≤ ircChannelNameMax then
    if body.length < logBodySize ∧ !name.any isLineBreak ∧ !body.any isLineBreak then
      { log with
        queue := if o.added then log.queue ++
            [{ id := log.nextId, channel := name, time := time, body := body, fits := h }]
          else log.queue
        nextId := if o.added then log.nextId + 1 else log.nextId
        count := some (if o.reported then log.queueCount + 1 else log.queueCount) }
    else { log with count := some log.queueCount }
  else { log with count := some log.queueCount }

/-- `enqueue`, against the database `d`. -/
def enqueue (maxRows : Nat) (d : Storage) (now : Nat) (name : Text) (time : Nat) (body : Text)
    (o : AddOutcome) (st : LogStore) : LogStore :=
  let asked := if (st.log.stateFor name).isNone && !o.read then (false, st.log)
    else st.log.stateEnabled d name
  if !asked.1 then { st with log := asked.2 }
  else if maxRows ≤ asked.2.queueCount then
    { st with log := { asked.2 with
        count := some asked.2.queueCount
        fullNoticeTime := if asked.2.fullNoticeTime = 0 ∨ 60 ≤ now - asked.2.fullNoticeTime then now
          else asked.2.fullNoticeTime } }
  else { st with log := queueAdd o name time body asked.2 }

end LogStore

/-- What is done to the queue; `limit` is how many rows a pass may take. -/
inductive QueueOp where
  | enqueue (d : Storage) (now : Nat) (name : Text) (time : Nat) (body : Text) (o : AddOutcome)
  | flushDue (now limit : Nat) (o : Nat → RoundOutcome)
  | flushChannel (name : Text) (limit : Nat) (o : Nat → RoundOutcome)

/-- Every call of the operation reports what it did. -/
def QueueOp.Truthful : QueueOp → Prop
  | .enqueue _ _ _ _ _ o => o.reported = o.added
  | .flushDue _ _ o => ∀ n, (o n).reported = (o n).deleted
  | .flushChannel _ _ o => ∀ n, (o n).reported = (o n).deleted

/-- No delete is reported as done that was not. -/
def QueueOp.Sure : QueueOp → Prop
  | .enqueue _ _ _ _ _ _ => True
  | .flushDue _ _ o => ∀ n, (o n).reported = true → (o n).deleted = true
  | .flushChannel _ _ o => ∀ n, (o n).reported = true → (o n).deleted = true

/-- The rows a flush is to take, in its order. -/
def QueueOp.selection : QueueOp → List QueueRow → List QueueRow
  | .enqueue _ _ _ _ _ _ => fun _ => []
  | .flushDue now _ _ => ChannelLog.fetchDue (ChannelLog.cutoffAt now)
  | .flushChannel name _ _ => fun queue => queue.filter fun row => nameEq row.channel name

/-- The order in which a flush takes rows. -/
def QueueOp.order : QueueOp → QueueRow → QueueRow → Prop
  | .flushChannel _ _ _ => fun a b => a.id ≤ b.id
  | _ => ChannelLog.QueueOrder

namespace LogStore

/-- An operation; one that is not a flush fetches and appends nothing. -/
def operate (maxRows : Nat) (calendar : Calendar) (st : LogStore) : QueueOp → Pass
  | .enqueue d now name time body o => { store := st.enqueue maxRows d now name time body o }
  | .flushDue now limit o => flushPass maxRows calendar (QueueOp.flushDue now limit o).selection
      ChannelLog.throughOrdered o limit limit st
  | .flushChannel name limit o => flushPass maxRows calendar (QueueOp.flushChannel name limit o).selection
      (ChannelLog.throughChannel name) o limit limit st

/-- The store after it. -/
def step (maxRows : Nat) (calendar : Calendar) (st : LogStore) (op : QueueOp) : LogStore :=
  (st.operate maxRows calendar op).store

/-! ## 4. One pass -/

/-- Rows are in the order of their numbers, and numbers are not used twice. -/
structure Numbered (log : ChannelLog) : Prop where
  sorted : log.queue.Pairwise fun a b => a.id < b.id
  fresh : ∀ row ∈ log.queue, row.id < log.nextId

/-- What is common to the two flushes: `fetch` lists the rows that are selected, and the delete
    takes those that are not after the last one. -/
structure Fetches (sel : QueueRow → Prop) (le : QueueRow → QueueRow → Prop)
    (fetch : List QueueRow → List QueueRow) (through : QueueRow → QueueRow → Bool) : Prop where
  lists : ∀ queue : List QueueRow, queue.Pairwise (fun a b => a.id < b.id) →
    Batch.Lists sel le queue (fetch queue)
  separates : ∀ queue : List QueueRow, queue.Pairwise (fun a b => a.id < b.id) →
    Batch.Separates le queue
  refl : ∀ a, le a a
  through_iff : ∀ last row, sel last → (through last row = true ↔ sel row ∧ le row last)

/-- What a pass may do to a store. -/
structure PassSpec (le : QueueRow → QueueRow → Prop) (fetch : List QueueRow → List QueueRow)
    (calendar : Calendar) (truthful sure : Prop) (st : LogStore) (p : Pass) : Prop where
  left : p.store.log.queue.Sublist st.log.queue
  nextId : p.store.log.nextId = st.log.nextId
  removed : ∀ row ∈ st.log.queue, row ∉ p.store.log.queue → row ∈ p.appended
  files : p.store.files = st.files ++ p.appended.filterMap (·.line calendar)
  lines : ∀ row ∈ p.appended, (row.line calendar).isSome = true
  rounds : ∀ rows ∈ p.rounds, rows.Pairwise le ∧ ∀ row ∈ rows, row ∈ fetch st.log.queue
  fetched : sure → p.fetched <+: fetch st.log.queue
  initial : p.appended <+: p.fetched
  wrote : p.wrote = true → p.appended = p.fetched
  count : truthful → st.log.count = some st.log.queue.length →
    p.store.log.count = some p.store.log.queue.length

section Rows
variable {calendar : Calendar}

theorem writeRecord_spec (calendar : Calendar) (ok : Bool) (row : QueueRow) (st : LogStore) :
    (st.writeRecord calendar ok row).2.log.queue = st.log.queue ∧
      (st.writeRecord calendar ok row).2.log.nextId = st.log.nextId ∧
      (st.writeRecord calendar ok row).2.log.count = st.log.count ∧
      if (st.writeRecord calendar ok row).1 then ∃ line, row.line calendar = some line ∧
        (st.writeRecord calendar ok row).2.files = st.files ++ [line]
      else (st.writeRecord calendar ok row).2.files = st.files := by
  have hlog : (st.log.writeQueueRecord row).queue = st.log.queue ∧
      (st.log.writeQueueRecord row).nextId = st.log.nextId ∧
      (st.log.writeQueueRecord row).count = st.log.count := by
    unfold ChannelLog.writeQueueRecord ChannelLog.ensureState ChannelLog.pushState
    split <;> exact ⟨rfl, rfl, rfl⟩
  unfold writeRecord
  split
  · exact ⟨rfl, rfl, rfl, rfl⟩
  dsimp only
  cases hline : row.line calendar with
  | none => exact ⟨hlog.1, hlog.2.1, hlog.2.2, rfl⟩
  | some line =>
    cases ok with
    | false => exact ⟨hlog.1, hlog.2.1, hlog.2.2, rfl⟩
    | true => exact ⟨hlog.1, hlog.2.1, hlog.2.2, line, rfl, rfl⟩

/-- A batch is written in order, up to the first row that fails. -/
theorem writeRows_spec (calendar : Calendar) (ok : Nat → Bool) (rows : List QueueRow) (i : Nat)
    (st : LogStore) :
    let r := st.writeRows calendar ok i rows
    r.2.2.log.queue = st.log.queue ∧ r.2.2.log.nextId = st.log.nextId ∧
      r.2.2.log.count = st.log.count ∧ r.2.2.files = st.files ++ r.1.filterMap (·.line calendar) ∧
      (∀ row ∈ r.1, (row.line calendar).isSome = true) ∧ r.1 <+: rows ∧
      (r.2.1 = true → r.1 = rows) := by
  induction rows generalizing i st with
  | nil => exact ⟨rfl, rfl, rfl, by simp [writeRows], by simp [writeRows], List.prefix_refl _, fun _ => rfl⟩
  | cons row rows ih =>
    have hrow := writeRecord_spec calendar (ok i) row st
    unfold writeRows
    generalize st.writeRecord calendar (ok i) row = written at hrow
    obtain ⟨_ | _, st₁⟩ := written
    · obtain ⟨hqueue, hnext, hcount, hfiles⟩ := hrow
      exact ⟨hqueue, hnext, hcount, by simpa using hfiles, by simp, List.nil_prefix, by simp⟩
    · obtain ⟨hqueue, hnext, hcount, line, hline, hfiles⟩ := hrow
      obtain ⟨hqueue', hnext', hcount', hfiles', hlines', hpre, hall⟩ := ih (i + 1) st₁
      dsimp only at *
      refine ⟨hqueue'.trans hqueue, hnext'.trans hnext, hcount'.trans hcount, ?_, ?_, ?_, ?_⟩
      · rw [hfiles', hfiles, List.append_assoc, List.filterMap_cons_some hline, List.singleton_append]
      · simp only [List.forall_mem_cons]
        exact ⟨by rw [hline]; rfl, hlines'⟩
      · exact List.prefix_cons_inj row |>.mpr hpre
      · exact fun h => by rw [hall h]

end Rows

theorem nodup_of_ids {queue : List QueueRow} (h : queue.Pairwise fun a b => a.id < b.id) :
    queue.Nodup := h.imp fun hlt heq => Nat.ne_of_lt hlt (congrArg QueueRow.id heq)

section Pass
variable {sel : QueueRow → Prop} {le : QueueRow → QueueRow → Prop}
  {fetch : List QueueRow → List QueueRow} {through : QueueRow → QueueRow → Bool}
  {calendar : Calendar} {truthful sure : Prop}

/-- Nothing was done. -/
theorem PassSpec.idle (st : LogStore) :
    PassSpec le fetch calendar truthful sure st { store := st } where
  left := .refl _
  nextId := rfl
  removed := fun _ hrow hnot => absurd hrow hnot
  files := by simp
  lines := by simp
  rounds := by simp
  fetched := fun _ => List.nil_prefix
  initial := List.prefix_refl _
  wrote := fun _ => rfl
  count := fun _ h => h

/-- A row could not be written: nothing is deleted. -/
theorem PassSpec.stuck {st st' : LogStore} {rows done : List QueueRow} (hlog : st'.log.queue = st.log.queue)
    (hnext : st'.log.nextId = st.log.nextId) (hcount : st'.log.count = st.log.count)
    (hfiles : st'.files = st.files ++ done.filterMap (·.line calendar))
    (hlines : ∀ row ∈ done, (row.line calendar).isSome = true) (hdone : done <+: rows)
    (hsorted : rows.Pairwise le) (hlisted : rows <+: fetch st.log.queue) :
    PassSpec le fetch calendar truthful sure st
      { wrote := false, store := st', rounds := [rows], appended := done } where
  left := hlog ▸ .refl _
  nextId := hnext
  removed := fun row hrow hnot => absurd (hlog ▸ hrow) hnot
  files := hfiles
  lines := hlines
  rounds := List.forall_mem_singleton.mpr ⟨hsorted, fun _ hrow => hlisted.subset hrow⟩
  fetched := fun _ => by rwa [Pass.fetched, List.flatten_singleton]
  initial := by rwa [Pass.fetched, List.flatten_singleton]
  wrote := fun h => Bool.noConfusion h
  count := fun _ h => by dsimp only; rw [hcount, hlog, h]

/-- One round: `rows`, the first rows that `fetch` lists, are in their files, and the queue has lost
    them if they were deleted. -/
structure Round (le : QueueRow → QueueRow → Prop) (fetch : List QueueRow → List QueueRow)
    (calendar : Calendar) (deleted : Bool) (st : LogStore) (rows : List QueueRow) (st' : LogStore) :
    Prop where
  left : st'.log.queue.Sublist st.log.queue
  nextId : st'.log.nextId = st.log.nextId
  removed : ∀ row ∈ st.log.queue, row ∉ st'.log.queue → row ∈ rows
  files : st'.files = st.files ++ rows.filterMap (·.line calendar)
  lines : ∀ row ∈ rows, (row.line calendar).isSome = true
  sorted : rows.Pairwise le
  listed : rows <+: fetch st.log.queue
  /-- The next round lists what this one could have listed, ... -/
  again : ∀ row ∈ fetch st'.log.queue, row ∈ fetch st.log.queue
  /-- ... behind these rows once they are deleted. -/
  rest : deleted = true → fetch st.log.queue = rows ++ fetch st'.log.queue
  length : st'.log.queue.length =
    if deleted then st.log.queue.length - rows.length else st.log.queue.length

section Rounds
variable {deleted : Bool} {st st' : LogStore} {rows : List QueueRow}

/-- The range that is deleted is the batch (`Batch.Lists.through_iff`). -/
theorem Fetches.round (hf : Fetches sel le fetch through) (hst : Numbered st.log) {n : Nat}
    {last : QueueRow} (hrows : (fetch st.log.queue).take n = rows) (hlast : rows.getLast? = some last)
    (hqueue : st'.log.queue = if deleted then st.log.queue.filter fun row => !through last row
      else st.log.queue)
    (hnext : st'.log.nextId = st.log.nextId)
    (hfiles : st'.files = st.files ++ rows.filterMap (·.line calendar))
    (hlines : ∀ row ∈ rows, (row.line calendar).isSome = true) :
    Round le fetch calendar deleted st rows st' := by
  have hlists := hf.lists _ hst.sorted
  have hmem : ∀ row ∈ rows, row ∈ st.log.queue ∧ sel row := fun row hrow =>
    (hlists.mem row).mp (List.mem_of_mem_take (hrows ▸ hrow))
  have hrange : ∀ row ∈ st.log.queue, through last row = true ↔ row ∈ rows := by
    intro row hrow
    rw [hf.through_iff last row (hmem last (List.mem_of_getLast? hlast)).2, ← hrows]
    exact hlists.through_iff hf.refl (hf.separates _ hst.sorted) (hrows ▸ hlast) hrow
  have hsub : st'.log.queue.Sublist st.log.queue := by
    rw [hqueue]
    split
    · exact List.filter_sublist
    · exact .refl _
  have hlists' := hf.lists _ (hst.sorted.sublist hsub)
  have hrest (hdel : deleted = true) : fetch st'.log.queue = (fetch st.log.queue).drop n := by
    refine hlists.eq_drop (hf.separates _ hst.sorted) (fun row => ?_) hlists'
    rw [hrows, hqueue, if_pos hdel, List.mem_filter, Bool.not_eq_true']
    refine and_congr_right fun hrow => ?_
    rw [← hrange row hrow, Bool.not_eq_true]
  exact {
    left := hsub
    nextId := hnext
    removed := fun row hrow hnot => by
      rw [hqueue] at hnot
      split at hnot
      · rw [← hrange row hrow]
        by_contra hkeep
        exact hnot (List.mem_filter.mpr ⟨hrow, by simpa using hkeep⟩)
      · exact absurd hrow hnot
    files := hfiles
    lines := hlines
    sorted := hrows ▸ hlists.sorted.sublist (List.take_sublist _ _)
    listed := hrows ▸ List.take_prefix _ _
    again := fun row hrow => by
      have hlisted := (hlists'.mem row).mp hrow
      exact (hlists.mem row).mpr ⟨hsub.subset hlisted.1, hlisted.2⟩
    rest := fun hdel => by rw [hrest hdel, ← hrows, List.take_append_drop]
    length := by
      rw [hqueue]
      split
      · have hnodup : rows.Nodup := hrows ▸ hlists.nodup.sublist (List.take_sublist _ _)
        exact Batch.length_filter_not (nodup_of_ids hst.sorted) hnodup (fun x hx => (hmem x hx).1) hrange
      · rfl }

theorem Round.numbered (h : Round le fetch calendar deleted st rows st') (hst : Numbered st.log) :
    Numbered st'.log :=
  ⟨hst.sorted.sublist h.left, fun row hrow => h.nextId ▸ hst.fresh row (h.left.subset hrow)⟩

/-- The last round of a pass. -/
theorem Round.last (h : Round le fetch calendar deleted st rows st')
    (hcount : st'.log.count = st.log.count) (htrue : truthful → deleted = false) :
    PassSpec le fetch calendar truthful sure st { store := st', rounds := [rows], appended := rows } where
  left := h.left
  nextId := h.nextId
  removed := h.removed
  files := h.files
  lines := h.lines
  rounds := List.forall_mem_singleton.mpr ⟨h.sorted, fun _ hrow => h.listed.subset hrow⟩
  fetched := fun _ => by rw [Pass.fetched, List.flatten_singleton]; exact h.listed
  initial := by rw [Pass.fetched, List.flatten_singleton]
  wrote := fun _ => by rw [Pass.fetched, List.flatten_singleton]
  count := fun ht hc => by
    dsimp only
    rw [hcount, hc, h.length, htrue ht, if_neg Bool.false_ne_true]

/-- A round, and the pass that goes on behind it. -/
theorem Round.next {p : Pass} (h : Round le fetch calendar deleted st rows st')
    (hp : PassSpec le fetch calendar truthful sure st' p) (hsure : sure → deleted = true)
    (hcount : truthful → st.log.count = some st.log.queue.length →
      st'.log.count = some st'.log.queue.length) :
    PassSpec le fetch calendar truthful sure st
      { p with rounds := rows :: p.rounds, appended := rows ++ p.appended } where
  left := hp.left.trans h.left
  nextId := hp.nextId.trans h.nextId
  removed := fun row hrow hnot => by
    rw [List.mem_append]
    by_cases hstay : row ∈ st'.log.queue
    · exact .inr (hp.removed row hstay hnot)
    · exact .inl (h.removed row hrow hstay)
  files := by
    dsimp only
    rw [hp.files, h.files, List.filterMap_append, List.append_assoc]
  lines := fun row hrow => (List.mem_append.mp hrow).elim (h.lines row) (hp.lines row)
  rounds := List.forall_mem_cons.mpr ⟨⟨h.sorted, fun _ hrow => h.listed.subset hrow⟩,
    fun round hmem => ⟨(hp.rounds round hmem).1, fun row hrow => h.again row ((hp.rounds round hmem).2 row hrow)⟩⟩
  fetched := fun hs => by
    rw [h.rest (hsure hs)]
    exact (List.prefix_append_right_inj rows).mpr (hp.fetched hs)
  initial := (List.prefix_append_right_inj rows).mpr hp.initial
  wrote := fun hw => congrArg (rows ++ ·) (hp.wrote hw)
  count := fun ht hc => hp.count ht (hcount ht hc)

end Rounds

/-- **One pass.** Induction is on the rounds: each deletes the batch it wrote and nothing else, so
    the next one starts behind it. -/
theorem passSpec_flushPass (hf : Fetches sel le fetch through) (maxRows : Nat)
    (outcome : Nat → RoundOutcome) (fuel left : Nat) (st : LogStore) (hst : Numbered st.log) :
    PassSpec le fetch calendar (∀ n, (outcome n).reported = (outcome n).deleted)
      (∀ n, (outcome n).reported = true → (outcome n).deleted = true) st
      (flushPass maxRows calendar fetch through outcome fuel left st) := by
  induction fuel generalizing left st with
  | zero => exact .idle st
  | succ fuel ih =>
    unfold flushPass
    dsimp only
    split
    · exact .idle st
    generalize hrows : (fetch st.log.queue).take (min channelLogFlushFetchRows left) = rows
    cases hlast : rows.getLast? with
    | none => exact .idle st
    | some last =>
      dsimp only
      have hwritten := writeRows_spec calendar (outcome fuel).written rows 0 st
      dsimp only at hwritten
      generalize st.writeRows calendar (outcome fuel).written 0 rows = written at hwritten
      obtain ⟨done, _ | _, st₁⟩ := written
      · obtain ⟨hqueue, hnext, hcount, hfiles, hlines, hpre, -⟩ := hwritten
        have hsorted : rows.Pairwise le := hrows ▸ (hf.lists _ hst.sorted).sorted.sublist (List.take_sublist _ _)
        exact .stuck hqueue hnext hcount hfiles hlines hpre hsorted (hrows ▸ List.take_prefix _ _)
      · obtain ⟨hqueue, hnext, hcount, hfiles, hlines, -, hall⟩ := hwritten
        obtain rfl : done = rows := hall rfl
        dsimp only at hqueue hnext hcount hfiles ⊢
        rw [hqueue]
        split
        · rename_i hreported
          set st₂ : LogStore := { st₁ with log := _ } with hst₂
          have hround : Round le fetch calendar (outcome fuel).deleted st done st₂ :=
            hf.round hst hrows hlast rfl hnext hfiles hlines
          refine hround.next (ih _ st₂ (hround.numbered hst)) (fun hsure => hsure fuel hreported) ?_
          intro htrue hc
          rw [hround.length, ← htrue fuel, if_pos hreported, hst₂]
          unfold ChannelLog.queueCount
          rw [hcount, hc]
          rfl
        · rename_i hreported
          set st₂ : LogStore := { st₁ with log := _ }
          have hround : Round le fetch calendar (outcome fuel).deleted st done st₂ :=
            hf.round hst hrows hlast rfl hnext hfiles hlines
          refine hround.last hcount fun htrue => ?_
          rw [← htrue fuel, Bool.eq_false_iff]
          exact hreported

end Pass

/-! ## 5. The two flushes -/

theorem queueOrder_total (a b : QueueRow) : ChannelLog.QueueOrder a b ∨ ChannelLog.QueueOrder b a := by
  unfold ChannelLog.QueueOrder
  omega

theorem queueOrder_trans (a b c : QueueRow) (hab : ChannelLog.QueueOrder a b)
    (hbc : ChannelLog.QueueOrder b c) : ChannelLog.QueueOrder a c := by
  unfold ChannelLog.QueueOrder at *
  omega

/-- Rows with one number are one row. -/
theorem eq_of_id_eq {queue : List QueueRow} (h : queue.Pairwise fun a b => a.id < b.id)
    {a b : QueueRow} (ha : a ∈ queue) (hb : b ∈ queue) (hid : a.id = b.id) : a = b := by
  have hids : (queue.map (·.id)).Nodup := List.pairwise_map.mpr (h.imp Nat.ne_of_lt)
  exact List.inj_on_of_nodup_map hids ha hb hid

theorem fetches_due (now : Nat) :
    Fetches (fun row => ChannelLog.dueAt (ChannelLog.cutoffAt now) row = true) ChannelLog.QueueOrder
      (ChannelLog.fetchDue (ChannelLog.cutoffAt now)) ChannelLog.throughOrdered where
  lists := fun queue hqueue => {
    mem := fun row => by
      unfold ChannelLog.fetchDue
      rw [List.mem_insertionSort, List.mem_filter]
    sorted := by
      have : Std.Total ChannelLog.QueueOrder := ⟨queueOrder_total⟩
      have : IsTrans QueueRow ChannelLog.QueueOrder := ⟨queueOrder_trans⟩
      exact List.pairwise_insertionSort ChannelLog.QueueOrder _
    nodup := by
      unfold ChannelLog.fetchDue
      rw [(List.perm_insertionSort _ _).nodup_iff]
      exact (nodup_of_ids hqueue).filter _ }
  separates := fun queue hqueue a ha b hb hab hba => by
    refine eq_of_id_eq hqueue ha hb ?_
    unfold ChannelLog.QueueOrder at hab hba
    omega
  refl := fun a => .inr ⟨rfl, Nat.le_refl _⟩
  through_iff := fun last row hlast => by
    unfold ChannelLog.throughOrdered
    rw [decide_eq_true_eq]
    refine ⟨fun hle => ⟨?_, hle⟩, fun h => h.2⟩
    unfold ChannelLog.dueAt at hlast ⊢
    rw [decide_eq_true_eq] at hlast ⊢
    unfold ChannelLog.QueueOrder at hle
    omega

theorem fetches_channel (name : Text) :
    Fetches (fun row => nameEq row.channel name = true) (fun a b => a.id ≤ b.id)
      (fun queue => queue.filter fun row => nameEq row.channel name)
      (ChannelLog.throughChannel name) where
  lists := fun queue hqueue => {
    mem := fun row => List.mem_filter
    sorted := (hqueue.imp fun h => Nat.le_of_lt h).filter _
    nodup := (nodup_of_ids hqueue).filter _ }
  separates := fun queue hqueue a ha b hb hab hba => eq_of_id_eq hqueue ha hb (Nat.le_antisymm hab hba)
  refl := fun a => Nat.le_refl _
  through_iff := fun last row _ => by
    unfold ChannelLog.throughChannel
    rw [Bool.and_eq_true, decide_eq_true_eq]

/-! ## 6. Runs -/

variable {maxRows : Nat} {calendar : Calendar} {st : LogStore}

/-- What is asked of an operation. -/
structure Durable (maxRows : Nat) (calendar : Calendar) (st : LogStore) (op : QueueOp) : Prop where
  /-- A row that is gone was appended by this operation, to its file. -/
  removed : ∀ row ∈ st.log.queue, row ∉ (st.step maxRows calendar op).log.queue →
    row ∈ (st.operate maxRows calendar op).appended ∧
      ∃ line ∈ (st.step maxRows calendar op).files, row.line calendar = some line
  files : (st.step maxRows calendar op).files =
    st.files ++ (st.operate maxRows calendar op).appended.filterMap (·.line calendar)
  /-- Every fetch lists rows of the queue that are to be taken, in the order of the queue. -/
  rounds : ∀ rows ∈ (st.operate maxRows calendar op).rounds,
    rows.Pairwise op.order ∧ ∀ row ∈ rows, row ∈ op.selection st.log.queue
  /-- Unless a delete is reported as done that was not, all fetches together do. -/
  fetched : op.Sure →
    (st.operate maxRows calendar op).fetched <+: op.selection st.log.queue ∧
      (st.operate maxRows calendar op).fetched.Pairwise op.order
  /-- What was fetched is appended in that order, up to a row that could not be written. -/
  initial : (st.operate maxRows calendar op).appended <+: (st.operate maxRows calendar op).fetched
  wrote : (st.operate maxRows calendar op).wrote = true →
    (st.operate maxRows calendar op).appended = (st.operate maxRows calendar op).fetched
  count : op.Truthful → st.log.count = some st.log.queue.length →
    (st.step maxRows calendar op).log.count = some (st.step maxRows calendar op).log.queue.length

theorem PassSpec.durable {op : QueueOp}
    (h : PassSpec op.order op.selection calendar op.Truthful op.Sure st (st.operate maxRows calendar op))
    (hsorted : (op.selection st.log.queue).Pairwise op.order) : Durable maxRows calendar st op where
  removed := fun row hrow hnot => by
    have happ := h.removed row hrow hnot
    obtain ⟨line, hline⟩ := Option.isSome_iff_exists.mp (h.lines row happ)
    refine ⟨happ, line, ?_, hline⟩
    change line ∈ (st.operate maxRows calendar op).store.files
    rw [h.files]
    exact List.mem_append_right _ (List.mem_filterMap.mpr ⟨row, happ, hline⟩)
  files := h.files
  rounds := h.rounds
  fetched := fun hsure => ⟨h.fetched hsure, hsorted.sublist (h.fetched hsure).sublist⟩
  initial := h.initial
  wrote := h.wrote
  count := h.count

theorem PassSpec.numbered {le : QueueRow → QueueRow → Prop} {fetch : List QueueRow → List QueueRow}
    {truthful sure : Prop} {p : Pass} (h : PassSpec le fetch calendar truthful sure st p)
    (hst : Numbered st.log) : Numbered p.store.log :=
  ⟨hst.sorted.sublist h.left, fun row hrow => h.nextId ▸ hst.fresh row (h.left.subset hrow)⟩

/-- Asking for the setting touches the states only. -/
theorem stateEnabled_queue (log : ChannelLog) (d : Storage) (name : Text) :
    (log.stateEnabled d name).2.queue = log.queue ∧
      (log.stateEnabled d name).2.nextId = log.nextId ∧
      (log.stateEnabled d name).2.count = log.count := by
  unfold ChannelLog.stateEnabled
  cases log.stateFor name with
  | some st => exact ⟨rfl, rfl, rfl⟩
  | none =>
    dsimp only
    split <;> exact ⟨rfl, rfl, rfl⟩

/-- A row may be added, under a number that was not used. -/
theorem queueAdd_spec {log : ChannelLog} (o : AddOutcome) (name : Text) (time : Nat) (body : Text)
    (h : Numbered log) :
    Numbered (queueAdd o name time body log) ∧ log.queue <+: (queueAdd o name time body log).queue ∧
      (o.reported = o.added → log.count = some log.queue.length →
        (queueAdd o name time body log).count = some (queueAdd o name time body log).queue.length) := by
  have idle : Numbered { log with count := some log.queueCount } ∧ log.queue <+: log.queue ∧
      (o.reported = o.added → log.count = some log.queue.length →
        some log.queueCount = some log.queue.length) :=
    ⟨⟨h.sorted, h.fresh⟩, List.prefix_refl _, fun _ hc => by rw [ChannelLog.queueCount, hc]; rfl⟩
  unfold queueAdd
  split
  · split
    · obtain ⟨read, added, reported⟩ := o
      cases added with
      | false =>
        refine ⟨⟨h.sorted, h.fresh⟩, List.prefix_refl _, fun hr hc => ?_⟩
        dsimp only at hr ⊢
        rw [hr, ChannelLog.queueCount, hc]
        rfl
      | true =>
        refine ⟨⟨?_, ?_⟩, List.prefix_append _ _, fun hr hc => ?_⟩
        · refine List.pairwise_append.mpr ⟨h.sorted, List.pairwise_singleton _ _, fun a ha b hb => ?_⟩
          rw [List.mem_singleton.mp hb]
          exact h.fresh a ha
        · intro row hrow
          change row.id < log.nextId + 1
          rcases List.mem_append.mp hrow with hrow | hrow
          · exact Nat.lt_succ_of_lt (h.fresh row hrow)
          · rw [List.mem_singleton.mp hrow]
            exact Nat.lt_succ_self _
        · dsimp only at hr ⊢
          rw [hr, ChannelLog.queueCount, hc]
          simp
    · exact idle
  · exact idle

theorem enqueue_spec (maxRows : Nat) (d : Storage) (now : Nat) (name : Text) (time : Nat)
    (body : Text) (o : AddOutcome) (h : Numbered st.log) :
    let st' := st.enqueue maxRows d now name time body o
    Numbered st'.log ∧ st.log.queue <+: st'.log.queue ∧ st'.files = st.files ∧
      (o.reported = o.added → st.log.count = some st.log.queue.length →
        st'.log.count = some st'.log.queue.length) := by
  dsimp only
  unfold enqueue
  dsimp only
  have hasked : ∀ asked : Bool × ChannelLog, asked = (if (st.log.stateFor name).isNone && !o.read then
        (false, st.log) else st.log.stateEnabled d name) →
      asked.2.queue = st.log.queue ∧ asked.2.nextId = st.log.nextId ∧ asked.2.count = st.log.count := by
    rintro asked rfl
    split
    · exact ⟨rfl, rfl, rfl⟩
    · exact stateEnabled_queue st.log d name
  generalize hdef : (if (st.log.stateFor name).isNone && !o.read then (false, st.log)
    else st.log.stateEnabled d name) = asked at *
  obtain ⟨hqueue, hnext, hcount⟩ := hasked asked rfl
  have hnumbered : Numbered asked.2 := ⟨hqueue ▸ h.sorted, by rw [hqueue, hnext]; exact h.fresh⟩
  split
  · exact ⟨hnumbered, hqueue ▸ List.prefix_refl _, rfl, fun _ hc => by rw [hcount, hqueue, hc]⟩
  split
  · refine ⟨⟨hnumbered.sorted, hnumbered.fresh⟩, hqueue ▸ List.prefix_refl _, rfl, fun _ hc => ?_⟩
    dsimp only
    rw [ChannelLog.queueCount, hcount, hqueue, hc]
    rfl
  · obtain ⟨hadd, hpre, hcounted⟩ := queueAdd_spec o name time body hnumbered
    exact ⟨hadd, hqueue ▸ hpre, rfl, fun hr hc => hcounted hr (by rw [hcount, hqueue, hc])⟩

/-- **Every operation** keeps the numbering and loses nothing. -/
theorem durable_step (h : Numbered st.log) (op : QueueOp) :
    Numbered (st.step maxRows calendar op).log ∧ Durable maxRows calendar st op := by
  cases op with
  | enqueue d now name time body o =>
    obtain ⟨hnumbered, hpre, hfiles, hcount⟩ := enqueue_spec maxRows d now name time body o h
    exact ⟨hnumbered, {
      removed := fun row hrow hnot => absurd (hpre.subset hrow) hnot
      files := by
        change (st.enqueue maxRows d now name time body o).files = _
        rw [hfiles]
        exact (List.append_nil _).symm
      rounds := fun _ hrows => absurd hrows List.not_mem_nil
      fetched := fun _ => ⟨List.prefix_refl _, .nil⟩
      initial := List.prefix_refl _
      wrote := fun _ => rfl
      count := hcount }⟩
  | flushDue now limit o =>
    have hspec : PassSpec (QueueOp.flushDue now limit o).order (QueueOp.flushDue now limit o).selection
        calendar (QueueOp.flushDue now limit o).Truthful (QueueOp.flushDue now limit o).Sure st
        (st.operate maxRows calendar (.flushDue now limit o)) :=
      passSpec_flushPass (fetches_due now) maxRows o limit limit st h
    exact ⟨hspec.numbered h, hspec.durable ((fetches_due now).lists _ h.sorted).sorted⟩
  | flushChannel name limit o =>
    have hspec : PassSpec (QueueOp.flushChannel name limit o).order
        (QueueOp.flushChannel name limit o).selection calendar
        (QueueOp.flushChannel name limit o).Truthful (QueueOp.flushChannel name limit o).Sure st
        (st.operate maxRows calendar (.flushChannel name limit o)) :=
      passSpec_flushPass (fetches_channel name) maxRows o limit limit st h
    exact ⟨hspec.numbered h, hspec.durable ((fetches_channel name).lists _ h.sorted).sorted⟩

/-- A row of a channel, and the clock of a test. -/
theorem log_row_fits : "#a".toList.length ≤ ircChannelNameMax := by decide

def queuedRow : QueueRow :=
  { id := 1, channel := "#a".toList, time := 5, body := "<ann> hi".toList, fits := log_row_fits }

def newYear : Calendar := fun _ => some ("01Jan2026".toList, "12:00:00".toList)

end LogStore

end ScratchIrcd
