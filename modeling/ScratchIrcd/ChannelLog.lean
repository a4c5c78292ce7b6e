/-
  File:      ScratchIrcd/ChannelLog.lean
  Subject:   Channel logging (src/channel_log.c, src/chanserv_db_logging.c).

  A logged event is a row of `channel_log_queue`; flushes write rows to text files and delete
  them. Whether a channel is logged is a column of its ChanServ row, and for the life of the process
  `states` remembers the answer. A state is also made for every row that is flushed, and then it
  says no: nothing has been asked.

  What is in the files, with their rotation and retention, is not modelled. The statements of the
  log's own connection and the writes to files are taken to succeed.
-/
import ScratchIrcd.World
import Mathlib.Data.List.Sort

namespace ScratchIrcd

open CText

/-! ## 1. Records -/

/-- `ChannelLogState`, without the date of its file. -/
structure LogState where
  channel : Text
  known : Bool := false
  enabled : Bool := false
  deriving DecidableEq, Repr

/-- A row of `channel_log_queue`; `chanserv_db_logging_queue_add` refuses longer names. -/
structure QueueRow where
  id : Nat
  channel : Text
  time : Nat
  body : Text
  fits : channel.length ≤ ircChannelNameMax
  deriving DecidableEq

/-- The statics of channel_log.c, and the durable queue in order of `id`. -/
structure ChannelLog where
  states : List LogState := []
  /-- `log_queue_count`, once it is known. -/
  count : Option Nat := none
  fullNoticeTime : Nat := 0
  queue : List QueueRow := []
  /-- AUTOINCREMENT. -/
  nextId : Nat := 1
  deriving DecidableEq

/-- `CHANNEL_LOG_FLUSH_FETCH_ROWS`, `IRCD_CHANNEL_LOG_BATCH_SECONDS`. -/
def channelLogFlushFetchRows : Nat := 128
def ircdChannelLogBatchSeconds : Nat := 300

/-- The size of `body`, in the record and where it is formatted. -/
def logBodySize : Nat := 1024 + 256

/-- `chanserv_db_logging_get`: is the channel registered, and is it logged? -/
def Storage.loggingGet (d : Storage) (name : Text) : Bool × Bool :=
  match d.chanserv.row name with
  | none => (false, false)
  | some r => (r.enabled, r.enabled && r.loggingEnabled)

/-! ## 2. Files -/

/-- The signs of a channel name that stay in the name of its file. -/
def fileKept (x : Char) : Bool := x.isAlphanum || ".-_[]\x7b\x7d^~".toList.contains x

def fileSign (x : Char) : Char := if fileKept x then x else '_'

/-- `safe_component`, with a buffer of `IRC_CHANNEL_NAME_MAX + 1` bytes. -/
def safeComponent (name : Text) : Text :=
  let name := if startsChannel name then name.tail else name
  let component := (bounded ircChannelNameMax name).map fileSign
  if component.isEmpty then ['_'] else component

/-- `log_path`. -/
def logPath (name suffix : Text) : Text :=
  "logs/".toList ++ safeComponent name ++ ".log.".toList ++ suffix

/-! ## 3. States -/

namespace ChannelLog

/-- `state_for(name, 0)`. -/
def stateFor (log : ChannelLog) (name : Text) : Option LogState :=
  log.states.find? fun st => strcasecmpEq st.channel name

/-- A new state in front of the list. -/
def pushState (log : ChannelLog) (st : LogState) : ChannelLog :=
  { log with states := { st with channel := bounded ircChannelNameMax st.channel } :: log.states }

/-- `state_for(name, 1)`. -/
def ensureState (log : ChannelLog) (name : Text) : ChannelLog :=
  if (log.stateFor name).isSome then log else log.pushState { channel := name }

/-- `state_enabled`. A negative answer of the database is not remembered. -/
def stateEnabled (log : ChannelLog) (d : Storage) (name : Text) : Bool × ChannelLog :=
  match log.stateFor name with
  | some st => (st.enabled, log)
  | none =>
      let (registered, enabled) := d.loggingGet name
      if registered && enabled then
        (true, log.pushState { channel := name, known := true, enabled := true })
      else (false, log)

/-! ## 4. The queue -/

/-- `ensure_queue_count`. -/
def queueCount (log : ChannelLog) : Nat := log.count.getD log.queue.length

/-- `write_queue_record`: the state is all of it that is not a file. -/
def writeQueueRecord (log : ChannelLog) (row : QueueRow) : ChannelLog := log.ensureState row.channel

/-- `chanserv_db_logging_queue_delete_through`. -/
def throughChannel (name : Text) (last row : QueueRow) : Bool :=
  nameEq row.channel name && decide (row.id ≤ last.id)

/-- `ORDER BY event_time,id`. -/
def QueueOrder (a b : QueueRow) : Prop := a.time < b.time ∨ a.time = b.time ∧ a.id ≤ b.id

instance : DecidableRel QueueOrder := fun a b =>
  inferInstanceAs (Decidable (a.time < b.time ∨ a.time = b.time ∧ a.id ≤ b.id))

/-- A row is due at a cutoff. -/
def dueAt (cutoff : Int) (row : QueueRow) : Bool := decide ((row.time : Int) ≤ cutoff)

/-- `chanserv_db_logging_queue_fetch_due`. -/
def fetchDue (cutoff : Int) (queue : List QueueRow) : List QueueRow :=
  (queue.filter (dueAt cutoff)).insertionSort QueueOrder

/-- `chanserv_db_logging_queue_delete_ordered_through`. -/
def throughOrdered (last row : QueueRow) : Bool := decide (QueueOrder row last)

/-- The cutoff of `channel_log_flush_due`. -/
def cutoffAt (now : Nat) : Int := (now : Int) - (ircdChannelLogBatchSeconds : Int)

end ChannelLog

end ScratchIrcd
