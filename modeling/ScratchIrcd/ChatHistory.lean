/-
  File:      ScratchIrcd/ChatHistory.lean
  Subject:   The history of channels (src/history_db.c, src/commands/chathistory.c,
             `store_channel_history` of src/commands/privmsg.c and src/commands/notice.c).

  A message is stored under the name its channel has at that moment, in a column with the collation
  NOCASE. Live channels are found under RFC1459 folding, which takes four more pairs of signs for
  equal, so a channel can come back to life under a name that NOCASE takes for another one.

  * `Server.privmsgStores`, `Server.noticeStores` -- what the two commands hand over for storage;
  * `HistoryNet.commandChathistory` -- CHATHISTORY LATEST;
  * **`HistoryNet.history_of_channel_run`** -- a name without those signs keeps its history whichever
    way it is spelled, and no name gets the history of another one.

  The fields of a record have the sizes of what is copied into them, so the copies are whole.
-/
import ScratchIrcd.BanDuration
import ScratchIrcd.Lib.Runs
import ScratchIrcd.Message

namespace ScratchIrcd

open CText

/-! ## 1. history_db.c -/

/-- `IRCD_HISTORY_HARD_LIMIT`, `IRCD_HISTORY_TEXT_MAX`, `IRCD_HISTORY_COMMAND_MAX`. -/
def ircdHistoryHardLimit : Nat := 500
def ircdHistoryTextMax : Nat := 510
def ircdHistoryCommandMax : Nat := 15

/-- `HistoryRecord`, and a row of the table `history`. -/
structure HistoryRecord where
  id : Nat := 0
  target : Text
  command : Text
  nick : Text
  user : Text
  host : Text
  account : Text
  text : Text
  createdAtMs : Int
  deriving DecidableEq, Repr

/-- The options the history reads. -/
structure HistoryConfig where
  historyDb : Text := "data/history.db".toList
  historyLimit : Nat := 100
  historyRetentionDays : Nat := 30
  historyMaxRows : Nat := 250000

/-- The database under its shared handle. Rows are kept in the order of their ids. -/
structure HistoryDb where
  rows : List HistoryRecord := []
  /-- AUTOINCREMENT -/
  nextId : Nat := 1
  /-- Is there a handle? -/
  opened : Bool := false
  /-- The outcome of opening and of each statement, and how many there were. -/
  io : Nat → Bool := fun _ => true
  ioPos : Nat := 0
  lastMaintenanceMs : Int := 0
  lastRetentionDays : Nat := 0
  lastMaxRows : Nat := 0

/-- `record_field_valid` for a field of `max` characters. -/
def recordFieldValid (max : Nat) (text : Text) : Bool :=
  decide (text.length ≤ max) && !text.any fun x => x == '\r' || x == '\n'

namespace HistoryRecord

/-- The checks of every text field. -/
def fieldsValid (r : HistoryRecord) : Bool :=
  recordFieldValid ircChannelNameMax r.target && recordFieldValid ircdHistoryCommandMax r.command &&
    recordFieldValid ircNickMax r.nick && recordFieldValid ircUserMax r.user &&
    recordFieldValid ircHostMax r.host && recordFieldValid ircNickMax r.account &&
    recordFieldValid ircdHistoryTextMax r.text

/-- `history_record_valid`. -/
def valid (r : HistoryRecord) : Bool :=
  r.fieldsValid && (r.command == "PRIVMSG".toList || r.command == "NOTICE".toList)

/-- `history_record_from_stmt` succeeds: `copy_column` also refuses a NUL. -/
def readable (r : HistoryRecord) : Bool :=
  decide (0 < r.id) && r.valid && [r.target, r.command, r.nick, r.user, r.host, r.account, r.text].all
    fun text => !text.contains '\x00'

/-- The order `created_at_ms DESC, id DESC`. -/
def newer (a b : HistoryRecord) : Bool :=
  decide (b.createdAtMs < a.createdAtMs) || (b.createdAtMs == a.createdAtMs && decide (b.id ≤ a.id))

end HistoryRecord

namespace HistoryDb

def ioOk (db : HistoryDb) : Bool := db.io db.ioPos

def tick (db : HistoryDb) : HistoryDb := { db with ioPos := db.ioPos + 1 }

/-- `history_db_shared`: the handle is opened once; a failure is tried again. -/
def shared (db : HistoryDb) : Bool × HistoryDb :=
  if db.opened then (true, db) else (db.ioOk, { db.tick with opened := db.ioOk })

/-- `history_db_add`. -/
def add (db : HistoryDb) (r : HistoryRecord) : Bool × HistoryDb :=
  if !r.valid then (false, db)
  else if !db.ioOk then (false, db.tick)
  else (true, { db.tick with rows := db.rows ++ [{ r with id := db.nextId }], nextId := db.nextId + 1 })

/-- The first statement of `history_db_prune`. -/
def pruneOld (db : HistoryDb) (retentionDays : Nat) (nowMs : Int) : Bool × HistoryDb :=
  if retentionDays = 0 then (true, db)
  else if !db.ioOk then (false, db.tick)
  else (true, { db.tick with
    rows := db.rows.filter fun r => decide (nowMs - retentionDays * 86400000 ≤ r.createdAtMs) })

/-- The second one: nothing goes where there is no row at the offset. -/
def pruneMany (db : HistoryDb) (maxRows : Nat) : Bool × HistoryDb :=
  if !db.ioOk then (false, db.tick)
  else match (db.rows.reverse.map (·.id))[maxRows]? with
    | none => (true, db.tick)
    | some bound => (true, { db.tick with rows := db.rows.filter fun r => decide (bound < r.id) })

/-- `history_db_prune`. -/
def prune (db : HistoryDb) (retentionDays maxRows : Nat) (nowMs : Int) : Bool × HistoryDb :=
  if maxRows = 0 ∨ nowMs < 0 then (false, db)
  else match db.pruneOld retentionDays nowMs with
    | (false, db) => (false, db)
    | (true, db) => db.pruneMany maxRows

/-- `history_db_shared_maintain`, when the handle is there: at most every five minutes. -/
def sharedMaintain (db : HistoryDb) (retentionDays maxRows : Nat) (nowMs : Int) : HistoryDb :=
  if maxRows = 0 ∨ nowMs < 0 then db
  else if retentionDays = db.lastRetentionDays ∧ maxRows = db.lastMaxRows ∧ db.lastMaintenanceMs ≠ 0 ∧
      db.lastMaintenanceMs ≤ nowMs ∧ nowMs - db.lastMaintenanceMs < 300000 then db
  else match db.prune retentionDays maxRows nowMs with
    | (false, db) => db
    | (true, db) => { db with
        lastMaintenanceMs := nowMs, lastRetentionDays := retentionDays, lastMaxRows := maxRows }

/-- The SELECT of `history_db_latest`: the newest of a target, oldest first. -/
def selectLatest (db : HistoryDb) (target : Text) (limit : Nat) : List HistoryRecord :=
  let newest := ((db.rows.filter fun r => nocaseEq r.target target).mergeSort fun a b =>
    a.newer b).take limit
  newest.mergeSort fun a b => b.newer a

/-- `history_db_latest`. -/
def latest (db : HistoryDb) (target : Text) (limit : Nat) : Option (List HistoryRecord) × HistoryDb :=
  if limit = 0 then (none, db)
  else if !db.ioOk then (none, db.tick)
  else
    let records := db.selectLatest target limit
    (if records.all (·.readable) then some records else none, db.tick)

/-- `store_channel_history`. -/
def storeChannelHistory (db : HistoryDb) (config : HistoryConfig) (cl : Client) (kind : MessageKind)
    (target text : Text) (nowMs : Int) : HistoryDb :=
  if ircdHistoryTextMax < text.length then db
  else
    let record : HistoryRecord :=
      { target, command := kind.verb.toList, nick := cl.nick, user := cl.user, host := cl.displayHost
        account := cl.accountName, text, createdAtMs := nowMs }
    match db.shared with
    | (false, db) => db
    | (true, db) =>
      match db.add record with
      | (false, db) => db
      | (true, db) => db.sharedMaintain config.historyRetentionDays config.historyMaxRows nowMs

end HistoryDb

/-! ## 2. What is stored -/

namespace Server

/-- A message to a channel that is delivered: the channel's own name, and the text as the channel
    passes it on. -/
def channelStores (s : Server) (c : ClientRef) (kind : MessageKind) (target text : Text) :
    Option (Text × Text) :=
  match s.findChannel target with
  | none => none
  | some ch =>
      let chan := s.channel ch
      let delivered := chan.deliveredText text
      if kind = .notice ∧ ChannelMode.noNotice ∈ chan.modes then none
      else if (chan.refusesMessage c (s.client c) text).isSome then none
      else if !messageWireFits (s.client c) kind.verb chan.name delivered then none
      else some (chan.name, delivered)

/-- What `command_privmsg` hands to `store_channel_history`. -/
def privmsgStores (s : Server) (c : ClientRef) (params : Option Text) : Option (Text × Text) :=
  match params with
  | none => none
  | some params =>
    let named := messageTarget params
    if !s.versionTargetAllowed c named then none
    else if (s.bannedChannelSend c named).isSome || s.mutedChannelSend c named then none
    else if !(s.client c).registered then none
    else match strtokSpace params with
      | none => none
      | some (target, rest) =>
        if target.contains ',' then none
        else match strtokRest rest with
          | none => none
          | some text =>
            if text = [':'] || !startsChannel target then none
            else s.channelStores c .privmsg target (dropColon text)

/-- What `command_notice` hands to it. -/
def noticeStores (s : Server) (c : ClientRef) (params : Option Text) : Option (Text × Text) :=
  match params with
  | none => none
  | some params =>
    let named := messageTarget params
    if (s.nospoofHandleNotice c params).isSome then none
    else if !s.versionTargetAllowed c named then none
    else if (s.bannedChannelSend c named).isSome || s.mutedChannelSend c named then none
    else if !(s.client c).registered then none
    else match (strtokSpace params).bind fun words => (strtokRest words.2).map (words.1, ·) with
      | none => none
      | some (target, text) =>
        let text := dropColon text
        if target.contains ',' || text.isEmpty || !startsChannel target then none
        else s.channelStores c .notice target text

end Server

/-- The network with the database of its history. -/
structure HistoryNet where
  server : Server
  history : HistoryDb := {}
  config : HistoryConfig := {}

/-- Messages, and what lets channels end and begin again. -/
inductive HistoryEvent where
  | privmsg (c : ClientRef) (params : Option Text) (nowMs : Int)
  | notice (c : ClientRef) (params : Option Text) (nowMs : Int)
  | join (c : ClientRef) (params : Option Text)
  | part (c : ClientRef) (params : Option Text)
  | disconnect (c : ClientRef) (reason : Text)

def HistoryEvent.isMessage : HistoryEvent → Bool
  | .privmsg _ _ _ | .notice _ _ _ => true
  | _ => false

namespace HistoryNet

/-- The message is stored before it is delivered. -/
def store (w : HistoryNet) (c : ClientRef) (kind : MessageKind) (stored : Option (Text × Text))
    (nowMs : Int) : HistoryDb :=
  match stored with
  | none => w.history
  | some (target, text) =>
      w.history.storeChannelHistory w.config (w.server.client c) kind target text nowMs

def step (services : Server.MessageServices) (w : HistoryNet) : HistoryEvent → HistoryNet
  | .privmsg c params nowMs =>
      { w with history := w.store c .privmsg (w.server.privmsgStores c params) nowMs
               server := Server.commandPrivmsg services w.server c params }
  | .notice c params nowMs =>
      { w with history := w.store c .notice (w.server.noticeStores c params) nowMs
               server := w.server.commandNotice c params }
  | .join c params => { w with server := w.server.commandJoin c params }
  | .part c params => { w with server := w.server.commandPart c params }
  | .disconnect c reason => { w with server := w.server.disconnect c reason }

end HistoryNet

/-! ## 3. CHATHISTORY -/

/-- The answer to CHATHISTORY: a numeric with the texts after the nickname, or records played back,
    with a mark when there are no older ones. -/
inductive HistoryReply where
  | refused (code : Nat) (fields : List Text)
  | played (channel : Text) (complete : Bool) (records : List HistoryRecord)
  deriving DecidableEq, Repr

/-- The messages in it. -/
def HistoryReply.records : HistoryReply → List HistoryRecord
  | .refused _ _ => []
  | .played _ _ records => records

/-- `strtoul(limit_text, &end, 10)` and the checks on it; out of range is `ULONG_MAX`. -/
def requestedLimit (text : Text) : Option Nat :=
  let (negative, body) := splitSign text
  let digits := body.takeWhile (·.isDigit)
  let value := (digitsVal 0 digits).getD 0
  let requested :=
    if 2 ^ 64 ≤ value then 2 ^ 64 - 1 else if negative then (2 ^ 64 - value) % 2 ^ 64 else value
  if digits.isEmpty || !(body.dropWhile (·.isDigit)).isEmpty || requested = 0 then none
  else some requested

/-- The target and the limit of `LATEST <channel> * <limit>`. -/
def latestWords (params : Text) : Option (Text × Text) := do
  let (subcommand, rest) ← strtokSpace params
  let (target, rest) ← strtokSpace rest
  let (reference, rest) ← strtokSpace rest
  let (limit, rest) ← strtokSpace rest
  if (strtokSpace rest).isSome || !isWord subcommand "LATEST" || reference ≠ ['*'] then none
  else some (target, limit)

namespace HistoryNet

def latestUsage : HistoryReply :=
  .refused 461 ["CHATHISTORY LATEST <channel> * <limit>".toList, ":Not enough parameters".toList]

/-- The playback of `command_chathistory`, from the handle on. -/
def playLatest (w : HistoryNet) (name : Text) (limit : Nat) : HistoryReply × HistoryNet :=
  let failed : HistoryReply :=
    .refused 424 [":File error doing reading on ".toList ++ w.config.historyDb]
  match w.history.shared with
  | (false, db) => (failed, { w with history := db })
  | (true, db) =>
    match db.latest name limit with
    | (none, db) => (failed, { w with history := db })
    | (some records, db) => (.played name (records.length < limit) records, { w with history := db })

/-- `command_chathistory`. -/
def commandChathistory (w : HistoryNet) (c : ClientRef) (params : Option Text) :
    HistoryReply × HistoryNet :=
  let cl := w.server.client c
  if !cl.registered then (.refused 451 [":You have not registered".toList], w)
  else if Capability.chathistory ∉ cl.capabilities then
    (.refused 421 ["CHATHISTORY".toList, ":Unknown command".toList], w)
  else match params with
    | none => (.refused 461 ["CHATHISTORY".toList, ":Not enough parameters".toList], w)
    | some params =>
      match latestWords params with
      | none => (latestUsage, w)
      | some (target, limitText) =>
        let missing : HistoryReply := .refused 403 [target, ":No such channel".toList]
        match w.server.findChannel target with
        | none => (missing, w)
        | some ch =>
          if !w.server.inChannel ch c then (missing, w)
          else match requestedLimit limitText with
            | none => (latestUsage, w)
            | some requested =>
              w.playLatest (w.server.channel ch).name
                (min (min requested w.config.historyLimit) ircdHistoryHardLimit)

end HistoryNet

/-! ## 4. Names -/

namespace HistoryDb

variable {db : HistoryDb} {a b : Text}

/-- NOCASE-equal names have the same history. -/
theorem latest_congr (h : strcasecmpEq a b = true) (db : HistoryDb) (limit : Nat) :
    db.latest a limit = db.latest b limit := by
  have hrows : ∀ r : HistoryRecord, nocaseEq r.target a = nocaseEq r.target b :=
    fun r => strcasecmpEq_congr h r.target
  unfold latest selectLatest
  simp only [hrows]

/-- A name gets rows of names that RFC1459 takes for equal. -/
theorem target_of_latest {limit : Nat} {records : List HistoryRecord}
    (h : (db.latest a limit).1 = some records) : ∀ r ∈ records, nameEq r.target a = true := by
  unfold latest at h
  split at h
  · cases h
  split at h
  · cases h
  intro r hr
  dsimp only at h
  obtain ⟨-, hsome⟩ := Option.ite_none_right_eq_some.mp h
  rw [← Option.some.inj hsome, selectLatest] at hr
  have hrow := List.mem_of_mem_take (List.mem_mergeSort.mp hr)
  have htarget := (List.mem_filter.mp (List.mem_mergeSort.mp hrow)).2
  exact nameEq_of_strcasecmpEq htarget

end HistoryDb

/-! ## 5. Runs -/

namespace HistoryNet

variable {w w' : HistoryNet}

/-- A member of `ch` asks for its history. -/
structure Asks (w : HistoryNet) (c : ClientRef) (params : Text) (ch : ChannelRef)
    (limitText : Text) : Prop where
  registered : (w.server.client c).registered = true
  capable : Capability.chathistory ∈ (w.server.client c).capabilities
  member : w.server.inChannel ch c = true
  words : ∃ target, latestWords params = some (target, limitText) ∧ w.server.findChannel target = some ch

/-- What a member is answered depends on the name of the channel, the database and the limit. -/
theorem commandChathistory_of_asks {c : ClientRef} {params limitText : Text} {ch : ChannelRef}
    (h : w.Asks c params ch limitText) :
    (w.commandChathistory c (some params)).1 = (requestedLimit limitText).elim latestUsage
      fun requested => (w.playLatest (w.server.channel ch).name
        (min (min requested w.config.historyLimit) ircdHistoryHardLimit)).1 := by
  obtain ⟨target, hwords, hfind⟩ := h.words
  unfold commandChathistory
  dsimp only
  rw [h.registered, if_neg (by decide), if_neg (by simpa using h.capable), hwords]
  dsimp only
  rw [hfind]
  dsimp only
  rw [h.member, if_neg (by decide)]
  cases requestedLimit limitText <;> rfl

theorem records_playLatest_congr {a b : Text} (h : strcasecmpEq a b = true)
    (hhistory : w'.history = w.history) (limit : Nat) :
    (w.playLatest a limit).1.records = (w'.playLatest b limit).1.records := by
  unfold playLatest
  rw [hhistory]
  obtain ⟨ok, db⟩ := w.history.shared
  cases ok with
  | false => rfl
  | true =>
    dsimp only
    rw [HistoryDb.latest_congr h]
    obtain ⟨records, db'⟩ := db.latest b limit
    cases records <;> rfl

/-- Played back is what was stored for the channel. -/
theorem target_of_playLatest {name : Text} {limit : Nat} {r : HistoryRecord}
    (h : r ∈ (w.playLatest name limit).1.records) : nameEq r.target name = true := by
  unfold playLatest at h
  generalize w.history.shared = opened at h
  obtain ⟨ok, db⟩ := opened
  cases ok with
  | false => exact absurd h List.not_mem_nil
  | true =>
    dsimp only at h
    have htarget : ∀ records, (db.latest name limit).1 = some records →
        ∀ r ∈ records, nameEq r.target name = true := fun records => HistoryDb.target_of_latest
    generalize db.latest name limit = res at h htarget
    obtain ⟨_ | records, db'⟩ := res
    · exact absurd h List.not_mem_nil
    · exact htarget records rfl r h

/-- Without a message nothing is stored. -/
theorem step_of_not_message (services : Server.MessageServices) (w : HistoryNet) {e : HistoryEvent}
    (h : e.isMessage = false) :
    (step services w e).history = w.history ∧ (step services w e).config = w.config := by
  cases e with
  | privmsg | notice => exact absurd h.symm Bool.false_ne_true
  | join | part | disconnect => exact ⟨rfl, rfl⟩

theorem exec_of_no_message (services : Server.MessageServices) (w : HistoryNet)
    {es : List HistoryEvent} (h : ∀ e ∈ es, e.isMessage = false) :
    (Runs.exec (step services) w es).history = w.history ∧
      (Runs.exec (step services) w es).config = w.config := by
  refine Runs.exec_invariant
    (P := fun w' : HistoryNet => w'.history = w.history ∧ w'.config = w.config) ?_ ⟨rfl, rfl⟩
    (Runs.allowed_of_forall w h)
  intro w' e hw' hmessage
  obtain ⟨hhistory, hconfig⟩ := step_of_not_message services w' hmessage
  exact ⟨hhistory.trans hw'.1, hconfig.trans hw'.2⟩

/-- **History belongs to the channel.** After any run, a member is played back only messages that
    were stored for a channel of an RFC1459-equal name. And however channels end and begin again
    after it, a channel whose name has none of the signs that RFC1459 takes for letters has the
    same history under every spelling. -/
theorem history_of_channel_run (services : Server.MessageServices) (w₀ : HistoryNet)
    (es again₁ again₂ : List HistoryEvent) (hagain₁ : ∀ e ∈ again₁, e.isMessage = false)
    (hagain₂ : ∀ e ∈ again₂, e.isMessage = false) :
    let w₁ := Runs.exec (step services) w₀ (es ++ again₁)
    let w₂ := Runs.exec (step services) w₀ (es ++ again₂)
    ∀ c₁ c₂ params₁ params₂ ch₁ ch₂ limitText,
      w₁.Asks c₁ params₁ ch₁ limitText → w₂.Asks c₂ params₂ ch₂ limitText →
      (∀ r ∈ (w₁.commandChathistory c₁ (some params₁)).1.records,
        nameEq r.target (w₁.server.channel ch₁).name = true) ∧
      (nameEq (w₁.server.channel ch₁).name (w₂.server.channel ch₂).name = true →
        (∀ x ∈ (w₂.server.channel ch₂).name, ircFold x ∉ foldedSigns) →
        (w₁.commandChathistory c₁ (some params₁)).1.records =
          (w₂.commandChathistory c₂ (some params₂)).1.records) := by
  intro w₁ w₂ c₁ c₂ params₁ params₂ ch₁ ch₂ limitText hasks₁ hasks₂
  have hsame : w₂.history = w₁.history ∧ w₂.config = w₁.config := by
    obtain ⟨hhistory₁, hconfig₁⟩ := exec_of_no_message services (Runs.exec (step services) w₀ es) hagain₁
    obtain ⟨hhistory₂, hconfig₂⟩ := exec_of_no_message services (Runs.exec (step services) w₀ es) hagain₂
    rw [← Runs.exec_append] at hhistory₁ hconfig₁ hhistory₂ hconfig₂
    exact ⟨hhistory₂.trans hhistory₁.symm, hconfig₂.trans hconfig₁.symm⟩
  rw [commandChathistory_of_asks hasks₁, commandChathistory_of_asks hasks₂]
  cases requestedLimit limitText with
  | none => exact ⟨fun r hr => absurd hr List.not_mem_nil, fun _ _ => rfl⟩
  | some requested =>
    refine ⟨fun r hr => target_of_playLatest hr, fun hname hsigns => ?_⟩
    rw [hsame.2]
    exact records_playLatest_congr (strcasecmpEq_of_nameEq hsigns hname) hsame.1 _

/-- ann, who can ask for history, on a server without channels. -/
def annAlone : HistoryNet where
  server :=
    { Server.initial {} {} {} with
      clients := [0]
      client := fun _ => { id := 1, nick := "ann".toList, user := "a".toList, registered := true
                           displayHost := "host".toList, capabilities := {.chathistory} } }

/-- ann says something in a channel and leaves it, the last one to do so. -/
def spokenIn (name : String) : List HistoryEvent :=
  [.join 0 (some name.toList), .privmsg 0 (some (name.toList ++ " :hello".toList)) 1000,
    .part 0 (some name.toList)]

/-- And asks for what was said under some name. -/
def askedFor (name : String) : Text := "LATEST ".toList ++ name.toList ++ " * 10".toList

/-- `#Chat` comes back as `#chat` with its history. -/
theorem history_of_channel_run_chat :
    ((Runs.exec (step {}) annAlone (spokenIn "#Chat" ++ [.join 0 (some "#chat".toList)])).commandChathistory
      0 (some (askedFor "#chat"))).1.records.map (·.text) = ["hello".toList] := by
  have hcapital : (Runs.exec (step {}) annAlone
      (spokenIn "#Chat" ++ [.join 0 (some "#Chat".toList)])).Asks 0 (askedFor "#Chat") 1 "10".toList :=
    ⟨by decide +kernel, by decide +kernel, by decide +kernel, "#Chat".toList, by decide +kernel,
      by decide +kernel⟩
  have hsmall : (Runs.exec (step {}) annAlone
      (spokenIn "#Chat" ++ [.join 0 (some "#chat".toList)])).Asks 0 (askedFor "#chat") 1 "10".toList :=
    ⟨by decide +kernel, by decide +kernel, by decide +kernel, "#chat".toList, by decide +kernel,
      by decide +kernel⟩
  have hname : ((Runs.exec (step {}) annAlone
      (spokenIn "#Chat" ++ [.join 0 (some "#chat".toList)])).server.channel 1).name = "#chat".toList := by
    decide +kernel
  have hsigns : ∀ x ∈ "#chat".toList, ircFold x ∉ foldedSigns :=
    forall_mem_of_all (by decide)
  have hsame := (history_of_channel_run {} annAlone (spokenIn "#Chat") [.join 0 (some "#Chat".toList)]
    [.join 0 (some "#chat".toList)] (by decide) (by decide) 0 0 (askedFor "#Chat") (askedFor "#chat") 1 1
    "10".toList hcapital hsmall).2 (by decide +kernel) (by rw [hname]; exact hsigns)
  rw [← hsame]
  decide +kernel

/-- `#a[b]` comes back as `#a{b}` and its history is gone, though RFC1459 takes the two names for
    one. -/
theorem history_lost_with_signs :
    nameEq "#a[b]".toList "#a{b}".toList = true ∧
    ((Runs.exec (step {}) annAlone (spokenIn "#a[b]" ++ [.join 0 (some "#a[b]".toList)])).commandChathistory
      0 (some (askedFor "#a[b]"))).1.records.map (·.text) = ["hello".toList] ∧
    ((Runs.exec (step {}) annAlone
      (spokenIn "#a[b]" ++ [.join 0 (some "#a{b}".toList)])).commandChathistory
        0 (some (askedFor "#a{b}"))).1 = .played "#a{b}".toList true [] := by
  refine ⟨by decide +kernel, by decide +kernel, by decide +kernel⟩

end HistoryNet

end ScratchIrcd
