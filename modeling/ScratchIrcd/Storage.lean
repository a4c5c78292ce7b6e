/-
  File:      ScratchIrcd/Storage.lean
  Subject:   chanserv.db: the channel rows (src/chanserv_db.c) and the runtime tables
             (src/chanserv_persist.c).

  One answer of `io` is the outcome of one SQL statement: preparing and stepping it fail alike
  except where the source tells them apart. A value the source refuses to copy out of a column
  is a failed read, decided by the data and not by `io`.
-/
import ScratchIrcd.State

namespace ScratchIrcd

open CText

/-! ## 1. Texts -/

/-- `text_fits`, and `text_arg_fits` with `allow_empty`. -/
def textFits (maximum : Nat) (t : Text) : Bool :=
  decide (t.length ≤ maximum) && !t.any isLineBreak

/-- `copy_text_column`, `copy_stmt_text`: the column fits a buffer of `maximum + 1` bytes. -/
def columnFits (maximum : Nat) (t : Text) : Bool :=
  textFits maximum t && !t.contains '\x00'

/-- `IRC_CHANNEL_TOPIC_MAX`, `IRC_CHANNEL_TOPIC_SETTER_MAX`, `IRCD_CHANSERV_DESCRIPTION_MAX`. -/
def ircChannelTopicMax : Nat := 390
def ircChannelTopicSetterMax : Nat := ircNickMax + ircUserMax + ircHostMax + 3
def ircdChanservDescriptionMax : Nat := 255

/-- `channel_arg_fits`, `account_arg_fits`. -/
def channelArgFits (name : Text) : Bool := !name.isEmpty && textFits ircChannelNameMax name
def accountArgFits (account : Text) : Bool := !account.isEmpty && textFits ircNickMax account

namespace Storage

/-- The outcome of the next statement. -/
def ioOk (d : Storage) : Bool := d.io d.ioPos

/-- One statement was issued. -/
def tick (d : Storage) : Storage := { d with ioPos := d.ioPos + 1 }

/-- Issue a statement: its outcome, and the storage after it. -/
def issue (d : Storage) : Bool × Storage := (d.ioOk, d.tick)

end Storage

/-! ## 2. Channel rows -/

/-- Every text column of the row fits the record `chanserv_db_get` copies it into. -/
def ChanServChannel.readable (r : ChanServChannel) : Bool :=
  columnFits ircChannelNameMax r.name && columnFits ircNickMax r.founder &&
    columnFits ircdChanservDescriptionMax r.description &&
    columnFits ircChannelTopicMax r.topic &&
    columnFits ircChannelTopicSetterMax r.topicSetter.text &&
    columnFits ircNickMax r.successor && columnFits ircChannelTopicMax r.greeting

/-- The row of a channel: `name` has collation IRCNOCASE and is the primary key. -/
def ChanServStore.row (st : ChanServStore) (name : Text) : Option ChanServChannel :=
  st.channels.find? fun r => nameEq r.name name

/-- Does `a COLLATE NOCASE = b` hold? SQLite's NOCASE folds ASCII letters. -/
def nocaseEq (a b : Text) : Bool := strcasecmpEq a b

/-- The access row of an account on a channel. -/
def ChanServStore.accessRow (st : ChanServStore) (name account : Text) : Option ChanServAccess :=
  st.access.find? fun a => nameEq a.channel name && nocaseEq a.account account

namespace Storage

/-- `chanserv_db_open`. -/
def chanservDbOpen (d : Storage) : Bool × Storage := d.issue

/-- `chanserv_db_get`: `none` is −1, `some none` is 0. -/
def chanservDbGet (d : Storage) (name : Text) : Option (Option ChanServChannel) × Storage :=
  if !channelArgFits name then (none, d)
  else if !d.ioOk then (none, d.tick)
  else match d.chanserv.row name with
    | none => (some none, d.tick)
    | some r => (if r.readable then some (some r) else none, d.tick)

/-- `chanserv_db_access_get`: `some` of the level when the row was found. -/
def chanservDbAccessGet (d : Storage) (name account : Text) : Option AccessLevel × Storage :=
  if !channelArgFits name || !accountArgFits account then (none, d)
  else if !d.ioOk then (none, d.tick)
  else ((d.chanserv.accessRow name account).map (·.level), d.tick)

/-! ## 3. The shared connection of chanserv_persist.c -/

/-- `open_shared`. -/
def openShared (d : Storage) : Bool × Storage :=
  if d.chanserv.sharedOpen then (true, d)
  else if d.ioOk then (true, { d.tick with chanserv := { d.chanserv with sharedOpen := true } })
  else (false, d.tick)

/-- `DROP TABLE channel_masks` when the probe did not find an INTEGER `type` column, and then
    `CREATE TABLE IF NOT EXISTS channel_masks`. -/
def rebuildMasks (d : Storage) (drop : Bool) : Bool × Storage :=
  if drop && !d.ioOk then (false, d.tick)
  else
    let d := if drop then
        { d.tick with chanserv := { d.chanserv with
            tables := { runtime := d.chanserv.tables.runtime }, maskTable := false } }
      else d
    if !d.ioOk then (false, d.tick)
    else (true, { d.tick with chanserv := { d.chanserv with maskTable := true } })

/-- `ensure_schema`. A probe of `sqlite_master` that fails while stepping counts as "no such
    table", and a failed `PRAGMA table_info` as "not numeric". -/
def ensureSchema (d : Storage) : Bool × Storage :=
  if !d.ioOk then (false, d.tick)
  else if !d.tick.ioOk then (false, d.tick.tick)
  else
    let exist := d.tick.tick.ioOk && d.chanserv.maskTable
    let d := d.tick.tick.tick
    -- `mask_schema_is_numeric` is `ioOk`: the column is INTEGER whenever it can be read
    if exist then d.tick.rebuildMasks (!d.ioOk) else d.rebuildMasks false

/-- `chanserv_persist_init`, `ready_db`. -/
def readyDb (d : Storage) : Bool × Storage :=
  let (opened, d) := d.openShared
  if !opened then (false, d)
  else if d.chanserv.schemaReady then (true, d)
  else
    let (ok, d) := d.ensureSchema
    if ok then (true, { d with chanserv := { d.chanserv with schemaReady := true } })
    else (false, d)

end Storage

/-- What the shared connection reads: an open transaction sees its own writes. -/
def ChanServStore.view (st : ChanServStore) : RuntimeTables := st.pending.getD st.tables

/-! ## 4. Saving -/

/-- The text columns of `chanserv_persist_save`, and the range of SQLite's INTEGER. -/
def Channel.storable (ch : Channel) : Bool :=
  textFits ircChannelNameMax ch.name && textFits ircChannelKeyMax ch.key &&
    textFits ircChannelNameMax ch.limitRedirect && textFits ircChannelNameMax ch.banRedirect &&
    decide (ch.userLimit < 2 ^ 63)

/-- The mask list of each kind. -/
def Channel.maskList (ch : Channel) : MaskKind → List MaskEntry
  | .ban => ch.banList
  | .exception => ch.exceptionList
  | .invex => ch.inviteExceptionList

/-- `save_masks` for one list: the rows it inserts. -/
def maskRows (name : Text) (kind : MaskKind) (l : List MaskEntry) : List MaskRow :=
  l.map fun e => { channel := name, kind := kind, mask := e.mask, authorized := e.protectedAuthorized }

/-- Every row `chanserv_persist_save` inserts for a channel, in order. -/
def Channel.allMaskRows (ch : Channel) : List MaskRow :=
  maskRows ch.name .ban ch.banList ++ maskRows ch.name .exception ch.exceptionList ++
    maskRows ch.name .invex ch.inviteExceptionList

/-- No row is refused: each mask fits, and no two rows have the same primary key. -/
structure Channel.MasksStorable (ch : Channel) : Prop where
  fits : ∀ kind, ∀ e ∈ ch.maskList kind, textFits ircChannelMaskMax e.mask = true
  nodup : ∀ kind, ((ch.maskList kind).map (·.mask)).Nodup

instance (ch : Channel) : Decidable ch.MasksStorable :=
  decidable_of_iff (∀ kind ∈ [MaskKind.ban, .exception, .invex],
      (∀ e ∈ ch.maskList kind, textFits ircChannelMaskMax e.mask = true) ∧
        ((ch.maskList kind).map (·.mask)).Nodup) <| by
    constructor
    · intro h
      exact ⟨fun kind => (h kind (by cases kind <;> simp)).1,
        fun kind => (h kind (by cases kind <;> simp)).2⟩
    · intro h kind _
      exact ⟨h.fits kind, h.nodup kind⟩

/-- The row `INSERT ... ON CONFLICT(channel) DO UPDATE` writes. -/
def Channel.runtimeRow (ch : Channel) (name : Text) : RuntimeRow :=
  { channel := name, key := ch.key, userLimit := ch.userLimit
    joinCount := ch.joinThrottleCount, joinSeconds := ch.joinThrottleSeconds
    limitRedirect := ch.limitRedirect, banRedirect := ch.banRedirect }

namespace RuntimeTables

/-- The runtime row of a channel. -/
def runtimeOf (t : RuntimeTables) (name : Text) : Option RuntimeRow :=
  t.runtime.find? fun r => nameEq r.channel name

/-- The mask rows of a channel, in rowid order. -/
def masksOf (t : RuntimeTables) (name : Text) : List MaskRow :=
  t.masks.filter fun r => nameEq r.channel name

/-- The rows of one list differ in their masks, rows of different lists in their kind. -/
theorem allMaskRows_unique {ch : Channel} (h : ch.MasksStorable) :
    ch.allMaskRows.Pairwise fun a b => ¬ a.sameKey b := by
  have one : ∀ kind, (maskRows ch.name kind (ch.maskList kind)).Pairwise
      fun a b => ¬ a.sameKey b := by
    intro kind
    rw [maskRows, List.pairwise_map]
    exact (List.pairwise_map.mp (h.nodup kind)).imp fun hne hkey => hne hkey.2.2
  have apart : ∀ {k k' l l'}, k ≠ k' → ∀ a ∈ maskRows ch.name k l, ∀ b ∈ maskRows ch.name k' l',
      ¬ a.sameKey b := by
    intro k k' l l' hk a ha b hb hkey
    obtain ⟨_, _, rfl⟩ := List.mem_map.mp ha
    obtain ⟨_, _, rfl⟩ := List.mem_map.mp hb
    exact hk hkey.2.1
  rw [Channel.allMaskRows, List.pairwise_append, List.pairwise_append]
  refine ⟨⟨one .ban, one .exception, apart (by decide)⟩, one .invex, ?_⟩
  intro a ha b hb
  rcases List.mem_append.mp ha with ha | ha
  · exact apart (by decide) a ha b hb
  · exact apart (by decide) a ha b hb

/-- Everything one successful `chanserv_persist_save` writes: the upserted row keeps its
    `channel` column, the channel's masks are deleted and the three lists inserted. -/
def store (t : RuntimeTables) (ch : Channel) (h : ch.MasksStorable) : RuntimeTables where
  runtime :=
    if t.runtime.any (fun r => nameEq r.channel ch.name) then
      t.runtime.map fun r => if nameEq r.channel ch.name then ch.runtimeRow r.channel else r
    else t.runtime ++ [ch.runtimeRow ch.name]
  masks := t.masks.filter (fun r => !nameEq r.channel ch.name) ++ ch.allMaskRows
  masks_unique := by
    refine List.pairwise_append.mpr ⟨t.masks_unique.filter _, allMaskRows_unique h, ?_⟩
    intro a ha b hb hkey
    have hb' : b.channel = ch.name := by
      simp only [Channel.allMaskRows, maskRows, List.mem_append, List.mem_map] at hb
      rcases hb with (⟨_, _, rfl⟩ | ⟨_, _, rfl⟩) | ⟨_, _, rfl⟩ <;> rfl
    have hname : nameEq a.channel ch.name = true := hb' ▸ hkey.1
    simp [hname] at ha

end RuntimeTables

namespace Storage

/-- The statements of `chanserv_persist_save` from BEGIN to COMMIT. BEGIN fails inside an open
    transaction; the upsert needs the parent row in `channels`; a failed COMMIT leaves the
    transaction open. -/
def saveTransaction (d : Storage) (ch : Channel) : Bool × Storage :=
  if !d.ioOk || d.chanserv.pending.isSome then (false, d.tick)                   -- BEGIN IMMEDIATE
  else if !d.tick.ioOk || (d.chanserv.row ch.name).isNone then (false, d.tick.tick)  -- upsert
  else if !d.tick.tick.ioOk then (false, d.tick.tick.tick)                       -- DELETE
  else
    let d := d.tick.tick.tick
    if h : d.ioOk = true ∧ ch.MasksStorable then                                 -- the INSERTs
      let stored := d.chanserv.tables.store ch h.2
      if d.tick.ioOk then                                                        -- COMMIT
        (true, { d.tick.tick with chanserv := { d.chanserv with tables := stored } })
      else (false, { d.tick.tick with chanserv := { d.chanserv with pending := some stored } })
    else (false, d.tick)

/-- `chanserv_persist_save`. -/
def persistSave (d : Storage) (ch : Channel) : Bool × Storage :=
  if !ch.storable then (false, d)
  else
    let (ready, d) := d.readyDb
    if !ready then (false, d) else d.saveTransaction ch

/-- `chanserv_persist_channel`: only a +r channel is saved, and a failure is ignored. -/
def persistChannel (d : Storage) (ch : Channel) : Storage :=
  if ch.isRegistered then (d.persistSave ch).2 else d

end Storage

/-! ## 5. Restoring -/

/-- The nine assignments at the start and in the failure path of `chanserv_persist_restore`. -/
def Channel.clearRuntime (ch : Channel) : Channel :=
  { ch with
    key := [], userLimit := 0, joinThrottleCount := 0, joinThrottleSeconds := 0
    limitRedirect := [], banRedirect := []
    banList := [], exceptionList := [], inviteExceptionList := [] }

/-- The runtime row passes the checks: texts fit, numbers are in the range of their type. -/
def RuntimeRow.readable (r : RuntimeRow) : Bool :=
  columnFits ircChannelKeyMax r.key && columnFits ircChannelNameMax r.limitRedirect &&
    columnFits ircChannelNameMax r.banRedirect && decide (0 ≤ r.userLimit) &&
    decide (0 ≤ r.joinCount ∧ r.joinCount < 2 ^ 32) &&
    decide (0 ≤ r.joinSeconds ∧ r.joinSeconds < 2 ^ 32)

/-- Copy a runtime row into the channel. -/
def Channel.withRuntimeRow (ch : Channel) (r : RuntimeRow) : Channel :=
  { ch with
    key := r.key, userLimit := r.userLimit.toNat, joinThrottleCount := r.joinCount.toNat
    joinThrottleSeconds := r.joinSeconds.toNat
    limitRedirect := r.limitRedirect, banRedirect := r.banRedirect }

/-- Replace the mask list of one kind. -/
def Channel.setMaskList (ch : Channel) (kind : MaskKind) (l : List MaskEntry) : Channel :=
  match kind with
  | .ban => { ch with banList := l }
  | .exception => { ch with exceptionList := l }
  | .invex => { ch with inviteExceptionList := l }

/-- One turn of the loop in `restore_masks`. -/
def Channel.restoreMask (ch : Channel) (r : MaskRow) : Option Channel :=
  if !columnFits ircChannelMaskMax r.mask || r.mask.isEmpty then none
  else match maskAddAuthorized (ch.maskList r.kind) r.mask r.authorized with
    | .ok l => some (ch.setMaskList r.kind l)
    | .error _ => none

/-- `restore_masks`, for rows that could be read. -/
def Channel.restoreMasks (ch : Channel) (rows : List MaskRow) : Option Channel :=
  rows.foldlM Channel.restoreMask ch

/-- What the two tables hold for a channel, put into the record; `none` when a value is refused. -/
def Channel.restoreFrom (ch : Channel) (t : RuntimeTables) : Option Channel :=
  match t.runtimeOf ch.name with
  | none => ch.clearRuntime.restoreMasks (t.masksOf ch.name)
  | some r =>
      if r.readable then (ch.clearRuntime.withRuntimeRow r).restoreMasks (t.masksOf ch.name)
      else none

namespace Storage

/-- `chanserv_persist_restore`: success, the channel as it leaves it, and the storage. Once the
    database is ready a failure leaves every field it covers empty. -/
def persistRestore (d : Storage) (ch : Channel) : Bool × Channel × Storage :=
  if !textFits ircChannelNameMax ch.name then (false, ch, d)
  else
    let (ready, d) := d.readyDb
    if !ready then (false, ch, d)
    else if !d.ioOk then (false, ch.clearRuntime, d.tick)
    else if !(d.chanserv.view.runtimeOf ch.name).all (·.readable) then
      (false, ch.clearRuntime, d.tick)
    else if !d.tick.ioOk then (false, ch.clearRuntime, d.tick.tick)
    else match ch.restoreFrom d.chanserv.view with
      | some ch' => (true, ch', d.tick.tick)
      | none => (false, ch.clearRuntime, d.tick.tick)

end Storage

end ScratchIrcd
