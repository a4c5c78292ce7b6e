/-
  File:      ScratchIrcd/ServiceDb.lean
  Subject:   What the services write: the channel rows and the access list (src/chanserv_db.c), and
             the accounts (src/nickserv_db.c).

  One answer of `io` is one statement, as in Storage.lean. NickServ keeps its connection open
  between commands; asking for it is one statement here each time, and an answer `true` is also
  what a connection that is open already gives. A text is bound up to its first NUL.
-/
import ScratchIrcd.Policy

namespace ScratchIrcd

open CText

/-- `IRCD_CHANSERV_REGISTRATION_HARD_MAX`, `IRCD_CHANSERV_ACCESS_HARD_MAX`. -/
def ircdChanservRegistrationHardMax : Nat := 50000
def ircdChanservAccessHardMax : Nat := 256

/-- `IRCD_NICKSERV_ACCOUNT_HARD_MAX`. -/
def ircdNickservAccountHardMax : Nat := 100000

/-! ## 1. Channel rows -/

/-- The two tables without the rows of a channel: `ON DELETE CASCADE`. -/
def RuntimeTables.dropChannel (t : RuntimeTables) (name : Text) : RuntimeTables where
  runtime := t.runtime.filter fun r => !nameEq r.channel name
  masks := t.masks.filter fun r => !nameEq r.channel name
  masks_unique := t.masks_unique.filter _

namespace ChanServStore

/-- `UPDATE channels SET ... WHERE name=?`. -/
def mapRow (st : ChanServStore) (name : Text) (f : ChanServChannel → ChanServChannel) :
    ChanServStore :=
  { st with channels := st.channels.map fun r => if nameEq r.name name then f r else r }

/-- `DELETE FROM channels WHERE name=?`, with what refers to the row. -/
def dropRow (st : ChanServStore) (name : Text) : ChanServStore :=
  { st with
    channels := st.channels.filter fun r => !nameEq r.name name
    access := st.access.filter fun a => !nameEq a.channel name
    tables := st.tables.dropChannel name }

/-- `DELETE FROM access WHERE channel=? AND account=?`. -/
def dropAccess (st : ChanServStore) (name account : Text) : ChanServStore :=
  { st with access := st.access.filter fun a => !(nameEq a.channel name && nocaseEq a.account account) }

/-- `INSERT INTO access ... ON CONFLICT(channel,account) DO UPDATE SET level`. -/
def setAccess (st : ChanServStore) (name account : Text) (level : AccessLevel) : ChanServStore :=
  if (st.accessRow name account).isSome then
    { st with access := st.access.map fun a =>
        if nameEq a.channel name && nocaseEq a.account account then { a with level := level } else a }
  else { st with access := st.access ++ [{ channel := name, account := account, level := level }] }

end ChanServStore

namespace Storage

/-- An UPDATE of the row of a channel; it fails when no row has that name. -/
def updateRow (d : Storage) (name : Text) (f : ChanServChannel → ChanServChannel) :
    Bool × Storage :=
  if !channelArgFits name then (false, d)
  else if !d.ioOk then (false, d.tick)
  else ((d.chanserv.row name).isSome, { d.tick with chanserv := d.chanserv.mapRow name f })

/-- `chanserv_db_set_description`. -/
def chanservDbSetDescription (d : Storage) (name description : Text) : Bool × Storage :=
  if !textFits ircdChanservDescriptionMax description then (false, d)
  else d.updateRow name fun r => { r with description := cString description }

/-- `chanserv_db_set_founder`. -/
def chanservDbSetFounder (d : Storage) (name founder : Text) : Bool × Storage :=
  if !accountArgFits founder then (false, d)
  else d.updateRow name fun r => { r with founder := cString founder }

/-- `chanserv_db_set_enabled`. -/
def chanservDbSetEnabled (d : Storage) (name : Text) (enabled : Bool) : Bool × Storage :=
  d.updateRow name fun r => { r with enabled := enabled }

/-- `chanserv_db_set_mode_lock`. -/
def chanservDbSetModeLock (d : Storage) (name : Text) (lock : ChannelModeSet) : Bool × Storage :=
  d.updateRow name fun r => { r with modeLock := lock }

/-- `chanserv_db_set_topic`. -/
def chanservDbSetTopic (d : Storage) (name topic : Text) (setter : Field) (time : Nat) :
    Bool × Storage :=
  if !textFits ircChannelTopicMax topic || !textFits ircChannelTopicSetterMax setter.text then
    (false, d)
  else d.updateRow name fun r => { r with
    topic := cString topic, topicSetter := { setter with text := cString setter.text }
    topicTime := time }

/-- `chanserv_db_set_secure_ops`. -/
def chanservDbSetSecureOps (d : Storage) (name : Text) (enabled : Bool) : Bool × Storage :=
  d.updateRow name fun r => { r with secureOps := enabled }

/-- `chanserv_db_set_successor`. -/
def chanservDbSetSuccessor (d : Storage) (name successor : Text) : Bool × Storage :=
  if !successor.isEmpty && !accountArgFits successor then (false, d)
  else d.updateRow name fun r => { r with successor := cString successor }

/-- `chanserv_db_set_greeting`. -/
def chanservDbSetGreeting (d : Storage) (name greeting : Text) : Bool × Storage :=
  if !textFits ircChannelTopicMax greeting then (false, d)
  else d.updateRow name fun r => { r with greeting := cString greeting }

/-- `chanserv_db_create` at a time of day: the primary key refuses a name that has a row. -/
def chanservDbCreate (d : Storage) (name founder description : Text) (now : Nat) :
    Bool × Storage :=
  if !channelArgFits name || !accountArgFits founder ||
      !textFits ircdChanservDescriptionMax description then (false, d)
  else if !d.ioOk || decide (ircdChanservRegistrationHardMax ≤ d.chanserv.channels.length) ||
      (d.chanserv.row name).isSome then (false, d.tick)
  else
    let row : ChanServChannel :=
      { name := cString name, founder := cString founder, description := cString description
        createdAt := now }
    (true, { d.tick with
      chanserv := { d.chanserv with channels := d.chanserv.channels ++ [row] } })

/-- `chanserv_db_delete`. -/
def chanservDbDelete (d : Storage) (name : Text) : Bool × Storage :=
  if !channelArgFits name then (false, d)
  else if !d.ioOk || (d.chanserv.row name).isNone then (false, d.tick)
  else (true, { d.tick with chanserv := d.chanserv.dropRow name })

/-! ## 2. The access list -/

/-- `chanserv_db_access_set`: a new entry needs room in the channel's list and the channel's
    row. -/
def chanservDbAccessSet (d : Storage) (name account : Text) (level : AccessLevel) :
    Bool × Storage :=
  let listed := (d.chanserv.accessRow name account).isSome
  let held := (d.chanserv.access.filter fun a => nameEq a.channel name).length
  if !channelArgFits name || !accountArgFits account then (false, d)
  else if !d.ioOk || (!listed && decide (ircdChanservAccessHardMax ≤ held)) ||
      (d.chanserv.row name).isNone then (false, d.tick)
  else (true, { d.tick with chanserv := d.chanserv.setAccess (cString name) (cString account) level })

/-- `chanserv_db_access_delete`. -/
def chanservDbAccessDelete (d : Storage) (name account : Text) : Bool × Storage :=
  if !channelArgFits name || !accountArgFits account then (false, d)
  else if !d.ioOk then (false, d.tick)
  else ((d.chanserv.accessRow name account).isSome,
    { d.tick with chanserv := d.chanserv.dropAccess name account })

/-! ## 3. Accounts -/

end Storage

/-- Every text column fits the record `nickserv_db_get` copies it into. -/
def NickServAccount.readable (a : NickServAccount) : Bool :=
  !a.name.isEmpty && columnFits ircNickMax a.name && !a.passwordHash.isEmpty &&
    columnFits ircdOperHashMax a.passwordHash && columnFits ircHostMax a.vhost

namespace Storage

/-- The account of a name: `name` has collation NOCASE and is the primary key. -/
def account (d : Storage) (name : Text) : Option NickServAccount :=
  d.nickserv.find? fun a => nocaseEq a.name name

/-- `nickserv_db_open`, which refuses a database with a vhost that is too long. -/
def nickservDbOpen (d : Storage) : Bool × Storage :=
  (d.ioOk && d.nickserv.all fun a => decide (a.vhost.length ≤ ircHostMax), d.tick)

/-- `nickserv_db_get`: `none` is −1, `some none` is 0. -/
def nickservDbGet (d : Storage) (name : Text) : Option (Option NickServAccount) × Storage :=
  if !accountArgFits name then (none, d)
  else if !d.ioOk then (none, d.tick)
  else match d.account name with
    | none => (some none, d.tick)
    | some a => (if a.readable then some (some a) else none, d.tick)

/-- `nickserv_db_add`; it counts the accounts first. -/
def nickservDbAdd (d : Storage) (a : NickServAccount) : Bool × Storage :=
  if !accountArgFits a.name || a.passwordHash.isEmpty || !textFits ircdOperHashMax a.passwordHash ||
      !textFits ircHostMax a.vhost then (false, d)
  else if !d.ioOk || decide (ircdNickservAccountHardMax ≤ d.nickserv.length) then (false, d.tick)
  else if !d.tick.ioOk || (d.account a.name).isSome then (false, d.tick.tick)
  else (true, { d.tick.tick with nickserv := d.nickserv ++ [{ a with
    name := cString a.name, passwordHash := cString a.passwordHash, vhost := cString a.vhost }] })

/-- An UPDATE of one account; it fails when there is none of that name. -/
def updateAccount (d : Storage) (name : Text) (f : NickServAccount → NickServAccount) :
    Bool × Storage :=
  if !accountArgFits name then (false, d)
  else if !d.ioOk then (false, d.tick)
  else ((d.account name).isSome, { d.tick with
    nickserv := d.nickserv.map fun a => if nocaseEq a.name name then f a else a })

/-- `nickserv_db_set_password`. -/
def nickservDbSetPassword (d : Storage) (name hash : Text) : Bool × Storage :=
  if hash.isEmpty || !textFits ircdOperHashMax hash then (false, d)
  else d.updateAccount name fun a => { a with passwordHash := cString hash }

/-- `nickserv_db_set_vhost`. -/
def nickservDbSetVhost (d : Storage) (name vhost : Text) : Bool × Storage :=
  if !textFits ircHostMax vhost then (false, d)
  else d.updateAccount name fun a => { a with vhost := cString vhost }

/-- `nickserv_db_set_enabled`. -/
def nickservDbSetEnabled (d : Storage) (name : Text) (enabled : Bool) : Bool × Storage :=
  d.updateAccount name fun a => { a with enabled := enabled }

/-- `nickserv_db_set_last_identified`. -/
def nickservDbSetLastIdentified (d : Storage) (name : Text) (time : Nat) : Bool × Storage :=
  if time = 0 then (false, d) else d.updateAccount name fun a => { a with lastIdentifiedAt := time }

/-- `nickserv_db_delete`. -/
def nickservDbDelete (d : Storage) (name : Text) : Bool × Storage :=
  if !accountArgFits name then (false, d)
  else if !d.ioOk then (false, d.tick)
  else ((d.account name).isSome,
    { d.tick with nickserv := d.nickserv.filter fun a => !nocaseEq a.name name })

/-! ## 4. When every statement succeeds -/

/-- No statement fails. -/
def Works (d : Storage) : Prop := ∀ n, d.io n = true

namespace Works

variable {d : Storage} (h : d.Works)

include h

theorem ioOk : d.ioOk = true := h _

theorem chanservDbOpen : d.chanservDbOpen = (true, d.tick) := by
  rw [Storage.chanservDbOpen, Storage.issue, h.ioOk]

theorem chanservDbGet {name : Text} {r : ChanServChannel} (hname : channelArgFits name = true)
    (hrow : d.chanserv.row name = some r) (hread : r.readable = true) :
    d.chanservDbGet name = (some (some r), d.tick) := by
  unfold Storage.chanservDbGet
  rw [hname, h.ioOk, hrow]
  simp [hread]

theorem updateRow {name : Text} (hname : channelArgFits name = true)
    (f : ChanServChannel → ChanServChannel) : d.updateRow name f =
      ((d.chanserv.row name).isSome, { d.tick with chanserv := d.chanserv.mapRow name f }) := by
  unfold Storage.updateRow
  rw [hname, h.ioOk]
  rfl

end Works

end Storage

end ScratchIrcd
