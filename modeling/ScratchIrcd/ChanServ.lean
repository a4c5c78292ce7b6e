/-
  File:      ScratchIrcd/ChanServ.lean
  Subject:   The commands of ChanServ (src/chanserv.c), the CHANSERV command around them
             (src/commands/chanserv.c), and what network administrators do to registrations:
             CSSET and CSDROP (src/commands/chanserv_admin.c).

  SET writes the row first and then the fields of the live channel one by one; which fields, and
  whether the loaded flag is among them, differs from setting to setting. The log files behind
  SET LOGGING are not modelled, its column is.
-/
import ScratchIrcd.Mode
import ScratchIrcd.ServiceDb

namespace ScratchIrcd

open CText

/-! ## 1. Letters -/

/-- The letters `persistent_mode_mask` and `broadcast_service_mode_change` go through. -/
def persistentLetters : Text := "AciKMmnOpRStTVz".toList

/-- `persistent_mode_bit`. -/
def persistentModeBit (letter : Char) : Option ChannelMode := booleanBit letter

/-- `persistent_mode_mask`. -/
def persistentModeMask : ChannelModeSet := (persistentLetters.filterMap persistentModeBit).toFinset

/-- `parse_mode_lock`: `none` for a letter that is no persistent mode. -/
def parseModeLock (text : Text) : Option ChannelModeSet :=
  (signedLetters true text).foldlM (fun lock l => (persistentModeBit l.2).map fun bit =>
    if l.1 then insert bit lock else lock.erase bit) ∅

/-- The loop of `broadcast_service_mode_change` over the letters left; `sign` is the last one
    written. Fifteen letters never fill its buffer of 64 bytes. -/
def modeDifference (before after : ChannelModeSet) (sign : Option Bool) : Text → Text
  | [] => []
  | letter :: rest =>
      match persistentModeBit letter with
      | none => modeDifference before after sign rest
      | some bit =>
          let on := decide (bit ∈ after)
          if decide (bit ∈ before) == on then modeDifference before after sign rest
          else (if sign = some on then [] else [signChar on]) ++
            letter :: modeDifference before after (some on) rest

/-- The changes `broadcast_service_mode_change` announces. -/
def serviceModeChange (before after : ChannelModeSet) : Text :=
  modeDifference (before ∩ persistentModeMask) (after ∩ persistentModeMask) none persistentLetters

/-- `strcasecmp(text, "...") == 0`. -/
def isWord (text : Text) (word : String) : Bool := strcasecmpEq text word.toList

/-- A word is equal to one word only. -/
theorem isWord_false {text : Text} {a : String} (h : isWord text a = true) {b : String}
    (hab : strcasecmpEq a.toList b.toList = false) : isWord text b = false := by
  by_contra hb
  rw [Bool.not_eq_false] at hb
  have heq : strcasecmpEq a.toList b.toList = true := foldEq_trans (foldEq_symm h) hb
  rw [heq] at hab
  cases hab

/-- `parse_access`. -/
def parseAccess (text : Text) : Option AccessLevel :=
  if isWord text "OWNER" then some .owner
  else if isWord text "PROTECTED" then some .protect
  else if isWord text "OP" then some .op
  else if isWord text "HALFOP" then some .halfop
  else if isWord text "VOICE" then some .voice
  else none

/-- `access_name`. -/
def AccessLevel.name : AccessLevel → String
  | .owner => "OWNER"
  | .protect => "PROTECTED"
  | .op => "OP"
  | .halfop => "HALFOP"
  | .voice => "VOICE"

/-- The number of a `ChanServAccessLevel`. -/
def AccessLevel.rank : AccessLevel → Nat
  | .voice => 1
  | .halfop => 2
  | .op => 3
  | .protect => 4
  | .owner => 5

/-- The bit of a channel mode in its 64-bit word. -/
def ChannelMode.index : ChannelMode → Nat
  | .adminOnly => 0 | .noColor => 1 | .inviteOnly => 2 | .noKnock => 3 | .regonlySpeak => 4
  | .moderated => 5 | .noExternal => 6 | .operOnly => 7 | .privateChan => 8 | .registered => 9
  | .regonlyJoin => 10 | .stripColor => 11 | .secret => 12 | .topicLock => 13 | .noNotice => 14
  | .noInvite => 15 | .secureOnly => 16

/-- `0x%llx` of a mode word. -/
def modeWordHex (modes : ChannelModeSet) : Text :=
  "0x".toList ++ Nat.toDigits 16 (((channelModeLetters.filter fun x => x.2 ∈ modes).map
    fun x => 2 ^ x.2.index).sum)

/-- `valid_channel_name` of chanserv.c. -/
def validChannelName (name : Text) : Bool :=
  startsChannel name && decide (name.length ≤ ircChannelNameMax) && !name.contains ' '

/-- What REGISTER sets on the live channel. The cached flags it does not name stay. -/
def Channel.register (ch : Channel) (founder : Text) : Channel :=
  { ch with
    chanservPolicyLoaded := true
    chanservPolicyValid := true
    chanservFounder := cString founder
    chanservModeLock := ∅
    modes := insert ChannelMode.registered ch.modes }

/-! ## 2. Notices and broadcasts -/

namespace Server

/-- A notice cut into lines that fit; nothing when the frame leaves no room. -/
def chunkedNotice (s : Server) (source : Source) (c : ClientRef) (text : Text) : Server :=
  let line (piece : Text) : Line := ⟨source, .notice (s.client c).nick piece⟩
  let frame := ((line []).wire s.config.serverName).length
  if ircLineContentMax ≤ frame then s
  else s.deliver ((chunksOf (ircLineContentMax - frame) text.length text).map fun p => (c, line p))

/-- `cs_notice`. -/
def csNotice (s : Server) (c : ClientRef) (text : Text) : Server :=
  s.chunkedNotice (.service "ChanServ".toList) c text

/-- `notice` of chanserv_admin.c and nickserv_admin.c. -/
def adminNotice (s : Server) (c : ClientRef) (text : String) : Server :=
  s.chunkedNotice .server c text.toList

theorem chunkedNotice_replies (s : Server) {source : Source} (c : ClientRef) (text : Text)
    (h : ∀ nick piece, (⟨source, .notice nick piece⟩ : Line).isReply = true) :
    ∃ ds, Replies ds ∧ s.chunkedNotice source c text = s.deliver ds := by
  unfold chunkedNotice
  dsimp only
  split
  · have hnone : Replies [] := fun d hd => nomatch hd
    exact ⟨[], hnone, by rw [deliver, List.map_nil, List.append_nil]⟩
  · refine ⟨_, fun d hd => ?_, rfl⟩
    obtain ⟨p, -, rfl⟩ := List.mem_map.mp hd
    exact h _ _

theorem csNotice_replies (s : Server) (c : ClientRef) (text : Text) :
    ∃ ds, Replies ds ∧ s.csNotice c text = s.deliver ds :=
  s.chunkedNotice_replies c text fun _ _ => rfl

theorem adminNotice_replies (s : Server) (c : ClientRef) (text : String) :
    ∃ ds, Replies ds ∧ s.adminNotice c text = s.deliver ds :=
  s.chunkedNotice_replies c text.toList fun _ _ => rfl

/-- A MODE line of ChanServ to everyone in the channel. -/
def serviceMode (s : Server) (ch : ChannelRef) (changes : Text) : Server :=
  s.broadcast ch none ⟨.service "ChanServ".toList, .mode (s.channel ch).name changes⟩

/-- `broadcast_service_mode_change`. -/
def broadcastServiceModeChange (s : Server) (ch : ChannelRef) (before after : ChannelModeSet) :
    Server :=
  let changes := serviceModeChange before after
  if changes.isEmpty then s else s.serviceMode ch changes

/-- `broadcast_service_topic_change`. -/
def broadcastServiceTopicChange (s : Server) (ch : ChannelRef) : Server :=
  s.broadcast ch none ⟨.service "ChanServ".toList, .topic (s.channel ch).name (s.channel ch).topic⟩

/-- `sync_account_privileges`. -/
def syncAccount (s : Server) (ch : ChannelRef) (account : Text) : Server :=
  (s.memberRefs ch).foldl (fun s c =>
    let own := (s.client c).accountName
    if !own.isEmpty && strcasecmpEq own account then s.syncMember ch c else s) s

/-! ## 3. REGISTER -/

/-- `load_founder_channel`: the row, when it is enabled and the client is its founder. -/
def loadFounderChannel (s : Server) (c : ClientRef) (name : Text) :
    Option ChanServChannel × Server :=
  let missing (s : Server) : Option ChanServChannel × Server :=
    (none, s.csNotice c "Channel is not registered.".toList)
  if !validChannelName name then missing s
  else match s.storage.chanservDbOpen with
    | (false, d) => missing { s with storage := d }
    | (true, d) =>
      match d.chanservDbGet name with
      | (some (some r), d) =>
          if !r.enabled then missing { s with storage := d }
          else if founderMatches r.founder (s.client c).accountName then
            (some r, { s with storage := d })
          else (none, { s with storage := d }.csNotice c
            "Only the channel founder may change this setting.".toList)
      | (_, d) => missing { s with storage := d }

/-- `command_register` once its checks passed. -/
def registerChannel (s : Server) (c : ClientRef) (ch : ChannelRef) (description : Text) : Server :=
  let refused (s : Server) : Server :=
    s.csNotice c "Channel registration failed or the channel is already registered.".toList
  match s.storage.chanservDbOpen with
  | (false, d) => refused { s with storage := d }
  | (true, d) =>
    match d.chanservDbCreate (s.channel ch).name (s.client c).accountName description s.now with
    | (false, d) => refused { s with storage := d }
    | (true, d) =>
      let s := { s with storage := d }.updChannel ch fun chan =>
        (chan.register (s.client c).accountName).updateMember c (·.setService ownerPrivileges)
      (s.persistChannel ch).csNotice c "Channel registered successfully.".toList

/-- `command_register`. -/
def chanservRegister (s : Server) (c : ClientRef) (params : Option Text) : Server :=
  if (s.client c).accountName.isEmpty then
    s.csNotice c "You must identify to NickServ before registering a channel.".toList
  else match params.bind strtokSpace with
    | none => s.csNotice c "Syntax: REGISTER <#channel> [:description]".toList
    | some (name, rest) =>
      let description := dropColon (rest.dropWhile (· == ' '))
      let refused := s.csNotice c "You must be a channel owner or operator to register it.".toList
      if !validChannelName name then
        s.csNotice c "Syntax: REGISTER <#channel> [:description]".toList
      else if ircdChanservDescriptionMax < description.length then
        s.csNotice c "Channel description is too long.".toList
      else match s.findChannel name with
        | none => refused
        | some ch =>
          match (s.channel ch).findMember c with
          | none => refused
          | some m =>
              if Disjoint m.privileges ownerPrivileges then refused
              else s.registerChannel c ch description

/-! ## 4. INFO, DROP and ACCESS -/

/-- The line of INFO and, with the two further fields, of CSINFO. -/
def infoLine (r : ChanServChannel) : Text :=
  let orWord (t : Text) (word : String) : Text := if t.isEmpty then word.toList else t
  let onOff (b : Bool) : Text := (if b then "ON" else "OFF").toList
  "Channel ".toList ++ r.name ++ " founder=".toList ++ r.founder ++ " description=".toList ++
    orWord r.description "-" ++ " mlock=".toList ++ modeWordHex r.modeLock ++
    " topiclock=".toList ++ onOff (decide (ChannelMode.topicLock ∈ r.modeLock)) ++
    " secureops=".toList ++ onOff r.secureOps ++
    " successor=".toList ++ orWord r.successor "NONE" ++
    " greeting=".toList ++ orWord r.greeting "NONE" ++ " created=".toList ++ decimal r.createdAt

/-- `command_info`. -/
def chanservInfo (s : Server) (c : ClientRef) (params : Option Text) : Server :=
  match (params.bind strtokSpace).map (·.1) with
  | none => s.csNotice c "Syntax: INFO <#channel>".toList
  | some name =>
      if !validChannelName name then s.csNotice c "Syntax: INFO <#channel>".toList
      else match s.storage.chanservDbOpen with
        | (false, d) => { s with storage := d }.csNotice c "Channel is not registered.".toList
        | (true, d) =>
          match d.chanservDbGet name with
          | (some (some r), d) =>
              { s with storage := d }.csNotice c
                (if r.enabled then infoLine r else "Channel is not registered.".toList)
          | (_, d) => { s with storage := d }.csNotice c "Channel is not registered.".toList

/-- `command_drop`. The CHANSERV command hands its DROP to CSDROP, so nothing calls this. -/
def chanservDrop (s : Server) (c : ClientRef) (params : Option Text) : Server :=
  match s.loadFounderChannel c (((params.bind strtokSpace).map (·.1)).getD []) with
  | (none, s) => s
  | (some r, s) =>
    match s.storage.chanservDbDelete r.name with
    | (false, d) => { s with storage := d }.csNotice c "Channel drop failed.".toList
    | (true, d) =>
      let s := { s with storage := d }
      let s := match s.findChannel r.name with
        | none => s
        | some ch => s.updChannel ch (·.clearCachedPolicy)
      s.csNotice c "Channel registration dropped.".toList

/-- The order of a collation that folds every character. -/
def foldLe (f : Char → Char) : Text → Text → Bool
  | [], _ => true
  | _ :: _, [] => false
  | a :: as, b :: bs =>
      if f a = f b then foldLe f as bs else decide ((f a).toNat < (f b).toNat)

/-- `ORDER BY level DESC, account COLLATE NOCASE`. -/
def accessBefore (a b : ChanServAccess) : Bool :=
  decide (b.level.rank < a.level.rank) ||
    (a.level.rank == b.level.rank && foldLe asciiLower a.account b.account)

/-- The notices of ACCESS LIST. -/
def accessListing (name : Text) (rows : List ChanServAccess) : List Text :=
  (if rows.isEmpty then ["Access ".toList ++ name ++ ": (empty)".toList]
    else (rows.mergeSort accessBefore).map fun a =>
      "Access ".toList ++ name ++ ": ".toList ++ a.account ++ ':' :: decimal a.level.rank) ++
    ["End of access list for ".toList ++ name ++ ".".toList]

/-- ACCESS LIST: one SELECT; an account that does not fit its record ends it. -/
def accessList (s : Server) (c : ClientRef) (name : Text) : Server :=
  let d := s.storage
  let rows := d.chanserv.access.filter fun a => nameEq a.channel name
  let readable := rows.all fun a => columnFits ircChannelNameMax a.channel && columnFits ircNickMax a.account
  let s := { s with storage := d.tick }
  if d.ioOk && readable then (accessListing name rows).foldl (fun s t => s.csNotice c t) s
  else s.csNotice c "Failed to list access entries.".toList

/-- ACCESS DEL, for an account that is not the founder. -/
def accessDel (s : Server) (c : ClientRef) (name account : Text) : Server :=
  match s.storage.chanservDbAccessDelete name account with
  | (false, d) => { s with storage := d }.csNotice c "No matching access entry.".toList
  | (true, d) =>
    let s := { s with storage := d }
    let s := match s.findChannel name with
      | none => s
      | some ch => s.syncAccount ch account
    s.csNotice c "Access entry removed.".toList

/-- An account that exists and is enabled: `nickserv_db_open`, `nickserv_db_get`. -/
def enabledAccount (s : Server) (name : Text) : Option NickServAccount × Server :=
  match s.storage.nickservDbOpen with
  | (false, d) => (none, { s with storage := d })
  | (true, d) =>
    match d.nickservDbGet name with
    | (some (some a), d) => (if a.enabled then some a else none, { s with storage := d })
    | (_, d) => (none, { s with storage := d })

/-- ACCESS ADD; the entry is made under the account's own spelling. -/
def accessAdd (s : Server) (c : ClientRef) (name account : Text) (level : AccessLevel) : Server :=
  match s.enabledAccount account with
  | (none, s) => s.csNotice c "NickServ account does not exist or is disabled.".toList
  | (some a, s) =>
    match s.storage.chanservDbAccessSet name a.name level with
    | (false, d) => { s with storage := d }.csNotice c "Failed to update access list.".toList
    | (true, d) =>
      let s := { s with storage := d }
      let s := match s.findChannel name with
        | none => s
        | some ch => s.syncAccount ch a.name
      s.csNotice c ("Access set: ".toList ++ a.name ++ ' ' :: level.name.toList)

/-- `command_access`. -/
def chanservAccess (s : Server) (c : ClientRef) (params : Option Text) : Server :=
  let (name, rest) := (params.bind strtokSpace).getD ([], [])
  match s.loadFounderChannel c name with
  | (none, s) => s
  | (some r, s) =>
    match strtokSpace rest with
    | none => s.csNotice c "Syntax: ACCESS <#channel> ADD|DEL|LIST ...".toList
    | some (action, rest) =>
        if isWord action "LIST" then s.accessList c name
        else match strtokSpace rest with
          | none => s.csNotice c ("Syntax: ACCESS <#channel> ADD <account> " ++
              "<OWNER|PROTECTED|OP|HALFOP|VOICE> or DEL <account>").toList
          | some (account, rest) =>
              if strcasecmpEq account r.founder then s.csNotice c
                "The founder is implicitly OWNER and cannot be added to the access list.".toList
              else if isWord action "DEL" then s.accessDel c name account
              else match (strtokSpace rest).bind (fun w => parseAccess w.1) with
                | some level =>
                    if isWord action "ADD" then s.accessAdd c name account level
                    else s.csNotice c ("Syntax: ACCESS <#channel> ADD <account> " ++
                      "<OWNER|PROTECTED|OP|HALFOP|VOICE>").toList
                | none => s.csNotice c ("Syntax: ACCESS <#channel> ADD <account> " ++
                    "<OWNER|PROTECTED|OP|HALFOP|VOICE>").toList

/-! ## 5. SET -/

/-- Store a setting; if that worked change the live channel, if there is one, and confirm. -/
def setStored (s : Server) (c : ClientRef) (name : Text) (stored : Bool × Storage)
    (live : Server → ChannelRef → Server) (confirm refuse : String) : Server :=
  match stored with
  | (false, d) => { s with storage := d }.csNotice c refuse.toList
  | (true, d) =>
    let s := { s with storage := d }
    let s := match s.findChannel name with
      | none => s
      | some ch => live s ch
    s.csNotice c confirm.toList

/-- What SET MLOCK does to the live channel: it also marks the policy as loaded and valid. -/
def applyMlock (lock : ChannelModeSet) (s : Server) (ch : ChannelRef) : Server :=
  let before := (s.channel ch).modes
  let s := s.updChannel ch fun chan => { chan with
    chanservPolicyLoaded := true
    chanservPolicyValid := true
    chanservModeLock := lock
    modes := insert ChannelMode.registered ((chan.modes \ persistentModeMask) ∪ lock) }
  s.broadcastServiceModeChange ch before (s.channel ch).modes

/-- SET MLOCK. -/
def setMlock (s : Server) (c : ClientRef) (name value : Text) : Server :=
  let refuse := "Invalid persistent mode lock. Only boolean channel modes are supported."
  match parseModeLock value with
  | none => s.csNotice c refuse.toList
  | some lock => s.setStored c name (s.storage.chanservDbSetModeLock name lock) (applyMlock lock)
      "Persistent mode lock updated." refuse

/-- What SET TOPICLOCK does to the live channel. -/
def applyTopiclock (lock : ChannelModeSet) (s : Server) (ch : ChannelRef) : Server :=
  let before := (s.channel ch).modes
  let s := s.updChannel ch fun chan => { chan with
    chanservModeLock := lock
    modes := if ChannelMode.topicLock ∈ lock then insert ChannelMode.topicLock chan.modes
      else chan.modes.erase .topicLock }
  s.broadcastServiceModeChange ch before (s.channel ch).modes

/-- ON or OFF. -/
def parseOnOff (value : Text) : Option Bool :=
  if isWord value "ON" then some true
  else if isWord value "OFF" then some false
  else none

/-- SET TOPICLOCK: the lock of the row with or without +t. -/
def setTopiclock (s : Server) (c : ClientRef) (name : Text) (r : ChanServChannel) (value : Text) :
    Server :=
  match parseOnOff value with
  | none => s.csNotice c "TOPICLOCK must be ON or OFF.".toList
  | some on =>
      let lock := if on then insert ChannelMode.topicLock r.modeLock
        else r.modeLock.erase .topicLock
      s.setStored c name (s.storage.chanservDbSetModeLock name lock) (applyTopiclock lock)
        "Topic locking updated." "Failed to update topic locking."

/-- What SET SECUREOPS does to the live channel. -/
def applySecureOps (on : Bool) (s : Server) (ch : ChannelRef) : Server :=
  (s.updChannel ch fun chan => { chan with chanservSecureOps := on }).syncChannel ch

/-- SET SECUREOPS. -/
def setSecureOps (s : Server) (c : ClientRef) (name value : Text) : Server :=
  match parseOnOff value with
  | none => s.csNotice c "SECUREOPS must be ON or OFF.".toList
  | some on => s.setStored c name (s.storage.chanservDbSetSecureOps name on) (applySecureOps on)
      (if on then "SecureOps enabled." else "SecureOps disabled.") "Failed to update SecureOps."

/-- Store a successor, in the spelling given. -/
def storeSuccessor (s : Server) (c : ClientRef) (name successor : Text) : Server :=
  s.setStored c name (s.storage.chanservDbSetSuccessor name successor)
    (fun s ch => s.updChannel ch fun chan => { chan with chanservSuccessor := cString successor })
    "Successor updated." "Failed to update successor."

/-- SET SUCCESSOR. -/
def setSuccessor (s : Server) (c : ClientRef) (name : Text) (r : ChanServChannel) (value : Text) :
    Server :=
  let refused (s : Server) : Server := s.csNotice c
    "SUCCESSOR must name an existing account other than the founder, or NONE.".toList
  if isWord value "NONE" then s.storeSuccessor c name []
  else match s.enabledAccount value with
    | (none, s) => refused s
    | (some a, s) =>
        if strcasecmpEq a.name r.founder then refused s else s.storeSuccessor c name value

/-- SET GREETING. -/
def setGreeting (s : Server) (c : ClientRef) (name value : Text) : Server :=
  let value := dropColon value
  let value := if isWord value "NONE" then [] else value
  if ircTopicLimit s.config < value.length then
    s.csNotice c "Greeting is too long or invalid.".toList
  else s.setStored c name (s.storage.chanservDbSetGreeting name value)
    (fun s ch => s.updChannel ch fun chan => { chan with chanservGreeting := cString value })
    "Greeting updated." "Greeting is too long or invalid."

/-- Who set a topic: the client's identity, with its host. -/
def topicSetter (s : Server) (c : ClientRef) : Field :=
  { text := (s.client c).identity, hosts := [(c, (s.client c).displayHost)] }

/-- SET TOPIC. -/
def setTopic (s : Server) (c : ClientRef) (name value : Text) : Server :=
  let value := dropColon value
  if ircTopicLimit s.config < value.length then
    s.csNotice c "Topic is too long for this server's advertised TOPICLEN.".toList
  else s.setStored c name (s.storage.chanservDbSetTopic name value (s.topicSetter c) s.now)
    (fun s ch => (s.updChannel ch fun chan => { chan with
      topic := value, topicSetter := s.topicSetter c, topicTime := s.now }).broadcastServiceTopicChange
        ch)
    "Persistent topic updated." "Failed to store persistent topic."

/-- The settings of `command_set`, for the founder of an enabled row. -/
def setField (s : Server) (c : ClientRef) (name : Text) (r : ChanServChannel)
    (field value : Text) : Server :=
  if isWord field "MLOCK" then s.setMlock c name value
  else if isWord field "TOPICLOCK" then s.setTopiclock c name r value
  else if isWord field "SECUREOPS" then s.setSecureOps c name value
  else if isWord field "SUCCESSOR" then s.setSuccessor c name r value
  else if isWord field "GREETING" then s.setGreeting c name value
  else if isWord field "TOPIC" then s.setTopic c name value
  else s.csNotice c ("Unknown SET field. Use MLOCK, TOPIC, TOPICLOCK, SECUREOPS, SUCCESSOR, " ++
    "or GREETING.").toList

/-- The field and the value of a SET, after the channel name. -/
def setWords (rest : Text) : Option (Text × Text) :=
  (strtokSpace rest).bind fun (field, rest) =>
    (strtokRest rest).map fun value => (field, value.dropWhile (· == ' '))

/-- `command_set`. -/
def chanservSet (s : Server) (c : ClientRef) (params : Option Text) : Server :=
  let (name, rest) := (params.bind strtokSpace).getD ([], [])
  match s.loadFounderChannel c name with
  | (none, s) => s
  | (some r, s) =>
    match setWords rest with
    | none => s.csNotice c ("Syntax: SET <#channel> MLOCK <modes> | TOPIC :<text> | " ++
        "TOPICLOCK ON|OFF | SECUREOPS ON|OFF | SUCCESSOR <account|NONE> | " ++
        "GREETING :<text|NONE>").toList
    | some (field, value) => s.setField c name r field value

/-- The channel and the text of a `SET <#channel> MLOCK`. -/
def mlockRequest (params : Text) : Option (Text × Text) :=
  (strtokSpace params).bind fun (command, rest) =>
    (strtokSpace rest).bind fun (name, rest) =>
      (setWords rest).bind fun (field, value) =>
        if isWord command "SET" && isWord field "MLOCK" then some (name, value) else none

/-! ## 6. SET LOGGING -/

/-- `chanserv_db_logging_get`: is the channel registered and enabled? -/
def loggingRegistered (s : Server) (name : Text) : Bool × Server :=
  (s.storage.ioOk && ((s.storage.chanserv.row name).any (·.enabled)),
    { s with storage := s.storage.tick })

/-- `chanserv_db_logging_set`, which touches enabled rows only. -/
def loggingSet (s : Server) (name : Text) (on : Bool) : Bool × Server :=
  if !s.storage.ioOk then (false, { s with storage := s.storage.tick })
  else ((s.storage.chanserv.row name).any (·.enabled), { s with storage := { s.storage.tick with
    chanserv := s.storage.chanserv.mapRow name fun r =>
      if r.enabled then { r with loggingEnabled := on } else r } })

/-- The channel and the value of a `SET <#channel> LOGGING`; other requests are none of its
    business. -/
def loggingRequest (params : Text) : Option (Text × Option Text) :=
  (strtokSpace params).bind fun (command, rest) =>
    (strtokSpace rest).bind fun (name, rest) =>
      (strtokSpace rest).bind fun (field, rest) =>
        if isWord command "SET" && isWord field "LOGGING" then
          some (name, (strtokSpace rest).map (·.1))
        else none

/-- `channel_log_handle_chanserv`, for such a request. -/
def setLogging (s : Server) (c : ClientRef) (name : Text) (value : Option Text) : Server :=
  match value.bind parseOnOff with
  | none => s.csNotice c "Syntax: SET <#channel> LOGGING ON|OFF".toList
  | some on =>
      if !(s.client c).isOper then s.csNotice c
        "Only IRC operators and network administrators may change channel logging.".toList
      else match s.loggingRegistered name with
        | (false, s) => s.csNotice c "Channel is not registered.".toList
        | (true, s) =>
          match s.loggingSet name on with
          | (false, s) => s.csNotice c "Unable to update channel logging.".toList
          | (true, s) => s.csNotice c
              (if on then "Channel logging enabled." else "Channel logging disabled.").toList

/-! ## 7. Registrations in the hands of administrators -/

/-- The frame of the commands of network administrators. -/
def withNetadmin (s : Server) (c : ClientRef) (body : Server) : Server :=
  if !(s.client c).registered then s.notRegistered c
  else if ClientMode.netadmin ∉ (s.client c).modes then s.noPrivileges c
  else body

/-- `refresh_and_broadcast_registration`, `refresh_chanserv_channel`: read the row of a live
    channel again, announce a change of +r and bring the members in step. -/
def refreshRegistration (s : Server) (name : Text) : Server :=
  match s.findChannel name with
  | none => s
  | some ch =>
    let had := (s.channel ch).isRegistered
    let s := s.loadPolicy ch true
    let has := (s.channel ch).isRegistered
    let s := if had == has then s else s.serviceMode ch [signChar has, 'r']
    if has then s.syncChannel ch else s

/-- The end of CSSET and CSDROP: `stored` and, when it is false, a reason. -/
def adminStored (s : Server) (c : ClientRef) (name : Text) (stored : Bool) (notice : Text)
    (confirm refuse : String) : Server :=
  if stored then ((s.refreshRegistration name).snotice {.services} notice).adminNotice c confirm
  else s.adminNotice c refuse

/-- CSSET ENABLED 1: only with a founder whose account is enabled. -/
def enableRow (s : Server) (name : Text) : Bool × String × Server :=
  match s.storage.chanservDbGet name with
  | (some (some r), d) =>
    match d.nickservDbOpen with
    | (false, d) => (false, "CSSET failed.", { s with storage := d })
    | (true, d) =>
      match d.nickservDbGet r.founder with
      | (some (some a), d) =>
          if a.enabled then
            let (ok, d) := d.chanservDbSetEnabled r.name true
            (ok, "CSSET failed.", { s with storage := d })
          else (false, "Cannot enable registration until its founder account exists and is enabled.",
            { s with storage := d })
      | (_, d) => (false,
          "Cannot enable registration until its founder account exists and is enabled.",
          { s with storage := d })
  | (_, d) => (false, "CSSET failed.", { s with storage := d })

/-- CSSET FOUNDER: a successor that becomes the founder is no successor any more. -/
def moveRow (s : Server) (name value : Text) : Bool × Server :=
  match s.enabledAccount value with
  | (none, s) => (false, s)
  | (some a, s) =>
    match s.storage.chanservDbGet name with
    | (some (some r), d) =>
      match d.chanservDbSetFounder name a.name with
      | (false, d) => (false, { s with storage := d })
      | (true, d) =>
          if !r.successor.isEmpty && strcasecmpEq r.successor a.name then
            let (ok, d) := d.chanservDbSetSuccessor name []
            (ok, { s with storage := d })
          else (true, { s with storage := d })
    | (_, d) => (false, { s with storage := d })

/-- The settings of CSSET: whether the row was written, and the notice when it was not. -/
def cssetField (s : Server) (name field value : Text) : Bool × String × Server :=
  if isWord field "DESCRIPTION" then
    let value := dropColon value
    if ircdChanservDescriptionMax < value.length then (false, "CSSET failed.", s)
    else
      let (ok, d) := s.storage.chanservDbSetDescription name value
      (ok, "CSSET failed.", { s with storage := d })
  else if isWord field "ENABLED" then
    if value = ['0'] then
      let (ok, d) := s.storage.chanservDbSetEnabled name false
      (ok, "CSSET failed.", { s with storage := d })
    else if value = ['1'] then s.enableRow name
    else (false, "CSSET failed.", s)
  else if isWord field "FOUNDER" then
    let (ok, s) := s.moveRow name value
    (ok, "CSSET failed.", s)
  else (false, "CSSET failed.", s)

/-- `command_csset`. -/
def commandCsset (s : Server) (c : ClientRef) (params : Option Text) : Server :=
  s.withNetadmin c <|
    match params.bind strtokSpace with
    | none => s.needMoreParams c "CSSET"
    | some (name, rest) =>
      match setWords rest with
      | none => s.needMoreParams c "CSSET"
      | some (field, value) =>
          if value.isEmpty then s.needMoreParams c "CSSET"
          else match s.storage.chanservDbOpen with
            | (false, d) => { s with storage := d }.adminNotice c "CSSET failed."
            | (true, d) =>
              let (stored, refuse, s) := { s with storage := d }.cssetField name field value
              s.adminStored c name stored ("CSSET by ".toList ++ (s.client c).nick ++
                ": channel=".toList ++ name ++ " field=".toList ++ field ++ " value=".toList ++
                (if isWord field "DESCRIPTION" then dropColon value else value))
                "ChanServ channel updated." refuse

/-- `command_csdrop`. -/
def commandCsdrop (s : Server) (c : ClientRef) (params : Option Text) : Server :=
  s.withNetadmin c <|
    match (params.bind strtokSpace).map (·.1) with
    | none => s.needMoreParams c "CSDROP"
    | some name =>
      match s.storage.chanservDbOpen with
      | (false, d) => { s with storage := d }.adminNotice c "CSDROP failed."
      | (true, d) =>
        let (stored, d) := d.chanservDbDelete name
        { s with storage := d }.adminStored c name stored ("CSDROP by ".toList ++
          (s.client c).nick ++ ": channel=".toList ++ name) "ChanServ channel deleted." "CSDROP failed."

/-! ## 8. The CHANSERV command -/

/-- `chanserv_handle_message`. -/
def chanservHandleMessage (s : Server) (c : ClientRef) (text : Text) : Server :=
  match strtokSpace text with
  | none => s
  | some (command, rest) =>
      let params := strtokRest rest
      if isWord command "REGISTER" then s.chanservRegister c params
      else if isWord command "INFO" then s.chanservInfo c params
      else if isWord command "DROP" then s.chanservDrop c params
      else if isWord command "ACCESS" then s.chanservAccess c params
      else if isWord command "SET" then s.chanservSet c params
      else if isWord command "HELP" then s.csNotice c ("Commands: REGISTER, INFO, DROP, ACCESS, SET, HELP; " ++
        "SET fields: MLOCK, TOPIC, TOPICLOCK, SECUREOPS, SUCCESSOR, GREETING").toList
      else s.csNotice c "Unknown ChanServ command. Use CHANSERV HELP.".toList

/-- `chanserv_registration_exists`. -/
def registrationExists (s : Server) (name : Text) : Bool × Server :=
  match s.storage.chanservDbOpen with
  | (false, d) => (false, { s with storage := d })
  | (true, d) =>
    let (row, d) := d.chanservDbGet name
    ((row.bind id).isSome, { s with storage := d })

/-- `broadcast_registration_mode` of commands/chanserv.c, after a REGISTER. -/
def broadcastRegistered (s : Server) (name : Text) : Server :=
  match s.findChannel name with
  | none => s
  | some ch => if (s.channel ch).isRegistered then s.serviceMode ch "+r".toList else s

/-- The account of a client, or its nickname. -/
def accountOrNick (s : Server) (c : ClientRef) : Text :=
  if (s.client c).accountName.isEmpty then (s.client c).nick else (s.client c).accountName

/-- The part of `command_chanserv` between the two looks at the registration. -/
def chanservRequest (s : Server) (c : ClientRef) (isDrop : Bool) (params : Text) : Server :=
  if isDrop then
    let rest := params.dropWhile (· != ' ')
    s.commandCsdrop c (if rest.isEmpty then none else some (rest.dropWhile (· == ' ')))
  else match loggingRequest params with
    | some (name, value) => s.setLogging c name value
    | none => s.chanservHandleMessage c params

/-- The part after a REGISTER or DROP that named a channel. -/
def registrationNotice (s : Server) (c : ClientRef) (isRegister existed : Bool) (name : Text) :
    Server :=
  let (exist, s) := s.registrationExists name
  if isRegister && !existed && exist then
    (s.broadcastRegistered name).snotice {.registrations}
      ("ChanServ registration: channel=".toList ++ name ++ " founder=".toList ++ s.accountOrNick c)
  else if !isRegister && existed && !exist then
    s.snotice {.registrations} ("ChanServ registration dropped: channel=".toList ++ name ++
      " by=".toList ++ s.accountOrNick c)
  else s

/-- `command_chanserv`. REGISTER and DROP are for network administrators. -/
def commandChanserv (s : Server) (c : ClientRef) (params : Option Text) : Server :=
  if !(s.client c).registered then s.notRegistered c
  else match params.bind strtokRest with
    | none => s.needMoreParams c "CHANSERV"
    | some params =>
      let words := strtokSpace params
      let named := (words.bind fun w => strtokSpace w.2).map (·.1)
      let isRegister := words.any fun w => isWord w.1 "REGISTER"
      let isDrop := words.any fun w => isWord w.1 "DROP"
      if (isRegister || isDrop) && decide (ClientMode.netadmin ∉ (s.client c).modes) then
        s.noPrivileges c
      else if isRegister || isDrop then
        match named with
        | none => s.chanservRequest c isDrop params
        | some name =>
          let (existed, s) := s.registrationExists name
          (s.chanservRequest c isDrop params).registrationNotice c isRegister existed name
      else s.chanservRequest c false params

end Server

end ScratchIrcd
