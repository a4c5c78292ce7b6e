/-
  File:      ScratchIrcd/Policy.lean
  Subject:   ChanServ policy on live channels: loading it from the database, the privileges of an
             account, and keeping members in step (src/chanserv.c).

  What touches one channel record and the storage is a function of those two; the server-level
  functions put the results back.
-/
import ScratchIrcd.Server
import ScratchIrcd.Storage

namespace ScratchIrcd

open CText

/-- `irc_topic_limit`: the longest topic that fits both the 332 reply and the TOPIC relay for
    the longest names. -/
def ircTopicLimit (config : ServerConfig) : Nat :=
  let query := ":".length + config.serverName.length + " 332 ".length + ircNickMax + 1 +
    ircChannelNameMax + " :".length
  let relay := ":".length + ircNickMax + 1 + ircUserMax + 1 + ircHostMax + " TOPIC ".length +
    ircChannelNameMax + " :".length
  if ircLineContentMax ≤ query ∨ ircLineContentMax ≤ relay then 0
  else min (min ircChannelTopicMax (ircLineContentMax - query)) (ircLineContentMax - relay)

/-! ## 1. The cached policy -/

/-- `clear_cached_policy`. -/
def Channel.clearCachedPolicy (ch : Channel) : Channel :=
  { ch.forgetServicePrivileges with
    chanservPolicyLoaded := true
    chanservPolicyValid := false
    chanservFounder := []
    chanservModeLock := ∅
    chanservSecureOps := false
    chanservSuccessor := []
    chanservGreeting := []
    modes := ch.modes.erase .registered }

/-- `cache_policy`, for an enabled record. -/
def Channel.cachePolicy (ch : Channel) (r : ChanServChannel) : Channel :=
  { ch with
    chanservPolicyLoaded := true
    chanservPolicyValid := true
    chanservFounder := r.founder
    chanservModeLock := r.modeLock
    chanservSecureOps := r.secureOps
    chanservSuccessor := r.successor
    chanservGreeting := r.greeting }

/-- The assignments of `load_channel_policy` for an enabled record: modes, then the topic
    unless it is above the active TOPICLEN. -/
def Channel.applyRow (ch : Channel) (topicLimit : Nat) (r : ChanServChannel) : Channel :=
  let ch := { ch.cachePolicy r with modes := insert ChannelMode.registered r.modeLock }
  if r.topic.length ≤ topicLimit then
    { ch with topic := r.topic, topicSetter := r.topicSetter, topicTime := r.topicTime }
  else { ch with topic := [], topicSetter := { text := [] }, topicTime := 0 }

/-- `load_channel_policy`. A failed open or read returns with the channel as it was; a failed
    restore is ignored here. -/
def loadChannelPolicy (topicLimit : Nat) (d : Storage) (ch : Channel) (force : Bool) :
    Channel × Storage :=
  if !force && ch.chanservPolicyLoaded then (ch, d)
  else match d.chanservDbOpen with
    | (false, d) => (ch, d)
    | (true, d) =>
      match d.chanservDbGet ch.name with
      | (none, d) => (ch, d)
      | (some none, d) => (ch.clearCachedPolicy, d)
      | (some (some r), d) =>
          if r.enabled then (d.persistRestore (ch.applyRow topicLimit r)).2
          else (ch.clearCachedPolicy, d)

/-- `chanserv_mode_change_allowed`: on a registered channel a boolean mode may only be set to
    what the mode lock says it is. -/
def Channel.modeChangeAllowed (ch : Channel) (bit : ChannelMode) (adding : Bool) : Bool :=
  if !ch.isRegistered then true
  else if !ch.chanservPolicyValid then false
  else decide (bit ∈ ch.chanservModeLock) == adding

/-! ## 2. Privileges of an account -/

/-- `founder_matches`, `cached_founder_matches`. -/
def founderMatches (founder account : Text) : Bool :=
  !account.isEmpty && strcasecmpEq founder account

/-- The privileges of an access level. -/
def AccessLevel.privileges : AccessLevel → ChannelPrivilegeSet
  | .owner => {.owner, .operator}
  | .protect => {.protect, .operator}
  | .op => {.operator}
  | .halfop => {.halfop}
  | .voice => {.voice}

/-- The last part of `chanserv_client_privileges`: the access list. -/
def accessPrivileges (d : Storage) (account name : Text) : ChannelPrivilegeSet × Storage :=
  match d.chanservDbAccessGet name account with
  | (some level, d) => (level.privileges, d)
  | (none, d) => (∅, d)

/-- `chanserv_client_privileges`, for the client's account and the live channel of that name. -/
def chanservPrivileges (d : Storage) (live : Option Channel) (account name : Text) :
    ChannelPrivilegeSet × Storage :=
  if account.isEmpty then (∅, d)
  else
    let loaded := live.filter (·.chanservPolicyLoaded)
    match loaded with
    | some ch =>
        if !ch.chanservPolicyValid then (∅, d)
        else if founderMatches ch.chanservFounder account then (ownerPrivileges, d)
        else match d.chanservDbOpen with
          | (false, d) => (∅, d)
          | (true, d) => accessPrivileges d account name
    | none =>
        match d.chanservDbOpen with
        | (false, d) => (∅, d)
        | (true, d) =>
          match d.chanservDbGet name with
          | (some (some r), d) =>
              if !r.enabled then (∅, d)
              else if founderMatches r.founder account then (ownerPrivileges, d)
              else accessPrivileges d account name
          | (_, d) => (∅, d)

/-! ## 3. Keeping members in step -/

/-- The bits SecureOps watches. -/
def secureBits : ChannelPrivilegeSet := {.owner, .protect, .operator, .halfop}

/-- The privileges SecureOps leaves to an account whose own privileges have this rank. -/
def secureEligible (rank : Nat) : ChannelPrivilegeSet :=
  if 5 ≤ rank then secureBits
  else if 4 ≤ rank then {.protect, .operator, .halfop}
  else if 3 ≤ rank then {.operator, .halfop}
  else if 2 ≤ rank then {.halfop}
  else ∅

/-- The change `sync_member_privileges` makes to one member record. -/
def Grants.sync (secureOps : Bool) (desired : ChannelPrivilegeSet) (g : Grants) : Grants :=
  (if secureOps then
    g.removeManual ((g.manual ∩ secureBits) \ secureEligible (privilegeRank desired))
  else g).setService desired

namespace Server

/-- The live channel of a name. -/
def liveChannel (s : Server) (name : Text) : Option Channel :=
  (s.findChannel name).map s.channel

/-- `chanserv_client_privileges`. -/
def clientPrivileges (s : Server) (c : ClientRef) (name : Text) :
    ChannelPrivilegeSet × Server :=
  let (p, d) := chanservPrivileges s.storage (s.liveChannel name) (s.client c).accountName name
  (p, { s with storage := d })

/-- Put back a channel record and the storage. -/
def putChannel (s : Server) (ch : ChannelRef) (chan : Channel) (d : Storage) : Server :=
  { s with channel := Function.update s.channel ch chan, storage := d }

/-- `chanserv_restore_channel` (`force` false) and `chanserv_refresh_channel` (true). -/
def loadPolicy (s : Server) (ch : ChannelRef) (force : Bool) : Server :=
  let (chan, d) := loadChannelPolicy (ircTopicLimit s.config) s.storage (s.channel ch) force
  s.putChannel ch chan d

/-- `chanserv_persist_restore`. -/
def restoreRuntime (s : Server) (ch : ChannelRef) : Bool × Server :=
  let (ok, chan, d) := s.storage.persistRestore (s.channel ch)
  (ok, s.putChannel ch chan d)

/-- `broadcast_privilege_change`: one server MODE naming the subject once per letter. -/
def broadcastPrivilegeChange (s : Server) (ch : ChannelRef) (subject : ClientRef)
    (privileges : ChannelPrivilegeSet) (sign : Char) : Server :=
  if privileges = ∅ then s
  else
    let letters := privilegeFormat privileges
    s.broadcast ch none ⟨.server, .mode (s.channel ch).name
      (sign :: letters ++ letters.flatMap fun _ => ' ' :: (s.client subject).nick)⟩

/-- `sync_member_privileges`. -/
def syncMember (s : Server) (ch : ChannelRef) (c : ClientRef) : Server :=
  match (s.channel ch).findMember c with
  | none => s
  | some m =>
    let chan := s.channel ch
    let (desired, s) := if chan.isRegistered then s.clientPrivileges c chan.name else (∅, s)
    let g := m.grants.sync chan.chanservSecureOps desired
    let s := s.updChannel ch (·.updateMember c (·.sync chan.chanservSecureOps desired))
    (s.broadcastPrivilegeChange ch c (m.privileges \ g.privileges) '-').broadcastPrivilegeChange
      ch c (g.privileges \ m.privileges) '+'

/-- `chanserv_sync_channel_privileges`. -/
def syncChannel (s : Server) (ch : ChannelRef) : Server :=
  (s.memberRefs ch).foldl (fun s c => s.syncMember ch c) s

/-- `chanserv_sync_client_privileges`. -/
def syncClient (s : Server) (c : ClientRef) : Server :=
  (s.client c).channels.foldl (fun s ch => s.syncMember ch c) s

/-- `chanserv_persist_channel`. -/
def persistChannel (s : Server) (ch : ChannelRef) : Server :=
  { s with storage := s.storage.persistChannel (s.channel ch) }

end Server

end ScratchIrcd
