/-
  File:      ScratchIrcd/JoinPart.lean
  Subject:   JOIN and PART (src/commands/joinpart.c).

  `join_one` in stages: find or create the channel, restore its policy, decide, admit. A redirect
  starts the function again on the linked channel with one hop less, so `hops` counts down
  where the source's `redirect_depth` counts up.
-/
import ScratchIrcd.Policy
import ScratchIrcd.Relay

namespace ScratchIrcd

open CText

/-- `IRC_MAX_CHANNELS_PER_CLIENT`, `IRC_JOIN_REDIRECT_MAX`. -/
def ircMaxChannelsPerClient : Nat := 32
def ircJoinRedirectMax : Nat := 4

/-! ## 1. The decision -/

/-- How the checks of `join_one` end. -/
inductive JoinVerdict where
  | badKey | banned | full | needRegistered | operOnly | adminOnly | secureOnly | inviteOnly
  | tooFast
  | redirect (target : Text)
  | allow
  deriving DecidableEq, Repr

/-- Is a redirect set, allowed and well formed? -/
def redirectUsable (target : Text) (hops : Nat) : Bool :=
  !target.isEmpty && decide (0 < hops) && channelNameValid target

/-- The ban rule: owners pass, protected accounts answer only to authorized bans. -/
def joinBanned (cl : Client) (ch : Channel) (service : ChannelPrivilegeSet) : Bool :=
  if ChannelPrivilege.owner ∈ service then false
  else if ChannelPrivilege.protect ∈ service then ch.isBannedProtected cl.identity
  else ch.isBanned cl.identity

/-- The checks of `join_one` on a restored channel, in order. -/
def joinVerdict (now : Nat) (cl : Client) (ch : Channel) (service : ChannelPrivilegeSet)
    (key : Option Text) (hops : Nat) : JoinVerdict :=
  if !ch.key.isEmpty && key != some ch.key then .badKey
  else if joinBanned cl ch service then
    if redirectUsable ch.banRedirect hops then .redirect ch.banRedirect else .banned
  else if ch.userLimit ≠ 0 ∧ ch.userLimit ≤ ch.memberCount then
    if redirectUsable ch.limitRedirect hops then .redirect ch.limitRedirect else .full
  else if ChannelMode.regonlyJoin ∈ ch.modes ∧ ClientMode.registered ∉ cl.modes then
    .needRegistered
  else if ChannelMode.operOnly ∈ ch.modes ∧ ¬ cl.isOper then .operOnly
  else if ChannelMode.adminOnly ∈ ch.modes ∧ ClientMode.netadmin ∉ cl.modes then .adminOnly
  else if ChannelMode.secureOnly ∈ ch.modes ∧ ClientMode.secure ∉ cl.modes then .secureOnly
  else if ChannelMode.inviteOnly ∈ ch.modes ∧ ¬ ch.inviteHas cl.id ∧ ¬ ch.isInvex cl.identity then
    .inviteOnly
  else if !ch.joinThrottleAllows now then .tooFast
  else .allow

/-- The numeric and parameters of a refusal; none for the other two verdicts. -/
def JoinVerdict.reply (name : Text) : JoinVerdict → Option (Nat × List Field)
  | .badKey => some (475, [name, lit ":Cannot join channel (+k)"])
  | .banned => some (474, [name, lit ":Cannot join channel (+b)"])
  | .full => some (471, [name, lit ":Cannot join channel (+l)"])
  | .needRegistered => some (477, [name, lit ":You need a registered nick to join that channel."])
  | .operOnly => some (520, [lit ":Cannot join channel", name, lit "(IRCops only)"])
  | .adminOnly => some (519, [lit ":Cannot join channel", name, lit "(Admin only)"])
  | .secureOnly => some (489, [name, lit ":Cannot join channel (SSL is required)"])
  | .inviteOnly => some (473, [name, lit ":Cannot join channel (+i)"])
  | .tooFast =>
      some (500, [name, lit ":Too many join requests. Please wait a while and try again."])
  | .redirect _ => none
  | .allow => none

/-- What `join_one` does to the record after `channel_add_client`. The first member of an
    unregistered channel becomes its owner. -/
def Channel.seat (ch : Channel) (c : ClientRef) (id now : Nat) (first invited : Bool)
    (service : ChannelPrivilegeSet) : Channel :=
  let ch := ch.joinThrottleRecord now
  let ch := if invited then ch.inviteConsume id else ch
  let ch := if first && !ch.isRegistered then ch.updateMember c (·.addManual ownerPrivileges) else ch
  if ch.isRegistered ∧ service ≠ ∅ then ch.updateMember c (·.setService service) else ch

namespace Server

/-! ## 2. The stages of `join_one` -/

/-- What `join_one` says when no further channel may be created. -/
def channelLimitReached (s : Server) (c : ClientRef) (name : Text) : Server :=
  let limit := decimal s.config.maxChannels
  (s.serverNotice c ("Cannot create ".toList ++ name ++ ": server channel limit reached (".toList ++
      limit ++ ")".toList : Text)).snotice
    {.flood} ("Channel creation rejected for ".toList ++ name ++ " (nick=".toList ++
      (s.client c).nick ++ "): global channel limit reached (".toList ++ decimal s.channelCount ++
      '/' :: limit ++ ")".toList)

/-- Up to the channel: the reference and whether it was created here, or `none` after a refusal
    (or when the client is inside already). -/
def joinEnter (s : Server) (c : ClientRef) (name : Text) :
    Option (ChannelRef × Bool) × Server :=
  if !channelNameValid name then (none, s.queryNumeric c 403 name ":No such channel")
  else if ircMaxChannelsPerClient ≤ (s.client c).channelCount then
    (none, s.numeric c 405 [name, lit ":You have joined too many channels"])
  else match s.findChannel name with
    | some ch => if s.inChannel ch c then (none, s) else (some (ch, false), s)
    | none =>
        if s.config.maxChannels ≤ s.channelCount then (none, s.channelLimitReached c name)
        else (some (s.nextChannel, true), s.createChannel name)

/-- `chanserv_restore_channel`, then `chanserv_persist_restore` on a +r channel. A failed
    restore refuses the join, and takes a channel made for it away again. -/
def joinRestore (s : Server) (c : ClientRef) (ch : ChannelRef) (created : Bool) :
    Bool × Server :=
  let s := s.loadPolicy ch false
  if !(s.channel ch).isRegistered then (true, s)
  else match s.restoreRuntime ch with
    | (true, s) => (true, s)
    | (false, s) =>
        let s := s.serverNotice c ("Cannot join ".toList ++ (s.channel ch).name ++
          ": persistent channel state could not be restored.".toList : Text)
        (false, if created then s.removeChannelIfEmpty ch else s)

/-- What the client is told about the topic, then ChanServ's greeting. -/
def joinTopic (s : Server) (c : ClientRef) (ch : ChannelRef) : Server :=
  let chan := s.channel ch
  let s :=
    if chan.topic.isEmpty then s.numeric c 331 [chan.name, lit ":No topic is set."]
    else (s.numeric c 332 [chan.name, (':' :: chan.topic : Text)]).numeric c 333
      [chan.name, chan.topicSetter, decimal chan.topicTime]
  if chan.chanservGreeting.isEmpty then s else s.serviceNotice "ChanServ" c chan.chanservGreeting

/-- Admit a client to the channel: `first` and `invited` are read before it is added. -/
def joinSeat (s : Server) (c : ClientRef) (ch : ChannelRef) (service : ChannelPrivilegeSet) :
    Server :=
  let first := decide ((s.channel ch).memberCount = 0)
  let invited := (s.channel ch).inviteHas (s.client c).id
  (s.addToChannel ch c).updChannel ch (·.seat c (s.client c).id s.now first invited service)

/-- The rest of `join_one` after the last check. -/
def joinAdmit (s : Server) (c : ClientRef) (ch : ChannelRef) (service : ChannelPrivilegeSet) :
    Server :=
  let s := s.joinSeat c ch service
  let s := if (s.channel ch).isRegistered then s.syncChannel ch else s
  let s := (s.broadcastJoin ch c).awayNotifyJoin ch c
  (s.joinTopic c ch).sendNames ch c

/-- How one call of `join_one` ends before the client is let in or sent on. -/
inductive JoinHop where
  /-- Refused, or nothing to do. -/
  | done (s : Server)
  /-- The 470 line is out; `join_one` runs again on `target`. -/
  | redirect (s : Server) (target : Text)
  /-- Every check passed: the state they passed in, the channel and ChanServ's privileges. -/
  | allow (s : Server) (ch : ChannelRef) (service : ChannelPrivilegeSet)

/-- What a client is told that is sent on from `name` to `target`. -/
def joinLinked (s : Server) (c : ClientRef) (name target : Text) : Server :=
  s.numeric c 470 [lit "[Link]", name,
    lit "has become full so you are automatically being transferred to the linked channel", target]

/-- `join_one` up to the last check, on a channel that was found or made. -/
def joinDecide (s : Server) (c : ClientRef) (ch : ChannelRef) (key : Option Text) (hops : Nat) :
    JoinHop :=
  let name := (s.channel ch).name
  let (service, s) := s.clientPrivileges c name
  match joinVerdict s.now (s.client c) (s.channel ch) service key hops with
  | .allow => .allow s ch service
  | .redirect target => .redirect (s.joinLinked c name target) target
  | verdict => .done (match verdict.reply name with
      | some (code, params) => s.numeric c code params
      | none => s)

/-- One call of `join_one`. -/
def joinHop (s : Server) (c : ClientRef) (name : Text) (key : Option Text) (hops : Nat) :
    JoinHop :=
  match s.joinEnter c name with
  | (none, s) => .done s
  | (some (ch, created), s) =>
    match s.joinRestore c ch created with
    | (false, s) => .done s
    | (true, s) => s.joinDecide c ch key hops

/-- `join_one`; a redirect takes no key along. -/
def joinOne (c : ClientRef) : Nat → Server → Text → Option Text → Server
  | 0, s, name, key =>
      match s.joinHop c name key 0 with
      | .done s => s
      | .redirect s _ => s
      | .allow s ch service => s.joinAdmit c ch service
  | hops + 1, s, name, key =>
      match s.joinHop c name key (hops + 1) with
      | .done s => s
      | .redirect s target => joinOne c hops s target none
      | .allow s ch service => s.joinAdmit c ch service

/-! ## 3. The commands -/

/-- `nospoof_version_restricted`. -/
def versionRestricted (s : Server) (c : ClientRef) : Bool :=
  s.config.nospoofEnabled && (s.client c).versionRequested && !(s.client c).versionReceived

/-- `command_join`; `params` is the text after the verb. -/
def commandJoin (s : Server) (c : ClientRef) (params : Option Text) : Server :=
  if !(s.client c).registered then s.notRegistered c
  else match params with
    | none => s.needMoreParams c "JOIN"
    | some params =>
        if s.versionRestricted c then
          s.serverNotice c
            (lit "You must respond to the CTCP VERSION request before joining channels.")
        else match strtokSpace params with
          | none => s.queryNumeric c 403 ['*'] ":No such channel"
          | some (name, rest) =>
              joinOne c ircJoinRedirectMax s name ((strtokSpace rest).map (·.1))

/-- The reason a PART is announced with. -/
def partReason (s : Server) (c : ClientRef) (ch : ChannelRef) (reason : Option Text) : Text :=
  let typed := dropColon (reason.getD [])
  if !typed.isEmpty && s.fits ⟨s.userSource c, .part (s.channel ch).name typed⟩ then typed
  else "Leaving".toList

/-- Announce a PART, remove the client, drop the channel if it is empty. -/
def partChannel (s : Server) (c : ClientRef) (ch : ChannelRef) (reason : Text) : Server :=
  ((s.broadcast ch none ⟨s.userSource c, .part (s.channel ch).name reason⟩).removeFromChannel
    ch c).removeChannelIfEmpty ch

/-- `command_part`. -/
def commandPart (s : Server) (c : ClientRef) (params : Option Text) : Server :=
  if !(s.client c).registered then s.notRegistered c
  else match params with
    | none => s.needMoreParams c "PART"
    | some params =>
        match strtokSpace params with
        | none => s.queryNumeric c 403 ['*'] ":No such channel"
        | some (name, rest) =>
            if !channelNameValid name then s.queryNumeric c 403 name ":No such channel"
            else match s.findChannel name with
              | none => s.numeric c 403 [name, lit ":No such channel"]
              | some ch =>
                  if !s.inChannel ch c then
                    s.numeric c 442 [(s.channel ch).name, lit ":You're not on that channel"]
                  else s.partChannel c ch (s.partReason c ch (strtokRest rest))

end Server

end ScratchIrcd
