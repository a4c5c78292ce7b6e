/-
  File:      ScratchIrcd/Topic.lean
  Subject:   TOPIC and INVITE (src/commands/topic.c, src/commands/invite.c): the commands that
             write to a channel without touching its members, its modes or its policy.
-/
import ScratchIrcd.ChanServ
import ScratchIrcd.ModeRule

namespace ScratchIrcd

open CText Relation

namespace Server

/-! ## 1. TOPIC -/

/-- `visibility_names_channel`. -/
def namesVisible (s : Server) (c : ClientRef) (ch : ChannelRef) : Bool :=
  if (s.client c).isOper || s.inChannel ch c then true
  else if (s.channel ch).name.head? = some '&' then false
  else decide (Disjoint (s.channel ch).modes {.privateChan, .secret})

/-- TOPIC without a topic. -/
def topicQuery (s : Server) (c : ClientRef) (ch : ChannelRef) : Server :=
  let chan := s.channel ch
  if !s.namesVisible c ch then s.numeric c 403 [chan.name, lit ":No such channel"]
  else if chan.topic.isEmpty then s.numeric c 331 [chan.name, lit ":No topic is set."]
  else (s.numeric c 332 [chan.name, (':' :: chan.topic : Text)]).numeric c 333
    [chan.name, chan.topicSetter, decimal chan.topicTime]

/-- TOPIC with one: the setter is written as SET TOPIC of ChanServ writes it. -/
def topicSet (s : Server) (c : ClientRef) (ch : ChannelRef) (topic : Text) : Server :=
  let chan := s.channel ch
  match chan.findMember c with
  | none => s.numeric c 442 [chan.name, lit ":You're not on that channel"]
  | some m =>
      let topic := dropColon topic
      if decide (ChannelMode.topicLock ∈ chan.modes) && decide (privilegeRank m.privileges < 2) then
        s.numeric c 482 [chan.name, lit ":You're not channel operator"]
      else if decide (ircTopicLimit s.config < topic.length) ||
          !s.fits ⟨s.userSource c, .topic chan.name topic⟩ then
        s.numeric c 417 [lit "TOPIC", lit ":Topic would exceed the IRC line limit"]
      else
        let s := s.updChannel ch fun chan => { chan with
          topic := topic, topicSetter := s.topicSetter c, topicTime := s.now }
        s.broadcast ch none ⟨s.userSource c, .topic (s.channel ch).name (s.channel ch).topic⟩

/-- `command_topic`. -/
def commandTopic (s : Server) (c : ClientRef) (params : Option Text) : Server :=
  if !(s.client c).registered then s.notRegistered c
  else match params.bind strtokSpace with
    | none => s.needMoreParams c "TOPIC"
    | some (name, rest) =>
        match s.findChannel name with
        | none => s.queryNumeric c 403 name ":No such channel"
        | some ch =>
            match strtokRest rest with
            | none => s.topicQuery c ch
            | some topic => s.topicSet c ch topic

/-! ## 2. INVITE -/

/-- INVITE of a registered client to a live channel. -/
def inviteTo (s : Server) (c target : ClientRef) (ch : ChannelRef) : Server :=
  let chan := s.channel ch
  match chan.findMember c with
  | none => s.numeric c 442 [chan.name, lit ":You're not on that channel"]
  | some m =>
      if Disjoint m.privileges {.halfop, .operator, .protect, .owner} then
        s.numeric c 482 [chan.name, lit ":You're not channel operator"]
      else if ChannelMode.noInvite ∈ chan.modes then
        s.numeric c 518 [lit ":Cannot", lit "invite", lit "(+V)", lit "at", lit "channel", chan.name]
      else if chan.hasClient target then
        s.numeric c 443 [(s.client target).nick, chan.name, lit ":is already on channel"]
      else match chan.inviteAdd (s.client target).id with
        | none =>
            if (s.client target).id = 0 then s
            else s.serverNotice c ("Channel ".toList ++ chan.name ++
              " pending invite list is full (maximum ".toList ++ decimal ircChannelInviteMax ++
              [')'] : Text)
        | some chan' =>
            ((s.updChannel ch fun chan => { chan with invites := chan'.invites }).numeric c 341
              [(s.client target).nick, chan.name]).send target
                ⟨s.userSource c, .invite (s.client target).nick chan.name⟩

/-- `command_invite`. -/
def commandInvite (s : Server) (c : ClientRef) (params : Option Text) : Server :=
  if !(s.client c).registered then s.notRegistered c
  else match params.bind strtokSpace with
    | none => s.needMoreParams c "INVITE"
    | some (nick, rest) =>
        match strtokSpace rest with
        | none => s.needMoreParams c "INVITE"
        | some (name, _) =>
            if !channelNameValid name then s.queryNumeric c 403 name ":No such channel"
            else match (s.findNick nick).filter fun t => (s.client t).registered with
              | none => s.queryNumeric c 401 nick ":No such nick/channel"
              | some target =>
                  match s.findChannel name with
                  | none => s.numeric c 403 [name, lit ":No such channel"]
                  | some ch => s.inviteTo c target ch

def withInvites (s : Server) (ch : ChannelRef) (invites : List Nat) : Server :=
  s.updChannel ch fun chan => { chan with invites := invites }

/-- The checks of INVITE on the channel, the last of which is that there is room for one more. -/
def mayInvite (s : Server) (c target : ClientRef) (ch : ChannelRef) : Bool :=
  let chan := s.channel ch
  match chan.findMember c with
  | none => false
  | some m =>
      if Disjoint m.privileges {.halfop, .operator, .protect, .owner} then false
      else if ChannelMode.noInvite ∈ chan.modes then false
      else !chan.hasClient target && (chan.inviteAdd (s.client target).id).isSome

/-- The connection and the channel of an INVITE that succeeds. -/
def inviteGrant (s : Server) (c : ClientRef) (params : Option Text) : Option (ClientRef × ChannelRef) :=
  if !(s.client c).registered then none
  else (params.bind strtokSpace).bind fun (nick, rest) => (strtokSpace rest).bind fun (name, _) =>
    if !channelNameValid name then none
    else ((s.findNick nick).filter fun t => (s.client t).registered).bind fun target =>
      (s.findChannel name).bind fun ch =>
        if s.mayInvite c target ch then some (target, ch) else none

/-- **INVITE says something, or puts a connection on the list of a channel.** -/
theorem commandInvite_induct {P : Server → Prop} {s : Server} {c : ClientRef} {params : Option Text}
    (h : P s) (say : ∀ ds, P (s.deliver ds))
    (grant : ∀ name target ch chan' ds₁ ds₂, s.findChannel name = some ch →
      (∃ nick, s.findNick nick = some target) → s.inviteGrant c params = some (target, ch) →
      (s.channel ch).inviteAdd (s.client target).id = some chan' →
      P (((s.withInvites ch chan'.invites).deliver ds₁).deliver ds₂)) : P (s.commandInvite c params) := by
  have ask : ∀ code query text, P (s.queryNumeric c code query text) := queryNumeric_induct h say
  unfold commandInvite
  split
  · exact say _
  rename_i hreg
  split
  · exact say _
  rename_i nick rest hnick
  split
  · exact say _
  rename_i name _ hname
  split
  · exact ask _ _ _
  rename_i hvalid
  split
  · exact ask _ _ _
  rename_i target htarget
  split
  · exact say _
  rename_i ch hfind
  unfold inviteTo
  dsimp only
  split
  · exact say _
  rename_i m hmember
  split
  · exact say _
  rename_i hrank
  split
  · exact say _
  rename_i hmode
  split
  · exact say _
  rename_i hout
  split
  · split
    · exact h
    · exact say _
  · rename_i chan' hadd
    have hmay : s.mayInvite c target ch = true := by
      unfold mayInvite
      dsimp only
      rw [hmember]
      dsimp only
      rw [if_neg hrank, if_neg hmode, hadd, Bool.eq_false_iff.mpr hout]
      rfl
    refine grant name target ch chan' _ _ hfind ⟨nick, (Option.filter_eq_some_iff.mp htarget).1⟩ ?_ hadd
    rw [inviteGrant, if_neg hreg, hnick, Option.bind_some]
    dsimp only
    rw [hname, Option.bind_some]
    dsimp only
    rw [if_neg hvalid, htarget, hfind, Option.bind_some, Option.bind_some, if_pos hmay]

/-! ## 3. What TOPIC writes -/

/-- TOPIC says something, or sets the topic of a channel and says so. -/
theorem commandTopic_induct {P : Server → Prop} {s : Server} {c : ClientRef} {params : Option Text}
    (say : ∀ s ds, P s → P (s.deliver ds))
    (set : ∀ name ch topic setter time, s.findChannel name = some ch → P (s.updChannel ch fun chan =>
      { chan with topic := topic, topicSetter := setter, topicTime := time }))
    (h : P s) : P (s.commandTopic c params) := by
  unfold commandTopic
  split
  · exact say _ _ h
  split
  · exact say _ _ h
  rename_i name _ _
  split
  · exact queryNumeric_induct h (fun _ => say _ _ h) _ _ _
  rename_i ch hfind
  split
  · unfold topicQuery
    dsimp only
    split
    · exact say _ _ h
    split
    · exact say _ _ h
    · exact say _ _ (say _ _ h)
  · unfold topicSet
    dsimp only
    split
    · exact say _ _ h
    split
    · exact say _ _ h
    split
    · exact say _ _ h
    · exact say _ _ (set name ch _ _ _ hfind)

theorem quiet_commandTopic (s : Server) (c : ClientRef) (params : Option Text) :
    s.Quiet (s.commandTopic c params) :=
  commandTopic_induct (fun s ds h => h.trans (s.quiet_deliver ds))
    (fun _ ch _ _ _ _ => s.quiet_updChannel ch _ rfl rfl (.refl _)) (.refl s)

end Server

end ScratchIrcd
