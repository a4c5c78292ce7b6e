/-
  File:      ScratchIrcd/Channel.lean
  Subject:   One channel: members, privileges, mask lists, invitations and the join throttle
             (src/channel.c, src/channel_policy.c).

  A `Channel *` of the source is a reference into the server's heap (State.lean); this file
  has the record behind it and the operations that touch nothing else. Lists are in the order
  of the source's linked lists: a new member, mask or invitation goes to the front.
-/
import ScratchIrcd.Line
import ScratchIrcd.Modes

namespace ScratchIrcd

open CText

/-- `ChannelMaskEntry`: one entry of +b, +e or +I. -/
structure MaskEntry where
  mask : Text
  /-- Set only for a +b made by an owner or protected member. -/
  protectedAuthorized : Bool := false
  deriving DecidableEq, Repr

/-- The three privilege words of a `ChannelMember`. Channel policy and the wire see
    `privileges`: the union of the other two, but for what SAMODE writes while it runs. -/
structure Grants where
  /-- What MODE granted. -/
  manual : ChannelPrivilegeSet := ∅
  /-- What ChanServ supplies for the member's account. -/
  service : ChannelPrivilegeSet := ∅
  /-- The word that is asked. Only SAMODE writes it without the other two. -/
  privileges : ChannelPrivilegeSet := manual ∪ service

/-- The word that is asked is the union of its parts. -/
def Grants.Whole (g : Grants) : Prop := g.privileges = g.manual ∪ g.service

instance (g : Grants) : Decidable g.Whole := inferInstanceAs (Decidable (_ = _))

/-- `ChannelMember`. -/
structure Member where
  client : ClientRef
  grants : Grants := {}

namespace Member

abbrev manual (m : Member) : ChannelPrivilegeSet := m.grants.manual
abbrev service (m : Member) : ChannelPrivilegeSet := m.grants.service
abbrev privileges (m : Member) : ChannelPrivilegeSet := m.grants.privileges

end Member

/-- A channel nobody is in. -/
theorem Member.count_nil : 0 = ([] : List Member).length := rfl

/-- `Channel`. -/
structure Channel where
  name : Text
  modes : ChannelModeSet := ∅
  topic : Text := []
  topicSetter : Field := { text := [] }
  topicTime : Nat := 0
  key : Text := []
  userLimit : Nat := 0
  joinThrottleCount : Nat := 0
  joinThrottleSeconds : Nat := 0
  joinThrottleWindowCount : Nat := 0
  joinThrottleWindowStart : Nat := 0
  limitRedirect : Text := []
  banRedirect : Text := []
  chanservPolicyLoaded : Bool := false
  chanservPolicyValid : Bool := false
  chanservFounder : Text := []
  chanservModeLock : ChannelModeSet := ∅
  chanservSecureOps : Bool := false
  chanservSuccessor : Text := []
  chanservGreeting : Text := []
  banList : List MaskEntry := []
  exceptionList : List MaskEntry := []
  inviteExceptionList : List MaskEntry := []
  /-- `ChannelInvite`: connection ids. -/
  invites : List Nat := []
  members : List Member := []
  memberCount : Nat := 0
  /-- One member record per client, and the counter counts them. -/
  members_nodup : (members.map (·.client)).Nodup := by exact List.nodup_nil
  memberCount_eq : memberCount = members.length := by exact Member.count_nil

/-- `CHANNEL_MODE_REGISTERED` is set. -/
def Channel.isRegistered (ch : Channel) : Bool := decide (ChannelMode.registered ∈ ch.modes)

/-! ## 1. Members -/

/-- `channel_find_member`. -/
def Channel.findMember (ch : Channel) (c : ClientRef) : Option Member :=
  ch.members.find? fun m => m.client == c

/-- `channel_has_client`. -/
def Channel.hasClient (ch : Channel) (c : ClientRef) : Bool := (ch.findMember c).isSome

theorem Channel.hasClient_iff (ch : Channel) (c : ClientRef) :
    ch.hasClient c = true ↔ c ∈ ch.members.map (·.client) := by
  simp [Channel.hasClient, Channel.findMember]

/-- Apply a change to the privileges of some members, given by client. -/
def Channel.mapGrants (ch : Channel) (f : ClientRef → Grants → Grants) : Channel :=
  { ch with
    members := ch.members.map fun m => { m with grants := f m.client m.grants }
    members_nodup := by simpa [List.map_map, Function.comp_def] using ch.members_nodup
    memberCount_eq := by simpa using ch.memberCount_eq }

@[simp] theorem Channel.map_client_mapGrants (ch : Channel) (f : ClientRef → Grants → Grants) :
    (ch.mapGrants f).members.map (·.client) = ch.members.map (·.client) := by
  simp [Channel.mapGrants, Function.comp_def]

/-- Apply a change to the privileges of one client's member record. -/
def Channel.updateMember (ch : Channel) (c : ClientRef) (f : Grants → Grants) : Channel :=
  ch.mapGrants fun c' g => if c' == c then f g else g

/-- The channel's half of `channel_add_client`. -/
def Channel.addMember (ch : Channel) (c : ClientRef) : Channel :=
  if h : ch.hasClient c then ch
  else
    { ch with
      members := { client := c } :: ch.members
      memberCount := ch.memberCount + 1
      members_nodup := by
        rw [Channel.hasClient_iff] at h
        exact List.nodup_cons.mpr ⟨h, ch.members_nodup⟩
      memberCount_eq := by simp [ch.memberCount_eq] }

/-- Unlink the member record of a client. -/
def dropMember (c : ClientRef) (ms : List Member) : List Member :=
  ms.eraseP fun m => m.client == c

/-- The channel's half of `channel_remove_client`. -/
def Channel.removeMember (ch : Channel) (c : ClientRef) : Channel :=
  { ch with
    members := dropMember c ch.members
    memberCount := if ch.hasClient c then ch.memberCount - 1 else ch.memberCount
    members_nodup := ch.members_nodup.sublist (List.eraseP_sublist.map _)
    memberCount_eq := by
      rw [dropMember, List.length_eraseP, ch.memberCount_eq]
      simp only [Channel.hasClient_iff, List.any_eq_true, List.mem_map, beq_iff_eq] }

/-- `channel_add_privileges`. -/
def Grants.addManual (p : ChannelPrivilegeSet) (g : Grants) : Grants :=
  { manual := g.manual ∪ p, service := g.service }

/-- `channel_remove_manual_privileges`. -/
def Grants.removeManual (p : ChannelPrivilegeSet) (g : Grants) : Grants :=
  { manual := g.manual \ p, service := g.service }

/-- `channel_set_service_privileges`. -/
def Grants.setService (p : ChannelPrivilegeSet) (g : Grants) : Grants :=
  { manual := g.manual, service := p }

/-- One member's part of `channel_forget_service_privileges`. -/
def Grants.forgetService (g : Grants) : Grants := { manual := g.manual ∪ g.service }

/-- `channel_forget_service_privileges`. -/
def Channel.forgetServicePrivileges (ch : Channel) : Channel :=
  ch.mapGrants fun _ g => g.forgetService

/-! ## 2. Mask lists -/

/-- `IRC_CHANNEL_MASK_LIST_MAX`. -/
def ircChannelMaskListMax : Nat := 100

/-- The results of `channel_mask_add_authorized` below zero. -/
inductive MaskError where
  | invalid | full
  deriving DecidableEq, Repr

/-- `channel_mask_add_authorized`: an equal mask (by bytes) is kept and may gain the
    authorization; a new one goes to the front unless the list is full. -/
def maskAddAuthorized (l : List MaskEntry) (mask : Text) (authorized : Bool) :
    Except MaskError (List MaskEntry) :=
  if mask.isEmpty || decide (ircChannelMaskMax < mask.length) then .error .invalid
  else if l.any (fun e => e.mask == mask) then
    .ok (l.map fun e => if e.mask == mask && authorized then
      { e with protectedAuthorized := true } else e)
  else if ircChannelMaskListMax ≤ l.length then .error .full
  else .ok ({ mask := mask, protectedAuthorized := authorized } :: l)

/-- `channel_mask_remove`: unlink the first equal mask, if there is one. -/
def maskRemove (mask : Text) : List MaskEntry → List MaskEntry
  | [] => []
  | e :: l => if e.mask == mask then l else e :: maskRemove mask l

/-! ## 3. Wildcards -/

/-- The loop of `irc_mask_match`: `star` holds the pattern after the last `*` and the text to
    retry it from. One unit of fuel is one turn of the loop. -/
def maskMatchLoop : Nat → Text → Text → Option (Text × Text) → Bool
  | 0, _, _, _ => false
  | _ + 1, p, [], _ => p.all (· == '*')
  | n + 1, p, t :: ts, star =>
      let retry := match star with
        | some (sp, _ :: rest) => maskMatchLoop n sp rest (some (sp, rest))
        | _ => false
      match p with
      | '*' :: p' => maskMatchLoop n p' (t :: ts) (some (p', t :: ts))
      | c :: p' =>
          if c == '?' || rfc1459Fold c == rfc1459Fold t then maskMatchLoop n p' ts star else retry
      | [] => retry

/-- `irc_mask_match`. Every turn shortens the text, the pattern or the text to retry from. -/
def ircMaskMatch (pattern text : Text) : Bool :=
  maskMatchLoop ((text.length + 1) * (pattern.length + text.length + 2)) pattern text none

/-- `nick!user@host`, the identity masks are matched against. -/
def identity (nick user host : Text) : Text := nick ++ '!' :: user ++ '@' :: host

/-- `channel_mask_matches_client`, for the client with this identity. -/
def maskListMatches (l : List MaskEntry) (ident : Text) : Bool :=
  l.any fun e => ircMaskMatch e.mask ident

/-- `channel_client_is_banned`. -/
def Channel.isBanned (ch : Channel) (ident : Text) : Bool :=
  maskListMatches ch.banList ident && !maskListMatches ch.exceptionList ident

/-- `channel_client_is_banned_protected`: only bans with owner or protected authority count. -/
def Channel.isBannedProtected (ch : Channel) (ident : Text) : Bool :=
  maskListMatches (ch.banList.filter (·.protectedAuthorized)) ident &&
    !maskListMatches ch.exceptionList ident

/-- `channel_client_is_invex`. -/
def Channel.isInvex (ch : Channel) (ident : Text) : Bool :=
  maskListMatches ch.inviteExceptionList ident

/-! ## 4. Invitations and the join throttle -/

/-- `IRC_CHANNEL_INVITE_MAX`. -/
def ircChannelInviteMax : Nat := 128

/-- `channel_invite_has`. -/
def Channel.inviteHas (ch : Channel) (id : Nat) : Bool := id != 0 && ch.invites.contains id

/-- `channel_invite_consume`. -/
def Channel.inviteConsume (ch : Channel) (id : Nat) : Channel :=
  if id == 0 then ch else { ch with invites := ch.invites.erase id }

/-- `channel_invite_add`: `none` when the list is full (or the id is 0). -/
def Channel.inviteAdd (ch : Channel) (id : Nat) : Option Channel :=
  if id == 0 then none
  else if ch.invites.contains id then some ch
  else if ircChannelInviteMax ≤ ch.invites.length then none
  else some { ch with invites := id :: ch.invites }

/-- The +j window is closed: no join in it yet, the clock went back, or it expired. -/
def Channel.throttleWindowOver (ch : Channel) (now : Nat) : Bool :=
  ch.joinThrottleWindowCount == 0 || decide (now < ch.joinThrottleWindowStart) ||
    decide (ch.joinThrottleSeconds ≤ now - ch.joinThrottleWindowStart)

/-- `channel_join_throttle_allows`. -/
def Channel.joinThrottleAllows (ch : Channel) (now : Nat) : Bool :=
  ch.joinThrottleCount == 0 || ch.joinThrottleSeconds == 0 || ch.throttleWindowOver now ||
    decide (ch.joinThrottleWindowCount < ch.joinThrottleCount)

/-- `channel_join_throttle_record`. -/
def Channel.joinThrottleRecord (ch : Channel) (now : Nat) : Channel :=
  if ch.joinThrottleCount == 0 || ch.joinThrottleSeconds == 0 then ch
  else if ch.throttleWindowOver now then
    { ch with joinThrottleWindowStart := now, joinThrottleWindowCount := 1 }
  else { ch with joinThrottleWindowCount := ch.joinThrottleWindowCount + 1 }

/-- `channel_join_throttle_clear`. -/
def Channel.joinThrottleClear (ch : Channel) : Channel :=
  { ch with joinThrottleWindowCount := 0, joinThrottleWindowStart := 0 }

end ScratchIrcd
