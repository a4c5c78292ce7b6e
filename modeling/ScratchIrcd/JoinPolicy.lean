/-
  File:      ScratchIrcd/JoinPolicy.lean
  Subject:   What a JOIN does to a registered channel: when the persisted policy is what the
             admission is decided on.
-/
import ScratchIrcd.JoinPart
import ScratchIrcd.Quiet

namespace ScratchIrcd

open CText

variable {created : Bool} {r : ChanServChannel} {a b : Channel} {ch : ChannelRef} {c : ClientRef}
  {key : Option Text} {t : RuntimeTables} {s s' : Server} {P : Server → Prop} {name : Text}

/-! ## 1. Under policy -/

/-- The channel is +r and has the modes of the row's lock. -/
def Channel.Locked (ch : Channel) (r : ChanServChannel) : Prop :=
  insert ChannelMode.registered r.modeLock ⊆ ch.modes

/-- The record carries +r, the modes of the row's lock, and the persisted runtime state. -/
structure Channel.UnderPolicy (ch : Channel) (r : ChanServChannel) (t : RuntimeTables) : Prop where
  locked : ch.Locked r
  runtime : ch.CarriesRuntime t

/-- Two records with the same name and the same policy; members, invitations and the throttle
    window may differ. -/
structure Channel.SamePolicy (a b : Channel) : Prop where
  name : b.name = a.name
  modes : b.modes = a.modes
  topic : b.topic = a.topic
  loaded : b.chanservPolicyLoaded = a.chanservPolicyLoaded
  valid : b.chanservPolicyValid = a.chanservPolicyValid
  modeLock : b.chanservModeLock = a.chanservModeLock
  key : b.key = a.key
  userLimit : b.userLimit = a.userLimit
  joinCount : b.joinThrottleCount = a.joinThrottleCount
  joinSeconds : b.joinThrottleSeconds = a.joinThrottleSeconds
  limitRedirect : b.limitRedirect = a.limitRedirect
  banRedirect : b.banRedirect = a.banRedirect
  maskList : ∀ kind, b.maskList kind = a.maskList kind

namespace Channel

theorem SamePolicy.refl (a : Channel) : a.SamePolicy a :=
  ⟨rfl, rfl, rfl, rfl, rfl, rfl, rfl, rfl, rfl, rfl, rfl, rfl, fun _ => rfl⟩

theorem SamePolicy.symm (h : a.SamePolicy b) : b.SamePolicy a :=
  ⟨h.name.symm, h.modes.symm, h.topic.symm, h.loaded.symm, h.valid.symm, h.modeLock.symm, h.key.symm,
    h.userLimit.symm, h.joinCount.symm, h.joinSeconds.symm, h.limitRedirect.symm, h.banRedirect.symm,
    fun kind => (h.maskList kind).symm⟩

theorem SamePolicy.trans {c : Channel} (h₁ : a.SamePolicy b) (h₂ : b.SamePolicy c) :
    a.SamePolicy c :=
  ⟨h₂.name.trans h₁.name, h₂.modes.trans h₁.modes, h₂.topic.trans h₁.topic,
    h₂.loaded.trans h₁.loaded, h₂.valid.trans h₁.valid, h₂.modeLock.trans h₁.modeLock,
    h₂.key.trans h₁.key,
    h₂.userLimit.trans h₁.userLimit, h₂.joinCount.trans h₁.joinCount,
    h₂.joinSeconds.trans h₁.joinSeconds, h₂.limitRedirect.trans h₁.limitRedirect,
    h₂.banRedirect.trans h₁.banRedirect, fun kind => (h₂.maskList kind).trans (h₁.maskList kind)⟩

theorem CarriesRuntime.of_samePolicy (h : a.SamePolicy b) (ha : a.CarriesRuntime t) :
    b.CarriesRuntime t where
  key := by rw [h.key, h.name, ha.key]
  userLimit := by rw [h.userLimit, h.name, ha.userLimit]
  joinCount := by rw [h.joinCount, h.name, ha.joinCount]
  joinSeconds := by rw [h.joinSeconds, h.name, ha.joinSeconds]
  limitRedirect := by rw [h.limitRedirect, h.name, ha.limitRedirect]
  banRedirect := by rw [h.banRedirect, h.name, ha.banRedirect]
  masks kind := by rw [h.maskList, h.name]; exact ha.masks kind

theorem UnderPolicy.of_samePolicy (h : a.SamePolicy b) (ha : a.UnderPolicy r t) :
    b.UnderPolicy r t :=
  ⟨ha.locked.trans h.modes.ge, ha.runtime.of_samePolicy h⟩

theorem Locked.isRegistered {ch : Channel} (h : ch.Locked r) : ch.isRegistered = true :=
  decide_eq_true (h (Finset.mem_insert_self _ _))

/-! ## 2. What sync does to a record -/

/-- `b` is `a` with some grants changed, none of the manual ones extended. -/
def Regranted (a b : Channel) : Prop :=
  ∃ f : ClientRef → Grants → Grants, b = a.mapGrants f ∧ ∀ c g, (f c g).manual ⊆ g.manual

theorem Regranted.refl (a : Channel) : a.Regranted a :=
  ⟨fun _ g => g, by cases a; simp [mapGrants], fun _ _ => subset_rfl⟩

theorem Regranted.trans {c : Channel} (h₁ : a.Regranted b) (h₂ : b.Regranted c) :
    a.Regranted c := by
  obtain ⟨f, rfl, hf⟩ := h₁
  obtain ⟨f', rfl, hf'⟩ := h₂
  refine ⟨fun c g => f' c (f c g), ?_, fun c g => (hf' c _).trans (hf c g)⟩
  simp [mapGrants, Function.comp_def]

theorem Regranted.samePolicy (h : a.Regranted b) : a.SamePolicy b := by
  obtain ⟨f, rfl, -⟩ := h
  exact ⟨rfl, rfl, rfl, rfl, rfl, rfl, rfl, rfl, rfl, rfl, rfl, rfl, fun kind => by cases kind <;> rfl⟩

/-- The client holds no manual privilege in the channel. -/
def NoManual (ch : Channel) (c : ClientRef) : Prop :=
  ∀ m ∈ ch.members, m.client = c → m.manual = ∅

/-- Nobody is privileged where they are not. -/
theorem noManual_of_out {ch : Channel} (h : ch.hasClient c = false) : ch.NoManual c := by
  intro m hm hc
  have : c ∈ ch.members.map (·.client) := List.mem_map.mpr ⟨m, hm, hc⟩
  rw [← hasClient_iff, h] at this
  cases this

theorem Regranted.noManual (h : a.Regranted b) (ha : a.NoManual c) : b.NoManual c := by
  obtain ⟨f, rfl, hf⟩ := h
  intro m hm hc
  obtain ⟨m₀, hm₀, rfl⟩ := List.mem_map.mp hm
  have hsub := hf m₀.client m₀.grants
  have h₀ : m₀.grants.manual = ∅ := ha m₀ hm₀ hc
  exact Finset.subset_empty.mp (h₀ ▸ hsub)

end Channel

theorem Grants.sync_manual_subset (secureOps : Bool) (desired : ChannelPrivilegeSet) (g : Grants) :
    (g.sync secureOps desired).manual ⊆ g.manual := by
  unfold Grants.sync
  cases secureOps
  · exact subset_rfl
  · exact Finset.sdiff_subset

namespace Server

/-- `sync_member_privileges` changes grants of one channel and nothing else of any record. -/
theorem regranted_syncMember (s : Server) (ch : ChannelRef) (c : ClientRef) :
    (s.channel ch).Regranted ((s.syncMember ch c).channel ch) ∧
      ∀ ch', ch' ≠ ch → (s.syncMember ch c).channel ch' = s.channel ch' := by
  unfold syncMember
  split
  · exact ⟨.refl _, fun _ _ => rfl⟩
  · rename_i m hm
    dsimp only
    rw [channel_broadcastPrivilegeChange, channel_broadcastPrivilegeChange]
    generalize hp : (if (s.channel ch).isRegistered = true then
      s.clientPrivileges c (s.channel ch).name else (∅, s)) = p
    have hchan : p.2.channel = s.channel := by
      rw [← hp]; split_ifs <;> rfl
    refine ⟨?_, fun ch' hne => by rw [updChannel_of_ne _ _ _ _ hne, hchan]⟩
    rw [updChannel_self, hchan]
    refine ⟨_, rfl, fun c' g => ?_⟩
    dsimp only
    split_ifs
    · exact Grants.sync_manual_subset _ _ _
    · exact subset_rfl

/-- The same for the whole channel, by induction on its members. -/
theorem regranted_syncChannel (s : Server) (ch : ChannelRef) :
    (s.channel ch).Regranted ((s.syncChannel ch).channel ch) ∧
      ∀ ch', ch' ≠ ch → (s.syncChannel ch).channel ch' = s.channel ch' := by
  unfold syncChannel
  generalize s.memberRefs ch = cs
  induction cs generalizing s with
  | nil => exact ⟨.refl _, fun _ _ => rfl⟩
  | cons c cs ih =>
    obtain ⟨hone, hone'⟩ := s.regranted_syncMember ch c
    obtain ⟨hrest, hrest'⟩ := ih (s.syncMember ch c)
    exact ⟨hone.trans hrest, fun ch' hne => (hrest' ch' hne).trans (hone' ch' hne)⟩

end Server

/-! ## 3. Admission -/

namespace Channel

theorem samePolicy_addMember (ch : Channel) (c : ClientRef) : ch.SamePolicy (ch.addMember c) := by
  unfold addMember
  split_ifs
  · exact .refl ch
  · exact ⟨rfl, rfl, rfl, rfl, rfl, rfl, rfl, rfl, rfl, rfl, rfl, rfl, fun kind => by cases kind <;> rfl⟩

theorem samePolicy_mapGrants (ch : Channel) (f : ClientRef → Grants → Grants) :
    ch.SamePolicy (ch.mapGrants f) :=
  ⟨rfl, rfl, rfl, rfl, rfl, rfl, rfl, rfl, rfl, rfl, rfl, rfl, fun kind => by cases kind <;> rfl⟩

theorem samePolicy_updateMember (ch : Channel) (c : ClientRef) (f : Grants → Grants) :
    ch.SamePolicy (ch.updateMember c f) := ch.samePolicy_mapGrants _

theorem joinThrottleRecord_spec (ch : Channel) (now : Nat) :
    ch.SamePolicy (ch.joinThrottleRecord now) ∧ (ch.joinThrottleRecord now).members = ch.members := by
  unfold joinThrottleRecord
  split_ifs
  · exact ⟨.refl ch, rfl⟩
  · exact ⟨⟨rfl, rfl, rfl, rfl, rfl, rfl, rfl, rfl, rfl, rfl, rfl, rfl, fun kind => by cases kind <;> rfl⟩, rfl⟩
  · exact ⟨⟨rfl, rfl, rfl, rfl, rfl, rfl, rfl, rfl, rfl, rfl, rfl, rfl, fun kind => by cases kind <;> rfl⟩, rfl⟩

theorem inviteConsume_spec (ch : Channel) (id : Nat) :
    ch.SamePolicy (ch.inviteConsume id) ∧ (ch.inviteConsume id).members = ch.members := by
  unfold inviteConsume
  split_ifs
  · exact ⟨.refl ch, rfl⟩
  · exact ⟨⟨rfl, rfl, rfl, rfl, rfl, rfl, rfl, rfl, rfl, rfl, rfl, rfl, fun kind => by cases kind <;> rfl⟩, rfl⟩

theorem SamePolicy.isRegistered (h : a.SamePolicy b) : b.isRegistered = a.isRegistered := by
  unfold Channel.isRegistered
  rw [h.modes]

/-- An invitation is used up where there was one. -/
theorem invites_seat (ch : Channel) (c : ClientRef) (id now : Nat) (first invited : Bool)
    (service : ChannelPrivilegeSet) : (ch.seat c id now first invited service).invites =
      if invited then (ch.inviteConsume id).invites else ch.invites := by
  have hrecord : (ch.joinThrottleRecord now).invites = ch.invites := by
    unfold joinThrottleRecord
    split_ifs <;> rfl
  have hconsume : ((ch.joinThrottleRecord now).inviteConsume id).invites =
      (ch.inviteConsume id).invites := by
    unfold inviteConsume
    split_ifs
    · exact hrecord
    · exact congrArg (List.erase · id) hrecord
  unfold seat
  dsimp only
  split_ifs <;> first | exact hconsume | exact hrecord

theorem sublist_inviteConsume (ch : Channel) (id : Nat) :
    (ch.inviteConsume id).invites.Sublist ch.invites := by
  unfold inviteConsume
  split_ifs
  · exact .refl _
  · exact List.erase_sublist

/-- Seating keeps the policy and the clients; a registered channel grants nothing by hand. -/
theorem seat_spec (ch : Channel) (c : ClientRef) (id now : Nat) (first invited : Bool)
    (service : ChannelPrivilegeSet) :
    ch.SamePolicy (ch.seat c id now first invited service) ∧
      (ch.seat c id now first invited service).members.map (·.client) =
        ch.members.map (·.client) ∧
      (ch.isRegistered = true → ∀ c', ch.NoManual c' →
        (ch.seat c id now first invited service).NoManual c') := by
  obtain ⟨h₁, hm₁⟩ := ch.joinThrottleRecord_spec now
  -- the record after the throttle and the invitation
  obtain ⟨ch₂, hdef, h₂, hm₂⟩ : ∃ ch₂, (if invited = true then
      (ch.joinThrottleRecord now).inviteConsume id else ch.joinThrottleRecord now) = ch₂ ∧
      ch.SamePolicy ch₂ ∧ ch₂.members = ch.members := by
    refine ⟨_, rfl, ?_⟩
    split_ifs
    · obtain ⟨h, hm⟩ := (ch.joinThrottleRecord now).inviteConsume_spec id
      exact ⟨h₁.trans h, hm.trans hm₁⟩
    · exact ⟨h₁, hm₁⟩
  unfold seat
  dsimp only
  rw [hdef]
  have hno : ∀ {c'}, ch.NoManual c' → ch₂.NoManual c' := fun h m hm => h m (hm₂ ▸ hm)
  cases hreg : ch₂.isRegistered
  · have hoff : ch.isRegistered = false := h₂.isRegistered ▸ hreg
    refine ⟨?_, ?_, fun h => absurd h (by simp [hoff])⟩
    · cases first
      · simpa [hreg] using h₂
      · have hg : (ch₂.updateMember c (·.addManual ownerPrivileges)).isRegistered = false := hreg
        simpa [hreg, hg] using h₂.trans (ch₂.samePolicy_updateMember c _)
    · cases first
      · simp [hreg, hm₂]
      · have hg : (ch₂.updateMember c (·.addManual ownerPrivileges)).isRegistered = false := hreg
        simp only [hg, Bool.not_false, Bool.and_self, if_true, Bool.false_eq_true,
          false_and, if_false]
        rw [updateMember, map_client_mapGrants, hm₂]
  · simp only [hreg, Bool.not_true, Bool.and_false, Bool.false_eq_true, if_false, true_and]
    split_ifs
    · refine ⟨h₂.trans (ch₂.samePolicy_updateMember c _), ?_, fun _ c' h => ?_⟩
      · rw [updateMember, map_client_mapGrants, hm₂]
      · refine Regranted.noManual ⟨_, rfl, fun c'' g => ?_⟩ (hno h)
        dsimp only
        split_ifs <;> exact subset_rfl
    · exact ⟨h₂, by rw [hm₂], fun _ _ h => hno h⟩

end Channel

namespace Server

/-- The record of a channel after a client that was not in it was admitted. -/
theorem channel_addToChannel (h : s.inChannel ch c = false) :
    (s.addToChannel ch c).channel ch = (s.channel ch).addMember c := by
  unfold addToChannel
  rw [if_neg (by simp [h]), updClient_channel, updChannel_self]

theorem members_addMember {ch : Channel} (h : ch.hasClient c = false) :
    (ch.addMember c).members = { client := c } :: ch.members := by
  unfold Channel.addMember
  rw [dif_neg (by simp [h])]

theorem inChannel_joinSeat_of_ne (s : Server) {ch' : ChannelRef} (service : ChannelPrivilegeSet)
    (hne : ch' ≠ ch) : (s.joinSeat c ch service).channel ch' = s.channel ch' := by
  unfold joinSeat
  dsimp only
  rw [updChannel_of_ne _ _ _ _ hne]
  unfold addToChannel
  split_ifs
  · rfl
  · rw [updClient_channel, updChannel_of_ne _ _ _ _ hne]

theorem findChannel_joinSeat (s : Server) (c : ClientRef) (ch : ChannelRef)
    (service : ChannelPrivilegeSet) (name : Text) :
    (s.joinSeat c ch service).findChannel name = s.findChannel name := by
  unfold joinSeat addToChannel
  dsimp only
  split_ifs <;> rfl

theorem storage_joinSeat (s : Server) (c : ClientRef) (ch : ChannelRef)
    (service : ChannelPrivilegeSet) : (s.joinSeat c ch service).storage = s.storage := by
  unfold joinSeat addToChannel
  dsimp only
  split_ifs <;> rfl

/-- The record a newcomer finds: the policy is the one it was admitted under, the newcomer is
    in it, and a registered channel gave nobody anything by hand. -/
theorem joinSeat_spec (service : ChannelPrivilegeSet) (hout : s.inChannel ch c = false) :
    (s.channel ch).SamePolicy ((s.joinSeat c ch service).channel ch) ∧
      ((s.joinSeat c ch service).channel ch).hasClient c = true ∧
      ((s.channel ch).isRegistered = true → ∀ c', (s.channel ch).NoManual c' →
        ((s.joinSeat c ch service).channel ch).NoManual c') := by
  have hadd := (s.channel ch).samePolicy_addMember c
  have hmembers : ((s.channel ch).addMember c).members = { client := c } :: (s.channel ch).members :=
    members_addMember hout
  unfold joinSeat
  dsimp only
  rw [updChannel_self, channel_addToChannel hout]
  obtain ⟨hpolicy, hclients, hmanual⟩ := ((s.channel ch).addMember c).seat_spec c (s.client c).id
    s.now (decide ((s.channel ch).memberCount = 0)) ((s.channel ch).inviteHas (s.client c).id)
    service
  refine ⟨hadd.trans hpolicy, ?_, fun hreg c' hno => hmanual (hadd.isRegistered ▸ hreg) c' ?_⟩
  · rw [Channel.hasClient_iff, hclients, hmembers]
    exact List.mem_cons_self
  · intro m hm hc
    rw [hmembers] at hm
    rcases List.mem_cons.mp hm with rfl | hm
    · rfl
    · exact hno m hm hc

/-- Everything after the channel is changed is output. -/
theorem silent_joinTopic (s : Server) (c : ClientRef) (ch : ChannelRef) :
    s.Silent (s.joinTopic c ch) ∧ (s.joinTopic c ch).channel = s.channel := by
  unfold joinTopic
  dsimp only
  split_ifs
  · exact ⟨s.silent_deliver _, rfl⟩
  · exact ⟨(s.silent_deliver _).trans (silent_deliver _ _), rfl⟩
  · exact ⟨(s.silent_deliver _).trans (silent_deliver _ _), rfl⟩
  · exact ⟨((s.silent_deliver _).trans (silent_deliver _ _)).trans (silent_deliver _ _), rfl⟩

theorem silent_awayNotifyJoin (s : Server) (ch : ChannelRef) (c : ClientRef) :
    s.Silent (s.awayNotifyJoin ch c) ∧ (s.awayNotifyJoin ch c).channel = s.channel := by
  unfold awayNotifyJoin
  split_ifs
  · exact ⟨.refl s, rfl⟩
  · exact ⟨s.silent_deliver _, rfl⟩

/-- From the seat on: privileges are brought in step, the rest is output. -/
theorem joinAdmit_spec (s : Server) (c : ClientRef) (ch : ChannelRef)
    (service : ChannelPrivilegeSet) :
    (s.joinSeat c ch service).Silent (s.joinAdmit c ch service) ∧
      ((s.joinSeat c ch service).channel ch).Regranted ((s.joinAdmit c ch service).channel ch) ∧
      ∀ ch', ch' ≠ ch →
        (s.joinAdmit c ch service).channel ch' = (s.joinSeat c ch service).channel ch' := by
  unfold joinAdmit
  generalize s.joinSeat c ch service = s₁
  dsimp only
  obtain ⟨s₂, hs₂, hsil, hre, hother⟩ : ∃ s₂, (if (s₁.channel ch).isRegistered = true then
      s₁.syncChannel ch else s₁) = s₂ ∧ s₁.Silent s₂ ∧
      (s₁.channel ch).Regranted (s₂.channel ch) ∧ ∀ ch', ch' ≠ ch → s₂.channel ch' = s₁.channel ch' := by
    refine ⟨_, rfl, ?_⟩
    split_ifs
    · exact ⟨s₁.silent_syncChannel ch, s₁.regranted_syncChannel ch⟩
    · exact ⟨.refl _, .refl _, fun _ _ => rfl⟩
  rw [hs₂]
  obtain ⟨h₃, hc₃⟩ := (s₂.broadcastJoin ch c).silent_awayNotifyJoin ch c
  obtain ⟨h₄, hc₄⟩ := ((s₂.broadcastJoin ch c).awayNotifyJoin ch c).silent_joinTopic c ch
  have hchan : (((((s₂.broadcastJoin ch c).awayNotifyJoin ch c).joinTopic c ch).sendNames
      ch c)).channel = s₂.channel := by
    show (((s₂.broadcastJoin ch c).awayNotifyJoin ch c).joinTopic c ch).channel = s₂.channel
    rw [hc₄, hc₃]; rfl
  refine ⟨((hsil.trans (s₂.silent_deliver _)).trans (h₃.trans h₄)).trans (silent_deliver _ _), ?_, ?_⟩
  · rw [hchan]; exact hre
  · intro ch' hne; rw [hchan, hother ch' hne]

/-! ## 4. One hop -/

/-- What a JOIN that lets nobody in may do: create or drop empty channels, load policies, write
    lines. -/
structure Turned (s s' : Server) : Prop where
  channelsOk : s.ChannelsOk → s'.ChannelsOk
  noNew : s.ChannelsOk → ∀ {name ch c}, s'.findChannel name = some ch →
    s'.inChannel ch c = true → s.findChannel name = some ch ∧ s.inChannel ch c = true
  members : ∀ {ch c}, s'.inChannel ch c = true → s.inChannel ch c = true
  client : s'.client = s.client
  now : s'.now = s.now
  invites : s.KeepsInvites s'
  storage : s.storage.Frame s'.storage

namespace Turned

theorem refl (s : Server) : s.Turned s := 
  ⟨id, fun _ _ _ _ h h' => ⟨h, h'⟩, id, rfl, rfl, .refl _, .refl _⟩

theorem trans {a b c : Server} (h₁ : a.Turned b) (h₂ : b.Turned c) : a.Turned c where
  channelsOk hok := h₂.channelsOk (h₁.channelsOk hok)
  noNew hok _ _ _ hfind hin :=
    have h := h₂.noNew (h₁.channelsOk hok) hfind hin
    h₁.noNew hok h.1 h.2
  members hin := h₁.members (h₂.members hin)
  client := h₂.client.trans h₁.client
  now := h₂.now.trans h₁.now
  invites := h₁.invites.trans h₂.invites
  storage := h₁.storage.trans h₂.storage

theorem of_quiet (h : s.Quiet s') : s.Turned s' where
  channelsOk := h.channelsOk
  noNew _ _ ch c hfind hin := ⟨h.findChannel _ ▸ hfind, h.inChannel ch c ▸ hin⟩
  members hin := h.inChannel _ _ ▸ hin
  client := h.client
  now := h.now
  invites := h.invites
  storage := h.storage

/-- A new channel has nobody in it. -/
theorem inChannel_of_createChannel (h : (s.createChannel name).inChannel ch c = true) :
    ch ≠ s.nextChannel ∧ s.inChannel ch c = true := by
  have hne : ch ≠ s.nextChannel := by
    rintro rfl
    rw [Server.inChannel, show (s.createChannel name).channel s.nextChannel = { name := name } from
      Function.update_self ..] at h
    cases h
  have hold : (s.createChannel name).channel ch = s.channel ch := Function.update_of_ne hne ..
  exact ⟨hne, by rwa [Server.inChannel, hold] at h⟩

theorem createChannel (s : Server) (hname : channelNameValid name = true) :
    s.Turned (s.createChannel name) where
  channelsOk hok := hok.createChannel hname
  noNew _ name' ch c hfind hin := by
    obtain ⟨hne, hin⟩ := inChannel_of_createChannel hin
    rw [findChannel_createChannel] at hfind
    split at hfind
    · cases hfind
      exact absurd rfl hne
    · exact ⟨hfind, hin⟩
  members hin := (inChannel_of_createChannel hin).2
  client := rfl
  now := rfl
  invites := s.keepsInvites_createChannel name
  storage := .refl _

theorem removeChannelIfEmpty (s : Server) (ch : ChannelRef) :
    s.Turned (s.removeChannelIfEmpty ch) where
  channelsOk hok := hok.removeChannelIfEmpty ch
  noNew _ _ ch' c hfind hin :=
    ⟨findChannel_of_removeChannelIfEmpty hfind, by
      rwa [Server.inChannel, channel_removeChannelIfEmpty] at hin⟩
  members hin := by rwa [Server.inChannel, channel_removeChannelIfEmpty] at hin
  client := client_removeChannelIfEmpty s ch
  now := by unfold Server.removeChannelIfEmpty; split_ifs <;> rfl
  invites := by unfold Server.removeChannelIfEmpty; split_ifs <;> exact .refl _
  storage := by rw [storage_removeChannelIfEmpty]; exact .refl _

end Turned

theorem queryNumeric_induct (h : P s) (say : ∀ ds, P (s.deliver ds)) (code : Nat) (query : Text)
    (text : String) : P (s.queryNumeric c code query text) := by
  unfold queryNumeric
  dsimp only
  split_ifs
  · exact h
  · exact say _

/-- A JOIN that stops before a channel only says so. -/
theorem joinEnter_none_induct (say : ∀ s ds, P s → P (s.deliver ds)) (hs : P s)
    (h : s.joinEnter c name = (none, s')) : P s' := by
  unfold joinEnter at h
  split at h
  · cases h
    exact queryNumeric_induct hs (fun _ => say _ _ hs) _ _ _
  · split at h
    · cases h
      exact say _ _ hs
    · split at h
      · split at h
        · cases h
          exact hs
        · cases h
      · split at h
        · cases h
          exact say _ _ (say _ _ hs)
        · cases h

theorem joinEnter_none (h : s.joinEnter c name = (none, s')) : s.Turned s' :=
  joinEnter_none_induct (P := s.Turned) (fun s ds ht => ht.trans (.of_quiet (s.quiet_deliver ds))) (.refl s) h

/-- A channel was found that the client is not in, or made. -/
theorem joinEnter_some (h : s.joinEnter c name = (some (ch, created), s')) :
    channelNameValid name = true ∧
      ((s' = s ∧ s.findChannel name = some ch ∧ s.inChannel ch c = false ∧ created = false) ∨
        (s' = s.createChannel name ∧ ch = s.nextChannel ∧ s.findChannel name = none ∧
          created = true)) := by
  unfold joinEnter at h
  split at h
  · cases h
  · rename_i hvalid
    refine ⟨by simpa using hvalid, ?_⟩
    split at h
    · cases h
    · split at h
      · rename_i ch' hfind
        split at h
        · cases h
        · rename_i hin
          cases h
          exact .inl ⟨rfl, hfind, by simpa using hin, rfl⟩
      · rename_i hfind
        split at h
        · cases h
        · cases h
          exact .inr ⟨rfl, rfl, hfind, rfl⟩

/-- A restore that lets the join go on: only the record of the channel changed, its modes are
    what loading the policy made them, and if they have +r it carries the persisted state. -/
theorem joinRestore_true (h : s.joinRestore c ch created = (true, s')) :
    s.Quiet s' ∧
      (s'.channel ch).modes = ((s.loadPolicy ch false).channel ch).modes ∧
      ((s'.channel ch).isRegistered = true →
        (s'.channel ch).CarriesRuntime s'.storage.chanserv.view) := by
  have hload := s.quiet_loadPolicy ch false
  unfold joinRestore at h
  generalize s.loadPolicy ch false = s₁ at h hload ⊢
  dsimp only at h
  split at h
  · rename_i hreg
    cases h
    refine ⟨hload, rfl, fun h' => ?_⟩
    simp [h'] at hreg
  · split at h
    · rename_i s₂ hrestore
      cases h
      have hok : (s₁.storage.persistRestore (s₁.channel ch)).1 = true :=
        congrArg Prod.fst hrestore
      have hs₂ : s' = (s₁.restoreRuntime ch).2 := (congrArg Prod.snd hrestore).symm
      have hchan : s'.channel ch = (s₁.storage.persistRestore (s₁.channel ch)).2.1 := by
        rw [hs₂]; exact putChannel_self ..
      refine ⟨hload.trans (hs₂ ▸ s₁.quiet_restoreRuntime ch), ?_, fun _ => ?_⟩
      · rw [hchan, Channel.modes_of_clearRuntime (s₁.storage.clearRuntime_persistRestore _)]
      · rw [hchan, hs₂]
        exact Storage.carriesRuntime_persistRestore hok
    · cases h

/-- A restore that refuses the join; a channel made for it is taken away if it is empty. -/
theorem joinRestore_false_cases (h : s.joinRestore c ch created = (false, s')) :
    ∃ s₁, s.Quiet s₁ ∧ (s₁ = ((s.loadPolicy ch false).restoreRuntime ch).2.serverNotice c
        ("Cannot join ".toList ++ (((s.loadPolicy ch false).restoreRuntime ch).2.channel ch).name ++
          ": persistent channel state could not be restored.".toList : Text)) ∧
      ((s.loadPolicy ch false).restoreRuntime ch).1 = false ∧
      ((s.loadPolicy ch false).channel ch).isRegistered = true ∧
      s' = if created then s₁.removeChannelIfEmpty ch else s₁ := by
  have hload := s.quiet_loadPolicy ch false
  unfold joinRestore at h
  generalize s.loadPolicy ch false = s₁ at h hload ⊢
  dsimp only at h
  split at h
  · cases h
  · rename_i hreg
    split at h
    · cases h
    · rename_i s₂ hrestore
      have hq := hload.trans (s₁.quiet_restoreRuntime ch)
      rw [hrestore] at hq ⊢
      cases h
      exact ⟨_, hq.trans (quiet_deliver _ _), rfl, rfl, by simpa using hreg, rfl⟩

theorem joinRestore_false (h : s.joinRestore c ch created = (false, s')) : s.Turned s' := by
  obtain ⟨s₁, hq, -, -, -, rfl⟩ := joinRestore_false_cases h
  cases created
  · exact .of_quiet hq
  · exact .trans (.of_quiet hq) (.removeChannelIfEmpty _ _)

/-- One call of `join_one` on `name` gets to its checks: in the state `t`, for the channel `ch`. -/
def JoinFaces (s : Server) (c : ClientRef) (name : Text) (t : Server) (ch : ChannelRef) : Prop :=
  ∃ created s₁, s.joinEnter c name = (some (ch, created), s₁) ∧
    s₁.joinRestore c ch created = (true, t)

/-- The policy of the row is at hand for a call of `join_one` on `name`: the live channel has its
    modes already, or its policy is not loaded yet and can be read now. -/
def PolicyInForce (s : Server) (name : Text) (r : ChanServChannel) : Prop :=
  match s.findChannel name with
  | some ch =>
      (s.channel ch).Locked r ∨
        ((s.channel ch).chanservPolicyLoaded = false ∧
          s.storage.policyReadable (s.channel ch).name = true)
  | none => s.storage.policyReadable name = true

theorem rowOf_congr (st : ChanServStore) {a b : Text} (h : nameEq a b = true) :
    st.row a = st.row b := by
  unfold ChanServStore.row
  refine congrArg (fun p => List.find? p st.channels) (funext fun r => ?_)
  rw [Bool.eq_iff_iff]
  exact ⟨fun ha => nameEq_trans ha h, fun hb => nameEq_trans hb (nameEq_symm h)⟩

/-- Loading the policy of a live channel with an enabled row: its modes afterwards. -/
theorem modes_loadPolicy (hrow : s.storage.chanserv.row (s.channel ch).name = some r)
    (henabled : r.enabled = true) :
    ((s.loadPolicy ch false).channel ch).modes =
      if (s.channel ch).chanservPolicyLoaded = false ∧
          s.storage.policyReadable (s.channel ch).name = true then
        insert ChannelMode.registered r.modeLock
      else (s.channel ch).modes := by
  rw [← modes_loadChannelPolicy (ircTopicLimit s.config) s.storage (s.channel ch) hrow henabled]
  exact congrArg Channel.modes (putChannel_self ..)

theorem joinEnter_turned {ch : ChannelRef} (h : s.joinEnter c name = (some (ch, created), s')) :
    s.Turned s' := by
  obtain ⟨hvalid, ⟨rfl, -, -⟩ | ⟨rfl, -, -⟩⟩ := joinEnter_some h
  · exact .refl _
  · exact .createChannel s hvalid

/-- The channel a call faces has the name asked for, and the client is outside it. -/
theorem JoinFaces.spec {t : Server} (h : s.JoinFaces c name t ch) :
    s.Turned t ∧ t.findChannel name = some ch ∧ t.inChannel ch c = false := by
  obtain ⟨created, s₁, henter, hrestore⟩ := h
  obtain ⟨hquiet, -, -⟩ := joinRestore_true hrestore
  refine ⟨(joinEnter_turned henter).trans (.of_quiet hquiet), ?_, ?_⟩
  all_goals obtain ⟨-, ⟨rfl, hfind, hout, -⟩ | ⟨rfl, rfl, -⟩⟩ := joinEnter_some henter
  · exact (hquiet.findChannel name).trans hfind
  · rw [hquiet.findChannel, findChannel_createChannel, if_pos (nameEq_refl name)]
  · exact (hquiet.inChannel ch c).trans hout
  · rw [hquiet.inChannel, Server.inChannel, show (s.createChannel name).channel s.nextChannel =
      { name := name } from Function.update_self ..]
    rfl

/-- **What a call decides on.** It is the policy exactly when the policy was at hand before. -/
theorem JoinFaces.underPolicy_iff {t : Server} (h : s.JoinFaces c name t ch) (hok : s.ChannelsOk)
    (hrow : s.storage.chanserv.row name = some r) (henabled : r.enabled = true) :
    (t.channel ch).UnderPolicy r t.storage.chanserv.view ↔ s.PolicyInForce name r := by
  obtain ⟨created, s₁, henter, hrestore⟩ := h
  obtain ⟨-, hmodes, hcarries⟩ := joinRestore_true hrestore
  -- whatever happened before, +r channels carry what the connection reads now
  have hunder : (t.channel ch).UnderPolicy r t.storage.chanserv.view ↔
      ((s₁.loadPolicy ch false).channel ch).Locked r := by
    unfold Channel.Locked
    rw [← hmodes]
    exact ⟨fun hu => hu.locked, fun hl => ⟨hl, hcarries (Channel.Locked.isRegistered hl)⟩⟩
  rw [hunder, Channel.Locked, PolicyInForce]
  obtain ⟨-, ⟨rfl, hfind, -⟩ | ⟨rfl, rfl, hfind, -⟩⟩ := joinEnter_some henter
  · have hname := hok.named hfind
    rw [modes_loadPolicy (rowOf_congr _ hname ▸ hrow) henabled, hfind]
    dsimp only
    split_ifs with hcond
    · exact ⟨fun _ => .inr hcond, fun _ => subset_rfl⟩
    · exact ⟨.inl, fun hor => hor.resolve_right hcond⟩
  · have hnew : (s.createChannel name).channel s.nextChannel = { name := name } :=
      Function.update_self ..
    have hrow' : (s.createChannel name).storage.chanserv.row
        ((s.createChannel name).channel s.nextChannel).name = some r := by
      rw [hnew]; exact hrow
    rw [modes_loadPolicy hrow' henabled, hnew, hfind]
    dsimp only
    split_ifs with hcond
    · exact ⟨fun _ => hcond.2, fun _ => subset_rfl⟩
    · refine ⟨fun hsub => ?_, fun h => absurd ⟨rfl, h⟩ hcond⟩
      exact absurd (hsub (Finset.mem_insert_self _ _)) (Finset.notMem_empty _)

/-! ## 5. The rule for JOIN -/

/-- The state a hop leaves behind meets `P`. -/
def JoinHop.Leaves (c : ClientRef) (P : Server → Prop) : JoinHop → Prop
  | .done s => P s
  | .redirect s _ => P s
  | .allow s ch service => P (s.joinAdmit c ch service)

/-- What a JOIN may be assumed to find at each hop it makes. -/
def JoinAllowed (ok : Server → Text → Option Text → Prop) (c : ClientRef) :
    Nat → Server → Text → Option Text → Prop
  | 0, s, name, key => ok s name key
  | hops + 1, s, name, key => ok s name key ∧
      ∀ s₁ target, s.joinHop c name key (hops + 1) = .redirect s₁ target →
        JoinAllowed ok c hops s₁ target none

theorem joinAllowed_true (c : ClientRef) (hops : Nat) (s : Server) (name : Text)
    (key : Option Text) : JoinAllowed (fun _ _ _ => True) c hops s name key := by
  induction hops generalizing s name key with
  | zero => trivial
  | succ hops ih => exact ⟨trivial, fun _ _ _ => ih _ _ _⟩

/-- **JOIN, hop by hop.** -/
theorem joinOne_leaves {ok : Server → Text → Option Text → Prop} (hop : ∀ s name key hops, P s →
      ok s name key → (s.joinHop c name key hops).Leaves c P)
    (hops : Nat) (h : P s) (hok : JoinAllowed ok c hops s name key) :
    P (joinOne c hops s name key) := by
  induction hops generalizing s name key with
  | zero =>
    have hone := hop s name key 0 h hok
    unfold joinOne
    cases hhop : s.joinHop c name key 0 <;> rw [hhop] at hone <;> exact hone
  | succ hops ih =>
    obtain ⟨hok, hnext⟩ := hok
    have hone := hop s name key (hops + 1) h hok
    unfold joinOne
    cases hhop : s.joinHop c name key (hops + 1) with
    | done s₁ => rw [hhop] at hone; exact hone
    | redirect s₁ target => rw [hhop] at hone; exact ih hone (hnext s₁ target hhop)
    | allow s₁ ch service => rw [hhop] at hone; exact hone

/-- One hop: no channel to enter, one that cannot be restored, or one that decides. -/
theorem joinHop_leaves (say : ∀ s ds, P s → P (s.deliver ds)) (h : P s)
    (refuse : ∀ ch created s₁ s₂, s.joinEnter c name = (some (ch, created), s₁) →
      s₁.joinRestore c ch created = (false, s₂) → P s₂)
    (decide : ∀ ch t, s.JoinFaces c name t ch → (t.joinDecide c ch key hops).Leaves c P) :
    (s.joinHop c name key hops).Leaves c P := by
  unfold joinHop
  split
  · rename_i henter
    exact joinEnter_none_induct say h henter
  · rename_i henter
    split
    · rename_i hrestore
      exact refuse _ _ _ _ henter hrestore
    · rename_i hrestore
      exact decide _ _ ⟨_, _, henter, hrestore⟩

/-- **JOIN, stage by stage.** An invariant that output and look-ups keep, and that survives
    entering and restoring a channel and being seated in it, survives a JOIN. -/
theorem joinOne_induct (say : ∀ s ds, P s → P (s.deliver ds))
    (ask : ∀ s name, P s → P (s.clientPrivileges c name).2) (enter : ∀ s name ch created s₁
      restored s₂, P s → s.joinEnter c name = (some (ch, created), s₁) →
      s₁.joinRestore c ch created = (restored, s₂) → P s₂) (seat : ∀ s name ch service, P s →
      s.findChannel name = some ch → s.inChannel ch c = false → P (s.joinAdmit c ch service))
    (hops : Nat) (h : P s) : P (joinOne c hops s name key) := by
  refine joinOne_leaves (fun s name key hops h _ => joinHop_leaves say h (fun _ _ _ _ => enter _ _ _ _ _ _ _ h)
    fun ch t hfaces => ?_) hops h (joinAllowed_true c hops s name key)
  obtain ⟨-, hfind, hout⟩ := hfaces.spec
  obtain ⟨_, _, henter, hrestore⟩ := hfaces
  have hasked := ask t (t.channel ch).name (enter _ _ _ _ _ _ _ h henter hrestore)
  unfold joinDecide
  dsimp only
  generalize joinVerdict _ _ _ _ _ _ = verdict
  cases verdict with
  | allow => exact seat _ name ch _ hasked hfind hout
  | _ => exact say _ _ hasked

/-! ## 6. The command -/

/-- The channel and key a JOIN command asks `join_one` for, if it gets that far. -/
def joinRequest (s : Server) (c : ClientRef) (params : Option Text) : Option (Text × Option Text) :=
  if !(s.client c).registered || s.versionRestricted c then none
  else params.bind fun params =>
    (strtokSpace params).map fun (name, rest) => (name, (strtokSpace rest).map (·.1))

theorem commandJoin_of_request {params : Option Text} {hop : Text}
    (h : s.joinRequest c params = some (hop, key)) :
    s.commandJoin c params = joinOne c ircJoinRedirectMax s hop key := by
  unfold joinRequest at h
  unfold commandJoin
  split_ifs at h with hcond
  simp only [Bool.or_eq_true, not_or, Bool.not_eq_true] at hcond
  rw [if_neg (by simp [hcond.1])]
  cases params with
  | none => cases h
  | some params =>
    dsimp only [Option.bind_some] at h ⊢
    rw [if_neg (by simp [hcond.2])]
    cases htok : strtokSpace params with
    | none => rw [htok] at h; cases h
    | some tok =>
      rw [htok] at h
      cases h
      rfl

/-- JOIN says something, or calls `join_one`. -/
theorem commandJoin_induct {params : Option Text} (h : P s) (say : ∀ ds, P (s.deliver ds))
    (one : ∀ name key, s.joinRequest c params = some (name, key) → P (joinOne c ircJoinRedirectMax
      s name key)) : P (s.commandJoin c params) := by
  cases hreq : s.joinRequest c params with
  | some request =>
    rw [commandJoin_of_request hreq]
    exact one _ _ hreq
  | none =>
    unfold joinRequest at hreq
    unfold commandJoin
    split
    · exact say _
    · rename_i hreg
      split
      · exact say _
      · rename_i params
        split
        · exact say _
        · rename_i hver
          rw [if_neg (by simp_all)] at hreq
          split
          · exact queryNumeric_induct h say _ _ _
          · rename_i name rest htok
            rw [Option.bind_some, htok] at hreq
            cases hreq

end Server

end ScratchIrcd
