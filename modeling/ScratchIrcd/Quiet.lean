/-
  File:      ScratchIrcd/Quiet.lean
  Subject:   Two frames most functions keep: the channel table is sound, and nobody entered,
             left or changed their name.
-/
import ScratchIrcd.Persist
import ScratchIrcd.Relay

namespace ScratchIrcd

open CText

variable {ch : ChannelRef} {a b c s : Server} {d : Storage}

namespace Server

/-! ## 1. The channel table -/

/-- A name leads to a channel of that name, names of live channels are valid, and the next
    reference is not in use. -/
structure ChannelsOk (s : Server) : Prop where
  named : ∀ {name ch}, s.findChannel name = some ch → nameEq (s.channel ch).name name = true
  valid : ∀ {name ch}, s.findChannel name = some ch → channelNameValid (s.channel ch).name = true
  fresh : ∀ {name ch}, s.findChannel name = some ch → ch < s.nextChannel

/-- Equal names lead to the same channel. -/
theorem findChannel_congr (s : Server) {a b : Text} (h : nameEq a b = true) :
    s.findChannel a = s.findChannel b := s.channelsByName.get_congr h

/-- A channel has one name. -/
theorem ChannelsOk.nameEq_of_findChannel (h : s.ChannelsOk) {a b : Text}
    (ha : s.findChannel a = some ch) (hb : s.findChannel b = some ch) : nameEq a b = true :=
  nameEq_trans (nameEq_symm (h.named ha)) (h.named hb)

theorem findChannel_createChannel (s : Server) (name name' : Text) :
    (s.createChannel name).findChannel name' =
      if nameEq name name' = true then some s.nextChannel else s.findChannel name' :=
  s.channelsByName.get_set name name' s.nextChannel

theorem ChannelsOk.createChannel (h : s.ChannelsOk) {name : Text}
    (hname : channelNameValid name = true) : (s.createChannel name).ChannelsOk := by
  -- the new reference is above every one in use, so the old channels are where they were
  have old : ∀ {name' ch}, s.findChannel name' = some ch →
      (s.createChannel name).channel ch = s.channel ch := by
    intro name' ch hfind
    exact Function.update_of_ne (Nat.ne_of_lt (h.fresh hfind)) ..
  have new : (s.createChannel name).channel s.nextChannel = { name := name } :=
    Function.update_self ..
  refine ⟨?_, ?_, ?_⟩ <;> intro name' ch hfind <;> rw [findChannel_createChannel] at hfind <;>
    split at hfind
  · rename_i heq
    cases hfind
    rw [new]; exact heq
  · rw [old hfind]; exact h.named hfind
  · cases hfind
    rw [new]; exact hname
  · rw [old hfind]; exact h.valid hfind
  · cases hfind
    exact Nat.lt_succ_self _
  · exact Nat.lt_succ_of_lt (h.fresh hfind)

/-- What is still found after an empty channel was dropped was found before. -/
theorem findChannel_of_removeChannelIfEmpty {ch' : ChannelRef} {name : Text}
    (h : (s.removeChannelIfEmpty ch).findChannel name = some ch') :
    s.findChannel name = some ch' := by
  unfold removeChannelIfEmpty at h
  split_ifs at h
  · exact h
  · have hget := s.channelsByName.get_remove (s.channel ch).name name
    change (s.channelsByName.remove (s.channel ch).name).get name = some ch' at h
    rw [hget] at h
    split at h
    · cases h
    · exact h
  · exact h

@[simp] theorem channel_removeChannelIfEmpty (s : Server) (ch : ChannelRef) :
    (s.removeChannelIfEmpty ch).channel = s.channel := by
  unfold removeChannelIfEmpty
  split_ifs <;> rfl

@[simp] theorem client_removeChannelIfEmpty (s : Server) (ch : ChannelRef) :
    (s.removeChannelIfEmpty ch).client = s.client := by
  unfold removeChannelIfEmpty
  split_ifs <;> rfl

@[simp] theorem storage_removeChannelIfEmpty (s : Server) (ch : ChannelRef) :
    (s.removeChannelIfEmpty ch).storage = s.storage := by
  unfold removeChannelIfEmpty
  split_ifs <;> rfl

theorem ChannelsOk.removeChannelIfEmpty (h : s.ChannelsOk) (ch : ChannelRef) :
    (s.removeChannelIfEmpty ch).ChannelsOk := by
  have hnext : (s.removeChannelIfEmpty ch).nextChannel = s.nextChannel := by
    unfold Server.removeChannelIfEmpty
    split_ifs <;> rfl
  refine ⟨?_, ?_, ?_⟩ <;> intro name' ch' hfind <;>
    have hold := findChannel_of_removeChannelIfEmpty hfind
  · rw [channel_removeChannelIfEmpty]; exact h.named hold
  · rw [channel_removeChannelIfEmpty]; exact h.valid hold
  · rw [hnext]; exact h.fresh hold

/-! ## 2. Nobody moved -/

/-- No channel has an invitation it did not have. -/
def KeepsInvites (s s' : Server) : Prop :=
  ∀ ch, (s'.channel ch).invites.Sublist (s.channel ch).invites

theorem KeepsInvites.refl (s : Server) : s.KeepsInvites s := fun _ => .refl _

theorem KeepsInvites.trans (h₁ : a.KeepsInvites b) (h₂ : b.KeepsInvites c) :
    a.KeepsInvites c := fun ch => (h₂ ch).trans (h₁ ch)

theorem keepsInvites_updChannel (s : Server) (ch : ChannelRef) {f : Channel → Channel}
    (h : (f (s.channel ch)).invites.Sublist (s.channel ch).invites) :
    s.KeepsInvites (s.updChannel ch f) := by
  intro ch'
  by_cases hch : ch' = ch
  · subst hch; rwa [updChannel_self]
  · rw [updChannel_of_ne _ _ _ _ hch]

theorem keepsInvites_createChannel (s : Server) (name : Text) :
    s.KeepsInvites (s.createChannel name) :=
  s.keepsInvites_updChannel s.nextChannel (f := fun _ => { name := name }) (List.nil_sublist _)

/-- What channels have no part in: third parties, the counters of connections, WHOWAS and the
    hook. -/
structure Apart (s s' : Server) : Prop where
  ext : s'.ext = s.ext
  nextClient : s'.nextClient = s.nextClient
  nextClientId : s'.nextClientId = s.nextClientId
  whowas : s'.whowas = s.whowas
  freeHook : s'.freeHook = s.freeHook
  pmstatsActive : s'.pmstatsActive = s.pmstatsActive

namespace Apart

theorem refl (s : Server) : s.Apart s := ⟨rfl, rfl, rfl, rfl, rfl, rfl⟩

theorem trans (h₁ : a.Apart b) (h₂ : b.Apart c) : a.Apart c where
  ext := h₂.ext.trans h₁.ext
  nextClient := h₂.nextClient.trans h₁.nextClient
  nextClientId := h₂.nextClientId.trans h₁.nextClientId
  whowas := h₂.whowas.trans h₁.whowas
  freeHook := h₂.freeHook.trans h₁.freeHook
  pmstatsActive := h₂.pmstatsActive.trans h₁.pmstatsActive

end Apart

/-- From `s` to `s'` nobody entered or left a channel or the server, no client changed, and
    nothing outside the runtime tables was written. -/
structure Quiet (s s' : Server) : Prop where
  config : s'.config = s.config
  now : s'.now = s.now
  clients : s'.clients = s.clients
  client : s'.client = s.client
  clientsByNick : s'.clientsByNick = s.clientsByNick
  channelsByName : s'.channelsByName = s.channelsByName
  nextChannel : s'.nextChannel = s.nextChannel
  channelCount : s'.channelCount = s.channelCount
  name : ∀ ch, (s'.channel ch).name = (s.channel ch).name
  memberRefs : ∀ ch, s'.memberRefs ch = s.memberRefs ch
  invites : s.KeepsInvites s'
  storage : s.storage.Frame s'.storage
  apart : s.Apart s'

namespace Quiet

theorem refl (s : Server) : s.Quiet s :=
  ⟨rfl, rfl, rfl, rfl, rfl, rfl, rfl, rfl, fun _ => rfl, fun _ => rfl, .refl _, .refl _, .refl _⟩

theorem trans (h₁ : a.Quiet b) (h₂ : b.Quiet c) : a.Quiet c where
  config := h₂.config.trans h₁.config
  now := h₂.now.trans h₁.now
  clients := h₂.clients.trans h₁.clients
  client := h₂.client.trans h₁.client
  clientsByNick := h₂.clientsByNick.trans h₁.clientsByNick
  channelsByName := h₂.channelsByName.trans h₁.channelsByName
  nextChannel := h₂.nextChannel.trans h₁.nextChannel
  channelCount := h₂.channelCount.trans h₁.channelCount
  name ch := (h₂.name ch).trans (h₁.name ch)
  memberRefs ch := (h₂.memberRefs ch).trans (h₁.memberRefs ch)
  invites := h₁.invites.trans h₂.invites
  storage := h₁.storage.trans h₂.storage
  apart := h₁.apart.trans h₂.apart

variable {s s' : Server} (h : s.Quiet s')

include h

theorem findChannel (name : Text) : s'.findChannel name = s.findChannel name := by
  rw [Server.findChannel, h.channelsByName]; rfl

theorem inChannel (ch : ChannelRef) (c : ClientRef) : s'.inChannel ch c = s.inChannel ch c := by
  rw [Bool.eq_iff_iff, Server.inChannel, Server.inChannel, Channel.hasClient_iff,
    Channel.hasClient_iff]
  exact Eq.to_iff (congrArg (c ∈ ·) (h.memberRefs ch))

theorem channelsOk (hok : s.ChannelsOk) : s'.ChannelsOk where
  named hfind := by rw [h.name]; exact hok.named (h.findChannel _ ▸ hfind)
  valid hfind := by rw [h.name]; exact hok.valid (h.findChannel _ ▸ hfind)
  fresh hfind := by rw [h.nextChannel]; exact hok.fresh (h.findChannel _ ▸ hfind)

end Quiet

theorem quiet_deliver (s : Server) (ds : List (ClientRef × Line)) : s.Quiet (s.deliver ds) :=
  ⟨rfl, rfl, rfl, rfl, rfl, rfl, rfl, rfl, fun _ => rfl, fun _ => rfl, .refl _, .refl _,
    ⟨rfl, rfl, rfl, rfl, rfl, rfl⟩⟩

theorem quiet_storage (s : Server) (h : s.storage.Frame d) : s.Quiet { s with storage := d } :=
  ⟨rfl, rfl, rfl, rfl, rfl, rfl, rfl, rfl, fun _ => rfl, fun _ => rfl, .refl _, h,
    ⟨rfl, rfl, rfl, rfl, rfl, rfl⟩⟩

@[simp] theorem putChannel_self (s : Server) (ch : ChannelRef) (chan : Channel) (d : Storage) :
    (s.putChannel ch chan d).channel ch = chan := Function.update_self ..

/-- A change to one channel record that keeps its name and who is in it, and invites nobody. -/
theorem quiet_updChannel (s : Server) (ch : ChannelRef) (f : Channel → Channel)
    (hname : (f (s.channel ch)).name = (s.channel ch).name)
    (hmembers : (f (s.channel ch)).members.map (·.client) =
      (s.channel ch).members.map (·.client))
    (hinvites : (f (s.channel ch)).invites.Sublist (s.channel ch).invites) :
    s.Quiet (s.updChannel ch f) where
  config := rfl
  now := rfl
  clients := rfl
  client := rfl
  clientsByNick := rfl
  channelsByName := rfl
  nextChannel := rfl
  channelCount := rfl
  name ch' := by
    by_cases h : ch' = ch
    · subst h; rw [updChannel_self, hname]
    · rw [updChannel_of_ne _ _ _ _ h]
  memberRefs ch' := by
    by_cases h : ch' = ch
    · subst h; simp only [memberRefs, updChannel_self, hmembers]
    · simp only [memberRefs, updChannel_of_ne _ _ _ _ h]
  invites := s.keepsInvites_updChannel ch hinvites
  storage := .refl _
  apart := ⟨rfl, rfl, rfl, rfl, rfl, rfl⟩

/-- The same with the storage put back. -/
theorem quiet_putChannel (s : Server) {chan : Channel} (hname : chan.name = (s.channel ch).name)
    (hmembers : chan.members.map (·.client) = (s.channel ch).members.map (·.client))
    (hinvites : chan.invites = (s.channel ch).invites) (hframe : s.storage.Frame d) :
    s.Quiet (s.putChannel ch chan d) :=
  (s.quiet_updChannel ch (fun _ => chan) hname hmembers (hinvites ▸ .refl _)).trans
    (quiet_storage _ hframe)

end Server

/-! ## 3. Loading a policy -/

/-- `chanserv_db_open` and the `chanserv_db_get` after it succeed. -/
def Storage.policyReadable (d : Storage) (name : Text) : Bool :=
  d.chanservDbOpen.1 && (d.chanservDbOpen.2.chanservDbGet name).1.isSome

section LoadPolicy

variable (limit : Nat) (d : Storage) (ch : Channel) (force : Bool)

theorem clearRuntime_applyRow (r : ChanServChannel) :
    (ch.applyRow limit r).name = ch.name ∧ (ch.applyRow limit r).members = ch.members ∧
      (ch.applyRow limit r).invites = ch.invites ∧
      (ch.applyRow limit r).modes = insert ChannelMode.registered r.modeLock := by
  unfold Channel.applyRow
  dsimp only
  split_ifs <;> exact ⟨rfl, rfl, rfl, rfl⟩

theorem loadChannelPolicy_keeps :
    (loadChannelPolicy limit d ch force).1.name = ch.name ∧
      (loadChannelPolicy limit d ch force).1.members.map (·.client) = ch.members.map (·.client) ∧
      (loadChannelPolicy limit d ch force).1.invites = ch.invites ∧
      d.Frame (loadChannelPolicy limit d ch force).2 := by
  have hclear : ch.clearCachedPolicy.name = ch.name ∧
      ch.clearCachedPolicy.members.map (·.client) = ch.members.map (·.client) ∧
      ch.clearCachedPolicy.invites = ch.invites :=
    ⟨rfl, ch.map_client_mapGrants fun _ g => g.forgetService, rfl⟩
  unfold loadChannelPolicy
  split_ifs
  · exact ⟨rfl, rfl, rfl, .refl d⟩
  · have hopen : d.Frame d.chanservDbOpen.2 := d.frame_tick
    generalize d.chanservDbOpen = o at hopen
    obtain ⟨_ | _, d₁⟩ := o
    · exact ⟨rfl, rfl, rfl, hopen⟩
    · have hget := d₁.frame_chanservDbGet ch.name
      dsimp only
      generalize d₁.chanservDbGet ch.name = g at hget
      obtain ⟨_ | _ | r, d₂⟩ := g
      · exact ⟨rfl, rfl, rfl, hopen.trans hget⟩
      · exact ⟨hclear.1, hclear.2.1, hclear.2.2, hopen.trans hget⟩
      · dsimp only
        split_ifs
        · have hrest := d₂.clearRuntime_persistRestore (ch.applyRow limit r)
          obtain ⟨hname, hmembers, hinvites, _⟩ := clearRuntime_applyRow limit ch r
          refine ⟨?_, ?_, ?_, (hopen.trans hget).trans (d₂.frame_persistRestore _)⟩
          · rw [Channel.name_of_clearRuntime hrest, hname]
          · rw [Channel.members_of_clearRuntime hrest, hmembers]
          · rw [Channel.invites_of_clearRuntime hrest, hinvites]
        · exact ⟨hclear.1, hclear.2.1, hclear.2.2, hopen.trans hget⟩

/-- The policy of a row is loaded exactly when it was not yet and both reads succeed; nothing
    else changes the modes of a channel with an enabled row. -/
theorem modes_loadChannelPolicy {r : ChanServChannel} (hrow : d.chanserv.row ch.name = some r)
    (henabled : r.enabled = true) :
    (loadChannelPolicy limit d ch false).1.modes =
      if ch.chanservPolicyLoaded = false ∧ d.policyReadable ch.name = true then
        insert ChannelMode.registered r.modeLock
      else ch.modes := by
  unfold loadChannelPolicy Storage.policyReadable
  cases hl : ch.chanservPolicyLoaded
  · simp only [Bool.not_false, Bool.and_false, Bool.false_eq_true, if_false, true_and]
    have hopen : d.chanservDbOpen.2.chanserv = d.chanserv := rfl
    generalize d.chanservDbOpen = o at hopen
    obtain ⟨_ | _, d₁⟩ := o
    · simp
    · dsimp only at hopen ⊢
      have hget : (d₁.chanservDbGet ch.name).1 = none ∨
          (d₁.chanservDbGet ch.name).1 = some (some r) := by
        unfold Storage.chanservDbGet
        rw [hopen, hrow]
        split_ifs <;> simp
      generalize d₁.chanservDbGet ch.name = g at hget
      obtain ⟨g, d₂⟩ := g
      rcases hget with rfl | rfl
      · simp
      · have hrest := d₂.clearRuntime_persistRestore (ch.applyRow limit r)
        simp [henabled, Channel.modes_of_clearRuntime hrest, clearRuntime_applyRow]
  · simp

end LoadPolicy

namespace Server

theorem quiet_loadPolicy (s : Server) (ch : ChannelRef) (force : Bool) :
    s.Quiet (s.loadPolicy ch force) := by
  obtain ⟨hname, hmembers, hinvites, hframe⟩ :=
    loadChannelPolicy_keeps (ircTopicLimit s.config) s.storage (s.channel ch) force
  exact s.quiet_putChannel hname hmembers hinvites hframe

theorem quiet_restoreRuntime (s : Server) (ch : ChannelRef) :
    s.Quiet (s.restoreRuntime ch).2 := by
  have hrest := s.storage.clearRuntime_persistRestore (s.channel ch)
  have hframe := s.storage.frame_persistRestore (s.channel ch)
  unfold restoreRuntime
  generalize s.storage.persistRestore (s.channel ch) = r at hrest hframe
  obtain ⟨ok, chan, d⟩ := r
  exact s.quiet_putChannel (Channel.name_of_clearRuntime hrest)
    (congrArg (List.map (·.client)) (Channel.members_of_clearRuntime hrest))
    (Channel.invites_of_clearRuntime hrest) hframe

end Server

/-! ## 4. Privileges -/

/-- Looking up an account's privileges issues statements and writes nothing. -/
structure Storage.OnlyRead (d d' : Storage) : Prop where
  io : d'.io = d.io
  chanserv : d'.chanserv = d.chanserv
  nickserv : d'.nickserv = d.nickserv
  operators : d'.operators = d.operators

namespace Storage.OnlyRead

theorem refl (d : Storage) : d.OnlyRead d := ⟨rfl, rfl, rfl, rfl⟩

theorem trans {a b c : Storage} (h₁ : a.OnlyRead b) (h₂ : b.OnlyRead c) : a.OnlyRead c :=
  ⟨h₂.io.trans h₁.io, h₂.chanserv.trans h₁.chanserv, h₂.nickserv.trans h₁.nickserv,
    h₂.operators.trans h₁.operators⟩

theorem tick (d : Storage) : d.OnlyRead d.tick := ⟨rfl, rfl, rfl, rfl⟩

theorem frame {d' : Storage} (h : d.OnlyRead d') : d.Frame d' :=
  ⟨h.io, by rw [h.chanserv], by rw [h.chanserv], h.nickserv, h.operators⟩

end Storage.OnlyRead

theorem onlyRead_chanservDbGet (d : Storage) (name : Text) :
    d.OnlyRead (d.chanservDbGet name).2 := by
  unfold Storage.chanservDbGet
  split_ifs
  · exact .refl d
  · exact .tick d
  · split <;> exact .tick d

theorem onlyRead_accessPrivileges (d : Storage) (account name : Text) :
    d.OnlyRead (accessPrivileges d account name).2 := by
  have h : d.OnlyRead (d.chanservDbAccessGet name account).2 := by
    unfold Storage.chanservDbAccessGet
    split_ifs
    · exact .refl d
    · exact .tick d
    · exact .tick d
  unfold accessPrivileges
  generalize d.chanservDbAccessGet name account = r at h
  obtain ⟨_ | _, d'⟩ := r <;> exact h

theorem onlyRead_chanservPrivileges (d : Storage) (live : Option Channel) (account name : Text) :
    d.OnlyRead (chanservPrivileges d live account name).2 := by
  have hopen : d.OnlyRead d.chanservDbOpen.2 := .tick d
  unfold chanservPrivileges
  generalize d.chanservDbOpen = o at hopen
  obtain ⟨opened, d₁⟩ := o
  dsimp only at hopen ⊢
  split_ifs
  · exact .refl d
  · split
    · split_ifs
      · exact .refl d
      · exact .refl d
      · cases opened
        · exact hopen
        · exact hopen.trans (onlyRead_accessPrivileges d₁ account name)
    · cases opened
      · exact hopen
      · have hget := hopen.trans (onlyRead_chanservDbGet d₁ name)
        dsimp only
        generalize d₁.chanservDbGet name = g at hget
        obtain ⟨_ | _ | r, d₂⟩ := g
        · exact hget
        · exact hget
        · dsimp only
          split_ifs
          · exact hget
          · exact hget
          · exact hget.trans (onlyRead_accessPrivileges d₂ account name)

namespace Server

/-- Nobody moved and no table was written. -/
structure Silent (s s' : Server) : Prop extends s.Quiet s' where
  onlyRead : s.storage.OnlyRead s'.storage

namespace Silent

theorem refl (s : Server) : s.Silent s := ⟨.refl s, .refl _⟩

theorem trans (h₁ : a.Silent b) (h₂ : b.Silent c) : a.Silent c :=
  ⟨h₁.toQuiet.trans h₂.toQuiet, h₁.onlyRead.trans h₂.onlyRead⟩

end Silent

section

variable (s : Server)

theorem silent_deliver (ds : List (ClientRef × Line)) : s.Silent (s.deliver ds) :=
  ⟨s.quiet_deliver ds, .refl _⟩

theorem silent_clientPrivileges (c : ClientRef) (name : Text) :
    s.Silent (s.clientPrivileges c name).2 :=
  have h := onlyRead_chanservPrivileges s.storage (s.liveChannel name) (s.client c).accountName name
  ⟨s.quiet_storage h.frame, h⟩

theorem silent_updateMember (ch : ChannelRef) (c : ClientRef) (f : Grants → Grants) :
    s.Silent (s.updChannel ch (·.updateMember c f)) :=
  ⟨s.quiet_updChannel ch _ rfl (Channel.map_client_mapGrants ..) (.refl _), .refl _⟩

theorem silent_broadcastPrivilegeChange (ch : ChannelRef) (c : ClientRef)
    (p : ChannelPrivilegeSet) (sign : Char) :
    s.Silent (s.broadcastPrivilegeChange ch c p sign) := by
  unfold broadcastPrivilegeChange
  split_ifs
  · exact .refl s
  · exact s.silent_deliver _

@[simp] theorem channel_broadcastPrivilegeChange (ch : ChannelRef) (c : ClientRef)
    (p : ChannelPrivilegeSet) (sign : Char) :
    (s.broadcastPrivilegeChange ch c p sign).channel = s.channel := by
  unfold broadcastPrivilegeChange
  split_ifs <;> rfl

theorem silent_syncMember (ch : ChannelRef) (c : ClientRef) :
    s.Silent (s.syncMember ch c) := by
  unfold syncMember
  split
  · exact .refl s
  · dsimp only
    refine Silent.trans (Silent.trans ?_ (silent_updateMember _ ch c _))
      ((silent_broadcastPrivilegeChange _ _ _ _ _).trans (silent_broadcastPrivilegeChange _ _ _ _ _))
    split_ifs
    · exact s.silent_clientPrivileges c _
    · exact .refl s

theorem silent_syncChannel (ch : ChannelRef) : s.Silent (s.syncChannel ch) := by
  unfold syncChannel
  generalize s.memberRefs ch = cs
  induction cs generalizing s with
  | nil => exact .refl s
  | cons c cs ih => exact (s.silent_syncMember ch c).trans (ih _)

end

end Server

end ScratchIrcd
