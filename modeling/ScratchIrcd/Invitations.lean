/-
  File:      ScratchIrcd/Invitations.lean
  Subject:   Invitations are used once, and only by the connection they were given to.

  An invitation is the id of a connection on the list of a channel. INVITE puts one there, JOIN takes
  one off, and nothing else adds any (`KeepsInvites`, carried through the frames of Quiet.lean,
  NickTable.lean and ClientIndex.lean). So the number of invitations a connection still has to a
  channel is a level: an INVITE raises it by one at most, an entry on an invitation lowers it by one.
  Ids are what makes the level the connection's own: a connection that comes later has an id that
  is on no list.
-/
import ScratchIrcd.JoinAdmission
import ScratchIrcd.Membership

namespace ScratchIrcd

open CText

/-! ## 1. Runs -/

/-- A command to channels or services, or something that happens to connections: a new one, a
    nickname, the end of one, ... -/
inductive InviteEvent where
  | serve (e : Event)
  | network (e : NetworkEvent)

namespace Network

def serveStep (n : Network) (e : Event) : Network :=
  if e.actor ∈ n.server.clients then n.settle (n.server.serve e) else n

def inviteStep (n : Network) : InviteEvent → Network
  | .serve e => n.serveStep e
  | .network e => n.step e

variable (c : ClientRef) (ch : ChannelRef)

/-- The event is a JOIN that lets the connection into the channel, which is +i, and no invite
    exception matches the connection. -/
def entersInvited (n : Network) : InviteEvent → Bool
  | .serve (.channel (.join c' params)) =>
      let after := (n.inviteStep (.serve (.channel (.join c' params)))).server
      decide (c' = c) && !n.server.inChannel ch c && after.inChannel ch c &&
        decide (ChannelMode.inviteOnly ∈ (after.channel ch).modes) &&
        !(after.channel ch).isInvex (n.server.client c).identity
  | _ => false

/-- The event is an INVITE that succeeds, of this connection to this channel. -/
def isInvited (n : Network) : InviteEvent → Bool
  | .serve (.invite c' params) =>
      decide (c' ∈ n.server.clients) && decide (n.server.inviteGrant c' params = some (c, ch))
  | _ => false

/-- The invitations to the channel that a connection has left. -/
def pending (n : Network) : Nat :=
  if c ∈ n.server.clients then (n.server.channel ch).invites.count (n.server.client c).id else 0

/-- The tables are in step, and only ids that were given out are on a list. -/
structure InvitesKnown (n : Network) : Prop where
  indexed : n.Indexed
  old : ∀ ch, ∀ id ∈ (n.server.channel ch).invites, id < n.server.nextClientId

variable {c ch} {n n' : Network}

theorem InvitesKnown.of_later (h : n.InvitesKnown) (hi : n'.Indexed) (hl : n.Later n') :
    n'.InvitesKnown :=
  ⟨hi, fun ch id hid => (h.old ch id ((hl.invites ch).subset hid)).trans_le hl.nextClientId⟩

/-- Where nobody is invited no connection gets an invitation, not even with a new id. -/
theorem pending_le_of_later (h : n.InvitesKnown) (hl : n.Later n') :
    n'.pending c ch ≤ n.pending c ch := by
  unfold pending
  split
  swap
  · exact Nat.zero_le _
  rename_i hc
  rcases hl.id c hc with ⟨hold, hid⟩ | hnew
  · rw [if_pos hold, hid]
    exact (hl.invites ch).count_le _
  · have hout : (n'.server.client c).id ∉ (n'.server.channel ch).invites := fun hmem =>
      absurd (h.old ch _ ((hl.invites ch).subset hmem)) (not_lt.mpr hnew)
    rw [List.count_eq_zero.mpr hout]
    exact Nat.zero_le _

end Network

/-! ## 2. Who invites nobody -/

namespace Server

variable {s : Server}

/-- **INVITE apart, no command invites anybody.** -/
theorem thins_serve (h : s.Indexed) {e : Event} (hactor : e.actor ∈ s.clients)
    (hinvite : ∀ c params, e ≠ .invite c params) :
    s.Thins (s.serve e) ∧ (s.serve e).Indexed := by
  have links : ∀ {s'}, s.Enters (fun _ => True) s' → s.Thins s' ∧ s'.Indexed :=
    fun he => ⟨.of_links he.toSameLinks, h.of_links he.toSameLinks⟩
  refine serve_induct (P := fun s' => s.Thins s' ∧ s'.Indexed) (fun e he => ?_)
    (fun c params => links (.of_quiet (s.quiet_commandTopic c params)))
    (fun c params he => absurd he (hinvite c params)) fun _ hchain => (h.serviceChain hchain).symm
  · subst he
    cases e with
    | join c params => exact links ((s.enters_commandJoin c params).mono fun _ _ => trivial)
    | part c params => exact links (s.enters_commandPart c params)
    | kick c params => exact links (s.enters_commandKick c params)
    | mode c params => exact links (s.enters_dispatchMode c params)
    | sajoin c params => exact links ((s.enters_commandSajoin c params).mono fun _ _ => trivial)
    | sapart c params => exact links (s.enters_commandSapart c params)
    | samode c params => exact links ((s.enters_commandSamode c params).mono fun _ _ => trivial)
    | disconnect c reason => exact ⟨thins_disconnect h.nodup c reason, h.disconnect hactor reason⟩

end Server

namespace Network

variable {c : ClientRef} {ch : ChannelRef} {n : Network}

theorem later_serve (h : n.InvitesKnown) {e : Event} (hactor : e.actor ∈ n.server.clients)
    (hinvite : ∀ c params, e ≠ .invite c params) :
    (n.settle (n.server.serve e)).InvitesKnown ∧ n.Later (n.settle (n.server.serve e)) := by
  obtain ⟨hthins, hi⟩ := Server.thins_serve h.indexed.server hactor hinvite
  have hlater : n.Later (n.settle (n.server.serve e)) := .settle hthins
  exact ⟨h.of_later (h.indexed.settle hthins hi) hlater, hlater⟩

/-! ## 3. INVITE -/

theorem invites_inviteAdd {chan chan' : Channel} {id : Nat} (h : chan.inviteAdd id = some chan') :
    chan'.invites = chan.invites ∨ chan'.invites = id :: chan.invites := by
  unfold Channel.inviteAdd at h
  split_ifs at h <;> cases h
  · exact .inl rfl
  · exact .inr rfl

/-- A command that ends no connection leaves the tables of connections alone. -/
theorem settle_of_clients {s : Server} (h : s.clients = n.server.clients) :
    n.settle s = { n with server := s } := by
  have hnone : n.server.clients.filter (fun c => !s.clients.contains c) = [] := by
    rw [List.filter_eq_nil_iff, h]
    intro c hc
    simpa using hc
  rw [settle, hnone]
  rfl

/-- **An INVITE raises the level by one, and only that of the connection it invites.** -/
theorem invite_step (h : n.InvitesKnown) (c' : ClientRef) (params : Option Text) :
    (n.settle (n.server.commandInvite c' params)).InvitesKnown ∧
      (n.settle (n.server.commandInvite c' params)).pending c ch ≤ n.pending c ch +
        (decide (n.server.inviteGrant c' params = some (c, ch))).toNat := by
  let P : Server → Prop := fun s' => (n.settle s').InvitesKnown ∧ (n.settle s').pending c ch ≤
    n.pending c ch + (decide (n.server.inviteGrant c' params = some (c, ch))).toNat
  have quiet : ∀ {s'}, n.server.Quiet s' → P s' := by
    intro s' hq
    have hlinks : n.server.SameLinks s' := .of_quiet hq
    have hlater : n.Later (n.settle s') := .settle (.of_links hlinks)
    exact ⟨h.of_later (h.indexed.settle (.of_links hlinks) (h.indexed.server.of_links hlinks)) hlater,
      (pending_le_of_later h hlater).trans (Nat.le_add_right _ _)⟩
  refine Server.commandInvite_induct (P := P) (quiet (.refl _))
    (fun ds => quiet (n.server.quiet_deliver ds)) ?_
  rintro name target chan record ds₁ ds₂ - ⟨nick, hnick⟩ hgrant hadd
  have htarget : target ∈ n.server.clients := ((h.indexed.server.nick nick target).mp hnick).1
  dsimp only [P]
  rw [settle_of_clients (s := ((n.server.withInvites chan record.invites).deliver ds₁).deliver ds₂) rfl]
  have hlist : ∀ x, ((n.server.withInvites chan record.invites).channel x).invites =
      (n.server.channel x).invites ∨ x = chan ∧
        ((n.server.withInvites chan record.invites).channel x).invites =
          (n.server.client target).id :: (n.server.channel x).invites := by
    intro x
    unfold Server.withInvites
    by_cases hx : x = chan
    · subst hx
      rw [Server.updChannel_self]
      exact (invites_inviteAdd hadd).imp_right fun heq => ⟨rfl, heq⟩
    · rw [Server.updChannel_of_ne _ _ _ _ hx]
      exact .inl rfl
  obtain ⟨hnodup, hfresh, hnicks⟩ := h.indexed.server
  refine ⟨⟨h.indexed.congr ⟨hnodup, hfresh, hnicks⟩ rfl rfl (fun _ _ => rfl) rfl, fun x id hid => ?_⟩, ?_⟩
  · rcases hlist x with hsame | ⟨-, hcons⟩
    · exact h.old x id (hsame ▸ hid)
    · rcases List.mem_cons.mp (hcons ▸ hid) with rfl | hid
      · exact h.indexed.id_lt target htarget
      · exact h.old x id hid
  · show (if c ∈ n.server.clients then List.count (n.server.client c).id
      ((n.server.withInvites chan record.invites).channel ch).invites else 0) ≤ _
    unfold pending
    split_ifs with hc
    swap
    · exact Nat.zero_le _
    rcases hlist ch with hsame | ⟨rfl, hcons⟩
    · rw [hsame]
      exact Nat.le_add_right _ _
    · rw [hcons, List.count_cons]
      -- the id on the list is that of no other connection
      by_cases heq : target = c
      · subst heq
        rw [decide_eq_true hgrant, if_pos (beq_self_eq_true _)]
        exact Nat.le_refl _
      · rw [if_neg fun hid => heq (h.indexed.id_unique htarget hc (beq_iff_eq.mp hid))]
        exact Nat.le_add_right _ _

end Network

/-! ## 4. JOIN -/

namespace Server

variable {s : Server} {c : ClientRef} {ch : ChannelRef}

/-- A JOIN that ends with a seat in the channel, and what let the client in where it is +i. -/
def SeatsIn (s s' : Server) (c : ClientRef) (ch : ChannelRef) : Prop :=
  ∃ t service, s.Turned t ∧ t.inChannel ch c = false ∧
    (.inviteOnly ∈ (t.channel ch).modes → (t.channel ch).inviteHas (t.client c).id = true ∨
      (t.channel ch).isInvex (t.client c).identity = true) ∧ s' = t.joinAdmit c ch service

theorem seatsIn_of_joinsBy {params : Option Text} {u t : Server} {hop : Text}
    (h : s.JoinsBy c params u hop t ch) : s.SeatsIn (s.commandJoin c params) c ch := by
  obtain ⟨hturned, -, hout⟩ := h.faces.spec
  obtain ⟨_, _, _, _, -, -, -, hadmits⟩ := h.reaches
  rw [h.commandJoin_eq]
  exact ⟨_, _, (h.turned.trans hturned).trans (t.turned_clientPrivileges c _), hout, hadmits.invited, rfl⟩

/-- What a seat does to the list of the channel. -/
theorem invites_joinAdmit (hout : s.inChannel ch c = false) (service : ChannelPrivilegeSet) :
    ((s.joinAdmit c ch service).channel ch).invites =
      if (s.channel ch).inviteHas (s.client c).id then (s.channel ch).invites.erase (s.client c).id
      else (s.channel ch).invites := by
  obtain ⟨f, hregranted, -⟩ := (s.joinAdmit_spec c ch service).2.1
  have hadd : ((s.channel ch).addMember c).invites = (s.channel ch).invites := by
    unfold Channel.addMember
    split <;> rfl
  rw [hregranted]
  show ((s.joinSeat c ch service).channel ch).invites = _
  unfold joinSeat
  dsimp only
  rw [updChannel_self, channel_addToChannel hout, Channel.invites_seat]
  split
  · rename_i hhas
    have hid : (s.client c).id ≠ 0 := by
      rw [Channel.inviteHas, Bool.and_eq_true, bne_iff_ne] at hhas
      exact hhas.1
    rw [Channel.inviteConsume, if_neg (by simpa using hid)]
    exact congrArg (List.erase · _) hadd
  · exact hadd

/-- **An entry on an invitation uses it up.** -/
theorem count_commandJoin {params : Option Text} (hout : s.inChannel ch c = false)
    (hin : (s.commandJoin c params).inChannel ch c = true)
    (honly : .inviteOnly ∈ ((s.commandJoin c params).channel ch).modes)
    (hinvex : ((s.commandJoin c params).channel ch).isInvex (s.client c).identity = false) :
    ((s.commandJoin c params).channel ch).invites.count (s.client c).id + 1 ≤
      (s.channel ch).invites.count (s.client c).id := by
  have hends : s.Turned (s.commandJoin c params) ∨ ∃ ch, s.SeatsIn (s.commandJoin c params) c ch := by
    rcases commandJoin_cases s c params with ⟨_, _, _, ch, h⟩ | hturned
    · exact .inr ⟨ch, seatsIn_of_joinsBy h⟩
    · exact .inl hturned
  generalize s.commandJoin c params = s' at hin honly hinvex hends
  rcases hends with hturned | ⟨x, t, service, hturned, htout, hinvited, rfl⟩
  · rw [hturned.members hin] at hout
    cases hout
  obtain ⟨-, ⟨f, hregranted, -⟩, hother⟩ := t.joinAdmit_spec c x service
  -- the seat is in the channel that was entered
  obtain rfl : ch = x := by
    by_contra hne
    rw [Server.inChannel, hother ch hne, inChannel_joinSeat_of_ne t service hne] at hin
    rw [hturned.members hin] at hout
    cases hout
  have hpolicy := (joinSeat_spec service htout).1
  rw [hregranted] at honly hinvex
  have hhas : (t.channel ch).inviteHas (s.client c).id = true := by
    rw [← hturned.client]
    refine (hinvited ?_).resolve_right ?_
    · rw [← hpolicy.modes]
      exact honly
    · rw [Bool.not_eq_true, hturned.client, ← hinvex]
      exact congrArg (maskListMatches · _) (hpolicy.maskList .invex).symm
  rw [invites_joinAdmit htout, hturned.client, if_pos hhas, List.count_erase_self]
  have hmem : 0 < (t.channel ch).invites.count (s.client c).id := by
    rw [Channel.inviteHas, Bool.and_eq_true, List.contains_iff_mem] at hhas
    exact List.count_pos_iff.mpr hhas.2
  have hle := (hturned.invites ch).count_le (s.client c).id
  omega

end Server

/-! ## 5. Counting -/

namespace Network

variable {c : ClientRef} {ch : ChannelRef} {n : Network}

theorem entersInvited_eq_true {e : InviteEvent} (h : n.entersInvited c ch e = true) :
    ∃ params, e = .serve (.channel (.join c params)) ∧ n.server.inChannel ch c = false ∧
      (n.inviteStep e).server.inChannel ch c = true ∧
      .inviteOnly ∈ ((n.inviteStep e).server.channel ch).modes ∧
      ((n.inviteStep e).server.channel ch).isInvex (n.server.client c).identity = false := by
  unfold entersInvited at h
  split at h
  · rename_i c' params
    simp only [Bool.and_eq_true, decide_eq_true_eq, Bool.not_eq_true'] at h
    obtain ⟨⟨⟨⟨rfl, hout⟩, hin⟩, honly⟩, hinvex⟩ := h
    exact ⟨params, rfl, hout, hin, honly, hinvex⟩
  · cases h

/-- An entry lowers the level. -/
theorem pending_of_entersInvited {e : InviteEvent} (h : n.entersInvited c ch e = true) :
    (n.inviteStep e).pending c ch + 1 ≤ n.pending c ch := by
  obtain ⟨params, rfl, hout, hin, honly, hinvex⟩ := entersInvited_eq_true h
  have hactor : c ∈ n.server.clients := by
    by_contra hgone
    have hsame : n.inviteStep (.serve (.channel (.join c params))) = n := if_neg hgone
    rw [hsame, hout] at hin
    cases hin
  have hserver : (n.inviteStep (.serve (.channel (.join c params)))).server =
      n.server.commandJoin c params := by
    have hserve : n.inviteStep (.serve (.channel (.join c params))) =
        n.settle (n.server.commandJoin c params) := if_pos hactor
    rw [hserve]
    exact (server_settle _ _).1
  rw [hserver] at hin honly hinvex
  have hlinks := (n.server.enters_commandJoin c params).toSameLinks
  have hcount := Server.count_commandJoin hout hin honly hinvex
  unfold pending
  rw [hserver, if_pos hactor, if_pos (hlinks.clients ▸ hactor), (hlinks.client c).id]
  exact hcount

/-- **Every step pays.** -/
theorem inviteStep_pays (h : n.InvitesKnown) (e : InviteEvent) :
    (n.inviteStep e).InvitesKnown ∧ (n.inviteStep e).pending c ch + (n.entersInvited c ch e).toNat ≤
      n.pending c ch + (n.isInvited c ch e).toNat := by
  -- but for INVITE it is enough that nobody is invited
  have spends : (n.inviteStep e).InvitesKnown ∧ n.Later (n.inviteStep e) →
      (n.inviteStep e).InvitesKnown ∧ (n.inviteStep e).pending c ch +
        (n.entersInvited c ch e).toNat ≤ n.pending c ch + (n.isInvited c ch e).toNat := by
    rintro ⟨hknown, hlater⟩
    refine ⟨hknown, le_trans ?_ (Nat.le_add_right _ _)⟩
    cases henters : n.entersInvited c ch e with
    | false => exact pending_le_of_later h hlater
    | true => exact pending_of_entersInvited henters
  cases e with
  | network e =>
    obtain ⟨hi, hlater⟩ := h.indexed.step e
    exact spends ⟨h.of_later hi hlater, hlater⟩
  | serve e =>
    by_cases hactor : e.actor ∈ n.server.clients
    swap
    · have hsame : n.inviteStep (.serve e) = n := if_neg hactor
      exact spends (by rw [hsame]; exact ⟨h, .refl n⟩)
    have hstep : n.inviteStep (.serve e) = n.settle (n.server.serve e) := if_pos hactor
    cases e with
    | invite c' params =>
      have hlive : decide (c' ∈ n.server.clients) = true := decide_eq_true hactor
      rw [hstep, isInvited, hlive, Bool.true_and]
      exact invite_step h c' params
    | _ => exact spends (hstep ▸ later_serve h hactor fun _ _ => by simp)

/-- **Invitations are for one use and one connection.** In every run, a connection enters a +i
    channel by JOIN without an invite exception at most as often as an INVITE of this connection to
    this channel succeeded. Nicknames come and go in the run, and so do connections. -/
theorem invitations_single_use (server : ServerConfig) (ext : External) (storage : Storage)
    (config : ConnectionConfig) (platform : Platform) (bans : BanTables) (c : ClientRef)
    (ch : ChannelRef) (es : List InviteEvent) :
    let n := initial server ext storage config platform bans
    Runs.tally inviteStep (entersInvited c ch) n es ≤ Runs.tally inviteStep (isInvited c ch) n es := by
  intro n
  have hnone : n.pending c ch = 0 := rfl
  have hknown : n.InvitesKnown :=
    ⟨indexed_initial server ext storage config platform bans, fun _ _ hid => absurd hid List.not_mem_nil⟩
  have hpaid := Runs.tally_le (pending c ch) (P := InvitesKnown) (fun _ e h => inviteStep_pays h e)
    hknown es
  rwa [hnone, Nat.zero_add] at hpaid

end Network

end ScratchIrcd
