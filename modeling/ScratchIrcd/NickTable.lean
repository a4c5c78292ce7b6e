/-
  File:      ScratchIrcd/NickTable.lean
  Subject:   What commands do to the server's own record of connections: `clients[]` and
             `clients_by_nick`.

  Most commands leave connections alone (`SameLinks`). A service may end one or rename one
  (`ServiceAct.links`); NICK and RECOVER change a key of the table in place, a disconnect removes
  by swapping. `Server.Indexed` says that the table holds exactly the nicknames of live clients.
-/
import ScratchIrcd.Registration
import ScratchIrcd.World

namespace ScratchIrcd

open CText Relation

variable {f : Client → Client} {c : ClientRef} {a b : Server}

/-! ## 1. Connections that go on -/

namespace Client.SameConnection

theorem refl (a : Client) : a.SameConnection a := ⟨rfl, rfl, rfl, rfl, rfl, rfl, rfl, rfl, rfl, rfl⟩

theorem trans {a b c : Client} (h₁ : a.SameConnection b) (h₂ : b.SameConnection c) :
    a.SameConnection c where
  id := h₂.id.trans h₁.id
  nick := h₂.nick.trans h₁.nick
  registered := h₂.registered.trans h₁.registered
  realIp := h₂.realIp.trans h₁.realIp
  dnsState := h₂.dnsState.trans h₁.dnsState
  dnsblState := h₂.dnsblState.trans h₁.dnsblState
  signonTime := h₂.signonTime.trans h₁.signonTime
  watchList := h₂.watchList.trans h₁.watchList
  pmstatsEnabled := h₂.pmstatsEnabled.trans h₁.pmstatsEnabled
  capabilities := h₂.capabilities.trans h₁.capabilities

end Client.SameConnection

namespace Server

/-- The same connections under the same keys. -/
structure SameLinks (s s' : Server) : Prop where
  clients : s'.clients = s.clients
  clientsByNick : s'.clientsByNick = s.clientsByNick
  nextClient : s'.nextClient = s.nextClient
  nextClientId : s'.nextClientId = s.nextClientId
  ext : s'.ext = s.ext
  client : ∀ c, (s.client c).SameConnection (s'.client c)
  invites : s.KeepsInvites s'

namespace SameLinks

variable {s s' : Server}

theorem refl (s : Server) : s.SameLinks s := ⟨rfl, rfl, rfl, rfl, rfl, fun _ => .refl _, .refl _⟩

theorem trans {c : Server} (h₁ : a.SameLinks b) (h₂ : b.SameLinks c) : a.SameLinks c where
  clients := h₂.clients.trans h₁.clients
  clientsByNick := h₂.clientsByNick.trans h₁.clientsByNick
  nextClient := h₂.nextClient.trans h₁.nextClient
  nextClientId := h₂.nextClientId.trans h₁.nextClientId
  ext := h₂.ext.trans h₁.ext
  client c := (h₁.client c).trans (h₂.client c)
  invites := h₁.invites.trans h₂.invites

theorem of_quiet (h : s.Quiet s') : s.SameLinks s' where
  clients := h.clients
  clientsByNick := h.clientsByNick
  nextClient := h.apart.nextClient
  nextClientId := h.apart.nextClientId
  ext := h.apart.ext
  client c := by rw [h.client]; exact .refl _
  invites := h.invites

theorem foldl {α : Type*} {f : Server → α → Server} (hf : ∀ (s : Server) x, s.SameLinks (f s x))
    (xs : List α) (s : Server) : s.SameLinks (xs.foldl f s) := by
  induction xs generalizing s with
  | nil => exact .refl s
  | cons x xs ih => exact (hf s x).trans (ih _)

end SameLinks

theorem sameLinks_deliver (s : Server) (ds : List (ClientRef × Line)) : s.SameLinks (s.deliver ds) :=
  ⟨rfl, rfl, rfl, rfl, rfl, fun _ => .refl _, .refl _⟩

/-- A client's record changes in what is no connection. -/
theorem sameLinks_updClient (s : Server) (c : ClientRef)
    (hf : (s.client c).SameConnection (f (s.client c))) : s.SameLinks (s.updClient c f) where
  clients := rfl
  clientsByNick := rfl
  nextClient := rfl
  nextClientId := rfl
  ext := rfl
  client c' := by
    by_cases hc : c' = c
    · subst hc
      rw [updClient_self]
      exact hf
    · rw [updClient_of_ne _ _ _ _ hc]
      exact .refl _
  invites := .refl _

/-! ### The end of a connection -/

section

variable (s : Server) (c : ClientRef)

theorem sameLinks_leaveAll : s.SameLinks (s.leaveAll c) := by
  refine SameLinks.foldl (fun s ch => ?_) _ s
  have hleft : s.SameLinks (s.removeFromChannel ch c) :=
    SameLinks.trans (b := s.updChannel ch (·.removeMember c))
      ⟨rfl, rfl, rfl, rfl, rfl, fun _ => .refl _, s.keepsInvites_updChannel ch (.refl _)⟩
      (sameLinks_updClient _ c ⟨rfl, rfl, rfl, rfl, rfl, rfl, rfl, rfl, rfl, rfl⟩)
  refine hleft.trans ?_
  unfold removeChannelIfEmpty
  split_ifs <;> exact ⟨rfl, rfl, rfl, rfl, rfl, fun _ => .refl _, .refl _⟩

theorem sameLinks_whowasRecord (nick : Text) :
    s.SameLinks (s.whowasRecord c nick) := by
  unfold whowasRecord
  dsimp only
  split <;> exact ⟨rfl, rfl, rfl, rfl, rfl, fun _ => .refl _, .refl _⟩

theorem sameLinks_watchOffline (nick : Text) :
    s.SameLinks (s.watchOffline c nick) := by
  unfold watchOffline
  split
  · exact .refl s
  · exact s.sameLinks_deliver _

theorem sameLinks_watchOnline : s.SameLinks (s.watchOnline c) := by
  unfold watchOnline
  dsimp only
  split <;> exact ⟨rfl, rfl, rfl, rfl, rfl, fun _ => .refl _, .refl _⟩

theorem sameLinks_clientFree : s.SameLinks (s.clientFree c) := by
  obtain ⟨_, _, _, _, heq⟩ := s.clientFree_eq c
  rw [heq]
  exact ⟨rfl, rfl, rfl, rfl, rfl, fun _ => .refl _, .refl _⟩

/-- What a disconnect is to the tables: the client is taken off them. -/
theorem disconnect_links (reason : Text) :
    ∃ s₁, s.SameLinks s₁ ∧ (s₁.unlist c).SameLinks (s.disconnect c reason) := by
  have hstats : s.SameLinks (if (s.client c).registered then s.pmstatsDisconnect c else s) := by
    unfold pmstatsDisconnect
    split_ifs
    · exact .refl s
    · exact s.sameLinks_deliver _
    · exact .refl s
  unfold disconnect
  dsimp only
  generalize (if (s.client c).registered then s.pmstatsDisconnect c else s) = s₁ at hstats ⊢
  have hnotice : s.SameLinks (s₁.snotice {.connections} (s₁.disconnectNotice c reason)) :=
    hstats.trans (s₁.sameLinks_deliver _)
  generalize s₁.snotice {.connections} (s₁.disconnectNotice c reason) = s₂ at hnotice ⊢
  have hquit : s₂.SameLinks
      (if (s₂.client c).registered then s₂.deliver (s₂.quitNotices c reason) else s₂) := by
    split
    · exact s₂.sameLinks_deliver _
    · exact .refl s₂
  exact ⟨_, (hnotice.trans hquit).trans (sameLinks_leaveAll _ c), sameLinks_clientFree _ c⟩

end

/-! ### What services do to connections -/

variable {s s' : Server}

/-- **A service leaves the connections alone, ends one, or gives one another nickname.** -/
theorem ServiceAct.links (h : ServiceAct s s') : s.SameLinks s' ∨
    (∃ old c reason, s.findNick old = some c ∧ s' = s.disconnect c reason) ∨
    ∃ old c nick, s.findNick old = some c ∧ validNickname nick = true ∧ s.findNick nick = none ∧
      s' = s.rename c nick := by
  cases h with
  | say ds => exact .inl (s.sameLinks_deliver ds)
  | aside | statements => exact .inl ⟨rfl, rfl, rfl, rfl, rfl, fun _ => .refl _, .refl _⟩
  | setting p ch =>
    refine .inl ⟨rfl, rfl, rfl, rfl, rfl, fun _ => .refl _, keepsInvites_updChannel _ _ ?_⟩
    cases p <;> exact .refl _
  | register c ch account =>
    exact .inl ⟨rfl, rfl, rfl, rfl, rfl, fun _ => .refl _, keepsInvites_updChannel _ _ (.refl _)⟩
  | sync ch c => exact .inl (.of_quiet (s.silent_syncMember ch c).toQuiet)
  | load ch => exact .inl (.of_quiet (s.quiet_loadPolicy ch true))
  | identify c a =>
    obtain ⟨_, _, _, _, heq⟩ := applyAccount_eq s.config s.ext a (s.client c)
    refine .inl (s.sameLinks_updClient c ?_)
    rw [heq]
    exact ⟨rfl, rfl, rfl, rfl, rfl, rfl, rfl, rfl, rfl, rfl⟩
  | dropAccount c =>
    obtain ⟨_, _, _, _, heq⟩ := dropAccount_eq s.config s.ext (s.client c)
    refine .inl (s.sameLinks_updClient c ?_)
    rw [heq]
    exact ⟨rfl, rfl, rfl, rfl, rfl, rfl, rfl, rfl, rfl, rfl⟩
  | disconnect hfind reason => exact .inr (.inl ⟨_, _, reason, hfind, rfl⟩)
  | rename hfind hvalid hfree => exact .inr (.inr ⟨_, _, _, hfind, hvalid, hfree, rfl⟩)

/-! ## 2. The table of nicknames -/

/-- A client off the tables is not registered; nothing else changes about any client. -/
theorem client_unlist (s : Server) (c r : ClientRef) :
    ((s.unlist c).client r).nick = (s.client r).nick ∧
      ((s.unlist c).client r).id = (s.client r).id ∧
      ((s.unlist c).client r).realIp = (s.client r).realIp ∧
      ((s.unlist c).client r).dnsState = (s.client r).dnsState ∧
      ((s.unlist c).client r).dnsblState = (s.client r).dnsblState ∧
      (((s.unlist c).client r).registered = true → (s.client r).registered = true) ∧
      ((s.unlist c).client r).capabilities = (s.client r).capabilities := by
  rw [unlist_eq]
  by_cases hr : r = c
  · subst hr
    rw [updClient_self]
    exact ⟨rfl, rfl, rfl, rfl, rfl, fun h => absurd h Bool.false_ne_true, rfl⟩
  · rw [updClient_of_ne _ _ _ _ hr]
    exact ⟨rfl, rfl, rfl, rfl, rfl, id, rfl⟩

theorem takeNick_client (s : Server) (c : ClientRef) (nick : Text) :
    (s.takeNick c nick).client = (s.updClient c fun cl => { cl with nick := nick }).client := rfl

/-- `clients[]` holds each client once, and `clients_by_nick` the nicknames of these clients. -/
structure Indexed (s : Server) : Prop where
  nodup : s.clients.Nodup
  fresh : ∀ c ∈ s.clients, c < s.nextClient
  nick : ∀ n c, s.findNick n = some c ↔
    c ∈ s.clients ∧ (s.client c).nick ≠ [] ∧ nameEq (s.client c).nick n = true

namespace Indexed

section

variable (h : s.Indexed)
include h

theorem of_links (hl : s.SameLinks s') : s'.Indexed where
  nodup := by rw [hl.clients]; exact h.nodup
  fresh c hc := by rw [hl.nextClient]; exact h.fresh c (hl.clients ▸ hc)
  nick n c := by
    rw [findNick, hl.clientsByNick, hl.clients, (hl.client c).nick]
    exact h.nick n c

/-- Two clients with equal nicknames are one. -/
theorem nick_unique {c' : ClientRef} (hc : c ∈ s.clients) (hc' : c' ∈ s.clients)
    (hne : (s.client c).nick ≠ []) (heq : nameEq (s.client c).nick (s.client c').nick = true) :
    c = c' := by
  have hne' : (s.client c').nick ≠ [] := by
    intro hnil
    have hlen := length_eq_of_nameEq heq
    rw [hnil] at hlen
    exact hne (List.length_eq_zero_iff.mp hlen)
  have hfind := (h.nick _ c).mpr ⟨hc, hne, heq⟩
  have hfind' := (h.nick _ c').mpr ⟨hc', hne', nameEq_refl _⟩
  exact Option.some.inj (hfind.symm.trans hfind')

theorem findNick_self (hc : c ∈ s.clients) (hne : (s.client c).nick ≠ []) :
    s.findNick (s.client c).nick = some c :=
  (h.nick _ c).mpr ⟨hc, hne, nameEq_refl _⟩

/-- The table without the entry of one client. -/
theorem get_without (hc : c ∈ s.clients) (n : Text) (r : ClientRef) :
    (if (s.client c).nick.isEmpty then s.clientsByNick
      else s.clientsByNick.remove (s.client c).nick).get n = some r ↔
      s.findNick n = some r ∧ r ≠ c := by
  split
  · rename_i hnil
    refine ⟨fun hr => ⟨hr, ?_⟩, And.left⟩
    rintro rfl
    exact ((h.nick n r).mp hr).2.1 (List.isEmpty_iff.mp hnil)
  · rename_i hne
    have hself := h.findNick_self hc fun hnil => hne (List.isEmpty_iff.mpr hnil)
    rw [ChainedTable.get_remove]
    split
    · rename_i heq
      have hown : s.findNick n = some c := (s.clientsByNick.get_congr heq).symm.trans hself
      refine ⟨fun hr => absurd hr (Option.some_ne_none r).symm, fun hr => ?_⟩
      exact absurd (Option.some.inj (hr.1.symm.trans hown)) hr.2
    · rename_i hdiff
      refine ⟨fun hr => ⟨hr, ?_⟩, And.left⟩
      rintro rfl
      exact hdiff ((h.nick n r).mp hr).2.2

theorem unlist (hc : c ∈ s.clients) : (s.unlist c).Indexed := by
  have hclients : ∀ r, r ∈ (s.unlist c).clients ↔ r ∈ s.clients ∧ r ≠ c := by
    intro r
    rw [unlist_eq]
    exact mem_swapRemove h.nodup
  refine ⟨?_, fun r hr => ?_, fun n r => ?_⟩
  · rw [unlist_eq]
    exact nodup_swapRemove h.nodup
  · rw [unlist_eq]
    exact h.fresh r ((hclients r).mp hr).1
  · have hfind : (s.unlist c).findNick n = some r ↔ s.findNick n = some r ∧ r ≠ c := by
      rw [unlist_eq]
      exact h.get_without hc n r
    rw [hfind, hclients, (s.client_unlist c r).1, h.nick]
    tauto

theorem disconnect (hc : c ∈ s.clients) (reason : Text) :
    (s.disconnect c reason).Indexed := by
  obtain ⟨s₁, hbefore, hafter⟩ := s.disconnect_links c reason
  have hc₁ : c ∈ s₁.clients := by rw [hbefore.clients]; exact hc
  exact ((h.of_links hbefore).unlist hc₁).of_links hafter

theorem takeNick (hc : c ∈ s.clients) {nick : Text} (hne : nick ≠ [])
    (hfree : ∀ r, s.findNick nick = some r → r = c) : (s.takeNick c nick).Indexed where
  nodup := h.nodup
  fresh := h.fresh
  nick n r := by
    have hself : ((s.takeNick c nick).client c).nick = nick := by
      rw [takeNick_client, updClient_self]
    have hother : ∀ r, r ≠ c → ((s.takeNick c nick).client r).nick = (s.client r).nick := by
      intro r hr
      rw [takeNick_client, updClient_of_ne _ _ _ _ hr]
    have hget : (s.takeNick c nick).findNick n = if nameEq nick n = true then some c
        else (if (s.client c).nick.isEmpty then s.clientsByNick
          else s.clientsByNick.remove (s.client c).nick).get n := ChainedTable.get_set ..
    have hclients : (s.takeNick c nick).clients = s.clients := rfl
    rw [hget, hclients]
    by_cases hr : r = c
    · subst hr
      rw [hself]
      split
      · rename_i heq
        exact ⟨fun _ => ⟨hc, hne, heq⟩, fun _ => rfl⟩
      · rename_i hdiff
        rw [h.get_without hc]
        exact ⟨fun hr => absurd rfl hr.2, fun hr => absurd hr.2.2 hdiff⟩
    · rw [hother r hr]
      split
      · rename_i heq
        refine ⟨fun hs => absurd (Option.some.inj hs).symm hr, fun hmem => ?_⟩
        -- the other client would have the nickname that is free
        have hclash := (h.nick nick r).mpr
          ⟨hmem.1, hmem.2.1, nameEq_trans hmem.2.2 (nameEq_symm heq)⟩
        exact absurd (hfree r hclash) hr
      · rw [h.get_without hc, h.nick]
        exact ⟨And.left, fun hmem => ⟨hmem, hr⟩⟩

end

end Indexed

/-- RECOVER renames as NICK does. -/
theorem rename_eq_takeNick (hne : (s.client c).nick ≠ []) (nick : Text) :
    s.rename c nick = s.takeNick c nick := by
  unfold rename takeNick
  dsimp only
  rw [if_neg fun hnil => hne (List.isEmpty_iff.mp hnil)]

/-- Connections may have ended and changed nicknames; those that go on have their ids and
    addresses. -/
structure Thins (s s' : Server) : Prop where
  clients : ∀ c ∈ s'.clients, c ∈ s.clients
  nextClient : s'.nextClient = s.nextClient
  nextClientId : s'.nextClientId = s.nextClientId
  ext : s'.ext = s.ext
  id : ∀ c, (s'.client c).id = (s.client c).id
  realIp : ∀ c, (s'.client c).realIp = (s.client c).realIp
  dnsState : ∀ c, (s'.client c).dnsState = (s.client c).dnsState
  dnsblState : ∀ c, (s'.client c).dnsblState = (s.client c).dnsblState
  registered : ∀ c, (s'.client c).registered = true → (s.client c).registered = true
  capabilities : ∀ c, (s'.client c).capabilities = (s.client c).capabilities
  invites : s.KeepsInvites s'

namespace Thins

theorem of_links (h : s.SameLinks s') : s.Thins s' where
  clients _ hc := h.clients ▸ hc
  nextClient := h.nextClient
  nextClientId := h.nextClientId
  ext := h.ext
  id c := (h.client c).id
  realIp c := (h.client c).realIp
  dnsState c := (h.client c).dnsState
  dnsblState c := (h.client c).dnsblState
  registered c hr := (h.client c).registered ▸ hr
  capabilities c := (h.client c).capabilities
  invites := h.invites

theorem trans {c : Server} (h₁ : a.Thins b) (h₂ : b.Thins c) : a.Thins c where
  clients r hr := h₁.clients r (h₂.clients r hr)
  nextClient := h₂.nextClient.trans h₁.nextClient
  nextClientId := h₂.nextClientId.trans h₁.nextClientId
  ext := h₂.ext.trans h₁.ext
  id r := (h₂.id r).trans (h₁.id r)
  realIp r := (h₂.realIp r).trans (h₁.realIp r)
  dnsState r := (h₂.dnsState r).trans (h₁.dnsState r)
  dnsblState r := (h₂.dnsblState r).trans (h₁.dnsblState r)
  registered r hr := h₁.registered r (h₂.registered r hr)
  capabilities r := (h₂.capabilities r).trans (h₁.capabilities r)
  invites := h₁.invites.trans h₂.invites

end Thins

theorem thins_unlist (hs : s.clients.Nodup) (c : ClientRef) : s.Thins (s.unlist c) := by
  refine ⟨fun r hr => ?_, ?_, ?_, ?_, fun r => (s.client_unlist c r).2.1,
    fun r => (s.client_unlist c r).2.2.1, fun r => (s.client_unlist c r).2.2.2.1,
    fun r => (s.client_unlist c r).2.2.2.2.1, fun r => (s.client_unlist c r).2.2.2.2.2.1,
    fun r => (s.client_unlist c r).2.2.2.2.2.2, ?_⟩
  · rw [unlist_eq] at hr
    exact ((mem_swapRemove hs).mp hr).1
  iterate 3
    rw [unlist_eq]
    rfl
  · rw [unlist_eq]
    exact .refl _

theorem thins_disconnect (h : s.clients.Nodup) (c : ClientRef) (reason : Text) :
    s.Thins (s.disconnect c reason) := by
  obtain ⟨s₁, hbefore, hafter⟩ := s.disconnect_links c reason
  exact (Thins.of_links hbefore).trans
    ((thins_unlist (by rw [hbefore.clients]; exact h) c).trans (.of_links hafter))

theorem thins_takeNick (s : Server) (c : ClientRef) (nick : Text) : s.Thins (s.takeNick c nick) := by
  have hclient : ∀ r, ((s.takeNick c nick).client r).id = (s.client r).id ∧
      ((s.takeNick c nick).client r).realIp = (s.client r).realIp ∧
      ((s.takeNick c nick).client r).dnsState = (s.client r).dnsState ∧
      ((s.takeNick c nick).client r).dnsblState = (s.client r).dnsblState ∧
      (((s.takeNick c nick).client r).registered = true → (s.client r).registered = true) ∧
      ((s.takeNick c nick).client r).capabilities = (s.client r).capabilities := by
    intro r
    rw [takeNick_client]
    by_cases hr : r = c
    · subst hr
      rw [updClient_self]
      exact ⟨rfl, rfl, rfl, rfl, id, rfl⟩
    · rw [updClient_of_ne _ _ _ _ hr]
      exact ⟨rfl, rfl, rfl, rfl, id, rfl⟩
  exact ⟨fun _ hr => hr, rfl, rfl, rfl, fun r => (hclient r).1, fun r => (hclient r).2.1,
    fun r => (hclient r).2.2.1, fun r => (hclient r).2.2.2.1, fun r => (hclient r).2.2.2.2.1,
    fun r => (hclient r).2.2.2.2.2, .refl _⟩

/-- **A service keeps the tables of the server**, whatever connections it ends or renames. -/
theorem Indexed.serviceChain (h : s.Indexed) (hchain : ServiceChain s s') :
    s'.Indexed ∧ s.Thins s' := by
  refine Runs.steps_invariant (P := fun s' => s'.Indexed ∧ s.Thins s') ?_
    ⟨h, .of_links (.refl s)⟩ hchain
  rintro a b ⟨ha, hthins⟩ hact
  rcases hact.links with hlinks | ⟨old, c, reason, hfind, rfl⟩ |
    ⟨old, c, nick, hfind, hvalid, hfree, rfl⟩
  · exact ⟨ha.of_links hlinks, hthins.trans (.of_links hlinks)⟩
  · exact ⟨ha.disconnect ((ha.nick old c).mp hfind).1 reason,
      hthins.trans (thins_disconnect ha.nodup c reason)⟩
  · obtain ⟨hc, hne, -⟩ := (ha.nick old c).mp hfind
    have hnick : nick ≠ [] := by
      rintro rfl
      cases hvalid
    rw [rename_eq_takeNick hne]
    refine ⟨ha.takeNick hc hnick fun r hr => ?_, hthins.trans (a.thins_takeNick c nick)⟩
    rw [hfree] at hr
    cases hr

/-- What may end connections: `server_disconnect_client`, or a service. -/
inductive Ends (s : Server) : Server → Prop
  | one {c : ClientRef} (hc : c ∈ s.clients) (reason : Text) : Ends s (s.disconnect c reason)
  | service {s' : Server} (h : ServiceChain s s') : Ends s s'

theorem Indexed.ends (h : s.Indexed) (hends : s.Ends s') : s'.Indexed ∧ s.Thins s' := by
  cases hends with
  | one hc reason => exact ⟨h.disconnect hc reason, thins_disconnect h.nodup _ reason⟩
  | service hchain => exact h.serviceChain hchain

/-- The same clients with the same ids, nicknames and addresses; none is left with labelled responses
    and no batches. No channel changed. -/
structure SameKeys (s s' : Server) : Prop where
  clients : s'.clients = s.clients
  clientsByNick : s'.clientsByNick = s.clientsByNick
  nextClient : s'.nextClient = s.nextClient
  nextClientId : s'.nextClientId = s.nextClientId
  ext : s'.ext = s.ext
  id : ∀ c, (s'.client c).id = (s.client c).id
  nick : ∀ c, (s'.client c).nick = (s.client c).nick
  realIp : ∀ c, (s'.client c).realIp = (s.client c).realIp
  labeled : ∀ c, (s.client c).LabeledIsBatched → (s'.client c).LabeledIsBatched
  channel : s'.channel = s.channel

namespace SameKeys

theorem refl (s : Server) : s.SameKeys s :=
  ⟨rfl, rfl, rfl, rfl, rfl, fun _ => rfl, fun _ => rfl, fun _ => rfl, fun _ h => h, rfl⟩

theorem trans {c : Server} (h₁ : a.SameKeys b) (h₂ : b.SameKeys c) : a.SameKeys c where
  clients := h₂.clients.trans h₁.clients
  clientsByNick := h₂.clientsByNick.trans h₁.clientsByNick
  nextClient := h₂.nextClient.trans h₁.nextClient
  nextClientId := h₂.nextClientId.trans h₁.nextClientId
  ext := h₂.ext.trans h₁.ext
  id r := (h₂.id r).trans (h₁.id r)
  nick r := (h₂.nick r).trans (h₁.nick r)
  realIp r := (h₂.realIp r).trans (h₁.realIp r)
  labeled r hr := h₂.labeled r (h₁.labeled r hr)
  channel := h₂.channel.trans h₁.channel

theorem invites (h : s.SameKeys s') : s.KeepsInvites s' := fun ch => by rw [h.channel]

theorem of_links (h : s.SameLinks s') (hchannel : s'.channel = s.channel) : s.SameKeys s' :=
  ⟨h.clients, h.clientsByNick, h.nextClient, h.nextClientId, h.ext, fun c => (h.client c).id,
    fun c => (h.client c).nick, fun c => (h.client c).realIp, fun c hc => by
      unfold Client.LabeledIsBatched
      rw [(h.client c).capabilities]
      exact hc, hchannel⟩

theorem deliver (h : s.SameKeys s') (ds : List (ClientRef × Line)) : s.SameKeys (s'.deliver ds) :=
  h.trans (.of_links (s'.sameLinks_deliver ds) rfl)

theorem updClient (h : s.SameKeys s') (c : ClientRef)
    (hid : (f (s'.client c)).id = (s'.client c).id)
    (hnick : (f (s'.client c)).nick = (s'.client c).nick)
    (hip : (f (s'.client c)).realIp = (s'.client c).realIp)
    (hcaps : (s'.client c).LabeledIsBatched → (f (s'.client c)).LabeledIsBatched) :
    s.SameKeys (s'.updClient c f) := by
  have hclient : ∀ r, ((s'.updClient c f).client r).id = (s'.client r).id ∧
      ((s'.updClient c f).client r).nick = (s'.client r).nick ∧
      ((s'.updClient c f).client r).realIp = (s'.client r).realIp ∧
      ((s'.client r).LabeledIsBatched → ((s'.updClient c f).client r).LabeledIsBatched) := by
    intro r
    by_cases hr : r = c
    · subst hr
      rw [updClient_self]
      exact ⟨hid, hnick, hip, hcaps⟩
    · rw [updClient_of_ne _ _ _ _ hr]
      exact ⟨rfl, rfl, rfl, fun h => h⟩
  exact h.trans ⟨rfl, rfl, rfl, rfl, rfl, fun r => (hclient r).1, fun r => (hclient r).2.1,
    fun r => (hclient r).2.2.1, fun r => (hclient r).2.2.2, rfl⟩

end SameKeys

theorem Indexed.of_keys (h : s.Indexed) (hk : s.SameKeys s') : s'.Indexed where
  nodup := by rw [hk.clients]; exact h.nodup
  fresh c hc := by rw [hk.nextClient]; exact h.fresh c (hk.clients ▸ hc)
  nick n c := by
    rw [findNick, hk.clientsByNick, hk.clients, hk.nick]
    exact h.nick n c

theorem sameKeys_completeRegistration (s : Server) (c : ClientRef) :
    s.SameKeys (s.completeRegistration c) := by
  have hcloak := Client.sameButModes_applyCloak s.config s.ext (s.client c)
  unfold Client.SameButModes at hcloak
  unfold completeRegistration
  dsimp only
  refine SameKeys.deliver (SameKeys.trans ?_ (.of_links (sameLinks_watchOnline _ c)
    (channel_watchOnline _ c))) _
  refine ((((SameKeys.refl s).updClient c ?_ ?_ ?_ ?_).deliver _).deliver _).deliver _ |>.deliver _
  iterate 3 rw [hcloak]
  · unfold Client.LabeledIsBatched
    rw [hcloak]
    exact id

end Server

end ScratchIrcd
