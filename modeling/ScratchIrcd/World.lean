/-
  File:      ScratchIrcd/World.lean
  Subject:   The commands that touch channels and services, as one type of events, and what an act of
             a service does to memberships.

  A service moves nobody, apart from connections it ends (`ServiceAct.roster`), so memberships stay in
  step (`Sound`) under every service command.
-/
import ScratchIrcd.NickServRule
import ScratchIrcd.Topic

namespace ScratchIrcd

open CText Relation

/-! ## 1. Events -/

/-- A command of one client, with the text after its verb, or the end of a connection. -/
inductive Event where
  | channel (e : ChannelEvent)
  | topic (c : ClientRef) (params : Option Text)
  | invite (c : ClientRef) (params : Option Text)
  | chanserv (c : ClientRef) (params : Option Text)
  | csset (c : ClientRef) (params : Option Text)
  | csdrop (c : ClientRef) (params : Option Text)
  | nickserv (c : ClientRef) (params : Option Text)
  | identify (c : ClientRef) (params : Option Text)
  | nsset (c : ClientRef) (params : Option Text)
  | nsdrop (c : ClientRef) (params : Option Text)

/-- The connection an event is about. -/
def Event.actor : Event → ClientRef
  | .channel e => e.actor
  | .topic c _ | .invite c _ | .chanserv c _ | .csset c _ | .csdrop c _ | .nickserv c _
  | .identify c _ | .nsset c _ | .nsdrop c _ => c

namespace Server

def serve (s : Server) : Event → Server
  | .channel e => s.handle e
  | .topic c params => s.commandTopic c params
  | .invite c params => s.commandInvite c params
  | .chanserv c params => s.commandChanserv c params
  | .csset c params => s.commandCsset c params
  | .csdrop c params => s.commandCsdrop c params
  | .nickserv c params => s.commandNickserv c params
  | .identify c params => s.commandIdentify c params
  | .nsset c params => s.commandNsset c params
  | .nsdrop c params => s.commandNsdrop c params

variable {s s' : Server}

/-- Commands to services are chains of acts. -/
theorem serve_induct {P : Server → Prop} {e : Event} (channel : ∀ e', e = .channel e' → P (s.handle e'))
    (topic : ∀ c params, P (s.commandTopic c params))
    (invite : ∀ c params, e = .invite c params → P (s.commandInvite c params))
    (service : ∀ s', ServiceChain s s' → P s') : P (s.serve e) := by
  cases e with
  | channel e => exact channel e rfl
  | topic c params => exact topic c params
  | invite c params => exact invite c params rfl
  | chanserv c params => exact service _ (chain_commandChanserv s c params)
  | csset c params => exact service _ (chain_commandCsset s c params)
  | csdrop c params => exact service _ (chain_commandCsdrop s c params)
  | nickserv c params => exact service _ (chain_commandNickserv s c params)
  | identify c params => exact service _ (chain_commandIdentify s c params)
  | nsset c params => exact service _ (chain_commandNsset s c params)
  | nsdrop c params => exact service _ (chain_commandNsdrop s c params)

/-! ## 2. Reading again -/

theorem silent_accountChanged (s : Server) (c : ClientRef) : s.Silent (s.accountChanged c) := by
  have hnotify : s.Silent (s.accountNotify c) := by
    unfold accountNotify
    split
    · exact .refl s
    · exact s.silent_deliver _
  exact List.foldlRecOn (motive := s.Silent) _ _ hnotify fun s₁ h ch _ =>
    h.trans (s₁.silent_syncMember ch c)

theorem quiet_refreshRegistration (s : Server) (name : Text) :
    s.Quiet (s.refreshRegistration name) := by
  unfold refreshRegistration
  split
  · exact .refl s
  · rename_i ch _
    have hload := s.quiet_loadPolicy ch true
    dsimp only
    generalize s.loadPolicy ch true = s₁ at hload
    have hmode (p : Bool) : s.Quiet (if p = true then s₁ else
        s₁.serviceMode ch [signChar (s₁.channel ch).isRegistered, 'r']) := by
      split
      · exact hload
      · exact hload.trans (s₁.quiet_deliver _)
    split
    · exact (hmode _).trans (silent_syncChannel _ ch).toQuiet
    · exact hmode _

/-! ## 3. Memberships stay in step -/

theorem applyAccount_eq (config : ServerConfig) (ext : External) (a : NickServAccount) (cl : Client) :
    ∃ modes host active history, cl.applyAccount config ext a = { cl with
      accountName := a.name, modes := modes, displayHost := host, accountVhostActive := active
      history := history } := by
  unfold Client.applyAccount
  dsimp only
  split
  · split <;> exact ⟨_, _, _, _, rfl⟩
  split
  · have h := Client.sameButModes_applyCloak config ext { cl with
      accountName := a.name, accountVhostActive := false
      modes := (insert ClientMode.registered cl.modes).erase .vhost }
    unfold Client.SameButModes at h
    rw [h]
    exact ⟨_, _, _, _, rfl⟩
  · exact ⟨_, _, _, _, rfl⟩

theorem dropAccount_eq (config : ServerConfig) (ext : External) (cl : Client) :
    ∃ modes host active history, cl.dropAccount config ext = { cl with
      accountName := [], saslState := .none, modes := modes, displayHost := host
      accountVhostActive := active, history := history } := by
  unfold Client.dropAccount
  dsimp only
  split
  · have h := Client.sameButModes_applyCloak config ext { cl with
      accountName := [], saslState := .none, accountVhostActive := false
      modes := (cl.modes.erase .registered).erase .vhost }
    unfold Client.SameButModes at h
    rw [h]
    exact ⟨_, _, _, _, rfl⟩
  · exact ⟨_, _, _, _, rfl⟩

theorem roster_commandInvite (s : Server) (c : ClientRef) (params : Option Text) :
    (s.commandInvite c params).roster = s.roster := by
  refine commandInvite_induct (P := fun s' => s'.roster = s.roster) rfl (fun _ => rfl) ?_
  intro _ _ ch chan' _ _ _ _ _ _
  have hroster : (s.withInvites ch chan'.invites).roster = s.roster := s.roster_updChannel ch rfl rfl
  exact hroster

theorem ServiceAct.roster (h : ServiceAct s s') :
    s'.roster = s.roster ∨ ∃ c reason, s' = s.disconnect c reason := by
  cases h with
  | setting p ch =>
    refine .inl (roster_updChannel s ch ?_ ?_)
    · cases p <;> rfl
    · cases p <;> rfl
  | register c ch account => exact .inl (roster_updChannel s ch rfl (Channel.map_client_mapGrants ..))
  | sync ch c => exact .inl (s.silent_syncMember ch c).toQuiet.roster
  | load ch => exact .inl (s.quiet_loadPolicy ch true).roster
  | identify c a =>
    obtain ⟨_, _, _, _, heq⟩ := applyAccount_eq s.config s.ext a (s.client c)
    exact .inl (s.roster_updClient c (by rw [heq]))
  | dropAccount c =>
    obtain ⟨_, _, _, _, heq⟩ := dropAccount_eq s.config s.ext (s.client c)
    exact .inl (s.roster_updClient c (by rw [heq]))
  | disconnect hfind reason => exact .inr ⟨_, reason, rfl⟩
  | rename hfind hvalid hfree => exact .inl (roster_updClient _ _ rfl)
  | _ => exact .inl rfl

theorem ServiceAct.moves (hs : s.Sound) (h : ServiceAct s s') : s.Moves s' := by
  rcases h.roster with heq | ⟨c, reason, rfl⟩
  · exact .of_eq heq
  · exact moves_disconnect hs c reason

end Server

end ScratchIrcd
