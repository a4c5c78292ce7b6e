/-
  File:      ScratchIrcd/Membership.lean
  Subject:   Memberships stay in step: the two lists, the two counters, and who is connected.

  `Sound` (Moves.lean) says that the two halves of every membership agree. What is added here is
  about clients: the counter of a client's channels, and that whoever is in a channel is connected.
  `Enters X` says that a command lets only `X` into channels; a command that ends a connection takes
  it out of its channels first.
-/
import ScratchIrcd.BanSweep
import ScratchIrcd.ClientIndex

namespace ScratchIrcd

open CText Relation

variable {cl : Client} {f : Client → Client} {c : ClientRef} {n : Network}

/-- `channel_count` counts the channels of the client. -/
def Client.Counted (cl : Client) : Prop := cl.channelCount = cl.channels.length

theorem Client.Counted.link (h : cl.Counted) (ch : ChannelRef) : (cl.link ch).Counted :=
  congrArg (· + 1) h

theorem Client.Counted.unlink (h : cl.Counted) (ch : ChannelRef) : (cl.unlink ch).Counted := by
  unfold Counted at h
  simp only [Counted, Client.unlink, List.length_erase, h, List.contains_iff_mem]

namespace Server

variable {X : ClientRef → Prop} {s s' s'' : Server}

/-! ## 1. Who enters -/

/-- The connections are the same, only `X` are in channels they were not in, and counters that
    counted still do. -/
structure Enters (X : ClientRef → Prop) (s s' : Server) : Prop extends s.SameLinks s' where
  rooms : ∀ c, ¬ X c → (s'.client c).channels ⊆ (s.client c).channels
  counted : ∀ c, (s.client c).Counted → (s'.client c).Counted

namespace Enters

theorem refl (s : Server) : s.Enters X s := ⟨.refl s, fun _ _ => List.Subset.refl _, fun _ h => h⟩

theorem trans (h₁ : s.Enters X s') (h₂ : s'.Enters X s'') : s.Enters X s'' :=
  ⟨h₁.toSameLinks.trans h₂.toSameLinks, fun c hc => List.Subset.trans (h₂.rooms c hc) (h₁.rooms c hc),
    fun c h => h₂.counted c (h₁.counted c h)⟩

theorem of_quiet (h : s.Quiet s') : s.Enters X s' :=
  ⟨.of_quiet h, fun c _ => by rw [h.client]; exact List.Subset.refl _, fun c => by rw [h.client]; exact id⟩

theorem mono {Y : ClientRef → Prop} (h : s.Enters X s') (hY : ∀ c, X c → Y c) : s.Enters Y s' :=
  ⟨h.toSameLinks, fun c hc => h.rooms c fun hX => hc (hY c hX), h.counted⟩

section

variable (h : s.Enters X s')
include h

theorem quiet (hquiet : s'.Quiet s'') : s.Enters X s'' := h.trans (.of_quiet hquiet)

theorem deliver (ds : List (ClientRef × Line)) : s.Enters X (s'.deliver ds) :=
  h.quiet (s'.quiet_deliver ds)

/-- One client's record changed in what is no connection. -/
theorem updClient (c : ClientRef) (hsame : (s'.client c).SameConnection (f (s'.client c)))
    (hrooms : ¬ X c → (f (s'.client c)).channels ⊆ (s'.client c).channels)
    (hcounted : (s'.client c).Counted → (f (s'.client c)).Counted) :
    s.Enters X (s'.updClient c f) := by
  refine h.trans ⟨s'.sameLinks_updClient c hsame, fun r hr => ?_, fun r hr => ?_⟩
  · by_cases heq : r = c
    · subst heq
      rw [updClient_self]
      exact hrooms hr
    · rw [updClient_of_ne _ _ _ _ heq]
      exact List.Subset.refl _
  · by_cases heq : r = c
    · subst heq
      rw [updClient_self]
      exact hcounted hr
    · rwa [updClient_of_ne _ _ _ _ heq]

/-- Channels changed, and the table of channels. -/
theorem congr (hlinks : s'.SameLinks s'') (hclient : s''.client = s'.client) :
    s.Enters X s'' :=
  h.trans ⟨hlinks, fun c _ => by rw [hclient]; exact List.Subset.refl _, fun c => by rw [hclient]; exact id⟩

theorem updChannel (ch : ChannelRef) {f : Channel → Channel}
    (hf : (f (s'.channel ch)).invites.Sublist (s'.channel ch).invites) :
    s.Enters X (s'.updChannel ch f) :=
  h.congr ⟨rfl, rfl, rfl, rfl, rfl, fun _ => .refl _, s'.keepsInvites_updChannel ch hf⟩ rfl

theorem createChannel (name : Text) : s.Enters X (s'.createChannel name) :=
  h.congr ⟨rfl, rfl, rfl, rfl, rfl, fun _ => .refl _, s'.keepsInvites_createChannel name⟩ rfl

theorem addToChannel (ch : ChannelRef) (hc : X c) :
    s.Enters X (s'.addToChannel ch c) := by
  unfold Server.addToChannel
  split
  · exact h
  · refine (h.updChannel ch ?_).updClient c ⟨rfl, rfl, rfl, rfl, rfl, rfl, rfl, rfl, rfl, rfl⟩
      (fun hnot => absurd hc hnot) fun hcounted => hcounted.link ch
    unfold Channel.addMember
    split
    · exact .refl _
    · exact .refl _

theorem removeFromChannel (ch : ChannelRef) (c : ClientRef) :
    s.Enters X (s'.removeFromChannel ch c) :=
  (h.updChannel ch (.refl _)).updClient c ⟨rfl, rfl, rfl, rfl, rfl, rfl, rfl, rfl, rfl, rfl⟩
    (fun _ => List.erase_subset) fun hcounted => hcounted.unlink ch

theorem removeChannelIfEmpty (ch : ChannelRef) :
    s.Enters X (s'.removeChannelIfEmpty ch) := by
  refine h.congr ?_ (s'.client_removeChannelIfEmpty ch)
  unfold Server.removeChannelIfEmpty
  split_ifs <;> exact ⟨rfl, rfl, rfl, rfl, rfl, fun _ => .refl _, .refl _⟩

theorem leave (ch : ChannelRef) (c : ClientRef) :
    s.Enters X ((s'.removeFromChannel ch c).removeChannelIfEmpty ch) :=
  (h.removeFromChannel ch c).removeChannelIfEmpty ch

end

end Enters

/-! ## 2. Channel commands -/

theorem enters_joinRestore {name : Text} {ch : ChannelRef} {created restored : Bool}
    {s₁ s₂ : Server} (henter : s.joinEnter c name = (some (ch, created), s₁))
    (hrestore : s₁.joinRestore c ch created = (restored, s₂)) : s.Enters X s₂ := by
  have hfound : s.Enters X s₁ := by
    rcases (joinEnter_some henter).2 with ⟨rfl, -⟩ | ⟨rfl, -⟩
    · exact .refl _
    · exact Enters.createChannel (.refl s) name
  cases restored with
  | true => exact hfound.quiet (joinRestore_true hrestore).1
  | false =>
    obtain ⟨s₃, hquiet, -, -, -, rfl⟩ := joinRestore_false_cases hrestore
    cases created
    · exact hfound.quiet hquiet
    · exact (hfound.quiet hquiet).removeChannelIfEmpty ch

section

variable (s : Server) (c : ClientRef) (params : Option Text)

theorem enters_commandJoin :
    s.Enters (· = c) (s.commandJoin c params) := by
  refine commandJoin_induct (.refl s) (fun ds => Enters.deliver (.refl s) ds) fun name key _ => ?_
  refine joinOne_induct (P := s.Enters (· = c)) (fun _ ds h => h.deliver ds) ?_ ?_ ?_ _ (.refl s)
  · exact fun s₁ name h => h.quiet (s₁.silent_clientPrivileges c name).toQuiet
  · exact fun s₁ name ch created s₂ restored s₃ h henter hrestore =>
      h.trans (enters_joinRestore henter hrestore)
  · intro s₁ name ch service h hfind hout
    have hseat : s.Enters (· = c) (s₁.joinSeat c ch service) := by
      unfold joinSeat
      refine (h.addToChannel ch rfl).updChannel ch ?_
      rw [Channel.invites_seat]
      split
      · exact Channel.sublist_inviteConsume _ _
      · exact .refl _
    exact hseat.quiet (s₁.joinAdmit_spec c ch service).1.toQuiet

theorem enters_commandPart :
    s.Enters X (s.commandPart c params) :=
  commandPart_induct (.refl s) (fun ds => Enters.deliver (.refl s) ds) fun _ ch _ _ _ =>
    (Enters.deliver (.refl s) _).leave ch c

theorem enters_commandKick :
    s.Enters X (s.commandKick c params) :=
  commandKick_induct (.refl s) (fun ds => Enters.deliver (.refl s) ds)
    fun _ ch _ target _ _ _ _ _ _ _ => (Enters.deliver (.refl s) _).leave ch target

theorem enters_commandSapart :
    s.Enters X (s.commandSapart c params) :=
  commandSapart_induct (fun _ ds h => h.deliver ds) (fun _ _ ch target h _ => h.leave ch target)
    (.refl s)

/-- SAJOIN lets in whom it finds under the nickname. -/
theorem enters_commandSajoin :
    s.Enters (fun target => ∃ nick, s.findNick nick = some target) (s.commandSajoin c params) := by
  refine withOverride_induct (fun ds _ => Enters.deliver (.refl s) ds) fun nick _ channels _ _ _ _ => ?_
  split
  · exact Enters.deliver (.refl s) _
  · rename_i target hfind
    refine Enters.deliver (List.foldlRecOn _ _ (.refl s) fun s₁ h name _ => ?_) _
    refine forceJoin_induct h (fun _ _ => h.createChannel name) (fun s₂ ch first h _ _ => ?_) h
    exact (((h.addToChannel ch ⟨nick, hfind⟩).quiet (silent_forceSeat _ target ch first).toQuiet)).quiet
      (silent_forceAnnounce _ c target ch).1.toQuiet

end

theorem Enters.touch (h : s.Enters X s') (c : ClientRef)
    (hf : ∀ cl : Client, cl.SameButModes (f cl)) : s.Enters X (s'.updClient c f) := by
  have heq := hf (s'.client c)
  unfold Client.SameButModes at heq
  refine h.updClient c ?_ (fun _ => ?_) fun hcounted => ?_
  · rw [heq]
    exact ⟨rfl, rfl, rfl, rfl, rfl, rfl, rfl, rfl, rfl, rfl⟩
  · rw [(hf _).channels]
    exact List.Subset.refl _
  · rw [heq]
    exact hcounted

theorem loopsKeep_enters (s : Server) (c : ClientRef) : LoopsKeep (s.Enters X) c :=
  fun s' ch mayChange letters args h => .of_deliver (fun ds h => h.deliver ds)
    (h.quiet (s'.modeOutcome_modeLoop c ch mayChange letters args).quiet)

theorem enters_dispatchMode (s : Server) (c : ClientRef) (params : Option Text) :
    s.Enters X (s.dispatchMode c params) :=
  dispatchMode_induct (P := s.Enters X) (fun _ ds _ h => h.deliver ds)
    (fun _ _ hf h => h.touch c fun cl => (hf cl).same)
    (fun _ _ ch _ h => h.updChannel ch (.refl _))
    (fun _ _ _ _ h => h.congr ⟨rfl, rfl, rfl, rfl, rfl, fun _ => .refl _, .refl _⟩ rfl)
    (fun _ _ => .inr (s.loopsKeep_enters c))
    (fun _ _ _ _ => s.loopsKeep_enters c _ _ _ _ _ (.refl s)) (.refl s)

/-- SAMODE by somebody outside lets them in for as long as it takes. -/
theorem enters_commandSamode (s : Server) (c : ClientRef) (params : Option Text) :
    s.Enters (· = c) (s.commandSamode c params) := by
  refine commandSamode_induct (P := s.Enters (· = c)) (fun _ ds _ h => h.deliver ds)
    (fun _ _ _ _ h => h.congr ⟨rfl, rfl, rfl, rfl, rfl, fun _ => .refl _, .refl _⟩ rfl)
    (fun _ subject _ hf h => h.touch subject hf) (fun _ _ ch _ h => h.addToChannel ch rfl)
    (fun _ ch h => h.removeFromChannel ch c) (fun _ ch _ h => h.updChannel ch (.refl _))
    (fun ch _ _ _ => ?_) (.refl s)
  have hseat : s.Enters (· = c) (s.addToChannel ch c) := (Enters.refl s).addToChannel ch rfl
  exact s.loopsKeep_enters c _ _ _ _ _ (hseat.updChannel ch (.refl _))

/-! ## 3. Everything in step -/

/-- Both halves of every membership, the counters, the tables, and who is connected. -/
structure InStep (s : Server) : Prop where
  sound : s.Sound
  indexed : s.Indexed
  counted : ∀ c, (s.client c).Counted
  live : ∀ c, (s.client c).channels ≠ [] → c ∈ s.clients

namespace InStep

/-- A command that lets only connected clients in. -/
theorem of_enters (h : s.InStep) (hs : s'.Sound) (he : s.Enters X s') (hX : ∀ c, X c → c ∈ s.clients) :
    s'.InStep := by
  refine ⟨hs, h.indexed.of_links he.toSameLinks, fun c => he.counted c (h.counted c), fun c hc => ?_⟩
  rw [he.clients]
  by_cases hx : X c
  · exact hX c hx
  · exact h.live c fun hnil => hc (List.subset_nil.mp (hnil ▸ he.rooms c hx))

/-- Leaving every channel leaves none. -/
theorem channels_leaveAll (s : Server) (c : ClientRef) : ((s.leaveAll c).client c).channels = [] := by
  have list : ∀ (l : List ChannelRef) (s : Server), (s.client c).channels = l →
      ((l.foldl (fun s ch => (s.removeFromChannel ch c).removeChannelIfEmpty ch) s).client c).channels =
        [] := by
    intro l
    induction l with
    | nil => exact fun _ h => h
    | cons ch l ih =>
      intro s h
      refine ih _ ?_
      rw [client_removeChannelIfEmpty]
      unfold Server.removeFromChannel
      rw [updClient_self, updChannel_client, Client.unlink, h, List.erase_cons_head]
  exact list _ s rfl

end InStep

theorem client_clientFree (s : Server) (c : ClientRef) : (s.clientFree c).client = s.client := by
  obtain ⟨_, _, _, _, heq⟩ := s.clientFree_eq c
  rw [heq]

/-- Nobody enters anything when a connection ends. -/
theorem rooms_disconnect (s : Server) (c : ClientRef) (reason : Text) (r : ClientRef) :
    ((s.disconnect c reason).client r).channels ⊆ (s.client r).channels ∧
      ((s.client r).Counted → ((s.disconnect c reason).client r).Counted) := by
  have same : ∀ s₁ : Server, ((s₁.unlist c).client r).channels = (s₁.client r).channels ∧
      ((s₁.unlist c).client r).channelCount = (s₁.client r).channelCount := by
    intro s₁
    rw [unlist_eq]
    by_cases hr : r = c
    · subst hr
      rw [updClient_self]
      exact ⟨rfl, rfl⟩
    · rw [updClient_of_ne _ _ _ _ hr]
      exact ⟨rfl, rfl⟩
  refine disconnect_induct (P := fun t => (t.client r).channels ⊆ (s.client r).channels ∧
    ((s.client r).Counted → (t.client r).Counted)) (fun _ _ h => h) (fun s₁ h => ?_) (fun s₁ h => ?_)
    (fun s₁ h => ?_) ⟨List.Subset.refl _, id⟩
  · have hleft : s₁.Enters (fun _ => False) (s₁.leaveAll c) :=
      List.foldlRecOn _ _ (.refl s₁) fun _ h ch _ => h.leave ch c
    exact ⟨List.Subset.trans (hleft.rooms r id) h.1, fun hr => hleft.counted r (h.2 hr)⟩
  · unfold Client.Counted at h ⊢
    rw [(same s₁).1, (same s₁).2]
    exact h
  · rw [client_clientFree]
    exact h

theorem rooms_disconnect_self (s : Server) (c : ClientRef) (reason : Text) :
    ((s.disconnect c reason).client c).channels = [] := by
  unfold disconnect
  dsimp only
  rw [client_clientFree, unlist_eq, updClient_self]
  exact InStep.channels_leaveAll _ c

namespace InStep

theorem disconnect (h : s.InStep) (hc : c ∈ s.clients) (reason : Text) :
    (s.disconnect c reason).InStep := by
  refine ⟨h.sound.of_moves (moves_disconnect h.sound c reason), h.indexed.disconnect hc reason,
    fun r => (s.rooms_disconnect c reason r).2 (h.counted r), fun r hr => ?_⟩
  have hrooms := (s.rooms_disconnect c reason r).1
  rw [clients_disconnect, mem_swapRemove h.indexed.nodup]
  refine ⟨h.live r fun hnil => hr (List.subset_nil.mp (hnil ▸ hrooms)), ?_⟩
  rintro rfl
  exact hr (s.rooms_disconnect_self r reason)

end InStep

/-! ## 4. Services -/

/-- A service moves nobody, apart from connections it ends. -/
theorem ServiceAct.rooms (h : ServiceAct s s') :
    (∃ old c reason, s.findNick old = some c ∧ s' = s.disconnect c reason) ∨
      ∀ r, (s'.client r).channels = (s.client r).channels ∧
        (s'.client r).channelCount = (s.client r).channelCount := by
  have same : ∀ {t : Server}, t.client = s.client → ∀ r,
      (t.client r).channels = (s.client r).channels ∧
        (t.client r).channelCount = (s.client r).channelCount :=
    fun h r => by rw [h]; exact ⟨rfl, rfl⟩
  have own : ∀ (c : ClientRef) (f : Client → Client), (f (s.client c)).channels = (s.client c).channels →
      (f (s.client c)).channelCount = (s.client c).channelCount → ∀ r,
      ((s.updClient c f).client r).channels = (s.client r).channels ∧
        ((s.updClient c f).client r).channelCount = (s.client r).channelCount := by
    intro c f hrooms hcount r
    by_cases hr : r = c
    · subst hr
      rw [updClient_self]
      exact ⟨hrooms, hcount⟩
    · rw [updClient_of_ne _ _ _ _ hr]
      exact ⟨rfl, rfl⟩
  cases h with
  | disconnect hfind reason => exact .inl ⟨_, _, reason, hfind, rfl⟩
  | sync ch c => exact .inr (same (s.silent_syncMember ch c).toQuiet.client)
  | identify c a =>
    obtain ⟨_, _, _, _, heq⟩ := applyAccount_eq s.config s.ext a (s.client c)
    exact .inr (own c _ (by rw [heq]) (by rw [heq]))
  | dropAccount c =>
    obtain ⟨_, _, _, _, heq⟩ := dropAccount_eq s.config s.ext (s.client c)
    exact .inr (own c _ (by rw [heq]) (by rw [heq]))
  | @rename c old nick hfind hvalid hfree => exact .inr (own c (fun cl => { cl with nick := nick }) rfl rfl)
  | _ => exact .inr (same rfl)

theorem InStep.serviceChain (h : s.InStep) (hchain : ServiceChain s s') : s'.InStep := by
  refine Runs.steps_invariant (P := InStep) (fun a b ha hact => ?_) h hchain
  rcases hact.rooms with ⟨old, c, reason, hfind, rfl⟩ | hrooms
  · exact ha.disconnect ((ha.indexed.nick old c).mp hfind).1 reason
  · refine ⟨ha.sound.of_moves (hact.moves ha.sound), (ha.indexed.serviceChain (.single hact)).1,
      fun c => ?_, fun c hc => ?_⟩
    · unfold Client.Counted
      rw [(hrooms c).1, (hrooms c).2]
      exact ha.counted c
    · rw [(hrooms c).1] at hc
      rcases hact.links with hlinks | ⟨old, x, reason, hfind, rfl⟩ | ⟨old, x, nick, -, -, -, rfl⟩
      · rw [hlinks.clients]
        exact ha.live c hc
      · rw [← (hrooms c).1] at hc
        exact (ha.disconnect ((ha.indexed.nick old x).mp hfind).1 reason).live c hc
      · exact ha.live c hc

end Server

/-! ## 5. Bans -/

namespace Network

/-- **KLINE and ZLINE say something, and end connections that are there.** -/
theorem banAdd_rule {P : Server → Prop} (say : ∀ s ds, P s → P (s.deliver ds))
    (drop : ∀ s c reason, P s → c ∈ s.clients → P (s.disconnect c reason)) (family : BanFamily)
    (order : List BanRecord → List BanRecord) (h : P n.server) (c : ClientRef) (r : BanRequest) :
    P (banAdd family order n c r).server := by
  have turn : ∀ (record : BanRecord) (n : Network) (target : ClientRef), P n.server →
      target ∈ n.server.clients → P (sweepTurn family c r record n target).1.server := by
    intro record n target h htarget
    unfold sweepTurn
    dsimp only
    split
    · split
      · exact say _ _ h
      · rw [disconnect, (server_settle _ _).1]
        exact drop _ _ _ (say _ _ (say _ _ h)) htarget
    · exact h
  have loop : ∀ (record : BanRecord) (fuel index : Nat) (n : Network), P n.server →
      P (sweepLoop (sweepTurn family c r record) fuel index n).server := by
    intro record fuel
    induction fuel with
    | zero => exact fun _ _ h => h
    | succ fuel ih =>
      intro index n h
      unfold sweepLoop
      split
      · exact h
      · rename_i target htarget
        exact ih _ _ (turn record n target h (List.mem_of_getElem? htarget))
  unfold banAdd
  split
  · exact say _ _ h
  · rename_i bans _
    have hswept : P (sweep family c r (order (bans.active n.server.now family.type))
        { n with bans := bans }).server :=
      List.foldlRecOn (motive := fun m : Network => P m.server) _ _ h fun m hm record _ => loop record _ _ m hm
    unfold banAdded
    dsimp only
    split <;> exact say _ _ (say _ _ hswept)

variable {P : Server → Prop} (say : ∀ s ds, P s → P (s.deliver ds))
  (drop : ∀ s c reason, P s → c ∈ s.clients → P (s.disconnect c reason)) {n : Network}

include say

theorem banRemove_rule (h : P n.server) (family : BanFamily) (c : ClientRef) (mask : Text) :
    P (banRemove family n c mask).server := by
  unfold banRemove
  split
  · exact say _ _ h
  · exact say _ _ (say _ _ h)

theorem banRefused_rule (h : P n.server) (family : BanFamily) (c : ClientRef) (mask : Text)
    (e : BanRefusal) : P (n.banRefused family c mask e).server := by
  cases e <;> exact say _ _ h

include drop

theorem kline_rule (h : P n.server) (order : List BanRecord → List BanRecord) (c : ClientRef)
    (params : Option Text) : P (kline order n c params).server := by
  unfold kline
  dsimp only
  split
  · exact say _ _ h
  split
  · exact say _ _ h
  · split
    · exact say _ _ h
    · exact banRemove_rule say h _ _ _
  · split
    · exact say _ _ h
    split
    · exact banRefused_rule say h _ _ _ _
    · exact banAdd_rule say drop _ _ h _ _

theorem zline_rule (h : P n.server) (order : List BanRecord → List BanRecord) (c : ClientRef)
    (params : Option Text) : P (zline order n c params).server := by
  unfold zline
  split
  · exact say _ _ h
  split
  · exact say _ _ h
  split
  · exact say _ _ h
  · exact banRemove_rule say h _ _ _
  · split
    · exact banRefused_rule say h _ _ _ _
    · exact banAdd_rule say drop _ _ h _ _

end Network

/-! ## 6. Runs -/

/-- A command that touches memberships, or the end of a connection. -/
inductive MemberEvent where
  /-- JOIN, PART, KICK, MODE, SAJOIN, SAPART, SAMODE, or a connection that ends. -/
  | channel (e : ChannelEvent)
  | invite (c : ClientRef) (params : Option Text)
  /-- RECOVER, GHOST and the other commands of NickServ. -/
  | nickserv (c : ClientRef) (params : Option Text)
  | kline (c : ClientRef) (params : Option Text)
  | zline (c : ClientRef) (params : Option Text)

def MemberEvent.actor : MemberEvent → ClientRef
  | .channel e => e.actor
  | .invite c _ | .nickserv c _ | .kline c _ | .zline c _ => c

namespace Network

/-- One event at a time of day; `order` is how the database lists the bans. -/
def memberStep (order : List BanRecord → List BanRecord) (n : Network) (e : Nat × MemberEvent) :
    Network :=
  if e.2.actor ∈ n.server.clients then
    let n := n.onServer fun s => { s with now := e.1 }
    match e.2 with
    | .channel e => n.settle (n.server.handle e)
    | .invite c params => n.settle (n.server.commandInvite c params)
    | .nickserv c params => n.settle (n.server.commandNickserv c params)
    | .kline c params => n.kline order c params
    | .zline c params => n.zline order c params
  else n

end Network

namespace Server

variable {s : Server}

theorem InStep.at (h : s.InStep) (now : Nat) : InStep { s with now := now } :=
  h.of_enters (X := fun _ => False) h.sound
    ((Enters.refl s).congr ⟨rfl, rfl, rfl, rfl, rfl, fun _ => .refl _, .refl _⟩ rfl) fun _ h => h.elim

/-- One channel command of a client that is connected. -/
theorem InStep.handle (h : s.InStep) {e : ChannelEvent} (hactor : e.actor ∈ s.clients) :
    (s.handle e).InStep := by
  have self : ∀ c, c = e.actor → c ∈ s.clients := fun c hc => hc ▸ hactor
  have nobody : ∀ c : ClientRef, False → c ∈ s.clients := fun _ h => h.elim
  have hsound := h.sound.of_moves (moves_handle h.sound e)
  cases e with
  | join c params => exact h.of_enters hsound (s.enters_commandJoin c params) self
  | part c params => exact h.of_enters hsound (s.enters_commandPart c params) nobody
  | kick c params => exact h.of_enters hsound (s.enters_commandKick c params) nobody
  | mode c params => exact h.of_enters hsound (s.enters_dispatchMode c params) nobody
  | sajoin c params =>
    refine h.of_enters hsound (s.enters_commandSajoin c params) ?_
    rintro target ⟨nick, hfind⟩
    exact ((h.indexed.nick nick target).mp hfind).1
  | sapart c params => exact h.of_enters hsound (s.enters_commandSapart c params) nobody
  | samode c params => exact h.of_enters hsound (s.enters_commandSamode c params) self
  | disconnect c reason => exact h.disconnect hactor reason

/-- An invitation is nothing a client or the tables know about. -/
theorem InStep.commandInvite (h : s.InStep) (c : ClientRef) (params : Option Text) :
    (s.commandInvite c params).InStep := by
  have hsound : (s.commandInvite c params).Sound :=
    h.sound.of_moves (.of_eq (s.roster_commandInvite c params))
  obtain ⟨hnodup, hfresh, hnick⟩ := h.indexed
  refine commandInvite_induct (P := fun s' => s'.Sound → s'.InStep) (fun _ => h) ?_ ?_ hsound
  · exact fun _ hsound => ⟨hsound, ⟨hnodup, hfresh, hnick⟩, h.counted, h.live⟩
  · exact fun _ _ _ _ _ _ _ _ _ _ hsound => ⟨hsound, ⟨hnodup, hfresh, hnick⟩, h.counted, h.live⟩

/-- Nobody is in a channel yet, and the tables of connections are in step. -/
structure Unjoined (s : Server) : Prop where
  channels : ∀ name, s.findChannel name = none
  rooms : ∀ c, (s.client c).channels = [] ∧ (s.client c).channelCount = 0
  indexed : s.Indexed

theorem Unjoined.inStep (h : s.Unjoined) : s.InStep where
  sound := sound_of_empty h.channels fun c => (h.rooms c).1
  indexed := h.indexed
  counted c := by
    unfold Client.Counted
    rw [(h.rooms c).1, (h.rooms c).2]
    rfl
  live c hc := absurd (h.rooms c).1 hc

/-- A client is in the list of a channel just if the channel is in the list of the client. -/
structure MembershipSymmetry (s : Server) : Prop where
  linked : ∀ c ch, (∃ name, s.findChannel name = some ch) ∧ c ∈ s.memberRefs ch ↔
    ch ∈ (s.client c).channels
  members_once : ∀ ch, (s.memberRefs ch).Nodup
  channels_once : ∀ c, (s.client c).channels.Nodup
  member_count : ∀ ch, (s.channel ch).memberCount = (s.memberRefs ch).length
  channel_count : ∀ c, (s.client c).channelCount = (s.client c).channels.length
  live : ∀ name ch, s.findChannel name = some ch → ∀ c ∈ s.memberRefs ch, c ∈ s.clients

theorem InStep.symmetry (h : s.InStep) : s.MembershipSymmetry where
  linked c ch := by
    constructor
    · rintro ⟨⟨name, hfind⟩, hc⟩
      exact (h.sound.linked hfind c).mpr hc
    · intro hch
      have hlive : s.findChannel (s.channel ch).name = some ch := Roster.Sound.live h.sound hch
      exact ⟨⟨_, hlive⟩, (h.sound.linked hlive c).mp hch⟩
  members_once ch := (s.channel ch).members_nodup
  channels_once := h.sound.rooms_nodup
  member_count ch := by
    rw [(s.channel ch).memberCount_eq, memberRefs, List.length_map]
  channel_count := h.counted
  live name ch hfind c hc := h.live c fun hnil => by
    have hch := (h.sound.linked hfind c).mpr hc
    change ch ∈ (s.client c).channels at hch
    rw [hnil] at hch
    cases hch

end Server

namespace Network

open Server (InStep)

theorem inStep_memberStep (order : List BanRecord → List BanRecord) (h : n.server.InStep)
    (e : Nat × MemberEvent) : (n.memberStep order e).server.InStep := by
  obtain ⟨now, e⟩ := e
  unfold memberStep
  split
  swap
  · exact h
  rename_i hactor
  have hnow := h.at now
  have say : ∀ (s : Server) ds, s.InStep → (s.deliver ds).InStep := fun s ds h =>
    h.of_enters (X := fun _ => False) h.sound (.of_quiet (s.quiet_deliver ds)) fun _ h => h.elim
  have drop : ∀ (s : Server) c reason, s.InStep → c ∈ s.clients → (s.disconnect c reason).InStep :=
    fun _ _ reason h hc => h.disconnect hc reason
  cases e with
  | channel e =>
    dsimp only
    rw [(server_settle _ _).1]
    exact hnow.handle hactor
  | invite c params =>
    dsimp only
    rw [(server_settle _ _).1]
    exact hnow.commandInvite c params
  | nickserv c params =>
    dsimp only
    rw [(server_settle _ _).1]
    exact hnow.serviceChain (Server.chain_commandNickserv _ c params)
  | kline c params => exact kline_rule say drop hnow order c params
  | zline c params => exact zline_rule say drop hnow order c params

/-- **Memberships stay symmetric.** In every run of the commands that touch memberships, of bans and
    of connections that end, from a state with nobody in a channel. -/
theorem membership_symmetric (order : List BanRecord → List BanRecord) (n : Network)
    (hstart : n.server.Unjoined) (es : List (Nat × MemberEvent)) :
    (Runs.exec (memberStep order) n es).server.MembershipSymmetry := by
  have hrun : (Runs.exec (memberStep order) n es).server.InStep :=
    List.foldlRecOn (motive := fun n : Network => n.server.InStep) es (memberStep order) hstart.inStep
      fun _ h e _ => inStep_memberStep order h e
  exact hrun.symmetry

/-- Two registered clients. -/
def annAndBob : Network :=
  (initial {} {} {} {} { inetNtop4 := id, inetNtop6 := id } {}).onServer fun s =>
    ({ s with clients := [0, 1], nextClient := 2, client := fun c => { id := c + 1, registered := true } }.takeNick
      0 "ann".toList).takeNick 1 "bob".toList

theorem annAndBob_unjoined : annAndBob.server.Unjoined := by
  have keep : ∀ (s : Server) (c : ClientRef) (nick : Text),
      (∀ x, (s.client x).channels = [] ∧ (s.client x).channelCount = 0) →
      ∀ x, ((s.takeNick c nick).client x).channels = [] ∧ ((s.takeNick c nick).client x).channelCount = 0 := by
    intro s c nick h x
    rw [Server.takeNick_client]
    by_cases hx : x = c
    · rw [hx, Server.updClient_self]
      exact h c
    · rw [Server.updClient_of_ne _ _ _ _ hx]
      exact h x
  refine ⟨fun _ => rfl, keep _ 1 _ (keep _ 0 _ fun _ => ⟨rfl, rfl⟩), ?_⟩
  have hstart : ∀ c ∈ [0, 1], c < 2 := by decide
  refine .takeNick (.takeNick ⟨by decide, hstart, fun m c => ?_⟩ (by decide) (List.cons_ne_nil _ _)
    fun r hr => ?_) (by decide) (List.cons_ne_nil _ _) fun r hr => ?_
  · exact ⟨fun hget => absurd hget.symm (Option.some_ne_none c), fun hc => absurd rfl hc.2.1⟩
  · exact absurd hr.symm (Option.some_ne_none r)
  · exact absurd (hr.symm.trans (by decide +kernel)) (Option.some_ne_none r)

/-- Both join #a, and ann kicks bob out again. -/
def joinAndKick : List (Nat × MemberEvent) :=
  [(1, .channel (.join 0 (some "#a".toList))), (2, .channel (.join 1 (some "#a".toList))),
    (3, .channel (.kick 0 (some "#a bob :out".toList)))]

theorem membership_symmetric_kick :
    ((Runs.exec (memberStep id) annAndBob (joinAndKick.take 2)).server.memberRefs 0 = [1, 0] ∧
      (Runs.exec (memberStep id) annAndBob joinAndKick).server.memberRefs 0 = [0]) ∧
      (Runs.exec (memberStep id) annAndBob joinAndKick).server.MembershipSymmetry :=
  ⟨by decide +kernel, membership_symmetric id annAndBob annAndBob_unjoined joinAndKick⟩

end Network

end ScratchIrcd
