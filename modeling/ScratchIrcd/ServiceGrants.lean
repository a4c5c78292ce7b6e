/-
  File:      ScratchIrcd/ServiceGrants.lean
  Subject:   The three privilege words of a member: `privileges`, what MODE gave and what ChanServ
             gives (src/channel.c, src/chanserv.c, src/commands/samode.c).

  The source stores all three. Every change writes the first as the union of the others, except
  SAMODE: it raises the first alone, runs a MODE, and puts back the words it found. So inside a
  SAMODE the union holds but for one member, and `Held` says for whom it need not. What ChanServ gives
  is only there under +r: whatever takes +r away turns it into manual privileges first.

  Every act of a run keeps `Held`, also when a database fails; the runs are those of Invitations.lean
  with AUTHENTICATE.
-/
import ScratchIrcd.Invitations
import ScratchIrcd.Sasl
import ScratchIrcd.Save

namespace ScratchIrcd

open CText Relation

variable {l : Bool × Char} {e : ChannelEdit} {ch : ChannelRef} {c : ClientRef} {s : Server}

/-! ## 1. Records -/

namespace Channel

variable {a b : Channel} {X Y : ClientRef → Prop}

/-- Privileges are the union of their parts, but perhaps for a member in `X`; without +r nobody has
    privileges from ChanServ. -/
def Held (X : ClientRef → Prop) (ch : Channel) : Prop :=
  ∀ m ∈ ch.members, (¬ X m.client → m.grants.Whole) ∧
    (ChannelMode.registered ∉ ch.modes → m.service = ∅)

/-- The members stay, and so does +r if it was there. -/
theorem Held.of_eq (h : a.Held X) (hmembers : b.members = a.members)
    (hmodes : ChannelMode.registered ∉ b.modes → ChannelMode.registered ∉ a.modes) : b.Held X := by
  intro m hm
  rw [hmembers] at hm
  exact ⟨(h m hm).1, fun hno => (h m hm).2 (hmodes hno)⟩

theorem Held.mapGrants (h : a.Held X) {f : ClientRef → Grants → Grants}
    (hwhole : ∀ c g, ¬ Y c → (¬ X c → g.Whole) → (f c g).Whole)
    (hservice : ChannelMode.registered ∉ a.modes → ∀ c g, g.service = ∅ → (f c g).service = ∅) :
    (a.mapGrants f).Held Y := by
  intro m hm
  obtain ⟨m, hmem, rfl⟩ := List.mem_map.mp hm
  exact ⟨fun hy => hwhole _ _ hy (h m hmem).1, fun hno => hservice hno _ _ ((h m hmem).2 hno)⟩

/-- The words of one member are computed anew. -/
theorem Held.updateMember (h : a.Held X) (c : ClientRef) {f : Grants → Grants}
    (hwhole : ∀ g, (f g).Whole)
    (hservice : ChannelMode.registered ∉ a.modes → ∀ g, g.service = ∅ → (f g).service = ∅) :
    (a.updateMember c f).Held X := by
  refine h.mapGrants (fun c' g hx hg => ?_) fun hno c' g hg => ?_
  · split
    · exact hwhole g
    · exact hg hx
  · split
    · exact hservice hno g hg
    · exact hg

/-- The first word of one member is raised: nothing is known of it any more. -/
theorem Held.raise (h : a.Held X) (c : ClientRef) (p : ChannelPrivilegeSet) :
    (a.updateMember c fun g => { g with privileges := g.privileges ∪ p }).Held
      fun r => X r ∨ r = c := by
  refine h.mapGrants (fun c' g hx hg => ?_) fun _ c' g hg => ?_
  · rw [if_neg fun heq => hx (.inr (beq_iff_eq.mp heq))]
    exact hg fun hin => hx (.inl hin)
  · split <;> exact hg

theorem Held.addMember (h : a.Held X) (c : ClientRef) : (a.addMember c).Held X := by
  unfold Channel.addMember
  split
  · exact h
  · intro m hm
    rcases List.mem_cons.mp hm with rfl | hm
    · exact ⟨fun _ => rfl, fun _ => rfl⟩
    · exact h m hm

/-- Nobody who has left need be excepted. -/
theorem Held.removeMember (h : a.Held Y) {c : ClientRef} (hX : ∀ r, Y r → X r ∨ r = c) :
    (a.removeMember c).Held X := by
  intro m hm
  have hmem : m ∈ a.members := List.mem_of_mem_eraseP hm
  refine ⟨fun hx => (h m hmem).1 fun hy => ?_, (h m hmem).2⟩
  have hc : m.client = c := (hX _ hy).resolve_left hx
  have hout : c ∉ (dropMember c a.members).map (·.client) := by
    rw [Server.map_client_dropMember]
    exact fun hin => (a.members_nodup.mem_erase_iff.mp hin).1 rfl
  exact hout (List.mem_map.mpr ⟨m, hm, hc⟩)

/-- One member has the words it had once. -/
theorem Held.restore (h : a.Held Y) {c : ClientRef} (hX : ∀ r, Y r → X r ∨ r = c) {g : Grants}
    (hg : ¬ X c → g.Whole) (hservice : ChannelMode.registered ∉ a.modes → g.service = ∅) :
    (a.updateMember c fun _ => g).Held X := by
  refine h.mapGrants (fun c' g' hx hg' => ?_) fun hno c' g' hg' => ?_
  · split
    · rename_i heq
      exact hg (beq_iff_eq.mp heq ▸ hx)
    · rename_i hne
      exact hg' fun hy => hne (beq_iff_eq.mpr ((hX _ hy).resolve_left hx))
  · split
    · exact hservice hno
    · exact hg'

theorem held_clearCachedPolicy (ch : Channel) : ch.clearCachedPolicy.Held X := by
  intro m hm
  obtain ⟨m, -, rfl⟩ := List.mem_map.mp hm
  exact ⟨fun _ => rfl, fun _ => rfl⟩

theorem Held.applyRow (h : a.Held X) (limit : Nat) (r : ChanServChannel) :
    (a.applyRow limit r).Held X := by
  have hreg : ∀ {p : Prop}, ChannelMode.registered ∉ insert ChannelMode.registered r.modeLock → p :=
    fun hno => absurd (Finset.mem_insert_self _ _) hno
  unfold Channel.applyRow
  dsimp only
  split <;> exact h.of_eq rfl hreg

theorem Held.persistRestore (h : a.Held X) (d : Storage) : (d.persistRestore a).2.1.Held X := by
  have hclear := d.clearRuntime_persistRestore a
  exact h.of_eq (members_of_clearRuntime hclear) fun hno => modes_of_clearRuntime hclear ▸ hno

theorem Held.loadChannelPolicy (h : a.Held X) (limit : Nat) (d : Storage) (force : Bool) :
    (loadChannelPolicy limit d a force).1.Held X := by
  unfold ScratchIrcd.loadChannelPolicy
  split
  · exact h
  split
  · exact h
  split
  · exact h
  · exact a.held_clearCachedPolicy
  split
  · exact (h.applyRow limit _).persistRestore _
  · exact a.held_clearCachedPolicy

theorem Held.restoreForJoin (h : a.Held X) (limit : Nat) (d : Storage) :
    (restoreForJoin limit d a).2.1.Held X := by
  have hload := h.loadChannelPolicy limit d false
  unfold ScratchIrcd.restoreForJoin
  generalize ScratchIrcd.loadChannelPolicy limit d a false = loaded at hload
  obtain ⟨chan, d₁⟩ := loaded
  dsimp only at hload ⊢
  split
  · exact hload.persistRestore d₁
  · exact hload

/-- What ChanServ gives may be anything under +r. -/
theorem Held.updateRegistered (h : a.Held X) (c : ClientRef) {f : Grants → Grants}
    (hwhole : ∀ g, (f g).Whole) (hreg : a.isRegistered = true) : (a.updateMember c f).Held X :=
  h.updateMember c hwhole fun hno => absurd (of_decide_eq_true hreg) hno

theorem Held.seat (h : a.Held X) (c : ClientRef) (id now : Nat) (first invited : Bool)
    (service : ChannelPrivilegeSet) : (a.seat c id now first invited service).Held X := by
  have hrecord : (a.joinThrottleRecord now).Held X := by
    unfold joinThrottleRecord
    split_ifs <;> exact h
  unfold Channel.seat
  dsimp only
  generalize a.joinThrottleRecord now = b at hrecord
  have hconsume : (if invited = true then b.inviteConsume id else b).Held X := by
    unfold inviteConsume
    split_ifs <;> exact hrecord
  generalize (if invited = true then b.inviteConsume id else b) = b at hconsume
  have hfirst : (if (first && !b.isRegistered) = true then b.updateMember c (·.addManual ownerPrivileges)
      else b).Held X := by
    split
    · exact hconsume.updateMember c (fun _ => rfl) fun _ _ hg => hg
    · exact hconsume
  generalize (if (first && !b.isRegistered) = true then b.updateMember c (·.addManual ownerPrivileges)
    else b) = b at hfirst
  split
  · rename_i hreg
    exact hfirst.updateRegistered c (fun _ => rfl) hreg.1
  · exact hfirst

theorem Held.live (h : a.Held X) (p : Setting) : (p.live a).Held X := by
  cases p with
  | mlock lock => exact h.of_eq rfl fun hno => absurd (Finset.mem_insert_self _ _) hno
  | topiclock lock =>
    refine h.of_eq rfl fun hno hreg => hno ?_
    show ChannelMode.registered ∈ (if ChannelMode.topicLock ∈ lock then _ else _)
    split
    · exact Finset.mem_insert_of_mem hreg
    · exact Finset.mem_erase.mpr ⟨by decide, hreg⟩
  | _ => exact h

/-- A letter of MODE leaves +r alone. -/
theorem edit_registered (ch : Channel) {ref : ChannelRef}
    (he : Server.LetterEdit s c ref l.1 l.2 e) :
    ChannelMode.registered ∈ (ch.edit e).modes ↔ ChannelMode.registered ∈ ch.modes := by
  cases he with
  | @boolean bit hbit =>
    have hne := booleanBit_ne_registered hbit
    show ChannelMode.registered ∈ (if l.1 = true then insert bit ch.modes else ch.modes.erase bit) ↔ _
    split <;> simp [hne.symm]
  | addMask kind mask authorized =>
    unfold edit
    dsimp only
    split
    · cases kind <;> exact Iff.rfl
    · exact Iff.rfl
  | removeMask kind mask => cases kind <;> exact Iff.rfl
  | _ => exact Iff.rfl

theorem Held.edit (h : a.Held X) (he : Server.LetterEdit s c ch l.1 l.2 e) : (a.edit e).Held X := by
  have hmodes : ChannelMode.registered ∉ (a.edit e).modes → ChannelMode.registered ∉ a.modes :=
    fun hno hreg => hno ((a.edit_registered he).mpr hreg)
  cases he with
  | grant hp hadding hin hprotect hsecure =>
    exact h.updateMember _ (fun _ => rfl) fun _ _ hg => hg
  | revoke hp hadding hin hprotect => exact h.updateMember _ (fun _ => rfl) fun _ _ hg => hg
  | addMask kind mask authorized =>
    refine h.of_eq ?_ hmodes
    unfold Channel.edit
    dsimp only
    split
    · cases kind <;> rfl
    · rfl
  | removeMask kind mask => exact h.of_eq (by cases kind <;> rfl) hmodes
  | _ => exact h.of_eq rfl hmodes

end Channel

namespace Server

variable {s s' : Server} {X Y : ChannelRef → ClientRef → Prop}

/-! ## 2. Acts -/

/-- In every channel: live or gone. -/
def Held (X : ChannelRef → ClientRef → Prop) (s : Server) : Prop := ∀ ch, (s.channel ch).Held (X ch)

namespace Held

section

variable (h : s.Held X)
include h

theorem of_eq (hchannel : s'.channel = s.channel) : s'.Held X := by
  unfold Held
  rw [hchannel]
  exact h

theorem update (ch : ChannelRef) {chan : Channel} (hchan : chan.Held (X ch))
    (hs' : s'.channel = Function.update s.channel ch chan) : s'.Held X := by
  intro ch'
  rw [hs']
  by_cases hne : ch' = ch
  · subst hne
    rwa [Function.update_self]
  · rw [Function.update_of_ne hne]
    exact h ch'

theorem updChannel (ch : ChannelRef) {f : Channel → Channel}
    (hf : (s.channel ch).Held (X ch) → (f (s.channel ch)).Held (X ch)) : (s.updChannel ch f).Held X :=
  h.update ch (hf (h ch)) rfl

theorem addToChannel (ch : ChannelRef) (c : ClientRef) : (s.addToChannel ch c).Held X := by
  unfold Server.addToChannel
  split
  · exact h
  · exact Held.of_eq (h.updChannel ch (f := (·.addMember c)) fun hch => hch.addMember c) rfl

theorem leave (ch : ChannelRef) (c : ClientRef) :
    ((s.removeFromChannel ch c).removeChannelIfEmpty ch).Held X :=
  Held.of_eq (h.updChannel ch (f := (·.removeMember c)) fun hch => hch.removeMember fun _ => .inl)
    (channel_removeChannelIfEmpty _ _)

/-- `sync_member_privileges` gives nothing without +r. -/
theorem syncMember (ch : ChannelRef) (c : ClientRef) : (s.syncMember ch c).Held X := by
  unfold Server.syncMember
  split
  · exact h
  dsimp only
  refine Held.of_eq ?_ ((channel_broadcastPrivilegeChange ..).trans (channel_broadcastPrivilegeChange ..))
  by_cases hreg : (s.channel ch).isRegistered = true
  · rw [if_pos hreg]
    have hread : (s.clientPrivileges c (s.channel ch).name).2.Held X := h.of_eq rfl
    exact hread.updChannel ch fun hch => hch.updateRegistered c (fun _ => rfl) hreg
  · rw [if_neg hreg]
    exact h.updChannel ch fun hch => hch.updateMember c (fun _ => rfl) fun _ _ _ => rfl

theorem syncChannel (ch : ChannelRef) : (s.syncChannel ch).Held X :=
  List.foldlRecOn _ _ h fun _ h c _ => h.syncMember ch c

theorem joinAdmit (c : ClientRef) (ch : ChannelRef) (service : ChannelPrivilegeSet) :
    (s.joinAdmit c ch service).Held X := by
  have hseat : (s.joinSeat c ch service).Held X :=
    (h.addToChannel ch c).updChannel ch (f := (·.seat c _ _ _ _ service)) fun hch => hch.seat c _ _ _ _ service
  unfold Server.joinAdmit
  generalize s.joinSeat c ch service = s₁ at hseat
  dsimp only
  have hsync : (if (s₁.channel ch).isRegistered = true then s₁.syncChannel ch else s₁).Held X := by
    split
    · exact hseat.syncChannel ch
    · exact hseat
  generalize (if (s₁.channel ch).isRegistered = true then s₁.syncChannel ch else s₁) = s₂ at hsync
  exact hsync.of_eq ((silent_joinTopic _ c ch).2.trans (silent_awayNotifyJoin _ ch c).2)

theorem forceSeat (target : ClientRef) (ch : ChannelRef) (first : Bool) :
    (s.forceSeat target ch first).Held X := by
  unfold Server.forceSeat
  split
  · rename_i hreg
    have hread : (s.clientPrivileges target (s.channel ch).name).2.Held X := h.of_eq rfl
    dsimp only
    split
    · exact hread
    · exact hread.updChannel ch fun hch => hch.updateRegistered target (fun _ => rfl) hreg
  split
  · exact h.updChannel ch fun hch => hch.updateMember target (fun _ => rfl) fun _ _ hg => hg
  · exact h

theorem createChannel (name : Text) : (s.createChannel name).Held X :=
  h.update s.nextChannel (fun _ hm => absurd hm List.not_mem_nil) rfl

theorem joinRestore {created restored : Bool}
    (hrestore : s.joinRestore c ch created = (restored, s')) : s'.Held X :=
  h.update ch ((h ch).restoreForJoin _ _) (joinRestore_eq hrestore).2.2.2

theorem disconnect (c : ClientRef) (reason : Text) : (s.disconnect c reason).Held X := by
  refine disconnect_induct (P := Held X) (fun _ _ h => h.of_eq rfl) (fun _ h => ?_) (fun _ h => ?_)
    (fun s h => ?_) h
  · exact List.foldlRecOn _ _ h fun _ h ch _ => h.leave ch c
  · rw [unlist_eq]
    exact h.of_eq rfl
  · obtain ⟨_, _, _, _, heq⟩ := s.clientFree_eq c
    rw [heq]
    exact h.of_eq rfl

/-- A SAMODE raises the word of its caller, and of nobody else. -/
theorem samodeRaise (c : ClientRef) (ch : ChannelRef) :
    (s.samodeRaise c ch).Held fun ch' r => X ch' r ∨ ch' = ch ∧ r = c := by
  have hseat := h.addToChannel ch c
  intro ch'
  by_cases hne : ch' = ch
  · subst hne
    have hraise := (hseat ch').raise c ownerPrivileges
    unfold Server.samodeRaise
    rw [updChannel_self]
    intro m hm
    exact ⟨fun hx => (hraise m hm).1 fun hin => hx (hin.imp_right fun heq => ⟨rfl, heq⟩),
      (hraise m hm).2⟩
  · unfold Server.samodeRaise
    rw [updChannel_of_ne _ _ _ _ hne]
    intro m hm
    exact ⟨fun hx => (hseat ch' m hm).1 fun hin => hx (.inl hin), (hseat ch' m hm).2⟩

end

end Held

theorem modes_samodeRaise (s : Server) (c : ClientRef) (ch : ChannelRef) :
    ((s.samodeRaise c ch).channel ch).modes = (s.channel ch).modes := by
  unfold samodeRaise
  rw [updChannel_self]
  show ((s.addToChannel ch c).channel ch).modes = _
  unfold addToChannel
  split
  · rfl
  · rw [updClient_channel, updChannel_self]
    unfold Channel.addMember
    split <;> rfl

/-- **A SAMODE leaves every word as the union of its parts.** Its caller is excepted on the way, and
    is gone at the end or has the words from before; what is put back was given under a +r that is
    still there. -/
theorem Held.samode (h : s.Held X) (c : ClientRef) (ch : ChannelRef)
    (hheld : s'.Held fun ch' r => X ch' r ∨ ch' = ch ∧ r = c)
    (hreg : ChannelMode.registered ∈ ((s.samodeRaise c ch).channel ch).modes →
      ChannelMode.registered ∈ (s'.channel ch).modes) :
    (s'.samodeRestore c ch ((s.channel ch).findMember c)).Held X := by
  have hmodes : ChannelMode.registered ∉ (s'.channel ch).modes →
      ChannelMode.registered ∉ (s.channel ch).modes := by
    refine fun hno hin => hno (hreg ?_)
    rw [modes_samodeRaise]
    exact hin
  have hother : ∀ {ch'}, ch' ≠ ch → (s'.channel ch').Held (X ch') := fun hne m hm =>
    ⟨fun hx => (hheld _ m hm).1 fun hin => hin.elim hx fun heq => hne heq.1, (hheld _ m hm).2⟩
  have hself : ∀ r, (X ch r ∨ ch = ch ∧ r = c) → X ch r ∨ r = c := fun _ hin =>
    hin.imp_right And.right
  intro ch'
  cases hm : (s.channel ch).findMember c with
  | none =>
    unfold samodeRestore Server.removeFromChannel
    rw [updClient_channel]
    by_cases hne : ch' = ch
    · subst hne
      rw [updChannel_self]
      exact (hheld ch').removeMember hself
    · rw [updChannel_of_ne _ _ _ _ hne]
      exact hother hne
  | some m =>
    have hmem := List.mem_of_find?_eq_some hm
    have hclient : m.client = c := by simpa using List.find?_some hm
    unfold samodeRestore
    dsimp only
    by_cases hne : ch' = ch
    · subst hne
      rw [updChannel_self]
      exact (hheld ch').restore hself (fun hx => (h ch' m hmem).1 (hclient ▸ hx))
        fun hno => (h ch' m hmem).2 (hmodes hno)
    · rw [updChannel_of_ne _ _ _ _ hne]
      exact hother hne

theorem ServiceAct.held (hact : ServiceAct s s') (h : s.Held X) : s'.Held X := by
  cases hact with
  | setting p ch => exact h.updChannel ch fun hch => hch.live p
  | register c ch account =>
    have hregister : ((s.channel ch).register account).Held (X ch) :=
      (h ch).of_eq rfl fun hno => absurd (Finset.mem_insert_self _ _) hno
    exact h.update ch (hregister.updateRegistered c (f := (·.setService ownerPrivileges))
      (fun _ => rfl) (decide_eq_true (Finset.mem_insert_self _ _))) rfl
  | sync ch c => exact h.syncMember ch c
  | load ch => exact h.update ch ((h ch).loadChannelPolicy (ircTopicLimit s.config) s.storage true) rfl
  | disconnect hfind reason => exact h.disconnect _ reason
  | _ => exact h.of_eq rfl

/-- The loop of `mode_channel` keeps what every edit of a record keeps. -/
theorem loopsKeep_channels {Q : ChannelRef → Channel → Prop}
    (edit : ∀ s ch (l : Bool × Char) e, LetterEdit s c ch l.1 l.2 e → Q ch (s.channel ch) →
      Q ch ((s.channel ch).edit e)) : LoopsKeep (fun s => ∀ ch, Q ch (s.channel ch)) c := by
  intro s ch mayChange letters args h
  refine .of_deliver (fun _ h => h) fun ch' => ?_
  by_cases hne : ch' = ch
  · subst hne
    exact modeLoop_record_induct (P := Q ch') (fun s l _ e he hrun => edit s ch' l e he hrun) (h ch')
  · rw [(s.modeOutcome_modeLoop c ch mayChange letters args).others ch' hne]
    exact h ch'

namespace Held

theorem serviceChain (h : s.Held X) (hchain : ServiceChain s s') : s'.Held X :=
  Runs.steps_invariant (P := Held X) (fun _ _ h hact => hact.held h) h hchain

/-! ## 3. Commands -/

section

variable (h : s.Held X)
include h

theorem ends (hends : s.Ends s') : s'.Held X := by
  cases hends with
  | one hc reason => exact h.disconnect _ reason
  | service hchain => exact h.serviceChain hchain

section

variable (c : ClientRef) (params : Option Text)

theorem commandJoin : (s.commandJoin c params).Held X := by
  refine commandJoin_induct h (fun _ => h.of_eq rfl) fun name key _ => ?_
  refine joinOne_induct (P := Held X) (fun _ _ h => h.of_eq rfl) (fun _ _ h => h.of_eq rfl) ?_
    (fun _ _ ch service h _ _ => h.joinAdmit c ch service) _ h
  intro s₁ name ch created s₂ restored s₃ h henter hrestore
  obtain ⟨-, ⟨rfl, -, -⟩ | ⟨rfl, rfl, -⟩⟩ := joinEnter_some henter
  · exact h.joinRestore hrestore
  · exact (h.createChannel name).joinRestore hrestore

theorem commandPart : (s.commandPart c params).Held X := by
  refine commandPart_induct h (fun _ => h.of_eq rfl) fun _ ch _ _ _ => ?_
  refine Held.leave ?_ ch c
  exact h.of_eq rfl

theorem commandKick : (s.commandKick c params).Held X := by
  refine commandKick_induct h (fun _ => h.of_eq rfl) fun _ ch _ target _ _ _ _ _ _ _ => ?_
  refine Held.leave ?_ ch target
  exact h.of_eq rfl

/-- MODE, whatever channel its loop runs on. -/
theorem dispatchMode : (s.dispatchMode c params).Held X := by
  have loops : LoopsKeep (Held X) c := loopsKeep_channels fun _ _ _ _ he hch => hch.edit he
  exact dispatchMode_induct (P := Held X) (fun _ _ _ h => h.of_eq rfl) (fun _ _ _ h => h.of_eq rfl)
    (fun _ _ ch _ h => h.updChannel ch fun hch => hch.of_eq rfl id) (fun _ _ _ _ h => h.of_eq rfl)
    (fun _ _ => .inr loops) (fun _ _ _ _ => loops _ _ _ _ _ h) h

theorem commandSajoin : (s.commandSajoin c params).Held X := by
  refine withOverride_induct (fun _ _ => h.of_eq rfl) fun _ _ channels _ _ _ _ => ?_
  split
  · exact h.of_eq rfl
  · rename_i target _
    refine Held.of_eq (List.foldlRecOn (motive := Held X) (listWords channels.length channels) _ h
      fun s₁ h name _ => ?_) rfl
    refine forceJoin_induct (P := Held X) h (fun _ _ => h.createChannel name) (fun _ ch first h _ _ => ?_) h
    exact ((h.addToChannel ch target).forceSeat target ch first).of_eq (silent_forceAnnounce _ c target ch).2

theorem commandSapart : (s.commandSapart c params).Held X :=
  commandSapart_induct (P := Held X) (fun _ _ h => h.of_eq rfl) (fun _ _ ch target h _ => h.leave ch target) h

theorem samodeChannel (ch : ChannelRef) (target rest : Text) :
    (s.samodeChannel c ch target rest).Held X := by
  have hraise := h.samodeRaise c ch
  let Q (ch' : ChannelRef) (chan : Channel) : Prop :=
    chan.Held (fun r => X ch' r ∨ ch' = ch ∧ r = c) ∧
      (ChannelMode.registered ∈ ((s.samodeRaise c ch).channel ch').modes →
        ChannelMode.registered ∈ chan.modes)
  have loops : LoopsKeep (fun s => ∀ ch', Q ch' (s.channel ch')) c :=
    loopsKeep_channels fun s ch' _ _ he hq =>
      ⟨hq.1.edit he, fun hreg => ((s.channel ch').edit_registered he).mpr (hq.2 hreg)⟩
  have hstart : ∀ ch', Q ch' ((s.samodeRaise c ch).channel ch') := fun ch' => ⟨hraise ch', id⟩
  have hcore : ∀ ch', Q ch' (((s.samodeRaise c ch).commandModeCore c
      (some (target ++ ' ' :: rest))).channel ch') :=
    commandModeCore_induct (P := fun s => ∀ ch', Q ch' (s.channel ch')) (fun _ _ _ h => h)
      (fun _ _ _ h => h) (fun _ _ _ _ h => h) (fun _ _ _ _ _ _ _ _ => loops _ _ _ _ _ hstart) hstart
  exact h.samode c ch (fun ch' => (hcore ch').1) (hcore ch).2

theorem commandSamode : (s.commandSamode c params).Held X := by
  refine withOverride_induct (fun _ _ => h.of_eq rfl) fun target _ rest _ _ _ _ => ?_
  split
  · split
    · exact h.of_eq rfl
    split
    · split
      · exact h.of_eq rfl
      · exact h.samodeChannel c _ target rest
    · exact h.samodeChannel c _ target rest
  · split
    · exact h.of_eq rfl
    · exact samodeUser_induct (P := Held X) (fun _ _ _ h => h.of_eq rfl) (fun _ _ _ h => h.of_eq rfl) _ h

theorem commandTopic : (s.commandTopic c params).Held X :=
  commandTopic_induct (P := Held X) (fun _ _ h => h.of_eq rfl)
    (fun _ ch _ _ _ _ => h.updChannel ch fun hch => hch.of_eq rfl id) h

theorem commandInvite : (s.commandInvite c params).Held X := by
  refine commandInvite_induct h (fun _ => h.of_eq rfl) fun _ _ ch chan' _ _ _ _ _ _ => ?_
  have hlisted : (s.withInvites ch chan'.invites).Held X := h.updChannel ch fun hch => hch.of_eq rfl id
  exact hlisted.of_eq rfl

end

theorem handle (e : ChannelEvent) : (s.handle e).Held X := by
  cases e with
  | join c params => exact h.commandJoin c params
  | part c params => exact h.commandPart c params
  | kick c params => exact h.commandKick c params
  | mode c params => exact h.dispatchMode c params
  | sajoin c params => exact h.commandSajoin c params
  | sapart c params => exact h.commandSapart c params
  | samode c params => exact h.commandSamode c params
  | disconnect c reason => exact h.disconnect c reason

/-- **A command to channels or services.** -/
theorem serve (e : Event) : (s.serve e).Held X :=
  serve_induct (P := Held X) (fun e _ => h.handle e) h.commandTopic (fun c params _ => h.commandInvite c params)
    fun _ => h.serviceChain

end

end Held

/-- What output, a change to the sender's record and a service keep, AUTHENTICATE keeps. -/
theorem commandAuthenticate_induct {P : Server → Prop} (say : ∀ s ds, P s → P (s.deliver ds))
    (touch : ∀ s f, (∀ cl : Client, cl.SameConnection (f cl)) → P s → P (s.updClient c f))
    (service : ∀ s s', ServiceChain s s' → P s → P s') (block : DecodeBlock)
    (line : Option Text) (h : P s) : P (s.commandAuthenticate block c line) := by
  have set : ∀ s (state : Client → SaslState) buffer, P s →
      P (s.updClient c fun cl => { cl with saslState := state cl, saslBuffer := buffer }) :=
    fun s _ _ => touch s _ fun _ => ⟨rfl, rfl, rfl, rfl, rfl, rfl, rfl, rfl, rfl, rfl⟩
  have refuse : ∀ s code text, P s → P (s.saslRefuse c code text) :=
    fun s _ _ h => say _ _ (set s (fun _ => .failed) [] h)
  have finish : ∀ s, P s → P (s.saslFinishPlain block c) := by
    intro s h
    unfold saslFinishPlain
    split
    · exact refuse s _ _ h
    rename_i authcid password _
    have hident := service _ _ (chain_nickservIdentify s c authcid password) h
    unfold saslIdentify
    generalize s.nickservIdentify c authcid password = res at hident
    obtain ⟨_ | _, s₁⟩ := res
    · exact refuse s₁ _ _ hident
    · have hclear := set s₁ (·.saslState) [] hident
      unfold saslComplete
      dsimp only at hclear ⊢
      refine say _ _ (say _ _ (touch _ _ (fun _ => ⟨rfl, rfl, rfl, rfl, rfl, rfl, rfl, rfl, rfl, rfl⟩) ?_))
      split
      · exact service _ _ (chain_accountChanged _ c) hclear
      · exact hclear
  have frame : ∀ word, P (s.saslFrame block c word) := by
    intro word
    have happend := set s (·.saslState) ((s.client c).saslBuffer ++ word) h
    unfold saslFrame
    dsimp only
    split_ifs
    · exact refuse s _ _ h
    · exact finish s h
    · exact refuse s _ _ h
    · exact finish _ happend
    · exact happend
  unfold commandAuthenticate
  split
  · exact h
  dsimp only
  split
  · exact say _ _ h
  split
  · exact refuse s _ _ h
  split
  · exact refuse s _ _ h
  split
  · split
    · exact refuse s _ _ h
    · exact say _ _ (set s (fun _ => .plainWaitData) [] h)
  · exact frame _

end Server

/-! ## 4. Runs -/

/-- Whatever can happen, AUTHENTICATE included. -/
inductive AnyEvent where
  | plain (e : InviteEvent)
  | authenticate (c : ClientRef) (params : Option Text)

namespace Network

open Server (Held)

variable {block : DecodeBlock} {n : Network} {X : ChannelRef → ClientRef → Prop}

def anyStep (block : DecodeBlock) (n : Network) : AnyEvent → Network
  | .plain e => n.inviteStep e
  | .authenticate c params =>
      if c ∈ n.server.clients then n.settle (n.server.commandAuthenticate block c params) else n

theorem held_inviteStep (hi : n.Indexed) (h : n.server.Held X) (e : InviteEvent) :
    (n.inviteStep e).server.Held X := by
  cases e with
  | serve e =>
    unfold inviteStep serveStep
    dsimp only
    split
    · rw [(n.server_settle _).1]
      exact h.serve e
    · exact h
  | network e =>
    have hchain := chain_step (P := fun _ => True) hi (fun _ => rfl) (e := e) fun _ _ _ _ _ => trivial
    exact Runs.steps_invariant (P := fun m : Network => m.server.Held X)
      (fun _ _ h hact => (channel_of_act hact).elim h.of_eq h.ends) h hchain

/-- **One event.** -/
theorem held_anyStep (h : n.InvitesKnown ∧ n.server.Held X) (e : AnyEvent) :
    (n.anyStep block e).InvitesKnown ∧ (n.anyStep block e).server.Held X := by
  obtain ⟨hknown, hheld⟩ := h
  cases e with
  | plain e => exact ⟨(@inviteStep_pays 0 0 _ hknown e).1, held_inviteStep hknown.indexed hheld e⟩
  | authenticate c params =>
    unfold anyStep
    dsimp only
    split
    swap
    · exact ⟨hknown, hheld⟩
    obtain ⟨hi, hthins, hheld⟩ := Server.commandAuthenticate_induct (c := c)
      (P := fun s' => s'.Indexed ∧ n.server.Thins s' ∧ s'.Held X)
      (fun s ds h => ⟨h.1.of_links (s.sameLinks_deliver ds),
        h.2.1.trans (.of_links (s.sameLinks_deliver ds)), h.2.2.of_eq rfl⟩)
      (fun s f hf h => ⟨h.1.of_links (s.sameLinks_updClient c (hf _)),
        h.2.1.trans (.of_links (s.sameLinks_updClient c (hf _))), h.2.2.of_eq rfl⟩)
      (fun s s' hchain h => ⟨(h.1.serviceChain hchain).1, h.2.1.trans (h.1.serviceChain hchain).2,
        h.2.2.serviceChain hchain⟩) block params
      ⟨hknown.indexed.server, .of_links (.refl _), hheld⟩
    refine ⟨hknown.of_later (hknown.indexed.settle hthins hi) (.settle hthins), ?_⟩
    rw [(n.server_settle _).1]
    exact hheld

/-- **Effective privileges are the union of their parts** after every event of every run, and the
    part ChanServ gives is empty in a channel without +r. -/
theorem privileges_are_union (block : DecodeBlock) (server : ServerConfig) (ext : External)
    (storage : Storage) (config : ConnectionConfig) (platform : Platform) (bans : BanTables)
    (es : List AnyEvent) (ch : ChannelRef) :
    let n := Runs.exec (anyStep block) (initial server ext storage config platform bans) es
    ∀ m ∈ (n.server.channel ch).members, m.privileges = m.manual ∪ m.service ∧
      (ChannelMode.registered ∉ (n.server.channel ch).modes → m.service = ∅) := by
  intro n
  have hstart : (initial server ext storage config platform bans).InvitesKnown ∧
      (initial server ext storage config platform bans).server.Held fun _ _ => False :=
    ⟨⟨indexed_initial .., fun _ _ hid => absurd hid List.not_mem_nil⟩,
      fun _ _ hm => absurd hm List.not_mem_nil⟩
  have hrun : n.InvitesKnown ∧ n.server.Held fun _ _ => False :=
    List.foldlRecOn (motive := fun n : Network => n.InvitesKnown ∧ n.server.Held fun _ _ => False) es _
      hstart fun _ h e _ => held_anyStep h e
  exact fun m hm => ⟨(hrun.2 ch m hm).1 id, (hrun.2 ch m hm).2⟩

/-- A channel registered to an account. -/
def clubStorage : Storage :=
  { nickserv := [{ name := "alice".toList, passwordHash := "secret".toList }]
    chanserv := { channels := [{ name := "#club".toList, founder := "alice".toList }] } }

def clubPlatform : Platform := { inetNtop4 := id, inetNtop6 := id, submits := fun _ => false }

/-- Somebody connects, joins the channel, logs in by SASL, becomes an IRC operator, and sends a MODE
    and a SAMODE about itself. -/
def clubRun : List AnyEvent :=
  [.plain (.network (.accept (some "10.0.0.1".toList) false true true)),
    .plain (.network (.cap 0 (some "REQ :sasl".toList))),
    .plain (.network (.nick 0 (some "alice".toList))),
    .plain (.network (.user 0 (some "a 0 * :a".toList))),
    .plain (.network (.cap 0 (some "END".toList))),
    .plain (.serve (.channel (.join 0 (some "#club".toList)))),
    .authenticate 0 (some "PLAIN".toList),
    .authenticate 0 (some "AGFsaWNlAHNlY3JldA==".toList),
    .plain (.network (.other 0 ⟨fun cl => { cl with operPermissions := {.override} }, [],
      fun _ => ⟨rfl, rfl, rfl, rfl, rfl, rfl, rfl, rfl, rfl, rfl⟩, fun _ hd => by cases hd⟩)),
    .plain (.serve (.channel (.mode 0 (some "#club +h alice".toList)))),
    .plain (.serve (.channel (.samode 0 (some "#club +v alice".toList))))]

/-- The login brought the privileges of the founder, MODE added one, and SAMODE left none behind. -/
theorem privileges_are_union_club :
    let n := Runs.exec (anyStep Server.referenceBlock)
      (initial {} { inetPton4 := some } clubStorage {} clubPlatform {}) clubRun
    (n.server.channel 0).members.map (fun m => (m.client, m.manual, m.service)) =
        [(0, {.halfop}, ownerPrivileges)] ∧
      ∀ m ∈ (n.server.channel 0).members, m.privileges = m.manual ∪ m.service ∧
        (ChannelMode.registered ∉ (n.server.channel 0).modes → m.service = ∅) :=
  ⟨by decide +kernel, privileges_are_union Server.referenceBlock {} { inetPton4 := some } clubStorage
    {} clubPlatform {} clubRun 0⟩

end Network

end ScratchIrcd
