/-
  File:      ScratchIrcd/Moves.lean
  Subject:   The server as a roster: every command that touches membership is a sequence of the
             elementary moves of Lib/Roster.lean, so both halves of every membership, the channel
             table and the names stay in step.
-/
import ScratchIrcd.Authority
import ScratchIrcd.JoinPolicy
import ScratchIrcd.ModeSpec
import ScratchIrcd.Presence
import ScratchIrcd.Lib.Roster
import ScratchIrcd.Lib.Runs

namespace ScratchIrcd

open CText Relation

variable {ch : ChannelRef} {c : ClientRef} {params : Option Text} {s s' : Server}
  {P : Server → Prop} {name : Text}

namespace Server

/-! ## 1. The roster of a server -/

/-- Who is where. -/
def roster (s : Server) : Roster Text ClientRef ChannelRef where
  find := s.findChannel
  name ch := (s.channel ch).name
  members := s.memberRefs
  rooms c := (s.client c).channels
  used := { ch | ch < s.nextChannel }
  count := s.channelCount

/-- Memberships, table and names are in step. -/
abbrev Sound (s : Server) : Prop := s.roster.Sound ircKeys fun name => channelNameValid name = true

/-- From `s` to `s'` by elementary moves. -/
def Moves (s s' : Server) : Prop :=
  ReflTransGen (Roster.Step ircKeys fun name => channelNameValid name = true) s.roster s'.roster

theorem Moves.refl (s : Server) : s.Moves s := ReflTransGen.refl

theorem Moves.trans {a b c : Server} (h₁ : a.Moves b) (h₂ : b.Moves c) : a.Moves c :=
  ReflTransGen.trans h₁ h₂

theorem Moves.of_eq (h : s'.roster = s.roster) : s.Moves s' := by
  unfold Moves
  rw [h]

theorem Sound.of_moves (hs : s.Sound) (h : s.Moves s') : s'.Sound := by
  unfold Moves at h
  exact Runs.steps_invariant
    (fun (a b : Roster Text ClientRef ChannelRef) (hr : a.Sound ircKeys _) hstep => hr.of_step hstep)
    hs h

theorem Sound.channelsOk (h : s.Sound) : s.ChannelsOk :=
  ⟨fun hfind => h.named hfind, fun hfind => h.valid hfind, fun hfind => h.inUse hfind⟩

/-- A channel that is found is found under its own name. -/
theorem Sound.live (h : s.Sound) (hfind : s.findChannel name = some ch) :
    s.findChannel (s.channel ch).name = some ch :=
  h.live_of_find hfind

/-- With no channel and nobody in one there is nothing to be out of step. -/
theorem sound_of_empty (hfind : ∀ name, s.findChannel name = none)
    (hrooms : ∀ c, (s.client c).channels = []) : s.Sound := by
  have none : ∀ {name : Text} {ch : ChannelRef}, s.roster.find name ≠ some ch := by
    intro name ch h
    change s.findChannel name = some ch at h
    rw [hfind] at h
    cases h
  refine ⟨fun {a b} _ => (hfind a).trans (hfind b).symm, fun hf => (none hf).elim,
    fun hf => (none hf).elim, fun hf => (none hf).elim, fun {c ch} hch => ?_,
    fun hf => (none hf).elim, fun c => ?_, fun ch => (s.channel ch).members_nodup⟩
  · change ch ∈ (s.client c).channels at hch
    rw [hrooms c] at hch
    cases hch
  · show (s.client c).channels.Nodup
    rw [hrooms c]
    exact List.nodup_nil

/-! ## 2. Moves of the primitives -/

theorem roster_updClient (s : Server) (c : ClientRef) {f : Client → Client}
    (h : (f (s.client c)).channels = (s.client c).channels) :
    (s.updClient c f).roster = s.roster := by
  have hrooms : (fun c' => ((s.updClient c f).client c').channels) =
      fun c' => (s.client c').channels := by
    funext c'
    by_cases hc : c' = c
    · subst hc; rw [updClient_self, h]
    · rw [updClient_of_ne _ _ _ _ hc]
  unfold roster
  rw [hrooms]
  rfl

theorem roster_updChannel (s : Server) (ch : ChannelRef) {f : Channel → Channel}
    (hname : (f (s.channel ch)).name = (s.channel ch).name)
    (hmembers : (f (s.channel ch)).members.map (·.client) =
      (s.channel ch).members.map (·.client)) : (s.updChannel ch f).roster = s.roster := by
  unfold roster
  congr 1
  · funext ch'
    by_cases h : ch' = ch
    · subst h; rw [updChannel_self, hname]
    · rw [updChannel_of_ne _ _ _ _ h]
  · funext ch'
    by_cases h : ch' = ch
    · subst h; simp only [memberRefs, updChannel_self, hmembers]
    · simp only [memberRefs, updChannel_of_ne _ _ _ _ h]

theorem Quiet.roster (h : s.Quiet s') : s'.roster = s.roster := by
  unfold Server.roster
  congr 1
  · exact funext h.findChannel
  · exact funext h.name
  · exact funext h.memberRefs
  · rw [h.client]
  · rw [h.nextChannel]
  · exact h.channelCount

theorem Quiet.moves (h : s.Quiet s') : s.Moves s' := .of_eq h.roster

theorem roster_createChannel (s : Server) (name : Text) :
    (s.createChannel name).roster = s.roster.create ircKeys name s.nextChannel := by
  unfold roster Roster.create
  congr 1
  · funext name'
    exact s.findChannel_createChannel name name'
  · funext ch
    by_cases h : ch = s.nextChannel
    · subst h; simp [createChannel]
    · simp [createChannel, h]
  · funext ch
    by_cases h : ch = s.nextChannel
    · subst h; simp [createChannel, memberRefs]
    · simp [createChannel, memberRefs, h]
  · ext ch
    exact Nat.lt_succ_iff_lt_or_eq.trans or_comm

theorem moves_createChannel (s : Server) (hname : channelNameValid name = true)
    (hnone : s.findChannel name = none) : s.Moves (s.createChannel name) := by
  refine ReflTransGen.single ?_
  rw [roster_createChannel]
  exact .create hname hnone (Nat.lt_irrefl _)

theorem roster_addToChannel (hout : s.inChannel ch c = false) :
    (s.addToChannel ch c).roster = s.roster.enter c ch := by
  have hout' : (s.channel ch).hasClient c = false := hout
  unfold addToChannel
  rw [hout, if_neg Bool.false_ne_true]
  unfold roster Roster.enter
  congr 1
  · funext ch'
    by_cases h : ch' = ch
    · subst h
      rw [updClient_channel, updChannel_self, Channel.addMember, dif_neg (by simp [hout'])]
    · rw [updClient_channel, updChannel_of_ne _ _ _ _ h]
  · funext ch'
    by_cases h : ch' = ch
    · subst h
      simp [memberRefs, members_addMember hout']
    · simp [memberRefs, updChannel_of_ne _ _ _ _ h, h]
  · funext c'
    by_cases h : c' = c
    · subst h; simp [Client.link]
    · simp [updClient_of_ne _ _ _ _ h, h]

theorem addToChannel_of_in (hin : s.inChannel ch c = true) : s.addToChannel ch c = s := by
  unfold addToChannel
  rw [if_pos hin]

theorem moves_addToChannel (s : Server) (c : ClientRef) (hfind : s.findChannel name = some ch) :
    s.Moves (s.addToChannel ch c) := by
  cases hin : s.inChannel ch c with
  | true =>
    rw [addToChannel_of_in hin]
    exact .refl s
  | false =>
    refine ReflTransGen.single ?_
    rw [roster_addToChannel hin]
    refine .enter hfind fun hmem => ?_
    exact Bool.false_ne_true (hin.symm.trans (((s.channel ch).hasClient_iff c).mpr hmem))

theorem map_client_dropMember (c : ClientRef) (ms : List Member) :
    (dropMember c ms).map (·.client) = (ms.map (·.client)).erase c := by
  induction ms with
  | nil => rfl
  | cons m ms ih =>
    by_cases h : m.client = c
    · simp [dropMember, h]
    · simpa [dropMember, List.eraseP_cons, List.erase_cons, h] using ih

theorem roster_removeFromChannel (s : Server) (ch : ChannelRef) (c : ClientRef) :
    (s.removeFromChannel ch c).roster = s.roster.leave c ch := by
  unfold removeFromChannel roster Roster.leave
  congr 1
  · funext ch'
    by_cases h : ch' = ch
    · subst h; simp [Channel.removeMember]
    · simp [updChannel_of_ne _ _ _ _ h]
  · funext ch'
    by_cases h : ch' = ch
    · subst h; simp [memberRefs, Channel.removeMember, map_client_dropMember]
    · simp [memberRefs, updChannel_of_ne _ _ _ _ h, h]
  · funext c'
    by_cases h : c' = c
    · subst h; simp [Client.unlink]
    · simp [updClient_of_ne _ _ _ _ h, h]

theorem moves_removeFromChannel (s : Server) (ch : ChannelRef) (c : ClientRef) :
    s.Moves (s.removeFromChannel ch c) := by
  refine ReflTransGen.single ?_
  rw [roster_removeFromChannel]
  exact .leave c ch

/-- A channel with nobody in it is dropped. -/
theorem roster_removeChannelIfEmpty (hlive : s.findChannel (s.channel ch).name = some ch) :
    (s.removeChannelIfEmpty ch).roster =
      if s.roster.members ch = [] then s.roster.drop ircKeys ch else s.roster := by
  have hempty : s.roster.members ch = [] ↔ (s.channel ch).memberCount = 0 := by
    rw [(s.channel ch).memberCount_eq, List.length_eq_zero_iff]
    exact List.map_eq_nil_iff
  unfold removeChannelIfEmpty
  rw [hlive, Option.isSome_some, if_pos rfl]
  split_ifs with hcount hnil hnil
  · exact absurd (hempty.mp hnil) hcount
  · rfl
  · unfold roster Roster.drop
    congr 1
    funext name
    exact s.channelsByName.get_remove (s.channel ch).name name
  · exact absurd (hempty.mpr (not_not.mp hcount)) hnil

theorem moves_removeChannelIfEmpty (s : Server)
    (hlive : s.findChannel (s.channel ch).name = some ch) :
    s.Moves (s.removeChannelIfEmpty ch) := by
  unfold Moves
  rw [roster_removeChannelIfEmpty hlive]
  split_ifs with hempty
  · exact .single (.drop hlive hempty)
  · exact .refl

/-- Leaving a live channel, which is dropped if that empties it. -/
theorem moves_leaveDrop (hs : s.Sound) (c : ClientRef) (hfind : s.findChannel name = some ch) :
    s.Moves ((s.removeFromChannel ch c).removeChannelIfEmpty ch) := by
  have hleave := s.moves_removeFromChannel ch c
  refine hleave.trans (moves_removeChannelIfEmpty _ ?_)
  exact (hs.of_moves hleave).live (show (s.removeFromChannel ch c).findChannel name = _ from hfind)

/-! ## 3. Moves of the commands -/

theorem roster_joinAdmit (s : Server) (c : ClientRef) (ch : ChannelRef) (service : ChannelPrivilegeSet) :
    (s.joinAdmit c ch service).roster = (s.addToChannel ch c).roster := by
  refine (s.joinAdmit_spec c ch service).1.toQuiet.roster.trans ?_
  unfold joinSeat
  dsimp only
  obtain ⟨hpolicy, hclients, -⟩ := ((s.addToChannel ch c).channel ch).seat_spec c (s.client c).id
    s.now (decide ((s.channel ch).memberCount = 0)) ((s.channel ch).inviteHas (s.client c).id)
    service
  exact roster_updChannel _ _ hpolicy.name hclients

theorem moves_joinAdmit (s : Server) (c : ClientRef) (service : ChannelPrivilegeSet)
    (hfind : s.findChannel name = some ch) : s.Moves (s.joinAdmit c ch service) :=
  (s.moves_addToChannel c hfind).trans (.of_eq (s.roster_joinAdmit c ch service))

/-- Finding or making a channel and restoring it. -/
theorem moves_joinRestore {s₁ s₂ : Server} (hs : s.Sound) {created restored : Bool}
    (henter : s.joinEnter c name = (some (ch, created), s₁))
    (hrestore : s₁.joinRestore c ch created = (restored, s₂)) : s.Moves s₂ := by
  -- the channel is there, found or new
  obtain ⟨hm₁, hlive⟩ : s.Moves s₁ ∧ s₁.findChannel name = some ch := by
    obtain ⟨hvalid, ⟨rfl, hfind, -⟩ | ⟨rfl, rfl, hnone, -⟩⟩ := joinEnter_some henter
    · exact ⟨.refl _, hfind⟩
    · exact ⟨s.moves_createChannel hvalid hnone,
        by rw [findChannel_createChannel, if_pos (nameEq_refl name)]⟩
  refine hm₁.trans ?_
  cases restored with
  | true => exact (joinRestore_true hrestore).1.moves
  | false =>
    obtain ⟨s₃, hq, -, -, -, rfl⟩ := joinRestore_false_cases hrestore
    cases created
    · exact hq.moves
    · refine hq.moves.trans (moves_removeChannelIfEmpty _ ?_)
      rw [hq.findChannel, hq.name]
      exact (hs.of_moves hm₁).live hlive

/-- Sound still, by moves. -/
def Moved (s s' : Server) : Prop := s'.Sound ∧ s.Moves s'

theorem Moved.step {s₁ s₂ : Server} (h : s.Moved s₁) (hm : s₁.Moves s₂) : s.Moved s₂ :=
  ⟨h.1.of_moves hm, h.2.trans hm⟩

theorem moves_commandJoin (hs : s.Sound) (c : ClientRef) (params : Option Text) :
    s.Moves (s.commandJoin c params) := by
  refine commandJoin_induct (.refl s) (fun _ => .refl s) fun name key _ => ?_
  exact (joinOne_induct (P := s.Moved) (fun _ _ h => h) (fun _ _ h => h)
    (fun _ _ _ _ _ _ _ h henter hrestore => h.step (moves_joinRestore h.1 henter hrestore))
    (fun s₁ _ _ service h hfind _ => h.step (s₁.moves_joinAdmit c service hfind)) _ ⟨hs, .refl s⟩).2

/-- PART says something, or takes the client out of a channel that was found. -/
theorem commandPart_induct (h : P s) (say : ∀ ds, P (s.deliver ds))
    (leave : ∀ name ch reason, s.findChannel name = some ch → s.inChannel ch c = true → P
      (s.partChannel c ch reason)) : P (s.commandPart c params) := by
  have ask : ∀ name, P (s.queryNumeric c 403 name ":No such channel") := fun _ =>
    queryNumeric_induct h say _ _ _
  unfold commandPart
  split
  · exact say _
  · split
    · exact say _
    · split
      · exact ask _
      · split
        · exact ask _
        · split
          · exact say _
          · rename_i hfind
            split
            · exact say _
            · rename_i hin
              exact leave _ _ _ hfind (by simpa using hin)

/-- KICK says something, or takes out a member the rank rule lets the actor remove. -/
theorem commandKick_induct (h : P s) (say : ∀ ds, P (s.deliver ds))
    (kick : ∀ name ch actor target victim reason, s.findChannel name = some ch → (s.channel
      ch).findMember c = some actor → 2 ≤ privilegeRank actor.privileges → (s.channel
      ch).findMember target = some victim → mayKick actor victim = true → P (s.kickChannel c ch
      target reason)) : P (s.commandKick c params) := by
  have ask : ∀ code name text, P (s.queryNumeric c code name text) := queryNumeric_induct h say
  unfold commandKick
  split
  · exact say _
  · split
    · exact say _
    · split
      · exact say _
      · split
        · exact ask _ _ _
        · split
          · exact say _
          · rename_i ch hfind
            unfold kickMember
            dsimp only
            split
            · exact say _
            · rename_i actor hactor
              split
              · exact say _
              · rename_i hrank
                split
                · exact ask _ _ _
                · rename_i target _
                  split
                  · exact say _
                  · rename_i victim hvictim
                    split
                    · rename_i hmay
                      exact kick _ ch actor target victim _ hfind hactor (Nat.le_of_not_lt hrank)
                        hvictim hmay
                    · exact say _

/-- SAJOIN gives the newcomer privileges and changes nothing else. -/
theorem silent_forceSeat (s : Server) (target : ClientRef) (ch : ChannelRef) (first : Bool) :
    s.Silent (s.forceSeat target ch first) := by
  unfold forceSeat
  split
  · dsimp only
    split
    · exact s.silent_clientPrivileges target _
    · exact (s.silent_clientPrivileges target _).trans (silent_updateMember _ _ _ _)
  · split
    · exact s.silent_updateMember _ _ _
    · exact .refl s

/-- A change that is only output, and leaves every channel as it is. -/
theorem silent_snotice (s : Server) (category : Finset Snotice) (text : Text) :
    s.Silent (s.snotice category text) := s.silent_deliver _

theorem silent_numeric (s : Server) (c : ClientRef) (code : Nat) (params : List Field) :
    s.Silent (s.numeric c code params) := s.silent_deliver _

theorem silent_forceAnnounce (s : Server) (c target : ClientRef) (ch : ChannelRef) :
    s.Silent (s.forceAnnounce c target ch) ∧ (s.forceAnnounce c target ch).channel = s.channel := by
  obtain ⟨haway, hchan⟩ := (s.broadcastJoin ch target).silent_awayNotifyJoin ch target
  unfold forceAnnounce
  generalize (s.broadcastJoin ch target).awayNotifyJoin ch target = s₁ at haway hchan
  have h₁ := ((s.silent_deliver _).trans haway).trans
    (s₁.silent_snotice {.moderation} (s₁.forceNotice c target ch "SAJOIN" " -> "))
  dsimp only
  generalize hs₂ : s₁.snotice {.moderation} (s₁.forceNotice c target ch "SAJOIN" " -> ") = s₂ at h₁
  have hc₂ : s₂.channel = s.channel := by rw [← hs₂]; exact hchan
  split
  · exact ⟨h₁.trans (silent_deliver _ _), hc₂⟩
  · exact ⟨(h₁.trans (s₂.silent_numeric target _ _)).trans (silent_deliver _ _), hc₂⟩

theorem roster_forced (s : Server) (c target : ClientRef) (ch : ChannelRef) (first : Bool) :
    ((s.forceSeat target ch first).forceAnnounce c target ch).roster = s.roster :=
  (silent_forceAnnounce _ c target ch).1.toQuiet.roster.trans (silent_forceSeat s target ch first).toQuiet.roster

/-- One name of a SAJOIN: nothing, or a new member of a channel, found or new. -/
theorem forceJoin_induct {target : ClientRef} {Q : Server → Prop} (found : Q s)
    (create : channelNameValid name = true → s.findChannel name = none → Q (s.createChannel name))
    (enter : ∀ s ch first, Q s → s.findChannel name = some ch → s.inChannel ch target = false → P
      (((s.addToChannel ch target).forceSeat target ch first).forceAnnounce c target ch))
    (h : P s) : P (forceJoin c target s name) := by
  unfold forceJoin
  split
  · exact h
  · rename_i hcond
    have hvalid : channelNameValid name = true := by
      simp only [Bool.or_eq_true, Bool.not_eq_true', not_or, Bool.not_eq_false] at hcond
      exact hcond.1
    unfold getOrCreateChannel
    cases hfind : s.findChannel name with
    | some ch =>
      dsimp only
      split
      · exact h
      · rename_i hin
        exact enter s ch _ found hfind (by simpa using hin)
    | none =>
      dsimp only
      rw [if_pos hvalid]
      by_cases hfull : s.config.maxChannels ≤ s.channelCount
      · rw [if_pos hfull]
        exact h
      · -- nobody is in the channel yet
        have hout : (s.createChannel name).inChannel s.nextChannel target = false := by
          rw [inChannel, show (s.createChannel name).channel s.nextChannel = { name := name } from
            Function.update_self ..]
          rfl
        rw [if_neg hfull]
        dsimp only
        rw [hout, if_neg Bool.false_ne_true]
        exact enter _ _ _ (create hvalid hfind)
          (by rw [findChannel_createChannel, if_pos (nameEq_refl name)]) hout

theorem moves_forceJoin (c target : ClientRef) (name : Text) :
    s.Moves (forceJoin c target s name) := by
  refine forceJoin_induct (P := s.Moves) (Q := s.Moves) (.refl s) s.moves_createChannel
    (fun s₁ ch first h hfind _ => ?_) (.refl s)
  exact (h.trans (s₁.moves_addToChannel target hfind)).trans (.of_eq (roster_forced _ c target ch first))

/-- The frame of the forced commands: refused with a line, or the body. -/
theorem withOverride_induct {command : String} {body : Text → Text → Server}
    (say : ∀ ds, Replies ds → P (s.deliver ds)) (hbody : ∀ word tail rest, (s.client c).registered
      = true → OperPermission.override ∈ (s.client c).operPermissions → params.bind strtokSpace =
      some (word, tail) → strtokRest tail = some rest → P (body word rest)) :
    P (s.withOverride c command params body) := by
  unfold withOverride
  split
  · exact say _ (replies_one rfl)
  · rename_i hreg
    split
    · exact say _ (replies_one rfl)
    · rename_i hover
      split
      · exact say _ (replies_one rfl)
      · rename_i hword
        split
        · exact say _ (replies_one rfl)
        · rename_i hrest
          exact hbody _ _ _ (by simpa using hreg) (not_not.mp hover) hword hrest

/-- SAPART says something, and takes the target out of channels it finds it in. -/
theorem commandSapart_induct (say : ∀ s ds, P s → P (s.deliver ds))
    (leave : ∀ s name ch target, P s → s.findChannel name = some ch → P ((s.removeFromChannel ch
      target).removeChannelIfEmpty ch)) (h : P s) : P (s.commandSapart c params) := by
  refine withOverride_induct (fun _ _ => say _ _ h) fun nick _ channels _ _ _ _ => ?_
  split
  · exact say _ _ h
  · rename_i target _
    have one : ∀ s name, P s → P (forcePart c target s name) := by
      intro s name h
      unfold forcePart
      split
      · exact h
      · rename_i ch hfind
        split
        · exact h
        · exact leave _ name ch target (say _ _ (say _ _ h)) hfind
    refine say _ _ (List.foldlRecOn _ _ h fun s₁ h₁ name _ => one s₁ name h₁)

/-- Leaving every channel of one's own: each of them is live when its turn comes. -/
theorem leaveAll_induct (sound : ∀ s, P s → s.Sound) (leave : ∀ s name ch, P s → s.findChannel
      name = some ch → P ((s.removeFromChannel ch c).removeChannelIfEmpty ch)) (h : P s) :
    P (s.leaveAll c) := by
  have list : ∀ (l : List ChannelRef) (s : Server), P s → l.Nodup →
      (∀ ch ∈ l, ch ∈ (s.client c).channels) →
      P (l.foldl (fun s ch => (s.removeFromChannel ch c).removeChannelIfEmpty ch) s) := by
    intro l
    induction l with
    | nil => exact fun _ h _ _ => h
    | cons ch l ih =>
      intro s h hnodup hin
      obtain ⟨hnot, hnodup⟩ := List.nodup_cons.mp hnodup
      have hlive : s.findChannel (s.channel ch).name = some ch :=
        Roster.Sound.live (sound s h) (hin ch List.mem_cons_self)
      refine ih _ (leave s _ ch h hlive) hnodup fun ch' hch' => ?_
      rw [client_removeChannelIfEmpty]
      show ch' ∈ (((s.updChannel ch (·.removeMember c)).updClient c (·.unlink ch)).client c).channels
      rw [updClient_self]
      refine (List.mem_erase_of_ne (show ch' ≠ ch from fun heq => hnot (heq ▸ hch'))).mpr ?_
      exact hin ch' (List.mem_cons_of_mem _ hch')
  exact list _ s h ((sound s h).rooms_nodup c) fun _ h => h

/-- Freeing a client: WHOWAS, the hook, and lines to those who watch. -/
theorem clientFree_eq (s : Server) (c : ClientRef) : ∃ whowas hook active out,
    s.clientFree c = { s with
      whowas := whowas, freeHook := hook, pmstatsActive := active, out := out } := by
  unfold clientFree
  split
  · exact ⟨_, _, _, _, rfl⟩
  · split
    · exact ⟨_, _, _, _, rfl⟩
    · unfold watchOffline whowasRecord
      dsimp only
      split_ifs <;> exact ⟨_, _, _, _, rfl⟩
  · split <;> exact ⟨_, _, _, _, rfl⟩

/-- Taking a client off the tables: the nickname table, the list, its registration. -/
theorem unlist_eq (s : Server) (c : ClientRef) : s.unlist c = { s with
    clients := swapRemove c s.clients
    clientsByNick := if (s.client c).nick.isEmpty then s.clientsByNick
      else s.clientsByNick.remove (s.client c).nick }.updClient c
        fun cl => { cl with registered := false } := by
  unfold unlist
  dsimp only
  split <;> rfl

/-- The hook of a freed client touches no membership. -/
theorem roster_clientFree (s : Server) (c : ClientRef) : (s.clientFree c).roster = s.roster := by
  obtain ⟨_, _, _, _, heq⟩ := s.clientFree_eq c
  rw [heq]
  rfl

theorem roster_unlist (s : Server) (c : ClientRef) : (s.unlist c).roster = s.roster := by
  rw [unlist_eq]
  exact roster_updClient _ c rfl

/-- The end of a connection: output, every channel left, the tables, the hook. -/
theorem disconnect_induct {reason : Text} (say : ∀ s ds, P s → P (s.deliver ds))
    (leave : ∀ s, P s → P (s.leaveAll c)) (unlist : ∀ s, P s → P (s.unlist c))
    (free : ∀ s, P s → P (s.clientFree c)) (h : P s) : P (s.disconnect c reason) := by
  unfold disconnect
  dsimp only
  refine free _ (unlist _ (leave _ ?_))
  have stats : P (if (s.client c).registered = true then s.pmstatsDisconnect c else s) := by
    unfold pmstatsDisconnect
    split_ifs
    · exact h
    · exact say _ _ h
    · exact h
  generalize (if (s.client c).registered = true then s.pmstatsDisconnect c else s) = s₁ at stats
  split
  · exact say _ _ (say _ _ stats)
  · exact say _ _ stats

/-- The same in smaller steps, for what does not depend on how the tables are kept: a channel is
    left, its name may go, then the client itself. -/
theorem disconnect_steps {reason : Text} (say : ∀ s ds, P s → P (s.deliver ds))
    (leave : ∀ s ch, P s → P (s.removeFromChannel ch c))
    (forget : ∀ s names count, P s → P { s with channelsByName := names, channelCount := count })
    (unlist : ∀ s nicks, P s → P ({ s with
      clients := swapRemove c s.clients, clientsByNick := nicks }.updClient c
        fun cl => { cl with registered := false }))
    (free : ∀ s whowas hook active out, P s → P { s with
      whowas := whowas, freeHook := hook, pmstatsActive := active, out := out })
    (h : P s) : P (s.disconnect c reason) := by
  refine disconnect_induct say (fun s h => ?_) (fun s h => ?_) (fun s h => ?_) h
  · refine List.foldlRecOn (motive := P) _ _ h fun s₁ h₁ ch _ => ?_
    unfold removeChannelIfEmpty
    split_ifs
    · exact leave s₁ ch h₁
    · exact forget _ _ _ (leave s₁ ch h₁)
    · exact leave s₁ ch h₁
  · rw [unlist_eq]
    exact unlist s _ h
  · obtain ⟨_, _, _, _, heq⟩ := s.clientFree_eq c
    rw [heq]
    exact free s _ _ _ _ h

/-! ## 4. MODE moves nobody -/

theorem quiet_modeChannel (s : Server) (c : ClientRef) (ch : ChannelRef)
    (letters : Text) (args : List Text) :
    s.Quiet (s.modeChannel c ch letters args) := by
  have hloop := (s.modeOutcome_modeLoop c ch ((s.channel ch).mayChange c)
    (signedLetters true letters) args).quiet
  unfold modeChannel
  generalize modeLoop c ch ((s.channel ch).mayChange c) (signedLetters true letters)
    { server := s, args := args } = result at hloop
  obtain ⟨_ | _, run⟩ := result
  · exact hloop
  · dsimp only at hloop ⊢
    split
    · exact hloop
    · have hannounce : run.server.Quiet
          (run.server.announceModes c ch run.changed run.changedParams) := by
        unfold announceModes
        dsimp only
        split_ifs
        · exact .refl _
        · exact quiet_deliver _ _
        · exact quiet_deliver _ _
      exact (hloop.trans hannounce).trans (quiet_storage _ (Storage.frame_persistChannel _ _))

theorem roster_modeUser (s : Server) (c : ClientRef) (target : Text) (modes : Option Text) :
    (s.modeUser c target modes).roster = s.roster := by
  have hletter : ∀ s l, (modeUserLetter c s l).roster = s.roster := by
    intro s l
    unfold modeUserLetter
    split
    · rfl
    · split
      · exact s.roster_updClient c rfl
      · rfl
  unfold modeUser
  split
  · rfl
  · split
    · rfl
    · exact Runs.exec_same Server.roster hletter s _

theorem roster_commandModeCore (s : Server) (c : ClientRef) (params : Option Text) :
    (s.commandModeCore c params).roster = s.roster := by
  unfold commandModeCore
  split
  · rfl
  · split
    · rfl
    · split
      · rfl
      · split
        · exact s.roster_modeUser c _ _
        · split
          · rfl
          · split
            · rfl
            · exact (s.quiet_modeChannel c _ _ _).roster

theorem roster_modeSave (s : Server) (before : Option (Nat × Nat)) (name : Text) :
    (s.modeSave before name).roster = s.roster := by
  unfold modeSave
  split
  · rfl
  · dsimp only
    split
    · rfl
    · exact s.roster_updChannel _ (f := (·.joinThrottleClear)) rfl rfl

/-- The host a client shows has nothing to do with its channels. -/
theorem channels_refreshDisplayHost (config : ServerConfig) (ext : External) (cl : Client) :
    (cl.refreshDisplayHost config ext).channels = cl.channels := by
  unfold Client.refreshDisplayHost
  dsimp only
  split_ifs <;> rfl

theorem channels_removeCloak (cl : Client) : cl.removeCloak.channels = cl.channels := by
  unfold Client.removeCloak
  dsimp only
  split_ifs <;> rfl

theorem roster_specialUserModes {target modes : Text}
    (h : s.specialUserModes c target modes = some s') : s'.roster = s.roster := by
  have hletter : ∀ isOper st l, (specialModeLetter c isOper st l).server.roster = st.server.roster := by
    intro isOper st l
    unfold specialModeLetter
    split
    · refine roster_updClient _ c ?_
      split
      · exact channels_refreshDisplayHost _ _ _
      · exact channels_removeCloak _
    · split
      · dsimp only
        split
        · exact roster_updClient _ c rfl
        · rfl
      · rfl
  unfold specialUserModes at h
  split at h
  · cases h
  · dsimp only at h
    split at h <;> cases h
    rw [roster_commandModeCore]
    exact Runs.exec_same (fun st : SpecialModes => st.server.roster) (hletter _) _ _

theorem roster_commandModePolicy (s : Server) (c : ClientRef) (params : Option Text) :
    (s.commandModePolicy c params).roster = s.roster := by
  have core := fun params => s.roster_commandModeCore c params
  unfold commandModePolicy
  split
  · exact core none
  · split
    · exact core _
    · split
      · split
        · split <;> rfl
        · unfold modeChannelPolicy
          split
          · rfl
          · split
            · rfl
            · exact (roster_modeSave _ _ _).trans (core _)
        · exact (roster_modeSave _ _ _).trans (core _)
      · split
        · exact core _
        · generalize hspecial : s.specialUserModes c _ _ = special
          cases special with
          | none => rw [Option.getD_none]; exact core _
          | some s' => exact roster_specialUserModes hspecial

theorem roster_modeSelf (s : Server) (c : ClientRef) (target letters : Text)
    (rest : Option Text) : (s.modeSelf c target letters rest).roster = s.roster := by
  have hcloak : ∀ (s : Server) adding, (s.controlCloak c adding).roster = s.roster := by
    intro s adding
    unfold controlCloak
    dsimp only
    split
    · split
      · rfl
      · exact roster_updClient _ c (channels_refreshDisplayHost _ _ _)
    · exact roster_updClient _ c (channels_refreshDisplayHost _ _ _)
  have hletter : ∀ st l, (controlLetter c st l).server.roster = st.server.roster := by
    intro st l
    unfold controlLetter
    split
    · rfl
    · split
      · exact hcloak _ _
      · rfl
  have hst := Runs.exec_same (fun st : SpecialModes => st.server.roster) hletter { server := s }
    (signedLetters true letters)
  unfold Runs.exec at hst
  unfold modeSelf
  dsimp only
  generalize (signedLetters true letters).foldl (controlLetter c) { server := s } = st at hst
  have hpolicy : ∀ params, (st.server.commandModePolicy c params).roster = s.roster :=
    fun params => (st.server.roster_commandModePolicy c params).trans hst
  split <;> split
  · exact hst
  · exact hpolicy _
  · exact hst
  · exact hpolicy _

/-- **MODE moves nobody.** -/
theorem roster_dispatchMode (s : Server) (c : ClientRef) (params : Option Text) :
    (s.dispatchMode c params).roster = s.roster := by
  unfold dispatchMode
  split
  · unfold commandMode
    split
    · exact s.roster_commandModePolicy c params
    · split
      · exact s.roster_commandModePolicy c params
      · split
        · split <;> rfl
        · split
          · exact s.roster_commandModePolicy c params
          · split
            · rfl
            · exact s.roster_modeSelf c _ _ _
  · rfl

theorem roster_samodeUser (s : Server) (c target : ClientRef) (modes : Option Text) :
    (s.samodeUser c target modes).roster = s.roster := by
  have hletter : ∀ s l, (samodeUserLetter c target s l).roster = s.roster := by
    intro s l
    unfold samodeUserLetter
    split
    · rfl
    · exact s.roster_updClient target rfl
  unfold samodeUser
  split
  · rfl
  · exact Runs.exec_same Server.roster hletter s _

theorem findChannel_samodeRaise (s : Server) (c : ClientRef) (ch : ChannelRef) (name : Text) :
    (s.samodeRaise c ch).findChannel name = s.findChannel name := by
  unfold samodeRaise addToChannel
  split_ifs <;> rfl

/-- Whoever SAMODE seats for its work leaves again. -/
theorem roster_samodeChannel (s : Server) (c : ClientRef) (ch : ChannelRef) (target rest : Text) :
    (s.samodeChannel c ch target rest).roster = s.roster := by
  have hraise : (s.samodeRaise c ch).roster = (s.addToChannel ch c).roster :=
    (silent_updateMember _ ch c _).toQuiet.roster
  have hcore := ((s.samodeRaise c ch).roster_commandModeCore c (some (target ++ ' ' :: rest))).trans hraise
  unfold samodeChannel
  dsimp only
  generalize (s.samodeRaise c ch).commandModeCore c (some (target ++ ' ' :: rest)) = s₁ at hcore
  cases hinside : (s.channel ch).findMember c with
  | none =>
    have hout : s.inChannel ch c = false := by
      rw [inChannel, Channel.hasClient, hinside]
      rfl
    refine (roster_removeFromChannel _ ch c).trans ?_
    rw [roster_addToChannel hout] at hcore
    exact (congrArg (Roster.leave · c ch) hcore).trans (Roster.leave_enter _ c ch)
  | some m =>
    have hin : s.inChannel ch c = true := by
      rw [inChannel, Channel.hasClient, hinside]
      rfl
    refine (silent_updateMember _ ch c _).toQuiet.roster.trans ?_
    rw [addToChannel_of_in hin] at hcore
    exact hcore

theorem roster_commandSamode (s : Server) (c : ClientRef) (params : Option Text) :
    (s.commandSamode c params).roster = s.roster := by
  refine withOverride_induct (P := fun s' => s'.roster = s.roster) (fun _ _ => rfl)
    fun target _ rest _ _ _ _ => ?_
  split
  · split
    · rfl
    · split
      · split
        · rfl
        · exact s.roster_samodeChannel c _ target rest
      · exact s.roster_samodeChannel c _ target rest
  · split
    · rfl
    · exact s.roster_samodeUser c _ _

end Server

/-! ## 5. Runs -/

/-- A command of one client, with the text after its verb, or the end of a connection. -/
inductive ChannelEvent where
  | join (c : ClientRef) (params : Option Text)
  | part (c : ClientRef) (params : Option Text)
  | kick (c : ClientRef) (params : Option Text)
  | mode (c : ClientRef) (params : Option Text)
  | sajoin (c : ClientRef) (params : Option Text)
  | sapart (c : ClientRef) (params : Option Text)
  | samode (c : ClientRef) (params : Option Text)
  | disconnect (c : ClientRef) (reason : Text)
  deriving DecidableEq, Repr

/-- The connection an event is about. -/
def ChannelEvent.actor : ChannelEvent → ClientRef
  | .join c _ | .part c _ | .kick c _ | .mode c _ | .sajoin c _ | .sapart c _ | .samode c _
  | .disconnect c _ => c

namespace Server

def handle (s : Server) : ChannelEvent → Server
  | .join c params => s.commandJoin c params
  | .part c params => s.commandPart c params
  | .kick c params => s.commandKick c params
  | .mode c params => s.dispatchMode c params
  | .sajoin c params => s.commandSajoin c params
  | .sapart c params => s.commandSapart c params
  | .samode c params => s.commandSamode c params
  | .disconnect c reason => s.disconnect c reason

section

variable (sound : ∀ s, P s → s.Sound) (same : ∀ s s', s'.roster = s.roster → P s → P s')
  (leave : ∀ s name ch c, P s → s.findChannel name = some ch →
    P ((s.removeFromChannel ch c).removeChannelIfEmpty ch))
include sound same leave

/-- What depends on the roster only, and survives that a channel is left. -/
theorem disconnect_roster (h : P s) (c : ClientRef) (reason : Text) : P (s.disconnect c reason) :=
  disconnect_induct (fun s _ => same s _ rfl)
    (fun _ => leaveAll_induct sound fun s name ch => leave s name ch c)
    (fun s => same s _ (s.roster_unlist c)) (fun s => same s _ (s.roster_clientFree c)) h

/-- **The rule for the roster**: what survives leaving, JOIN and SAJOIN survives every event. -/
theorem handle_roster {e : ChannelEvent} (join : ∀ c params, e = .join c params → P (s.commandJoin c params))
    (force : ∀ s c target name, P s → P (forceJoin c target s name)) (h : P s) : P (s.handle e) := by
  have say : ∀ ds, P (s.deliver ds) := fun _ => same s _ rfl h
  cases e with
  | join c params => exact join c params rfl
  | part c params =>
    exact commandPart_induct h say fun name ch _ hfind _ => leave (s.broadcast ch none _) name ch c (say _) hfind
  | kick c params =>
    exact commandKick_induct h say fun name ch _ target _ _ hfind _ _ _ _ =>
      leave (s.broadcast ch none _) name ch target (say _) hfind
  | mode c params => exact same s _ (s.roster_dispatchMode c params) h
  | sajoin c params =>
    refine withOverride_induct (fun ds _ => say ds) fun _ _ channels _ _ _ _ => ?_
    split
    · exact say _
    · rename_i target _
      have hloop : P ((listWords channels.length channels).foldl (forceJoin c target) s) :=
        List.foldlRecOn _ _ h fun s h name _ => force s c target name h
      refine same _ _ ?_ hloop
      rfl
  | sapart c params =>
    exact commandSapart_induct (fun s _ => same s _ rfl) (fun s name ch target => leave s name ch target) h
  | samode c params => exact same s _ (s.roster_commandSamode c params) h
  | disconnect c reason => exact disconnect_roster sound same leave h c reason

end

theorem moves_disconnect (hs : s.Sound) (c : ClientRef) (reason : Text) : s.Moves (s.disconnect c reason) :=
  (disconnect_roster (P := s.Moved) (fun _ h => h.1) (fun _ _ heq h => h.step (.of_eq heq))
    (fun _ _ _ c h hfind => h.step (moves_leaveDrop h.1 c hfind)) ⟨hs, .refl s⟩ c reason).2

/-- **Every event is made of moves.** -/
theorem moves_handle (hs : s.Sound) (e : ChannelEvent) : s.Moves (s.handle e) :=
  (handle_roster (P := s.Moved) (fun _ h => h.1) (fun _ _ heq h => h.step (.of_eq heq))
    (fun _ _ _ c h hfind => h.step (moves_leaveDrop h.1 c hfind))
    (fun c params _ => Moved.step ⟨hs, .refl s⟩ (moves_commandJoin hs c params))
    (fun _ c target name h => h.step (moves_forceJoin c target name)) ⟨hs, .refl s⟩).2

/-- One event at a time of day. What is no connection (any more) sends nothing. -/
def channelStep (s : Server) (e : Nat × ChannelEvent) : Server :=
  if e.2.actor ∈ s.clients then { s with now := e.1 }.handle e.2 else s

theorem moves_channelStep (hs : s.Sound) (e : Nat × ChannelEvent) : s.Moves (s.channelStep e) := by
  unfold channelStep
  split
  · exact moves_handle (s := { s with now := e.1 }) hs e.2
  · exact .refl s

/-- **Memberships stay in step in every run.** -/
theorem Sound.exec (hs : s.Sound) (es : List (Nat × ChannelEvent)) :
    (Runs.exec channelStep s es).Sound := by
  induction es generalizing s with
  | nil => exact hs
  | cons e es ih => exact ih (hs.of_moves (moves_channelStep hs e))

end Server

end ScratchIrcd
