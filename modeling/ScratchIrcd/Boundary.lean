/-
  File:      ScratchIrcd/Boundary.lean
  Subject:   The line between operators and protected members or owners: what sequences of MODE
             and KICK by members below it can do, and the letter that crosses it.

  `mode_channel` asks for the actor's own rank before +a and -a, and KICK compares ranks. Nothing
  asks before +q and -q. Without that letter the owners and protected members of a channel stay
  who they are.
-/
import ScratchIrcd.ModeRule
import Mathlib.Data.Finset.Lattice.Lemmas

namespace ScratchIrcd

open CText

variable {a b : Channel} {p : ChannelPrivilege} {c : ClientRef} {m : Member}
  {params : Option Text}

/-! ## 1. Elevation -/

/-- The part of a member's privileges above operator. -/
def Member.elevation (m : Member) : ChannelPrivilegeSet := m.privileges ∩ {.owner, .protect}

theorem Member.elevation_eq_empty : m.elevation = ∅ ↔ privilegeRank m.privileges < 4 := by
  rw [privilegeRank_lt_four, elevation, Finset.eq_empty_iff_forall_notMem]
  constructor
  · intro h
    exact ⟨fun ho => h .owner (by simp [ho]), fun hp => h .protect (by simp [hp])⟩
  · rintro ⟨ho, hp⟩ p hmem
    simp only [Finset.mem_inter, Finset.mem_insert, Finset.mem_singleton] at hmem
    rcases hmem.2 with rfl | rfl
    · exact ho hmem.1
    · exact hp hmem.1

theorem Member.mem_privileges_of_elevation {m' : Member} (h : m'.elevation = m.elevation)
    (hp : p = .owner ∨ p = .protect) : p ∈ m'.privileges ↔ p ∈ m.privileges := by
  have key : ∀ m : Member, p ∈ m.privileges ↔ p ∈ m.elevation := by
    intro m
    rcases hp with rfl | rfl <;> simp [elevation]
  rw [key, key, h]

namespace Channel

/-- Every member's privileges are the union of their parts. -/
def Whole (ch : Channel) : Prop := ∀ m ∈ ch.members, m.grants.Whole

/-- `b` has no member `a` had not, everybody in it is as high above operator as before, and
    nobody above operator is missing. -/
structure SameBoundary (a b : Channel) : Prop where
  whole : a.Whole → b.Whole
  kept : ∀ m' ∈ b.members, ∃ m ∈ a.members, m.client = m'.client ∧ m'.elevation = m.elevation
  stay : ∀ m ∈ a.members, m.elevation ≠ ∅ →
    ∃ m' ∈ b.members, m'.client = m.client ∧ m'.elevation = m.elevation

/-- The client is not above operator in the channel. -/
def Ordinary (ch : Channel) (c : ClientRef) : Prop :=
  ∀ m ∈ ch.members, m.client = c → m.elevation = ∅

namespace SameBoundary

theorem of_members (h : b.members = a.members) : a.SameBoundary b :=
  ⟨fun hw m hm => hw m (h ▸ hm), fun m hm => ⟨m, h ▸ hm, rfl, rfl⟩,
    fun m hm _ => ⟨m, h ▸ hm, rfl, rfl⟩⟩

theorem refl (a : Channel) : a.SameBoundary a := of_members rfl

theorem trans {c : Channel} (h₁ : a.SameBoundary b) (h₂ : b.SameBoundary c) :
    a.SameBoundary c where
  whole hw := h₂.whole (h₁.whole hw)
  kept m'' hm'' := by
    obtain ⟨m', hm', hc', he'⟩ := h₂.kept m'' hm''
    obtain ⟨m, hm, hc, he⟩ := h₁.kept m' hm'
    exact ⟨m, hm, hc.trans hc', he'.trans he⟩
  stay m hm hne := by
    obtain ⟨m', hm', hc', he'⟩ := h₁.stay m hm hne
    obtain ⟨m'', hm'', hc'', he''⟩ := h₂.stay m' hm' (he' ▸ hne)
    exact ⟨m'', hm'', hc''.trans hc', he''.trans he'⟩

theorem ordinary (h : a.SameBoundary b) (ha : a.Ordinary c) : b.Ordinary c := by
  intro m' hm' hc'
  obtain ⟨m, hm, hc, he⟩ := h.kept m' hm'
  rw [he, ha m hm (hc.trans hc')]

/-- Changing grants below the line. -/
theorem updateMember {ch : Channel} (hch : ch.Whole) (c : ClientRef) {f : Grants → Grants}
    (hf : ∀ g : Grants, (f g).Whole ∧ (g.Whole →
      (f g).privileges ∩ {.owner, .protect} = g.privileges ∩ {.owner, .protect})) :
    ch.SameBoundary (ch.updateMember c f) := by
  have key : ∀ m ∈ ch.members, Member.elevation
      ⟨m.client, if m.client == c then f m.grants else m.grants⟩ = m.elevation := by
    intro m hm
    unfold Member.elevation
    split
    · exact (hf m.grants).2 (hch m hm)
    · rfl
  refine ⟨fun hw m' hm' => ?_, fun m' hm' => ?_, fun m hm _ => ?_⟩
  · obtain ⟨m, hm, rfl⟩ := List.mem_map.mp hm'
    dsimp only
    split
    · exact (hf m.grants).1
    · exact hw m hm
  · obtain ⟨m, hm, rfl⟩ := List.mem_map.mp hm'
    exact ⟨m, hm, rfl, key m hm⟩
  · exact ⟨_, List.mem_map.mpr ⟨m, hm, rfl⟩, rfl, key m hm⟩

end SameBoundary

/-- A member below the line manages nobody above it. -/
theorem Ordinary.mayManageProtected {ch : Channel} (h : ch.Ordinary c) :
    ch.mayManageProtected c = false := by
  unfold Channel.mayManageProtected memberHas
  split
  · rename_i m hm
    have hmem := List.mem_of_find?_eq_some hm
    have hclient : m.client = c := by simpa using List.find?_some hm
    have hnone := h m hmem hclient
    have hdisjoint : Disjoint m.privileges {.owner, .protect} :=
      Finset.disjoint_iff_inter_eq_empty.mpr hnone
    simpa using hdisjoint
  · rfl

end Channel

/-- Adding or taking a privilege below the line leaves what is above it. -/
theorem Grants.elevation_of_manual {g : Grants} (hg : g.Whole) (ho : p ≠ .owner) (hp : p ≠ .protect) :
    (g.addManual {p}).privileges ∩ {.owner, .protect} = g.privileges ∩ {.owner, .protect} ∧
      (g.removeManual {p}).privileges ∩ {.owner, .protect} =
        g.privileges ∩ {.owner, .protect} := by
  rw [show g.privileges = _ from hg]
  constructor
  · ext q
    simp only [addManual, Finset.mem_inter, Finset.mem_union, Finset.mem_singleton,
      Finset.mem_insert]
    refine and_congr_left ?_
    rintro (rfl | rfl) <;> simp [Ne.symm ho, Ne.symm hp]
  · ext q
    simp only [removeManual, Finset.mem_inter, Finset.mem_union, Finset.mem_sdiff,
      Finset.mem_singleton, Finset.mem_insert]
    refine and_congr_left ?_
    rintro (rfl | rfl) <;> simp [Ne.symm ho, Ne.symm hp]

/-! ## 2. One command -/

namespace Server

variable {s : Server} {c : ClientRef} {ch : ChannelRef}

/-- An edit by a member below the line, with any letter but `q`. -/
theorem sameBoundary_edit {chan : Channel} {e : ChannelEdit} {adding : Bool} {letter : Char}
    (hch : chan.Whole) (hordinary : (s.channel ch).Ordinary c) (hq : letter ≠ 'q')
    (he : LetterEdit s c ch adding letter e) : chan.SameBoundary (chan.edit e) := by
  have below : ∀ {p : ChannelPrivilege}, channelPrivilegeBit letter = some p →
      (p = .protect → (s.channel ch).mayManageProtected c = true) → p ≠ .owner ∧ p ≠ .protect := by
    intro p hp hguard
    refine ⟨?_, fun hprotect => ?_⟩
    · rintro rfl
      obtain ⟨x, hx, hown⟩ := Option.map_eq_some_iff.mp hp
      have hletter : x.2 = letter := by simpa using List.find?_some hx
      have hmem := List.mem_of_find?_eq_some hx
      simp only [privilegeLetters, List.mem_cons, List.not_mem_nil, or_false] at hmem
      rcases hmem with rfl | rfl | rfl | rfl | rfl
      · exact hq hletter.symm
      all_goals cases hown
    · rw [hordinary.mayManageProtected] at hguard
      exact Bool.false_ne_true (hguard hprotect)
  have masks : ∀ kind l, chan.SameBoundary (chan.setMaskList kind l) :=
    fun kind l => .of_members (by cases kind <;> rfl)
  cases he with
  | grant hp _ _ hguard =>
    obtain ⟨ho, hprotect⟩ := below hp hguard
    exact .updateMember hch _ fun g => ⟨rfl, fun hg => (Grants.elevation_of_manual hg ho hprotect).1⟩
  | revoke hp _ _ hguard =>
    obtain ⟨ho, hprotect⟩ := below hp hguard
    exact .updateMember hch _ fun g => ⟨rfl, fun hg => (Grants.elevation_of_manual hg ho hprotect).2⟩
  | addMask kind mask authorized =>
    rw [Channel.edit]
    split
    · exact masks _ _
    · exact .refl _
  | removeMask kind mask => exact masks _ _
  | _ => exact .of_members rfl

/-- The mode string of a MODE has no `q`. -/
def NoOwnerLetter (params : Option Text) : Prop :=
  ∀ target letters args, params.bind modeWords = some (target, some (letters, args)) →
    'q' ∉ letters

/-- MODE by a member below the line. -/
theorem sameBoundary_dispatchMode (hs : s.Sound) (hch : (s.channel ch).Whole) (hordinary : (s.channel ch).Ordinary c)
    (hq : NoOwnerLetter params) :
    (s.channel ch).SameBoundary ((s.dispatchMode c params).channel ch) := by
  refine (dispatchMode_induct
    (P := fun s' => s'.ChannelsOk ∧ (s.channel ch).SameBoundary (s'.channel ch)) ?_ ?_ ?_ ?_
    (fun _ h => .inl h.1) ?_ ⟨hs.channelsOk, .refl _⟩).2
  · exact fun _ _ _ h => ⟨⟨h.1.named, h.1.valid, h.1.fresh⟩, h.2⟩
  · exact fun _ _ _ h => ⟨⟨h.1.named, h.1.valid, h.1.fresh⟩, h.2⟩
  · rintro s₁ name x - ⟨hok, hsame⟩
    refine ⟨(s₁.quiet_updChannel x _ rfl rfl (.refl _)).channelsOk hok, hsame.trans (.of_members ?_)⟩
    by_cases hx : ch = x
    · subst hx; rw [updChannel_self]; rfl
    · rw [updChannel_of_ne _ _ _ _ hx]
  · exact fun _ _ _ _ h => ⟨⟨h.1.named, h.1.valid, h.1.fresh⟩, h.2⟩
  · intro x letters args hreq
    obtain ⟨-, -, target, hwords, -⟩ := modeRequest_spec hreq
    have houtcome := s.modeOutcome_modeLoop c x ((s.channel x).mayChange c)
      (signedLetters true letters) args
    refine .of_deliver (fun _ h => ⟨⟨h.1.named, h.1.valid, h.1.fresh⟩, h.2⟩)
      ⟨houtcome.quiet.channelsOk hs.channelsOk, ?_⟩
    by_cases hx : ch = x
    · subst hx
      refine modeLoop_record_induct (P := fun chan => (s.channel ch).SameBoundary chan)
        (fun s₁ l hl e hedit hrun => ?_) (.refl _)
      have hletter : l.2 ≠ 'q' := fun heq =>
        hq target letters args hwords (heq ▸ mem_signedLetters hl)
      exact hrun.trans (sameBoundary_edit (hrun.whole hch) (hrun.ordinary hordinary) hletter hedit)
    · exact .of_members (by rw [houtcome.others ch hx])

/-- KICK by a member below the line. -/
theorem sameBoundary_commandKick (hordinary : (s.channel ch).Ordinary c) :
    (s.channel ch).SameBoundary ((s.commandKick c params).channel ch) := by
  refine commandKick_induct (P := fun s' => (s.channel ch).SameBoundary (s'.channel ch)) (.refl _)
    (fun _ => .refl _) fun name x actor target victim reason _ hactor _ hvictim hmay => ?_
  unfold kickChannel
  rw [channel_removeChannelIfEmpty]
  unfold removeFromChannel
  rw [updClient_channel]
  by_cases hx : ch = x
  · subst hx
    rw [updChannel_self]
    have hclient : actor.client = c := by simpa using List.find?_some hactor
    have hvclient : victim.client = target := by simpa using List.find?_some hvictim
    have hbelow := hordinary actor (List.mem_of_find?_eq_some hactor) hclient
    have hrank := Member.elevation_eq_empty.mp hbelow
    -- whoever may be kicked is below the line too
    have hvictimBelow : victim.elevation = ∅ := by
      unfold mayKick at hmay
      split at hmay
      · rename_i hself
        refine hordinary victim (List.mem_of_find?_eq_some hvictim) ?_
        rw [← hclient]; simpa using hself
      · rw [privilegeRank_lt_four] at hrank
        split at hmay
        · simp [hrank.1, hrank.2] at hmay
        · rw [Member.elevation_eq_empty]
          have hlt : privilegeRank victim.privileges < privilegeRank actor.privileges := by
            simpa using hmay
          have := privilegeRank_lt_four.mpr hrank
          omega
    refine ⟨fun hw m hm => hw m (List.eraseP_sublist.subset hm),
      fun m hm => ⟨m, List.eraseP_sublist.subset hm, rfl, rfl⟩, ?_⟩
    · intro m hm hne
      refine ⟨m, ?_, rfl, rfl⟩
      refine (List.mem_eraseP_of_neg ?_).mpr hm
      -- the target's record is the victim's
      intro htarget
      have hsame : m = victim := List.inj_on_of_nodup_map (s.channel ch).members_nodup hm
        (List.mem_of_find?_eq_some hvictim) ((by simpa using htarget : m.client = target).trans
          hvclient.symm)
      exact hne (hsame ▸ hvictimBelow)
  · exact .of_members (by rw [updChannel_of_ne _ _ _ _ hx]; rfl)

/-! ## 3. Sequences -/

/-- A member of the channel whose rank is at most that of an operator. -/
def OperatorAtMost (s : Server) (ch : ChannelRef) (c : ClientRef) : Prop :=
  ∃ m, (s.channel ch).findMember c = some m ∧ privilegeRank m.privileges ≤ 3

theorem OperatorAtMost.ordinary (h : s.OperatorAtMost ch c) : (s.channel ch).Ordinary c := by
  obtain ⟨m, hfind, hrank⟩ := h
  intro m' hm' hc'
  have hclient : m.client = c := by simpa using List.find?_some hfind
  have hsame : m' = m := List.inj_on_of_nodup_map (s.channel ch).members_nodup hm'
    (List.mem_of_find?_eq_some hfind) (hc'.trans hclient.symm)
  rw [hsame, Member.elevation_eq_empty]
  omega

/-- A MODE without the letter `q`, or a KICK. -/
def ModeOrKick : ChannelEvent → Prop
  | .mode _ params => NoOwnerLetter params
  | .kick _ _ => True
  | _ => False

/-- **One event** of somebody below the line. -/
theorem sameBoundary_channelStep (hs : s.Sound) (hch : (s.channel ch).Whole) {e : Nat × ChannelEvent}
    (hordinary : (s.channel ch).Ordinary e.2.actor) (he : ModeOrKick e.2) :
    (s.channel ch).SameBoundary ((s.channelStep e).channel ch) := by
  obtain ⟨now, e⟩ := e
  unfold channelStep
  split
  · have hs' : Sound { s with now := now } := hs
    cases e with
    | mode c params =>
      exact sameBoundary_dispatchMode (s := { s with now := now }) hs' hch hordinary he
    | kick c params => exact sameBoundary_commandKick (s := { s with now := now }) hordinary
    | _ => exact he.elim
  · exact .refl _

/-- What the rank rules are for: nobody rises to rank 4 or 5, nobody protected or an owner
    loses that or is gone. -/
structure BoundaryKept (a b : Channel) : Prop where
  noRise : ∀ m' ∈ b.members, 4 ≤ privilegeRank m'.privileges →
    ∃ m ∈ a.members, m.client = m'.client ∧
      privilegeRank m.privileges = privilegeRank m'.privileges
  noLoss : ∀ m ∈ a.members, .protect ∈ m.privileges ∨ .owner ∈ m.privileges →
    ∃ m' ∈ b.members, m'.client = m.client ∧
      (.protect ∈ m.privileges → .protect ∈ m'.privileges) ∧
      (.owner ∈ m.privileges → .owner ∈ m'.privileges)

theorem BoundaryKept.of_same (h : a.SameBoundary b) : BoundaryKept a b where
  noRise m' hm' hrank := by
    obtain ⟨m, hm, hc, he⟩ := h.kept m' hm'
    refine ⟨m, hm, hc, ?_⟩
    have howner := Member.mem_privileges_of_elevation he (.inl rfl)
    have hprotect := Member.mem_privileges_of_elevation he (.inr rfl)
    by_cases ho : .owner ∈ m.privileges
    · rw [privilegeRank_eq_five.mpr ho, privilegeRank_eq_five.mpr (howner.mpr ho)]
    · have hp : .protect ∈ m.privileges := by
        by_contra hp
        have := privilegeRank_lt_four.mpr ⟨mt howner.mp ho, mt hprotect.mp hp⟩
        omega
      rw [privilegeRank_eq_four.mpr ⟨ho, hp⟩,
        privilegeRank_eq_four.mpr ⟨mt howner.mp ho, hprotect.mpr hp⟩]
  noLoss m hm hhigh := by
    have hne : m.elevation ≠ ∅ := by
      rw [Ne, Member.elevation_eq_empty, privilegeRank_lt_four]
      tauto
    obtain ⟨m', hm', hc, he⟩ := h.stay m hm hne
    exact ⟨m', hm', hc, (Member.mem_privileges_of_elevation he (.inr rfl)).mpr,
      (Member.mem_privileges_of_elevation he (.inl rfl)).mpr⟩

/-- **Operators cannot cross the line**, by any sequence of KICK and of MODE without the letter
    `q`, each sent by somebody whose rank was at most 3 at the start. -/
theorem operators_keep_boundary (s : Server) (ch : ChannelRef) (es : List (Nat × ChannelEvent))
    (hs : s.Sound) (hwhole : (s.channel ch).Whole)
    (hactors : ∀ e ∈ es, s.OperatorAtMost ch e.2.actor) (hes : ∀ e ∈ es, ModeOrKick e.2) :
    BoundaryKept (s.channel ch) ((Runs.exec channelStep s es).channel ch) := by
  refine .of_same ?_
  -- along the run nobody who acts has come to stand above the line
  have hrun : ∀ (es : List (Nat × ChannelEvent)) (s₁ : Server), s₁.Sound →
      (s.channel ch).SameBoundary (s₁.channel ch) →
      (∀ e ∈ es, s.OperatorAtMost ch e.2.actor) → (∀ e ∈ es, ModeOrKick e.2) →
      (s.channel ch).SameBoundary ((Runs.exec channelStep s₁ es).channel ch) := by
    intro es
    induction es with
    | nil => exact fun _ _ hsame _ _ => hsame
    | cons e es ih =>
      intro s₁ hs₁ hsame hactors hes
      obtain ⟨hactor, hactors⟩ := List.forall_mem_cons.mp hactors
      obtain ⟨he, hes⟩ := List.forall_mem_cons.mp hes
      exact ih _ (hs₁.of_moves (moves_channelStep hs₁ e))
        (hsame.trans (sameBoundary_channelStep hs₁ (hsame.whole hwhole)
          (hsame.ordinary hactor.ordinary) he)) hactors hes
  exact hrun es s hs (.refl _) hactors hes

/-- Two registered clients, before anybody joined anything. -/
def twoClients : Server :=
  { Server.initial {} {} {} with
    clients := [0, 1]
    client := fun c => { id := c + 1, registered := true, user := "u".toList
                         nick := if c = 0 then "mallory".toList else "olivia".toList
                         displayHost := "host".toList }
    clientsByNick := ((ChainedTable.empty 4093 buckets_pos).set "mallory".toList 0).set
      "olivia".toList 1 }

/-- A channel whose owner (client 1) has made somebody operator (client 0). -/
def ownerAndOperator : Server :=
  Runs.exec channelStep twoClients
    [(1, .join 1 (some "#club".toList)), (2, .join 0 (some "#club".toList)),
      (3, .mode 1 (some "#club +o mallory".toList))]

theorem sound_ownerAndOperator : ownerAndOperator.Sound :=
  Sound.exec (sound_of_empty (fun _ => rfl) fun _ => rfl) _

theorem operatorAtMost_ownerAndOperator : ownerAndOperator.OperatorAtMost 0 0 := by
  have hrank : (((ownerAndOperator.channel 0).findMember 0).map
      fun m => privilegeRank m.privileges) = some 3 := by decide +kernel
  obtain ⟨m, hm, hrank⟩ := Option.map_eq_some_iff.mp hrank
  exact ⟨m, hm, hrank.le⟩

theorem whole_ownerAndOperator : (ownerAndOperator.channel 0).Whole := by
  unfold Channel.Whole
  decide +kernel

/-- The operator takes the owner's operator bit and tries to kick it: it stays the owner. -/
theorem operators_keep_boundary_deop :
    BoundaryKept (ownerAndOperator.channel 0)
      ((Runs.exec channelStep ownerAndOperator [(7, .mode 0 (some "#club -o olivia".toList)),
        (8, .kick 0 (some "#club olivia".toList))]).channel 0) := by
  refine operators_keep_boundary ownerAndOperator 0 _ sound_ownerAndOperator
    whole_ownerAndOperator ?_ ?_
  · intro e he
    simp only [List.mem_cons, List.not_mem_nil, or_false] at he
    rcases he with rfl | rfl <;> exact operatorAtMost_ownerAndOperator
  · intro e he
    simp only [List.mem_cons, List.not_mem_nil, or_false] at he
    rcases he with rfl | rfl
    · rintro target letters args hwords
      have hletters : (some "#club -o olivia".toList).bind modeWords =
          some ("#club".toList, some ("-o".toList, ["olivia".toList])) := by decide
      rw [hletters] at hwords
      cases hwords
      decide
    · trivial

/-- `MODE #club +q mallory` by the operator makes it an owner. -/
theorem operator_makes_itself_owner :
    let s := ownerAndOperator
    let s' := Runs.exec channelStep s [(7, .mode 0 (some "#club +q mallory".toList))]
    s.Sound ∧ s.OperatorAtMost 0 0 ∧
      (s.channel 0).members.map (fun m => (m.client, privilegeRank m.privileges)) =
        [(0, 3), (1, 5)] ∧
      (s'.channel 0).members.map (fun m => (m.client, privilegeRank m.privileges)) =
        [(0, 5), (1, 5)] ∧
      ¬ BoundaryKept (s.channel 0) (s'.channel 0) := by
  have hbefore : (ownerAndOperator.channel 0).members.map
      (fun m => (m.client, privilegeRank m.privileges)) = [(0, 3), (1, 5)] := by decide +kernel
  have hafter : ((Runs.exec channelStep ownerAndOperator
      [(7, .mode 0 (some "#club +q mallory".toList))]).channel 0).members.map
      (fun m => (m.client, privilegeRank m.privileges)) = [(0, 5), (1, 5)] := by decide +kernel
  refine ⟨sound_ownerAndOperator, operatorAtMost_ownerAndOperator, hbefore, hafter, fun hkept => ?_⟩
  -- the member of rank 5 that client 0 has become was there with rank 3
  have hmem : ((0, 5) : ClientRef × Nat) ∈ ((Runs.exec channelStep ownerAndOperator
      [(7, .mode 0 (some "#club +q mallory".toList))]).channel 0).members.map
      (fun m => (m.client, privilegeRank m.privileges)) := by
    rw [hafter]
    exact List.mem_cons_self
  obtain ⟨m', hm', heq⟩ := List.mem_map.mp hmem
  obtain ⟨hclient, hrank⟩ := Prod.mk.inj heq
  obtain ⟨m, hm, hc, hsame⟩ := hkept.noRise m' hm' (by omega)
  have hold : (m.client, privilegeRank m.privileges) ∈ [((0 : ClientRef), 3), (1, 5)] := by
    rw [← hbefore]
    exact List.mem_map_of_mem hm
  rw [hc, hclient, hsame, hrank] at hold
  simp at hold

end Server

end ScratchIrcd
