/-
  File:      ScratchIrcd/JoinAdmission.lean
  Subject:   What a JOIN that lets somebody in has checked, along all its redirects.

  `join_one` calls itself on the +B or +L target of a channel that refuses. The calls are followed
  from state to state: **join_admission_sound** says that only the last one lets the client in, that
  it is at most the fifth, and that every check held for the channel and the key of that call, in
  the state the client joins from.
-/
import ScratchIrcd.JoinPolicy

namespace ScratchIrcd

open CText

variable {service : ChannelPrivilegeSet} {ch : ChannelRef} {c : ClientRef} {n hops : Nat}
  {key key' : Option Text} {s t u : Server} {name hop target : Text} {params : Option Text}

namespace Server

/-! ## 1. What is checked, and where -/

/-- A ban keeps the client out: owners pass, protected accounts answer only to authorized bans. -/
def JoinBans (t : Server) (c : ClientRef) (ch : ChannelRef) : Prop :=
  .owner ∉ (t.clientPrivileges c (t.channel ch).name).1 ∧
    if .protect ∈ (t.clientPrivileges c (t.channel ch).name).1 then
      (t.channel ch).isBannedProtected (t.client c).identity = true
    else (t.channel ch).isBanned (t.client c).identity = true

/-- The channel has its key from the client, or needs none. -/
def JoinKey (t : Server) (ch : ChannelRef) (key : Option Text) : Prop :=
  (t.channel ch).key = [] ∨ key = some (t.channel ch).key

/-- There is room below the user limit. -/
def JoinRoom (t : Server) (ch : ChannelRef) : Prop :=
  (t.channel ch).userLimit = 0 ∨ (t.channel ch).memberCount < (t.channel ch).userLimit

/-- The checks of `join_one` for a client and the key it supplied. -/
structure JoinAdmits (t : Server) (c : ClientRef) (ch : ChannelRef) (key : Option Text) : Prop where
  key : t.JoinKey ch key
  unbanned : ¬ t.JoinBans c ch
  room : t.JoinRoom ch
  registered : .regonlyJoin ∈ (t.channel ch).modes → .registered ∈ (t.client c).modes
  oper : .operOnly ∈ (t.channel ch).modes → (t.client c).isOper
  admin : .adminOnly ∈ (t.channel ch).modes → .netadmin ∈ (t.client c).modes
  secure : .secureOnly ∈ (t.channel ch).modes → .secure ∈ (t.client c).modes
  /-- An invitation for this connection that was not used yet, or an exception. -/
  invited : .inviteOnly ∈ (t.channel ch).modes →
    (t.channel ch).inviteHas (t.client c).id = true ∨ (t.channel ch).isInvex (t.client c).identity = true
  unthrottled : (t.channel ch).joinThrottleAllows t.now = true

/-- The client is sent on to `target`: it is banned and that is the +B target, or there is no room
    for it and that is the +L target. -/
structure JoinSends (t : Server) (c : ClientRef) (ch : ChannelRef) (key : Option Text) (target : Text) :
    Prop where
  key : t.JoinKey ch key
  leads : (t.JoinBans c ch ∧ target = (t.channel ch).banRedirect) ∨
    (¬ t.JoinBans c ch ∧ ¬ t.JoinRoom ch ∧ target = (t.channel ch).limitRedirect)
  named : target ≠ []
  valid : channelNameValid target = true

/-- The state in which `join_one` is called on `target`. -/
def joinSent (t : Server) (c : ClientRef) (ch : ChannelRef) (target : Text) : Server :=
  (t.clientPrivileges c (t.channel ch).name).2.joinLinked c (t.channel ch).name target

/-- `n` redirects lead from a call of `join_one` on `name` in the state `s` to one on `hop` in the
    state `u`. A redirect takes no key along. -/
inductive JoinReaches (c : ClientRef) : Nat → Server → Text → Option Text → Server → Text →
    Option Text → Prop
  | here {s : Server} {name : Text} {key : Option Text} : JoinReaches c 0 s name key s name key
  | redirect {n : Nat} {s t u : Server} {name target hop : Text} {ch : ChannelRef}
      {key key' : Option Text} (hfaces : s.JoinFaces c name t ch)
      (hsends : t.JoinSends c ch key target)
      (hnext : JoinReaches c n (t.joinSent c ch target) target none u hop key') :
      JoinReaches c (n + 1) s name key u hop key'

/-- A JOIN line comes to `hop` in the state `u`, after at most four redirects; there it faces `ch`
    in the state `t` and is admitted. -/
structure JoinsBy (s : Server) (c : ClientRef) (params : Option Text) (u : Server) (hop : Text)
    (t : Server) (ch : ChannelRef) : Prop where
  reaches : ∃ name key key' n, s.joinRequest c params = some (name, key) ∧ n ≤ 4 ∧
    JoinReaches c n s name key u hop key' ∧ t.JoinAdmits c ch key'
  faces : u.JoinFaces c hop t ch

/-- What `join_one` does after the last check. -/
def joinAccept (t : Server) (c : ClientRef) (ch : ChannelRef) : Server :=
  (t.clientPrivileges c (t.channel ch).name).2.joinAdmit c ch
    (t.clientPrivileges c (t.channel ch).name).1

/-- The client is a member of a live channel. -/
def Inside (s : Server) (c : ClientRef) (ch : ChannelRef) : Prop :=
  (∃ name, s.findChannel name = some ch) ∧ s.inChannel ch c = true

/-- The client became a member. -/
def Gains (s s' : Server) (c : ClientRef) (ch : ChannelRef) : Prop :=
  s'.Inside c ch ∧ ¬ s.Inside c ch

/-! ## 2. The verdict -/

theorem joinBanned_eq_true : joinBanned (t.client c) (t.channel ch)
      (t.clientPrivileges c (t.channel ch).name).1 = true ↔ t.JoinBans c ch := by
  unfold joinBanned JoinBans
  by_cases howner : ChannelPrivilege.owner ∈ (t.clientPrivileges c (t.channel ch).name).1
  · rw [if_pos howner]
    exact iff_of_false Bool.false_ne_true fun h => h.1 howner
  · rw [if_neg howner]
    split_ifs with hprotect
    · exact ⟨fun h => ⟨howner, h⟩, fun h => h.2⟩
    · exact ⟨fun h => ⟨howner, h⟩, fun h => h.2⟩

theorem joinKey_iff : t.JoinKey ch key ↔
    (!(t.channel ch).key.isEmpty && key != some (t.channel ch).key) = false := by
  unfold JoinKey
  rw [Bool.and_eq_false_iff, Bool.not_eq_false', List.isEmpty_iff, bne_eq_false_iff_eq]

theorem joinRoom_iff : t.JoinRoom ch ↔
    ¬ ((t.channel ch).userLimit ≠ 0 ∧ (t.channel ch).userLimit ≤ (t.channel ch).memberCount) := by
  unfold JoinRoom
  omega

/-- The checks pass exactly when they all hold. -/
theorem joinVerdict_eq_allow : joinVerdict t.now (t.client c) (t.channel ch)
      (t.clientPrivileges c (t.channel ch).name).1 key hops = .allow ↔ t.JoinAdmits c ch key := by
  constructor
  · intro h
    unfold joinVerdict at h
    split_ifs at h with hkey hban _ hfull _ hreg hoper hadmin hsecure hinvite hthrottle
    refine ⟨joinKey_iff.mpr (Bool.eq_false_of_not_eq_true hkey), fun h => hban (joinBanned_eq_true.mpr h),
      joinRoom_iff.mpr hfull, not_and_not_right.mp hreg, not_and_not_right.mp hoper,
      not_and_not_right.mp hadmin, not_and_not_right.mp hsecure, ?_, by simpa using hthrottle⟩
    intro honly
    by_contra hout
    rw [not_or] at hout
    exact hinvite ⟨honly, hout⟩
  · intro h
    unfold joinVerdict
    rw [joinKey_iff.mp h.key, if_neg Bool.false_ne_true, if_neg fun hb => h.unbanned (joinBanned_eq_true.mp hb),
      if_neg (joinRoom_iff.mp h.room), if_neg (not_and_not_right.mpr h.registered),
      if_neg (not_and_not_right.mpr h.oper), if_neg (not_and_not_right.mpr h.admin),
      if_neg (not_and_not_right.mpr h.secure), if_neg, if_neg (by rw [h.unthrottled]; exact Bool.false_ne_true)]
    rintro ⟨honly, hnot⟩
    exact (h.invited honly).elim hnot.1 hnot.2

theorem redirectUsable_iff : redirectUsable target hops = true ↔
    target ≠ [] ∧ 0 < hops ∧ channelNameValid target = true := by
  unfold redirectUsable
  rw [Bool.and_eq_true, Bool.and_eq_true, Bool.not_eq_true', List.isEmpty_eq_false_iff, decide_eq_true_iff,
    and_assoc]

/-- A redirect uses up one of the calls that are left. -/
theorem joinVerdict_eq_redirect : joinVerdict t.now (t.client c) (t.channel ch)
      (t.clientPrivileges c (t.channel ch).name).1 key hops = .redirect target ↔
    0 < hops ∧ t.JoinSends c ch key target := by
  constructor
  · intro h
    unfold joinVerdict at h
    split_ifs at h with hkey hban husable hfull husable
    · obtain ⟨hne, hpos, hvalid⟩ := redirectUsable_iff.mp husable
      cases h
      exact ⟨hpos, joinKey_iff.mpr (Bool.eq_false_of_not_eq_true hkey), .inl ⟨joinBanned_eq_true.mp hban, rfl⟩,
        hne, hvalid⟩
    · obtain ⟨hne, hpos, hvalid⟩ := redirectUsable_iff.mp husable
      cases h
      exact ⟨hpos, joinKey_iff.mpr (Bool.eq_false_of_not_eq_true hkey),
        .inr ⟨fun h => hban (joinBanned_eq_true.mpr h), fun h => joinRoom_iff.mp h hfull, rfl⟩, hne, hvalid⟩
  · rintro ⟨hpos, h⟩
    have husable := redirectUsable_iff.mpr ⟨h.named, hpos, h.valid⟩
    unfold joinVerdict
    rw [joinKey_iff.mp h.key, if_neg Bool.false_ne_true]
    rcases h.leads with ⟨hban, rfl⟩ | ⟨hban, hfull, rfl⟩
    · rw [if_pos (joinBanned_eq_true.mpr hban), if_pos husable]
    · rw [if_neg fun hb => hban (joinBanned_eq_true.mp hb),
        if_pos (not_not.mp fun hroom => hfull (joinRoom_iff.mpr hroom)), if_pos husable]

/-! ## 3. One call -/

/-- How a call that gets to its checks ends. -/
theorem joinHop_of_faces (h : s.JoinFaces c name t ch) (key : Option Text) (hops : Nat) :
    s.joinHop c name key hops = t.joinDecide c ch key hops := by
  obtain ⟨created, s₁, henter, hrestore⟩ := h
  simp only [joinHop, henter, hrestore]

/-- The decision does not change what it is about. -/
theorem joinDecide_eq : t.joinDecide c ch key hops =
    match joinVerdict t.now (t.client c) (t.channel ch)
      (t.clientPrivileges c (t.channel ch).name).1 key hops with
    | .allow => .allow (t.clientPrivileges c (t.channel ch).name).2 ch
        (t.clientPrivileges c (t.channel ch).name).1
    | .redirect target => .redirect (t.joinSent c ch target) target
    | verdict => .done (match verdict.reply (t.channel ch).name with
        | some (code, params) =>
            (t.clientPrivileges c (t.channel ch).name).2.numeric c code params
        | none => (t.clientPrivileges c (t.channel ch).name).2) := rfl

theorem turned_clientPrivileges (t : Server) (c : ClientRef) (name : Text) :
    t.Turned (t.clientPrivileges c name).2 := .of_quiet (t.silent_clientPrivileges c name).toQuiet

theorem turned_joinSent (t : Server) (c : ClientRef) (ch : ChannelRef) (target : Text) :
    t.Turned (t.joinSent c ch target) :=
  (t.turned_clientPrivileges c _).trans (.of_quiet (quiet_deliver _ _))

/-- A call admits, or sends on, or lets nobody in. -/
theorem joinHop_cases (s : Server) (c : ClientRef) (name : Text) (key : Option Text) (hops : Nat) :
    (∃ t ch, s.JoinFaces c name t ch ∧ t.JoinAdmits c ch key) ∨
      (0 < hops ∧ ∃ t ch target, s.JoinFaces c name t ch ∧ t.JoinSends c ch key target) ∨
      ∃ s', s.joinHop c name key hops = .done s' ∧ s.Turned s' := by
  by_cases hfaces : ∃ t ch, s.JoinFaces c name t ch
  · obtain ⟨t, ch, hfaces⟩ := hfaces
    have hpriv := hfaces.spec.1.trans (t.turned_clientPrivileges c (t.channel ch).name)
    rw [joinHop_of_faces hfaces, joinDecide_eq]
    split
    · rename_i hverdict
      exact .inl ⟨t, ch, hfaces, joinVerdict_eq_allow.mp hverdict⟩
    · rename_i target hverdict
      obtain ⟨hpos, hsends⟩ := joinVerdict_eq_redirect.mp hverdict
      exact .inr (.inl ⟨hpos, t, ch, target, hfaces, hsends⟩)
    · refine .inr (.inr ⟨_, rfl, ?_⟩)
      split
      · exact hpriv.trans (.of_quiet (quiet_deliver _ _))
      · exact hpriv
  · refine .inr (.inr ?_)
    unfold joinHop
    split
    · rename_i s₁ henter
      exact ⟨s₁, rfl, joinEnter_none henter⟩
    · rename_i ch created s₁ henter
      split
      · rename_i s₂ hrestore
        exact ⟨s₂, rfl, (joinEnter_turned henter).trans (joinRestore_false hrestore)⟩
      · rename_i t hrestore
        exact absurd ⟨t, ch, created, s₁, henter, hrestore⟩ hfaces

theorem joinOne_of_done {s' : Server} (h : s.joinHop c name key hops = .done s') :
    joinOne c hops s name key = s' := by
  cases hops <;>
  · unfold joinOne
    rw [h]

theorem joinOne_of_admits (hfaces : s.JoinFaces c name t ch) (h : t.JoinAdmits c ch key) :
    joinOne c hops s name key = t.joinAccept c ch := by
  cases hops <;>
  · unfold joinOne
    rw [joinHop_of_faces hfaces, joinDecide_eq, joinVerdict_eq_allow.mpr h]
    rfl

theorem joinOne_of_sends (hfaces : s.JoinFaces c name t ch) (h : t.JoinSends c ch key target) :
    joinOne c (hops + 1) s name key = joinOne c hops (t.joinSent c ch target) target none := by
  unfold joinOne
  rw [joinHop_of_faces hfaces, joinDecide_eq, joinVerdict_eq_redirect.mpr ⟨Nat.succ_pos _, h⟩]
  cases hops <;> rfl

/-! ## 4. All calls -/

theorem JoinReaches.turned (h : JoinReaches c n s name key u hop key') : s.Turned u := by
  induction h with
  | here => exact .refl _
  | redirect hfaces _ _ ih => exact (hfaces.spec.1.trans (turned_joinSent ..)).trans ih

/-- Where the last of the calls admits the client, `join_one` ends there. -/
theorem joinOne_of_reaches (h : JoinReaches c n s name key u hop key') (hn : n ≤ hops)
    (hfaces : u.JoinFaces c hop t ch) (hadmits : t.JoinAdmits c ch key') :
    joinOne c hops s name key = t.joinAccept c ch := by
  induction h generalizing hops with
  | here => exact joinOne_of_admits hfaces hadmits
  | redirect hfirst hsends _ ih =>
    cases hops with
    | zero => cases hn
    | succ hops =>
      rw [joinOne_of_sends hfirst hsends]
      exact ih (Nat.le_of_succ_le_succ hn) hfaces hadmits

/-- `join_one` admits the client at the end of some redirects, or lets nobody in. By induction on
    the redirects left. -/
theorem joinOne_cases (hops : Nat) (s : Server) (name : Text) (key : Option Text) :
    (∃ n ≤ hops, ∃ u hop key' t ch, JoinReaches c n s name key u hop key' ∧
      u.JoinFaces c hop t ch ∧ t.JoinAdmits c ch key') ∨ s.Turned (joinOne c hops s name key) := by
  induction hops generalizing s name key with
  | zero =>
    rcases s.joinHop_cases c name key 0 with ⟨t, ch, hfaces, hadmits⟩ | ⟨hpos, -⟩ | ⟨s', hdone, hturned⟩
    · exact .inl ⟨0, Nat.le_refl _, s, name, key, t, ch, .here, hfaces, hadmits⟩
    · cases hpos
    · rw [joinOne_of_done hdone]
      exact .inr hturned
  | succ hops ih =>
    rcases s.joinHop_cases c name key (hops + 1) with
      ⟨t, ch, hfaces, hadmits⟩ | ⟨-, t, ch, target, hfaces, hsends⟩ | ⟨s', hdone, hturned⟩
    · exact .inl ⟨0, Nat.zero_le _, s, name, key, t, ch, .here, hfaces, hadmits⟩
    · rw [joinOne_of_sends hfaces hsends]
      rcases ih (t.joinSent c ch target) target none with ⟨n, hn, u, hop, key', t', ch', hreaches, hend⟩ | hturned
      · exact .inl ⟨n + 1, Nat.succ_le_succ hn, u, hop, key', t', ch',
          .redirect hfaces hsends hreaches, hend⟩
      · exact .inr ((hfaces.spec.1.trans (t.turned_joinSent c ch target)).trans hturned)
    · rw [joinOne_of_done hdone]
      exact .inr hturned

/-- What a JOIN line does: it is accepted where its last call admits, or it lets nobody in. -/
theorem commandJoin_cases (s : Server) (c : ClientRef) (params : Option Text) :
    (∃ u hop t ch, s.JoinsBy c params u hop t ch) ∨ s.Turned (s.commandJoin c params) := by
  cases hreq : s.joinRequest c params with
  | none =>
    exact .inr (commandJoin_induct (.refl s) (fun ds => .of_quiet (s.quiet_deliver ds))
      fun _ _ h => by rw [hreq] at h; cases h)
  | some request =>
    obtain ⟨name, key⟩ := request
    rw [commandJoin_of_request hreq]
    rcases joinOne_cases ircJoinRedirectMax s name key with
      ⟨n, hn, u, hop, key', t, ch, hreaches, hfaces, hadmits⟩ | hturned
    · exact .inl ⟨u, hop, t, ch, ⟨name, key, key', n, hreq, hn, hreaches, hadmits⟩, hfaces⟩
    · exact .inr hturned

namespace JoinsBy

variable (h : s.JoinsBy c params u hop t ch)

include h

theorem commandJoin_eq : s.commandJoin c params = t.joinAccept c ch := by
  obtain ⟨⟨name, key, key', n, hreq, hn, hreaches, hadmits⟩, hfaces⟩ := h
  rw [commandJoin_of_request hreq]
  exact joinOne_of_reaches hreaches hn hfaces hadmits

theorem turned : s.Turned u := by
  obtain ⟨⟨name, key, key', n, -, -, hreaches, -⟩, -⟩ := h
  exact hreaches.turned

end JoinsBy

/-- What accepting the client does to the channels: it is in `ch` then, under the same policy and,
    if that is +r, with nothing given by hand. -/
theorem joinAccept_spec (hout : t.inChannel ch c = false) :
    (∀ name, (t.joinAccept c ch).findChannel name = t.findChannel name) ∧
      (t.joinAccept c ch).storage.chanserv = t.storage.chanserv ∧
      (∀ ch' ≠ ch, (t.joinAccept c ch).channel ch' = t.channel ch') ∧
      (t.channel ch).SamePolicy ((t.joinAccept c ch).channel ch) ∧
      (t.joinAccept c ch).inChannel ch c = true ∧
      ((t.channel ch).isRegistered = true → ((t.joinAccept c ch).channel ch).NoManual c) := by
  have hasked := t.silent_clientPrivileges c (t.channel ch).name
  have hout' : (t.clientPrivileges c (t.channel ch).name).2.inChannel ch c = false := hout
  unfold joinAccept
  generalize (t.clientPrivileges c (t.channel ch).name).1 = service
  have hchannel : (t.clientPrivileges c (t.channel ch).name).2.channel = t.channel := rfl
  generalize (t.clientPrivileges c (t.channel ch).name).2 = t₁ at hasked hout' hchannel
  obtain ⟨hsilent, hregranted, hother⟩ := t₁.joinAdmit_spec c ch service
  obtain ⟨hpolicy, hin, hmanual⟩ := joinSeat_spec service hout'
  rw [← hchannel]
  refine ⟨fun name => ?_, ?_, fun ch' hne => ?_, hpolicy.trans hregranted.samePolicy, ?_, fun hreg => ?_⟩
  · rw [hsilent.toQuiet.findChannel, findChannel_joinSeat, hasked.toQuiet.findChannel]
  · rw [hsilent.onlyRead.chanserv, storage_joinSeat, hasked.onlyRead.chanserv]
  · rw [hother ch' hne, inChannel_joinSeat_of_ne t₁ service hne]
  · rw [hsilent.toQuiet.inChannel]
    exact hin
  · exact hregranted.noManual (hmanual hreg c (Channel.noManual_of_out hout'))

theorem Turned.inside {s' : Server} (h : s.Turned s') (hok : s.ChannelsOk) (hin : s'.Inside c ch) :
    s.Inside c ch := by
  obtain ⟨⟨name, hfind⟩, hin⟩ := hin
  obtain ⟨hfind, hin⟩ := h.noNew hok hfind hin
  exact ⟨⟨name, hfind⟩, hin⟩

/-- The call that lets the client in lets it into nothing else. -/
theorem JoinsBy.eq_of_gains {ch' : ChannelRef} (h : s.JoinsBy c params u hop t ch) (hok : s.ChannelsOk)
    (hgain : s.Gains (s.commandJoin c params) c ch') : ch' = ch := by
  obtain ⟨hturned, -, hout⟩ := h.faces.spec
  obtain ⟨hfind, -, hother, -⟩ := joinAccept_spec hout
  obtain ⟨⟨⟨name, hlive⟩, hin⟩, hnew⟩ := hgain
  by_contra hne
  rw [h.commandJoin_eq] at hlive hin
  rw [hfind] at hlive
  rw [Server.inChannel, hother ch' hne] at hin
  exact hnew ((h.turned.trans hturned).inside hok ⟨⟨name, hlive⟩, hin⟩)

/-! ## 5. The command -/

/-- **JOIN admits soundly.** Whatever the state and the request, the client becomes a member of at
    most one channel. A channel it becomes a member of was reached from the requested one by at
    most four redirects, every check held there for the key that came along, and the state in which
    they held is the one it joins from. -/
theorem join_admission_sound (s : Server) (c : ClientRef) (params : Option Text)
    (hok : s.ChannelsOk) :
    (∀ ch ch', s.Gains (s.commandJoin c params) c ch → s.Gains (s.commandJoin c params) c ch' →
      ch = ch') ∧
    ∀ ch, s.Gains (s.commandJoin c params) c ch →
      ∃ name key, s.joinRequest c params = some (name, key) ∧ ∃ n ≤ 4, ∃ u hop key' t,
        JoinReaches c n s name key u hop key' ∧ u.JoinFaces c hop t ch ∧ t.JoinAdmits c ch key' ∧
          s.commandJoin c params = t.joinAccept c ch := by
  rcases commandJoin_cases s c params with ⟨u, hop, t, ch, h⟩ | hturned
  · refine ⟨fun ch₁ ch₂ h₁ h₂ => (h.eq_of_gains hok h₁).trans (h.eq_of_gains hok h₂).symm,
      fun ch' hgain => ?_⟩
    rw [h.eq_of_gains hok hgain]
    have heq := h.commandJoin_eq
    obtain ⟨⟨name, key, key', n, hreq, hn, hreaches, hadmits⟩, hfaces⟩ := h
    exact ⟨name, key, hreq, n, hn, u, hop, key', t, hreaches, hfaces, hadmits, heq⟩
  · have hnone : ∀ ch, ¬ s.Gains (s.commandJoin c params) c ch :=
      fun ch hgain => hgain.2 (hturned.inside hok hgain.1)
    exact ⟨fun ch _ h => absurd h (hnone ch), fun ch h => absurd h (hnone ch)⟩

/-- #lobby bans everybody called mallory and sends them on to #den, which is invite-only and has an
    invitation for connection 1. Somebody else is in both. -/
def lobbyAndDen : Server :=
  { Server.initial {} {} {} with
    clients := [0, 1]
    client := fun c => { id := c + 1, registered := true, user := "u".toList, displayHost := "h".toList
                         nick := if c = 0 then "mallory".toList else "ann".toList
                         channels := if c = 0 then [] else [0, 1] }
    channelsByName := ((ChainedTable.empty 4093 buckets_pos).set "#lobby".toList 0).set "#den".toList 1
    channel := fun ch =>
      if ch = 0 then Channel.addMember { name := "#lobby".toList, banRedirect := "#den".toList
                                         banList := [{ mask := "mallory!*@*".toList }] } 1
      else Channel.addMember { name := "#den".toList, modes := {.inviteOnly}, invites := [1] } 1
    nextChannel := 2
    channelCount := 2 }

theorem channelsOk_lobbyAndDen : lobbyAndDen.ChannelsOk := by
  have hfound : ∀ {name ch}, lobbyAndDen.findChannel name = some ch →
      (nameEq "#den".toList name = true ∧ ch = 1) ∨ (nameEq "#lobby".toList name = true ∧ ch = 0) := by
    intro name ch h
    rw [findChannel, lobbyAndDen, ChainedTable.get_set, ChainedTable.get_set] at h
    split at h
    · rename_i heq
      exact .inl ⟨heq, (Option.some.inj h).symm⟩
    · split at h
      · rename_i heq
        exact .inr ⟨heq, (Option.some.inj h).symm⟩
      · cases h
  refine ⟨fun h => ?_, fun h => ?_, fun h => ?_⟩ <;> obtain ⟨hname, rfl⟩ | ⟨hname, rfl⟩ := hfound h
  · exact hname
  · exact hname
  all_goals decide

/-- A JOIN that is redirected to an invite-only channel, with the invitation. -/
theorem join_admission_sound_den :
    lobbyAndDen.Gains (lobbyAndDen.commandJoin 0 (some "#lobby".toList)) 0 1 ∧
      ∃ name key, lobbyAndDen.joinRequest 0 (some "#lobby".toList) = some (name, key) ∧
        ∃ n ≤ 4, ∃ u hop key' t, JoinReaches 0 n lobbyAndDen name key u hop key' ∧
          u.JoinFaces 0 hop t 1 ∧ t.JoinAdmits 0 1 key' ∧
          lobbyAndDen.commandJoin 0 (some "#lobby".toList) = t.joinAccept 0 1 := by
  have hgain : lobbyAndDen.Gains (lobbyAndDen.commandJoin 0 (some "#lobby".toList)) 0 1 := by
    refine ⟨⟨⟨"#den".toList, by decide +kernel⟩, by decide +kernel⟩, fun h => ?_⟩
    exact absurd h.2 (by decide +kernel)
  exact ⟨hgain, (join_admission_sound lobbyAndDen 0 _ channelsOk_lobbyAndDen).2 1 hgain⟩

end Server

end ScratchIrcd
