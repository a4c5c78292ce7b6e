/-
  File:      ScratchIrcd/NickAnnounce.lean
  Subject:   Who is told about a change of nickname: `broadcast_nick_change` of
             src/commands/nick.c and `recover_rename` of src/nickserv.c.

  NICK walks the clients and asks of each whether it shares a channel, then tells the client
  itself: everybody concerned once. RECOVER walks the channels of the renamed session and tells
  all members of each, the session included: once per channel that is shared.
-/
import ScratchIrcd.ReservedNicks

namespace ScratchIrcd

open CText

variable {ds : List (ClientRef × Line)} {params : Option Text} {s'' : Server} {command : Text}

variable {c target : ClientRef} {l : Line}

/-- A NICK line. -/
def Line.isNick (l : Line) : Bool :=
  match l.body with
  | .nick _ => true
  | _ => false

namespace Server

/-! ## 1. NICK lines to a client -/

/-- The NICK lines a client gets on the way from `s` to `s'`. -/
def nickLines (s s' : Server) (r : ClientRef) : List Line := (s.linesTo s' r).filter Line.isNick

variable {s s' : Server}

theorem nickLines_self (s : Server) (r : ClientRef) : s.nickLines s r = [] := by
  unfold nickLines
  rw [linesTo_self]
  rfl

theorem nickLines_of_out (h : s''.out = s'.out) (r : ClientRef) :
    s.nickLines s'' r = s.nickLines s' r := by
  unfold nickLines
  rw [linesTo_of_out h]

section

variable (h : s.out <+: s'.out) (ds : List (ClientRef × Line))
include h

/-- What is said later comes after what was said before. -/
theorem linesTo_deliver_append (r : ClientRef) :
    s.linesTo (s'.deliver ds) r = s.linesTo s' r ++ (ds.filter fun d => d.1 == r).map (·.2) := by
  obtain ⟨said, hsaid⟩ := h
  unfold linesTo deliver
  rw [← hsaid]
  simp [List.filter_map, Function.comp_def]

theorem prefix_deliver :
    s.out <+: (s'.deliver ds).out :=
  h.trans (List.prefix_append _ _)

theorem nickLines_deliver (r : ClientRef) :
    s.nickLines (s'.deliver ds) r = s.nickLines s' r ++
      ((ds.filter fun d => d.1 == r).map (·.2)).filter Line.isNick := by
  unfold nickLines
  rw [linesTo_deliver_append h, List.filter_append]

end

/-- Other lines do not count. -/
theorem nickLines_deliver_other (h : s.out <+: s'.out) (hds : ∀ d ∈ ds, d.2.isNick = false)
    (r : ClientRef) : s.nickLines (s'.deliver ds) r = s.nickLines s' r := by
  rw [nickLines_deliver h, List.append_right_eq_self, List.filter_eq_nil_iff]
  intro l hl
  obtain ⟨d, hd, rfl⟩ := List.mem_map.mp hl
  rw [hds d (List.mem_of_mem_filter hd)]
  exact Bool.false_ne_true

/-! ## 2. Presence says nothing of the kind -/

/-- From here to there nobody is told of a nickname. -/
structure NickQuiet (s s' : Server) : Prop where
  grows : ∀ {s₀ : Server}, s₀.out <+: s.out → s₀.out <+: s'.out
  lines : ∀ {s₀ : Server}, s₀.out <+: s.out → ∀ r, s₀.nickLines s' r = s₀.nickLines s r

namespace NickQuiet

theorem refl (s : Server) : s.NickQuiet s := ⟨fun h => h, fun _ _ => rfl⟩

theorem trans {a b c : Server} (h₁ : a.NickQuiet b) (h₂ : b.NickQuiet c) : a.NickQuiet c where
  grows h := h₂.grows (h₁.grows h)
  lines h r := (h₂.lines (h₁.grows h) r).trans (h₁.lines h r)

theorem of_out (h : s'.out = s.out) : s.NickQuiet s' where
  grows hs := h ▸ hs
  lines _ r := nickLines_of_out h r

theorem deliver (hds : ∀ d ∈ ds, d.2.isNick = false) :
    s.NickQuiet (s.deliver ds) where
  grows h := prefix_deliver h ds
  lines h r := nickLines_deliver_other h hds r

end NickQuiet

theorem nickQuiet_send (s : Server) (c : ClientRef) (h : l.isNick = false) :
    s.NickQuiet (s.send c l) :=
  .deliver fun d hd => by rw [List.mem_singleton.mp hd]; exact h

theorem nickQuiet_serviceNotice (s : Server) (service : String) (c : ClientRef) (text : Text) :
    s.NickQuiet (s.serviceNotice service c text) :=
  s.nickQuiet_send c rfl

theorem nickQuiet_whowasRecord (s : Server) (c : ClientRef) (nick : Text) :
    s.NickQuiet (s.whowasRecord c nick) := by
  unfold whowasRecord
  dsimp only
  split <;> exact .of_out rfl

theorem nickQuiet_watchOffline (s : Server) (c : ClientRef) (nick : Text) :
    s.NickQuiet (s.watchOffline c nick) := by
  unfold watchOffline
  split
  · exact .refl s
  · refine .deliver fun d hd => ?_
    obtain ⟨r, -, rfl⟩ := List.mem_map.mp hd
    rfl

theorem nickQuiet_watchOnline (s : Server) (c : ClientRef) : s.NickQuiet (s.watchOnline c) := by
  unfold watchOnline
  dsimp only
  split
  · exact .refl s
  · have hhook : s.NickQuiet { s with freeHook := .presence } := .of_out rfl
    refine hhook.trans (.deliver fun d hd => ?_)
    obtain ⟨r, -, rfl⟩ := List.mem_map.mp hd
    rfl

theorem nickQuiet_pmstats (s : Server) (code : Nat) (text : List Field) :
    s.NickQuiet (s.pmstats code text) :=
  .deliver fun d hd => by
    obtain ⟨r, -, rfl⟩ := List.mem_map.mp hd
    rfl

/-! ## 3. The announcement -/

/-- The line about a change of nickname. -/
def nickLine (s : Server) (c : ClientRef) (nick : Text) : Line := ⟨s.userSource c, .nick nick⟩

/-- The client and everybody who shares a channel with it get the line once, and nobody else a
    NICK line. -/
def AnnouncedOnce (s s' : Server) (c : ClientRef) : Prop :=
  ∀ r ∈ s.clients, s.nickLines s' r =
    if r = c ∨ s.shareChannel c r = true then [s.nickLine c (s'.client c).nick] else []

/-- The lines of one announcement to a list of clients. -/
theorem nickLines_announce (h : s.out <+: s'.out) (rs : List ClientRef) (hl : l.isNick = true)
    (r : ClientRef) :
    s.nickLines (s'.deliver (rs.map fun x => (x, l))) r =
      s.nickLines s' r ++ List.replicate (rs.count r) l := by
  rw [nickLines_deliver h]
  congr 1
  induction rs with
  | nil => rfl
  | cons x rs ih =>
    by_cases hx : x = r
    · subst hx
      simp only [List.map_cons, List.filter_cons, beq_self_eq_true, if_true, hl, ih,
        List.count_cons_self, List.replicate_succ]
    · have hne : (x == r) = false := beq_eq_false_iff_ne.mpr hx
      simp only [List.map_cons, List.filter_cons, hne, Bool.false_eq_true, if_false, ih,
        List.count_cons_of_ne hx]

/-! ## 4. NICK -/

/-- `broadcast_nick_change` reaches a client once if it is concerned. -/
theorem count_concerned (hnodup : s.clients.Nodup) {r : ClientRef} (hr : r ∈ s.clients) :
    ((s.clients.filter fun x => x != c && s.shareChannel c x) ++ [c]).count r =
      if r = c ∨ s.shareChannel c r = true then 1 else 0 := by
  rw [List.count_append]
  by_cases hrc : r = c
  · subst hrc
    have hout : ((s.clients.filter fun x => x != r && s.shareChannel r x)).count r = 0 :=
      List.count_eq_zero.mpr fun hmem => by simpa using (List.mem_filter.mp hmem).2
    rw [hout, List.count_singleton_self, if_pos (.inl rfl)]
  · have hself : List.count r [c] = 0 := List.count_eq_zero.mpr fun hmem => hrc (List.mem_singleton.mp hmem)
    have hfilter := hnodup.filter fun x => x != c && s.shareChannel c x
    rw [hself, Nat.add_zero]
    by_cases hshare : s.shareChannel c r = true
    · rw [if_pos (.inr hshare)]
      exact List.count_eq_one_of_mem hfilter (List.mem_filter.mpr ⟨hr, by simp [hrc, hshare]⟩)
    · rw [if_neg (by simp [hrc, hshare])]
      exact List.count_eq_zero.mpr fun hmem => hshare (by simpa [hrc] using (List.mem_filter.mp hmem).2)

/-- The presence of the old nickname leaves the clients and the channels alone. -/
theorem goneOffline_frame (s : Server) (c : ClientRef) (nick : Text) :
    ((s.whowasRecord c nick).watchOffline c nick).client = s.client ∧
      ((s.whowasRecord c nick).watchOffline c nick).channel = s.channel ∧
      ((s.whowasRecord c nick).watchOffline c nick).clients = s.clients := by
  have hrecord : (s.whowasRecord c nick).client = s.client ∧ (s.whowasRecord c nick).channel = s.channel ∧
      (s.whowasRecord c nick).clients = s.clients := by
    unfold whowasRecord
    dsimp only
    split <;> exact ⟨rfl, rfl, rfl⟩
  unfold watchOffline
  split <;> exact hrecord

/-- **NICK announces the change once.** -/
theorem announcedOnce_changeNick (hnodup : s.clients.Nodup) (c : ClientRef) (nick : Text) :
    s.AnnouncedOnce (s.changeNick c nick) c := by
  intro r hr
  obtain ⟨hclient, hchannel, hclients⟩ := s.goneOffline_frame c (s.client c).nick
  have hgone : s.NickQuiet ((s.whowasRecord c (s.client c).nick).watchOffline c (s.client c).nick) :=
    (s.nickQuiet_whowasRecord c _).trans (nickQuiet_watchOffline _ c _)
  unfold changeNick
  dsimp only
  generalize (s.whowasRecord c (s.client c).nick).watchOffline c (s.client c).nick = s₁ at *
  -- the state in which the change is announced
  have hshare : ∀ x, (s₁.takeNick c nick).shareChannel c x = s.shareChannel c x := by
    intro x
    have hchannels : ((s₁.takeNick c nick).client c).channels = (s.client c).channels := by
      unfold takeNick
      rw [updClient_self]
      exact congrArg (fun f => (f c).channels) hclient
    have hin : (s₁.takeNick c nick).inChannel = s.inChannel := by
      funext ch y
      exact congrArg (fun f => (f ch).hasClient y) hchannel
    unfold shareChannel
    rw [hchannels, hin]
  have htaken : s.NickQuiet (s₁.takeNick c nick) := hgone.trans (.of_out rfl)
  have hself : (s₁.takeNick c nick).client c = { s.client c with nick := nick } := by
    unfold takeNick
    rw [updClient_self]
    exact congrArg (fun f => { f c with nick := nick }) hclient
  have hlists : (s₁.takeNick c nick).clients = s.clients := hclients
  generalize s₁.takeNick c nick = s₂ at *
  have hline : (⟨.user c (s.client c).nick (s₂.client c).user (s₂.client c).displayHost,
      .nick (s₂.client c).nick⟩ : Line) = s.nickLine c nick := by
    rw [hself]
    rfl
  have hnow : ((((s₂.broadcastNickChange c (s.client c).nick).watchOnline c).pmstats 802
      [(':' :: (s.client c).nick ++ ' ' :: nick : Text)]).client c).nick = nick := by
    have hsame : (((s₂.broadcastNickChange c (s.client c).nick).watchOnline c).pmstats 802
        [(':' :: (s.client c).nick ++ ' ' :: nick : Text)]).client = s₂.client :=
      client_watchOnline _ c
    rw [hsame, hself]
  have hafter := (nickQuiet_watchOnline (s₂.broadcastNickChange c (s.client c).nick) c).trans
    (nickQuiet_pmstats _ 802 [(':' :: (s.client c).nick ++ ' ' :: nick : Text)])
  have hbefore : s.out <+: s₂.out := htaken.grows (List.prefix_refl _)
  have hsaid : s.nickLines (s₂.broadcastNickChange c (s.client c).nick) r =
      List.replicate (if r = c ∨ s.shareChannel c r = true then 1 else 0) (s.nickLine c nick) := by
    unfold broadcastNickChange
    dsimp only
    rw [hline, nickLines_announce hbefore _ rfl, htaken.lines (List.prefix_refl _), nickLines_self,
      List.nil_append, hlists, funext hshare, count_concerned hnodup hr]
  rw [hnow, hafter.lines (prefix_deliver hbefore _), hsaid]
  split <;> rfl

/-! ## 5. RECOVER -/

theorem count_memberRefs (s : Server) (ch : ChannelRef) (r : ClientRef) :
    (s.memberRefs ch).count r = if s.inChannel ch r = true then 1 else 0 := by
  have hmem : s.inChannel ch r = true ↔ r ∈ s.memberRefs ch := Channel.hasClient_iff _ _
  split
  · rename_i hin
    exact List.count_eq_one_of_mem (s.channel ch).members_nodup (hmem.mp hin)
  · rename_i hout
    exact List.count_eq_zero.mpr fun h => hout (hmem.mpr h)

/-- One line to the members of each channel in turn: one for each channel a client is in. -/
theorem nickLines_broadcasts (hl : l.isNick = true) (r : ClientRef) (chs : List ChannelRef) :
    ∀ {s' : Server}, s.out <+: s'.out →
      s.out <+: (chs.foldl (fun s ch => s.broadcast ch none l) s').out ∧
      s.nickLines (chs.foldl (fun s ch => s.broadcast ch none l) s') r =
        s.nickLines s' r ++ List.replicate (chs.countP fun ch => s'.inChannel ch r) l := by
  induction chs with
  | nil =>
    intro s' h
    exact ⟨h, (List.append_nil _).symm⟩
  | cons ch chs ih =>
    intro s' h
    have heverybody : (s'.memberRefs ch).filter (fun x => some x != none) = s'.memberRefs ch :=
      List.filter_eq_self.mpr fun _ _ => rfl
    have hone : s.nickLines (s'.broadcast ch none l) r =
        s.nickLines s' r ++ List.replicate (if s'.inChannel ch r = true then 1 else 0) l := by
      unfold broadcast
      rw [heverybody, nickLines_announce h _ hl, count_memberRefs]
    have hsaid : s.out <+: (s'.broadcast ch none l).out := prefix_deliver h _
    obtain ⟨hgrows, hrest⟩ := ih hsaid
    refine ⟨hgrows, ?_⟩
    rw [List.foldl_cons, hrest, hone, List.append_assoc, List.replicate_append_replicate,
      List.countP_cons, Nat.add_comm]
    rfl

theorem client_broadcasts (l : Line) (chs : List ChannelRef) (s : Server) :
    (chs.foldl (fun s ch => s.broadcast ch none l) s).client = s.client :=
  List.foldlRecOn chs _ (motive := fun s' : Server => s'.client = s.client) rfl fun _ h _ _ => h

/-- What a successful `recover_rename` does. -/
theorem recoverRename_spec (hfree : (s.findNick (s.guestNick target)).isSome = false) :
    (s.recoverRename target).1 = true ∧ s.out <+: (s.recoverRename target).2.out ∧
      (s.recoverRename target).2.client =
        Function.update s.client target { s.client target with nick := s.guestNick target } ∧
      ∀ r, s.nickLines (s.recoverRename target).2 r =
        List.replicate ((s.client target).channels.countP fun ch => s.inChannel ch r)
          (s.nickLine target (s.guestNick target)) := by
  have hdef : s.recoverRename target = (true,
      (((s.rename target (s.guestNick target)).client target).channels.foldl
        (fun s' ch => s'.broadcast ch none (s.nickLine target (s.guestNick target)))
        (s.rename target (s.guestNick target))).serviceNotice "NickServ" target
          ("Your nickname was recovered by its registered owner; you are now ".toList ++
            s.guestNick target ++ ['.'])) := by
    unfold recoverRename
    dsimp only
    rw [hfree]
    rfl
  have hchannels : ((s.rename target (s.guestNick target)).client target).channels =
      (s.client target).channels := by
    unfold rename
    rw [updClient_self]
  rw [hdef, hchannels]
  have hstart : s.out <+: (s.rename target (s.guestNick target)).out := List.prefix_refl _
  refine ⟨rfl, ?_, ?_, fun r => ?_⟩
  · exact prefix_deliver (nickLines_broadcasts rfl 0 _ hstart).1 _
  · exact client_broadcasts _ _ _
  · obtain ⟨hgrows, hlines⟩ := nickLines_broadcasts (l := s.nickLine target (s.guestNick target)) rfl r
      (s.client target).channels hstart
    have hnotice := nickQuiet_serviceNotice ((s.client target).channels.foldl
      (fun s' ch => s'.broadcast ch none (s.nickLine target (s.guestNick target)))
      (s.rename target (s.guestNick target))) "NickServ" target
        ("Your nickname was recovered by its registered owner; you are now ".toList ++
          s.guestNick target ++ ['.'])
    have hrenamed : s.nickLines (s.rename target (s.guestNick target)) r = s.nickLines s r :=
      nickLines_of_out rfl r
    rw [hnotice.lines hgrows, hlines, hrenamed, nickLines_self, List.nil_append]
    rfl

/-- `s'` is `s` with the session renamed and announced to its channels one after the other. -/
structure Recovered (s s' : Server) (target : ClientRef) : Prop where
  grows : s.out <+: s'.out
  client : s'.client = Function.update s.client target
    { s.client target with nick := s.guestNick target }
  lines : ∀ r, s.nickLines s' r = List.replicate
    ((s.client target).channels.countP fun ch => s.inChannel ch r) (s.nickLine target (s.guestNick target))

theorem Recovered.quiet (h : s.Recovered s' target) (hquiet : s'.NickQuiet s'')
    (hclient : s''.client = s'.client) : s.Recovered s'' target where
  grows := hquiet.grows h.grows
  client := hclient.trans h.client
  lines r := (hquiet.lines h.grows r).trans (h.lines r)

theorem recovered_recoverTarget (s : Server) (d target : ClientRef) (kill : Bool) :
    s.SameHolders (s.recoverTarget d target kill false) ∨
      kill = false ∧ s.Recovered (s.recoverTarget d target kill false) target := by
  unfold recoverTarget
  cases kill with
  | true => exact .inl ((s.sameHolders_disconnect target _).deliver _)
  | false =>
    rw [if_neg Bool.false_ne_true]
    cases hfree : (s.findNick (s.guestNick target)).isSome with
    | true =>
      have hfailed : s.recoverRename target = (false, s) := by
        unfold recoverRename
        dsimp only
        rw [hfree]
        rfl
      rw [hfailed]
      exact .inl ((SameHolders.refl s).deliver _)
    | false =>
      obtain ⟨hok, hgrows, hclient, hlines⟩ := recoverRename_spec hfree
      have hrenamed : s.Recovered (s.recoverRename target).2 target := ⟨hgrows, hclient, hlines⟩
      have hpair : s.recoverRename target = (true, (s.recoverRename target).2) := Prod.ext hok rfl
      rw [hpair]
      exact .inr ⟨rfl, hrenamed.quiet (nickQuiet_serviceNotice _ "NickServ" d _) rfl⟩

/-- RECOVER renames the session it is about, or nobody. -/
theorem recovered_nickservRecover (s : Server) (d : ClientRef) (rest : Text)
    (hcommand : isWord command "RECOVER" = true) :
    s.SameHolders (s.nickservRecover d rest false) ∨ ∃ target,
      s.recoverTargetBefore command rest = some target ∧
        s.Recovered (s.nickservRecover d rest false) target := by
  have said : ∀ ds, s.SameHolders (s.deliver ds) := fun ds => (SameHolders.refl s).deliver ds
  unfold recoverTargetBefore nickservRecover
  dsimp only
  split
  · exact .inl (said _)
  rename_i nick action hwords
  split
  · exact .inl (said _)
  rename_i hform
  obtain ⟨storage, hread⟩ := s.sameHolders_recoverAuthorized d nick
  have hsame : s.SameHolders { s with storage := storage } := (SameHolders.refl s).congr rfl rfl rfl
  generalize s.recoverAuthorized d nick = res at hread
  obtain ⟨_ | _, s₁⟩ := res
  all_goals
    obtain rfl : s₁ = _ := hread
    dsimp only
  · exact .inl (hsame.deliver _)
  split
  · exact .inl (hsame.deliver _)
  rename_i target hfind
  split
  · exact .inl (hsame.deliver _)
  rcases recovered_recoverTarget { s with storage := storage } d target
    (false || ((strtokSpace action).map (·.1)).any fun a => isWord a "KILL") with hkept | ⟨hkill, hrenamed⟩
  · exact .inl (hsame.trans hkept)
  · -- no second word: any but KILL is refused
    have hnone : (strtokSpace action).isNone = true := by
      rw [Bool.false_or] at hkill
      rw [hkill] at hform
      simpa using hform
    refine .inr ⟨target, ?_, ?_⟩
    · rw [hcommand, hnone, Bool.and_self, if_pos rfl]
      exact hfind
    · exact ⟨hrenamed.grows, hrenamed.client, hrenamed.lines⟩

theorem Recovered.recoverDone (h : s.Recovered s' target) (about : Option (ClientRef × Text)) :
    s.Recovered (s'.recoverDone about) target := by
  unfold Server.recoverDone
  split
  · exact h
  rename_i r old
  unfold recoverPresenceAfter
  split
  · exact h
  · have hclient : (((s'.whowasRecord r old).watchOffline r old).watchOnline r).client = s'.client :=
      (client_watchOnline _ r).trans (s'.goneOffline_frame r old).1
    exact h.quiet (((s'.nickQuiet_whowasRecord r old).trans (nickQuiet_watchOffline _ r old)).trans
      (nickQuiet_watchOnline _ r)) hclient

/-- A RECOVER renames the session it is about, or nobody. -/
theorem recovered_commandNickserv (s : Server) (d : ClientRef) {rest : Text}
    (hwords : nickservWords params = some (command, rest))
    (hcommand : isWord command "RECOVER" = true) :
    s.SameHolders (s.commandNickserv d params) ∨
      ∃ target, s.recovered params = some target ∧ s.Recovered (s.commandNickserv d params) target := by
  rw [commandNickserv_recover s d hwords hcommand, recovered, hwords, Option.bind_some]
  split
  · unfold nickservServe
    dsimp only
    rw [nickservHandleMessage_recover s d hcommand]
    rcases s.recovered_nickservRecover d rest hcommand with hkept | ⟨target, hbefore, hrenamed⟩
    · left
      have hdone := hkept.trans (sameHolders_recoverDone (s.nickservRecover d rest false)
        ((s.recoverTargetBefore command rest).map fun r => (r, (s.client r).nick)))
      split
      · exact hdone.trans (sameHolders_registrationDone _ d _)
      split
      · exact hdone.trans (sameHolders_accountChanged _ d)
      · exact hdone
    · right
      refine ⟨target, hbefore, ?_⟩
      have hdone := hrenamed.recoverDone
        ((s.recoverTargetBefore command rest).map fun r => (r, (s.client r).nick))
      -- nobody's account changed
      have haccount : (((s.nickservRecover d rest false).recoverDone
          ((s.recoverTargetBefore command rest).map fun r => (r, (s.client r).nick))).client d).accountName =
          (s.client d).accountName := by
        rw [hdone.client]
        by_cases hd : d = target
        · subst hd
          rw [Function.update_self]
        · rw [Function.update_of_ne hd]
      rw [haccount]
      cases hempty : (s.client d).accountName.isEmpty
      · exact hdone
      · exact hdone
  · exact .inl ((SameHolders.refl s).deliver _)

end Server

/-! ## 6. Both ways -/

/-- How a client comes by another nickname: its own NICK, or somebody's RECOVER. -/
inductive Renaming where
  | nick (params : Option Text)
  | recover (owner : ClientRef) (params : Option Text)
      (isRecover : ∃ words ∈ Server.nickservWords params, isWord words.1 "RECOVER" = true)

namespace Renaming

/-- The server after it. -/
def run (n : Network) (c : ClientRef) : Renaming → Server
  | .nick params => (n.nick c params).server
  | .recover owner params _ => n.server.commandNickserv owner params

def byRecover : Renaming → Bool
  | .nick _ => false
  | .recover _ _ _ => true

end Renaming

namespace Server

variable {s s' : Server}

/-- Every channel of a client has it as a member. -/
theorem countP_own_channels (hs : s.Sound) (c : ClientRef) :
    (s.client c).channels.countP (fun ch => s.inChannel ch c) = (s.client c).channels.length := by
  rw [List.countP_eq_length]
  intro ch hch
  have hlive : s.findChannel (s.channel ch).name = some ch := Roster.Sound.live hs hch
  exact (Channel.hasClient_iff _ _).mpr ((hs.linked hlive c).mp hch)

/-- **RECOVER announces the change once exactly when the session is in one channel.** -/
theorem Recovered.announcedOnce_iff (hs : s.Sound) (hc : c ∈ s.clients) (h : s.Recovered s' c) :
    s.AnnouncedOnce s' c ↔ (s.client c).channels.length = 1 := by
  have hnow : (s'.client c).nick = s.guestNick c := by
    rw [h.client, Function.update_self]
  unfold AnnouncedOnce
  rw [hnow]
  constructor
  · intro hall
    have hself := hall c hc
    rw [h.lines, countP_own_channels hs, if_pos (.inl rfl)] at hself
    simpa using congrArg List.length hself
  · intro hone r _
    obtain ⟨ch, hch⟩ := List.length_eq_one_iff.mp hone
    have hself := countP_own_channels hs c
    have hmem : r = c → s.inChannel ch r = true := by
      rintro rfl
      rw [hch] at hself
      simpa using hself
    have hshare : s.shareChannel c r = s.inChannel ch r := by
      unfold shareChannel
      rw [hch]
      simp
    rw [h.lines, hch, hshare]
    cases hin : s.inChannel ch r with
    | true => simp [hin]
    | false =>
      have hne : r ≠ c := fun hrc => by rw [hmem hrc] at hin; cases hin
      simp [hin, hne]

end Server

namespace Network

/-- NICK of a registered client that changes its nickname. -/
theorem nick_eq_changeNick {n : Network} (hreg : (n.server.client c).registered = true)
    (hnick : (n.server.client c).nick ≠ [])
    (hchange : ((n.nick c params).server.client c).nick ≠ (n.server.client c).nick) :
    ∃ wanted, (n.nick c params).server = n.server.changeNick c wanted := by
  have hempty : (n.server.client c).nick.isEmpty = false := List.isEmpty_eq_false_iff.mpr hnick
  unfold nick at hchange ⊢
  dsimp only at hchange ⊢
  split at hchange
  · exact absurd rfl hchange
  rename_i text _
  split at hchange
  · exact absurd rfl hchange
  split at hchange
  · exact absurd rfl hchange
  split at hchange
  · exact absurd rfl hchange
  rename_i hvalid hreserved hused
  refine ⟨text.takeWhile (· != ' '), ?_⟩
  rw [if_neg hvalid, if_neg hreserved, if_neg hused, if_pos hreg, hempty]
  rfl

/-- **A change of nickname is announced once to everybody concerned, and to nobody else, exactly
    when it is a NICK, or a RECOVER of a session that is in one channel.** -/
theorem nick_announced_iff {n : Network} (hs : n.server.Sound) (hnodup : n.server.clients.Nodup)
    {c : ClientRef} (hc : c ∈ n.server.clients) (hreg : (n.server.client c).registered = true)
    (hnick : (n.server.client c).nick ≠ []) (e : Renaming)
    (hchange : ((e.run n c).client c).nick ≠ (n.server.client c).nick) :
    n.server.AnnouncedOnce (e.run n c) c ↔
      (e.byRecover = true → (n.server.client c).channels.length = 1) := by
  cases e with
  | nick params =>
    obtain ⟨wanted, heq⟩ := nick_eq_changeNick hreg hnick hchange
    have hrun : (Renaming.nick params).run n c = n.server.changeNick c wanted := heq
    rw [hrun]
    exact iff_of_true (Server.announcedOnce_changeNick hnodup c wanted) fun h => by cases h
  | recover owner params isRecover =>
    obtain ⟨⟨command, rest⟩, hwords, hcommand⟩ := isRecover
    rcases n.server.recovered_commandNickserv owner hwords hcommand with hkept | ⟨target, -, hrenamed⟩
    · exact absurd (hkept.nick c) hchange
    · have htarget : target = c := by
        by_contra hne
        refine hchange ?_
        have hclient := hrenamed.client
        show ((n.server.commandNickserv owner params).client c).nick = _
        rw [hclient, Function.update_of_ne (Ne.symm hne)]
      subst htarget
      exact (hrenamed.announcedOnce_iff hs hc).trans ⟨fun h _ => h, fun h => h rfl⟩

/-- Client 1 goes by the name of client 0's account and has joined these channels. -/
def annIn (names : List String) : Network :=
  { annTwice [] with
    server := Runs.exec Server.channelStep (annTwice []).server
      (names.map fun name => (1, .join 1 (some name.toList))) }

theorem sound_annIn (names : List String) : (annIn names).server.Sound := by
  refine Server.Sound.exec (Server.sound_of_empty (fun _ => rfl) fun c => ?_) _
  by_cases hc : c = 0
  · subst hc
    rfl
  · have hother : (annTwice []).server.client c = { id := 2, registered := true, nick := "ann".toList } :=
      if_neg hc
    rw [hother]

/-- RECOVER of a session in one channel. -/
theorem nick_announced_iff_ann :
    (annIn ["#a"]).server.AnnouncedOnce
      ((annIn ["#a"]).server.commandNickserv 0 (some "RECOVER ann".toList)) 1 := by
  have hrecover : ∃ words ∈ Server.nickservWords (some "RECOVER ann".toList),
      isWord words.1 "RECOVER" = true := ⟨("RECOVER".toList, "ann".toList), by decide, by decide⟩
  have hchange : (((annIn ["#a"]).server.commandNickserv 0 (some "RECOVER ann".toList)).client 1).nick ≠
      ((annIn ["#a"]).server.client 1).nick := by decide +kernel
  exact (nick_announced_iff (sound_annIn ["#a"]) (by decide +kernel) (by decide +kernel)
    (by decide +kernel) (by decide +kernel) (.recover 0 (some "RECOVER ann".toList) hrecover)
    hchange).mpr fun _ => by decide +kernel

/-- RECOVER of a session in two channels tells it twice, and of one in none does not tell it. -/
theorem recover_announced_twice_or_never :
    (annIn ["#a", "#b"]).server.nickLines
        ((annIn ["#a", "#b"]).server.commandNickserv 0 (some "RECOVER ann".toList)) 1 =
      List.replicate 2 ((annIn ["#a", "#b"]).server.nickLine 1 "Guest2".toList) ∧
    (annIn []).server.nickLines
        ((annIn []).server.commandNickserv 0 (some "RECOVER ann".toList)) 1 = [] ∧
    (((annIn []).server.commandNickserv 0 (some "RECOVER ann".toList)).client 1).nick =
      "Guest2".toList := by
  decide +kernel

end Network

end ScratchIrcd
