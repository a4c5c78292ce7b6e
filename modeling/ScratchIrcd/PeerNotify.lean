/-
  File:      ScratchIrcd/PeerNotify.lean
  Subject:   Who is told of a change of account or of AWAY: `ircv3_account_notify`,
             `ircv3_away_notify` and `seen_in_earlier_channel` (src/ircv3.c).

  Both walk the channels of the client and the members of each, and mark nobody: a member is passed
  over if it is in a channel the walk has been through. Every peer is reached from exactly one
  channel, the first it shares.
-/
import ScratchIrcd.NickServ

namespace ScratchIrcd

namespace Server

/-! ## 1. The walk -/

/-- The members the walk reaches that `wants` it; `earlier` are the channels gone through. -/
def peersOnce (s : Server) (c : ClientRef) (wants : ClientRef → Bool) (earlier : List ChannelRef) :
    List ChannelRef → List ClientRef
  | [] => []
  | ch :: rest =>
      ((s.memberRefs ch).filter fun r => r != c && wants r && !earlier.any fun e => s.inChannel e r) ++
        peersOnce s c wants (ch :: earlier) rest

/-- `ircv3_away_notify`. -/
def awayNotify (s : Server) (c : ClientRef) : Server :=
  if !(s.client c).registered then s
  else s.deliver ((s.peersOnce c (s.wantsAway c) [] (s.client c).channels).map fun r => (r, s.awayLine c))

/-- Has account-notify. -/
def wantsAccount (s : Server) (r : ClientRef) : Bool :=
  decide (Capability.accountNotify ∈ (s.client r).capabilities)

/-- The line `ircv3_account_notify` sends. -/
def accountLine (s : Server) (c : ClientRef) : Line := ⟨s.userSource c, .account (s.shownAccount c)⟩

theorem accountRecipients_eq (s : Server) (c : ClientRef) (earlier links : List ChannelRef) :
    s.accountRecipients c earlier links = s.peersOnce c s.wantsAccount earlier links := by
  induction links generalizing earlier with
  | nil => rfl
  | cons ch rest ih => exact congrArg (_ ++ ·) (ih (ch :: earlier))

/-- A peer is reached once, from the first channel it is in. By induction on the channels that are
    left: whoever is in this one is `earlier` for all that follow. -/
theorem count_peersOnce (s : Server) (c : ClientRef) (wants : ClientRef → Bool)
    (earlier links : List ChannelRef) (r : ClientRef) :
    (s.peersOnce c wants earlier links).count r =
      if r ≠ c ∧ wants r = true ∧ (earlier.any fun e => s.inChannel e r) = false ∧
        (links.any fun ch => s.inChannel ch r) = true then 1 else 0 := by
  induction links generalizing earlier with
  | nil => simp [peersOnce]
  | cons ch rest ih =>
    have hmem : r ∈ s.memberRefs ch ↔ s.inChannel ch r = true := ((s.channel ch).hasClient_iff r).symm
    have hhere : ((s.memberRefs ch).filter fun r => r != c && wants r &&
        !earlier.any fun e => s.inChannel e r).count r =
        if s.inChannel ch r = true ∧ r ≠ c ∧ wants r = true ∧
          (earlier.any fun e => s.inChannel e r) = false then 1 else 0 := by
      have hnodup : (s.memberRefs ch).Nodup := (s.channel ch).members_nodup
      rw [(hnodup.filter _).count]
      refine if_congr ?_ rfl rfl
      rw [List.mem_filter, hmem]
      simp [and_assoc]
    rw [peersOnce, List.count_append, hhere, ih, List.any_cons, List.any_cons]
    by_cases hin : s.inChannel ch r = true
    · simp [hin]
    · rw [Bool.not_eq_true] at hin
      simp [hin]

/-! ## 2. What the peers read -/

/-- One line `l` to each other client that shares a channel with `c` and `wants` it, and none to
    anyone else. -/
def ToldOnce (s : Server) (c : ClientRef) (wants : ClientRef → Bool) (l : Line) (s' : Server) : Prop :=
  ∃ ds : List Delivery, s'.out = s.out ++ ds ∧ (∀ d ∈ ds, d.line = l) ∧
    ∀ r, ds.countP (·.dest == r) = if r ≠ c ∧ s.shareChannel c r = true ∧ wants r = true then 1 else 0

theorem toldOnce_deliver (s : Server) (c : ClientRef) (wants : ClientRef → Bool) (l : Line) :
    s.ToldOnce c wants l
      (s.deliver ((s.peersOnce c wants [] (s.client c).channels).map fun r => (r, l))) := by
  refine ⟨_, rfl, fun d hd => ?_, fun r => ?_⟩
  · obtain ⟨e, he, rfl⟩ := List.mem_map.mp hd
    obtain ⟨x, -, rfl⟩ := List.mem_map.mp he
    rfl
  · rw [List.countP_map, List.countP_map]
    have hcount := s.count_peersOnce c wants [] (s.client c).channels r
    rw [List.any_nil] at hcount
    refine Eq.trans hcount (if_congr ?_ rfl rfl)
    unfold shareChannel
    tauto

/-- **Peers are told exactly once** of a change of account and of AWAY: each other client that shares
    a channel and has the capability reads one line, and nobody else reads any. -/
theorem peers_told_once (s : Server) (c : ClientRef) (hreg : (s.client c).registered = true) :
    s.ToldOnce c (fun r => decide (Capability.awayNotify ∈ (s.client r).capabilities)) (s.awayLine c)
        (s.awayNotify c) ∧
      s.ToldOnce c (fun r => decide (Capability.accountNotify ∈ (s.client r).capabilities))
        (s.accountLine c) (s.accountNotify c) := by
  have hunreg : ¬ (!(s.client c).registered) = true := by simp [hreg]
  constructor
  · obtain ⟨ds, hout, hline, hcount⟩ := s.toldOnce_deliver c (s.wantsAway c) (s.awayLine c)
    unfold awayNotify
    rw [if_neg hunreg]
    refine ⟨ds, hout, hline, fun r => (hcount r).trans (if_congr ?_ rfl rfl)⟩
    -- `send_away_notify` asks once more that the recipient is another client
    unfold wantsAway
    rw [Bool.and_eq_true, bne_iff_ne]
    tauto
  · unfold accountNotify
    rw [if_neg hunreg, accountRecipients_eq]
    exact s.toldOnce_deliver c s.wantsAccount (s.accountLine c)

/-- Two clients with two channels in common. -/
def pairOfRooms : Server :=
  [(0, 0), (0, 1), (1, 0), (1, 1)].foldl (fun s e => s.addToChannel e.1 e.2)
    { Server.initial {} {} {} with
      client := fun _ => { registered := true, capabilities := {.awayNotify, .accountNotify} } }

theorem peers_told_once_pair :
    (pairOfRooms.client 0).registered = true ∧ pairOfRooms.shareChannel 0 1 = true ∧
      (pairOfRooms.ToldOnce 0
          (fun r => decide (Capability.awayNotify ∈ (pairOfRooms.client r).capabilities))
          (pairOfRooms.awayLine 0) (pairOfRooms.awayNotify 0) ∧
        pairOfRooms.ToldOnce 0
          (fun r => decide (Capability.accountNotify ∈ (pairOfRooms.client r).capabilities))
          (pairOfRooms.accountLine 0) (pairOfRooms.accountNotify 0)) :=
  ⟨by decide +kernel, by decide +kernel, peers_told_once pairOfRooms 0 (by decide +kernel)⟩

end Server

end ScratchIrcd
