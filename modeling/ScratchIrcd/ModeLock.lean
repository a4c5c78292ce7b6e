/-
  File:      ScratchIrcd/ModeLock.lean
  Subject:   MODE against the mode lock of ChanServ. `check_mlock` of src/commands/mode_persist.c
             reads the mode string before `mode_channel` of src/commands/mode.c reads it again.

  Both scanners see the same word, and they see it the same way (`signedLetters`), so every
  boolean letter that `mode_channel` carries out was held against the lock before. SAMODE calls
  `mode.c` directly and is not covered.
-/
import ScratchIrcd.ModeRule

namespace ScratchIrcd

open CText

variable {l : Bool × Char} {chan chan₀ : Channel} {bit : ChannelMode} {letters : Text}

/-! ## 1. One letter -/

/-- The bit is set exactly if the lock has it. -/
def Channel.AgreesWithLock (ch : Channel) (bit : ChannelMode) : Prop :=
  bit ∈ ch.modes ↔ bit ∈ ch.chanservModeLock

instance (ch : Channel) (bit : ChannelMode) : Decidable (ch.AgreesWithLock bit) :=
  inferInstanceAs (Decidable (_ ↔ _))

/-- The channel is as `chan₀` in what `chanserv_mode_change_allowed` reads, and agrees in `bit`. -/
structure Channel.LockedAs (chan₀ : Channel) (bit : ChannelMode) (chan : Channel) : Prop where
  lock : chan.chanservModeLock = chan₀.chanservModeLock
  agrees : chan.AgreesWithLock bit

theorem Channel.LockedAs.of_eq {chan' : Channel} (h : chan₀.LockedAs bit chan)
    (hlock : chan'.chanservModeLock = chan.chanservModeLock) (hmodes : chan'.modes = chan.modes) :
    chan₀.LockedAs bit chan' := by
  refine ⟨hlock.trans h.lock, ?_⟩
  unfold Channel.AgreesWithLock
  rw [hlock, hmodes]
  exact h.agrees

/-- What the lock lets through on a registered channel is what the lock says. -/
theorem mem_lock_of_mlockRefuses (hreg : chan.isRegistered = true)
    (hvalid : chan.chanservPolicyValid = true) (hpass : Server.mlockRefuses chan letters = none)
    (hl : l ∈ signedLetters true letters) (hbit : booleanBit l.2 = some bit) :
    l.1 = true ↔ bit ∈ chan.chanservModeLock := by
  rw [Server.mlockRefuses, Option.map_eq_none_iff, List.find?_eq_none] at hpass
  have hallowed : chan.modeChangeAllowed bit l.1 = true := by simpa [hbit] using hpass l hl
  rw [Channel.modeChangeAllowed, hreg, hvalid] at hallowed
  have hiff : decide (bit ∈ chan.chanservModeLock) = l.1 := by simpa using hallowed
  rw [← hiff, decide_eq_true_iff]

/-- An edit that a letter of the string stands for. -/
theorem lockedAs_edit (hreg : chan₀.isRegistered = true)
    (hvalid : chan₀.chanservPolicyValid = true) (hpass : Server.mlockRefuses chan₀ letters = none)
    (h : chan₀.LockedAs bit chan) (hl : l ∈ signedLetters true letters) {s : Server}
    {c : ClientRef} {ch : ChannelRef} {e : ChannelEdit}
    (he : Server.LetterEdit s c ch l.1 l.2 e) : chan₀.LockedAs bit (chan.edit e) := by
  obtain ⟨-, -, -, -, -, hlock, -⟩ := chan.edit_keeps e
  have hmodes := chan.modes_edit e
  cases he with
  | boolean hbit =>
    rename_i bit'
    refine ⟨hlock.trans h.lock, ?_⟩
    have hiff := mem_lock_of_mlockRefuses hreg hvalid hpass hl hbit
    have hagrees := h.agrees
    dsimp only at hmodes
    unfold Channel.AgreesWithLock at hagrees ⊢
    rw [hlock, hmodes, h.lock]
    rw [h.lock] at hagrees
    by_cases hsame : bit = bit'
    · -- the letter writes this bit, with the sign the lock asks for
      subst hsame
      cases hon : l.1 with
      | true => simpa [hon] using hiff
      | false => simpa [hon] using hiff
    · split
      · simpa [hsame] using hagrees
      · simpa [hsame] using hagrees
  | _ => exact h.of_eq hlock hmodes

namespace Server

/-! ## 2. The line -/

/-- **MODE keeps the mode lock.** On a +r channel with a valid cached policy no MODE line of
    anybody, whatever its letters, signs and parameters, makes a boolean mode disagree with the
    lock; +r itself is no letter of a lock. -/
theorem mode_keeps_lock (s : Server) (hok : s.ChannelsOk) (c : ClientRef) (params : Option Text)
    (ch : ChannelRef) (hreg : (s.channel ch).isRegistered = true)
    (hvalid : (s.channel ch).chanservPolicyValid = true) (bit : ChannelMode)
    (hagrees : (s.channel ch).AgreesWithLock bit) :
    ((s.dispatchMode c params).channel ch).AgreesWithLock bit := by
  refine (dispatchMode_induct (P := fun s' => s'.ChannelsOk ∧
    (s.channel ch).LockedAs bit (s'.channel ch)) ?_ ?_ ?_ ?_ (fun _ h => .inl h.1) ?_
    ⟨hok, rfl, hagrees⟩).2.agrees
  · exact fun _ _ _ h => ⟨⟨h.1.named, h.1.valid, h.1.fresh⟩, h.2⟩
  · exact fun _ _ _ h => ⟨⟨h.1.named, h.1.valid, h.1.fresh⟩, h.2⟩
  · rintro s₁ - x - ⟨hok₁, hlocked⟩
    refine ⟨(s₁.quiet_updChannel x _ rfl rfl (.refl _)).channelsOk hok₁, ?_⟩
    by_cases hx : ch = x
    · subst hx
      rw [updChannel_self]
      exact hlocked.of_eq rfl rfl
    · rw [updChannel_of_ne _ _ _ _ hx]
      exact hlocked
  · exact fun _ _ _ _ h => ⟨⟨h.1.named, h.1.valid, h.1.fresh⟩, h.2⟩
  · intro x letters args hreq
    obtain ⟨-, hpass, -⟩ := modeRequest_spec hreq
    have houtcome := s.modeOutcome_modeLoop c x ((s.channel x).mayChange c)
      (signedLetters true letters) args
    refine .of_deliver (fun _ h => ⟨⟨h.1.named, h.1.valid, h.1.fresh⟩, h.2⟩)
      ⟨houtcome.quiet.channelsOk hok, ?_⟩
    by_cases hx : ch = x
    · -- the lock was checked against the record the loop starts from
      subst hx
      exact modeLoop_record_induct (P := fun chan => (s.channel ch).LockedAs bit chan)
        (fun _ _ hl _ hedit hrun => lockedAs_edit hreg hvalid hpass hrun hl hedit)
        ⟨rfl, hagrees⟩
    · rw [houtcome.others ch hx]
      exact ⟨rfl, hagrees⟩

/-- The founder alone in a registered channel that is locked to +m. -/
def lockedOps : Server :=
  Runs.exec channelStep
    { Server.initial {} {}
        { chanserv := { channels := [{ name := "#ops".toList, founder := "alice".toList
                                       modeLock := {.moderated} }]
                        sharedOpen := true, schemaReady := true } } with
      clients := [0]
      client := fun _ => { id := 1, registered := true, nick := "alice".toList
                           accountName := "alice".toList, user := "a".toList
                           displayHost := "host".toList }
      clientsByNick := (ChainedTable.empty 4093 buckets_pos).set "alice".toList 0 }
    [(1, .join 0 (some "#ops".toList))]

/-- A line the lock lets through, which sets a key as well. -/
theorem mode_keeps_lock_moderated :
    ((lockedOps.dispatchMode 0 (some "#ops +mk secret".toList)).channel 0).key =
      "secret".toList ∧
    ((lockedOps.dispatchMode 0 (some "#ops +mk secret".toList)).channel 0).AgreesWithLock
      .moderated :=
  ⟨by decide +kernel, mode_keeps_lock lockedOps
    (Sound.exec (sound_of_empty (fun _ => rfl) fun _ => rfl) _).channelsOk 0 _ 0
    (by decide +kernel) (by decide +kernel) .moderated (by decide +kernel)⟩

end Server

end ScratchIrcd
