/-
  File:      ScratchIrcd/ModeRule.lean
  Subject:   The rule for MODE: what has to be checked once to know what a whole MODE command
             keeps, through all three layers.
-/
import ScratchIrcd.Moves

namespace ScratchIrcd

open CText

variable {ch : ChannelRef} {a b : Client} {c : ClientRef} {args : List Text}
  {params : Option Text} {s : Server} {letters target : Text}

/-- `b` is `a` but for its modes and the host it shows: what MODE may do to a client. -/
def Client.SameButModes (a b : Client) : Prop :=
  b = { a with modes := b.modes, displayHost := b.displayHost, history := b.history }

namespace Client

theorem SameButModes.channels (h : a.SameButModes b) : b.channels = a.channels := by
  rw [h]

theorem sameButModes_setMode (cl : Client) (bit : ClientMode) (on : Bool) :
    cl.SameButModes (cl.setMode bit on) := rfl

theorem sameButModes_refreshDisplayHost (config : ServerConfig) (ext : External)
    (h : a.SameButModes b) : a.SameButModes (b.refreshDisplayHost config ext) := by
  unfold refreshDisplayHost
  dsimp only
  unfold SameButModes at h ⊢
  split_ifs <;> rw [h]

theorem sameButModes_applyCloak (config : ServerConfig) (ext : External) (cl : Client) :
    cl.SameButModes (cl.applyCloak config ext) :=
  sameButModes_refreshDisplayHost config ext rfl

theorem sameButModes_removeCloak (cl : Client) : cl.SameButModes cl.removeCloak := by
  unfold removeCloak SameButModes
  dsimp only
  split_ifs <;> rfl

end Client

/-- The modes that no MODE reaches, whoever gives it: they come with OPER, +h also with SAMODE. -/
def grantedModes : Finset ClientMode := {.oper, .netadmin, .helpop}

/-- The modes with an effect on the session: +x and +t decide the host, +r comes with the account. -/
def sessionModes : Finset ClientMode := {.cloaked, .vhost, .registered}

/-- What a letter of MODE may make of the client that gives it: it switches a plain mode, puts the
    cloak on, or takes it off, in mode_persist.c or in mode_control.c. -/
inductive Client.SelfModed (config : ServerConfig) (ext : External) (a : Client) : Client → Prop
  | plain {bit : ClientMode} (on : Bool) (hgranted : bit ∉ grantedModes) (hsession : bit ∉ sessionModes) :
      SelfModed config ext a (a.setMode bit on)
  | cloak : SelfModed config ext a (a.applyCloak config ext)
  | uncloak : SelfModed config ext a a.removeCloak
  | control : SelfModed config ext a ({ a.setMode .cloaked false with
      history := { a.history with uncloaked := true } }.refreshDisplayHost config ext)

namespace Client

variable {config : ServerConfig} {ext : External}

theorem SelfModed.same (h : a.SelfModed config ext b) : a.SameButModes b := by
  cases h with
  | plain on _ _ => exact a.sameButModes_setMode _ on
  | cloak => exact a.sameButModes_applyCloak config ext
  | uncloak => exact a.sameButModes_removeCloak
  | control => exact sameButModes_refreshDisplayHost config ext rfl

theorem modes_refreshDisplayHost (config : ServerConfig) (ext : External) (cl : Client) :
    (cl.refreshDisplayHost config ext).modes = cl.modes := by
  unfold refreshDisplayHost
  split_ifs <;> rfl

/-- What comes with OPER stays as it is. -/
theorem SelfModed.granted (h : a.SelfModed config ext b) :
    ∀ bit ∈ grantedModes, bit ∈ b.modes ↔ bit ∈ a.modes := by
  have hset : ∀ {bit : ClientMode} (on : Bool), bit ∉ grantedModes →
      ∀ x ∈ grantedModes, x ∈ (a.setMode bit on).modes ↔ x ∈ a.modes := by
    intro bit on hbit x hx
    have hne : x ≠ bit := fun heq => hbit (heq ▸ hx)
    unfold setMode
    cases on <;> simp [hne]
  cases h with
  | plain on hgranted _ => exact hset on hgranted
  | cloak =>
    unfold applyCloak
    rw [modes_refreshDisplayHost]
    exact hset true (by decide)
  | uncloak =>
    have herased : ∀ x ∈ grantedModes, x ∈ (a.setMode .cloaked false).modes ↔ x ∈ a.modes :=
      hset false (by decide)
    unfold removeCloak
    dsimp only
    split_ifs <;> exact herased
  | control =>
    rw [modes_refreshDisplayHost]
    exact hset false (by decide)

end Client

namespace Server

/-- A letter a client may set on itself is about a plain mode. -/
theorem settable_plain {letter : Char} {bit : ClientMode} (hbit : clientModeBit letter = some bit)
    (hself : clientModeSelfSettable letter = true) : bit ∉ grantedModes ∧ bit ∉ sessionModes := by
  have hletters : ∀ l ∈ "BdgipRsTw".toList, ∀ b, clientModeBit l = some b →
      b ∉ grantedModes ∧ b ∉ sessionModes := forall_mem_of_all (by decide)
  exact hletters letter (List.contains_iff_mem.mp hself) bit hbit

/-- So is one that an operator may. -/
theorem operatorModeBit_plain {letter : Char} {bit : ClientMode}
    (hbit : operatorModeBit letter = some bit) : bit ∉ grantedModes ∧ bit ∉ sessionModes := by
  unfold operatorModeBit at hbit
  split_ifs at hbit <;> cases hbit <;> decide

/-! ## 1. Requests -/

/-- The channel, letters and parameters a MODE hands to the loop of `mode_channel`, if it gets
    that far. -/
def modeRequest (s : Server) (c : ClientRef) (params : Option Text) :
    Option (ChannelRef × Text × List Text) :=
  if !modeWireFits (s.client c) params || !(s.client c).registered then none
  else match params.bind modeWords with
    | some (target, some (letters, args)) =>
        if !startsChannel target then none
        else (s.findChannel target).bind fun ch =>
          if (mlockRefuses (s.channel ch) letters).isSome ||
              (validateParams (s.channel ch) (signedLetters true letters) args).isSome then none
          else some (ch, letters, args)
    | _ => none

/-- All that a request went through. -/
theorem modeRequest_parts (h : s.modeRequest c params = some (ch, letters, args)) :
    modeWireFits (s.client c) params = true ∧ (s.client c).registered = true ∧
      ∃ target, params.bind modeWords = some (target, some (letters, args)) ∧
        startsChannel target = true ∧ s.findChannel target = some ch ∧
        mlockRefuses (s.channel ch) letters = none ∧
        validateParams (s.channel ch) (signedLetters true letters) args = none := by
  unfold modeRequest at h
  split at h
  · cases h
  · rename_i hcond
    simp only [Bool.or_eq_true, Bool.not_eq_true', not_or, Bool.not_eq_false] at hcond
    split at h
    · rename_i target letters' args' hwords
      split at h
      · cases h
      · rename_i hstarts
        obtain ⟨ch', hfind, h⟩ := Option.bind_eq_some_iff.mp h
        split at h
        · cases h
        · rename_i hpass
          cases h
          simp only [Bool.or_eq_true, not_or, Bool.not_eq_true, Option.isSome_eq_false_iff,
            Option.isNone_iff_eq_none] at hpass
          exact ⟨hcond.1, hcond.2, target, hwords, by simpa using hstarts, hfind, hpass.1, hpass.2⟩
    · cases h

theorem modeRequest_spec (h : s.modeRequest c params = some (ch, letters, args)) :
    (s.client c).registered = true ∧ mlockRefuses (s.channel ch) letters = none ∧
      ∃ target, params.bind modeWords = some (target, some (letters, args)) ∧
        s.findChannel target = some ch := by
  obtain ⟨-, hreg, target, hwords, -, hfind, hmlock, -⟩ := modeRequest_parts h
  exact ⟨hreg, hmlock, target, hwords, hfind⟩

/-- A channel found under a target is found under its first 32 bytes: names are no longer. -/
theorem modeTarget_of_findChannel (hok : s.ChannelsOk) (hfind : s.findChannel target = some ch) :
    s.modeTarget target = some ch := by
  have hlen : target.length ≤ ircChannelNameMax := by
    rw [← length_eq_of_nameEq (hok.named hfind)]
    have hvalid := hok.valid hfind
    simp only [channelNameValid, Bool.and_eq_true, decide_eq_true_eq] at hvalid
    exact hvalid.1.2
  rw [modeTarget, bounded_of_length_le hlen]
  exact hfind

/-- A request reaches `mode_channel` through all three layers, and is saved afterwards. -/
theorem dispatchMode_of_modeRequest (hok : s.ChannelsOk)
    (h : s.modeRequest c params = some (ch, letters, args)) :
    ∃ before name, s.findChannel name = some ch ∧
      s.dispatchMode c params = (s.modeChannel c ch letters args).modeSave before name := by
  obtain ⟨hwire, hreg, target, hwords, hstarts, hfind, hmlock, hvalid⟩ := modeRequest_parts h
  obtain ⟨params, rfl, hparams⟩ := Option.bind_eq_some_iff.mp hwords
  have hcut := modeTarget_of_findChannel hok hfind
  refine ⟨some ((s.channel ch).joinThrottleCount, (s.channel ch).joinThrottleSeconds),
    bounded ircChannelNameMax target, hcut, ?_⟩
  have hpolicy : s.commandModePolicy c (some params) = (s.modeChannel c ch letters args).modeSave
      (some ((s.channel ch).joinThrottleCount, (s.channel ch).joinThrottleSeconds))
      (bounded ircChannelNameMax target) := by
    simp only [commandModePolicy, modeChannelPolicy, commandModeCore, hparams, hstarts, hcut, hmlock,
      hvalid, hreg, hfind, if_true, Bool.not_true, Bool.false_eq_true, if_false]
  rw [← hpolicy, dispatchMode, if_pos hwire, commandMode, Option.bind_some]
  -- the outermost layer keeps only what is addressed to the client itself
  obtain ⟨⟨tok, rest⟩, htok, heq⟩ := Option.map_eq_some_iff.mp hparams
  obtain ⟨rfl, hrest⟩ := Prod.mk.inj heq
  obtain ⟨⟨tok', rest'⟩, htok', -⟩ := Option.map_eq_some_iff.mp hrest
  simp only [htok, htok', hstarts, if_true, ite_self]

/-- The save at the end sends nothing. -/
theorem out_modeSave (s : Server) (before : Option (Nat × Nat)) (name : Text) :
    (s.modeSave before name).out = s.out := by
  unfold modeSave
  split
  · rfl
  · dsimp only
    split <;> rfl

theorem target_of_modeWords {target' rest : Text} {modes : Option (Text × List Text)}
    (hne : target ≠ []) (hno : ∀ x ∈ target, (x == ' ') = false)
    (h : modeWords (target ++ ' ' :: rest) = some (target', modes)) : target = target' := by
  rw [modeWords_append hne hno] at h
  exact congrArg Prod.fst (Option.some.inj h)

/-- The first word of a MODE, read back from a text it was put in front of. -/
theorem modeWords_target {params : Text} {modes : Option (Text × List Text)}
    (h : modeWords params = some (target, modes)) (rest : Text) :
    (modeWords (target ++ ' ' :: rest)).map (·.1) = some target ∧
      (modeWords target).map (·.1) = some target := by
  obtain ⟨hne, hno⟩ := word_of_modeWords h
  rw [modeWords_append hne hno, modeWords_self hne hno]
  exact ⟨rfl, rfl⟩

/-! ## 2. mode.c -/

/-- `P` holds at the end of the loop of `mode_channel`, and still after an announcement. -/
def Announced (P : Server → Prop) (c : ClientRef) (ch : ChannelRef) (s : Server) : Prop :=
  P s ∧ ∀ text, P (s.broadcast ch none ⟨s.userSource c, .mode (s.channel ch).name text⟩)

/-- What no output disturbs. -/
theorem Announced.of_deliver {P : Server → Prop} (say : ∀ ds, P s → P (s.deliver ds)) (h : P s) :
    Announced P c ch s :=
  ⟨h, fun _ => say _ h⟩

/-- Whatever channel the loop of `mode_channel` runs on, it keeps `P`. -/
def LoopsKeep (P : Server → Prop) (c : ClientRef) : Prop :=
  ∀ (s : Server) ch mayChange letters args, P s → Announced P c ch
    (modeLoop c ch mayChange letters { server := s, args := args }).2.server

section Rule

variable {P : Server → Prop} {c : ClientRef}
  (say : ∀ s ds, Replies ds → P s → P (s.deliver ds))
  (touch : ∀ s f, (∀ cl : Client, cl.SelfModed s.config s.ext (f cl)) → P s → P (s.updClient c f))
  (clear : ∀ s name ch, s.findChannel name = some ch → P s → P (s.updChannel ch (·.joinThrottleClear)))
  (save : ∀ s name ch, s.findChannel name = some ch → P s → P (s.persistChannel ch))

include say

theorem modeUser_induct
    (touch : ∀ s f, (∀ cl : Client, cl.SelfModed s.config s.ext (f cl)) → P s → P (s.updClient c f))
    (target : Text) (modes : Option Text) (h : P s) : P (s.modeUser c target modes) := by
  have hfold : ∀ (ls : List (Bool × Char)) (s : Server), P s → P (ls.foldl (modeUserLetter c) s) := by
    intro ls
    induction ls with
    | nil => exact fun _ h => h
    | cons l ls ih =>
      intro s h
      refine ih _ ?_
      unfold modeUserLetter
      split
      · exact say _ _ (replies_one rfl) h
      · rename_i hbit
        split
        · rename_i hself
          obtain ⟨hgranted, hsession⟩ := settable_plain hbit hself
          exact touch _ _ (fun _ => .plain _ hgranted hsession) h
        · exact say _ _ (replies_one rfl) h
  unfold modeUser
  split
  · exact say _ _ (replies_one rfl) h
  · split
    · exact say _ _ (replies_one rfl) h
    · exact say _ _ (replies_one rfl) (hfold _ s h)

omit say in
/-- After the loop: the announcement and the save. -/
theorem modeChannel_induct
    (save : ∀ s name ch, s.findChannel name = some ch → P s → P (s.persistChannel ch))
    {s : Server} {name : Text} {ch : ChannelRef} {letters : Text}
    {args : List Text} (hfind : s.findChannel name = some ch)
    (h : Announced P c ch (modeLoop c ch ((s.channel ch).mayChange c)
      (signedLetters true letters) { server := s, args := args }).2.server) :
    P (s.modeChannel c ch letters args) := by
  have hquiet := (s.modeOutcome_modeLoop c ch ((s.channel ch).mayChange c)
    (signedLetters true letters) args).quiet
  unfold modeChannel
  generalize modeLoop c ch ((s.channel ch).mayChange c) (signedLetters true letters)
    { server := s, args := args } = result at h hquiet
  obtain ⟨_ | _, run⟩ := result
  · exact h.1
  · dsimp only at h hquiet ⊢
    split
    · exact h.1
    · refine save _ name ch ?_ ?_
      · unfold announceModes
        dsimp only
        split_ifs <;> exact (hquiet.findChannel name).trans hfind
      · unfold announceModes
        dsimp only
        split_ifs
        · exact h.1
        · exact h.2 _
        · exact h.2 _

include touch

/-- `command_mode_core`, given what its loop leaves behind. -/
theorem commandModeCore_induct
    (save : ∀ s name ch, s.findChannel name = some ch → P s → P (s.persistChannel ch))
    {s : Server} {params : Option Text}
    (loop : ∀ target ch letters args, (s.client c).registered = true →
      params.bind modeWords = some (target, some (letters, args)) → startsChannel target = true →
      s.findChannel target = some ch →
      Announced P c ch (modeLoop c ch ((s.channel ch).mayChange c)
        (signedLetters true letters) { server := s, args := args }).2.server)
    (h : P s) : P (s.commandModeCore c params) := by
  unfold commandModeCore
  split
  · exact say _ _ (replies_one rfl) h
  · rename_i hreg
    split
    · exact say _ _ (replies_one rfl) h
    · split
      · exact h
      · rename_i target modes hwords
        split
        · exact modeUser_induct say touch _ _ h
        · rename_i hstarts
          split
          · exact say _ _ (replies_one rfl) h
          · rename_i ch hfind
            split
            · exact say _ _ (replies_one rfl) h
            · rename_i letters args
              exact modeChannel_induct save hfind (loop target ch letters args
                (by simpa using hreg) hwords (by simpa using hstarts) hfind)

/-! ## 3. mode_persist.c -/

include save

omit say touch in
include clear in
theorem modeSave_induct (before : Option (Nat × Nat)) (name : Text) (h : P s) :
    P (s.modeSave before name) := by
  unfold modeSave
  split
  · exact h
  · rename_i ch hfind
    dsimp only
    split
    · exact save _ name ch hfind h
    · exact save _ name ch hfind (clear s name ch hfind h)

/-- `handle_special_user_modes`: what it forwards is about the same user. -/
theorem specialUserModes_induct {s' : Server} {params : Text} {modes : Option (Text × List Text)}
    (hwords : modeWords params = some (target, modes)) (huser : startsChannel target = false)
    (hs' : s.specialUserModes c target letters = some s') (h : P s) : P s' := by
  have hfold : ∀ (ls : List (Bool × Char)) (isOper : Bool) (st : SpecialModes), P st.server →
      P (ls.foldl (specialModeLetter c isOper) st).server := by
    intro ls isOper
    induction ls with
    | nil => exact fun _ h => h
    | cons l ls ih =>
      intro st h
      refine ih _ ?_
      unfold specialModeLetter
      split
      · dsimp only
        refine touch _ _ (fun cl => ?_) h
        split
        · exact .cloak
        · exact .uncloak
      · split
        · rename_i hbit
          dsimp only
          split
          · obtain ⟨hgranted, hsession⟩ := operatorModeBit_plain hbit
            exact touch _ _ (fun _ => .plain _ hgranted hsession) h
          · exact say _ _ (replies_one rfl) h
        · exact h
  unfold specialUserModes at hs'
  split at hs'
  · cases hs'
  · dsimp only at hs'
    split at hs'
    · cases hs'
    · cases hs'
      refine commandModeCore_induct say touch save ?_ (hfold _ _ _ h)
      -- the first word is still the user
      intro target' ch letters' args _ hwords' hstarts _
      have hsame : target' = target := by
        have hback := modeWords_target hwords (List.foldl (specialModeLetter c (s.client c).isOper)
          { server := s } (signedLetters true letters)).filtered
        rw [Option.bind_some] at hwords'
        split at hwords'
        · have := hback.2
          rw [hwords'] at this
          exact Option.some.inj this
        · have := hback.1
          rw [hwords'] at this
          exact Option.some.inj this
      rw [hsame, huser] at hstarts
      cases hstarts

include clear

/-- `command_mode` of mode_persist.c. A channel it knows under the first 32 bytes of the target
    is the channel `mode.c` finds under the whole target, if the tables are in order. -/
theorem commandModePolicy_induct {s : Server} (hok : s.ChannelsOk ∨ LoopsKeep P c)
    {params : Option Text}
    (loop : ∀ target ch letters args, (s.client c).registered = true →
      params.bind modeWords = some (target, some (letters, args)) → startsChannel target = true →
      s.findChannel target = some ch → mlockRefuses (s.channel ch) letters = none →
      validateParams (s.channel ch) (signedLetters true letters) args = none →
      Announced P c ch (modeLoop c ch ((s.channel ch).mayChange c) (signedLetters true letters)
        { server := s, args := args }).2.server)
    (h : P s) : P (s.commandModePolicy c params) := by
  unfold commandModePolicy
  cases params with
  | none =>
    exact commandModeCore_induct say touch save (fun _ _ _ _ _ hwords => by cases hwords) h
  | some params =>
    dsimp only
    cases hwords : modeWords params with
    | none =>
      refine commandModeCore_induct say touch save (fun _ _ _ _ _ hwords' => ?_) h
      rw [Option.bind_some, hwords] at hwords'
      cases hwords'
    | some words =>
      obtain ⟨target, modes⟩ := words
      dsimp only
      cases hstarts : startsChannel target with
      | true =>
        rw [if_pos rfl]
        split
        · split
          · exact say _ _ (replies_one rfl) h
          · exact say _ _ (replies_one rfl) h
        · rename_i ch letters args hfind
          unfold modeChannelPolicy
          split
          · exact say _ _ (replies_one rfl) h
          · rename_i hmlock
            split
            · exact say _ _ (replies_one rfl) h
            · rename_i hvalid
              refine modeSave_induct clear save _ _ (commandModeCore_induct say touch save ?_ h)
              intro target' ch' letters' args' hreg hwords' hstarts' hfind'
              rcases hok with hok | hkeep
              swap
              · exact hkeep _ _ _ _ _ h
              rw [Option.bind_some, hwords] at hwords'
              cases hwords'
              have hsame := modeTarget_of_findChannel hok hfind'
              rw [hfind] at hsame
              cases hsame
              exact loop target ch letters args hreg (by rw [Option.bind_some, hwords]) hstarts hfind'
                hmlock hvalid
        · rename_i hnone
          refine modeSave_induct clear save _ _ (commandModeCore_induct say touch save ?_ h)
          intro target' ch' letters' args' _ hwords' _ hfind'
          rcases hok with hok | hkeep
          swap
          · exact hkeep _ _ _ _ _ h
          rw [Option.bind_some, hwords] at hwords'
          cases hwords'
          rw [modeTarget_of_findChannel hok hfind'] at hnone
          cases hnone
      | false =>
        rw [if_neg Bool.false_ne_true]
        have core : P (s.commandModeCore c (some params)) := by
          refine commandModeCore_induct say touch save ?_ h
          intro target' ch' letters' args' _ hwords' hstarts' _
          rw [Option.bind_some, hwords] at hwords'
          cases hwords'
          rw [hstarts] at hstarts'
          cases hstarts'
        split
        · exact core
        · rename_i letters _
          cases hspecial : s.specialUserModes c target letters with
          | none => rw [Option.getD_none]; exact core
          | some s' => exact specialUserModes_induct say touch save hwords hstarts hspecial h

/-! ## 4. mode_control.c and the dispatcher -/

/-- A MODE of a client on itself, with a mode string. -/
theorem modeSelf_induct (sound : ∀ s, P s → s.ChannelsOk ∨ LoopsKeep P c) (hne : target ≠ [])
    (hno : ∀ x ∈ target, (x == ' ') = false) (huser : startsChannel target = false)
    (rest : Option Text) (h : P s) : P (s.modeSelf c target letters rest) := by
  have hcloak : ∀ s adding, P s → P (s.controlCloak c adding) := by
    intro s adding h
    unfold controlCloak
    dsimp only
    split
    · split
      · exact say _ _ (replies_one rfl) h
      · exact touch _ _ (fun _ => .cloak) h
    · exact touch _ _ (fun _ => .control) h
  have hfold : ∀ (ls : List (Bool × Char)) (st : SpecialModes), P st.server →
      P (ls.foldl (controlLetter c) st).server := by
    intro ls
    induction ls with
    | nil => exact fun _ h => h
    | cons l ls ih =>
      intro st h
      refine ih _ ?_
      unfold controlLetter
      split
      · exact say _ _ (replies_one rfl) h
      · split
        · exact hcloak _ _ h
        · exact h
  have hst := hfold (signedLetters true letters) { server := s } h
  -- whatever is forwarded starts with the same word
  have forward : ∀ (s₁ : Server) tail, P s₁ →
      P (s₁.commandModePolicy c (some (target ++ ' ' :: tail))) := by
    intro s₁ tail h₁
    refine commandModePolicy_induct say touch clear save (sound s₁ h₁) ?_ h₁
    intro target' ch letters' args _ hwords hstarts
    obtain rfl := target_of_modeWords hne hno hwords
    rw [huser] at hstarts
    cases hstarts
  unfold modeSelf
  dsimp only
  generalize (signedLetters true letters).foldl (controlLetter c) { server := s } = st at hst
  have hs : ∀ tail, P (if st.filtered.isEmpty = true then st.server
      else st.server.commandModePolicy c (some (target ++ ' ' :: st.filtered ++ tail))) := by
    intro tail
    split
    · exact hst
    · rw [List.append_assoc, List.cons_append]
      exact forward _ _ hst
  split
  · exact say _ _ (replies_one rfl) (hs _)
  · exact hs _

/-- **The rule for MODE.** What output, a change of the client's own modes, the loop of
    `mode_channel`, a new +j window and a save keep, every MODE keeps. -/
theorem dispatchMode_induct (sound : ∀ s, P s → s.ChannelsOk ∨ LoopsKeep P c) {s : Server}
    {params : Option Text}
    (loop : ∀ ch letters args, s.modeRequest c params = some (ch, letters, args) →
      Announced P c ch (modeLoop c ch ((s.channel ch).mayChange c) (signedLetters true letters)
        { server := s, args := args }).2.server)
    (h : P s) : P (s.dispatchMode c params) := by
  unfold dispatchMode
  split
  · rename_i hfits
    have policy : P (s.commandModePolicy c params) := by
      refine commandModePolicy_induct say touch clear save (sound s h) ?_ h
      intro target ch letters args hreg hwords hstarts hfind hmlock hvalid
      refine loop ch letters args ?_
      unfold modeRequest
      rw [if_neg (by simp [hfits, hreg]), hwords]
      simp [hstarts, hfind, hmlock, hvalid]
    unfold commandMode
    split
    · exact policy
    · rename_i target rest htok
      obtain ⟨params', -, htok⟩ := Option.bind_eq_some_iff.mp htok
      obtain ⟨hne, hno⟩ := strtok_token htok
      split
      · exact policy
      · split
        · split <;> exact say _ _ (replies_one rfl) h
        · split
          · exact policy
          · rename_i huser
            split
            · exact say _ _ (replies_one rfl) h
            · exact modeSelf_induct say touch clear save sound hne hno (by simpa using huser) _ h
  · exact say _ _ (replies_one rfl) h

/-! ## 5. samode.c -/

/-- The channel, letters and parameters a SAMODE hands to the loop of `mode_channel`. -/
def samodeRequest (s : Server) (c : ClientRef) (params : Option Text) :
    Option (ChannelRef × Text × List Text) :=
  if !(s.client c).registered || OperPermission.override ∉ (s.client c).operPermissions then none
  else (params.bind strtokSpace).bind fun (target, tail) => (strtokRest tail).bind fun rest =>
    if !startsChannel target then none
    else (s.findChannel target).bind fun ch =>
      match modeWords (target ++ ' ' :: rest) with
      | some (_, some (letters, args)) =>
          if samodeLimitRefused (signedLetters true letters) args then none
          else some (ch, letters, args)
      | _ => none

omit say touch clear save in
theorem samodeRequest_found (h : s.samodeRequest c params = some (ch, letters, args)) :
    ∃ target, s.findChannel target = some ch := by
  unfold samodeRequest at h
  split at h
  · cases h
  · obtain ⟨⟨target, tail⟩, -, h⟩ := Option.bind_eq_some_iff.mp h
    obtain ⟨rest, -, h⟩ := Option.bind_eq_some_iff.mp h
    split at h
    · cases h
    · obtain ⟨ch', hfind, h⟩ := Option.bind_eq_some_iff.mp h
      refine ⟨target, ?_⟩
      split at h
      · split at h
        · cases h
        · cases h
          exact hfind
      · cases h

omit clear in
/-- `samode_channel`: the caller sits in the channel for the time of the command. -/
theorem samodeChannel_induct
    (seat : ∀ s name ch, s.findChannel name = some ch → P s → P (s.addToChannel ch c))
    (unseat : ∀ s ch, P s → P (s.removeFromChannel ch c))
    (regrant : ∀ s ch f, P s → P (s.updChannel ch (·.updateMember c f)))
    {s : Server} {target tail rest : Text} {ch : ChannelRef} {params : Text}
    (htok : strtokSpace params = some (target, tail)) (hfind : s.findChannel target = some ch)
    (loop : ∀ letters args, modeWords (target ++ ' ' :: rest) = some (target, some (letters, args)) →
      Announced P c ch (modeLoop c ch
        (((s.samodeRaise c ch).channel ch).mayChange c) (signedLetters true letters)
        { server := s.samodeRaise c ch, args := args }).2.server)
    (h : P s) : P (s.samodeChannel c ch target rest) := by
  have hfind₁ : (s.samodeRaise c ch).findChannel target = some ch :=
    (s.findChannel_samodeRaise c ch target).trans hfind
  have hraise : P (s.samodeRaise c ch) := regrant _ ch _ (seat s target ch hfind h)
  unfold samodeChannel
  generalize s.samodeRaise c ch = s₁ at hraise hfind₁ loop
  have hcore : P (s₁.commandModeCore c (some (target ++ ' ' :: rest))) := by
    refine commandModeCore_induct say touch save ?_ hraise
    intro target' ch' letters args _ hwords _ hfind'
    obtain ⟨hne, hno⟩ := strtok_token htok
    obtain rfl := target_of_modeWords hne hno hwords
    rw [hfind₁] at hfind'
    cases hfind'
    exact loop letters args hwords
  have hcoreFind : (s₁.commandModeCore c (some (target ++ ' ' :: rest))).findChannel target = some ch :=
    (congrFun (congrArg Roster.find (s₁.roster_commandModeCore c _)) target).trans hfind₁
  dsimp only
  generalize s₁.commandModeCore c (some (target ++ ' ' :: rest)) = s₂ at hcore hcoreFind
  have hsaved := save s₂ target ch hcoreFind hcore
  unfold samodeRestore
  split
  · exact unseat _ ch (say _ _ (replies_snotice _ _ _) hsaved)
  · exact regrant _ ch _ (say _ _ (replies_snotice _ _ _) hsaved)

omit touch clear save in
/-- `samode_user` sets modes of its subject. -/
theorem samodeUser_induct {subject : ClientRef}
    (touch : ∀ s f, (∀ cl : Client, cl.SameButModes (f cl)) → P s → P (s.updClient subject f))
    (modes : Option Text) (h : P s) : P (s.samodeUser c subject modes) := by
  unfold samodeUser
  split
  · exact say _ _ (replies_one rfl) h
  · refine say _ _ (replies_snotice _ _ _) (say _ _ (replies_one rfl)
      (List.foldlRecOn _ _ h fun s₁ h₁ l _ => ?_))
    unfold samodeUserLetter
    split
    · exact say _ _ (replies_one rfl) h₁
    · exact touch _ _ (fun cl => cl.sameButModes_setMode _ _) h₁

omit touch clear in
/-- **The rule for SAMODE.** -/
theorem commandSamode_induct
    (touch : ∀ s subject f, (∀ cl : Client, cl.SameButModes (f cl)) → P s →
      P (s.updClient subject f))
    (seat : ∀ s name ch, s.findChannel name = some ch → P s → P (s.addToChannel ch c))
    (unseat : ∀ s ch, P s → P (s.removeFromChannel ch c))
    (regrant : ∀ s ch f, P s → P (s.updChannel ch (·.updateMember c f)))
    {s : Server} {params : Option Text}
    (loop : ∀ ch letters args, s.samodeRequest c params = some (ch, letters, args) →
      Announced P c ch (modeLoop c ch
        (((s.samodeRaise c ch).channel ch).mayChange c) (signedLetters true letters)
        { server := s.samodeRaise c ch, args := args }).2.server)
    (h : P s) : P (s.commandSamode c params) := by
  refine withOverride_induct (fun ds hds => say s ds hds h) fun target tail rest hreg hover htok hrest => ?_
  obtain ⟨params', rfl, htok'⟩ := Option.bind_eq_some_iff.mp htok
  split
  · rename_i hstarts
    split
    · exact say _ _ (replies_one rfl) h
    · rename_i ch hfind
      -- a mode string that is not refused is the request
      have channel : (∀ letters args, modeWords (target ++ ' ' :: rest) =
          some (target, some (letters, args)) →
          samodeLimitRefused (signedLetters true letters) args = false) →
          P (s.samodeChannel c ch target rest) := by
        intro hlimit
        refine samodeChannel_induct say (fun s f hf => touch s c f fun cl => (hf cl).same) save seat
          unseat regrant htok'
          hfind (fun letters args hwords => loop ch letters args ?_) h
        unfold samodeRequest
        rw [if_neg (by simp [hreg, hover]), htok, Option.bind_some]
        dsimp only
        rw [hrest, Option.bind_some, if_neg (by simp [hstarts]), hfind, Option.bind_some, hwords]
        dsimp only
        rw [hlimit letters args hwords, if_neg Bool.false_ne_true]
      split
      · rename_i letters args hwords
        split
        · exact say _ _ (replies_one rfl) h
        · rename_i hlimit
          refine channel fun letters' args' hwords' => ?_
          rw [hwords] at hwords'
          cases hwords'
          simpa using hlimit
      · rename_i hnone
        exact channel fun letters args hwords => absurd hwords (hnone _ _ _)
  · split
    · exact say _ _ (replies_one rfl) h
    · rename_i subject _
      exact samodeUser_induct say (fun s => touch s subject) _ h

end Rule

end Server

end ScratchIrcd
