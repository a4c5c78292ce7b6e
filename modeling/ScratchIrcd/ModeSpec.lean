/-
  File:      ScratchIrcd/ModeSpec.lean
  Subject:   What a channel MODE can do: the edits one letter may lead to, with what was checked
             before, and what a whole mode string leaves behind.
-/
import ScratchIrcd.Mode
import ScratchIrcd.Quiet

namespace ScratchIrcd

open CText

variable {bit : ChannelMode} {letter : Char} {letters : List (Bool × Char)} {run : ModeRun}

/-! ## 1. Edits -/

namespace Channel

/-- An edit keeps the name, the people, the invitations and everything ChanServ cached. -/
theorem edit_keeps (ch : Channel) (e : ChannelEdit) :
    (ch.edit e).name = ch.name ∧
      (ch.edit e).members.map (·.client) = ch.members.map (·.client) ∧
      (ch.edit e).invites = ch.invites ∧
      (ch.edit e).chanservPolicyLoaded = ch.chanservPolicyLoaded ∧
      (ch.edit e).chanservPolicyValid = ch.chanservPolicyValid ∧
      (ch.edit e).chanservModeLock = ch.chanservModeLock ∧
      (ch.edit e).chanservSecureOps = ch.chanservSecureOps := by
  have hset : ∀ kind l, (ch.setMaskList kind l).name = ch.name ∧
      (ch.setMaskList kind l).members.map (·.client) = ch.members.map (·.client) ∧
      (ch.setMaskList kind l).invites = ch.invites ∧
      (ch.setMaskList kind l).chanservPolicyLoaded = ch.chanservPolicyLoaded ∧
      (ch.setMaskList kind l).chanservPolicyValid = ch.chanservPolicyValid ∧
      (ch.setMaskList kind l).chanservModeLock = ch.chanservModeLock ∧
      (ch.setMaskList kind l).chanservSecureOps = ch.chanservSecureOps := by
    intro kind l
    cases kind <;> exact ⟨rfl, rfl, rfl, rfl, rfl, rfl, rfl⟩
  cases e with
  | grant | revoke => exact ⟨rfl, ch.map_client_mapGrants _, rfl, rfl, rfl, rfl, rfl⟩
  | addMask kind mask authorized =>
    rw [edit]
    split
    · exact hset kind _
    · exact ⟨rfl, rfl, rfl, rfl, rfl, rfl, rfl⟩
  | removeMask kind mask => exact hset kind _
  | _ => exact ⟨rfl, rfl, rfl, rfl, rfl, rfl, rfl⟩

/-- Only a boolean edit changes the modes. -/
theorem modes_edit (ch : Channel) (e : ChannelEdit) :
    (ch.edit e).modes = match e with
      | .boolean bit on => if on then insert bit ch.modes else ch.modes.erase bit
      | _ => ch.modes := by
  have hset : ∀ kind l, (ch.setMaskList kind l).modes = ch.modes := by
    intro kind l; cases kind <;> rfl
  cases e with
  | addMask kind mask authorized =>
    rw [edit]
    split
    · exact hset kind _
    · rfl
  | removeMask kind mask => exact hset kind _
  | _ => rfl

/-- The record after a list of edits. -/
def edits (ch : Channel) (es : List ChannelEdit) : Channel := es.foldl Channel.edit ch

end Channel

/-! ## 2. Letters -/

theorem mem_signedLetters {l : Bool × Char} {adding : Bool} {letters : List Char}
    (h : l ∈ signedLetters adding letters) : l.2 ∈ letters := by
  induction letters generalizing adding with
  | nil => cases h
  | cons x rest ih =>
    rw [signedLetters] at h
    split at h
    · exact List.mem_cons_of_mem _ (ih h)
    · rcases List.mem_cons.mp h with rfl | h
      · exact List.mem_cons_self
      · exact List.mem_cons_of_mem _ (ih h)

theorem mem_channelModeLetters (h : channelBooleanModeBit letter = some bit) :
    (letter, bit) ∈ channelModeLetters := by
  unfold channelBooleanModeBit at h
  obtain ⟨x, hx, rfl⟩ := Option.map_eq_some_iff.mp h
  have := List.find?_some hx
  simp only [beq_iff_eq] at this
  rw [← this]
  exact List.mem_of_find?_eq_some hx

theorem takesParam_of_boolean {x : Char} (h : channelBooleanModeBit x = some bit) (adding : Bool) :
    Server.takesParam adding x = false := by
  have hall : ∀ y ∈ channelModeLetters, ∀ a : Bool, Server.takesParam a y.1 = false := by decide
  exact hall _ (mem_channelModeLetters h) adding

/-- Only `r` stands for +r. -/
theorem booleanBit_of_channelBooleanModeBit (h : channelBooleanModeBit letter = some bit)
    (hne : bit ≠ .registered) : booleanBit letter = some bit := by
  unfold booleanBit
  rw [if_neg, h]
  intro hr
  rw [beq_iff_eq.mp hr] at h
  exact hne (Option.some.inj h).symm

theorem booleanBit_ne_registered (h : booleanBit letter = some bit) : bit ≠ .registered := by
  unfold booleanBit at h
  split at h
  · cases h
  · rename_i hr
    rintro rfl
    have hmem := mem_channelModeLetters h
    simp [channelModeLetters] at hmem
    simp [hmem] at hr

namespace Server

variable {s s' : Server} {c : ClientRef} {ch : ChannelRef} 
  {adding : Bool} {letter : Char} {param : Option Text}

/-- The edits a letter may lead to, with what `mode_channel` made sure of first. -/
inductive LetterEdit (s : Server) (c : ClientRef) (ch : ChannelRef)
    (adding : Bool) (letter : Char) : ChannelEdit → Prop
  | boolean {bit : ChannelMode} (hbit : booleanBit letter = some bit) :
      LetterEdit s c ch adding letter (.boolean bit adding)
  | grant {subject : ClientRef} {p : ChannelPrivilege} (hp : channelPrivilegeBit letter = some p)
      (hadding : adding = true) (hin : s.inChannel ch subject = true)
      (hprotect : p = .protect → (s.channel ch).mayManageProtected c = true)
      (hsecure : (s.channel ch).chanservSecureOps = true →
        secureRank p ≤ privilegeRank (s.clientPrivileges subject (s.channel ch).name).1) :
      LetterEdit s c ch adding letter (.grant subject p)
  | revoke {subject : ClientRef} {p : ChannelPrivilege} (hp : channelPrivilegeBit letter = some p)
      (hadding : adding = false) (hin : s.inChannel ch subject = true)
      (hprotect : p = .protect → (s.channel ch).mayManageProtected c = true) :
      LetterEdit s c ch adding letter (.revoke subject p)
  | key (k : Text) : LetterEdit s c ch adding letter (.key k)
  | limit (n : Nat) : LetterEdit s c ch adding letter (.limit n)
  | throttle (count seconds : Nat) : LetterEdit s c ch adding letter (.throttle count seconds)
  | limitRedirect (t : Text) : LetterEdit s c ch adding letter (.limitRedirect t)
  | banRedirect (t : Text) : LetterEdit s c ch adding letter (.banRedirect t)
  | addMask (kind : MaskKind) (mask : Text) (authorized : Bool) :
      LetterEdit s c ch adding letter (.addMask kind mask authorized)
  | removeMask (kind : MaskKind) (mask : Text) :
      LetterEdit s c ch adding letter (.removeMask kind mask)

/-- Asking SecureOps reads the database and changes nothing else. -/
theorem silent_secureopsAllows (s : Server) (ch : ChannelRef) (subject : ClientRef)
    (p : ChannelPrivilege) :
    s.Silent (s.secureopsAllows ch subject p).2 ∧
      (s.secureopsAllows ch subject p).2.channel = s.channel := by
  unfold secureopsAllows
  split
  · exact ⟨.refl s, rfl⟩
  · exact ⟨s.silent_clientPrivileges _ _, rfl⟩

/-- Deciding a letter changes nothing; what it decides is one of the edits above. -/
structure LetterSpec (s : Server) (c : ClientRef) (ch : ChannelRef)
    (adding : Bool) (letter : Char) (decided : LetterOutcome × Server) : Prop where
  silent : s.Silent decided.2
  channel : decided.2.channel = s.channel
  edit : ∀ e consumes shown, decided.1 = .change e consumes shown →
    LetterEdit s c ch adding letter e

theorem modePrivilege_spec {p : ChannelPrivilege} (hp : channelPrivilegeBit letter = some p)
    (param : Text) :
    LetterSpec s c ch adding letter (s.modePrivilege c ch adding p param) := by
  unfold modePrivilege
  split
  · exact ⟨.refl s, rfl, fun _ _ _ h => by cases h⟩
  · rename_i subject hfind
    split
    · exact ⟨.refl s, rfl, fun _ _ _ h => by cases h⟩
    · rename_i hin
      replace hin : s.inChannel ch subject = true := by simpa using hin
      have hsecure : s.Silent (if adding = true then s.secureopsAllows ch subject p
          else (true, s)).2 ∧ (if adding = true then s.secureopsAllows ch subject p
          else (true, s)).2.channel = s.channel := by
        split
        · exact s.silent_secureopsAllows ch subject p
        · exact ⟨.refl s, rfl⟩
      have hrank : adding = true → (if adding = true then s.secureopsAllows ch subject p
          else (true, s)).1 = true → (s.channel ch).chanservSecureOps = true →
          secureRank p ≤ privilegeRank (s.clientPrivileges subject (s.channel ch).name).1 := by
        intro hadding hallowed hon
        rw [if_pos hadding, secureopsAllows, if_neg (by simp [hon])] at hallowed
        exact of_decide_eq_true hallowed
      generalize (if adding = true then s.secureopsAllows ch subject p else (true, s)) = q
        at hsecure hrank
      obtain ⟨allowed, s₁⟩ := q
      obtain ⟨hsilent, hchan⟩ := hsecure
      dsimp only at hsilent hchan hrank ⊢
      split
      · exact ⟨hsilent, hchan, fun _ _ _ h => by cases h⟩
      · rename_i hallowed
        split
        · exact ⟨hsilent, hchan, fun _ _ _ h => by cases h⟩
        · rename_i hprotect
          rw [hchan] at hprotect
          refine ⟨hsilent, hchan, fun e _ _ h => ?_⟩
          have hguard : p = .protect → (s.channel ch).mayManageProtected c = true :=
            fun hpp => by simpa [hpp] using hprotect
          cases adding <;> cases h
          · exact .revoke hp rfl hin hguard
          · exact .grant hp rfl hin hguard (hrank rfl (by simpa using hallowed))

theorem modeValue_spec {outcome : LetterOutcome} (h : modeValue adding letter param = some outcome) :
    ∀ e consumes shown, outcome = .change e consumes shown →
      LetterEdit s c ch adding letter e := by
  rintro e consumes shown rfl
  unfold modeValue at h
  split_ifs at h
  · replace h := Option.some.inj h
    split at h <;> cases h <;> exact .key _
  · replace h := Option.some.inj h
    split at h
    · cases h
    · split at h <;> cases h
      exact .limit _
    · cases h
      exact .limit _
  · replace h := Option.some.inj h
    split at h
    · cases h
    · split_ifs at h
      · cases h
      · split at h <;> cases h
        exact .throttle _ _
    · cases h
      exact .throttle _ _
  · replace h := Option.some.inj h
    split at h <;> cases h <;> exact .limitRedirect _
  · replace h := Option.some.inj h
    split at h <;> cases h <;> exact .banRedirect _

theorem modeMask_spec {kind : MaskKind} {mask : Text} {e : ChannelEdit} {consumes : Bool}
    {shown : Option Text} (h : s.modeMask c ch adding kind mask = .change e consumes shown) :
    LetterEdit s c ch adding letter e := by
  unfold modeMask at h
  split at h
  · cases h
    exact .removeMask _ _
  · dsimp only at h
    split at h <;> cases h
    exact .addMask _ _ _

/-- **One letter.** -/
theorem modeLetter_spec (s : Server) (c : ClientRef) (ch : ChannelRef)
    (adding : Bool) (letter : Char) (param : Option Text) :
    LetterSpec s c ch adding letter (s.modeLetter c ch adding letter param) := by
  have refused : ∀ code params consumes, LetterSpec s c ch adding letter
      (.refuse code params consumes, s) :=
    fun _ _ _ => ⟨.refl s, rfl, fun _ _ _ h => by cases h⟩
  unfold modeLetter
  split
  · exact refused ..
  · rename_i bit hreg hbit
    refine ⟨.refl s, rfl, fun e _ _ h => ?_⟩
    cases h
    exact .boolean (booleanBit_of_channelBooleanModeBit hbit hreg)
  · split
    · exact refused ..
    · rename_i p param hp
      exact modePrivilege_spec hp param
    · split
      · rename_i outcome hvalue
        exact ⟨.refl s, rfl, modeValue_spec hvalue⟩
      · split
        · exact ⟨.refl s, rfl, fun _ _ _ h => modeMask_spec h⟩
        · exact refused ..
        · exact refused ..

/-! ## 3. Mode strings -/

section Loop

variable {c : ClientRef} {x : ChannelRef} {mayChange adding : Bool} {letter : Char}
  {rest : List (Bool × Char)} {r : ModeRun}

/-- The three turns of the loop: a list query, a refusal, a letter. -/
theorem modeLoop_query {kind : MaskKind} (hkind : listKind letter = some kind)
    (hargs : r.args = []) : modeLoop c x mayChange ((adding, letter) :: rest) r =
      modeLoop c x mayChange rest { r with server := r.server.sendMaskList c x kind } := by
  rw [modeLoop]
  split
  · rename_i kind' _ hkind' _
    rw [hkind] at hkind'
    cases hkind'
    rfl
  · rename_i hno
    exact absurd hargs (hno kind hkind)

theorem modeLoop_refused (h : (listKind letter).isSome = true → r.args ≠ []) :
    modeLoop c x false ((adding, letter) :: rest) r =
      let refusal : List Field :=
        [(r.server.channel x).name, lit ":You're not channel operator"]
      (false, { r with server := r.server.numeric c 482 refusal }) := by
  rw [modeLoop]
  split
  · rename_i hkind hargs
    exact absurd hargs (h (by rw [hkind]; rfl))
  · rfl

theorem modeLoop_letter (h : (listKind letter).isSome = true → r.args ≠ []) :
    modeLoop c x true ((adding, letter) :: rest) r = modeLoop c x true rest
      (r.apply c x adding letter
        (r.server.modeLetter c x adding letter r.args.head?)) := by
  rw [modeLoop]
  split
  · rename_i hkind hargs
    exact absurd hargs (h (by rw [hkind]; rfl))
  · rfl

end Loop

/-- The induction behind every fact about a mode string: what output keeps and each decided
    letter keeps, the loop keeps. -/
theorem modeLoop_induct {P : ModeRun → Prop} {mayChange : Bool}
    (say : ∀ run ds, Replies ds → P run → P { run with server := run.server.deliver ds })
    (letter : mayChange = true → ∀ run, ∀ l ∈ letters, P run → P (run.apply c ch l.1 l.2
      (run.server.modeLetter c ch l.1 l.2 run.args.head?))) (h : P run) :
    P (modeLoop c ch mayChange letters run).2 := by
  induction letters generalizing run with
  | nil => exact h
  | cons l rest ih =>
    obtain ⟨adding, l⟩ := l
    have ih : ∀ {run' : ModeRun}, P run' → P (modeLoop c ch mayChange rest run').2 := fun h =>
      ih (fun hmay run l hl => letter hmay run l (List.mem_cons_of_mem _ hl)) h
    unfold modeLoop
    split
    · -- a list query is two deliveries
      refine ih (say _ _ (replies_one rfl) (say run _ (fun d hd => ?_) h))
      obtain ⟨e, -, rfl⟩ := List.mem_map.mp hd
      rfl
    · cases mayChange with
      | false => exact say run _ (replies_one rfl) h
      | true => exact ih (letter rfl run (adding, l) List.mem_cons_self h)

/-- The same for facts about the record of the channel, edit by edit. -/
theorem modeLoop_record_induct {P : Channel → Prop} {mayChange : Bool}
    (edit : ∀ s, ∀ l ∈ letters, ∀ e, LetterEdit s c ch l.1 l.2 e → P (s.channel ch) →
      P ((s.channel ch).edit e)) (h : P (run.server.channel ch)) :
    P ((modeLoop c ch mayChange letters run).2.server.channel ch) := by
  refine modeLoop_induct (P := fun run' => P (run'.server.channel ch)) (fun _ _ _ h => h) ?_ h
  rintro - run' l hl hrun
  obtain ⟨-, hchan, hedit⟩ := run'.server.modeLetter_spec c ch l.1 l.2 run'.args.head?
  generalize run'.server.modeLetter c ch l.1 l.2 run'.args.head? = decided at hchan hedit
  obtain ⟨outcome, s₁⟩ := decided
  dsimp only at hchan hedit
  cases outcome with
  | refuse code params consumes =>
    show P (s₁.channel ch)
    rw [hchan]; exact hrun
  | change e consumes shown =>
    show P ((s₁.updChannel ch (·.edit e)).channel ch)
    rw [updChannel_self, hchan]
    exact edit run'.server l hl e (hedit e consumes shown rfl) hrun

/-- What a mode string leaves behind: nobody moved, no table was written, only the channel's
    record changed, and it changed by the edits that were carried out. -/
structure ModeOutcome (s : Server) (ch : ChannelRef) (run : ModeRun) : Prop where
  quiet : s.Quiet run.server
  onlyRead : s.storage.OnlyRead run.server.storage
  edited : run.server.channel ch = (s.channel ch).edits run.edits
  others : ∀ ch', ch' ≠ ch → run.server.channel ch' = s.channel ch'

/-- One letter moves nobody. -/
theorem quiet_apply (run : ModeRun) (c : ClientRef) (ch : ChannelRef) (adding : Bool) (letter : Char)
    (param : Option Text) :
    run.server.Quiet (run.apply c ch adding letter
      (run.server.modeLetter c ch adding letter param)).server := by
  obtain ⟨hsilent, -, -⟩ := run.server.modeLetter_spec c ch adding letter param
  generalize run.server.modeLetter c ch adding letter param = decided at hsilent
  obtain ⟨outcome, s₁⟩ := decided
  cases outcome with
  | refuse code params consumes => exact hsilent.toQuiet.trans (quiet_deliver _ _)
  | change e consumes shown =>
    obtain ⟨hname, hmembers, hinvites, -⟩ := (s₁.channel ch).edit_keeps e
    exact hsilent.toQuiet.trans (s₁.quiet_updChannel ch (·.edit e) hname hmembers (hinvites ▸ .refl _))

theorem ModeOutcome.apply (h : ModeOutcome s ch run) (adding : Bool) (letter : Char)
    (param : Option Text) :
    ModeOutcome s ch (run.apply c ch adding letter
      (run.server.modeLetter c ch adding letter param)) := by
  have hquiet := h.quiet.trans (quiet_apply run c ch adding letter param)
  obtain ⟨hsilent, hchan, -⟩ := run.server.modeLetter_spec c ch adding letter param
  generalize run.server.modeLetter c ch adding letter param = decided at hsilent hchan hquiet
  obtain ⟨outcome, s₁⟩ := decided
  dsimp only at hsilent hchan
  cases outcome with
  | refuse code params consumes =>
    refine ⟨hquiet, h.onlyRead.trans hsilent.onlyRead, ?_, fun ch' hne => ?_⟩
    · show s₁.channel ch = _
      rw [hchan]; exact h.edited
    · show s₁.channel ch' = _
      rw [hchan]; exact h.others ch' hne
  | change e consumes shown =>
    refine ⟨hquiet, h.onlyRead.trans hsilent.onlyRead, ?_, fun ch' hne => ?_⟩
    · show (s₁.updChannel ch (·.edit e)).channel ch = (s.channel ch).edits (run.edits ++ [e])
      rw [updChannel_self, hchan, h.edited]
      simp [Channel.edits]
    · show (s₁.updChannel ch (·.edit e)).channel ch' = _
      rw [updChannel_of_ne _ _ _ _ hne, hchan, h.others ch' hne]

theorem modeOutcome_modeLoop (s : Server) (c : ClientRef) (ch : ChannelRef)
    (mayChange : Bool) (letters : List (Bool × Char))
    (args : List Text) :
    ModeOutcome s ch (modeLoop c ch mayChange letters { server := s, args := args }).2 := by
  refine modeLoop_induct (P := ModeOutcome s ch) ?_ ?_ ?_
  · intro run ds _ h
    exact ⟨h.quiet.trans (quiet_deliver _ _), h.onlyRead, h.edited, h.others⟩
  · intro _ run l _ h
    exact h.apply l.1 l.2 _
  · exact ⟨.refl s, .refl _, rfl, fun _ _ => rfl⟩

/-- Without the right to change modes nothing is edited. -/
theorem edits_modeLoop_of_not_mayChange : (modeLoop c ch false letters run).2.edits = run.edits :=
  modeLoop_induct (P := fun run' => run'.edits = run.edits) (fun _ _ _ h => h)
    (fun h => by cases h) rfl

end Server

end ScratchIrcd
