/-
  File:      ScratchIrcd/ModeSecrecy.lean
  Subject:   What MODE tells an outsider about a channel: the key and the mask lists, but only
             to the two queries that ask for them.

  Two states that differ in the key and the lists of one channel are one state and its image
  under `withSecrets`. Every function a MODE of an outsider runs through commutes with that map,
  unless it answers one of the queries.
-/
import ScratchIrcd.ModeRule

namespace ScratchIrcd

open CText

variable {x : ChannelRef} {modes : Option (Text × List Text)} {params target : Text}

/-! ## 1. Another key, other lists -/

/-- The record with another key and other mask lists. -/
def Channel.withSecrets (ch : Channel) (key : Text) (lists : MaskKind → List MaskEntry) :
    Channel :=
  { ch with
    key := key, banList := lists .ban, exceptionList := lists .exception
    inviteExceptionList := lists .invex }

/-- A channel's own key and lists. -/
theorem Channel.withSecrets_self (ch : Channel) : ch.withSecrets ch.key ch.maskList = ch := rfl

@[simp] theorem Channel.maskList_withSecrets (ch : Channel) (key : Text)
    (lists : MaskKind → List MaskEntry) (kind : MaskKind) :
    (ch.withSecrets key lists).maskList kind = lists kind := by
  cases kind <;> rfl

/-- ChanServ's answer does not depend on them. -/
theorem chanservPrivileges_withSecrets (d : Storage) (ch : Channel) (key : Text)
    (lists : MaskKind → List MaskEntry) (account name : Text) :
    chanservPrivileges d (some (ch.withSecrets key lists)) account name =
      chanservPrivileges d (some ch) account name := by
  unfold chanservPrivileges
  have hloaded : (ch.withSecrets key lists).chanservPolicyLoaded = ch.chanservPolicyLoaded := rfl
  simp only [Option.filter_some, hloaded]
  cases ch.chanservPolicyLoaded <;> rfl

/-- The letters of a 324 reply say that there is a key, not which. -/
theorem channelModeTexts_withSecrets (ch : Channel) {key : Text}
    (lists : MaskKind → List MaskEntry) (hkey : ch.key ≠ []) (hkey' : key ≠ []) :
    (Server.channelModeTexts (ch.withSecrets key lists)).1 = (Server.channelModeTexts ch).1 := by
  have h₁ : key.isEmpty = false := by simpa using hkey'
  have h₂ : ch.key.isEmpty = false := by simpa using hkey
  unfold Server.channelModeTexts
  simp only [Channel.withSecrets, h₁, h₂, Bool.false_eq_true, if_false, List.map_append, List.map_cons]
  rfl

namespace Server

/-- The state with another key and other lists on one channel. -/
def withSecrets (s : Server) (ch : ChannelRef) (key : Text) (lists : MaskKind → List MaskEntry) :
    Server := s.updChannel ch (·.withSecrets key lists)

section Commute

variable (s : Server) (ch : ChannelRef) (key : Text) (lists : MaskKind → List MaskEntry)

/-- Every record is the old one with some key and some lists. -/
theorem channel_withSecrets (x : ChannelRef) :
    ∃ k l, (s.withSecrets ch key lists).channel x = (s.channel x).withSecrets k l := by
  by_cases h : x = ch
  · subst h
    exact ⟨key, lists, updChannel_self ..⟩
  · exact ⟨_, _, (updChannel_of_ne _ _ _ _ h).trans (s.channel x).withSecrets_self.symm⟩

theorem channel_withSecrets_of_ne (h : x ≠ ch) :
    (s.withSecrets ch key lists).channel x = s.channel x := updChannel_of_ne _ _ _ _ h

theorem channel_withSecrets_self :
    (s.withSecrets ch key lists).channel ch = (s.channel ch).withSecrets key lists :=
  updChannel_self ..

@[simp] theorem client_withSecrets : (s.withSecrets ch key lists).client = s.client := rfl

@[simp] theorem config_withSecrets : (s.withSecrets ch key lists).config = s.config := rfl

@[simp] theorem ext_withSecrets : (s.withSecrets ch key lists).ext = s.ext := rfl

@[simp] theorem findNick_withSecrets (nick : Text) :
    (s.withSecrets ch key lists).findNick nick = s.findNick nick := rfl

@[simp] theorem findChannel_withSecrets (name : Text) :
    (s.withSecrets ch key lists).findChannel name = s.findChannel name := rfl

theorem clientPrivileges_withSecrets (c : ClientRef) (name : Text) :
    (s.withSecrets ch key lists).clientPrivileges c name =
      ((s.clientPrivileges c name).1, (s.clientPrivileges c name).2.withSecrets ch key lists) := by
  have hpair : ∀ s : Server, s.clientPrivileges c name =
      ((chanservPrivileges s.storage (s.liveChannel name) (s.client c).accountName name).1,
        { s with storage :=
          (chanservPrivileges s.storage (s.liveChannel name) (s.client c).accountName name).2 }) :=
    fun _ => rfl
  have hlive : chanservPrivileges (s.withSecrets ch key lists).storage
      ((s.withSecrets ch key lists).liveChannel name)
      ((s.withSecrets ch key lists).client c).accountName name =
      chanservPrivileges s.storage (s.liveChannel name) (s.client c).accountName name := by
    unfold liveChannel
    show chanservPrivileges s.storage ((s.findChannel name).map _) _ _ = _
    cases s.findChannel name with
    | none => rfl
    | some x =>
      obtain ⟨k, l, h⟩ := s.channel_withSecrets ch key lists x
      rw [Option.map_some, h, chanservPrivileges_withSecrets]
      rfl
  rw [hpair, hlive, hpair]
  rfl

/-! ## 2. MODE on another channel -/

variable {s ch}

theorem secureopsAllows_withSecrets (hx : x ≠ ch) (subject : ClientRef) (p : ChannelPrivilege) :
    (s.withSecrets ch key lists).secureopsAllows x subject p =
      ((s.secureopsAllows x subject p).1,
        (s.secureopsAllows x subject p).2.withSecrets ch key lists) := by
  unfold secureopsAllows
  rw [channel_withSecrets_of_ne _ _ _ _ hx, clientPrivileges_withSecrets]
  split <;> rfl

theorem modePrivilege_withSecrets (hx : x ≠ ch) (c : ClientRef)
    (adding : Bool) (p : ChannelPrivilege) (param : Text) :
    (s.withSecrets ch key lists).modePrivilege c x adding p param =
      ((s.modePrivilege c x adding p param).1,
        (s.modePrivilege c x adding p param).2.withSecrets ch key lists) := by
  unfold modePrivilege
  have hsame := s.channel_withSecrets_of_ne ch key lists hx
  have hin : ∀ subject, (s.withSecrets ch key lists).inChannel x subject = s.inChannel x subject :=
    fun subject => by rw [inChannel, hsame]; rfl
  rw [findNick_withSecrets]
  cases s.findNick param with
  | none => rfl
  | some subject =>
    dsimp only
    rw [hin, hsame]
    split
    · rfl
    · have hsecure : (if adding = true then
          (s.withSecrets ch key lists).secureopsAllows x subject p
          else (true, s.withSecrets ch key lists)) =
          ((if adding = true then s.secureopsAllows x subject p else (true, s)).1,
            (if adding = true then s.secureopsAllows x subject p else (true, s)).2.withSecrets
              ch key lists) := by
        split
        · exact secureopsAllows_withSecrets key lists hx subject p
        · rfl
      rw [hsecure]
      generalize (if adding = true then s.secureopsAllows x subject p else (true, s)) = asked
      obtain ⟨allowed, s₁⟩ := asked
      dsimp only
      rw [s₁.channel_withSecrets_of_ne ch key lists hx]
      split
      · rfl
      · split <;> rfl

theorem modeLetter_withSecrets (hx : x ≠ ch) (c : ClientRef)
    (adding : Bool) (letter : Char) (param : Option Text) :
    (s.withSecrets ch key lists).modeLetter c x adding letter param =
      ((s.modeLetter c x adding letter param).1,
        (s.modeLetter c x adding letter param).2.withSecrets ch key lists) := by
  unfold modeLetter
  have hsame := s.channel_withSecrets_of_ne ch key lists hx
  rw [hsame]
  split
  · rfl
  · rfl
  · split
    · rfl
    · exact modePrivilege_withSecrets key lists hx ..
    · split
      · rfl
      · split
        · unfold modeMask banTargetsProtected
          rw [hsame]
          rfl
        · rfl
        · rfl

/-- A run of the loop, with the other key and lists on the channel. -/
def ModeRun.withSecrets (run : ModeRun) (ch : ChannelRef) (key : Text)
    (lists : MaskKind → List MaskEntry) : ModeRun :=
  { run with server := run.server.withSecrets ch key lists }

theorem updChannel_withSecrets (hx : x ≠ ch) (f : Channel → Channel) :
    (s.withSecrets ch key lists).updChannel x f =
      (s.updChannel x f).withSecrets ch key lists := by
  unfold withSecrets updChannel
  dsimp only
  rw [Function.update_of_ne hx, Function.update_of_ne (Ne.symm hx), Function.update_comm hx]

theorem apply_withSecrets (hx : x ≠ ch) (run : ModeRun) (c : ClientRef) (adding : Bool)
    (letter : Char) (outcome : LetterOutcome) :
    (run.withSecrets ch key lists).apply c x adding letter (outcome, s.withSecrets ch key lists) =
      (run.apply c x adding letter (outcome, s)).withSecrets ch key lists := by
  cases outcome with
  | refuse code params consumes => rfl
  | change e consumes shown =>
    unfold ModeRun.apply ModeRun.withSecrets
    dsimp only
    rw [updChannel_withSecrets key lists hx]

theorem sendMaskList_withSecrets (x : ChannelRef) (c : ClientRef) (kind : MaskKind)
    (h : x = ch → lists kind = (s.channel ch).maskList kind) :
    (s.withSecrets ch key lists).sendMaskList c x kind =
      (s.sendMaskList c x kind).withSecrets ch key lists := by
  have hlist : ((s.withSecrets ch key lists).channel x).maskList kind =
      (s.channel x).maskList kind := by
    by_cases hx : x = ch
    · subst hx
      rw [channel_withSecrets_self, Channel.maskList_withSecrets, h rfl]
    · rw [channel_withSecrets_of_ne _ _ _ _ hx]
  have hname : ((s.withSecrets ch key lists).channel x).name = (s.channel x).name := by
    obtain ⟨k, l, h⟩ := s.channel_withSecrets ch key lists x
    rw [h]; rfl
  unfold sendMaskList
  dsimp only
  rw [hlist, hname]
  rfl

theorem numeric_withSecrets (s : Server) (ch : ChannelRef) (c : ClientRef) (code : Nat)
    (params : List Field) : (s.withSecrets ch key lists).numeric c code params =
      (s.numeric c code params).withSecrets ch key lists := rfl

theorem name_withSecrets (s : Server) (ch x : ChannelRef) :
    ((s.withSecrets ch key lists).channel x).name = (s.channel x).name := by
  obtain ⟨k, l, h⟩ := s.channel_withSecrets ch key lists x
  rw [h]; rfl

/-- The loop of a MODE on another channel. -/
theorem modeLoop_withSecrets (hx : x ≠ ch) (c : ClientRef) (mayChange : Bool)
    (letters : List (Bool × Char)) (run : ModeRun) :
    modeLoop c x mayChange letters (run.withSecrets ch key lists) =
      ((modeLoop c x mayChange letters run).1,
        (modeLoop c x mayChange letters run).2.withSecrets ch key lists) := by
  induction letters generalizing run with
  | nil => rfl
  | cons l rest ih =>
    obtain ⟨adding, letter⟩ := l
    by_cases hquery : (listKind letter).isSome = true → run.args ≠ []
    · cases mayChange with
      | false =>
        rw [modeLoop_refused hquery, modeLoop_refused (r := run.withSecrets ch key lists) hquery]
        dsimp only [ModeRun.withSecrets]
        rw [name_withSecrets, numeric_withSecrets]
      | true =>
        have hletter := modeLetter_withSecrets (s := run.server) key lists hx c adding letter
          run.args.head?
        rw [modeLoop_letter hquery, modeLoop_letter (r := run.withSecrets ch key lists) hquery, ← ih]
        refine congrArg (modeLoop c x true rest) ?_
        exact (congrArg ((run.withSecrets ch key lists).apply c x adding letter) hletter).trans
          (apply_withSecrets key lists hx run ..)
    · obtain ⟨hkind, hargs⟩ := Classical.not_imp.mp hquery
      obtain ⟨kind, hkind⟩ := Option.isSome_iff_exists.mp hkind
      replace hargs := not_not.mp hargs
      have hsend := sendMaskList_withSecrets (s := run.server) key lists x c kind
        fun heq => absurd heq hx
      rw [modeLoop_query hkind hargs,
        modeLoop_query (r := run.withSecrets ch key lists) hkind hargs, ← ih]
      exact congrArg (fun s => modeLoop c x mayChange rest { run with server := s }) hsend

theorem modeChannel_withSecrets_other (hx : x ≠ ch) (c : ClientRef)
    (letters : Text) (args : List Text) :
    (s.withSecrets ch key lists).modeChannel c x letters args =
      (s.modeChannel c x letters args).withSecrets ch key lists := by
  have hloop := modeLoop_withSecrets key lists hx c ((s.channel x).mayChange c)
    (signedLetters true letters) { server := s, args := args }
  unfold modeChannel
  rw [channel_withSecrets_of_ne _ _ _ _ hx]
  rw [show ({ server := s.withSecrets ch key lists, args := args } : ModeRun) =
    ModeRun.withSecrets { server := s, args := args } ch key lists from rfl, hloop]
  generalize modeLoop c x ((s.channel x).mayChange c) (signedLetters true letters)
    { server := s, args := args } = result
  obtain ⟨_ | _, run⟩ := result
  · rfl
  · show (if run.changed.isEmpty = true then run.server.withSecrets ch key lists else
      ((run.server.withSecrets ch key lists).announceModes c x run.changed
        run.changedParams).persistChannel x) = _
    dsimp only
    have hsame := run.server.channel_withSecrets_of_ne ch key lists hx
    have hannounce : (run.server.withSecrets ch key lists).announceModes c x run.changed
        run.changedParams = (run.server.announceModes c x run.changed
          run.changedParams).withSecrets ch key lists := by
      have hcast : ∀ l, (run.server.withSecrets ch key lists).broadcast x none l =
          (run.server.broadcast x none l).withSecrets ch key lists := by
        intro l
        unfold broadcast memberRefs
        rw [hsame]
        rfl
      unfold announceModes
      rw [hsame]
      dsimp only
      have hfits : ∀ l, (run.server.withSecrets ch key lists).fits l = run.server.fits l :=
        fun _ => rfl
      rw [hcast, hcast, hfits, hfits, show (run.server.withSecrets ch key lists).userSource c =
        run.server.userSource c from rfl]
      split_ifs <;> rfl
    rw [hannounce]
    split
    · rfl
    · unfold persistChannel
      rw [channel_withSecrets_of_ne _ _ _ _ hx]
      rfl

/-! ## 3. MODE of an outsider -/

/-- The lists a mode string without parameters asks for: the letters up to the first that is no
    list. -/
def askedLists : List (Bool × Char) → List MaskKind
  | [] => []
  | (_, letter) :: rest =>
      match listKind letter with
      | some kind => kind :: askedLists rest
      | none => []

variable (ch) in
/-- Without the right to change anything: list queries, or 482 and the end. -/
theorem modeLoop_withSecrets_outsider (c : ClientRef) (letters : List (Bool × Char)) (run : ModeRun)
    (hlists : run.args = [] → ∀ kind ∈ askedLists letters,
      lists kind = (run.server.channel ch).maskList kind) :
    modeLoop c ch false letters (run.withSecrets ch key lists) =
      ((modeLoop c ch false letters run).1,
        (modeLoop c ch false letters run).2.withSecrets ch key lists) ∧
      (modeLoop c ch false letters run).2.changed = run.changed := by
  induction letters generalizing run with
  | nil => exact ⟨rfl, rfl⟩
  | cons l rest ih =>
    obtain ⟨adding, letter⟩ := l
    by_cases hquery : (listKind letter).isSome = true → run.args ≠ []
    · rw [modeLoop_refused hquery, modeLoop_refused (r := run.withSecrets ch key lists) hquery]
      dsimp only [ModeRun.withSecrets]
      rw [name_withSecrets, numeric_withSecrets]
      exact ⟨rfl, rfl⟩
    · obtain ⟨hkind, hargs⟩ := Classical.not_imp.mp hquery
      obtain ⟨kind, hkind⟩ := Option.isSome_iff_exists.mp hkind
      replace hargs := not_not.mp hargs
      have hasked : askedLists ((adding, letter) :: rest) = kind :: askedLists rest := by
        rw [askedLists, hkind]
      rw [hasked] at hlists
      have hnext := ih { run with server := run.server.sendMaskList c ch kind }
        fun h kind' hkind' => hlists h kind' (List.mem_cons_of_mem _ hkind')
      rw [modeLoop_query hkind hargs,
        modeLoop_query (r := run.withSecrets ch key lists) hkind hargs, ← hnext.1]
      have hsend := sendMaskList_withSecrets (s := run.server) key lists ch c kind
        fun _ => hlists hargs kind List.mem_cons_self
      exact ⟨congrArg (fun s => modeLoop c ch false rest { run with server := s }) hsend, hnext.2⟩

theorem modeChannel_withSecrets_outsider (c : ClientRef) (letters : Text) (args : List Text)
    (hout : s.inChannel ch c = false)
    (hlists : args = [] → ∀ kind ∈ askedLists (signedLetters true letters),
      lists kind = (s.channel ch).maskList kind) :
    (s.withSecrets ch key lists).modeChannel c ch letters args =
      (s.modeChannel c ch letters args).withSecrets ch key lists := by
  have hmay : (s.channel ch).mayChange c = false := by
    have hnone : (s.channel ch).findMember c = none := by
      simpa [inChannel, Channel.hasClient] using hout
    simp [Channel.mayChange, Channel.memberHas, hnone]
  have hmay' : ((s.withSecrets ch key lists).channel ch).mayChange c = false := by
    rw [channel_withSecrets_self]; exact hmay
  obtain ⟨hloop, hchanged⟩ := modeLoop_withSecrets_outsider ch key lists c
    (signedLetters true letters) { server := s, args := args } hlists
  unfold modeChannel
  rw [hmay, hmay']
  rw [show ({ server := s.withSecrets ch key lists, args := args } : ModeRun) =
    ModeRun.withSecrets { server := s, args := args } ch key lists from rfl, hloop]
  generalize modeLoop c ch false (signedLetters true letters) { server := s, args := args } = result
    at hchanged
  obtain ⟨_ | _, run⟩ := result
  · rfl
  · -- nothing was changed, so nothing is announced or saved
    dsimp only at hchanged ⊢
    rw [show (run.withSecrets ch key lists).changed = run.changed from rfl, hchanged]
    rfl

/-! ## 4. The layers -/

theorem modeUser_withSecrets (s : Server) (ch : ChannelRef) (c : ClientRef) (target : Text)
    (modes : Option Text) : (s.withSecrets ch key lists).modeUser c target modes =
      (s.modeUser c target modes).withSecrets ch key lists := by
  have hfold : ∀ (ls : List (Bool × Char)) (s : Server),
      ls.foldl (modeUserLetter c) (s.withSecrets ch key lists) =
        (ls.foldl (modeUserLetter c) s).withSecrets ch key lists := by
    intro ls
    induction ls with
    | nil => exact fun _ => rfl
    | cons l ls ih =>
      intro s
      rw [List.foldl_cons, List.foldl_cons, ← ih]
      refine congrArg (ls.foldl (modeUserLetter c)) ?_
      unfold modeUserLetter
      split
      · rfl
      · split <;> rfl
  unfold modeUser
  rw [findNick_withSecrets]
  split
  · rfl
  · split
    · rfl
    · dsimp only
      rw [hfold]
      rfl

/-- The lists a MODE asks a channel for: a mode string of list letters, without parameters. -/
def modeAsksLists (s : Server) (ch : ChannelRef) (params : Option Text) : List MaskKind :=
  match params.bind modeWords with
  | some (target, some (letters, [])) =>
      if startsChannel target && decide (s.findChannel target = some ch) then
        askedLists (signedLetters true letters)
      else []
  | _ => []

/-- A MODE asks a channel for its key: no mode string at all. -/
def modeAsksKey (s : Server) (ch : ChannelRef) (params : Option Text) : Bool :=
  match params.bind modeWords with
  | some (target, none) => startsChannel target && decide (s.modeTarget target = some ch)
  | _ => false

theorem commandModeCore_withSecrets (c : ClientRef) (params : Option Text)
    (hkey : (s.channel ch).key ≠ []) (hkey' : key ≠ []) (hout : s.inChannel ch c = false)
    (hlists : ∀ kind ∈ s.modeAsksLists ch params, lists kind = (s.channel ch).maskList kind) :
    (s.withSecrets ch key lists).commandModeCore c params =
      (s.commandModeCore c params).withSecrets ch key lists := by
  unfold commandModeCore
  rw [client_withSecrets]
  split
  · rfl
  · cases params with
    | none => rfl
    | some params =>
      dsimp only
      cases hwords : modeWords params with
      | none => rfl
      | some words =>
        obtain ⟨target, modes⟩ := words
        dsimp only
        cases hstarts : startsChannel target with
        | false => exact modeUser_withSecrets key lists s ch c _ _
        | true =>
          simp only [Bool.not_true, Bool.false_eq_true, if_false]
          rw [findChannel_withSecrets]
          cases hfind : s.findChannel target with
          | none => rfl
          | some x =>
            dsimp only
            cases modes with
            | none =>
              dsimp only
              by_cases hx : x = ch
              · subst hx
                rw [channel_withSecrets_self, channelModeTexts_withSecrets _ _ hkey hkey']
                rfl
              · rw [channel_withSecrets_of_ne _ _ _ _ hx]
                rfl
            | some modes =>
              obtain ⟨letters, args⟩ := modes
              dsimp only
              by_cases hx : x = ch
              · subst hx
                refine modeChannel_withSecrets_outsider key lists c letters args hout ?_
                rintro rfl kind hkind
                refine hlists kind ?_
                simpa [modeAsksLists, hwords, hstarts, hfind] using hkind
              · exact modeChannel_withSecrets_other key lists hx c letters args

/-- What the ChanServ layer checks first has nothing to do with key or lists. -/
theorem mlockRefuses_withSecrets (chan : Channel) (letters : Text) :
    mlockRefuses (chan.withSecrets key lists) letters = mlockRefuses chan letters := rfl

section

variable (s : Server) (c : ClientRef)

theorem validateParams_withSecrets (chan : Channel) (letters : List (Bool × Char))
    (args : List Text) :
    validateParams (chan.withSecrets key lists) letters args = validateParams chan letters args := by
  induction letters generalizing args with
  | nil => rfl
  | cons l rest ih =>
    obtain ⟨adding, letter⟩ := l
    rw [validateParams, validateParams, ih]
    rfl

variable (ch) in
/-- A loop over letters that commutes letter by letter. -/
theorem foldl_withSecrets {f : SpecialModes → Bool × Char → SpecialModes}
    (hf : ∀ st l, f { st with server := st.server.withSecrets ch key lists } l =
      { f st l with server := (f st l).server.withSecrets ch key lists })
    (ls : List (Bool × Char)) (st : SpecialModes) :
    ls.foldl f { st with server := st.server.withSecrets ch key lists } =
      { ls.foldl f st with server := (ls.foldl f st).server.withSecrets ch key lists } := by
  induction ls generalizing st with
  | nil => rfl
  | cons l ls ih => rw [List.foldl_cons, List.foldl_cons, hf, ih]

variable (ch) in
/-- `command_mode_core` on a user. -/
theorem commandModeCore_withSecrets_user (hwords : modeWords params = some (target, modes))
    (huser : startsChannel target = false) :
    (s.withSecrets ch key lists).commandModeCore c (some params) =
      (s.commandModeCore c (some params)).withSecrets ch key lists := by
  unfold commandModeCore
  rw [client_withSecrets]
  dsimp only
  rw [hwords]
  dsimp only
  rw [huser]
  split
  · rfl
  · exact modeUser_withSecrets key lists s ch c _ _

theorem specialUserModes_withSecrets {letters : Text}
    (hwords : modeWords params = some (target, modes)) (huser : startsChannel target = false) :
    (s.withSecrets ch key lists).specialUserModes c target letters =
      (s.specialUserModes c target letters).map (·.withSecrets ch key lists) := by
  have hfold := foldl_withSecrets ch key lists
    (f := specialModeLetter c (s.client c).isOper) (fun st l => by
      unfold specialModeLetter
      split
      · rfl
      · split
        · dsimp only
          split <;> rfl
        · rfl) (signedLetters true letters) { server := s }
  unfold specialUserModes
  rw [findNick_withSecrets, client_withSecrets]
  split
  · rfl
  · dsimp only at hfold ⊢
    rw [hfold]
    generalize (signedLetters true letters).foldl (specialModeLetter c (s.client c).isOper)
      { server := s } = st
    dsimp only
    split
    · rfl
    · obtain ⟨hmore, hbare⟩ := modeWords_target hwords st.filtered
      refine congrArg some ?_
      split
      · obtain ⟨⟨_, _⟩, hw, rfl⟩ := Option.map_eq_some_iff.mp hbare
        exact commandModeCore_withSecrets_user _ key lists _ c hw huser
      · obtain ⟨⟨_, _⟩, hw, rfl⟩ := Option.map_eq_some_iff.mp hmore
        exact commandModeCore_withSecrets_user _ key lists _ c hw huser

/-- A MODE on a user, from mode_persist.c down. -/
theorem commandModePolicy_withSecrets_user (hwords : modeWords params = some (target, modes))
    (huser : startsChannel target = false) :
    (s.withSecrets ch key lists).commandModePolicy c (some params) =
      (s.commandModePolicy c (some params)).withSecrets ch key lists := by
  have core := commandModeCore_withSecrets_user ch key lists s c hwords huser
  unfold commandModePolicy
  dsimp only
  rw [hwords]
  dsimp only
  rw [huser, if_neg Bool.false_ne_true, if_neg Bool.false_ne_true]
  cases modes with
  | none => exact core
  | some modes =>
    obtain ⟨letters, args⟩ := modes
    dsimp only
    rw [specialUserModes_withSecrets key lists s c hwords huser]
    cases s.specialUserModes c target letters with
    | none => exact core
    | some s' => rfl

theorem controlCloak_withSecrets (adding : Bool) :
    (s.withSecrets ch key lists).controlCloak c adding =
      (s.controlCloak c adding).withSecrets ch key lists := by
  unfold controlCloak
  dsimp only
  rw [client_withSecrets, config_withSecrets, ext_withSecrets]
  split_ifs <;> rfl

theorem modeSelf_withSecrets (letters : Text) (rest : Option Text) (hne : target ≠ [])
    (hno : ∀ x ∈ target, (x == ' ') = false) (huser : startsChannel target = false) :
    (s.withSecrets ch key lists).modeSelf c target letters rest =
      (s.modeSelf c target letters rest).withSecrets ch key lists := by
  have hfold := foldl_withSecrets ch key lists (f := controlLetter c) (fun st l => by
      unfold controlLetter
      split
      · rfl
      · split
        · rw [controlCloak_withSecrets]
        · rfl) (signedLetters true letters) { server := s }
  -- whatever is forwarded starts with the same word
  have forward : ∀ (s : Server) tail,
      (s.withSecrets ch key lists).commandModePolicy c (some (target ++ ' ' :: tail)) =
        (s.commandModePolicy c (some (target ++ ' ' :: tail))).withSecrets ch key lists := by
    intro s tail
    exact commandModePolicy_withSecrets_user key lists s c (modeWords_append hne hno) huser
  unfold modeSelf
  dsimp only at hfold ⊢
  rw [hfold]
  generalize (signedLetters true letters).foldl (controlLetter c) { server := s } = st
  dsimp only
  rw [List.append_assoc, List.cons_append, forward]
  split <;> split <;> rfl

end

/-- **One MODE of an outsider, in both states.** -/
theorem out_dispatchMode_withSecrets (c : ClientRef) (params : Option Text)
    (hkey : (s.channel ch).key ≠ []) (hkey' : key ≠ []) (hout : s.inChannel ch c = false)
    (hask : s.modeAsksKey ch params = true → key = (s.channel ch).key)
    (hlists : ∀ kind ∈ s.modeAsksLists ch params, lists kind = (s.channel ch).maskList kind) :
    ((s.withSecrets ch key lists).dispatchMode c params).out = (s.dispatchMode c params).out := by
  have core : ((s.withSecrets ch key lists).commandModeCore c params).out =
      (s.commandModeCore c params).out := by
    rw [commandModeCore_withSecrets key lists c params hkey hkey' hout hlists]
    rfl
  have policy : ((s.withSecrets ch key lists).commandModePolicy c params).out =
      (s.commandModePolicy c params).out := by
    cases params with
    | none => exact core
    | some params =>
      cases hwords : modeWords params with
      | none =>
        unfold commandModePolicy
        dsimp only
        rw [hwords]
        exact core
      | some words =>
        obtain ⟨target, modes⟩ := words
        cases hstarts : startsChannel target with
        | false =>
          rw [commandModePolicy_withSecrets_user key lists s c hwords hstarts]
          rfl
        | true =>
          unfold commandModePolicy
          dsimp only
          rw [hwords]
          dsimp only
          rw [hstarts, if_pos rfl, if_pos rfl,
            show (s.withSecrets ch key lists).modeTarget target = s.modeTarget target from rfl]
          cases htarget : s.modeTarget target with
          | none => exact (out_modeSave ..).trans (core.trans (out_modeSave ..).symm)
          | some x =>
            cases modes with
            | none =>
              dsimp only
              rw [client_withSecrets]
              split
              · rfl
              · have hsame : (s.withSecrets ch key lists).channel x = s.channel x ∨
                    ∃ l, (s.withSecrets ch key lists).channel x =
                      (s.channel x).withSecrets (s.channel x).key l := by
                  by_cases hx : x = ch
                  · subst hx
                    rw [channel_withSecrets_self,
                      hask (by simp [modeAsksKey, hwords, hstarts, htarget])]
                    exact .inr ⟨lists, rfl⟩
                  · exact .inl (channel_withSecrets_of_ne _ _ _ _ hx)
                unfold sendChannelModes
                rcases hsame with hsame | ⟨l, hsame⟩ <;> rw [hsame] <;> rfl
            | some modes =>
              obtain ⟨letters, args⟩ := modes
              obtain ⟨k, l, hrec⟩ := s.channel_withSecrets ch key lists x
              dsimp only
              unfold modeChannelPolicy
              rw [hrec, mlockRefuses_withSecrets, validateParams_withSecrets]
              split
              · rfl
              · split
                · rfl
                · exact (out_modeSave ..).trans
                    (core.trans (out_modeSave ..).symm)
  unfold dispatchMode
  rw [client_withSecrets]
  split
  · unfold commandMode
    rw [client_withSecrets]
    split
    · exact policy
    · rename_i target rest htok
      obtain ⟨params', -, htok⟩ := Option.bind_eq_some_iff.mp htok
      obtain ⟨hne, hno⟩ := strtok_token htok
      split
      · exact policy
      · split
        · split <;> rfl
        · split
          · exact policy
          · rename_i huser
            split
            · rfl
            · rw [modeSelf_withSecrets key lists s c _ _ hne hno (by simpa using huser)]
              rfl
  · rfl

end Commute

/-! ## 5. What an outsider learns -/

/-- The two states differ in the key, which both have, and the lists of one channel. -/
structure DifferInSecrets (a b : Server) (ch : ChannelRef) : Prop where
  same : b = a.withSecrets ch (b.channel ch).key (b.channel ch).maskList
  key : (a.channel ch).key ≠ []
  key' : (b.channel ch).key ≠ []

/-- The bytes a MODE line sends back to its sender, line by line. -/
def modeReply (s : Server) (c : ClientRef) (params : Option Text) : List Text :=
  (((s.dispatchMode c params).out.drop s.out.length).filter (·.dest == c)).map
    (·.line.wire s.config.serverName)

/-- **MODE tells an outsider what it asked for and nothing else**: two states that agree on the
    key, if the line is a bare query, and on the lists it asks for answer with the same bytes. -/
theorem mode_reveals_only_asked (a b : Server) (ch : ChannelRef) (c : ClientRef)
    (params : Option Text) (hdiffer : a.DifferInSecrets b ch) (hout : a.inChannel ch c = false)
    (hkey : a.modeAsksKey ch params = true → (b.channel ch).key = (a.channel ch).key)
    (hlists : ∀ kind ∈ a.modeAsksLists ch params,
      (b.channel ch).maskList kind = (a.channel ch).maskList kind) :
    b.modeReply c params = a.modeReply c params := by
  have hsent := out_dispatchMode_withSecrets (s := a) (b.channel ch).key (b.channel ch).maskList c
    params hdiffer.key hdiffer.key' hout hkey hlists
  rw [← hdiffer.same] at hsent
  have hbefore : b.out = a.out := by rw [hdiffer.same]; rfl
  have hconfig : b.config = a.config := by rw [hdiffer.same]; rfl
  unfold modeReply
  rw [hsent, hbefore, hconfig]

theorem differInSecrets_withSecrets (s : Server) {ch : ChannelRef} {key : Text}
    (lists : MaskKind → List MaskEntry) (h : (s.channel ch).key ≠ []) (h' : key ≠ []) :
    s.DifferInSecrets (s.withSecrets ch key lists) ch := by
  refine ⟨?_, h, by rw [channel_withSecrets_self]; exact h'⟩
  have hlists : ((s.channel ch).withSecrets key lists).maskList = lists :=
    funext fun kind => Channel.maskList_withSecrets _ _ _ kind
  rw [channel_withSecrets_self, hlists]
  rfl

/-- A channel with a key and a ban, and a registered client outside it. -/
def keyedChannel : Server :=
  { Server.initial {} {} {} with
    clients := [0]
    client := fun _ => { id := 1, registered := true, nick := "eve".toList, user := "e".toList
                         displayHost := "host".toList }
    channelsByName := (ChainedTable.empty 4093 buckets_pos).set "#vault".toList 0
    channel := fun _ => { name := "#vault".toList, key := "sesame".toList
                          banList := [{ mask := "*!*@bad".toList }] }
    nextChannel := 1
    channelCount := 1 }

/-- The same with another key and another ban. -/
def otherSecrets : Server :=
  keyedChannel.withSecrets 0 "mellon".toList fun
    | .ban => [{ mask := "*!*@worse".toList }]
    | _ => []

theorem differInSecrets_keyedChannel : keyedChannel.DifferInSecrets otherSecrets 0 :=
  keyedChannel.differInSecrets_withSecrets _ (by decide) (by decide)

/-- Asking for the exceptions, which agree, tells the outsider nothing about key and bans. -/
theorem mode_reveals_only_asked_exceptions :
    otherSecrets.modeReply 0 (some "#vault e".toList) =
      keyedChannel.modeReply 0 (some "#vault e".toList) :=
  mode_reveals_only_asked keyedChannel otherSecrets 0 0 _ differInSecrets_keyedChannel (by decide)
    (fun h => absurd h (by decide +kernel)) (by decide +kernel)

/-- A bare MODE shows the key and a list query the bans, to a client outside the channel that is
    no operator. -/
theorem mode_reveals_key_and_bans :
    keyedChannel.DifferInSecrets otherSecrets 0 ∧ keyedChannel.inChannel 0 0 = false ∧
      (keyedChannel.client 0).registered = true ∧ (keyedChannel.client 0).isOper = false ∧
      keyedChannel.modeReply 0 (some "#vault".toList) =
        [":scratch.local 324 eve #vault +k sesame".toList] ∧
      otherSecrets.modeReply 0 (some "#vault".toList) =
        [":scratch.local 324 eve #vault +k mellon".toList] ∧
      otherSecrets.modeReply 0 (some "#vault b".toList) ≠
        keyedChannel.modeReply 0 (some "#vault b".toList) :=
  ⟨differInSecrets_keyedChannel, by decide, rfl, by decide, by decide +kernel, by decide +kernel,
    by decide +kernel⟩

end Server

end ScratchIrcd
