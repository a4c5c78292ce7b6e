/-
  File:      ScratchIrcd/Mlock.lean
  Subject:   SET MLOCK: the modes it leaves on a live channel and the letters it announces, against
             the lock that was parsed (src/chanserv.c).

  Three tables of letters meet. The parser knows sixteen modes; what is cleared before the lock is
  put on, and what is announced after, goes through fifteen: +s is not among them.
-/
import ScratchIrcd.ChanServ
import ScratchIrcd.Listen
import Mathlib.Data.Bool.AllAny
import Mathlib.Data.Finset.SymmDiff

namespace ScratchIrcd

open CText

variable {bit : ChannelMode} {after before : ChannelModeSet} {letters : Text}

/-! ## 1. Tables -/

/-- The letters of the modes that may be locked, as ChanServ documents them. -/
def lockableLetters : Text := "AciKMmnOpRSstTVz".toList

/-- The lockable modes among the modes of a channel. -/
def lockable (modes : ChannelModeSet) : ChannelModeSet :=
  modes.filter fun bit => lockableLetters.any fun x => persistentModeBit x == some bit

theorem mem_lockable {modes : ChannelModeSet} :
    bit ∈ lockable modes ↔ bit ∈ modes ∧ bit ≠ .registered := by
  rw [lockable, Finset.mem_filter]
  refine and_congr_right fun _ => ?_
  cases bit <;> decide

/-- A lockable mode differs between two mode words. -/
theorem mem_symmDiff_lockable (h : bit ≠ .registered) :
    bit ∈ symmDiff (lockable before) (lockable after) ↔ (bit ∈ before ↔ bit ∉ after) := by
  by_cases hb : bit ∈ before <;> by_cases ha : bit ∈ after <;>
    simp [Finset.mem_symmDiff, mem_lockable, h, hb, ha]

theorem mem_persistentModeMask : bit ∈ persistentModeMask ↔ bit ≠ .registered ∧ bit ≠ .secret := by
  cases bit <;> decide

/-- The parser accepts lockable modes only. -/
theorem registered_not_mem_parseModeLock {text : Text} {lock : ChannelModeSet}
    (h : parseModeLock text = some lock) : ChannelMode.registered ∉ lock := by
  have bits : ∀ x bit, persistentModeBit x = some bit → bit ≠ .registered := by
    intro x bit hx
    unfold persistentModeBit booleanBit at hx
    split at hx
    · cases hx
    · rename_i hr
      rintro rfl
      unfold channelBooleanModeBit at hx
      obtain ⟨⟨y, bit⟩, hfind, rfl⟩ := Option.map_eq_some_iff.mp hx
      have hy := List.find?_some hfind
      have hmem := List.mem_of_find?_eq_some hfind
      simp only [channelModeLetters, List.mem_cons, List.not_mem_nil, or_false, Prod.mk.injEq,
        reduceCtorEq, and_false, false_or, and_true] at hmem
      subst hmem
      exact hr (by rw [beq_iff_eq] at hy ⊢; exact hy.symm)
  unfold parseModeLock at h
  generalize signedLetters true text = letters at h
  suffices hall : ∀ acc : ChannelModeSet, ChannelMode.registered ∉ acc →
      letters.foldlM (fun lock l => (persistentModeBit l.2).map fun bit =>
        if l.1 then insert bit lock else lock.erase bit) acc = some lock →
      ChannelMode.registered ∉ lock from hall ∅ (by simp) h
  clear h
  induction letters with
  | nil =>
    intro acc hacc h
    cases h
    exact hacc
  | cons l letters ih =>
    intro acc hacc h
    rw [List.foldlM_cons] at h
    obtain ⟨next, hnext, h⟩ := Option.bind_eq_some_iff.mp h
    obtain ⟨bit, hbit, rfl⟩ := Option.map_eq_some_iff.mp hnext
    refine ih _ ?_ h
    have hne := bits _ _ hbit
    split
    · simpa [hne.symm] using hacc
    · simp [hacc]

/-! ## 2. The announcement -/

/-- The signed letters of what differs between two mode words, in the order of a table. -/
def modeChanges (before after : ChannelModeSet) (letters : Text) : List (Bool × Char) :=
  letters.filterMap fun x => (persistentModeBit x).bind fun bit =>
    if decide (bit ∈ before) == decide (bit ∈ after) then none else some (decide (bit ∈ after), x)

/-- What `broadcast_service_mode_change` writes reads back as the changes. -/
theorem signedLetters_modeDifference (hsign : ∀ x ∈ letters, isSign x = false)
    (sign : Option Bool) (adding : Bool) (h : sign = none ∨ sign = some adding) :
    signedLetters adding (modeDifference before after sign letters) =
      modeChanges before after letters := by
  induction letters generalizing sign adding with
  | nil => rfl
  | cons x letters ih =>
    have hrest : ∀ y ∈ letters, isSign y = false := fun y hy => hsign y (List.mem_cons_of_mem _ hy)
    have hx : isSign x = false := hsign x List.mem_cons_self
    rw [modeDifference, modeChanges, List.filterMap_cons]
    cases hbit : persistentModeBit x with
    | none => exact ih hrest sign adding h
    | some bit =>
      dsimp only [Option.bind_some]
      by_cases hsame : (decide (bit ∈ before) == decide (bit ∈ after)) = true
      · rw [if_pos hsame, if_pos hsame]
        exact ih hrest sign adding h
      · rw [if_neg hsame, if_neg hsame]
        -- the sign that is due is the one a reader has after it
        have hread : signedLetters adding ((if sign = some (decide (bit ∈ after)) then []
            else [signChar (decide (bit ∈ after))]) ++
            x :: modeDifference before after (some (decide (bit ∈ after))) letters) =
            signedLetters (decide (bit ∈ after))
              (x :: modeDifference before after (some (decide (bit ∈ after))) letters) := by
          split
          · rename_i hsome
            rcases h with h | h
            · rw [h] at hsome; cases hsome
            · rw [h] at hsome
              rw [Option.some.inj hsome]
              rfl
          · cases decide (bit ∈ after) <;> rfl
        rw [hread, signedLetters, if_neg (by simp [hx])]
        exact congrArg _ (ih hrest _ _ (.inr rfl))

-- Over the letters of the list: `decide` on the bounded quantifier may go through every character.
theorem isSign_persistentLetters : ∀ x ∈ persistentLetters, isSign x = false :=
  List.all_iff_forall_prop.mp (by decide)

theorem mem_modeChanges {adding : Bool} {x : Char} :
    (adding, x) ∈ modeChanges before after letters ↔
      x ∈ letters ∧ ∃ bit, persistentModeBit x = some bit ∧
        ((bit ∈ before) ↔ ¬ (bit ∈ after)) ∧ (adding = true ↔ bit ∈ after) := by
  simp only [modeChanges, List.mem_filterMap, Option.bind_eq_some_iff]
  constructor
  · rintro ⟨y, hy, bit, hbit, h⟩
    split at h
    · cases h
    · rename_i hne
      cases h
      refine ⟨hy, bit, hbit, ?_, by simp⟩
      by_cases hb : bit ∈ before <;> by_cases ha : bit ∈ after <;> simp_all
  · rintro ⟨hx, bit, hbit, hne, hadd⟩
    refine ⟨x, hx, bit, hbit, ?_⟩
    by_cases ha : bit ∈ after
    · have hb : bit ∉ before := fun hb => hne.mp hb ha
      obtain rfl : adding = true := hadd.mpr ha
      simp [ha, hb]
    · have hb : bit ∈ before := hne.mpr ha
      obtain rfl : adding = false := by
        cases adding
        · rfl
        · exact absurd (hadd.mp rfl) ha
      simp [ha, hb]

theorem nodup_modeChanges (h : letters.Nodup) : (modeChanges before after letters).Nodup := by
  refine h.filterMap fun x y l hx hy => ?_
  simp only [Option.mem_def, Option.bind_eq_some_iff] at hx hy
  obtain ⟨_, -, hx⟩ := hx
  obtain ⟨_, -, hy⟩ := hy
  split at hx
  · cases hx
  · split at hy
    · cases hy
    · cases hx
      exact (Prod.mk.inj (Option.some.inj hy)).2.symm

/-- The letters are those of the symmetric difference of two sets of lockable modes, each once and
    with its sign. -/
structure AnnouncesDifference (before after : ChannelModeSet) (letters : List (Bool × Char)) :
    Prop where
  once : letters.Nodup
  exact : ∀ adding x, (adding, x) ∈ letters ↔ x ∈ lockableLetters ∧
    ∃ bit, persistentModeBit x = some bit ∧ bit ∈ symmDiff before after ∧
      (adding = true ↔ bit ∈ after)

/-- **What is announced is the difference exactly when +s does not change.** -/
theorem announcesDifference_iff (before after : ChannelModeSet) :
    AnnouncesDifference (lockable before) (lockable after)
        (signedLetters true (serviceModeChange before after)) ↔
      (ChannelMode.secret ∈ before ↔ ChannelMode.secret ∈ after) := by
  rw [serviceModeChange, signedLetters_modeDifference isSign_persistentLetters _ _ (.inl rfl)]
  have table : ∀ x, x ∈ lockableLetters ↔ x ∈ persistentLetters ∨ x = 's' := by
    have hsplit : ∀ x ∈ lockableLetters, x ∈ persistentLetters ∨ x = 's' :=
      List.all_iff_forall_prop.mp (by decide)
    have hall : ∀ x ∈ persistentLetters, x ∈ lockableLetters :=
      List.all_iff_forall_prop.mp (by decide)
    have hs : 's' ∈ lockableLetters := by decide
    intro x
    exact ⟨hsplit x, fun h => h.elim (hall x) fun h => h ▸ hs⟩
  -- every letter of the fifteen stands for a mode that the mask keeps
  have mask : ∀ x ∈ persistentLetters, ∀ bit, persistentModeBit x = some bit →
      bit ∈ persistentModeMask := by
    intro x hx bit hbit
    rw [persistentModeMask, List.mem_toFinset, List.mem_filterMap]
    exact ⟨x, hx, hbit⟩
  constructor
  · intro h
    by_contra hs
    have hdiff : ChannelMode.secret ∈ symmDiff (lockable before) (lockable after) := by
      rw [mem_symmDiff_lockable (by decide)]
      exact iff_not_comm.mpr (not_iff.mp hs).symm
    have hmem := (h.exact (decide (ChannelMode.secret ∈ after)) 's').mpr
      ⟨by decide, .secret, rfl, hdiff, by simp [mem_lockable]⟩
    exact absurd (mem_modeChanges.mp hmem).1 (by decide)
  · intro hs
    refine ⟨nodup_modeChanges (by decide), fun adding x => ?_⟩
    rw [mem_modeChanges]
    constructor
    · rintro ⟨hx, bit, hbit, hne, hadd⟩
      have hmask := mask x hx bit hbit
      have hreg := (mem_persistentModeMask.mp hmask).1
      simp only [Finset.mem_inter, hmask, and_true] at hne hadd
      exact ⟨(table x).mpr (.inl hx), bit, hbit, (mem_symmDiff_lockable hreg).mpr hne,
        by simp [mem_lockable, hadd, hreg]⟩
    · rintro ⟨hx, bit, hbit, hdiff, hadd⟩
      rcases (table x).mp hx with hx | rfl
      · have hmask := mask x hx bit hbit
        have hreg := (mem_persistentModeMask.mp hmask).1
        rw [mem_symmDiff_lockable hreg] at hdiff
        rw [mem_lockable, and_iff_left hreg] at hadd
        refine ⟨hx, bit, hbit, ?_, ?_⟩
        · simpa only [Finset.mem_inter, hmask, and_true] using hdiff
        · simpa only [Finset.mem_inter, hmask, and_true] using hadd
      · obtain rfl : ChannelMode.secret = bit := Option.some.inj hbit
        rw [mem_symmDiff_lockable (by decide), hs] at hdiff
        exact (iff_not_self hdiff).elim

/-! ## 3. The command -/

namespace Server

theorem mlockRequest_parts {params name text : Text} (h : mlockRequest params = some (name, text)) :
    ∃ command rest rest' field, strtokSpace params = some (command, rest) ∧
      strtokSpace rest = some (name, rest') ∧ setWords rest' = some (field, text) ∧
      isWord command "SET" = true ∧ isWord field "MLOCK" = true := by
  unfold mlockRequest at h
  obtain ⟨⟨command, rest⟩, hcommand, h⟩ := Option.bind_eq_some_iff.mp h
  obtain ⟨⟨name', rest'⟩, hname, h⟩ := Option.bind_eq_some_iff.mp h
  obtain ⟨⟨field, value⟩, hfield, h⟩ := Option.bind_eq_some_iff.mp h
  dsimp only at h
  split at h
  · rename_i hwords
    cases h
    rw [Bool.and_eq_true] at hwords
    exact ⟨command, rest, rest', field, hcommand, hname, hfield, hwords⟩
  · cases h

section Request

variable {s : Server} {c : ClientRef} {params name text : Text}

/-- CHANSERV hands the request to `command_set`. -/
theorem commandChanserv_of_mlock (hreg : (s.client c).registered = true)
    (h : mlockRequest params = some (name, text)) :
    ∃ rest, s.commandChanserv c (some params) = s.chanservSet c (some rest) ∧
      ∃ rest' field, strtokSpace rest = some (name, rest') ∧ setWords rest' = some (field, text) ∧
        isWord field "MLOCK" = true := by
  obtain ⟨command, rest, rest', field, hcommand, hname, hfield, hset, hmlock⟩ := mlockRequest_parts h
  refine ⟨rest, ?_, rest', field, hname, hfield, hmlock⟩
  have hparams : params ≠ [] := by
    rintro rfl
    cases hcommand
  have hrest : rest ≠ [] := by
    rintro rfl
    cases hname
  have hlogging : loggingRequest params = none := by
    obtain ⟨⟨field', rest''⟩, hfirst, hrest''⟩ := Option.bind_eq_some_iff.mp hfield
    obtain ⟨value, -, hvalue⟩ := Option.map_eq_some_iff.mp hrest''
    cases hvalue
    simp [loggingRequest, hcommand, hname, hfirst, isWord_false hmlock (b := "LOGGING") (by decide)]
  unfold commandChanserv
  rw [if_neg (by simp [hreg])]
  simp only [Option.bind_some, strtokRest, List.isEmpty_eq_false_iff.mpr hparams,
    Bool.false_eq_true, if_false, hcommand, Option.any_some,
    isWord_false hset (b := "REGISTER") (by decide), isWord_false hset (b := "DROP") (by decide),
    Bool.or_self, Bool.false_and]
  unfold chanservRequest
  rw [if_neg (by simp), hlogging]
  unfold chanservHandleMessage
  simp only [hcommand, strtokRest, List.isEmpty_eq_false_iff.mpr hrest, Bool.false_eq_true,
    if_false, hset, if_true, isWord_false hset (b := "REGISTER") (by decide),
    isWord_false hset (b := "INFO") (by decide), isWord_false hset (b := "DROP") (by decide),
    isWord_false hset (b := "ACCESS") (by decide)]

variable {r : ChanServChannel}

/-- The founder of an enabled row gets it. -/
theorem loadFounderChannel_of_founder (hworks : s.storage.Works)
    (hname : channelNameValid name = true) (hrow : s.storage.chanserv.row name = some r)
    (henabled : r.enabled = true) (hread : r.readable = true)
    (hfounder : founderMatches r.founder (s.client c).accountName = true) :
    s.loadFounderChannel c name = (some r, { s with storage := s.storage.tick.tick }) := by
  have hvalid : validChannelName name = true := by
    have hblank : ' ' ∉ name := fun hmem => absurd (lt_of_mem_valid hname hmem) (by decide)
    simp only [channelNameValid, Bool.and_eq_true] at hname
    simp [validChannelName, hname.1.1.1, decide_eq_true_eq.mp hname.1.2, hblank]
  have htick : s.storage.tick.Works := hworks
  unfold loadFounderChannel
  dsimp only
  rw [if_neg (by simp [hvalid]), hworks.chanservDbOpen]
  dsimp only
  rw [htick.chanservDbGet (channelArgFits_of_valid hname) hrow hread]
  dsimp only
  rw [if_neg (by simp [henabled]), if_pos hfounder]

end Request

/-- SET MLOCK did what it was asked to: the lockable modes are the lock, +r is on, and everybody
    in the channel was told what changed, exactly. -/
structure MlockExact (s s' : Server) (ch : ChannelRef) (lock : ChannelModeSet) : Prop where
  locked : lockable (s'.channel ch).modes = lock
  registered : ChannelMode.registered ∈ (s'.channel ch).modes
  announced : ∀ m ∈ s.memberRefs ch,
    AnnouncesDifference (lockable (s.channel ch).modes) (lockable (s'.channel ch).modes)
      ((s.heard s' (s.channel ch).name m).flatMap (signedLetters true))

/-- What a member hears of `broadcast_service_mode_change`. -/
theorem says_broadcastServiceModeChange {s : Server} {ch : ChannelRef} {m : ClientRef}
    (hm : m ∈ s.memberRefs ch) (before after : ChannelModeSet) :
    ∃ texts, Says (s.channel ch).name m s (s.broadcastServiceModeChange ch before after) texts ∧
      texts.flatMap (signedLetters true) = signedLetters true (serviceModeChange before after) := by
  unfold broadcastServiceModeChange
  dsimp only
  split
  · rename_i hempty
    rw [List.isEmpty_iff] at hempty
    exact ⟨[], says_of_out_eq rfl, by rw [hempty]; rfl⟩
  · exact ⟨_, says_broadcast hm _ _, by simp⟩

/-- The modes after SET MLOCK, against the lock. -/
theorem lockable_mlocked {modes lock : ChannelModeSet} (hlock : ChannelMode.registered ∉ lock) :
    lockable (insert ChannelMode.registered ((modes \ persistentModeMask) ∪ lock)) = lock ↔
      (ChannelMode.secret ∈ modes → ChannelMode.secret ∈ lock) := by
  have hmem : ∀ bit, bit ∈ lockable (insert ChannelMode.registered ((modes \ persistentModeMask) ∪ lock)) ↔
      bit ∈ lock ∨ bit = .secret ∧ ChannelMode.secret ∈ modes := by
    intro bit
    simp only [mem_lockable, Finset.mem_insert, Finset.mem_union, Finset.mem_sdiff,
      mem_persistentModeMask]
    constructor
    · rintro ⟨rfl | ⟨hin, hout⟩ | hin, hne⟩
      · exact absurd rfl hne
      · have : bit = .secret := by
          by_contra hs
          exact hout ⟨hne, hs⟩
        subst this
        exact .inr ⟨rfl, hin⟩
      · exact .inl hin
    · rintro (hin | ⟨rfl, hin⟩)
      · exact ⟨.inr (.inr hin), fun h => hlock (h ▸ hin)⟩
      · exact ⟨.inr (.inl ⟨hin, fun h => h.2 rfl⟩), by decide⟩
  constructor
  · intro h hin
    have := (hmem .secret).mpr (.inr ⟨rfl, hin⟩)
    rwa [h] at this
  · intro h
    refine Finset.ext fun bit => (hmem bit).trans ⟨?_, .inl⟩
    rintro (hin | ⟨rfl, hin⟩)
    · exact hin
    · exact h hin

section Exact

variable {s : Server} {c : ClientRef} {params name text : Text} {lock : ChannelModeSet}
  {ch : ChannelRef} {r : ChanServChannel}

/-- What SET MLOCK does to a live channel: the modes, and the lines each member hears. -/
theorem mlock_effect (hok : s.ChannelsOk) (hworks : s.storage.Works)
    (hreg : (s.client c).registered = true) (hreq : mlockRequest params = some (name, text))
    (hlock : parseModeLock text = some lock) (hlive : s.findChannel name = some ch)
    (hrow : s.storage.chanserv.row name = some r) (henabled : r.enabled = true)
    (hread : r.readable = true)
    (hfounder : founderMatches r.founder (s.client c).accountName = true) :
    ((s.commandChanserv c (some params)).channel ch).modes =
        insert ChannelMode.registered (((s.channel ch).modes \ persistentModeMask) ∪ lock) ∧
      ∀ m ∈ s.memberRefs ch,
        (s.heard (s.commandChanserv c (some params)) (s.channel ch).name m).flatMap
            (signedLetters true) =
          signedLetters true (serviceModeChange (s.channel ch).modes
            (insert ChannelMode.registered (((s.channel ch).modes \ persistentModeMask) ∪ lock))) := by
  have hname : channelNameValid name = true := by
    rw [← channelNameValid_congr (hok.named hlive)]
    exact hok.valid hlive
  obtain ⟨rest, hcommand, rest', field, hwords, hset, hmlock⟩ := commandChanserv_of_mlock hreg hreq
  have hworks' : s.storage.tick.tick.Works := hworks
  have hstored : s.storage.tick.tick.chanservDbSetModeLock name lock =
      (true, { s.storage.tick.tick.tick with
        chanserv := s.storage.chanserv.mapRow name fun r => { r with modeLock := lock } }) := by
    rw [Storage.chanservDbSetModeLock, hworks'.updateRow (channelArgFits_of_valid hname)]
    simp [hrow]
  rw [hcommand]
  unfold chanservSet
  simp only [Option.bind_some, hwords, Option.getD_some,
    loadFounderChannel_of_founder hworks hname hrow henabled hread hfounder, hset]
  unfold setField
  rw [if_pos hmlock]
  unfold setMlock setStored
  simp only [hlock, hstored]
  have hlive' : Server.findChannel { s with storage := { s.storage.tick.tick.tick with
      chanserv := s.storage.chanserv.mapRow name fun r => { r with modeLock := lock } } } name =
      some ch := hlive
  rw [hlive']
  dsimp only
  generalize hs₀ : ({ s with storage := { s.storage.tick.tick.tick with
      chanserv := s.storage.chanserv.mapRow name fun r => { r with modeLock := lock } } } : Server) = s₀
  have hchan : s₀.channel ch = s.channel ch := by rw [← hs₀]
  have hout : s₀.out = s.out := by rw [← hs₀]
  obtain ⟨ds, hds, hnotice⟩ := (applyMlock lock s₀ ch).csNotice_replies c
    "Persistent mode lock updated.".toList
  rw [hnotice]
  unfold applyMlock
  dsimp only
  generalize hs₁ : s₀.updChannel ch _ = s₁
  have hself : s₁.channel ch = { s.channel ch with
      chanservPolicyLoaded := true
      chanservPolicyValid := true
      chanservModeLock := lock
      modes := insert ChannelMode.registered (((s.channel ch).modes \ persistentModeMask) ∪ lock) } := by
    rw [← hs₁, updChannel_self, hchan]
  have hout₁ : s₁.out = s.out := by rw [← hs₁, updChannel_out, hout]
  have hmodes : (s₁.channel ch).modes =
      insert ChannelMode.registered (((s.channel ch).modes \ persistentModeMask) ∪ lock) := by
    rw [hself]
  constructor
  · rw [deliver_channel]
    unfold broadcastServiceModeChange
    dsimp only
    split <;> exact hmodes
  · intro m hm
    have hm₁ : m ∈ s₁.memberRefs ch := by
      rw [memberRefs, hself]
      exact hm
    obtain ⟨texts, hsaid, htexts⟩ := says_broadcastServiceModeChange hm₁ (s₀.channel ch).modes
      (s₁.channel ch).modes
    have hnames : (s₁.channel ch).name = (s.channel ch).name := by rw [hself]
    rw [hnames] at hsaid
    have hstart : Says (s.channel ch).name m s s₁ [] := says_of_out_eq hout₁
    have hall := (hstart.trans hsaid).trans (says_replies hds)
    rw [hall.heard, List.nil_append, List.append_nil, htexts, hmodes, hchan]

/-- **SET MLOCK is exact up to +s.** It leaves the lock as the lockable modes of the channel and
    announces what changed exactly when +s, which two of its three tables do not know, is in the
    lock if and only if it was on before; nobody misses the announcement of a channel that is
    empty. -/
theorem mlock_exact_iff (hok : s.ChannelsOk) (hworks : s.storage.Works)
    (hreg : (s.client c).registered = true) (hreq : mlockRequest params = some (name, text))
    (hlock : parseModeLock text = some lock) (hlive : s.findChannel name = some ch)
    (hrow : s.storage.chanserv.row name = some r) (henabled : r.enabled = true)
    (hread : r.readable = true)
    (hfounder : founderMatches r.founder (s.client c).accountName = true) :
    s.MlockExact (s.commandChanserv c (some params)) ch lock ↔
      (ChannelMode.secret ∈ (s.channel ch).modes → ChannelMode.secret ∈ lock) ∧
        (ChannelMode.secret ∈ lock →
          ChannelMode.secret ∈ (s.channel ch).modes ∨ s.memberRefs ch = []) := by
  obtain ⟨hmodes, hheard⟩ := mlock_effect hok hworks hreg hreq hlock hlive hrow henabled hread hfounder
  have hreglock := registered_not_mem_parseModeLock hlock
  have hafter : ChannelMode.secret ∈ insert ChannelMode.registered
      (((s.channel ch).modes \ persistentModeMask) ∪ lock) ↔
      ChannelMode.secret ∈ (s.channel ch).modes ∨ ChannelMode.secret ∈ lock := by
    simp [mem_persistentModeMask]
  constructor
  · intro h
    have hkept := (lockable_mlocked hreglock).mp (hmodes ▸ h.locked)
    refine ⟨hkept, fun hin => ?_⟩
    by_contra hcon
    rw [not_or] at hcon
    obtain ⟨m, hm⟩ := List.exists_mem_of_ne_nil _ hcon.2
    have := h.announced m hm
    rw [hheard m hm, hmodes, announcesDifference_iff, hafter] at this
    exact hcon.1 (this.mpr (.inr hin))
  · rintro ⟨hkept, htold⟩
    refine ⟨hmodes ▸ (lockable_mlocked hreglock).mpr hkept, by rw [hmodes]; simp, fun m hm => ?_⟩
    rw [hheard m hm, hmodes, announcesDifference_iff, hafter]
    refine ⟨.inl, fun h => h.elim id fun hin => (htold hin).resolve_right ?_⟩
    intro hempty
    rw [hempty] at hm
    cases hm

end Exact

/-- Two members of #c, whose founder is the first; the channel is secret. -/
def secretChannel : Server :=
  { Server.initial {} {} { chanserv := { channels := [{ name := "#c".toList, founder := "a".toList }] } } with
    clients := [0, 1]
    client := fun c => { id := c + 1, registered := true, nick := if c = 0 then "a".toList else "b".toList
                         accountName := if c = 0 then "A".toList else [], channels := [0] }
    channelsByName := (ChainedTable.empty 4093 buckets_pos).set "#c".toList 0
    channel := fun _ => ((Channel.addMember { name := "#c".toList, modes := {.secret, .moderated} } 0).addMember 1)
    nextChannel := 1
    channelCount := 1 }

theorem channelsOk_secretChannel : secretChannel.ChannelsOk := by
  have hfound : ∀ {name ch}, secretChannel.findChannel name = some ch →
      nameEq "#c".toList name = true ∧ ch = 0 := by
    intro name ch h
    rw [findChannel, secretChannel, ChainedTable.get_set] at h
    split at h
    · rename_i heq
      exact ⟨heq, (Option.some.inj h).symm⟩
    · cases h
  refine ⟨fun h => ?_, fun h => ?_, fun h => ?_⟩ <;> obtain ⟨hname, rfl⟩ := hfound h
  · exact hname
  · decide
  · decide

theorem mlock_exact_iff_secret :
    secretChannel.MlockExact (secretChannel.commandChanserv 0 (some "SET #C MLOCK +s-m".toList)) 0
        {.secret} ↔
      (ChannelMode.secret ∈ (secretChannel.channel 0).modes →
          ChannelMode.secret ∈ ({.secret} : ChannelModeSet)) ∧
        (ChannelMode.secret ∈ ({.secret} : ChannelModeSet) →
          ChannelMode.secret ∈ (secretChannel.channel 0).modes ∨ secretChannel.memberRefs 0 = []) :=
  mlock_exact_iff (r := { name := "#c".toList, founder := "a".toList }) channelsOk_secretChannel
    (fun _ => rfl) rfl (show mlockRequest _ = some ("#C".toList, "+s-m".toList) by decide)
    (by decide) (by decide) (by decide) rfl (by decide) (by decide)

/-- A lock without +s does not take it off, and one with it is not announced. -/
theorem mlock_forgets_secret :
    ChannelMode.secret ∈
        ((secretChannel.commandChanserv 0 (some "SET #c MLOCK +nt".toList)).channel 0).modes ∧
      parseModeLock "+nt".toList = some {.noExternal, .topicLock} ∧
      ¬ secretChannel.MlockExact (secretChannel.commandChanserv 0 (some "SET #c MLOCK +nt".toList)) 0
        {.noExternal, .topicLock} := by
  have hin : ChannelMode.secret ∈
      ((secretChannel.commandChanserv 0 (some "SET #c MLOCK +nt".toList)).channel 0).modes := by
    decide +kernel
  refine ⟨hin, by decide, fun h => ?_⟩
  have hlocked := mem_lockable.mpr ⟨hin, by decide⟩
  rw [h.locked] at hlocked
  exact absurd hlocked (by decide)

end Server

end ScratchIrcd
