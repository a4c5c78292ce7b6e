/-
  File:      ScratchIrcd/Persist.lean
  Subject:   What the storage functions do: which tables they leave alone, and what a restored
             channel holds.
-/
import ScratchIrcd.Policy

namespace ScratchIrcd

open CText

/-! ## 1. What chanserv_persist.c never touches -/

/-- `d'` came from `d` by statements that leave the channel rows, the access list and the other
    databases alone. -/
structure Storage.Frame (d d' : Storage) : Prop where
  io : d'.io = d.io
  channels : d'.chanserv.channels = d.chanserv.channels
  access : d'.chanserv.access = d.chanserv.access
  nickserv : d'.nickserv = d.nickserv
  operators : d'.operators = d.operators

namespace Storage.Frame

theorem refl (d : Storage) : d.Frame d := ⟨rfl, rfl, rfl, rfl, rfl⟩

theorem trans {a b c : Storage} (h₁ : a.Frame b) (h₂ : b.Frame c) : a.Frame c :=
  ⟨h₂.io.trans h₁.io, h₂.channels.trans h₁.channels, h₂.access.trans h₁.access,
    h₂.nickserv.trans h₁.nickserv, h₂.operators.trans h₁.operators⟩

theorem row {d d' : Storage} (h : d.Frame d') (name : Text) :
    d'.chanserv.row name = d.chanserv.row name := by
  rw [ChanServStore.row, h.channels]; rfl

end Storage.Frame

namespace Storage

section

variable (d : Storage)

@[simp] theorem tick_chanserv : d.tick.chanserv = d.chanserv := rfl

theorem frame_tick : d.Frame d.tick := ⟨rfl, rfl, rfl, rfl, rfl⟩

theorem frame_openShared : d.Frame d.openShared.2 := by
  unfold openShared
  split_ifs <;> exact ⟨rfl, rfl, rfl, rfl, rfl⟩

theorem frame_rebuildMasks (drop : Bool) : d.Frame (d.rebuildMasks drop).2 := by
  unfold rebuildMasks
  cases drop <;> simp only [Bool.false_and, Bool.true_and] <;> split_ifs <;>
    exact ⟨rfl, rfl, rfl, rfl, rfl⟩

theorem frame_ensureSchema : d.Frame d.ensureSchema.2 := by
  unfold ensureSchema
  dsimp only
  split_ifs
  · exact d.frame_tick
  · exact d.frame_tick.trans d.tick.frame_tick
  · exact (d.frame_tick.trans d.tick.frame_tick).trans
      ((d.tick.tick.frame_tick.trans (frame_tick _)).trans (frame_rebuildMasks _ _))
  · exact (d.frame_tick.trans d.tick.frame_tick).trans
      (d.tick.tick.frame_tick.trans (frame_rebuildMasks _ _))

theorem frame_readyDb : d.Frame d.readyDb.2 := by
  unfold readyDb
  have hopen := d.frame_openShared
  have hschema := (d.openShared.2).frame_ensureSchema
  generalize d.openShared = o at hopen hschema
  obtain ⟨opened, d₁⟩ := o
  dsimp only at hopen hschema ⊢
  generalize d₁.ensureSchema = e at hschema
  obtain ⟨ok, d₂⟩ := e
  dsimp only at hschema ⊢
  split_ifs
  · exact hopen
  · exact hopen
  · exact hopen.trans ⟨hschema.io, hschema.channels, hschema.access, hschema.nickserv,
      hschema.operators⟩
  · exact hopen.trans hschema

theorem frame_saveTransaction (ch : Channel) : d.Frame (d.saveTransaction ch).2 := by
  unfold saveTransaction
  split_ifs <;> try exact ⟨rfl, rfl, rfl, rfl, rfl⟩
  dsimp only
  split_ifs <;> exact ⟨rfl, rfl, rfl, rfl, rfl⟩

theorem frame_persistSave (ch : Channel) : d.Frame (d.persistSave ch).2 := by
  unfold persistSave
  split_ifs
  · exact Frame.refl d
  · dsimp only
    split_ifs
    · exact d.frame_readyDb
    · exact d.frame_readyDb.trans (frame_saveTransaction _ _)

theorem frame_persistChannel (ch : Channel) : d.Frame (d.persistChannel ch) := by
  unfold persistChannel
  split
  · exact d.frame_persistSave ch
  · exact Frame.refl d

theorem frame_chanservDbGet (name : Text) : d.Frame (d.chanservDbGet name).2 := by
  unfold chanservDbGet
  split_ifs
  · exact Frame.refl d
  · exact d.frame_tick
  · split <;> exact d.frame_tick

end

end Storage

/-- Every valid channel name may be asked for. -/
theorem channelArgFits_of_valid {name : Text} (h : channelNameValid name = true) :
    channelArgFits name = true := by
  have hbreak : ∀ x ∈ name, isLineBreak x = false := by
    intro x hx
    by_contra hcon
    simp only [Bool.not_eq_false, isLineBreak, Bool.or_eq_true, beq_iff_eq] at hcon
    have := lt_of_mem_valid h hx
    rcases hcon with rfl | rfl <;> exact absurd this (by decide)
  simp only [channelNameValid, Bool.and_eq_true, decide_eq_true_eq] at h
  obtain ⟨⟨⟨-, hlong⟩, hlen⟩, -⟩ := h
  have hne : name ≠ [] := by
    rintro rfl
    exact absurd hlong (by decide)
  simp only [channelArgFits, textFits, hlen, decide_true, Bool.true_and, Bool.and_eq_true,
    Bool.not_eq_true', List.isEmpty_eq_false_iff, List.any_eq_false]
  exact ⟨hne, fun x hx => by simp [hbreak x hx]⟩

/-- A valid channel name is bound whole. -/
theorem cString_of_valid {name : Text} (h : channelNameValid name = true) : cString name = name :=
  cString_of_not_mem fun hx => absurd (lt_of_mem_valid h hx) (by decide)

/-! ## 2. What a restored channel holds -/

/-- The entries of one kind among mask rows. -/
def maskEntries (rows : List MaskRow) (kind : MaskKind) : List MaskEntry :=
  (rows.filter fun r => r.kind = kind).map fun r =>
    { mask := r.mask, protectedAuthorized := r.authorized }

/-- The record holds what the runtime tables hold for its name: key, limit, redirects, and every
    mask list up to order. -/
structure Channel.CarriesRuntime (ch : Channel) (t : RuntimeTables) : Prop where
  key : ch.key = ((t.runtimeOf ch.name).map (·.key)).getD []
  userLimit : (ch.userLimit : Int) = ((t.runtimeOf ch.name).map (·.userLimit)).getD 0
  joinCount : (ch.joinThrottleCount : Int) = ((t.runtimeOf ch.name).map (·.joinCount)).getD 0
  joinSeconds : (ch.joinThrottleSeconds : Int) = ((t.runtimeOf ch.name).map (·.joinSeconds)).getD 0
  limitRedirect : ch.limitRedirect = ((t.runtimeOf ch.name).map (·.limitRedirect)).getD []
  banRedirect : ch.banRedirect = ((t.runtimeOf ch.name).map (·.banRedirect)).getD []
  masks : ∀ kind, (ch.maskList kind).Perm (maskEntries (t.masksOf ch.name) kind)

section ClearRuntime

variable {a b : Channel} (h : a.clearRuntime = b.clearRuntime)

include h

theorem Channel.name_of_clearRuntime : a.name = b.name := by
  have := congrArg Channel.name h
  exact this

theorem Channel.modes_of_clearRuntime : a.modes = b.modes := by
  have := congrArg Channel.modes h
  exact this

theorem Channel.members_of_clearRuntime : a.members = b.members := by
  have := congrArg Channel.members h
  exact this

theorem Channel.invites_of_clearRuntime : a.invites = b.invites := by
  have := congrArg Channel.invites h
  exact this

end ClearRuntime

/-- Two records that agree but for their mask lists. -/
structure Channel.SameButMasks (a b : Channel) : Prop where
  rest : b.clearRuntime = a.clearRuntime
  key : b.key = a.key
  userLimit : b.userLimit = a.userLimit
  joinCount : b.joinThrottleCount = a.joinThrottleCount
  joinSeconds : b.joinThrottleSeconds = a.joinThrottleSeconds
  limitRedirect : b.limitRedirect = a.limitRedirect
  banRedirect : b.banRedirect = a.banRedirect

namespace Channel

theorem sameButMasks_setMaskList (ch : Channel) (kind : MaskKind) (l : List MaskEntry) :
    ch.SameButMasks (ch.setMaskList kind l) := by
  cases kind <;> exact ⟨rfl, rfl, rfl, rfl, rfl, rfl, rfl⟩

theorem SameButMasks.trans {a b c : Channel} (h₁ : a.SameButMasks b) (h₂ : b.SameButMasks c) :
    a.SameButMasks c :=
  ⟨h₂.rest.trans h₁.rest, h₂.key.trans h₁.key, h₂.userLimit.trans h₁.userLimit,
    h₂.joinCount.trans h₁.joinCount, h₂.joinSeconds.trans h₁.joinSeconds,
    h₂.limitRedirect.trans h₁.limitRedirect, h₂.banRedirect.trans h₁.banRedirect⟩

theorem maskList_setMaskList (ch : Channel) (kind kind' : MaskKind) (l : List MaskEntry) :
    (ch.setMaskList kind l).maskList kind' = if kind' = kind then l else ch.maskList kind' := by
  cases kind <;> cases kind' <;> rfl

/-- A mask that is not in the list yet goes to its front. -/
theorem maskAddAuthorized_of_fresh {l l' : List MaskEntry} {mask : Text} {authorized : Bool}
    (hfresh : ∀ e ∈ l, e.mask ≠ mask) (h : maskAddAuthorized l mask authorized = .ok l') :
    l' = { mask := mask, protectedAuthorized := authorized } :: l := by
  unfold maskAddAuthorized at h
  have hany : l.any (fun e => e.mask == mask) = false := by
    simpa using hfresh
  simp only [hany, Bool.false_eq_true, if_false] at h
  split_ifs at h
  exact (Except.ok.inj h).symm

/-- One row: its mask goes to the front of its list. -/
theorem restoreMask_eq {ch ch' : Channel} {r : MaskRow}
    (hfresh : ∀ e ∈ ch.maskList r.kind, e.mask ≠ r.mask) (h : ch.restoreMask r = some ch') :
    ch' = ch.setMaskList r.kind
      ({ mask := r.mask, protectedAuthorized := r.authorized } :: ch.maskList r.kind) := by
  unfold restoreMask at h
  split_ifs at h
  cases hadd : maskAddAuthorized (ch.maskList r.kind) r.mask r.authorized with
  | error e => rw [hadd] at h; cases h
  | ok l =>
    rw [hadd] at h
    rw [← maskAddAuthorized_of_fresh hfresh hadd]
    exact (Option.some.inj h).symm

/-- All rows, by induction on them: each list is its rows, last first, before what it had. -/
theorem restoreMasks_spec {rows : List MaskRow} {ch ch' : Channel}
    (hrows : rows.Pairwise fun a b => a.kind = b.kind → a.mask ≠ b.mask)
    (hfresh : ∀ r ∈ rows, ∀ e ∈ ch.maskList r.kind, e.mask ≠ r.mask)
    (h : ch.restoreMasks rows = some ch') :
    ch.SameButMasks ch' ∧
      ∀ kind, ch'.maskList kind = (maskEntries rows kind).reverse ++ ch.maskList kind := by
  induction rows generalizing ch with
  | nil =>
    cases (Option.some.inj h : ch = ch')
    exact ⟨⟨rfl, rfl, rfl, rfl, rfl, rfl, rfl⟩, fun kind => rfl⟩
  | cons r rows ih =>
    rw [restoreMasks, List.foldlM_cons] at h
    obtain ⟨ch₁, h₁, h₂⟩ := Option.bind_eq_some_iff.mp h
    have hch₁ := restoreMask_eq (hfresh r (by simp)) h₁
    obtain ⟨hne, hrows⟩ := List.pairwise_cons.mp hrows
    have hfresh₁ : ∀ r' ∈ rows, ∀ e ∈ ch₁.maskList r'.kind, e.mask ≠ r'.mask := by
      intro r' hr' e he
      rw [hch₁, maskList_setMaskList] at he
      split at he
      · rename_i hkind
        rcases List.mem_cons.mp he with rfl | he
        · exact hne r' hr' hkind.symm
        · exact hfresh r' (by simp [hr']) e (hkind ▸ he)
      · exact hfresh r' (by simp [hr']) e he
    obtain ⟨hsame, hlists⟩ := ih hrows hfresh₁ h₂
    refine ⟨(hch₁ ▸ sameButMasks_setMaskList ch _ _ : ch.SameButMasks ch₁).trans hsame, ?_⟩
    intro kind
    rw [hlists, hch₁, maskList_setMaskList]
    by_cases hkind : kind = r.kind
    · subst hkind
      simp [maskEntries]
    · rw [if_neg hkind]
      simp [maskEntries, Ne.symm hkind]

/-- The rows of one channel are told apart by kind and mask alone. -/
theorem masksOf_pairwise (t : RuntimeTables) (name : Text) :
    (t.masksOf name).Pairwise fun a b => a.kind = b.kind → a.mask ≠ b.mask := by
  refine ((t.masks_unique.filter fun r => nameEq r.channel name).imp_of_mem ?_)
  intro a b ha hb hkey hkind hmask
  have ha' : nameEq a.channel name = true := by simpa using (List.mem_filter.mp ha).2
  have hb' : nameEq b.channel name = true := by simpa using (List.mem_filter.mp hb).2
  exact hkey ⟨nameEq_trans ha' (nameEq_symm hb'), hkind, hmask⟩

/-- **A successful restore.** Every runtime field is what the tables hold, everything else is
    as it was. -/
theorem restoreFrom_spec {ch ch' : Channel} {t : RuntimeTables}
    (h : ch.restoreFrom t = some ch') :
    ch'.clearRuntime = ch.clearRuntime ∧ ch'.CarriesRuntime t := by
  unfold restoreFrom at h
  -- both branches restore the masks into a record `base` whose lists are empty
  obtain ⟨base, hbase, hkey, hlimit, hcount, hseconds, hlr, hbr, hempty, hmasks⟩ :
      ∃ base : Channel, base.clearRuntime = ch.clearRuntime ∧
        base.key = ((t.runtimeOf ch.name).map (·.key)).getD [] ∧
        (base.userLimit : Int) = ((t.runtimeOf ch.name).map (·.userLimit)).getD 0 ∧
        (base.joinThrottleCount : Int) = ((t.runtimeOf ch.name).map (·.joinCount)).getD 0 ∧
        (base.joinThrottleSeconds : Int) = ((t.runtimeOf ch.name).map (·.joinSeconds)).getD 0 ∧
        base.limitRedirect = ((t.runtimeOf ch.name).map (·.limitRedirect)).getD [] ∧
        base.banRedirect = ((t.runtimeOf ch.name).map (·.banRedirect)).getD [] ∧
        (∀ kind, base.maskList kind = []) ∧
        base.restoreMasks (t.masksOf ch.name) = some ch' := by
    split at h
    · rename_i hrow
      refine ⟨ch.clearRuntime, rfl, ?_, ?_, ?_, ?_, ?_, ?_, fun kind => by cases kind <;> rfl, h⟩ <;>
        simp [hrow, clearRuntime]
    · rename_i r hrow
      split at h
      · rename_i hread
        simp only [RuntimeRow.readable, Bool.and_eq_true, decide_eq_true_eq] at hread
        refine ⟨ch.clearRuntime.withRuntimeRow r, rfl, ?_, ?_, ?_, ?_, ?_, ?_,
            fun kind => by cases kind <;> rfl, h⟩ <;>
          simp only [hrow, withRuntimeRow, Option.map_some, Option.getD_some]
        all_goals omega
      · cases h
  obtain ⟨hsame, hlists⟩ := restoreMasks_spec (masksOf_pairwise t ch.name)
    (by simp [hempty]) hmasks
  have hrest : ch'.clearRuntime = ch.clearRuntime := hsame.rest.trans hbase
  have hname : ch'.name = ch.name := name_of_clearRuntime hrest
  refine ⟨hrest, ⟨?_, ?_, ?_, ?_, ?_, ?_, ?_⟩⟩ <;> simp only [hname]
  · rw [hsame.key, hkey]
  · rw [hsame.userLimit, hlimit]
  · rw [hsame.joinCount, hcount]
  · rw [hsame.joinSeconds, hseconds]
  · rw [hsame.limitRedirect, hlr]
  · rw [hsame.banRedirect, hbr]
  · intro kind
    rw [hlists, hempty, List.append_nil]
    exact List.reverse_perm _

end Channel

namespace Storage

theorem frame_persistRestore (d : Storage) (ch : Channel) : d.Frame (d.persistRestore ch).2.2 := by
  unfold persistRestore
  have hready := d.frame_readyDb
  generalize d.readyDb = r at hready
  obtain ⟨ready, d₁⟩ := r
  dsimp only at hready ⊢
  split_ifs
  · exact Frame.refl d
  · exact hready
  · exact hready.trans d₁.frame_tick
  · exact hready.trans d₁.frame_tick
  · exact hready.trans (d₁.frame_tick.trans d₁.tick.frame_tick)
  · split <;> exact hready.trans (d₁.frame_tick.trans d₁.tick.frame_tick)

/-- Restoring touches nothing of the record but the runtime fields. -/
theorem clearRuntime_persistRestore (d : Storage) (ch : Channel) :
    (d.persistRestore ch).2.1.clearRuntime = ch.clearRuntime := by
  unfold persistRestore
  dsimp only
  split_ifs <;> try rfl
  split
  · rename_i ch' h
    exact (Channel.restoreFrom_spec h).1
  · rfl

/-- After a successful restore the record carries what the connection reads. -/
theorem carriesRuntime_persistRestore {d : Storage} {ch : Channel}
    (h : (d.persistRestore ch).1 = true) :
    (d.persistRestore ch).2.1.CarriesRuntime (d.persistRestore ch).2.2.chanserv.view := by
  unfold persistRestore at h ⊢
  generalize d.readyDb = r at h ⊢
  obtain ⟨ready, d₁⟩ := r
  dsimp only at h ⊢
  split_ifs at h ⊢
  split at h
  · rename_i ch' hrestore
    exact (Channel.restoreFrom_spec hrestore).2
  · cases h

end Storage

end ScratchIrcd
