/-
  File:      ScratchIrcd/RoundTrip.lean
  Subject:   chanserv_persist.c: what a save writes, a restore reads back.

  A save writes each list head first, one row a mask, and the three lists follow each other in one
  table. A restore takes the rows in rowid order and puts each at the front of its list, so every
  list comes back reversed, and after a second round as it was.
-/
import ScratchIrcd.Save
import ScratchIrcd.ServiceDb

namespace ScratchIrcd

open CText

/-! ## 1. Channels within the limits -/

/-- What `chanserv_persist_save` asks of a channel. Its texts are C strings without a NUL, the
    numbers of +j are of type `unsigned int`, and a mask is what `channel_mask_add` lets in. -/
structure Channel.SaveLimits (ch : Channel) : Prop where
  name : textFits ircChannelNameMax ch.name = true
  key : columnFits ircChannelKeyMax ch.key = true
  limitRedirect : columnFits ircChannelNameMax ch.limitRedirect = true
  banRedirect : columnFits ircChannelNameMax ch.banRedirect = true
  userLimit : ch.userLimit < 2 ^ 63
  joinCount : ch.joinThrottleCount < 2 ^ 32
  joinSeconds : ch.joinThrottleSeconds < 2 ^ 32
  masks : ∀ kind, ∀ e ∈ ch.maskList kind, columnFits ircChannelMaskMax e.mask = true ∧ e.mask ≠ []
  distinct : ∀ kind, ((ch.maskList kind).map (·.mask)).Nodup
  count : ∀ kind, (ch.maskList kind).length ≤ ircChannelMaskListMax

/-- The two records agree in what +k, +l, +j, +L and +B set. -/
structure Channel.SameParams (a b : Channel) : Prop where
  key : b.key = a.key
  userLimit : b.userLimit = a.userLimit
  joinCount : b.joinThrottleCount = a.joinThrottleCount
  joinSeconds : b.joinThrottleSeconds = a.joinThrottleSeconds
  limitRedirect : b.limitRedirect = a.limitRedirect
  banRedirect : b.banRedirect = a.banRedirect

theorem Channel.SameParams.trans {a b c : Channel} (h₁ : a.SameParams b) (h₂ : b.SameParams c) :
    a.SameParams c :=
  ⟨h₂.key.trans h₁.key, h₂.userLimit.trans h₁.userLimit, h₂.joinCount.trans h₁.joinCount,
    h₂.joinSeconds.trans h₁.joinSeconds, h₂.limitRedirect.trans h₁.limitRedirect,
    h₂.banRedirect.trans h₁.banRedirect⟩

theorem textFits_of_columnFits {n : Nat} {t : Text} (h : columnFits n t = true) :
    textFits n t = true := (Bool.and_eq_true_iff.mp h).1

/-- A name equal to one that fits, fits: the folding knows no line break. -/
theorem textFits_of_nameEq {n : Nat} {a b : Text} (h : nameEq a b = true)
    (hb : textFits n b = true) : textFits n a = true := by
  simp only [textFits, Bool.and_eq_true, decide_eq_true_eq, Bool.not_eq_true',
    List.any_eq_false] at hb ⊢
  refine ⟨(length_eq_of_nameEq h).trans_le hb.1, fun x hx hbreak => ?_⟩
  have hfold : ircFold x = x := by
    rcases Bool.or_eq_true_iff.mp hbreak with hx | hx
    · rw [beq_iff_eq.mp hx]; rfl
    · rw [beq_iff_eq.mp hx]; rfl
  have hmem : x ∈ b.map ircFold := by
    rw [← foldEq_iff.mp h, ← hfold]
    exact List.mem_map_of_mem hx
  obtain ⟨y, hy, heq⟩ := List.mem_map.mp hmem
  have hlow : x.toNat < 65 := by
    rcases Bool.or_eq_true_iff.mp hbreak with hx | hx
    · rw [beq_iff_eq.mp hx]; decide
    · rw [beq_iff_eq.mp hx]; decide
  rw [eq_of_ircFold_low hlow heq] at hy
  exact hb.2 x hy hbreak

namespace Channel.SaveLimits

variable {ch ch' : Channel}

theorem storable (h : ch.SaveLimits) : ch.storable = true := by
  simpa [Channel.storable, h.name, textFits_of_columnFits h.key, textFits_of_columnFits h.banRedirect,
    textFits_of_columnFits h.limitRedirect] using h.userLimit

theorem masksStorable (h : ch.SaveLimits) : ch.MasksStorable :=
  ⟨fun kind e he => textFits_of_columnFits (h.masks kind e he).1, h.distinct⟩

/-- The limits do not depend on the order of the lists, nor on the spelling of the name. -/
theorem of_reversed (h : ch.SaveLimits) (hname : nameEq ch'.name ch.name = true)
    (hparams : ch.SameParams ch')
    (hlists : ∀ kind, ch'.maskList kind = (ch.maskList kind).reverse) : ch'.SaveLimits where
  name := textFits_of_nameEq hname h.name
  key := by rw [hparams.key]; exact h.key
  limitRedirect := by rw [hparams.limitRedirect]; exact h.limitRedirect
  banRedirect := by rw [hparams.banRedirect]; exact h.banRedirect
  userLimit := by rw [hparams.userLimit]; exact h.userLimit
  joinCount := by rw [hparams.joinCount]; exact h.joinCount
  joinSeconds := by rw [hparams.joinSeconds]; exact h.joinSeconds
  masks kind e he := by
    rw [hlists, List.mem_reverse] at he
    exact h.masks kind e he
  distinct kind := by
    rw [hlists, List.map_reverse, List.nodup_reverse]
    exact h.distinct kind
  count kind := by
    rw [hlists, List.length_reverse]
    exact h.count kind

/-- What such a channel leaves in the tables passes every check of a restore. -/
theorem restorable (h : ch.SaveLimits) (t : RuntimeTables) :
    (t.store ch h.masksStorable).Restorable ch.name := by
  obtain ⟨n, hn⟩ := t.runtimeOf_store_self h.masksStorable
  refine ⟨fun r hr => ?_, fun m hm => ?_, fun kind => ?_⟩
  · rw [hn] at hr
    cases hr
    have hcount : (ch.joinThrottleCount : Int) < 2 ^ 32 := by exact_mod_cast h.joinCount
    have hseconds : (ch.joinThrottleSeconds : Int) < 2 ^ 32 := by exact_mod_cast h.joinSeconds
    have hlimit : (0 : Int) ≤ ch.userLimit := Int.natCast_nonneg _
    have hzero : (0 : Int) ≤ ch.joinThrottleCount ∧ (0 : Int) ≤ ch.joinThrottleSeconds :=
      ⟨Int.natCast_nonneg _, Int.natCast_nonneg _⟩
    unfold RuntimeRow.readable Channel.runtimeRow
    simp only [h.key, h.limitRedirect, h.banRedirect, Bool.true_and, Bool.and_eq_true]
    exact ⟨⟨decide_eq_true hlimit, decide_eq_true ⟨hzero.1, hcount⟩⟩,
      decide_eq_true ⟨hzero.2, hseconds⟩⟩
  · rw [t.masksOf_store_self] at hm
    have hentry : (⟨m.mask, m.authorized⟩ : MaskEntry) ∈ maskEntries ch.allMaskRows m.kind :=
      List.mem_map.mpr ⟨m, by simp [hm], rfl⟩
    rw [maskEntries_allMaskRows] at hentry
    exact h.masks m.kind _ hentry
  · rw [t.masksOf_store_self, maskEntries_allMaskRows]
    exact h.count kind

end Channel.SaveLimits

/-! ## 2. A database that works -/

namespace Storage

/-- No statement fails, and none failed in the middle of a transaction. -/
structure Working (d : Storage) : Prop where
  works : d.Works
  idle : d.chanserv.pending = none

/-- The connection is prepared for use, and no row is touched. -/
structure Prepared (d d' : Storage) : Prop where
  frame : d.Frame d'
  tables : d'.chanserv.tables = d.chanserv.tables
  pending : d'.chanserv.pending = d.chanserv.pending

theorem Prepared.trans {a b c : Storage} (h₁ : a.Prepared b) (h₂ : b.Prepared c) : a.Prepared c :=
  ⟨h₁.frame.trans h₂.frame, h₂.tables.trans h₁.tables, h₂.pending.trans h₁.pending⟩

theorem Prepared.working {d d' : Storage} (h : d.Prepared d') (hd : d.Working) : d'.Working :=
  ⟨by unfold Works; rw [h.frame.io]; exact hd.works, h.pending.trans hd.idle⟩

variable {d : Storage}

theorem openShared_of_working (h : d.Working) :
    ∃ d', d.openShared = (true, d') ∧ d.Prepared d' ∧ d'.chanserv.sharedOpen = true := by
  have hio : d.ioOk = true := h.works _
  unfold openShared
  rw [hio]
  split
  · rename_i hopen
    exact ⟨d, rfl, ⟨.refl d, rfl, rfl⟩, hopen⟩
  · exact ⟨_, rfl, ⟨⟨rfl, rfl, rfl, rfl, rfl⟩, rfl, rfl⟩, rfl⟩

theorem ensureSchema_of_working (h : d.Working) :
    ∃ d', d.ensureSchema = (true, d') ∧ d.Prepared d' ∧
      d'.chanserv.sharedOpen = d.chanserv.sharedOpen := by
  have hio : ∀ n, d.io n = true := h.works
  unfold ensureSchema rebuildMasks
  simp only [ioOk, tick, hio, Bool.not_true, Bool.false_eq_true, if_false, Bool.true_and,
    Bool.false_and]
  split
  · exact ⟨_, rfl, ⟨⟨rfl, rfl, rfl, rfl, rfl⟩, rfl, rfl⟩, rfl⟩
  · exact ⟨_, rfl, ⟨⟨rfl, rfl, rfl, rfl, rfl⟩, rfl, rfl⟩, rfl⟩

theorem readyDb_of_working (h : d.Working) :
    ∃ d', d.readyDb = (true, d') ∧ d.Prepared d' ∧ d'.Ready := by
  obtain ⟨d₁, heq₁, hprep₁, hopen₁⟩ := openShared_of_working h
  unfold readyDb
  rw [heq₁]
  simp only [Bool.not_true, Bool.false_eq_true, if_false]
  split
  · rename_i hready
    exact ⟨d₁, rfl, hprep₁, hopen₁, hready⟩
  · obtain ⟨d₂, heq₂, hprep₂, hopen₂⟩ := ensureSchema_of_working (hprep₁.working h)
    rw [heq₂]
    exact ⟨_, rfl, hprep₁.trans ⟨⟨hprep₂.frame.io, hprep₂.frame.channels, hprep₂.frame.access,
      hprep₂.frame.nickserv, hprep₂.frame.operators⟩, hprep₂.tables, hprep₂.pending⟩,
      hopen₂.trans hopen₁, rfl⟩

/-- **A save within the limits**, by a database that works. -/
theorem persistSave_of_limits (h : d.Working) {ch : Channel} (hch : ch.SaveLimits)
    (hrow : (d.chanserv.row ch.name).isSome = true) :
    ∃ d', d.persistSave ch = (true, d') ∧ d'.Ready ∧ d'.Working ∧ d.Frame d' ∧
      d'.chanserv.tables = d.chanserv.tables.store ch hch.masksStorable := by
  obtain ⟨d₁, heq, hprep, hready⟩ := readyDb_of_working h
  have hio : ∀ n, d₁.io n = true := (hprep.working h).works
  have hidle : d₁.chanserv.pending.isSome = false := by rw [(hprep.working h).idle]; rfl
  have hrow₁ : (d₁.chanserv.row ch.name).isNone = false := by
    rw [hprep.frame.row, ← Option.not_isSome, hrow]
    rfl
  unfold persistSave
  rw [hch.storable, heq]
  unfold saveTransaction
  simp only [ioOk, tick, hio, hidle, hrow₁, hch.masksStorable, Bool.not_true, Bool.or_false,
    Bool.false_eq_true, if_false, if_true, and_self, dite_true]
  exact ⟨_, rfl, ⟨hready.sharedOpen, hready.schemaReady⟩, ⟨hio, (hprep.working h).idle⟩,
    hprep.frame.trans ⟨rfl, rfl, rfl, rfl, rfl⟩, by rw [hprep.tables]⟩

/-- What a restore that succeeds puts into the record. -/
theorem restoreFrom_of_persistRestore (h : d.Ready) {ch : Channel}
    (hok : (d.persistRestore ch).1 = true) :
    ch.restoreFrom d.chanserv.view = some (d.persistRestore ch).2.1 := by
  unfold persistRestore at hok ⊢
  rw [readyDb_of_ready h] at hok ⊢
  dsimp only at hok ⊢
  split_ifs at hok ⊢
  split at hok
  · assumption
  · cases hok

end Storage

/-- The masks of a restored list are its rows, last first. -/
theorem Channel.maskList_restoreFrom {ch ch' : Channel} {t : RuntimeTables}
    (h : ch.restoreFrom t = some ch') (kind : MaskKind) :
    ch'.maskList kind = (maskEntries (t.masksOf ch.name) kind).reverse := by
  have hmasks : ∀ base : Channel, (∀ kind, base.maskList kind = []) →
      base.restoreMasks (t.masksOf ch.name) = some ch' →
      ch'.maskList kind = (maskEntries (t.masksOf ch.name) kind).reverse := by
    intro base hempty hbase
    rw [(restoreMasks_spec (masksOf_pairwise t ch.name) (by simp [hempty]) hbase).2, hempty,
      List.append_nil]
  unfold restoreFrom at h
  split at h
  · exact hmasks _ (fun kind => by cases kind <;> rfl) h
  · split at h
    · exact hmasks _ (fun kind => by cases kind <;> rfl) h
    · cases h

/-! ## 3. The round trip -/

namespace Storage

/-- `chanserv_persist_save` of one channel object, and `chanserv_persist_restore` of another. -/
def roundTrip (d : Storage) (ch other : Channel) : Bool × Channel × Storage :=
  let (saved, d) := d.persistSave ch
  let (restored, other, d) := d.persistRestore other
  (saved && restored, other, d)

/-- What one round gives, and what it leaves for the next. -/
structure Round (ch other : Channel) (d : Storage) (result : Bool × Channel × Storage) : Prop where
  ok : result.1 = true
  params : ch.SameParams result.2.1
  masks : ∀ kind, result.2.1.maskList kind = (ch.maskList kind).reverse
  name : result.2.1.name = other.name
  working : result.2.2.Working
  frame : d.Frame result.2.2

theorem round_of_limits {d : Storage} (h : d.Working) {ch other : Channel} (hch : ch.SaveLimits)
    (hrow : (d.chanserv.row ch.name).isSome = true) (hname : nameEq other.name ch.name = true) :
    Round ch other d (d.roundTrip ch other) := by
  obtain ⟨d₁, hsave, hready, hworking, hframe, htables⟩ := persistSave_of_limits h hch hrow
  have hview : d₁.chanserv.view = d.chanserv.tables.store ch hch.masksStorable := by
    rw [ChanServStore.view, hworking.idle, htables]
    rfl
  obtain ⟨hread, hsucceeds⟩ := persistRestore_of_ready hready other
  have hrestorable : d₁.chanserv.view.Restorable other.name := by
    rw [hview]
    have hself := hch.restorable d.chanserv.tables
    exact ⟨by rw [RuntimeTables.runtimeOf_congr _ hname]; exact hself.row,
      by rw [RuntimeTables.masksOf_congr _ hname]; exact hself.masks,
      by rw [RuntimeTables.masksOf_congr _ hname]; exact hself.count⟩
  have hok : (d₁.persistRestore other).1 = true :=
    (hsucceeds (textFits_of_nameEq hname hch.name) hworking.works).mpr hrestorable
  have hfrom := restoreFrom_of_persistRestore hready hok
  rw [hview] at hfrom
  obtain ⟨hclear, hcarries⟩ := Channel.restoreFrom_spec hfrom
  have hname' : (d₁.persistRestore other).2.1.name = other.name := Channel.name_of_clearRuntime hclear
  obtain ⟨n, hrowOf⟩ := d.chanserv.tables.runtimeOf_store_self hch.masksStorable
  rw [← RuntimeTables.runtimeOf_congr _ hname, ← hname'] at hrowOf
  unfold roundTrip
  rw [hsave]
  constructor
  case ok => exact hok
  case params =>
    obtain ⟨h₁, h₂, h₃, h₄, h₅, h₆, -⟩ := hcarries
    simp only [hrowOf, Option.map_some, Option.getD_some, Channel.runtimeRow, Nat.cast_inj]
      at h₁ h₂ h₃ h₄ h₅ h₆
    exact ⟨h₁, h₂, h₃, h₄, h₅, h₆⟩
  case masks =>
    intro kind
    dsimp only
    rw [Channel.maskList_restoreFrom hfrom, RuntimeTables.masksOf_congr _ hname,
      RuntimeTables.masksOf_store_self, maskEntries_allMaskRows]
  case name => exact hname'
  case working =>
    exact ⟨by unfold Works; rw [hread.io]; exact hworking.works,
      by rw [hread.chanserv]; exact hworking.idle⟩
  case frame => exact hframe.trans hread.frame

/-- **Persistence round trip.** Saving a registered channel within the limits and restoring it into
    any object of an equal name gives its parameters back, and its lists in reversed order; saving
    that object and restoring it into a third gives the lists back as they were. -/
theorem persist_round_trip (d : Storage) (h : d.Working) (ch : Channel) (hch : ch.SaveLimits)
    (hrow : (d.chanserv.row ch.name).isSome = true) (other : Channel)
    (hname : nameEq other.name ch.name = true) :
    (d.roundTrip ch other).1 = true ∧ ch.SameParams (d.roundTrip ch other).2.1 ∧
      (∀ kind, (d.roundTrip ch other).2.1.maskList kind = (ch.maskList kind).reverse) ∧
      ∀ third : Channel, nameEq third.name ch.name = true →
        ((d.roundTrip ch other).2.2.roundTrip (d.roundTrip ch other).2.1 third).1 = true ∧
        ch.SameParams ((d.roundTrip ch other).2.2.roundTrip (d.roundTrip ch other).2.1 third).2.1 ∧
        ∀ kind, ((d.roundTrip ch other).2.2.roundTrip (d.roundTrip ch other).2.1 third).2.1.maskList
          kind = ch.maskList kind := by
  have hfirst := round_of_limits h hch hrow hname
  generalize d.roundTrip ch other = first at hfirst
  refine ⟨hfirst.ok, hfirst.params, hfirst.masks, fun third hthird => ?_⟩
  have hback : nameEq first.2.1.name ch.name = true := by rw [hfirst.name]; exact hname
  have hlimits := hch.of_reversed hback hfirst.params hfirst.masks
  have hrow' : (first.2.2.chanserv.row first.2.1.name).isSome = true := by
    rw [hfirst.frame.row, ChanServStore.row, funext fun r : ChanServChannel =>
      nameEq_congr_right hback r.name]
    exact hrow
  have hsecond : Round first.2.1 third first.2.2 (first.2.2.roundTrip first.2.1 third) :=
    round_of_limits hfirst.working hlimits hrow' (nameEq_trans hthird (nameEq_symm hback))
  refine ⟨hsecond.ok, hfirst.params.trans hsecond.params, fun kind => ?_⟩
  rw [hsecond.masks, hfirst.masks, List.reverse_reverse]

/-- A registered channel with a key and two bans. -/
def keyedChannel : Channel :=
  { name := "#c".toList, key := "k".toList
    banList := [⟨"a!*@*".toList, true⟩, ⟨"b!*@*".toList, false⟩] }

/-- The database that knows it, under another spelling. -/
def keyedDatabase : Storage :=
  { chanserv := { channels := [{ name := "#C".toList, founder := "ann".toList }] } }

theorem persist_round_trip_keyed :
    (keyedDatabase.roundTrip keyedChannel { name := "#C".toList }).2.1.banList =
      [⟨"b!*@*".toList, false⟩, ⟨"a!*@*".toList, true⟩] := by
  have hlimits : keyedChannel.SaveLimits := by
    refine ⟨by decide, by decide, by decide, by decide, by decide, by decide, by decide, ?_, ?_, ?_⟩
    all_goals intro kind; cases kind <;> decide
  exact (persist_round_trip keyedDatabase ⟨fun _ => rfl, rfl⟩ keyedChannel hlimits (by decide)
    { name := "#C".toList } (by decide)).2.2.1 .ban

end Storage

end ScratchIrcd
