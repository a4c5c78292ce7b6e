/-
  File:      ScratchIrcd/Save.lean
  Subject:   Saving and restoring a channel once the server is up: what a save leaves in the
             tables, when a restore succeeds.

  main.c opens the shared connection and checks the schema before the server starts, so every
  function here is used on a storage that is `Ready`.
-/
import ScratchIrcd.JoinPolicy

namespace ScratchIrcd

open CText

/-! ## 1. A save, table by table -/

namespace RuntimeTables

variable (t : RuntimeTables) {ch : Channel} (h : ch.MasksStorable) {name : Text}

/-- Look-ups under equal names agree. -/
theorem runtimeOf_congr {a b : Text} (hab : nameEq a b = true) : t.runtimeOf a = t.runtimeOf b := by
  unfold runtimeOf
  exact congrArg (fun p => List.find? p t.runtime) (funext fun r => nameEq_congr_right hab r.channel)

theorem masksOf_congr {a b : Text} (hab : nameEq a b = true) : t.masksOf a = t.masksOf b := by
  unfold masksOf
  exact congrArg (fun p => List.filter p t.masks) (funext fun r => nameEq_congr_right hab r.channel)

/-- The row saved for the channel; its `channel` column may be an older spelling. -/
theorem runtimeOf_store_self : ∃ n, (t.store ch h).runtimeOf ch.name = some (ch.runtimeRow n) := by
  unfold runtimeOf store
  dsimp only
  split
  · rename_i hany
    have hfind : ∃ r, t.runtime.find? (fun r => nameEq r.channel ch.name) = some r := by
      rw [← Option.isSome_iff_exists, List.find?_isSome]
      simpa using hany
    obtain ⟨r, hr⟩ := hfind
    have hmatch : nameEq r.channel ch.name = true := by simpa using List.find?_some hr
    refine ⟨r.channel, ?_⟩
    rw [List.find?_map]
    have hcomp : ((fun r : RuntimeRow => nameEq r.channel ch.name) ∘ fun r =>
        if nameEq r.channel ch.name = true then ch.runtimeRow r.channel else r) =
        fun r => nameEq r.channel ch.name := by
      funext r
      simp only [Function.comp_apply]
      split <;> rfl
    rw [hcomp, hr, Option.map_some, if_pos hmatch]
  · rename_i hany
    refine ⟨ch.name, ?_⟩
    rw [List.find?_append, List.find?_eq_none.mpr (by simpa using hany)]
    simp [Channel.runtimeRow]

theorem mem_allMaskRows_channel {m : MaskRow} (hm : m ∈ ch.allMaskRows) : m.channel = ch.name := by
  simp only [Channel.allMaskRows, maskRows, List.mem_append, List.mem_map] at hm
  rcases hm with (⟨_, _, rfl⟩ | ⟨_, _, rfl⟩) | ⟨_, _, rfl⟩ <;> rfl

theorem masksOf_store_self : (t.store ch h).masksOf ch.name = ch.allMaskRows := by
  unfold masksOf store
  dsimp only
  rw [List.filter_append, List.filter_filter, List.filter_eq_nil_iff.mpr (by simp),
    List.nil_append, List.filter_eq_self]
  intro m hm
  rw [mem_allMaskRows_channel hm]
  exact nameEq_refl _

end RuntimeTables

/-- The rows saved for a channel, read back list by list. -/
theorem maskEntries_allMaskRows (ch : Channel) (kind : MaskKind) :
    maskEntries ch.allMaskRows kind = ch.maskList kind := by
  have same : ∀ k l, maskEntries (maskRows ch.name k l) kind = if k = kind then l else [] := by
    intro k l
    induction l with
    | nil => split <;> rfl
    | cons e l ih =>
      by_cases hk : k = kind
      · simp only [hk, if_true] at ih ⊢
        simpa [maskEntries, maskRows] using ih
      · simp only [hk, if_false] at ih ⊢
        simp [maskEntries, maskRows, hk]
  have happend : ∀ a b, maskEntries (a ++ b) kind = maskEntries a kind ++ maskEntries b kind := by
    intro a b
    simp [maskEntries]
  rw [Channel.allMaskRows, happend, happend, same, same, same]
  cases kind <;> simp [Channel.maskList]

/-! ## 2. When a restore succeeds -/

/-- The rows of a channel pass every check of `chanserv_persist_restore`. -/
structure RuntimeTables.Restorable (t : RuntimeTables) (name : Text) : Prop where
  row : ∀ r, t.runtimeOf name = some r → r.readable = true
  masks : ∀ m ∈ t.masksOf name, columnFits ircChannelMaskMax m.mask = true ∧ m.mask ≠ []
  count : ∀ kind, (maskEntries (t.masksOf name) kind).length ≤ ircChannelMaskListMax

namespace Channel

/-- One row is taken exactly when its text is acceptable and its list has room. -/
theorem restoreMask_isSome {ch : Channel} {r : MaskRow}
    (hfresh : ∀ e ∈ ch.maskList r.kind, e.mask ≠ r.mask) :
    (ch.restoreMask r).isSome = true ↔ (columnFits ircChannelMaskMax r.mask = true ∧ r.mask ≠ []) ∧
      (ch.maskList r.kind).length < ircChannelMaskListMax := by
  have hany : (ch.maskList r.kind).any (fun e => e.mask == r.mask) = false := by simpa using hfresh
  unfold restoreMask
  split
  · rename_i hbad
    simp only [Bool.or_eq_true, Bool.not_eq_true', List.isEmpty_iff] at hbad
    rcases hbad with hbad | hbad <;> simp [hbad]
  · rename_i hgood
    simp only [Bool.or_eq_true, Bool.not_eq_true', List.isEmpty_iff, not_or,
      Bool.not_eq_false] at hgood
    obtain ⟨hfits, hne⟩ := hgood
    have hlen : r.mask.length ≤ ircChannelMaskMax := by
      simp only [columnFits, textFits, Bool.and_eq_true, decide_eq_true_eq] at hfits
      exact hfits.1.1
    unfold maskAddAuthorized
    rw [if_neg (by simp [hne, Nat.not_lt.mpr hlen]), hany, if_neg Bool.false_ne_true]
    by_cases hfull : ircChannelMaskListMax ≤ (ch.maskList r.kind).length
    · simp [hfull, Nat.not_lt.mpr hfull]
    · simp [hfull, hfits, hne, Nat.lt_of_not_le hfull]

/-- All rows, by induction: every text is acceptable and no list overflows. -/
theorem restoreMasks_isSome {rows : List MaskRow} {ch : Channel}
    (hrows : rows.Pairwise fun a b => a.kind = b.kind → a.mask ≠ b.mask)
    (hfresh : ∀ r ∈ rows, ∀ e ∈ ch.maskList r.kind, e.mask ≠ r.mask)
    (hlen : ∀ kind, (ch.maskList kind).length ≤ ircChannelMaskListMax) :
    (ch.restoreMasks rows).isSome = true ↔
      (∀ r ∈ rows, columnFits ircChannelMaskMax r.mask = true ∧ r.mask ≠ []) ∧
      ∀ kind, (ch.maskList kind).length + (maskEntries rows kind).length ≤ ircChannelMaskListMax := by
  induction rows generalizing ch with
  | nil => simpa [restoreMasks, maskEntries] using hlen
  | cons r rows ih =>
    obtain ⟨hne, hrows⟩ := List.pairwise_cons.mp hrows
    have hcount : ∀ kind, (maskEntries (r :: rows) kind).length =
        (if kind = r.kind then 1 else 0) + (maskEntries rows kind).length := by
      intro kind
      by_cases hk : kind = r.kind
      · subst hk; simp [maskEntries]; omega
      · simp [maskEntries, hk, Ne.symm hk]
    have hone := restoreMask_isSome (hfresh r List.mem_cons_self)
    rw [restoreMasks, List.foldlM_cons]
    cases hr : ch.restoreMask r with
    | none =>
      rw [hr] at hone
      refine iff_of_false (by simp) ?_
      rintro ⟨hfits, hroom⟩
      have hroom := hroom r.kind
      rw [hcount, if_pos rfl] at hroom
      exact absurd (hone.mpr ⟨hfits r List.mem_cons_self, by omega⟩) (by simp)
    | some ch₁ =>
      rw [hr] at hone
      obtain ⟨hfits, hroom⟩ := hone.mp rfl
      have hch₁ := restoreMask_eq (hfresh r List.mem_cons_self) hr
      have hlist : ∀ kind, (ch₁.maskList kind).length =
          (ch.maskList kind).length + if kind = r.kind then 1 else 0 := by
        intro kind
        rw [hch₁, maskList_setMaskList]
        by_cases hk : kind = r.kind
        · subst hk; simp
        · simp [hk]
      have hfresh₁ : ∀ r' ∈ rows, ∀ e ∈ ch₁.maskList r'.kind, e.mask ≠ r'.mask := by
        intro r' hr' e he
        rw [hch₁, maskList_setMaskList] at he
        split at he
        · rename_i hk
          rcases List.mem_cons.mp he with rfl | he
          · exact hne r' hr' hk.symm
          · exact hfresh r' (List.mem_cons_of_mem _ hr') e (hk ▸ he)
        · exact hfresh r' (List.mem_cons_of_mem _ hr') e he
      have hlen₁ : ∀ kind, (ch₁.maskList kind).length ≤ ircChannelMaskListMax := by
        intro kind
        rw [hlist]
        have := hlen kind
        split
        · rename_i hk; subst hk; omega
        · omega
      show (ch₁.restoreMasks rows).isSome = true ↔ _
      rw [ih hrows hfresh₁ hlen₁, List.forall_mem_cons]
      refine and_congr (by simp only [hfits, ne_eq, not_false_eq_true, and_self, true_and])
        (forall_congr' fun kind => ?_)
      rw [hcount, hlist]
      omega

/-- **A restore succeeds exactly when the rows are in order.** -/
theorem restoreFrom_isSome (ch : Channel) (t : RuntimeTables) :
    (ch.restoreFrom t).isSome = true ↔ t.Restorable ch.name := by
  have masks : ∀ base : Channel, (∀ kind, base.maskList kind = []) →
      ((base.restoreMasks (t.masksOf ch.name)).isSome = true ↔
        (∀ m ∈ t.masksOf ch.name, columnFits ircChannelMaskMax m.mask = true ∧ m.mask ≠ []) ∧
        ∀ kind, (maskEntries (t.masksOf ch.name) kind).length ≤ ircChannelMaskListMax) := by
    intro base hempty
    rw [restoreMasks_isSome (masksOf_pairwise t ch.name) (by simp [hempty]) (by simp [hempty])]
    simp [hempty]
  unfold restoreFrom
  cases hrow : t.runtimeOf ch.name with
  | none =>
    dsimp only
    rw [masks _ fun kind => by cases kind <;> rfl]
    exact ⟨fun h => ⟨by simp [hrow], h.1, h.2⟩, fun h => ⟨h.masks, h.count⟩⟩
  | some r =>
    dsimp only
    cases hread : r.readable with
    | false => exact iff_of_false (by simp) fun h => by simp [h.row r hrow] at hread
    | true =>
      rw [if_pos rfl, masks _ fun kind => by cases kind <;> rfl]
      refine ⟨fun h => ⟨?_, h.1, h.2⟩, fun h => ⟨h.masks, h.count⟩⟩
      intro r' hr'
      rw [hrow] at hr'
      cases hr'
      exact hread

end Channel

/-! ## 3. Once the server is up -/

/-- The shared connection is open and its schema was checked. -/
structure Storage.Ready (d : Storage) : Prop where
  sharedOpen : d.chanserv.sharedOpen = true
  schemaReady : d.chanserv.schemaReady = true

namespace Storage

variable {d : Storage}

theorem readyDb_of_ready (h : d.Ready) : d.readyDb = (true, d) := by
  unfold readyDb openShared
  simp [h.sharedOpen, h.schemaReady]

/-- A restore only reads, and it succeeds exactly when both reads do and the rows are in order. -/
theorem persistRestore_of_ready (h : d.Ready) (ch : Channel) :
    d.OnlyRead (d.persistRestore ch).2.2 ∧
      (textFits ircChannelNameMax ch.name = true → (∀ n, d.io n = true) →
        ((d.persistRestore ch).1 = true ↔ d.chanserv.view.Restorable ch.name)) := by
  unfold persistRestore
  rw [readyDb_of_ready h]
  have hsome := ch.restoreFrom_isSome d.chanserv.view
  refine ⟨?_, fun hname hio => ?_⟩
  · simp only [Bool.not_true, Bool.false_eq_true, if_false]
    split_ifs
    · exact .refl d
    · exact .tick d
    · exact .tick d
    · exact (OnlyRead.tick d).trans (.tick d.tick)
    · split <;> exact (OnlyRead.tick d).trans (.tick d.tick)
  · have hok : d.ioOk = true := hio _
    have hok' : d.tick.ioOk = true := hio _
    simp only [hname, hok, hok', Bool.not_true, Bool.false_eq_true, if_false]
    split_ifs with hread
    · refine iff_of_false (by simp) fun hrest => ?_
      cases hr : d.chanserv.view.runtimeOf ch.name with
      | none => simp [hr] at hread
      | some r => simp [hr, hrest.row r hr] at hread
    · rw [← hsome]
      split
      · rename_i ch' hch'
        rw [hch']; simp
      · rename_i hnone
        rw [hnone]; simp

end Storage

/-! ## 4. Restoring for a JOIN -/

/-- The part of `join_one` between channel and storage: load the policy, and on a +r channel
    restore the runtime state. -/
def restoreForJoin (limit : Nat) (d : Storage) (ch : Channel) : Bool × Channel × Storage :=
  let (chan, d) := loadChannelPolicy limit d ch false
  if chan.isRegistered then d.persistRestore chan else (true, chan, d)

namespace Server

/-- What a restore leaves: its verdict, the storage, and one record. -/
theorem joinRestore_eq {s s' : Server} {c : ClientRef} {ch : ChannelRef} {created restored : Bool}
    (h : s.joinRestore c ch created = (restored, s')) :
    let result := restoreForJoin (ircTopicLimit s.config) s.storage (s.channel ch)
    restored = result.1 ∧ s'.config = s.config ∧ s'.storage = result.2.2 ∧
      s'.channel = Function.update s.channel ch result.2.1 := by
  unfold joinRestore loadPolicy at h
  unfold restoreForJoin
  generalize loadChannelPolicy (ircTopicLimit s.config) s.storage (s.channel ch) false = loaded at h ⊢
  obtain ⟨chan, d⟩ := loaded
  dsimp only at h ⊢
  rw [putChannel_self] at h
  cases hreg : chan.isRegistered with
  | false =>
    rw [hreg] at h
    cases h
    exact ⟨rfl, rfl, rfl, rfl⟩
  | true =>
    rw [hreg, if_neg (by simp)] at h
    have hpair : (s.putChannel ch chan d).restoreRuntime ch = ((d.persistRestore chan).1,
        (s.putChannel ch chan d).putChannel ch (d.persistRestore chan).2.1
          (d.persistRestore chan).2.2) := by
      unfold restoreRuntime
      rw [putChannel_self]
      rfl
    have htwice : ∀ x y, ((s.putChannel ch chan d).putChannel ch x y).channel =
        Function.update s.channel ch x := fun _ _ => Function.update_idem ..
    rw [hpair] at h
    simp only [if_true]
    generalize d.persistRestore chan = result at h ⊢
    obtain ⟨ok, chan', d'⟩ := result
    cases ok with
    | true =>
      cases h
      exact ⟨rfl, rfl, rfl, htwice chan' d'⟩
    | false =>
      cases h
      cases created
      · exact ⟨rfl, rfl, rfl, htwice chan' d'⟩
      · refine ⟨rfl, ?_, ?_, ?_⟩
        · unfold removeChannelIfEmpty
          split_ifs <;> rfl
        · rw [if_pos rfl, storage_removeChannelIfEmpty]; rfl
        · rw [if_pos rfl, channel_removeChannelIfEmpty]; exact htwice chan' d'

end Server

end ScratchIrcd
