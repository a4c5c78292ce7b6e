/-
  File:      ScratchIrcd/PchannelsCache.lean
  Subject:   The cached list of registered channels and the counter that makes it stale
             (`get_pchannels_cache` of src/commands/common.c, `pchannels_changed` of src/chanserv_db.c).

  The text of PCHANNELS is built from the enabled rows and kept until `pchannels_generation` moves.
  The counter is 64 bits wide and leaves out 0, so it returns to a value after 2^64 - 1 changes: up
  to there an unchanged counter means unchanged rows. A run here is a run of the statements the
  commands issue; the path of the database is one and the same. What NSSET and NSDROP do to the rows
  of channels is written out once more, beside the counter: `Mirrors` says that it is the same.
-/
import ScratchIrcd.ListReplies
import ScratchIrcd.World

namespace ScratchIrcd

open CText

/-! ## 1. The counter -/

/-- `pchannels_changed`: a `uint64_t` that skips 0. -/
def nextGeneration (generation : Nat) : Nat :=
  if (generation + 1) % 18446744073709551616 = 0 then 1 else (generation + 1) % 18446744073709551616

/-- The counter starts at 1; this is its value after `n` changes. -/
def generationAfter (n : Nat) : Nat := n % 18446744073709551615 + 1

theorem nextGeneration_generationAfter (n : Nat) : nextGeneration (generationAfter n) = generationAfter (n + 1) := by
  unfold nextGeneration generationAfter
  split <;> omega

theorem generationAfter_inj {m n : Nat} (hm : m ≤ n) (hn : n < 18446744073709551615)
    (h : generationAfter m = generationAfter n) : m = n := by
  unfold generationAfter at h
  omega

/-! ## 2. The statements -/

/-- The database, `pchannels_generation`, and the cached text with the generation it was built at.
    How often `pchannels_changed` was called is counted beside it. -/
structure PchannelsState where
  storage : Storage
  generation : Nat := 1
  cache : Option (Nat × Text) := none
  changes : Nat := 0

/-- `SELECT name FROM channels WHERE enabled=1 ORDER BY name COLLATE IRCNOCASE`. -/
def ChanServStore.enabledNames (st : ChanServStore) : List Text :=
  ((st.channels.filter (·.enabled)).map (·.name)).mergeSort (Server.foldLe ircFold)

/-- A name `rebuild_pchannels_cache` does not leave out. -/
def pchannelsNameFits (name : Text) : Bool :=
  !name.isEmpty && decide (name.length ≤ ircChannelNameMax) && !name.contains '\x00'

namespace PchannelsState

/-- The outcome of a statement that does not touch the list. -/
def stored (p : PchannelsState) (r : Bool × Storage) : Bool × PchannelsState :=
  (r.1, { p with storage := r.2 })

/-- The outcome of a statement that calls `pchannels_changed` when it changed a row. -/
def storedChange (p : PchannelsState) (r : Bool × Storage) : Bool × PchannelsState :=
  if r.1 then
    (true, { p with storage := r.2, generation := nextGeneration p.generation, changes := p.changes + 1 })
  else p.stored r

/-- `chanserv_db_create`, `chanserv_db_delete` and `chanserv_db_set_enabled`. -/
def create (p : PchannelsState) (name founder description : Text) (now : Nat) : Bool × PchannelsState :=
  p.storedChange (p.storage.chanservDbCreate name founder description now)

def delete (p : PchannelsState) (name : Text) : Bool × PchannelsState :=
  p.storedChange (p.storage.chanservDbDelete name)

def setEnabled (p : PchannelsState) (name : Text) (enabled : Bool) : Bool × PchannelsState :=
  p.storedChange (p.storage.chanservDbSetEnabled name enabled)

/-- One channel of an account that is dropped: its successor takes over, or the registration ends.
    `holds` says which successors have an enabled account. -/
def succeed (account : Text) (holds : Text → Bool) (p : PchannelsState) (item : Text × Text) : PchannelsState :=
  if holds item.2 && !strcasecmpEq item.2 account then
    match p.stored (p.storage.chanservDbSetFounder item.1 item.2) with
    | (false, p) => p
    | (true, p) => (p.stored (p.storage.chanservDbSetSuccessor item.1 [])).2
  else (p.setEnabled item.1 false).2

/-- `handle_chanserv_founder_account_removed`. -/
def founderRemoved (p : PchannelsState) (account : Text) (holds : Text → Bool) : PchannelsState :=
  let founded := p.storage.chanserv.channels.filter fun r => r.enabled && nocaseEq r.founder account
  let readable := founded.all fun r => columnFits ircChannelNameMax r.name && columnFits ircNickMax r.successor
  let p' := { p with storage := p.storage.tick.tick }
  if !validAccountName account then p
  else if !p.storage.ioOk then { p with storage := p.storage.tick }
  else if !p.storage.tick.ioOk || !readable then p'
  else (founded.map fun r => (r.name, r.successor)).foldl (succeed account holds) p'

/-- `remove_chanserv_account_references`. -/
def referencesRemoved (p : PchannelsState) (account : Text) : PchannelsState :=
  let names := Server.referencedNames p.storage.chanserv account
  let p' := { p with storage := p.storage.tick.tick }
  if !validAccountName account then p
  else if !p.storage.ioOk then { p with storage := p.storage.tick }
  else if !p.storage.tick.ioOk || !names.all (columnFits ircChannelNameMax) then p'
  else (p'.stored (Server.dropReferences p'.storage account)).2

/-- `rebuild_pchannels_cache`. -/
def rebuild (p : PchannelsState) : PchannelsState :=
  if !p.storage.ioOk then { p with storage := p.storage.tick }
  else if !p.storage.tick.ioOk then { p with storage := p.storage.tick.tick }
  else
    let text := [','].intercalate (p.storage.chanserv.enabledNames.filter pchannelsNameFits)
    { p with storage := p.storage.tick.tick, cache := some (p.generation, text) }

/-- `get_pchannels_cache`: after a rebuild that failed the old text is all there is. -/
def getCache (p : PchannelsState) : Text × PchannelsState :=
  let p := if p.cache.map (·.1) = some p.generation then p else p.rebuild
  ((p.cache.map (·.2)).getD [], p)

/-- What touches the list, and a client that registers. -/
inductive Act
  | register (name founder description : Text) (now : Nat)
  | drop (name : Text)
  | enable (name : Text)
  | disable (name : Text)
  | disableAccount (account : Text) (holds : Text → Bool)
  | dropAccount (account : Text) (holds : Text → Bool)
  | registerClient

def step (p : PchannelsState) : Act → PchannelsState
  | .register name founder description now => (p.create name founder description now).2
  | .drop name => (p.delete name).2
  | .enable name => (p.setEnabled name true).2
  | .disable name => (p.setEnabled name false).2
  | .disableAccount account holds => p.founderRemoved account holds
  | .dropAccount account holds => (p.founderRemoved account holds).referencesRemoved account
  | .registerClient => p.getCache.2

end PchannelsState

/-! ## 3. What a statement does to the rows -/

/-- Names and enabled flags, in the order of the rows. -/
def ChanServStore.listing (st : ChanServStore) : List (Text × Bool) :=
  st.channels.map fun r => (r.name, r.enabled)

theorem ChanServStore.enabledNames_congr {st st' : ChanServStore} (h : st'.listing = st.listing) :
    st'.enabledNames = st.enabledNames := by
  have hnames : ∀ t : ChanServStore,
      (t.channels.filter (·.enabled)).map (·.name) = (t.listing.filter (·.2)).map (·.1) := by
    intro t
    unfold listing
    rw [List.filter_map, List.map_map]
    rfl
  unfold enabledNames
  rw [hnames, hnames, h]

/-- `chanserv.db` answers, and the names of its rows are channel names. -/
structure Storage.Listed (d : Storage) : Prop where
  works : ∀ n, d.io n = true
  valid : ∀ e ∈ d.chanserv.listing, channelNameValid e.1 = true

/-- Nothing PCHANNELS shows has changed. -/
structure Storage.SameListing (d d' : Storage) : Prop where
  io : d'.io = d.io
  listing : d'.chanserv.listing = d.chanserv.listing

namespace Storage

theorem SameListing.listed {d d' : Storage} (h : d.SameListing d') (hd : d.Listed) : d'.Listed where
  works := by rw [h.io]; exact hd.works
  valid := by rw [h.listing]; exact hd.valid

theorem SameListing.tick (d : Storage) : d.SameListing d.tick := ⟨rfl, rfl⟩

variable {d : Storage} {name : Text} {f : ChanServChannel → ChanServChannel}

theorem listing_mapRow (st : ChanServStore) (hname : ∀ r, (f r).name = r.name)
    (henabled : ∀ r, (f r).enabled = r.enabled) : (st.mapRow name f).listing = st.listing := by
  unfold ChanServStore.mapRow ChanServStore.listing
  rw [List.map_map]
  refine List.map_congr_left fun r _ => ?_
  dsimp only [Function.comp]
  split
  · rw [hname, henabled]
  · rfl

theorem sameListing_updateRow (d : Storage) (name : Text) (hname : ∀ r, (f r).name = r.name)
    (henabled : ∀ r, (f r).enabled = r.enabled) : d.SameListing (d.updateRow name f).2 := by
  unfold updateRow
  split
  · exact ⟨rfl, rfl⟩
  split
  · exact .tick d
  · exact ⟨rfl, listing_mapRow d.chanserv hname henabled⟩

theorem mapRow_of_none (st : ChanServStore) (h : st.row name = none)
    (f : ChanServChannel → ChanServChannel) : st.mapRow name f = st := by
  have hrows : (st.channels.map fun r => if nameEq r.name name = true then f r else r) = st.channels := by
    refine (List.map_congr_left fun r hr => ?_).trans (List.map_id _)
    rw [if_neg (List.find?_eq_none.mp h r hr), id]
  unfold ChanServStore.mapRow
  rw [hrows]

/-- An UPDATE that found no row. -/
theorem sameListing_of_updateRow_false (h : (d.updateRow name f).1 = false) :
    d.SameListing (d.updateRow name f).2 := by
  unfold updateRow at h ⊢
  split
  · exact ⟨rfl, rfl⟩
  split
  · exact .tick d
  · rename_i hfits hio
    rw [if_neg hfits, if_neg hio] at h
    have hnone : d.chanserv.row name = none := Option.isNone_iff_eq_none.mp (by simpa using h)
    exact ⟨rfl, congrArg ChanServStore.listing (mapRow_of_none d.chanserv hnone f)⟩

theorem listed_updateRow (hd : d.Listed) (hname : ∀ r, (f r).name = r.name) : (d.updateRow name f).2.Listed := by
  unfold updateRow
  split
  · exact hd
  split
  · exact (SameListing.tick d).listed hd
  refine ⟨hd.works, fun e he => ?_⟩
  obtain ⟨r', hr', rfl⟩ := List.mem_map.mp he
  obtain ⟨r, hr, rfl⟩ := List.mem_map.mp hr'
  have hvalid := hd.valid _ (List.mem_map_of_mem hr)
  dsimp only
  split
  · rw [hname]
    exact hvalid
  · exact hvalid

theorem sameListing_of_create_false {founder description : Text} {now : Nat}
    (h : (d.chanservDbCreate name founder description now).1 = false) :
    d.SameListing (d.chanservDbCreate name founder description now).2 := by
  unfold chanservDbCreate at h ⊢
  split
  · exact ⟨rfl, rfl⟩
  split
  · exact .tick d
  · rename_i hfits hio
    rw [if_neg hfits, if_neg hio] at h
    exact absurd h (nofun : ¬ true = false)

theorem listed_create {founder description : Text} {now : Nat} (hd : d.Listed)
    (hname : channelNameValid name = true) : (d.chanservDbCreate name founder description now).2.Listed := by
  unfold chanservDbCreate
  split
  · exact hd
  split
  · exact (SameListing.tick d).listed hd
  refine ⟨hd.works, fun e he => ?_⟩
  obtain ⟨r, hr, rfl⟩ := List.mem_map.mp he
  rcases List.mem_append.mp hr with hr | hr
  · exact hd.valid _ (List.mem_map_of_mem hr)
  · rw [List.mem_singleton.mp hr]
    show channelNameValid (cString name) = true
    rw [cString_of_valid hname]
    exact hname

theorem sameListing_of_delete_false (h : (d.chanservDbDelete name).1 = false) :
    d.SameListing (d.chanservDbDelete name).2 := by
  unfold chanservDbDelete at h ⊢
  split
  · exact ⟨rfl, rfl⟩
  split
  · exact .tick d
  · rename_i hfits hio
    rw [if_neg hfits, if_neg hio] at h
    exact absurd h (nofun : ¬ true = false)

theorem listed_delete (hd : d.Listed) : (d.chanservDbDelete name).2.Listed := by
  unfold chanservDbDelete
  split
  · exact hd
  split
  · exact (SameListing.tick d).listed hd
  refine ⟨hd.works, fun e he => ?_⟩
  obtain ⟨r, hr, rfl⟩ := List.mem_map.mp he
  exact hd.valid _ (List.mem_map_of_mem (List.mem_filter.mp hr).1)

theorem sameListing_setFounder (d : Storage) (name founder : Text) :
    d.SameListing (d.chanservDbSetFounder name founder).2 := by
  unfold chanservDbSetFounder
  split
  · exact ⟨rfl, rfl⟩
  · exact sameListing_updateRow d name (fun _ => rfl) fun _ => rfl

theorem sameListing_setSuccessor (d : Storage) (name successor : Text) :
    d.SameListing (d.chanservDbSetSuccessor name successor).2 := by
  unfold chanservDbSetSuccessor
  split
  · exact ⟨rfl, rfl⟩
  · exact sameListing_updateRow d name (fun _ => rfl) fun _ => rfl

theorem sameListing_dropReferences (d : Storage) (account : Text) :
    d.SameListing (Server.dropReferences d account).2 := by
  unfold Server.dropReferences
  dsimp only
  split_ifs
  iterate 4 exact ⟨rfl, rfl⟩
  refine ⟨rfl, ?_⟩
  unfold ChanServStore.listing
  rw [List.map_map]
  refine List.map_congr_left fun r _ => ?_
  dsimp only [Function.comp]
  unfold Server.clearSuccessor
  split <;> rfl

end Storage

/-! ## 4. The cache follows the rows -/

/-- The text of PCHANNELS for these rows. -/
def ChanServStore.pchannelsText (st : ChanServStore) : Text := [','].intercalate st.enabledNames

namespace PchannelsState

/-- The cache was built after some number of changes; while there were no others its text is that of
    the rows. -/
structure Tracks (p : PchannelsState) : Prop where
  listed : p.storage.Listed
  generation : p.generation = generationAfter p.changes
  cached : ∀ g text, p.cache = some (g, text) →
    ∃ n ≤ p.changes, g = generationAfter n ∧ (n = p.changes → text = p.storage.chanserv.pchannelsText)

variable {p : PchannelsState} {d : Storage}

theorem Tracks.keep (h : p.Tracks) (hd : p.storage.SameListing d) : { p with storage := d }.Tracks where
  listed := hd.listed h.listed
  generation := h.generation
  cached g text hcache := by
    obtain ⟨n, hn, hg, htext⟩ := h.cached g text hcache
    refine ⟨n, hn, hg, fun heq => ?_⟩
    rw [htext heq]
    unfold ChanServStore.pchannelsText
    rw [ChanServStore.enabledNames_congr hd.listing]

theorem Tracks.storedChange {r : Bool × Storage} (h : p.Tracks) (hlisted : r.2.Listed)
    (hsame : r.1 = false → p.storage.SameListing r.2) : (p.storedChange r).2.Tracks := by
  unfold PchannelsState.storedChange
  split
  · refine ⟨hlisted, ?_, fun g text hcache => ?_⟩
    · show nextGeneration p.generation = _
      rw [h.generation, nextGeneration_generationAfter]
    · obtain ⟨n, hn, hg, -⟩ := h.cached g text hcache
      exact ⟨n, Nat.le_succ_of_le hn, hg, fun heq => absurd heq (Nat.ne_of_lt (Nat.lt_succ_of_le hn))⟩
  · rename_i hfalse
    exact h.keep (hsame (Bool.eq_false_of_not_eq_true hfalse))

theorem Tracks.setEnabled (h : p.Tracks) (name : Text) (enabled : Bool) : (p.setEnabled name enabled).2.Tracks :=
  h.storedChange (Storage.listed_updateRow h.listed fun _ => rfl) Storage.sameListing_of_updateRow_false

theorem Tracks.succeed (h : p.Tracks) (account : Text) (holds : Text → Bool) (item : Text × Text) :
    (p.succeed account holds item).Tracks := by
  unfold PchannelsState.succeed
  split
  · have hfounder := Storage.sameListing_setFounder p.storage item.1 item.2
    unfold stored
    generalize p.storage.chanservDbSetFounder item.1 item.2 = founded at hfounder ⊢
    obtain ⟨_ | _, d⟩ := founded
    · exact h.keep hfounder
    · exact (h.keep hfounder).keep (Storage.sameListing_setSuccessor d item.1 [])
  · exact h.setEnabled item.1 false

theorem Tracks.founderRemoved (h : p.Tracks) (account : Text) (holds : Text → Bool) :
    (p.founderRemoved account holds).Tracks := by
  have hread : { p with storage := p.storage.tick.tick }.Tracks := (h.keep (.tick _)).keep (.tick _)
  unfold PchannelsState.founderRemoved
  dsimp only
  split_ifs
  · exact h
  · exact h.keep (.tick _)
  · exact hread
  · exact List.foldlRecOn (motive := Tracks) _ _ hread fun q hq item _ => hq.succeed account holds item

theorem Tracks.referencesRemoved (h : p.Tracks) (account : Text) : (p.referencesRemoved account).Tracks := by
  have hread : { p with storage := p.storage.tick.tick }.Tracks := (h.keep (.tick _)).keep (.tick _)
  unfold PchannelsState.referencesRemoved
  dsimp only
  split_ifs
  · exact h
  · exact h.keep (.tick _)
  · exact hread
  · exact hread.keep (Storage.sameListing_dropReferences _ account)

/-- Rows of valid names are all listed. -/
theorem filter_pchannelsNameFits (hd : d.Listed) :
    d.chanserv.enabledNames.filter pchannelsNameFits = d.chanserv.enabledNames := by
  refine List.filter_eq_self.mpr fun name hname => ?_
  obtain ⟨r, hr, rfl⟩ := List.mem_map.mp (List.mem_mergeSort.mp hname)
  have hvalid := hd.valid _ (List.mem_map_of_mem (List.mem_filter.mp hr).1)
  have hzero : '\x00' ∉ r.name := fun hmem => absurd (lt_of_mem_valid hvalid hmem) (by decide)
  simp [pchannelsNameFits, (ne_nil_and_no_comma hvalid).1, length_le_of_channelNameValid hvalid,
    ircChannelNameMax, hzero]

theorem rebuild_of_listed (hd : p.storage.Listed) :
    p.rebuild = { p with storage := p.storage.tick.tick
                         cache := some (p.generation, p.storage.chanserv.pchannelsText) } := by
  have hfirst : p.storage.ioOk = true := hd.works _
  have hsecond : p.storage.tick.ioOk = true := hd.works _
  unfold rebuild
  rw [hfirst, hsecond, filter_pchannelsNameFits hd]
  rfl

theorem Tracks.rebuild (h : p.Tracks) : p.rebuild.Tracks := by
  rw [rebuild_of_listed h.listed]
  refine ⟨⟨h.listed.works, h.listed.valid⟩, h.generation, fun g text hcache => ?_⟩
  obtain ⟨rfl, rfl⟩ := Prod.mk.inj (Option.some.inj hcache)
  exact ⟨p.changes, Nat.le_refl _, h.generation, fun _ => rfl⟩

theorem Tracks.getCache (h : p.Tracks) : p.getCache.2.Tracks := by
  unfold PchannelsState.getCache
  dsimp only
  split
  · exact h
  · exact h.rebuild

theorem Tracks.step (h : p.Tracks) {act : Act}
    (hact : ∀ name founder description now, act = .register name founder description now →
      channelNameValid name = true) : (p.step act).Tracks := by
  cases act with
  | register name founder description now =>
    exact h.storedChange (Storage.listed_create h.listed (hact _ _ _ _ rfl)) Storage.sameListing_of_create_false
  | drop name => exact h.storedChange (Storage.listed_delete h.listed) Storage.sameListing_of_delete_false
  | enable name => exact h.setEnabled name true
  | disable name => exact h.setEnabled name false
  | disableAccount account holds => exact h.founderRemoved account holds
  | dropAccount account holds => exact (h.founderRemoved account holds).referencesRemoved account
  | registerClient => exact h.getCache

/-- The text a client gets is that of the rows, while the counter has not come round. -/
theorem Tracks.text_getCache (h : p.Tracks) (hchanges : p.changes < 18446744073709551615) :
    p.getCache.1 = p.storage.chanserv.pchannelsText := by
  unfold PchannelsState.getCache
  dsimp only
  split
  · rename_i hfresh
    obtain ⟨⟨g, text⟩, hcache, hg⟩ := Option.map_eq_some_iff.mp hfresh
    obtain ⟨n, hn, hgn, htext⟩ := h.cached g text hcache
    rw [hcache]
    refine htext (generationAfter_inj hn hchanges ?_)
    rw [← hgn, ← h.generation]
    exact hg
  · rw [rebuild_of_listed h.listed]
    rfl

end PchannelsState

/-! ## 5. NSDROP and NSSET -/

namespace Storage

/-- One statement on two connections that see the same rows. -/
structure Twice (e d : Storage) (r r' : Bool × Storage) : Prop where
  ok : r'.1 = r.1
  frame : r.2.Frame r'.2
  io : r.2.io = e.io
  nickserv : r'.2.nickserv = d.nickserv

variable {e d : Storage}

theorem Frame.works (h : e.Frame d) (hworks : e.Works) : d.Works := by
  unfold Works
  rw [h.io]
  exact hworks

theorem Frame.updateRow (h : e.Frame d) (hworks : e.Works) (name : Text)
    (f : ChanServChannel → ChanServChannel) : Twice e d (e.updateRow name f) (d.updateRow name f) := by
  cases hname : channelArgFits name with
  | false =>
    unfold Storage.updateRow
    rw [hname]
    exact ⟨rfl, h, rfl, rfl⟩
  | true =>
    rw [(h.works hworks).updateRow hname, hworks.updateRow hname]
    unfold ChanServStore.row ChanServStore.mapRow
    rw [h.channels]
    exact ⟨rfl, ⟨h.io, rfl, h.access, h.nickserv, h.operators⟩, rfl, rfl⟩

theorem Frame.setFounder (h : e.Frame d) (hworks : e.Works) (name founder : Text) :
    Twice e d (e.chanservDbSetFounder name founder) (d.chanservDbSetFounder name founder) := by
  unfold chanservDbSetFounder
  split
  · exact ⟨rfl, h, rfl, rfl⟩
  · exact h.updateRow hworks name _

theorem Frame.dropReferences (h : e.Frame d) (hworks : e.Works) (account : Text) :
    Twice e d (Server.dropReferences e account) (Server.dropReferences d account) := by
  unfold Server.dropReferences
  simp only [ioOk, tick, show ∀ n, e.io n = true from hworks,
    show ∀ n, d.io n = true from h.works hworks, Bool.not_true, Bool.false_eq_true, if_false]
  rw [h.channels, h.access]
  exact ⟨rfl, ⟨h.io, rfl, rfl, h.nickserv, h.operators⟩, rfl, rfl⟩

/-- An account that `nickserv_account_enabled` finds, when no statement fails. -/
def holds (d : Storage) (account : Text) : Bool :=
  validAccountName account && (d.nickserv.all fun a => decide (a.vhost.length ≤ ircHostMax)) &&
    accountArgFits account && (d.account account).any fun a => a.readable && a.enabled

end Storage

namespace Server

variable {s : Server}

theorem accountEnabled_of_works (hworks : s.storage.Works) (account : Text) :
    (s.accountEnabled account).1 = s.storage.holds account := by
  have hio : s.storage.tick.ioOk = true := hworks _
  have haccount : s.storage.tick.account = s.storage.account := rfl
  unfold accountEnabled enabledAccount Storage.nickservDbOpen Storage.holds
  rw [hworks.ioOk, Bool.true_and]
  cases validAccountName account with
  | false => rfl
  | true =>
    cases (s.storage.nickserv.all fun a => decide (a.vhost.length ≤ ircHostMax)) with
    | false => rfl
    | true =>
      dsimp only [Bool.not_true, Bool.true_and]
      unfold Storage.nickservDbGet
      rw [hio, haccount]
      cases accountArgFits account with
      | false => rfl
      | true =>
        cases s.storage.account account with
        | none => rfl
        | some a => cases hread : a.readable <;> cases henabled : a.enabled <;> simp [hread, henabled]

theorem frame_clearLiveAccount (s : Server) (account : Text) :
    s.storage.Frame (s.clearLiveAccount account).storage := by
  unfold clearLiveAccount
  split
  · exact .refl _
  · refine List.foldlRecOn (motive := fun t : Server => s.storage.Frame t.storage) _ _ (.refl _)
      fun t h c _ => ?_
    dsimp only
    split
    · exact h.trans (silent_accountChanged (t.updClient c (·.dropAccount t.config t.ext)) c).toQuiet.storage
    · exact h

end Server

namespace PchannelsState

variable {p : PchannelsState} {s : Server} {holds : Text → Bool} {account : Text} {r r' : Bool × Storage}

/-- `p` has the rows of the server, and `holds` says which of its accounts are enabled. -/
structure Mirrors (holds : Text → Bool) (p : PchannelsState) (s : Server) : Prop where
  works : p.storage.Works
  frame : p.storage.Frame s.storage
  accounts : s.storage.holds = holds

namespace Mirrors

theorem later {p' : PchannelsState} {s' : Server} (h : Mirrors holds p s)
    (hio : p'.storage.io = p.storage.io) (hframe : p'.storage.Frame s'.storage)
    (hnickserv : s'.storage.nickserv = s.storage.nickserv) : Mirrors holds p' s' where
  works := by unfold Storage.Works; rw [hio]; exact h.works
  frame := hframe
  accounts := by
    rw [← h.accounts]
    unfold Storage.holds Storage.account
    rw [hnickserv]

/-- The server reads on, or writes what no row of a channel holds. -/
theorem of_frame {s' : Server} (h : Mirrors holds p s) (hframe : s.storage.Frame s'.storage) :
    Mirrors holds p s' := h.later rfl (h.frame.trans hframe) hframe.nickserv

theorem stored (h : Mirrors holds p s) (hw : Storage.Twice p.storage s.storage r r') :
    Mirrors holds (p.stored r).2 { s with storage := r'.2 } := h.later hw.io hw.frame hw.nickserv

theorem storedChange (h : Mirrors holds p s) (hw : Storage.Twice p.storage s.storage r r') :
    Mirrors holds (p.storedChange r).2 { s with storage := r'.2 } := by
  unfold PchannelsState.storedChange
  split
  · exact h.later hw.io hw.frame hw.nickserv
  · exact h.stored hw

theorem noted (h : Mirrors holds p s) (text name : Text) :
    Mirrors holds p ((s.snotice {Snotice.services} text).refreshRegistration name) :=
  h.of_frame (Server.quiet_refreshRegistration (s.snotice {Snotice.services} text) name).storage

theorem succeed (h : Mirrors holds p s) (account : Text) (item : Text × Text) :
    Mirrors holds (p.succeed account holds item) (s.succeed account item) := by
  obtain ⟨name, successor⟩ := item
  cases hacc : s.accountEnabled successor with
  | mk enabled s₁ =>
    obtain ⟨d, hd, heq⟩ := Server.accountEnabled_eq s successor
    rw [hacc] at heq
    cases heq
    have henabled : enabled = holds successor := by
      rw [← h.accounts, ← Server.accountEnabled_of_works (h.frame.works h.works), hacc]
    have hread : Mirrors holds p { s with storage := d } := h.of_frame hd.frame
    unfold PchannelsState.succeed Server.succeed
    dsimp only
    rw [hacc]
    dsimp only
    rw [henabled]
    split
    · have hfounder := hread.frame.setFounder hread.works name successor
      have hset := hread.stored hfounder
      unfold PchannelsState.stored at hset ⊢
      dsimp only at hset ⊢
      generalize p.storage.chanservDbSetFounder name successor = r at hfounder hset ⊢
      generalize d.chanservDbSetFounder name successor = r' at hfounder hset ⊢
      obtain ⟨ok, e⟩ := r
      obtain ⟨ok', d'⟩ := r'
      obtain rfl : ok' = ok := hfounder.ok
      cases ok' with
      | false => exact hset
      | true =>
        dsimp only at hset ⊢
        have hclear := hset.stored (hset.frame.updateRow hset.works name
          fun r => { r with successor := cString [] })
        change Mirrors holds _ { s with storage := (d'.chanservDbSetSuccessor name []).2 } at hclear
        generalize d'.chanservDbSetSuccessor name [] = cleared at hclear ⊢
        obtain ⟨_ | _, d''⟩ := cleared
        · exact hclear
        · exact hclear.noted _ name
    · have hset := hread.storedChange (hread.frame.updateRow hread.works name fun r => { r with enabled := false })
      change Mirrors holds _ { s with storage := (d.chanservDbSetEnabled name false).2 } at hset
      generalize d.chanservDbSetEnabled name false = disabled at hset ⊢
      obtain ⟨_ | _, d'⟩ := disabled
      · exact hset
      · exact hset.noted _ name

/-- A search that opens the database and reads the rows. -/
theorem tick_tick (h : Mirrors holds p s) :
    Mirrors holds { p with storage := p.storage.tick.tick } { s with storage := s.storage.tick.tick } :=
  h.later rfl ⟨h.frame.io, h.frame.channels, h.frame.access, h.frame.nickserv, h.frame.operators⟩ rfl

theorem foldl_succeed (h : Mirrors holds p s) (account : Text) (items : List (Text × Text)) :
    Mirrors holds (items.foldl (PchannelsState.succeed account holds) p)
      (items.foldl (Server.succeed account) s) := by
  induction items generalizing p s with
  | nil => exact h
  | cons item items ih => exact ih (h.succeed account item)

theorem founderRemoved (h : Mirrors holds p s) (account : Text) :
    Mirrors holds (p.founderRemoved account holds) (s.founderRemoved account) := by
  have hworks := h.frame.works h.works
  have hp : p.storage.ioOk = true ∧ p.storage.tick.ioOk = true := ⟨h.works _, h.works _⟩
  have hs : s.storage.tick.ioOk = true := hworks _
  have hrows : s.storage.tick.chanserv.channels = p.storage.chanserv.channels := h.frame.channels
  unfold PchannelsState.founderRemoved Server.founderRemoved Server.foundedChannels
  rw [hworks.chanservDbOpen]
  dsimp only
  rw [hp.1, hp.2, hs, hrows]
  split
  · exact h
  · simp only [Bool.not_true, Bool.false_eq_true, if_false, Bool.false_or, Bool.true_and, Bool.not_eq_true']
    split
    · rename_i hnot
      rw [hnot]
      exact h.tick_tick
    · rename_i hread
      rw [Bool.not_eq_false] at hread
      rw [hread]
      exact h.tick_tick.foldl_succeed account _

theorem removeReferences (h : Mirrors holds p s) (account : Text) :
    Mirrors holds (p.referencesRemoved account) (s.removeReferences account) := by
  have hworks := h.frame.works h.works
  have hp : p.storage.ioOk = true ∧ p.storage.tick.ioOk = true := ⟨h.works _, h.works _⟩
  have hs : s.storage.tick.ioOk = true := hworks _
  have hnames : Server.referencedNames s.storage.tick.chanserv account =
      Server.referencedNames p.storage.chanserv account := by
    unfold Server.referencedNames
    rw [Storage.tick_chanserv, h.frame.channels, h.frame.access]
  unfold PchannelsState.referencesRemoved Server.removeReferences Server.referencedChannels
  rw [hworks.chanservDbOpen]
  dsimp only
  rw [hp.1, hp.2, hs, hnames]
  split
  · exact h
  · simp only [Bool.not_true, Bool.false_eq_true, if_false, Bool.false_or, Bool.true_and, Bool.not_eq_true']
    split
    · rename_i hnot
      rw [hnot]
      exact h.tick_tick
    · rename_i hread
      rw [Bool.not_eq_false] at hread
      rw [hread]
      simp only [if_true]
      have hdrop := h.tick_tick.stored (h.tick_tick.frame.dropReferences h.tick_tick.works account)
      dsimp only at hdrop
      generalize Server.dropReferences s.storage.tick.tick account = dropped at hdrop ⊢
      obtain ⟨_ | _, d⟩ := dropped
      · exact hdrop
      · exact List.foldlRecOn (motive := Mirrors holds _) _ _ hdrop fun t ht name _ =>
          ht.of_frame (t.quiet_refreshRegistration name).storage

/-- **NSDROP is the act**: it leaves the rows that the act leaves. -/
theorem nsdropDone (h : Mirrors holds p s) (c : ClientRef) (account : Text) :
    Mirrors holds (p.step (.dropAccount account holds)) (s.nsdropDone c account) := by
  have hgone := ((h.of_frame (s.frame_clearLiveAccount account)).founderRemoved account).removeReferences account
  obtain ⟨_, -, heq⟩ := (((s.clearLiveAccount account).founderRemoved account).removeReferences
    account).adminNotice_replies c "NickServ account deleted."
  unfold Server.nsdropDone
  dsimp only
  rw [heq]
  exact hgone.of_frame (.refl _)

/-- **So is an NSSET that disables the account.** -/
theorem nssetDone (h : Mirrors holds p s) (c : ClientRef) (name field value account : Text) :
    Mirrors holds (p.step (.disableAccount account holds))
      (s.nssetDone c name field value (some (account, true))) :=
  ((h.of_frame (s.frame_clearLiveAccount account)).founderRemoved account).of_frame (.refl _)

end Mirrors

end PchannelsState

/-! ## 6. Every run -/

theorem foldLe_total (f : Char → Char) (a b : Text) : (Server.foldLe f a b || Server.foldLe f b a) = true := by
  induction a generalizing b with
  | nil => rfl
  | cons x xs ih =>
    cases b with
    | nil => rfl
    | cons y ys =>
      unfold Server.foldLe
      by_cases heq : f x = f y
      · rw [if_pos heq, if_pos heq.symm]
        exact ih ys
      · rw [if_neg heq, if_neg (Ne.symm heq), Bool.or_eq_true, decide_eq_true_iff, decide_eq_true_iff]
        exact Nat.lt_or_gt_of_ne fun h => heq (Char.toNat_inj.mp h)

theorem foldLe_trans (f : Char → Char) (a b c : Text) (hab : Server.foldLe f a b = true)
    (hbc : Server.foldLe f b c = true) : Server.foldLe f a c = true := by
  induction a generalizing b c with
  | nil => rfl
  | cons x xs ih =>
    cases b with
    | nil => cases hab
    | cons y ys =>
      cases c with
      | nil => cases hbc
      | cons z zs =>
        unfold Server.foldLe at hab hbc ⊢
        by_cases hxy : f x = f y
        · rw [if_pos hxy] at hab
          rw [hxy]
          split at hbc
          · rename_i hyz
            rw [if_pos hyz]
            exact ih ys zs hab hbc
          · rename_i hyz
            rw [if_neg hyz]
            exact hbc
        · rw [if_neg hxy, decide_eq_true_iff] at hab
          have hxz : (f x).toNat < (f z).toNat := by
            split at hbc
            · rename_i hyz
              rwa [← hyz]
            · exact hab.trans (decide_eq_true_iff.mp hbc)
          rw [if_neg fun h => absurd (congrArg Char.toNat h) (Nat.ne_of_lt hxz), decide_eq_true_iff]
          exact hxz

namespace PchannelsState

/-- What the process has done since it started on this database. -/
def run (d : Storage) (acts : List Act) : PchannelsState := acts.foldl step { storage := d }

theorem tracks_run {d : Storage} (hd : d.Listed) {acts : List Act}
    (hacts : ∀ name founder description now, Act.register name founder description now ∈ acts →
      channelNameValid name = true) : (run d acts).Tracks := by
  have hstart : ({ storage := d } : PchannelsState).Tracks := ⟨hd, rfl, fun _ _ h => nomatch h⟩
  refine List.foldlRecOn (motive := Tracks) acts step hstart fun p hp act hact => hp.step ?_
  rintro name founder description now rfl
  exact hacts name founder description now hact

/-- **PCHANNELS is never stale**: below 2^64 - 1 changes the lines a client gets at registration carry
    the names of the enabled rows, in the order of the collation. -/
theorem pchannels_never_stale {d : Storage} (hd : d.Listed) {acts : List Act}
    (hacts : ∀ name founder description now, Act.register name founder description now ∈ acts →
      channelNameValid name = true)
    (hchanges : (run d acts).changes < 18446744073709551615) {s : Server} {c : ClientRef}
    (hserver : s.config.serverName.length ≤ ircServerNameMax)
    (hnick : validNickname (s.client c).nick = true) {historyLimit : Nat} (hlimit : historyLimit < 2 ^ 64) :
    ∃ names : List Text,
      names.Perm (((run d acts).storage.chanserv.channels.filter (·.enabled)).map (·.name)) ∧
      names.Pairwise (fun a b => Server.foldLe ircFold a b = true) ∧
      s.CarriesAll (s.pchannelsLine c historyLimit) (·.2) names
        (s.linesTo (s.sendPchannels c historyLimit (run d acts).getCache.1) c) := by
  have htracks := tracks_run hd hacts
  refine ⟨(run d acts).storage.chanserv.enabledNames, List.mergeSort_perm _ _,
    List.pairwise_mergeSort (foldLe_trans ircFold) (foldLe_total ircFold) _, ?_⟩
  unfold Server.sendPchannels
  rw [Server.linesTo_sendAll, htracks.text_getCache hchanges]
  refine Server.carriesAll_pchannels hserver hnick hlimit fun name hname => ?_
  obtain ⟨r, hr, rfl⟩ := List.mem_map.mp (List.mem_mergeSort.mp hname)
  exact htracks.listed.valid _ (List.mem_map_of_mem (List.mem_filter.mp hr).1)

/-- Two channels are registered and one of them is disabled, between two clients. -/
theorem pchannels_never_stale_two :
    ∃ names : List Text,
      names.Perm (((run {} [.registerClient, .register "#b".toList "ann".toList [] 0, .registerClient,
        .register "#a".toList "ann".toList [] 0, .disable "#b".toList]).storage.chanserv.channels.filter
        (·.enabled)).map (·.name)) ∧
      names.Pairwise (fun a b => Server.foldLe ircFold a b = true) ∧
      Server.watchingMember.CarriesAll (Server.watchingMember.pchannelsLine 0 50) (·.2) names
        (Server.watchingMember.linesTo (Server.watchingMember.sendPchannels 0 50
          (run {} [.registerClient, .register "#b".toList "ann".toList [] 0, .registerClient,
            .register "#a".toList "ann".toList [] 0, .disable "#b".toList]).getCache.1) 0) := by
  refine pchannels_never_stale ⟨fun _ => rfl, fun _ he => absurd he List.not_mem_nil⟩ ?_ (by decide +kernel)
    (by decide +kernel) (by decide +kernel) (by decide)
  intro name founder description now hmem
  simp only [List.mem_cons, List.not_mem_nil, or_false, reduceCtorEq, false_or, Act.register.injEq] at hmem
  rcases hmem with ⟨rfl, -⟩ | ⟨rfl, -⟩ <;> decide

/-- The list is cached, one channel is registered and then enabled `n` times. -/
def enabledAgain (n : Nat) : List Act :=
  [.registerClient, .register "#a".toList "ann".toList [] 0] ++ List.replicate n (.enable "#a".toList)

section Round

variable {p : PchannelsState} {r : ChanServChannel} (hworks : ∀ n, p.storage.io n = true)
  (hrows : p.storage.chanserv.channels = [r]) (hname : r.name = "#a".toList) (henabled : r.enabled = true)
include hworks hrows hname henabled

/-- Enabling the one enabled channel again changes nothing but the counter. -/
theorem step_enable :
    (p.step (.enable "#a".toList)).storage.io = p.storage.io ∧
      (p.step (.enable "#a".toList)).storage.chanserv.channels = [r] ∧
      (p.step (.enable "#a".toList)).cache = p.cache ∧
      (p.step (.enable "#a".toList)).changes = p.changes + 1 := by
  have hrow : p.storage.chanserv.row "#a".toList = some r := by
    unfold ChanServStore.row
    rw [hrows, List.find?_singleton, hname, nameEq_refl]
    rfl
  have hfits : channelArgFits "#a".toList = true := by decide
  have hio : p.storage.ioOk = true := hworks _
  have hupdate : p.storage.updateRow "#a".toList (fun r => { r with enabled := true }) =
      (true, { p.storage.tick with
        chanserv := p.storage.chanserv.mapRow "#a".toList fun r => { r with enabled := true } }) := by
    unfold Storage.updateRow
    rw [hfits, hio, hrow]
    rfl
  have hsame : { r with enabled := true } = r := by rw [← henabled]
  have hmap : (p.storage.chanserv.mapRow "#a".toList fun r => { r with enabled := true }).channels = [r] := by
    unfold ChanServStore.mapRow
    dsimp only
    rw [hrows, List.map_singleton, if_pos (by rw [hname]; exact nameEq_refl _), hsame]
  have hstep : p.step (.enable "#a".toList) = (p.storedChange (true, { p.storage.tick with
      chanserv := p.storage.chanserv.mapRow "#a".toList fun r => { r with enabled := true } })).2 := by
    show (p.storedChange (p.storage.updateRow _ _)).2 = _
    rw [hupdate]
  rw [hstep]
  exact ⟨rfl, hmap, rfl, rfl⟩

theorem foldl_enable (n : Nat) :
    ((List.replicate n (.enable "#a".toList)).foldl step p).storage.chanserv.channels = [r] ∧
      ((List.replicate n (.enable "#a".toList)).foldl step p).cache = p.cache ∧
      ((List.replicate n (.enable "#a".toList)).foldl step p).changes = p.changes + n := by
  induction n generalizing p with
  | zero => exact ⟨hrows, rfl, rfl⟩
  | succ n ih =>
    obtain ⟨hio, hchannels, hcache, hchanges⟩ := step_enable hworks hrows hname henabled
    have hworks' : ∀ n, (p.step (.enable "#a".toList)).storage.io n = true := by rwa [hio]
    rw [List.replicate_succ, List.foldl_cons]
    obtain ⟨hrows', hcache', hchanges'⟩ := ih hworks' hchannels
    refine ⟨hrows', hcache'.trans hcache, ?_⟩
    rw [hchanges', hchanges]
    omega

end Round

/-- The row of a channel that was just registered. -/
def freshRow : ChanServChannel := { name := "#a".toList, founder := "ann".toList }

theorem run_enabledAgain (n : Nat) :
    (run {} (enabledAgain n)).storage.chanserv.channels = [freshRow] ∧
      (run {} (enabledAgain n)).cache = some (1, []) ∧
      (run {} (enabledAgain n)).changes = 1 + n ∧
      (run {} (enabledAgain n)).generation = generationAfter (1 + n) := by
  have hacts : ∀ name founder description now,
      Act.register name founder description now ∈ enabledAgain n → channelNameValid name = true := by
    intro name founder description now hmem
    rcases List.mem_append.mp hmem with hmem | hmem
    · simp only [List.mem_cons, List.not_mem_nil, or_false, reduceCtorEq, false_or, Act.register.injEq] at hmem
      rw [hmem.1]
      decide
    · exact nomatch List.eq_of_mem_replicate hmem
  have htracks := tracks_run (d := {}) ⟨fun _ => rfl, fun _ he => absurd he List.not_mem_nil⟩ hacts
  have hfirst : run {} (enabledAgain n) = (List.replicate n (.enable "#a".toList)).foldl step
      (run {} [.registerClient, .register "#a".toList "ann".toList [] 0]) := List.foldl_append
  have hcached : (run {} [.registerClient, .register "#a".toList "ann".toList [] 0]).cache = some (1, []) := by
    decide +kernel
  have hrows : (run {} [.registerClient, .register "#a".toList "ann".toList [] 0]).storage.chanserv.channels =
      [freshRow] := by
    decide +kernel
  obtain ⟨hchannels, hcache, hchanges⟩ := foldl_enable (fun _ => rfl) hrows rfl rfl n
  rw [← hfirst] at hchannels hcache hchanges
  refine ⟨hchannels, hcache.trans hcached, hchanges, ?_⟩
  rw [htracks.generation, hchanges]
  rfl

/-- After 2^64 - 1 changes the counter is where it was: the list from before the channel was
    registered is sent. -/
theorem pchannels_stale_after_round :
    (run {} (enabledAgain 18446744073709551614)).changes < 18446744073709551616 ∧
      (run {} (enabledAgain 18446744073709551614)).storage.chanserv.enabledNames = ["#a".toList] ∧
      commaFields (run {} (enabledAgain 18446744073709551614)).getCache.1 = [] := by
  obtain ⟨hrows, hcache, hchanges, hgeneration⟩ := run_enabledAgain 18446744073709551614
  generalize run {} (enabledAgain 18446744073709551614) = p at hrows hcache hchanges hgeneration ⊢
  refine ⟨by omega, ?_, ?_⟩
  · unfold ChanServStore.enabledNames
    rw [hrows]
    exact List.mergeSort_singleton _
  · have hfresh : p.cache.map (·.1) = some p.generation := by
      rw [hcache, hgeneration]
      rfl
    unfold getCache
    dsimp only
    rw [if_pos hfresh, hcache]
    rfl

end PchannelsState

end ScratchIrcd
