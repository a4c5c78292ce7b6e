/-
  File:      ScratchIrcd/MemoServ.lean
  Subject:   The memo table and its listings (src/memoserv_db.c, src/memoserv_db_extra.c), and
             LIST and SENT (src/memoserv.c).

  `memoserv_db_list` walks a cursor while there is room and the cursor has rows, and takes the
  code of the last step for its success. The walk that ends for want of room ends on a row, so a
  box that fills the capacity is reported as a failure of the database. LIST has room for 50, the
  default quota is 100.
-/
import ScratchIrcd.NickServ

namespace ScratchIrcd

open CText

variable {db : MemoServDb} {capacity : Nat} {account : Text}

/-! ## 1. The table -/

/-- `IRCD_MEMOSERV_TEXT_MAX`, `IRCD_MEMOSERV_LIST_LIMIT`, `MEMOSERV_PURGE_INTERVAL_SECONDS`. -/
def ircdMemoservTextMax : Nat := 400
def ircdMemoservListLimit : Nat := 50
def memoservPurgeIntervalSeconds : Nat := 300

structure MemoServMemo where
  id : Nat
  sender : Text
  recipient : Text
  text : Text
  createdAt : Nat
  readAt : Nat := 0
  deriving DecidableEq, Repr

/-- A row of `memos`. -/
structure MemoRow extends MemoServMemo where
  senderDeleted : Bool := false
  recipientDeleted : Bool := false
  deriving DecidableEq, Repr

/-- `fill_memo` can copy the columns. -/
def MemoRow.readable (r : MemoRow) : Bool :=
  columnFits ircNickMax r.sender && columnFits ircNickMax r.recipient &&
    columnFits ircdMemoservTextMax r.text

/-- The table `memos`: rows in the order of their key, every one as `memoserv_db_send` writes it. -/
structure MemoServDb where
  rows : List MemoRow := []
  /-- The next key of AUTOINCREMENT. -/
  nextId : Nat := 1
  ascending : rows.Pairwise fun a b => a.id < b.id
  fresh : ∀ r ∈ rows, r.id < nextId
  readable : ∀ r ∈ rows, r.readable = true

namespace MemoServDb

/-- A freshly created database. -/
def empty : MemoServDb where
  ascending := List.Pairwise.nil
  fresh := fun _ h => absurd h List.not_mem_nil
  readable := fun _ h => absurd h List.not_mem_nil

/-- The row `memoserv_db_send` writes, if it accepts the arguments. -/
def sendRow (db : MemoServDb) (now : Nat) (sender recipient text : Text) : Option MemoRow :=
  if accountArgFits (cString sender) && accountArgFits (cString recipient) &&
      !(cString text).isEmpty && textFits ircdMemoservTextMax (cString text) then
    some { id := db.nextId, sender := cString sender, recipient := cString recipient,
           text := cString text, createdAt := now }
  else none

theorem columnFits_of_textFits {n : Nat} {t : Text} (h : textFits n (cString t) = true) :
    columnFits n (cString t) = true := by
  unfold columnFits
  rw [h, Bool.true_and, Bool.not_eq_true', ← Bool.not_eq_true, List.contains_iff_mem]
  exact not_mem_cString t

theorem sendRow_spec {now : Nat} {sender recipient text : Text} {row : MemoRow}
    (h : db.sendRow now sender recipient text = some row) :
    row.id = db.nextId ∧ row.readable = true := by
  unfold sendRow at h
  split at h
  · rename_i hfits
    cases h
    simp only [accountArgFits, Bool.and_eq_true] at hfits
    obtain ⟨⟨⟨⟨-, hsender⟩, -, hrecipient⟩, -⟩, htext⟩ := hfits
    refine ⟨rfl, ?_⟩
    simp only [MemoRow.readable, columnFits_of_textFits hsender, columnFits_of_textFits hrecipient,
      columnFits_of_textFits htext, Bool.and_self]
  · cases h

/-- The table with one more row. -/
def insert (db : MemoServDb) (row : MemoRow) (hid : row.id = db.nextId)
    (hreadable : row.readable = true) : MemoServDb where
  rows := db.rows ++ [row]
  nextId := db.nextId + 1
  ascending := List.pairwise_append.mpr ⟨db.ascending, List.pairwise_singleton _ _,
    fun a ha b hb => by rw [List.mem_singleton.mp hb, hid]; exact db.fresh a ha⟩
  fresh := by
    intro r hr
    rcases List.mem_append.mp hr with hr | hr
    · exact Nat.lt_succ_of_lt (db.fresh r hr)
    · rw [List.mem_singleton.mp hr, hid]
      exact Nat.lt_succ_self _
  readable := by
    intro r hr
    rcases List.mem_append.mp hr with hr | hr
    · exact db.readable r hr
    · rw [List.mem_singleton.mp hr]
      exact hreadable

/-- `memoserv_db_send`: the key of the new memo. -/
def send (db : MemoServDb) (now : Nat) (sender recipient text : Text) : Option (Nat × MemoServDb) :=
  match h : db.sendRow now sender recipient text with
  | none => none
  | some row => some (db.nextId, db.insert row (sendRow_spec h).1 (sendRow_spec h).2)

/-- Rows that satisfy a condition are left. -/
def keep (db : MemoServDb) (p : MemoRow → Bool) : MemoServDb where
  rows := db.rows.filter p
  nextId := db.nextId
  ascending := db.ascending.filter p
  fresh := fun r hr => db.fresh r (List.mem_of_mem_filter hr)
  readable := fun r hr => db.readable r (List.mem_of_mem_filter hr)

/-- `memoserv_db_purge_before` for everybody. -/
def purgeBefore (db : MemoServDb) (cutoff : Nat) : Option MemoServDb :=
  if cutoff = 0 then none else some (db.keep fun r => decide (cutoff ≤ r.createdAt))

/-! ## 2. Listings -/

/-- `recipient=?1 AND recipient_deleted=0` -/
def received (account : Text) (r : MemoRow) : Bool :=
  strcasecmpEq r.recipient account && !r.recipientDeleted

/-- `sender=?1 AND sender_deleted=0` -/
def sent (account : Text) (r : MemoRow) : Bool :=
  strcasecmpEq r.sender account && !r.senderDeleted

/-- `ORDER BY id DESC` -/
def newestFirst (db : MemoServDb) (p : MemoRow → Bool) : List MemoRow := (db.rows.filter p).reverse

/-- What `sqlite3_step` reports when the database has no error. -/
inductive StepCode where
  | row | done
  deriving DecidableEq, Repr

/-- `while (used < capacity && (rc = sqlite3_step(stmt)) == SQLITE_ROW)`: the memos, and the code
    of the last step. The number is the room that is left, the list what the cursor has left. -/
def listLoop (rc : StepCode) : Nat → List MemoRow → Option (List MemoServMemo × StepCode)
  | 0, _ => some ([], rc)
  | _ + 1, [] => some ([], .done)
  | room + 1, r :: rows =>
      if r.readable then (listLoop .row room rows).map fun res => (r.toMemoServMemo :: res.1, res.2)
      else none

/-- The two list functions; they differ in the rows they select. -/
def listRows (db : MemoServDb) (p : MemoRow → Bool) (account : Text) (capacity : Nat) :
    Option (List MemoServMemo) :=
  if !accountArgFits account || capacity == 0 then none
  else
    match listLoop .done capacity ((db.newestFirst p).take capacity) with
    | some (memos, .done) => some memos
    | _ => none

/-- `memoserv_db_list` -/
def list (db : MemoServDb) (recipient : Text) (capacity : Nat) : Option (List MemoServMemo) :=
  db.listRows (received recipient) recipient capacity

/-- `memoserv_db_list_sent` -/
def listSent (db : MemoServDb) (sender : Text) (capacity : Nat) : Option (List MemoServMemo) :=
  db.listRows (sent sender) sender capacity

theorem readable_of_mem_newestFirst {p : MemoRow → Bool} {r : MemoRow} (h : r ∈ db.newestFirst p) :
    r.readable = true :=
  db.readable r (List.mem_of_mem_filter (List.mem_reverse.mp h))

/-- The walk takes what there is room for; it sees the end only if there is room left. -/
theorem listLoop_spec (rc : StepCode) (room : Nat) (rows : List MemoRow)
    (h : ∀ r ∈ rows, r.readable = true) :
    listLoop rc room rows = some ((rows.take room).map MemoRow.toMemoServMemo,
      if rows.length < room then .done else if room = 0 then rc else .row) := by
  induction rows generalizing rc room with
  | nil => cases room <;> rfl
  | cons r rows ih =>
    cases room with
    | zero => rfl
    | succ room =>
      obtain ⟨hr, hrows⟩ := List.forall_mem_cons.mp h
      rw [listLoop, if_pos hr, ih .row room hrows, Option.map_some, List.take_succ_cons, List.map_cons]
      by_cases hroom : rows.length < room
      · have hcons : (r :: rows).length < room + 1 := by rw [List.length_cons]; omega
        rw [if_pos hroom, if_pos hcons]
      · have hcons : ¬ (r :: rows).length < room + 1 := by rw [List.length_cons]; omega
        rw [if_neg hroom, if_neg hcons, if_neg (Nat.succ_ne_zero room)]
        split <;> rfl

/-- A list function gives all that is selected when there is more room than that, and fails
    otherwise. -/
theorem listRows_eq (db : MemoServDb) (p : MemoRow → Bool)
    (haccount : accountArgFits account = true) (hcapacity : 1 ≤ capacity) :
    db.listRows p account capacity =
      if (db.newestFirst p).length < capacity then
        some ((db.newestFirst p).map MemoRow.toMemoServMemo) else none := by
  have hread : ∀ r ∈ (db.newestFirst p).take capacity, r.readable = true :=
    fun r hr => readable_of_mem_newestFirst (List.mem_of_mem_take hr)
  have hguard : (!accountArgFits account || capacity == 0) = false := by
    rw [haccount, Bool.not_true, Bool.false_or, beq_eq_false_iff_ne]
    omega
  unfold listRows
  rw [hguard, listLoop_spec _ _ _ hread, List.take_take, Nat.min_self, List.length_take]
  simp only [Bool.false_eq_true, if_false]
  by_cases hroom : (db.newestFirst p).length < capacity
  · rw [if_pos (by omega), if_pos hroom, List.take_of_length_le (Nat.le_of_lt hroom)]
  · rw [if_neg (by omega), if_neg (by omega), if_neg hroom]

end MemoServDb

/-! ## 3. The service -/

/-- `shared_memo_db` and the state of `purge_expired`; there is no database while it cannot be
    opened. Its path is not changed while the server runs. -/
structure MemoState where
  db : Option MemoServDb := none
  lastPurge : Nat := 0
  lastDays : Nat := 0

/-- The options MemoServ reads, and `gmtime_r` with `strftime`. -/
structure MemoConfig where
  quota : Nat := 100
  retentionDays : Nat := 90
  formatTime : Nat → Text := fun _ => "unknown".toList

namespace MemoState

/-- `purge_expired` -/
def purgeExpired (m : MemoState) (config : MemoConfig) (now : Nat) : MemoState :=
  if config.retentionDays = 0 then m
  else if m.lastPurge ≠ 0 ∧ m.lastPurge ≤ now ∧ now - m.lastPurge < memoservPurgeIntervalSeconds ∧
      m.lastDays = config.retentionDays then m
  else
    match m.db.bind (·.purgeBefore (now - config.retentionDays * 86400)) with
    | none => m
    | some db => { db := some db, lastPurge := now, lastDays := config.retentionDays }

end MemoState

/-- One line of LIST or SENT. -/
def memoLine (config : MemoConfig) (sent : Bool) (memo : MemoServMemo) : Text :=
  let number := '#' :: decimal memo.id
  let created := config.formatTime memo.createdAt
  if sent then
    if memo.readAt = 0 then
      number ++ " TO ".toList ++ memo.recipient ++ " UNREAD sent ".toList ++ created
    else number ++ " TO ".toList ++ memo.recipient ++ " READ sent ".toList ++ created ++
      " read ".toList ++ config.formatTime memo.readAt
  else number ++ (if memo.readAt = 0 then " UNREAD from ".toList else " READ from ".toList) ++
    memo.sender ++ " at ".toList ++ created

namespace Server

/-- `ms_notice` -/
def msNotice (s : Server) (c : ClientRef) (text : Text) : Server :=
  s.chunkedNotice (.service "MemoServ".toList) c text

/-- What LIST and SENT say about the memos they found. -/
def memoReply (s : Server) (config : MemoConfig) (c : ClientRef) (sent : Bool)
    (memos : List MemoServMemo) : Server :=
  if memos.isEmpty then
    s.msNotice c (if sent then "You have no sent memos.".toList else "You have no memos.".toList)
  else memos.foldl (fun s memo => s.msNotice c (memoLine config sent memo)) s

/-- `list_records` -/
def listRecords (s : Server) (config : MemoConfig) (m : MemoState) (c : ClientRef) (sent : Bool) :
    Server × MemoState :=
  let account := (s.client c).accountName
  if account.isEmpty then
    (s.msNotice c "You must identify to NickServ before using MemoServ.".toList, m)
  else match m.db with
    | none => (s.msNotice c "Memo database is unavailable.".toList, m)
    | some _ =>
        let m := m.purgeExpired config s.now
        match m.db.bind fun db =>
            if sent then db.listSent account ircdMemoservListLimit
            else db.list account ircdMemoservListLimit with
        | none => (s.msNotice c "Memo database is unavailable.".toList, m)
        | some memos => (s.memoReply config c sent memos, m)

end Server

/-! ## 4. Listing a box -/

/-- The rows of a side of an account's box, newest first. -/
def MemoServDb.box (db : MemoServDb) (account : Text) : Bool → List MemoRow
  | true => db.newestFirst (MemoServDb.sent account)
  | false => db.newestFirst (MemoServDb.received account)

/-- The newest rows there is room for. -/
def MemoServDb.newest (db : MemoServDb) (account : Text) (sent : Bool) (capacity : Nat) :
    List MemoServMemo :=
  ((db.box account sent).take capacity).map MemoRow.toMemoServMemo

/-- `memoserv_db_list_sent` or `memoserv_db_list`. -/
def MemoServDb.listSide (db : MemoServDb) (account : Text) (sent : Bool) (capacity : Nat) :
    Option (List MemoServMemo) :=
  if sent then db.listSent account capacity else db.list account capacity

theorem MemoServDb.listSide_eq (db : MemoServDb) (sent : Bool)
    (haccount : accountArgFits account = true) (hcapacity : 1 ≤ capacity) :
    db.listSide account sent capacity =
      if (db.box account sent).length < capacity then
        some ((db.box account sent).map MemoRow.toMemoServMemo) else none := by
  cases sent with
  | true | false => exact db.listRows_eq _ haccount hcapacity

theorem MemoServDb.listSide_eq_newest_iff (db : MemoServDb) (sent : Bool)
    (haccount : accountArgFits account = true) (hcapacity : 1 ≤ capacity) :
    db.listSide account sent capacity = some (db.newest account sent capacity) ↔
      (db.box account sent).length < capacity := by
  rw [db.listSide_eq sent haccount hcapacity]
  constructor
  · intro h
    split at h
    · assumption
    · cases h
  · intro h
    unfold newest
    rw [if_pos h, List.take_of_length_le (Nat.le_of_lt h)]

/-- What LIST or SENT answers when this is the database after the purge. -/
def Server.listAnswer (s : Server) (config : MemoConfig) (c : ClientRef) (sent : Bool)
    (db : MemoServDb) : Server :=
  if (db.box (s.client c).accountName sent).length < ircdMemoservListLimit then
    s.memoReply config c sent ((db.box (s.client c).accountName sent).map MemoRow.toMemoServMemo)
  else s.msNotice c "Memo database is unavailable.".toList

theorem Server.listRecords_eq (s : Server) (config : MemoConfig) {m : MemoState} (c : ClientRef)
    (sent : Bool) (haccount : accountArgFits (s.client c).accountName = true)
    (hopen : m.db ≠ none) (hdb : (m.purgeExpired config s.now).db = some db) :
    (s.listRecords config m c sent).1 = s.listAnswer config c sent db := by
  have hname : (s.client c).accountName.isEmpty = false := by
    unfold accountArgFits at haccount
    rw [Bool.and_eq_true, Bool.not_eq_true'] at haccount
    exact haccount.1
  have hside : (if sent then db.listSent (s.client c).accountName ircdMemoservListLimit
      else db.list (s.client c).accountName ircdMemoservListLimit) = _ :=
    db.listSide_eq sent haccount (by decide)
  obtain ⟨db₀, hdb₀⟩ := Option.ne_none_iff_exists'.mp hopen
  unfold listRecords listAnswer
  simp only [hname, Bool.false_eq_true, if_false, hdb₀, hdb, Option.bind_some]
  rw [hside]
  by_cases hroom : (db.box (s.client c).accountName sent).length < ircdMemoservListLimit
  · rw [if_pos hroom, if_pos hroom]
  · rw [if_neg hroom, if_neg hroom]

/-- **Both lists of an account are the newest memos there is room for exactly when there is more
    room than memos**; LIST and SENT show the whole box below their limit and report a failure of
    the database at and above it. -/
theorem memo_listing_iff (db : MemoServDb) {account : Text} {capacity : Nat}
    (haccount : accountArgFits account = true) (hcapacity : 1 ≤ capacity) :
    ((db.list account capacity = some (db.newest account false capacity) ∧
        db.listSent account capacity = some (db.newest account true capacity)) ↔
      (db.box account false).length < capacity ∧ (db.box account true).length < capacity) ∧
    ∀ (s : Server) (config : MemoConfig) (m : MemoState) (c : ClientRef) (sent : Bool),
      (s.client c).accountName = account → m.db ≠ none →
      (m.purgeExpired config s.now).db = some db →
      (s.listRecords config m c sent).1 = s.listAnswer config c sent db := by
  constructor
  · have hreceived := db.listSide_eq_newest_iff false haccount hcapacity
    have hsent := db.listSide_eq_newest_iff true haccount hcapacity
    exact and_congr hreceived hsent
  · rintro s config m c sent rfl hopen hdb
    exact s.listRecords_eq config c sent haccount hopen hdb

/-- `bob` sends `ann` some memos. -/
def memosForAnn (n : Nat) : MemoServDb :=
  n.repeat (fun db => ((db.send 1000 "bob".toList "ann".toList "hi".toList).map Prod.snd).getD db)
    MemoServDb.empty

theorem memo_listing_iff_ann :
    (memosForAnn 1).list "ann".toList 2 = some ((memosForAnn 1).newest "ann".toList false 2) ∧
      (memosForAnn 1).listSent "ann".toList 2 = some ((memosForAnn 1).newest "ann".toList true 2) :=
  (memo_listing_iff (memosForAnn 1) (by decide) (by decide)).1.mpr (by decide)

/-- Half of the default quota, and LIST fails. -/
theorem full_list_fails : 50 < (({} : MemoConfig)).quota ∧
    ((memosForAnn 50).box "ann".toList false).length = 50 ∧
    (memosForAnn 50).list "ann".toList ircdMemoservListLimit = none := by
  decide +kernel

end ScratchIrcd
