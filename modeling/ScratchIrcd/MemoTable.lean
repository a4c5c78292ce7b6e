/-
  File:      ScratchIrcd/MemoTable.lean
  Subject:   What changes the memo table (src/memoserv_db.c, src/memoserv_db_extra.c), and the life
             of a memo in its two boxes.

  One row serves the inbox of the recipient and the sent list of the sender. DEL and DELSENT set a
  flag each; after either, rows with both flags are deleted.

  * `MemoOp.leaves` -- what an operation leaves of one row;
  * `MemoServDb.look_step`, `MemoServDb.look_run` -- the row of a key after an operation and after
    a run is what they leave of it;
  * **`memo_two_sided`** -- a memo is in a box exactly until something ends it there.
-/
import ScratchIrcd.Lib.Runs
import ScratchIrcd.MemoServ

namespace ScratchIrcd

open CText

variable {sent : Bool} {op : MemoOp} {r r' : MemoRow} {p : MemoRow → Bool} {db : MemoServDb}
  {id : Nat} {account : Text}

/-! ## 1. Statements that change the table -/

/-- The columns an UPDATE writes. -/
structure MemoMarks where
  readAt : Nat
  senderDeleted : Bool
  recipientDeleted : Bool

namespace MemoRow

def marks (r : MemoRow) : MemoMarks := ⟨r.readAt, r.senderDeleted, r.recipientDeleted⟩

def withMarks (r : MemoRow) (m : MemoMarks) : MemoRow :=
  { r with readAt := m.readAt, senderDeleted := m.senderDeleted
           recipientDeleted := m.recipientDeleted }

/-- `SET …` with a condition. -/
def setWhere (p : MemoRow → Bool) (set : MemoMarks → MemoMarks) (r : MemoRow) : MemoRow :=
  if p r then r.withMarks (set r.marks) else r

/-- `sender_deleted=1 AND recipient_deleted=1` -/
def fullyDeleted (r : MemoRow) : Bool := r.senderDeleted && r.recipientDeleted

/-- The row is not hidden from a side; `true` is the sender's. -/
def shown (r : MemoRow) (sent : Bool) : Bool :=
  if sent then !r.senderDeleted else !r.recipientDeleted

/-- Whose box a side of the row is in. -/
def owner (r : MemoRow) (sent : Bool) : Text := if sent then r.sender else r.recipient

/-- What no UPDATE writes. -/
structure SameMemo (r r' : MemoRow) : Prop where
  id : r'.id = r.id
  sender : r'.sender = r.sender
  recipient : r'.recipient = r.recipient
  text : r'.text = r.text
  createdAt : r'.createdAt = r.createdAt

theorem SameMemo.refl (r : MemoRow) : SameMemo r r := ⟨rfl, rfl, rfl, rfl, rfl⟩

theorem SameMemo.trans {a b c : MemoRow} (hab : SameMemo a b) (hbc : SameMemo b c) :
    SameMemo a c :=
  ⟨hbc.id.trans hab.id, hbc.sender.trans hab.sender, hbc.recipient.trans hab.recipient,
    hbc.text.trans hab.text, hbc.createdAt.trans hab.createdAt⟩

theorem SameMemo.owner_eq (h : SameMemo r r') (sent : Bool) : r'.owner sent = r.owner sent := by
  cases sent with
  | true => exact h.sender
  | false => exact h.recipient

theorem sameMemo_setWhere (p : MemoRow → Bool) (set : MemoMarks → MemoMarks) (r : MemoRow) :
    SameMemo r (r.setWhere p set) := by
  unfold setWhere
  split
  · exact ⟨rfl, rfl, rfl, rfl, rfl⟩
  · exact .refl r

theorem SameMemo.readable_eq (h : SameMemo r r') : r'.readable = r.readable := by
  unfold readable
  rw [h.sender, h.recipient, h.text]

end MemoRow

namespace MemoServDb

/-- `UPDATE memos SET … WHERE …` -/
def update (db : MemoServDb) (p : MemoRow → Bool) (set : MemoMarks → MemoMarks) : MemoServDb where
  rows := db.rows.map (MemoRow.setWhere p set)
  nextId := db.nextId
  ascending := by
    refine List.pairwise_map.mpr (db.ascending.imp fun {a b} hab => ?_)
    rw [(a.sameMemo_setWhere p set).id, (b.sameMemo_setWhere p set).id]
    exact hab
  fresh := by
    intro r' hr'
    obtain ⟨r, hr, rfl⟩ := List.mem_map.mp hr'
    rw [(r.sameMemo_setWhere p set).id]
    exact db.fresh r hr
  readable := by
    intro r' hr'
    obtain ⟨r, hr, rfl⟩ := List.mem_map.mp hr'
    rw [(r.sameMemo_setWhere p set).readable_eq]
    exact db.readable r hr

/-- `purge_fully_deleted_memos` -/
def purgeFullyDeleted (db : MemoServDb) : MemoServDb := db.keep fun r => !r.fullyDeleted

/-- The rows of a box. -/
def inBox (account : Text) (sent : Bool) (r : MemoRow) : Bool :=
  strcasecmpEq (r.owner sent) account && r.shown sent

/-- The flag a side sets. -/
def hideMarks (sent : Bool) (m : MemoMarks) : MemoMarks :=
  if sent then { m with senderDeleted := true } else { m with recipientDeleted := true }

/-- `memoserv_db_delete` and `memoserv_db_delete_sent`: whether a row was changed. -/
def hideOne (db : MemoServDb) (sent : Bool) (account : Text) (id : Nat) :
    Option (Bool × MemoServDb) :=
  if accountArgFits account && decide (0 < id) then
    let p := fun r => inBox (cString account) sent r && r.id == id
    let changed := decide (0 < db.rows.countP p)
    let db := db.update p (hideMarks sent)
    some (changed, if changed then db.purgeFullyDeleted else db)
  else none

/-- `memoserv_db_delete_all` and `memoserv_db_delete_all_sent`. -/
def hideAll (db : MemoServDb) (sent : Bool) (account : Text) : Option MemoServDb :=
  if accountArgFits account then
    some (db.update (inBox (cString account) sent) (hideMarks sent)).purgeFullyDeleted
  else none

/-- `memoserv_db_delete`, `memoserv_db_delete_all`. -/
def delete (db : MemoServDb) (recipient : Text) (id : Nat) : Option (Bool × MemoServDb) :=
  db.hideOne false recipient id
def deleteAll (db : MemoServDb) (recipient : Text) : Option MemoServDb := db.hideAll false recipient

/-- `memoserv_db_delete_sent`, `memoserv_db_delete_all_sent`. -/
def deleteSent (db : MemoServDb) (sender : Text) (id : Nat) : Option (Bool × MemoServDb) :=
  db.hideOne true sender id
def deleteAllSent (db : MemoServDb) (sender : Text) : Option MemoServDb := db.hideAll true sender

/-- `memoserv_db_mark_read` -/
def markRead (db : MemoServDb) (recipient : Text) (id when_ : Nat) : Option MemoServDb :=
  if accountArgFits recipient && decide (0 < id) && decide (0 < when_) then
    some (db.update (fun r => inBox (cString recipient) false r && r.id == id)
      fun m => { m with readAt := if m.readAt = 0 then when_ else m.readAt })
  else none

/-- `memoserv_db_delete_account` -/
def deleteAccount (db : MemoServDb) (account : Text) : Option MemoServDb :=
  if accountArgFits account then
    some (db.keep fun r => !(strcasecmpEq r.sender (cString account) ||
      strcasecmpEq r.recipient (cString account)))
  else none

/-- `memoserv_db_purge_before` for one recipient. -/
def purgeRecipientBefore (db : MemoServDb) (recipient : Text) (cutoff : Nat) : Option MemoServDb :=
  if cutoff = 0 || !accountArgFits recipient then none
  else some (db.keep fun r => !(strcasecmpEq r.recipient (cString recipient) &&
    decide (r.createdAt < cutoff)))

/-- `memoserv_db_get`: the error, no row, or the memo. -/
def get (db : MemoServDb) (recipient : Text) (id : Nat) : Option (Option MemoServMemo) :=
  if accountArgFits recipient && decide (0 < id) then
    match db.rows.find? fun r => inBox (cString recipient) false r && r.id == id with
    | none => some none
    | some r => if r.readable then some (some r.toMemoServMemo) else none
  else none

end MemoServDb

/-! ## 2. Operations -/

/-- The functions that change the table, with their arguments. -/
inductive MemoOp where
  | send (now : Nat) (sender recipient text : Text)
  | markRead (recipient : Text) (id when_ : Nat)
  | delete (recipient : Text) (id : Nat)
  | deleteAll (recipient : Text)
  | deleteSent (sender : Text) (id : Nat)
  | deleteAllSent (sender : Text)
  | purgeBefore (cutoff : Nat)
  | purgeRecipientBefore (recipient : Text) (cutoff : Nat)
  | deleteAccount (account : Text)

namespace MemoOp

/-- What a side's deletion leaves of a row. -/
def hides (sent : Bool) (p : MemoRow → Bool) (r : MemoRow) : Option MemoRow :=
  if (r.setWhere p (MemoServDb.hideMarks sent)).fullyDeleted then none
  else some (r.setWhere p (MemoServDb.hideMarks sent))

/-- The rows one deletion asks for. -/
def picksOne (sent : Bool) (account : Text) (id : Nat) (r : MemoRow) : Bool :=
  accountArgFits account && decide (0 < id) && MemoServDb.inBox (cString account) sent r &&
    r.id == id

/-- The rows a deletion of all asks for. -/
def picksAll (sent : Bool) (account : Text) (r : MemoRow) : Bool :=
  accountArgFits account && MemoServDb.inBox (cString account) sent r

/-- The rows that are deleted whatever their flags. -/
def erases : MemoOp → MemoRow → Bool
  | .purgeBefore cutoff, r => decide (r.createdAt < cutoff)
  | .purgeRecipientBefore recipient cutoff, r =>
      accountArgFits recipient && strcasecmpEq r.recipient (cString recipient) &&
        decide (r.createdAt < cutoff)
  | .deleteAccount account, r =>
      accountArgFits account && (strcasecmpEq r.sender (cString account) ||
        strcasecmpEq r.recipient (cString account))
  | _, _ => false

/-- What an operation leaves of a row. -/
def leaves (op : MemoOp) (r : MemoRow) : Option MemoRow :=
  match op with
  | .send _ _ _ _ => some r
  | .markRead recipient id when_ =>
      some (r.setWhere (fun r => picksOne false recipient id r && decide (0 < when_))
        fun m => { m with readAt := if m.readAt = 0 then when_ else m.readAt })
  | .delete recipient id => hides false (picksOne false recipient id) r
  | .deleteAll recipient => hides false (picksAll false recipient) r
  | .deleteSent sender id => hides true (picksOne true sender id) r
  | .deleteAllSent sender => hides true (picksAll true sender) r
  | op => if op.erases r then none else some r

/-- The operation ends the memo for a side: that side deletes it, it is purged, or an account of
    it is dropped. Of the row it looks at the key, the two names and the time only. -/
def ends (op : MemoOp) (sent : Bool) (r : MemoRow) : Prop :=
  match op with
  | .delete recipient id => sent = false ∧ accountArgFits recipient = true ∧ 0 < id ∧
      strcasecmpEq r.recipient (cString recipient) = true ∧ r.id = id
  | .deleteAll recipient => sent = false ∧ accountArgFits recipient = true ∧
      strcasecmpEq r.recipient (cString recipient) = true
  | .deleteSent sender id => sent = true ∧ accountArgFits sender = true ∧ 0 < id ∧
      strcasecmpEq r.sender (cString sender) = true ∧ r.id = id
  | .deleteAllSent sender => sent = true ∧ accountArgFits sender = true ∧
      strcasecmpEq r.sender (cString sender) = true
  | op => op.erases r = true

end MemoOp

namespace MemoServDb

/-- The table after an operation; one that is refused changes nothing. -/
def step (db : MemoServDb) : MemoOp → MemoServDb
  | .send now sender recipient text => ((db.send now sender recipient text).map (·.2)).getD db
  | .markRead recipient id when_ => (db.markRead recipient id when_).getD db
  | .delete recipient id => ((db.delete recipient id).map (·.2)).getD db
  | .deleteAll recipient => (db.deleteAll recipient).getD db
  | .deleteSent sender id => ((db.deleteSent sender id).map (·.2)).getD db
  | .deleteAllSent sender => (db.deleteAllSent sender).getD db
  | .purgeBefore cutoff => (db.purgeBefore cutoff).getD db
  | .purgeRecipientBefore recipient cutoff => (db.purgeRecipientBefore recipient cutoff).getD db
  | .deleteAccount account => (db.deleteAccount account).getD db

/-- The table after a run of operations on a new one. -/
def run (ops : List MemoOp) : MemoServDb := Runs.exec step empty ops

/-- No row is hidden from both sides. -/
def Reclaimed (db : MemoServDb) : Prop := ∀ r ∈ db.rows, r.fullyDeleted = false

/-- The row an operation adds. -/
def added (db : MemoServDb) : MemoOp → Option MemoRow
  | .send now sender recipient text => db.sendRow now sender recipient text
  | _ => none

/-! ## 3. What an operation leaves of the rows -/

theorem filterMap_some_filter {α : Type*} (p : α → Bool) (l : List α) :
    l.filterMap (fun a => if p a then none else some a) = l.filter fun a => !p a := by
  rw [← List.filterMap_eq_filter]
  refine List.filterMap_congr fun a _ => ?_
  cases h : p a <;> simp [Option.guard, h]

/-- A deletion, and the purge after it, row by row. -/
theorem rows_hide (db : MemoServDb) (sent : Bool) (p : MemoRow → Bool) :
    (db.update p (hideMarks sent)).purgeFullyDeleted.rows = db.rows.filterMap (MemoOp.hides sent p) := by
  show (db.rows.map _).filter _ = _
  rw [← filterMap_some_filter, List.filterMap_map]
  rfl

/-- Where the condition picks nothing, a deletion leaves the row, if it was not fully deleted. -/
theorem hides_of_not (hp : p r = false) (hr : r.fullyDeleted = false) :
    MemoOp.hides sent p r = some r := by
  unfold MemoOp.hides MemoRow.setWhere
  simp [hp, hr]

theorem filterMap_hides_of_not (hdb : db.Reclaimed) (hp : ∀ r ∈ db.rows, p r = false) :
    db.rows.filterMap (MemoOp.hides sent p) = db.rows := by
  rw [List.filterMap_congr fun r hr => hides_of_not (hp r hr) (hdb r hr), List.filterMap_some]

theorem any_of_countP {rows : List MemoRow} (h : decide (0 < rows.countP p) = false) :
    ∀ r ∈ rows, p r = false := by
  intro r hr
  have hzero : rows.countP p = 0 := by
    have := of_decide_eq_false h
    omega
  exact Bool.eq_false_iff.mpr (List.countP_eq_zero.mp hzero r hr)

/-- `hideOne`, row by row, when it is accepted and when it is refused. -/
theorem rows_hideOne (hdb : db.Reclaimed) (sent : Bool) (account : Text) (id : Nat) :
    (((db.hideOne sent account id).map (·.2)).getD db).rows =
      db.rows.filterMap (MemoOp.hides sent (MemoOp.picksOne sent account id)) := by
  unfold hideOne
  by_cases hargs : (accountArgFits account && decide (0 < id)) = true
  · have hpicks : MemoOp.picksOne sent account id =
        fun r => inBox (cString account) sent r && r.id == id := by
      funext r
      unfold MemoOp.picksOne
      rw [hargs, Bool.true_and]
    rw [if_pos hargs, hpicks]
    simp only [Option.map_some, Option.getD_some]
    split
    · exact db.rows_hide sent _
    · rename_i hnone
      have hno := any_of_countP (Bool.eq_false_iff.mpr hnone)
      rw [filterMap_hides_of_not hdb hno]
      refine (List.map_congr_left fun r hr => ?_).trans (List.map_id _)
      unfold MemoRow.setWhere
      simp only [hno r hr, Bool.false_eq_true, if_false, id_eq]
  · rw [if_neg hargs]
    refine (filterMap_hides_of_not hdb fun r _ => ?_).symm
    unfold MemoOp.picksOne
    rw [Bool.eq_false_iff.mpr hargs, Bool.false_and, Bool.false_and]

theorem rows_hideAll (hdb : db.Reclaimed) (sent : Bool) (account : Text) :
    ((db.hideAll sent account).getD db).rows =
      db.rows.filterMap (MemoOp.hides sent (MemoOp.picksAll sent account)) := by
  unfold hideAll
  by_cases hargs : accountArgFits account = true
  · have hpicks : MemoOp.picksAll sent account = inBox (cString account) sent := by
      funext r
      unfold MemoOp.picksAll
      rw [hargs, Bool.true_and]
    rw [if_pos hargs, hpicks, Option.getD_some]
    exact db.rows_hide sent _
  · rw [if_neg hargs]
    refine (filterMap_hides_of_not hdb fun r _ => ?_).symm
    unfold MemoOp.picksAll
    rw [Bool.eq_false_iff.mpr hargs, Bool.false_and]

theorem rows_markRead (db : MemoServDb) (recipient : Text) (id when_ : Nat) :
    ((db.markRead recipient id when_).getD db).rows =
      db.rows.filterMap (MemoOp.leaves (.markRead recipient id when_)) := by
  show _ = db.rows.filterMap (some ∘ MemoRow.setWhere _ _)
  rw [List.filterMap_eq_map]
  unfold markRead
  split
  · rename_i hargs
    simp only [Bool.and_eq_true] at hargs
    obtain ⟨⟨hrecipient, hid⟩, hwhen⟩ := hargs
    refine List.map_congr_left fun r _ => ?_
    unfold MemoRow.setWhere MemoOp.picksOne
    simp only [hrecipient, hid, hwhen, Bool.true_and, Bool.and_true]
  · rename_i hargs
    refine (List.map_congr_left fun r _ => ?_).trans (List.map_id _) |>.symm
    unfold MemoRow.setWhere MemoOp.picksOne
    rw [if_neg]
    · rfl
    · intro hp
      simp only [Bool.and_eq_true] at hp hargs
      exact hargs ⟨hp.1.1.1, hp.2⟩

/-- The operations that delete rows whatever their flags. -/
theorem rows_erase (db : MemoServDb) (op : MemoOp) (p : MemoRow → Bool) (accepted : Bool)
    (hp : ∀ r, op.erases r = (accepted && p r)) :
    ((if accepted then some (db.keep fun r => !p r) else none).getD db).rows =
      db.rows.filterMap fun r => if op.erases r then none else some r := by
  rw [filterMap_some_filter]
  cases accepted with
  | true =>
    simp only [hp, Bool.true_and]
    rfl
  | false =>
    simp only [hp, Bool.false_and, Bool.not_false, List.filter_true]
    rfl

theorem rows_send (db : MemoServDb) (now : Nat) (sender recipient text : Text) :
    (((db.send now sender recipient text).map (·.2)).getD db).rows =
      db.rows ++ (db.sendRow now sender recipient text).toList := by
  unfold send
  split
  · rename_i hrow
    rw [hrow, Option.toList_none, List.append_nil]
    rfl
  · rename_i row hrow
    have hadded : (db.sendRow now sender recipient text).toList = [row] := by rw [hrow]; rfl
    rw [hadded]
    rfl

/-- What an operation does to the table: what it leaves of each row, and the row it adds. -/
theorem rows_step (hdb : db.Reclaimed) (op : MemoOp) :
    (db.step op).rows = db.rows.filterMap op.leaves ++ (db.added op).toList := by
  cases op with
  | send now sender recipient text =>
    show _ = db.rows.filterMap some ++ _
    rw [List.filterMap_some]
    exact db.rows_send now sender recipient text
  | markRead recipient id when_ =>
    exact (db.rows_markRead recipient id when_).trans (List.append_nil _).symm
  | delete recipient id =>
    exact (rows_hideOne hdb false recipient id).trans (List.append_nil _).symm
  | deleteAll recipient =>
    exact (rows_hideAll hdb false recipient).trans (List.append_nil _).symm
  | deleteSent sender id =>
    exact (rows_hideOne hdb true sender id).trans (List.append_nil _).symm
  | deleteAllSent sender =>
    exact (rows_hideAll hdb true sender).trans (List.append_nil _).symm
  | purgeBefore cutoff =>
    refine Eq.trans ?_ ((db.rows_erase (.purgeBefore cutoff) (fun r => decide (r.createdAt < cutoff))
      (!decide (cutoff = 0)) fun r => ?_).trans (List.append_nil _).symm)
    · unfold step purgeBefore
      by_cases hcutoff : cutoff = 0
      · simp [hcutoff]
      · simp only [hcutoff, decide_false, Bool.not_false, if_true, if_false, Option.getD_some, keep]
        exact List.filter_congr fun r _ => by rw [← decide_not, decide_eq_decide, Nat.not_lt]
    · by_cases hcutoff : cutoff = 0
      · simp [MemoOp.erases, hcutoff]
      · simp [MemoOp.erases, hcutoff]
  | purgeRecipientBefore recipient cutoff =>
    refine Eq.trans ?_ ((db.rows_erase (.purgeRecipientBefore recipient cutoff)
      (fun r => strcasecmpEq r.recipient (cString recipient) && decide (r.createdAt < cutoff))
      (!(decide (cutoff = 0) || !accountArgFits recipient)) fun r => ?_).trans
        (List.append_nil _).symm)
    · unfold step purgeRecipientBefore
      cases h : decide (cutoff = 0) || !accountArgFits recipient <;> simp [h]
    · by_cases hcutoff : cutoff = 0
      · simp [MemoOp.erases, hcutoff]
      · simp [MemoOp.erases, hcutoff, Bool.and_assoc]
  | deleteAccount account =>
    exact (db.rows_erase (.deleteAccount account) (fun r => strcasecmpEq r.sender (cString account) ||
      strcasecmpEq r.recipient (cString account)) (accountArgFits account) fun r => rfl).trans
        (List.append_nil _).symm

end MemoServDb

/-! ## 4. What an operation leaves of one row -/

namespace MemoOp

/-- What is left of a row is the row with other marks, or the row itself. -/
theorem leaves_cases (op : MemoOp) (h : op.leaves r = some r') :
    r' = r ∨ ∃ p set, r' = r.setWhere p set := by
  have herase : ∀ b : Bool, (if b then none else some r) = some r' → r' = r := by
    intro b hb
    cases b with
    | true => cases hb
    | false => exact (Option.some.inj hb).symm
  have hhide : ∀ sent p, hides sent p r = some r' → ∃ p set, r' = r.setWhere p set := by
    intro sent p hp
    unfold hides at hp
    split at hp
    · cases hp
    · exact ⟨p, _, (Option.some.inj hp).symm⟩
  cases op with
  | send => exact .inl (Option.some.inj h).symm
  | markRead => exact .inr ⟨_, _, (Option.some.inj h).symm⟩
  | delete | deleteAll | deleteSent | deleteAllSent => exact .inr (hhide _ _ h)
  | purgeBefore | purgeRecipientBefore | deleteAccount => exact .inl (herase _ h)

theorem sameMemo_of_leaves (h : op.leaves r = some r') : r.SameMemo r' := by
  rcases op.leaves_cases h with rfl | ⟨p, set, rfl⟩
  · exact .refl _
  · exact r.sameMemo_setWhere p set

/-- A read mark stays. -/
theorem readAt_of_leaves (h : op.leaves r = some r') (hread : r.readAt ≠ 0) :
    r'.readAt = r.readAt := by
  have hhide : ∀ sent p, (r.setWhere p (MemoServDb.hideMarks sent)).readAt = r.readAt := by
    intro sent p
    unfold MemoRow.setWhere MemoServDb.hideMarks
    split
    · cases sent <;> rfl
    · rfl
  have hhidden : ∀ sent p, hides sent p r = some r' → r'.readAt = r.readAt := by
    intro sent p hp
    unfold hides at hp
    split at hp
    · cases hp
    · rw [← Option.some.inj hp, hhide]
  cases op with
  | markRead recipient id when_ =>
    rw [← Option.some.inj h]
    unfold MemoRow.setWhere
    split
    · exact if_neg hread
    · rfl
  | delete | deleteAll | deleteSent | deleteAllSent => exact hhidden _ _ h
  | send => rw [← Option.some.inj h]
  | purgeBefore | purgeRecipientBefore | deleteAccount =>
    simp only [leaves] at h
    split at h
    · cases h
    · rw [← Option.some.inj h]

/-- What is left is not hidden from both sides. -/
theorem fullyDeleted_of_leaves (hr : r.fullyDeleted = false) (h : op.leaves r = some r') :
    r'.fullyDeleted = false := by
  have hhidden : ∀ sent p, hides sent p r = some r' → r'.fullyDeleted = false := by
    intro sent p hp
    unfold hides at hp
    split at hp
    · cases hp
    · rename_i hleft
      rw [← Option.some.inj hp]
      exact Bool.eq_false_iff.mpr hleft
  cases op with
  | markRead recipient id when_ =>
    rw [← Option.some.inj h]
    unfold MemoRow.setWhere
    split <;> exact hr
  | delete | deleteAll | deleteSent | deleteAllSent => exact hhidden _ _ h
  | send => rwa [← Option.some.inj h]
  | purgeBefore | purgeRecipientBefore | deleteAccount =>
    simp only [leaves] at h
    split at h
    · cases h
    · rwa [← Option.some.inj h]

/-- A deletion by a side takes the row out of that side's box, and out of no other. -/
theorem shown_hides (side sent : Bool) (p : MemoRow → Bool) (r : MemoRow) :
    (∃ r', hides side p r = some r' ∧ r'.shown sent = true) ↔
      r.shown sent = true ∧ ¬ (sent = side ∧ p r = true) := by
  unfold hides MemoRow.setWhere
  cases hp : p r <;> cases side <;> cases sent <;>
    simp [MemoRow.shown, MemoRow.fullyDeleted, MemoServDb.hideMarks, MemoRow.withMarks,
      MemoRow.marks] <;> grind

/-- What picks a row of a box, beside that the row is shown there. -/
theorem picksOne_iff (hshown : r.shown sent = true) : picksOne sent account id r = true ↔
      accountArgFits account = true ∧ 0 < id ∧
        strcasecmpEq (r.owner sent) (cString account) = true ∧ r.id = id := by
  simp only [picksOne, MemoServDb.inBox, hshown, Bool.and_true, Bool.and_eq_true,
    decide_eq_true_eq, beq_iff_eq, and_assoc]

theorem picksAll_iff (hshown : r.shown sent = true) :
    picksAll sent account r = true ↔ accountArgFits account = true ∧
      strcasecmpEq (r.owner sent) (cString account) = true := by
  simp only [picksAll, MemoServDb.inBox, hshown, Bool.and_true, Bool.and_eq_true]

/-- **One operation: the memo stays shown to a side unless the operation ends it there.** -/
theorem shown_leaves (op : MemoOp) (sent : Bool) (r : MemoRow) :
    (∃ r', op.leaves r = some r' ∧ r'.shown sent = true) ↔
      r.shown sent = true ∧ ¬ op.ends sent r := by
  have herase : (∃ r', (if op.erases r then none else some r) = some r' ∧ r'.shown sent = true) ↔
      r.shown sent = true ∧ ¬ op.erases r = true := by
    cases op.erases r <;> simp
  cases op with
  | send => simp [leaves, ends, erases]
  | markRead recipient id when_ =>
    have hmark : ∀ p set, (∀ m : MemoMarks, (set m).senderDeleted = m.senderDeleted ∧
        (set m).recipientDeleted = m.recipientDeleted) → (r.setWhere p set).shown sent = r.shown sent := by
      intro p set hset
      unfold MemoRow.setWhere
      split
      · cases sent
        · exact congrArg (!·) (hset r.marks).2
        · exact congrArg (!·) (hset r.marks).1
      · rfl
    simp only [leaves, ends, erases, Option.some.injEq, exists_eq_left', Bool.false_eq_true,
      not_false_eq_true, and_true]
    rw [hmark]
    exact fun m => ⟨rfl, rfl⟩
  | delete recipient id =>
    refine (shown_hides false sent _ r).trans (and_congr_right fun hshown => not_congr ?_)
    refine and_congr_right fun hsent => ?_
    subst hsent
    exact picksOne_iff hshown
  | deleteAll recipient =>
    refine (shown_hides false sent _ r).trans (and_congr_right fun hshown => not_congr ?_)
    refine and_congr_right fun hsent => ?_
    subst hsent
    exact picksAll_iff hshown
  | deleteSent sender id =>
    refine (shown_hides true sent _ r).trans (and_congr_right fun hshown => not_congr ?_)
    refine and_congr_right fun hsent => ?_
    subst hsent
    exact picksOne_iff hshown
  | deleteAllSent sender =>
    refine (shown_hides true sent _ r).trans (and_congr_right fun hshown => not_congr ?_)
    refine and_congr_right fun hsent => ?_
    subst hsent
    exact picksAll_iff hshown
  | purgeBefore | purgeRecipientBefore | deleteAccount => exact herase

/-- What ends a memo is the same for every state of its row. -/
theorem ends_congr (op : MemoOp) (sent : Bool) (h : r.SameMemo r') :
    op.ends sent r' ↔ op.ends sent r := by
  cases op <;> simp only [ends, erases, h.id, h.sender, h.recipient, h.createdAt]

end MemoOp

/-! ## 5. The row of a key -/

namespace MemoServDb

/-- The row of a key. -/
def look (db : MemoServDb) (id : Nat) : Option MemoRow := db.rows.find? (·.id == id)

/-- Keys ascend, so two rows of one key are one row. -/
theorem eq_of_id_eq (hr : r ∈ db.rows) (hr' : r' ∈ db.rows) (hid : r'.id = r.id) : r' = r := by
  have hnodup : (db.rows.map (·.id)).Nodup :=
    List.pairwise_map.mpr (db.ascending.imp fun hab => Nat.ne_of_lt hab)
  exact List.inj_on_of_nodup_map hnodup hr' hr hid

theorem look_eq_some : db.look id = some r ↔ r ∈ db.rows ∧ r.id = id := by
  constructor
  · intro h
    exact ⟨List.mem_of_find?_eq_some h, by simpa using List.find?_some h⟩
  · rintro ⟨hr, rfl⟩
    have hsome : (db.look r.id).isSome = true :=
      List.find?_isSome.mpr ⟨r, hr, beq_self_eq_true _⟩
    obtain ⟨r', hr'⟩ := Option.isSome_iff_exists.mp hsome
    have hid : r'.id = r.id := by simpa using List.find?_some hr'
    rw [hr', eq_of_id_eq hr (List.mem_of_find?_eq_some hr') hid]

theorem id_added (h : db.added op = some r) : r.id = db.nextId ∧ r.fullyDeleted = false := by
  cases op with
  | send now sender recipient text =>
    refine ⟨(sendRow_spec h).1, ?_⟩
    simp only [added, sendRow] at h
    split at h
    · rw [← Option.some.inj h]
      rfl
    · cases h
  | _ => cases h

theorem nextId_hideOne (db : MemoServDb) (sent : Bool) (account : Text) (id : Nat) :
    (((db.hideOne sent account id).map (·.2)).getD db).nextId = db.nextId := by
  unfold hideOne
  split
  · simp only [Option.map_some, Option.getD_some]
    split <;> rfl
  · rfl

/-- Keys are not used again. -/
theorem nextId_step (db : MemoServDb) (op : MemoOp) : db.nextId ≤ (db.step op).nextId := by
  cases op with
  | send now sender recipient text =>
    simp only [step, send]
    split
    · exact Nat.le_refl _
    · exact Nat.le_succ _
  | markRead => simp only [step, markRead]; split <;> exact Nat.le_refl _
  | delete recipient id => exact Nat.le_of_eq (db.nextId_hideOne false recipient id).symm
  | deleteAll => simp only [step, deleteAll, hideAll]; split <;> exact Nat.le_refl _
  | deleteSent sender id => exact Nat.le_of_eq (db.nextId_hideOne true sender id).symm
  | deleteAllSent => simp only [step, deleteAllSent, hideAll]; split <;> exact Nat.le_refl _
  | purgeBefore => simp only [step, purgeBefore]; split <;> exact Nat.le_refl _
  | purgeRecipientBefore => simp only [step, purgeRecipientBefore]; split <;> exact Nat.le_refl _
  | deleteAccount => simp only [step, deleteAccount]; split <;> exact Nat.le_refl _

/-- **Step: the row of a key is what the operation leaves of it.** -/
theorem look_step (hdb : db.Reclaimed) (op : MemoOp) (hid : id < db.nextId) :
    (db.step op).look id = (db.look id).bind op.leaves := by
  refine Option.ext fun r' => ?_
  rw [look_eq_some, rows_step hdb, List.mem_append, Option.mem_toList, List.mem_filterMap,
    Option.bind_eq_some_iff]
  constructor
  · rintro ⟨⟨r, hr, hleaves⟩ | hadded, hid'⟩
    · have hsame := (MemoOp.sameMemo_of_leaves hleaves).id
      exact ⟨r, look_eq_some.mpr ⟨hr, hsame.symm.trans hid'⟩, hleaves⟩
    · have hnew := (id_added hadded).1
      omega
  · rintro ⟨r, hlook, hleaves⟩
    obtain ⟨hr, rfl⟩ := look_eq_some.mp hlook
    exact ⟨.inl ⟨r, hr, hleaves⟩, (MemoOp.sameMemo_of_leaves hleaves).id⟩

/-- Step: rows hidden from both sides do not stay. -/
theorem reclaimed_step (hdb : db.Reclaimed) (op : MemoOp) : (db.step op).Reclaimed := by
  intro r' hr'
  rw [rows_step hdb, List.mem_append, Option.mem_toList, List.mem_filterMap] at hr'
  rcases hr' with ⟨r, hr, hleaves⟩ | hadded
  · exact MemoOp.fullyDeleted_of_leaves (hdb r hr) hleaves
  · exact (id_added hadded).2

theorem reclaimed_exec (hdb : db.Reclaimed) (ops : List MemoOp) :
    (Runs.exec step db ops).Reclaimed := by
  have hall : Runs.Allowed step (fun _ _ => True) db ops :=
    Runs.allowed_of_forall db fun _ _ => trivial
  exact Runs.exec_invariant (P := Reclaimed) (fun _ op h _ => reclaimed_step h op) hdb hall

theorem reclaimed_empty : empty.Reclaimed := fun _ h => absurd h List.not_mem_nil

/-- Run: the row of a key is what the operations leave of it, one after the other. -/
theorem look_exec (hdb : db.Reclaimed) (ops : List MemoOp) (hid : id < db.nextId) :
    (Runs.exec step db ops).look id = (db.look id).bind fun r => ops.foldlM (fun r op => op.leaves r) r := by
  induction ops generalizing db with
  | nil => exact (Option.bind_fun_some _).symm
  | cons op ops ih =>
    rw [Runs.exec_cons, ih (reclaimed_step hdb op) (Nat.lt_of_lt_of_le hid (db.nextId_step op)),
      look_step hdb op hid, Option.bind_assoc]
    rfl

end MemoServDb

/-! ## 6. The life of a memo -/

namespace MemoOp

/-- What a run leaves of a row is the same memo, with its read mark if it had one. -/
theorem sameMemo_of_foldlM {ops : List MemoOp}
    (h : ops.foldlM (fun r op => op.leaves r) r = some r') :
    r.SameMemo r' ∧ (r.readAt ≠ 0 → r'.readAt = r.readAt) := by
  induction ops generalizing r with
  | nil =>
    rw [← Option.some.inj h]
    exact ⟨.refl r, fun _ => rfl⟩
  | cons op ops ih =>
    obtain ⟨r₁, hop, hops⟩ := Option.bind_eq_some_iff.mp h
    have hsame := sameMemo_of_leaves hop
    obtain ⟨hsame', hread'⟩ := ih hops
    refine ⟨hsame.trans hsame', fun hread => ?_⟩
    have hread₁ := readAt_of_leaves hop hread
    rw [hread' (hread₁ ▸ hread), hread₁]

/-- **Run: the memo stays shown to a side exactly while nothing ends it there.** -/
theorem shown_foldlM (ops : List MemoOp) (sent : Bool) (r : MemoRow) :
    (∃ r', ops.foldlM (fun r op => op.leaves r) r = some r' ∧ r'.shown sent = true) ↔
      r.shown sent = true ∧ ∀ op ∈ ops, ¬ op.ends sent r := by
  induction ops generalizing r with
  | nil => simp
  | cons op ops ih =>
    have hop := op.shown_leaves sent r
    rw [List.forall_mem_cons, ← and_assoc, ← hop]
    constructor
    · rintro ⟨r', hfate, hshown⟩
      obtain ⟨r₁, hleaves, hops⟩ := Option.bind_eq_some_iff.mp hfate
      obtain ⟨hshown₁, hnone⟩ := (ih r₁).mp ⟨r', hops, hshown⟩
      exact ⟨⟨r₁, hleaves, hshown₁⟩, fun op' hop' hends =>
        hnone op' hop' ((op'.ends_congr sent (sameMemo_of_leaves hleaves)).mpr hends)⟩
    · rintro ⟨⟨r₁, hleaves, hshown₁⟩, hnone⟩
      obtain ⟨r', hops, hshown⟩ := (ih r₁).mpr ⟨hshown₁, fun op' hop' hends =>
        hnone op' hop' ((op'.ends_congr sent (sameMemo_of_leaves hleaves)).mp hends)⟩
      exact ⟨r', Option.bind_eq_some_iff.mpr ⟨r₁, hleaves, hops⟩, hshown⟩

end MemoOp

/-- A memo of a key is in a box of an account; `true` is what the account sent. -/
def MemoServDb.sees (db : MemoServDb) (account : Text) (sent : Bool) (id : Nat) : Prop :=
  ∃ r ∈ db.box account sent, r.id = id

theorem MemoServDb.mem_box :
    r ∈ db.box account sent ↔ r ∈ db.rows ∧ inBox account sent r = true := by
  cases sent with
  | true | false => exact List.mem_reverse.trans List.mem_filter

theorem MemoServDb.sees_iff :
    db.sees account sent id ↔ ∃ r, db.look id = some r ∧
      strcasecmpEq (r.owner sent) account = true ∧ r.shown sent = true := by
  constructor
  · rintro ⟨r, hr, hid⟩
    obtain ⟨hrow, hbox⟩ := mem_box.mp hr
    rw [inBox, Bool.and_eq_true] at hbox
    exact ⟨r, look_eq_some.mpr ⟨hrow, hid⟩, hbox⟩
  · rintro ⟨r, hlook, hbox⟩
    obtain ⟨hrow, hid⟩ := look_eq_some.mp hlook
    rw [← Bool.and_eq_true] at hbox
    exact ⟨r, mem_box.mpr ⟨hrow, hbox⟩, hid⟩

/-- READ finds the memos of the inbox. -/
theorem MemoServDb.get_iff {recipient : Text} {memo : MemoServMemo}
    (hrecipient : accountArgFits recipient = true) (hid : 0 < id) :
    db.get recipient id = some (some memo) ↔
      ∃ r ∈ db.box (cString recipient) false, r.id = id ∧ r.toMemoServMemo = memo := by
  have hargs : (accountArgFits recipient && decide (0 < id)) = true := by
    rw [hrecipient, decide_eq_true hid]
    rfl
  unfold get
  rw [if_pos hargs]
  constructor
  · intro h
    split at h
    · cases h
    · rename_i r hfind
      have hr := List.find?_some hfind
      rw [Bool.and_eq_true, beq_iff_eq] at hr
      have hmem := List.mem_of_find?_eq_some hfind
      rw [if_pos (db.readable r hmem), Option.some.injEq, Option.some.injEq] at h
      exact ⟨r, mem_box.mpr ⟨hmem, hr.1⟩, hr.2, h⟩
  · rintro ⟨r, hbox, rfl, rfl⟩
    obtain ⟨hmem, hin⟩ := mem_box.mp hbox
    have hpick : (inBox (cString recipient) false r && r.id == r.id) = true := by
      rw [hin, beq_self_eq_true]
      rfl
    split
    · rename_i hnone
      exact absurd hpick (List.find?_eq_none.mp hnone r hmem)
    · rename_i r' hfind
      have hr' := List.find?_some hfind
      rw [Bool.and_eq_true, beq_iff_eq] at hr'
      have hmem' := List.mem_of_find?_eq_some hfind
      rw [if_pos (db.readable r' hmem'), eq_of_id_eq hmem hmem' hr'.2]

/-- A memo that was just sent is in both boxes. -/
theorem MemoServDb.sees_send {now : Nat} {sender recipient text : Text} {row : MemoRow}
    (h : db.sendRow now sender recipient text = some row) :
    (db.step (.send now sender recipient text)).sees row.recipient false row.id ∧
      (db.step (.send now sender recipient text)).sees row.sender true row.id := by
  have hmem : row ∈ (db.step (.send now sender recipient text)).rows := by
    rw [step, rows_send, h]
    exact List.mem_append_right _ List.mem_cons_self
  have hshown : row.shown false = true ∧ row.shown true = true := by
    unfold sendRow at h
    split at h
    · rw [← Option.some.inj h]
      exact ⟨rfl, rfl⟩
    · cases h
  have hlook := look_eq_some.mpr ⟨hmem, rfl⟩
  exact ⟨sees_iff.mpr ⟨row, hlook, foldEq_refl _, hshown.1⟩,
    sees_iff.mpr ⟨row, hlook, foldEq_refl _, hshown.2⟩⟩

/-- **A memo is in a box exactly until something ends it there.** Whatever operations lead to a
    table, a memo they stored that is in a box of an account is in it after any further operations
    unless one of them ends it for that side, and comes back into none; names, text and time of it
    stay, and its read mark once it has one. No row hidden from both sides is left, and a memo that
    is sent starts in both boxes. -/
theorem memo_two_sided (before ops : List MemoOp) :
    (∀ r ∈ (MemoServDb.run before).rows,
      (∀ account sent, (MemoServDb.run (before ++ ops)).sees account sent r.id ↔
        (MemoServDb.run before).sees account sent r.id ∧ ∀ op ∈ ops, ¬ op.ends sent r) ∧
      ∀ r' ∈ (MemoServDb.run (before ++ ops)).rows, r'.id = r.id →
        r.SameMemo r' ∧ (r.readAt ≠ 0 → r'.readAt = r.readAt)) ∧
    (∀ r ∈ (MemoServDb.run (before ++ ops)).rows,
      ¬ (r.senderDeleted = true ∧ r.recipientDeleted = true)) ∧
    ∀ now sender recipient text row,
      (MemoServDb.run before).sendRow now sender recipient text = some row →
      (MemoServDb.run (before ++ [.send now sender recipient text])).sees row.recipient false row.id ∧
      (MemoServDb.run (before ++ [.send now sender recipient text])).sees row.sender true row.id := by
  have hclean : (MemoServDb.run before).Reclaimed :=
    MemoServDb.reclaimed_exec MemoServDb.reclaimed_empty before
  have hafter : MemoServDb.run (before ++ ops) =
      Runs.exec MemoServDb.step (MemoServDb.run before) ops := Runs.exec_append _ _ _ _
  refine ⟨fun r hr => ?_, fun r hr hboth => ?_, fun now sender recipient text row hrow => ?_⟩
  · have hlook : (MemoServDb.run before).look r.id = some r :=
      MemoServDb.look_eq_some.mpr ⟨hr, rfl⟩
    have hlook' : (MemoServDb.run (before ++ ops)).look r.id =
        ops.foldlM (fun r op => op.leaves r) r := by
      rw [hafter, MemoServDb.look_exec hclean ops ((MemoServDb.run before).fresh r hr), hlook,
        Option.bind_some]
    refine ⟨fun account sent => ?_, fun r' hr' hid => ?_⟩
    · have hfate := MemoOp.shown_foldlM ops sent r
      rw [MemoServDb.sees_iff, MemoServDb.sees_iff, hlook, hlook']
      constructor
      · rintro ⟨r', hr', howner, hshown⟩
        obtain ⟨hshown₀, hnone⟩ := hfate.mp ⟨r', hr', hshown⟩
        rw [(MemoOp.sameMemo_of_foldlM hr').1.owner_eq sent] at howner
        exact ⟨⟨r, rfl, howner, hshown₀⟩, hnone⟩
      · rintro ⟨⟨r₀, hr₀, howner, hshown₀⟩, hnone⟩
        rw [← Option.some.inj hr₀] at howner hshown₀
        obtain ⟨r', hr', hshown⟩ := hfate.mpr ⟨hshown₀, hnone⟩
        rw [← (MemoOp.sameMemo_of_foldlM hr').1.owner_eq sent] at howner
        exact ⟨r', hr', howner, hshown⟩
    · have hr'' := MemoServDb.look_eq_some.mpr ⟨hr', hid⟩
      rw [hlook'] at hr''
      exact MemoOp.sameMemo_of_foldlM hr''
  · have hkept := MemoServDb.reclaimed_exec MemoServDb.reclaimed_empty (before ++ ops) r hr
    rw [MemoRow.fullyDeleted, hboth.1, hboth.2] at hkept
    cases hkept
  · rw [MemoServDb.run, Runs.exec_append]
    exact MemoServDb.sees_send hrow

/-- `bob` writes to `ann`, who reads the memo and deletes it: it stays in what `bob` sent. -/
theorem memo_two_sided_ann :
    ¬ (MemoServDb.run [.send 1000 "bob".toList "ann".toList "hi".toList, .markRead "ann".toList 1 1001,
        .delete "ann".toList 1]).sees "ann".toList false 1 ∧
      (MemoServDb.run [.send 1000 "bob".toList "ann".toList "hi".toList, .markRead "ann".toList 1 1001,
        .delete "ann".toList 1]).sees "bob".toList true 1 := by
  let sent : List MemoOp := [.send 1000 "bob".toList "ann".toList "hi".toList]
  let later : List MemoOp := [.markRead "ann".toList 1 1001, .delete "ann".toList 1]
  let row : MemoRow := ⟨⟨1, "bob".toList, "ann".toList, "hi".toList, 1000, 0⟩, false, false⟩
  have hrow : row ∈ (MemoServDb.run sent).rows := by decide
  have hlife := ((memo_two_sided sent later).1 row hrow).1
  have hsend := (memo_two_sided [] []).2.2 1000 "bob".toList "ann".toList "hi".toList row rfl
  have hends : (MemoOp.delete "ann".toList 1).ends false row := ⟨rfl, by decide, by decide, by decide, rfl⟩
  refine ⟨fun hsees => ((hlife _ _).mp hsees).2 _ (by simp [later]) hends,
    (hlife _ _).mpr ⟨hsend.2, fun op hop hop' => ?_⟩⟩
  simp only [later, List.mem_cons, List.not_mem_nil, or_false] at hop
  rcases hop with rfl | rfl
  · cases hop'
  · cases hop'.1

end ScratchIrcd
