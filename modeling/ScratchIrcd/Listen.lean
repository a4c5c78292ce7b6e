/-
  File:      ScratchIrcd/Listen.lean
  Subject:   The MODE lines for a channel that a client got on the way from one state to another.
-/
import ScratchIrcd.ModeRule

namespace ScratchIrcd

open CText

/-- The text of a MODE line for a channel that was delivered to `r`. -/
def Delivery.modeText (name : Text) (r : ClientRef) (d : Delivery) : Option Text :=
  match d.line.body with
  | .mode target text => if target = name ∧ d.dest = r then some text else none
  | _ => none

theorem Delivery.modeText_reply {d : Delivery} (h : d.line.isReply = true) (name : Text)
    (r : ClientRef) : d.modeText name r = none := by
  obtain ⟨dest, ⟨source, body⟩, toOper⟩ := d
  cases body with
  | mode target text => cases source <;> cases h
  | _ => rfl

namespace Server

/-- The MODE lines for a channel that `r` got on the way from `s` to `s'`. -/
def heard (s s' : Server) (name : Text) (r : ClientRef) : List Text :=
  (s'.out.drop s.out.length).filterMap (·.modeText name r)

/-- What was sent on the way from `s` to `s'`, and which MODE lines for a channel `r` found in
    it. -/
def Says (name : Text) (r : ClientRef) (s s' : Server) (texts : List Text) : Prop :=
  ∃ ds : List Delivery, s'.out = s.out ++ ds ∧ ds.filterMap (·.modeText name r) = texts

section Says

variable {name : Text} {r : ClientRef} {s s' s'' : Server} {texts texts' : List Text}

theorem Says.heard (h : Says name r s s' texts) : s.heard s' name r = texts := by
  obtain ⟨ds, hout, rfl⟩ := h
  rw [Server.heard, hout, List.drop_left]

theorem Says.trans (h : Says name r s s' texts) (h' : Says name r s' s'' texts') :
    Says name r s s'' (texts ++ texts') := by
  obtain ⟨ds, hout, rfl⟩ := h
  obtain ⟨ds', hout', rfl⟩ := h'
  exact ⟨ds ++ ds', by rw [hout', hout, List.append_assoc], List.filterMap_append⟩

theorem says_of_out_eq (h : s'.out = s.out) : Says name r s s' [] :=
  ⟨[], by rw [h, List.append_nil], rfl⟩

/-- Replies are no announcements. -/
theorem says_replies {ds : List (ClientRef × Line)} (h : Replies ds) :
    Says name r s (s.deliver ds) [] := by
  refine ⟨_, rfl, List.filterMap_eq_nil_iff.mpr fun d hd => ?_⟩
  obtain ⟨x, hx, rfl⟩ := List.mem_map.mp hd
  exact Delivery.modeText_reply (h x hx) name r

theorem filterMap_dest (cs : List ClientRef) (hnodup : cs.Nodup) (hr : r ∈ cs) (text : Text) :
    (cs.filterMap fun c => if c = r then some text else none) = [text] := by
  induction cs with
  | nil => cases hr
  | cons c cs ih =>
    obtain ⟨hc, hnodup⟩ := List.nodup_cons.mp hnodup
    by_cases h : c = r
    · subst h
      have hrest : (cs.filterMap fun c' => if c' = c then some text else none) = [] := by
        refine List.filterMap_eq_nil_iff.mpr fun c' hc' => if_neg ?_
        rintro rfl
        exact hc hc'
      rw [List.filterMap_cons, if_pos rfl, hrest]
    · rw [List.filterMap_cons, if_neg h]
      exact ih hnodup ((List.mem_cons.mp hr).resolve_left (Ne.symm h))

/-- A member gets an announcement once. -/
theorem says_broadcast {ch : ChannelRef} (hr : r ∈ s.memberRefs ch) (source : Source)
    (text : Text) : Says name r s (s.broadcast ch none ⟨source, .mode name text⟩) [text] := by
  have hall : (s.memberRefs ch).filter (fun c => some c != none) = s.memberRefs ch :=
    List.filter_eq_self.mpr fun _ _ => rfl
  refine ⟨_, rfl, ?_⟩
  rw [List.map_map, List.filterMap_map, hall]
  refine Eq.trans ?_ (filterMap_dest (s.memberRefs ch) (s.channel ch).members_nodup hr text)
  refine List.filterMap_congr fun c _ => ?_
  simp [Delivery.modeText]

end Says

end Server

end ScratchIrcd
