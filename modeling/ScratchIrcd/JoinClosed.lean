/-
  File:      ScratchIrcd/JoinClosed.lean
  Subject:   JOIN of a registered channel under storage failures
             (docs/CHANNEL_RECREATION_AUDIT.md: a channel that cannot be restored is not joined).

  `load_channel_policy` returns without a result when the database cannot be opened or the row
  cannot be read. The channel then has no +r, so the restore that would refuse the join is
  skipped and the client is admitted on whatever the live record says: the first member of a
  registered channel becomes its owner. **join_closed_iff** says this is the only way.
-/
import ScratchIrcd.JoinAdmission

namespace ScratchIrcd

open CText

variable {r : ChanServChannel} {c : ClientRef} {s t u : Server} {name hop : Text} {ch : ChannelRef}
  {params : Option Text}

namespace Server

/-! ## 1. Failing closed -/

/-- The fail-closed property of one JOIN for one registered name: afterwards the client is
    outside, or it was admitted under the policy of the row, the channel still carries that, and
    the client got nothing by hand. -/
def JoinClosed (s : Server) (c : ClientRef) (params : Option Text) (name : Text)
    (r : ChanServChannel) : Prop :=
  ∀ ch, (s.commandJoin c params).findChannel name = some ch →
    (s.commandJoin c params).inChannel ch c = true →
      (∃ u hop t, s.JoinsBy c params u hop t ch ∧
        (t.channel ch).UnderPolicy r t.storage.chanserv.view) ∧
      ((s.commandJoin c params).channel ch).UnderPolicy r
        (s.commandJoin c params).storage.chanserv.view ∧
      ((s.commandJoin c params).channel ch).NoManual c

/-- The policy is still there after the JOIN exactly when the client was admitted under it. -/
theorem JoinsBy.underPolicy_iff (h : s.JoinsBy c params u hop t ch) :
    ((s.commandJoin c params).channel ch).UnderPolicy r
        (s.commandJoin c params).storage.chanserv.view ↔
      (t.channel ch).UnderPolicy r t.storage.chanserv.view := by
  obtain ⟨-, hstore, -, hpolicy, -⟩ := joinAccept_spec h.faces.spec.2.2
  rw [h.commandJoin_eq, hstore]
  exact ⟨.of_samePolicy hpolicy.symm, .of_samePolicy hpolicy⟩

/-- The policy a client is admitted under is that of the row exactly when it was at hand. -/
theorem JoinsBy.admitted_iff (h : s.JoinsBy c params u hop t ch) (hok : s.ChannelsOk)
    (hrow : s.storage.chanserv.row name = some r) (henabled : r.enabled = true)
    (hname : nameEq hop name = true) :
    (t.channel ch).UnderPolicy r t.storage.chanserv.view ↔ u.PolicyInForce hop r := by
  refine h.faces.underPolicy_iff (h.turned.channelsOk hok) ?_ henabled
  rw [rowOf_congr _ hname, h.turned.storage.row name, hrow]

/-- **When JOIN fails closed.** For every state, client, request, enabled row and pattern of
    storage outcomes: exactly when, if the client is admitted to the channel, asked for or by
    redirects, its policy was in force or readable as the JOIN came to it. -/
theorem join_closed_iff (s : Server) (c : ClientRef) (params : Option Text) (name : Text)
    (r : ChanServChannel) (hok : s.ChannelsOk)
    (hrow : s.storage.chanserv.row name = some r) (henabled : r.enabled = true)
    (hout : ∀ ch, s.findChannel name = some ch → s.inChannel ch c = false) :
    s.JoinClosed c params name r ↔
      ∀ u hop t ch, s.JoinsBy c params u hop t ch → nameEq hop name = true →
        u.PolicyInForce hop r := by
  constructor
  · intro hclosed u hop t ch h hname
    obtain ⟨-, hfind, hfree⟩ := h.faces.spec
    obtain ⟨hlook, -, -, -, hin, -⟩ := joinAccept_spec hfree
    have hlive : (s.commandJoin c params).findChannel name = some ch := by
      rw [h.commandJoin_eq, hlook, ← t.findChannel_congr hname, hfind]
    obtain ⟨-, hunder, -⟩ := hclosed ch hlive (by rw [h.commandJoin_eq]; exact hin)
    exact (h.admitted_iff hok hrow henabled hname).mp (h.underPolicy_iff.mp hunder)
  · intro hguard ch hlive hin
    -- nobody was in the channel before, so only the last call can have let the client in
    have hnew : ∀ {s' : Server}, s.Turned s' → s'.findChannel name = some ch → s'.inChannel ch c = false := by
      intro s' hturned hfind
      by_contra hin
      obtain ⟨hfind, hin⟩ := hturned.noNew hok hfind (Bool.eq_true_of_not_eq_false hin)
      rw [hout ch hfind] at hin
      cases hin
    rcases commandJoin_cases s c params with ⟨u, hop, t, ch', h⟩ | hturned
    · obtain ⟨hturned, hfind, hfree⟩ := h.faces.spec
      have hturned := h.turned.trans hturned
      obtain ⟨hlook, -, hother, -, -, hmanual⟩ := joinAccept_spec hfree
      have hlive' : t.findChannel name = some ch := by
        rw [← hlook, ← h.commandJoin_eq, hlive]
      obtain rfl : ch = ch' := by
        by_contra hne
        rw [h.commandJoin_eq, Server.inChannel, hother ch hne] at hin
        exact Bool.false_ne_true ((hnew hturned hlive').symm.trans hin)
      have hname := (hturned.channelsOk hok).nameEq_of_findChannel hfind hlive'
      have hunder := (h.admitted_iff hok hrow henabled hname).mpr (hguard u hop t ch h hname)
      refine ⟨⟨u, hop, t, h, hunder⟩, h.underPolicy_iff.mpr hunder, ?_⟩
      rw [h.commandJoin_eq]
      exact hmanual hunder.locked.isRegistered
    · exact absurd ((hnew hturned hlive).symm.trans hin) Bool.false_ne_true

/-- One registered client and one registered channel that nobody is in; the outcomes of the
    storage statements are left open. -/
def emptyOpsChannel (io : Nat → Bool) : Server :=
  { Server.initial {} {}
      { io := io
        chanserv := { channels := [{ name := "#ops".toList, founder := "alice".toList
                                     modeLock := {.inviteOnly} }]
                      sharedOpen := true, schemaReady := true } } with
    clients := [0]
    client := fun _ => { id := 1, registered := true, nick := "mallory".toList
                         user := "m".toList, displayHost := "host".toList } }

/-- The row of `emptyOpsChannel`. -/
def opsRow : ChanServChannel :=
  { name := "#ops".toList, founder := "alice".toList, modeLock := {.inviteOnly} }

theorem channelsOk_of_empty (h : ∀ name, s.findChannel name = none) : s.ChannelsOk :=
  ⟨fun hf => by simp [h] at hf, fun hf => by simp [h] at hf, fun hf => by simp [h] at hf⟩

theorem findChannel_emptyOpsChannel (io : Nat → Bool) (name : Text) :
    (emptyOpsChannel io).findChannel name = none := rfl

/-- The characterisation applies to it whatever storage does. -/
theorem join_closed_iff_emptyOps : (emptyOpsChannel fun n => n != 1).JoinClosed 0
      (some "#ops key".toList) "#ops".toList opsRow ↔
    ∀ u hop t ch, (emptyOpsChannel fun n => n != 1).JoinsBy 0 (some "#ops key".toList) u hop t ch →
      nameEq hop "#ops".toList = true → u.PolicyInForce hop opsRow :=
  join_closed_iff _ 0 _ _ opsRow (channelsOk_of_empty (findChannel_emptyOpsChannel _)) (by decide)
    rfl (fun ch h => by rw [findChannel_emptyOpsChannel] at h; cases h)

/-- Opening the database fails once: the invite-only registered channel comes up without +r, and
    a stranger is inside it as its owner. -/
theorem join_captures_ops :
    let s := emptyOpsChannel fun n => n != 0
    let s' := s.commandJoin 0 (some "#ops".toList)
    s.storage.chanserv.row "#ops".toList = some opsRow ∧ opsRow.enabled = true ∧
      s'.findChannel "#ops".toList = some 0 ∧ s'.inChannel 0 0 = true ∧
      (s'.channel 0).isRegistered = false ∧
      (s'.channel 0).members.map (·.manual) = [ownerPrivileges] ∧
      ¬ s.JoinClosed 0 (some "#ops".toList) "#ops".toList opsRow := by
  have hin : ((emptyOpsChannel fun n => n != 0).commandJoin 0 (some "#ops".toList)).findChannel
      "#ops".toList = some 0 ∧
      ((emptyOpsChannel fun n => n != 0).commandJoin 0 (some "#ops".toList)).inChannel 0 0 = true ∧
      (((emptyOpsChannel fun n => n != 0).commandJoin 0
        (some "#ops".toList)).channel 0).isRegistered = false := by decide +kernel
  refine ⟨by decide, rfl, hin.1, hin.2.1, hin.2.2, by decide +kernel, fun hclosed => ?_⟩
  have hreg := (hclosed 0 hin.1 hin.2.1).2.1.locked.isRegistered
  rw [hin.2.2] at hreg
  cases hreg

end Server

end ScratchIrcd
