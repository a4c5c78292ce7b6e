/-
  File:      ScratchIrcd/InputTurn.lean
  Subject:   Whose buffered lines are handled when (`drain_buffered_client_input` of src/server.c).

  One turn walks the array of clients from a cursor that moves on from turn to turn. Clients go
  while it walks: the one whose lines are handled, and whoever its commands disconnect. What a
  command does is not ours: `effects` says it, for the first line of a client that is carried out
  in this turn, for the second, and so on.

  * **`input_turn_fair`** -- which turns handle at most 32 lines of each client, and say that there
    is more to do if there is: exactly the harmless ones, where a client that the walk comes to
    again, or never, takes no harm from it. An orderly walk comes to everybody once.
-/
import ScratchIrcd.Input
import ScratchIrcd.Presence

namespace ScratchIrcd

open CText

/-! ## 1. What a pass does to the state -/

namespace InputHandler

variable {σ : Type*} {h : InputHandler σ} {st : σ}

theorem takeLine_state (st : σ) (raw rest : Text) :
    (h.takeLine st raw rest).state = st ∨ (h.takeLine st raw rest).state = h.reject st ∨
      ∃ line, (h.takeLine st raw rest).state = (h.handle st line).1 := by
  unfold takeLine
  split
  · exact .inl rfl
  · exact .inr (.inl rfl)
  · split
    · exact .inl rfl
    · exact .inr (.inr ⟨_, rfl⟩)

/-- What every line keeps, a pass keeps. -/
theorem processBufferedLines_keeps {R : σ → Prop} (hhandle : ∀ st line, R st → R (h.handle st line).1)
    (hreject : ∀ st, R st → R (h.reject st)) (n : Nat) (hst : R st) (buf : Text) :
    R (h.processBufferedLines n st buf).state := by
  have hlines : ∀ n st buf, R st → R (h.processLines n st buf).state := by
    intro n
    induction n with
    | zero => intro st buf hst; exact hst
    | succ n ih =>
      intro st buf hst
      unfold processLines
      split
      · exact hst
      · rename_i raw rest _
        have hline : R (h.takeLine st raw rest).state := by
          rcases h.takeLine_state st raw rest with heq | heq | ⟨line, heq⟩
          · rw [heq]; exact hst
          · rw [heq]; exact hreject st hst
          · rw [heq]; exact hhandle st line hst
        dsimp only
        split
        · exact hline
        · exact ih _ _ hline
  unfold processBufferedLines
  dsimp only
  split
  · exact hlines n st buf hst
  · unfold judgePartial
    split
    · exact hreject _ (hlines n st buf hst)
    · exact hlines n st buf hst

theorem processBufferedLines_handled_le (n : Nat) (st : σ) (buf : Text) :
    (h.processBufferedLines n st buf).handled ≤ n := by
  have hline : ∀ st raw rest, (h.takeLine st raw rest).handled ≤ 1 := by
    intro st raw rest
    unfold takeLine
    split
    · exact Nat.zero_le _
    · exact Nat.le_refl _
    · split <;> exact Nat.le_refl _
  have hlines : ∀ n st buf, (h.processLines n st buf).handled ≤ n := by
    intro n
    induction n with
    | zero => intro st buf; exact Nat.le_refl _
    | succ n ih =>
      intro st buf
      unfold processLines
      split
      · exact Nat.zero_le _
      · rename_i raw rest _
        have := hline st raw rest
        dsimp only
        split
        · omega
        · have := ih (h.takeLine st raw rest).state (h.takeLine st raw rest).buf
          simp only [InputPass.andThen]
          omega
  have := hlines n st buf
  unfold processBufferedLines judgePartial
  dsimp only
  split
  · exact this
  · split <;> exact this

end InputHandler

/-! ## 2. The turn -/

/-- What a command does as far as the walk is concerned. -/
structure LineEffect where
  /-- `irc_handle_line` asks for the client to be disconnected. -/
  quits : Bool := false
  /-- Clients that `server_disconnect` is called for. -/
  victims : List ClientRef := []
  /-- Clients whose output queue overflows. -/
  overflows : List ClientRef := []

/-- The fields of `Server` and `Client` that a turn uses. -/
structure InputServer where
  clients : List ClientRef
  nodup : clients.Nodup
  inbuf : ClientRef → Text
  /-- `tls_state == CLIENT_TLS_HANDSHAKE`. -/
  handshake : ClientRef → Bool
  overflowed : ClientRef → Bool
  inputDispatchCursor : Nat
  /-- What the lines of a client do, in the order they are carried out in this turn. -/
  effects : ClientRef → Nat → LineEffect
  /-- How many of them were carried out or refused so far. -/
  calls : ClientRef → Nat
  /-- How many lines of a client this turn has handled. -/
  taken : ClientRef → Nat
  /-- How often this turn has visited a client. -/
  visits : ClientRef → Nat

namespace InputServer

/-- `server_disconnect`, as far as the array is concerned. -/
def disconnect (s : InputServer) (c : ClientRef) : InputServer :=
  { s with clients := swapRemove c s.clients, nodup := nodup_swapRemove s.nodup }

/-- A line of `c` was carried out or refused. -/
def called (s : InputServer) (c : ClientRef) : InputServer :=
  { s with
    calls := Function.update s.calls c (s.calls c + 1)
    overflowed := fun r => s.overflowed r || (s.effects c (s.calls c)).overflows.contains r }

/-- `irc_handle_line`. No command frees the client whose line it is: KILL, the ban sweeps and
    RECOVER all except it. -/
def carryOut (s : InputServer) (c : ClientRef) : InputServer × Bool :=
  (((s.effects c (s.calls c)).victims.filter (· != c)).foldl disconnect (s.called c),
    (s.effects c (s.calls c)).quits)

/-- The lines of `c`. -/
def handler (c : ClientRef) : InputHandler InputServer :=
  ⟨fun s _ => s.carryOut c, fun s => s.called c⟩

/-- `process_buffered_lines` for `c`. -/
def serve (s : InputServer) (c : ClientRef) (budget : Nat) : InputPass InputServer :=
  let p := (handler c).processBufferedLines (min serverInputLineBudgetPerClient budget) s (s.inbuf c)
  { p with state := { p.state with
      inbuf := Function.update p.state.inbuf c p.buf
      taken := Function.update p.state.taken c (p.state.taken c + p.handled) } }

/-- `++visited`, for `c`. -/
def visited (s : InputServer) (c : ClientRef) : InputServer :=
  { s with visits := Function.update s.visits c (s.visits c + 1) }

/-- The client still has a complete line to be handled. -/
def hasWork (s : InputServer) (c : ClientRef) : Bool :=
  !s.handshake c && (s.inbuf c).contains '\n'

end InputServer

/-- The variables of the loop. -/
structure InputTurn where
  server : InputServer
  index : Nat
  budget : Nat
  pending : Bool

namespace InputTurn

/-- The client at the index, if the loop goes on. -/
def next (t : InputTurn) : Option (Nat × ClientRef) :=
  if t.server.clients.length = 0 ∨ t.budget = 0 then none
  else
    let index := if t.server.clients.length ≤ t.index then 0 else t.index
    t.server.clients[index]?.map ((index, ·))

/-- There is nothing to do for the client: it is in the TLS handshake, or its buffer is empty. -/
def skips (t : InputTurn) (c : ClientRef) : Bool :=
  t.server.handshake c || (t.server.inbuf c).isEmpty

/-- One visit to the client `c` at `index`. -/
def visit (t : InputTurn) (index : Nat) (c : ClientRef) : InputTurn :=
  if t.skips c then
    { t with server := t.server.visited c, index := (index + 1) % t.server.clients.length }
  else
    let p := (t.server.visited c).serve c t.budget
    if p.gone || p.state.overflowed c then
      let s := p.state.disconnect c
      { t with server := s, index := if s.clients.length ≤ index then 0 else index
               budget := t.budget - p.handled }
    else
      { server := p.state, index := (index + 1) % p.state.clients.length
        budget := t.budget - p.handled, pending := t.pending || InputHandler.pending p }

/-- The loop of `drain_buffered_client_input`, for at most `visits` visits. -/
def drainLoop : Nat → InputTurn → InputTurn
  | 0, t => t
  | visits + 1, t =>
      match t.next with
      | none => t
      | some (index, c) => drainLoop visits (t.visit index c)

/-- How many lines the visit to `c` handles. -/
def handles (t : InputTurn) (c : ClientRef) : Nat :=
  if t.skips c then 0 else ((t.server.visited c).serve c t.budget).handled

/-- The walk may come to `c`: it has not been there before, or the lines handled then and now are
    at most 32 in all. -/
def mayVisit (t : InputTurn) (c : ClientRef) : Bool :=
  t.server.visits c == 0 || decide (t.server.taken c + t.handles c ≤ serverInputLineBudgetPerClient)

/-- The walk may end: the budget is used up, work that is left was noted, or no client that the
    walk has left out has a complete line. -/
def mayEnd (t : InputTurn) : Bool :=
  t.budget == 0 || t.pending || t.server.clients.all fun c => t.server.visits c != 0 || !t.server.hasWork c

/-- Every visit may be made, and the walk may end where it does. -/
def harmless : Nat → InputTurn → Bool
  | 0, t => t.mayEnd
  | visits + 1, t =>
      match t.next with
      | none => t.mayEnd
      | some (index, c) => t.mayVisit c && harmless visits (t.visit index c)

/-- The visit to `c` leaves the walk in order: none of the lines it handles takes another client out
    of the array, and if `c` itself goes, the last client, which takes its place, is still to be
    visited. -/
def calm (t : InputTurn) (c : ClientRef) : Bool :=
  t.skips c ||
    let p := (t.server.visited c).serve c t.budget
    p.state.clients == t.server.clients &&
      (!(p.gone || p.state.overflowed c) ||
        t.server.clients.getLast?.all fun last => last == c || t.server.visits last == 0)

/-- Every visit after which the loop goes on leaves the walk in order. -/
def orderly : Nat → InputTurn → Bool
  | 0, _ => true
  | visits + 1, t =>
      match t.next with
      | none => true
      | some (index, c) =>
          (visits == 0 || (t.visit index c).budget == 0 || t.calm c) && orderly visits (t.visit index c)

end InputTurn

namespace InputServer

/-- The turn begins: nothing is handled yet. -/
def begin (s : InputServer) (budget : Nat) : InputTurn :=
  ⟨{ s with calls := fun _ => 0, taken := fun _ => 0, visits := fun _ => 0 },
    s.inputDispatchCursor % s.clients.length, budget, false⟩

/-- `drain_buffered_client_input`: the state after it, and whether there is more to do. -/
def drainBufferedClientInput (s : InputServer) (budget : Nat) : InputServer × Bool :=
  if s.clients.length = 0 then ({ (s.begin budget).server with inputDispatchCursor := 0 }, false)
  else
    let t := (s.begin budget).drainLoop s.clients.length
    ({ t.server with inputDispatchCursor :=
        if t.server.clients.length = 0 then 0 else t.index % t.server.clients.length },
      t.pending || t.budget == 0)

/-- A turn took at most 32 lines of anyone, and reports what is left. -/
def TurnFair (s : InputServer) (pending : Bool) : Prop :=
  (∀ c, s.taken c ≤ serverInputLineBudgetPerClient) ∧
    ((∃ c ∈ s.clients, s.hasWork c = true) → pending = true)

/-- No client takes harm from a second visit or from being left out. -/
def Harmless (s : InputServer) (budget : Nat) : Prop :=
  (s.begin budget).harmless s.clients.length = true

/-- While the turn goes on, only a client whose turn it is leaves the array, and one that is still
    to be visited takes its place. -/
def Orderly (s : InputServer) (budget : Nat) : Prop :=
  (s.begin budget).orderly s.clients.length = true

instance (s : InputServer) (budget : Nat) : Decidable (s.Orderly budget) :=
  inferInstanceAs (Decidable (_ = true))

/-! ## 3. What a visit does -/

/-- What serving `c` makes of the state. -/
structure Serves (s : InputServer) (c : ClientRef) (p : InputPass InputServer) : Prop where
  clients : p.state.clients ⊆ s.clients
  handshake : p.state.handshake = s.handshake
  visits : p.state.visits = s.visits
  inbuf : p.state.inbuf = Function.update s.inbuf c p.buf
  taken : p.state.taken = Function.update s.taken c (s.taken c + p.handled)
  handled : p.handled ≤ serverInputLineBudgetPerClient

/-- What every line keeps: disconnecting takes clients away and nothing else. -/
structure Keeps (s s' : InputServer) : Prop where
  clients : s'.clients ⊆ s.clients
  handshake : s'.handshake = s.handshake
  visits : s'.visits = s.visits
  inbuf : s'.inbuf = s.inbuf
  taken : s'.taken = s.taken

theorem Keeps.disconnect {s s' : InputServer} (h : Keeps s s') (c : ClientRef) :
    Keeps s (s'.disconnect c) :=
  ⟨fun _ hmem => h.clients ((mem_swapRemove s'.nodup).mp hmem).1, h.handshake, h.visits, h.inbuf,
    h.taken⟩

theorem Keeps.carryOut {s s' : InputServer} (h : Keeps s s') (c : ClientRef) :
    Keeps s (s'.carryOut c).1 := by
  have hcalled : Keeps s (s'.called c) := ⟨h.clients, h.handshake, h.visits, h.inbuf, h.taken⟩
  exact List.foldlRecOn (motive := Keeps s) _ _ hcalled fun _ hs d _ => hs.disconnect d

theorem serves_serve (s : InputServer) (c : ClientRef) (budget : Nat) :
    Serves s c (s.serve c budget) := by
  have hpass : Keeps s ((handler c).processBufferedLines
      (min serverInputLineBudgetPerClient budget) s (s.inbuf c)).state := by
    refine InputHandler.processBufferedLines_keeps (R := Keeps s) ?_ ?_ _
      ⟨List.Subset.refl _, rfl, rfl, rfl, rfl⟩ _
    · intro s' _ hs'
      exact hs'.carryOut c
    · intro s' hs'
      exact ⟨hs'.clients, hs'.handshake, hs'.visits, hs'.inbuf, hs'.taken⟩
  have hhandled := (handler c).processBufferedLines_handled_le
    (min serverInputLineBudgetPerClient budget) s (s.inbuf c)
  refine ⟨hpass.clients, hpass.handshake, hpass.visits, ?_, ?_, hhandled.trans (Nat.min_le_left ..)⟩
  · exact congrArg (Function.update · c _) hpass.inbuf
  · unfold serve
    dsimp only
    rw [hpass.taken]

end InputServer

namespace InputTurn

variable {t t' : InputTurn} {c : ClientRef} {index n : Nat} {ahead : List ClientRef}

/-- What a visit to `c` can do. -/
structure Visits (t t' : InputTurn) (c : ClientRef) : Prop where
  clients : t'.server.clients ⊆ t.server.clients
  visits : t'.server.visits = Function.update t.server.visits c (t.server.visits c + 1)
  taken : ∀ c' ≠ c, t'.server.taken c' = t.server.taken c'
  served : t'.server.taken c = t.server.taken c + t.handles c
  work : ∀ c' ≠ c, t'.server.hasWork c' = t.server.hasWork c'
  pending : t.pending = true → t'.pending = true
  /-- If `c` has work left, that is noted. -/
  noted : c ∈ t'.server.clients → t'.server.hasWork c = true → t'.pending = true

theorem not_hasWork_of_skips (h : t.skips c = true) : t.server.hasWork c = false := by
  unfold InputServer.hasWork
  rcases Bool.or_eq_true_iff.mp h with hshake | hempty
  · rw [hshake, Bool.not_true, Bool.false_and]
  · rw [List.isEmpty_iff.mp hempty]
    exact Bool.and_false _

theorem handles_le (t : InputTurn) (c : ClientRef) : t.handles c ≤ serverInputLineBudgetPerClient := by
  unfold handles
  split
  · exact Nat.zero_le _
  · exact ((t.server.visited c).serves_serve c t.budget).handled

/-- What the pass left in the buffer is what it reported. -/
theorem pending_of_hasWork (s : InputServer) (budget : Nat) (hstays : (s.serve c budget).gone = false)
    (hwork : (s.serve c budget).state.hasWork c = true) :
    InputHandler.pending (s.serve c budget) = true := by
  have hline := (Bool.and_eq_true_iff.mp hwork).2
  rw [(s.serves_serve c budget).inbuf, Function.update_self] at hline
  unfold InputHandler.pending
  rw [hstays, Bool.not_false, Bool.true_and]
  exact hline

theorem visits_visit (t : InputTurn) (index : Nat) (c : ClientRef) : t.Visits (t.visit index c) c := by
  have hserves := (t.server.visited c).serves_serve c t.budget
  have htaken : ∀ c' ≠ c, ((t.server.visited c).serve c t.budget).state.taken c' = t.server.taken c' := by
    intro c' hne
    rw [hserves.taken]
    exact Function.update_of_ne hne ..
  have hserved (hskip : ¬ t.skips c = true) : ((t.server.visited c).serve c t.budget).state.taken c =
      t.server.taken c + t.handles c := by
    rw [hserves.taken, Function.update_self, handles, if_neg hskip]
    rfl
  have hwork : ∀ c' ≠ c, ((t.server.visited c).serve c t.budget).state.hasWork c' = t.server.hasWork c' := by
    intro c' hne
    unfold InputServer.hasWork
    rw [hserves.handshake, hserves.inbuf, Function.update_of_ne hne]
    rfl
  unfold visit
  dsimp only
  split
  · rename_i hskip
    refine ⟨List.Subset.refl _, rfl, fun _ _ => rfl, ?_, fun _ _ => rfl, id, ?_⟩
    · rw [handles, if_pos hskip]
      rfl
    · intro _ hw
      exact absurd ((not_hasWork_of_skips hskip).symm.trans hw) Bool.false_ne_true
  · rename_i hskip
    split
    · refine ⟨fun _ hmem => hserves.clients ((mem_swapRemove (InputServer.nodup _)).mp hmem).1,
        hserves.visits, htaken, hserved hskip, hwork, id, ?_⟩
      intro hmem _
      exact absurd rfl ((mem_swapRemove (InputServer.nodup _)).mp hmem).2
    · rename_i hstays
      rw [Bool.or_eq_true, not_or, Bool.not_eq_true] at hstays
      exact ⟨hserves.clients, hserves.visits, htaken, hserved hskip, hwork,
        fun h => Bool.or_eq_true_iff.mpr (.inl h),
        fun _ hw => Bool.or_eq_true_iff.mpr (.inr (pending_of_hasWork _ _ hstays.1 hw))⟩

/-- The account of a turn, whatever the commands do. -/
structure Accounts (t : InputTurn) : Prop where
  fresh : ∀ c, t.server.visits c = 0 → t.server.taken c = 0
  once : ∀ c, t.server.visits c = 1 → t.server.taken c ≤ serverInputLineBudgetPerClient
  noted : ∀ c ∈ t.server.clients, t.server.visits c ≠ 0 → t.server.hasWork c = true → t.pending = true

theorem Accounts.visits (h : t.Accounts) (hv : t.Visits t' c) : t'.Accounts := by
  refine ⟨fun c' hnever => ?_, fun c' honce => ?_, fun c' hmem hvisits hw => ?_⟩
  all_goals by_cases hc : c' = c
  · subst hc
    rw [hv.visits, Function.update_self] at hnever
    cases hnever
  · rw [hv.visits, Function.update_of_ne hc] at hnever
    rw [hv.taken c' hc, h.fresh c' hnever]
  · subst hc
    rw [hv.visits, Function.update_self] at honce
    rw [hv.served, h.fresh c' (Nat.succ.inj honce), Nat.zero_add]
    exact t.handles_le c'
  · rw [hv.visits, Function.update_of_ne hc] at honce
    rw [hv.taken c' hc]
    exact h.once c' honce
  · subst hc
    exact hv.noted hmem hw
  · rw [hv.visits, Function.update_of_ne hc] at hvisits
    rw [hv.work c' hc] at hw
    exact hv.pending (h.noted c' (hv.clients hmem) hvisits hw)

theorem Accounts.drainLoop (h : t.Accounts) (n : Nat) : (t.drainLoop n).Accounts := by
  induction n generalizing t with
  | zero => exact h
  | succ n ih =>
    unfold InputTurn.drainLoop
    split
    · exact h
    · exact ih (h.visits (visits_visit ..))

theorem Visits.taken_le (hv : t.Visits t' c) (c' : ClientRef) : t.server.taken c' ≤ t'.server.taken c' := by
  by_cases hc : c' = c
  · rw [hc, hv.served]
    exact Nat.le_add_right ..
  · exact (hv.taken c' hc).ge

theorem taken_le_drainLoop (t : InputTurn) (n : Nat) (c : ClientRef) :
    t.server.taken c ≤ (t.drainLoop n).server.taken c := by
  induction n generalizing t with
  | zero => exact Nat.le_refl _
  | succ n ih =>
    unfold InputTurn.drainLoop
    split
    · exact Nat.le_refl _
    · exact ((visits_visit ..).taken_le c).trans (ih _)

/-- A visit that may be made keeps to the limit. -/
theorem Visits.within (hv : t.Visits t' c) (h : t.Accounts) (hmay : t.mayVisit c = true)
    (hbound : ∀ c, t.server.taken c ≤ serverInputLineBudgetPerClient) (c' : ClientRef) :
    t'.server.taken c' ≤ serverInputLineBudgetPerClient := by
  by_cases hc : c' = c
  · rw [hc, hv.served]
    rcases Bool.or_eq_true_iff.mp hmay with hnever | hfits
    · rw [h.fresh c (beq_iff_eq.mp hnever), Nat.zero_add]
      exact t.handles_le c
    · exact decide_eq_true_eq.mp hfits
  · rw [hv.taken c' hc]
    exact hbound c'

/-- Harmless loops are those that keep to the limit and may end where they do. -/
theorem harmless_iff (h : t.Accounts) (hbound : ∀ c, t.server.taken c ≤ serverInputLineBudgetPerClient)
    (n : Nat) : t.harmless n = true ↔
      (∀ c, (t.drainLoop n).server.taken c ≤ serverInputLineBudgetPerClient) ∧
        (t.drainLoop n).mayEnd = true := by
  induction n generalizing t with
  | zero => exact ⟨fun hend => ⟨hbound, hend⟩, fun hboth => hboth.2⟩
  | succ n ih =>
    unfold InputTurn.harmless InputTurn.drainLoop
    cases t.next with
    | none => exact ⟨fun hend => ⟨hbound, hend⟩, fun hboth => hboth.2⟩
    | some place =>
      obtain ⟨index, c⟩ := place
      dsimp only
      have hv := visits_visit t index c
      rw [Bool.and_eq_true]
      constructor
      · rintro ⟨hmay, hrest⟩
        exact (ih (h.visits hv) (hv.within h hmay hbound)).mp hrest
      · intro hend
        -- what is handled is not given back, so the limit held after this visit
        have hvisit : ∀ c', (t.visit index c).server.taken c' ≤ serverInputLineBudgetPerClient :=
          fun c' => (taken_le_drainLoop _ n c').trans (hend.1 c')
        refine ⟨Bool.or_eq_true_iff.mpr (.inr ?_), (ih (h.visits hv) hvisit).mpr hend⟩
        rw [decide_eq_true_eq, ← hv.served]
        exact hvisit c

/-- A walk may end exactly where no work is left that is not reported. -/
theorem Accounts.mayEnd_iff (h : t.Accounts) : t.mayEnd = true ↔
    ((∃ c ∈ t.server.clients, t.server.hasWork c = true) → (t.pending || t.budget == 0) = true) := by
  unfold mayEnd
  rw [Bool.or_comm (t.budget == 0), Bool.or_eq_true, List.all_eq_true]
  constructor
  · rintro (hsaid | hall) ⟨c, hc, hw⟩
    · exact hsaid
    · have hvisits := hall c hc
      rw [hw, Bool.not_true, Bool.or_false, bne_iff_ne] at hvisits
      exact Bool.or_eq_true_iff.mpr (.inl (h.noted c hc hvisits hw))
  · intro hreport
    by_cases hwork : ∃ c ∈ t.server.clients, t.server.hasWork c = true
    · exact .inl (hreport hwork)
    · refine .inr fun c hc => ?_
      rw [Bool.eq_false_iff.mpr fun hw => hwork ⟨c, hc, hw⟩]
      exact Bool.or_true _

end InputTurn

/-! ## 4. Where the walk stands -/

/-- The walk is at `index`, and `ahead` are the clients it still has to visit: first those from the
    index to the end and then some at the beginning of the array, later the rest of these. -/
inductive Place (clients : List ClientRef) : Nat → List ClientRef → Prop
  | first {front back : List ClientRef} {k : Nat} (hcut : clients = front ++ back)
      (hk : k ≤ front.length) (hback : back ≠ []) : Place clients front.length (back ++ front.take k)
  | second {front back rest : List ClientRef} (hcut : clients = front ++ back ++ rest)
      (hback : back ≠ []) : Place clients front.length back
  | finished {index : Nat} : Place clients index []

namespace Place

variable {clients front back ahead : List ClientRef} {k index : Nat} {c : ClientRef}

/-- At the end of the array the walk goes on at its beginning. -/
theorem wrap (hcut : clients = front ++ back) : Place clients 0 (front.take k) := by
  by_cases hnone : front.take k = []
  · rw [hnone]
    exact .finished
  · have hwhole : clients = [] ++ front.take k ++ (front.drop k ++ back) := by
      rw [List.nil_append, ← List.append_assoc, List.take_append_drop, hcut]
    exact .second hwhole hnone

/-- The next client is the one at the index. If it stays, the walk moves on behind it. -/
theorem next (h : Place clients index (c :: ahead)) :
    clients[index]? = some c ∧ index < clients.length ∧
      Place clients ((index + 1) % clients.length) ahead := by
  generalize hall : c :: ahead = all at h
  cases h with
  | finished => cases hall
  | @first front back k hcut hk hback =>
    obtain ⟨c', back, rfl⟩ := List.exists_cons_of_ne_nil hback
    rw [List.cons_append] at hall
    obtain ⟨rfl, rfl⟩ := List.cons.inj hall
    subst hcut
    have hlen : (front ++ c :: back).length = front.length + 1 + back.length := by
      rw [List.length_append, List.length_cons]
      omega
    refine ⟨by simp, by omega, ?_⟩
    by_cases hlast : back = []
    · subst hlast
      rw [hlen, List.length_nil, Nat.add_zero, Nat.mod_self, List.nil_append]
      exact wrap rfl
    · have hpos := List.length_pos_iff.mpr hlast
      rw [Nat.mod_eq_of_lt (by omega)]
      have hcut : front ++ c :: back = (front ++ [c]) ++ back := by simp
      have hplace := Place.first hcut (by rw [List.length_append]; omega : k ≤ _) hlast
      rwa [List.take_append_of_le_length hk, List.length_append, List.length_singleton] at hplace
  | @second front back rest hcut hback =>
    obtain ⟨c', back, rfl⟩ := List.exists_cons_of_ne_nil hback
    obtain ⟨rfl, rfl⟩ := List.cons.inj hall
    subst hcut
    have hlen : (front ++ c :: ahead ++ rest).length =
        front.length + 1 + ahead.length + rest.length := by
      simp only [List.length_append, List.length_cons]
      omega
    refine ⟨by simp, by omega, ?_⟩
    by_cases hlast : ahead = []
    · rw [hlast]
      exact .finished
    · have hpos := List.length_pos_iff.mpr hlast
      rw [Nat.mod_eq_of_lt (by omega)]
      have hcut : front ++ c :: ahead ++ rest = (front ++ [c]) ++ ahead ++ rest := by simp
      have hplace := Place.second hcut hlast
      rwa [List.length_append, List.length_singleton] at hplace

/-- If the client at the index goes, and the last one of the array is still to be visited, that one
    takes its place and is the next. -/
theorem drop (h : Place clients index (c :: ahead)) (hnodup : clients.Nodup)
    (hlast : ∀ last ∈ clients.getLast?, last ∈ c :: ahead) :
    ∃ ahead', ahead'.Perm ahead ∧ Place (swapRemove c clients)
      (if (swapRemove c clients).length ≤ index then 0 else index) ahead' := by
  have hout : ∀ {front back : List ClientRef}, (front ++ c :: back).Nodup → c ∉ front :=
    fun hnodup hmem => (List.nodup_append.mp hnodup).2.2 c hmem c List.mem_cons_self rfl
  generalize hall : c :: ahead = all at h
  cases h with
  | finished => cases hall
  | @second front back rest hcut hback =>
    subst hall
    -- behind those ahead there is nobody: the last client would have been visited
    have hrest : rest = [] := by
      rcases List.eq_nil_or_concat rest with hnil | ⟨init, last, hrest⟩
      · exact hnil
      · have hend : clients = (front ++ c :: ahead ++ init) ++ [last] := by
          rw [hcut, hrest, List.concat_eq_append]
          simp only [List.append_assoc]
        have hahead := hlast last (by rw [hend]; exact List.getLast?_concat)
        rw [hend] at hnodup
        have hmem : last ∈ front ++ c :: ahead ++ init :=
          List.mem_append_left _ (List.mem_append_right _ hahead)
        exact absurd rfl ((List.nodup_append.mp hnodup).2.2 last hmem last (List.mem_singleton_self _))
    subst hrest
    rw [List.append_nil] at hcut
    subst hcut
    rw [swapRemove_append (hout hnodup)]
    have hperm := perm_getLast_dropLast ahead
    generalize ahead.getLast?.toList ++ ahead.dropLast = back' at hperm
    refine ⟨back', hperm, ?_⟩
    by_cases hnone : back' = []
    · rw [hnone]
      exact .finished
    · have hpos := List.length_pos_iff.mpr hnone
      rw [if_neg (by rw [List.length_append]; omega)]
      exact .second (List.append_nil _).symm hnone
  | @first front back k hcut hk hback =>
    obtain ⟨c', back, rfl⟩ := List.exists_cons_of_ne_nil hback
    rw [List.cons_append] at hall
    obtain ⟨rfl, rfl⟩ := List.cons.inj hall
    subst hcut
    rw [swapRemove_append (hout hnodup)]
    have hperm := perm_getLast_dropLast back
    generalize back.getLast?.toList ++ back.dropLast = back' at hperm
    refine ⟨back' ++ front.take k, hperm.append_right _, ?_⟩
    by_cases hnone : back' = []
    · subst hnone
      rw [List.append_nil, if_pos (Nat.le_refl _), List.nil_append]
      exact wrap (List.append_nil front).symm
    · have hpos := List.length_pos_iff.mpr hnone
      rw [if_neg (by rw [List.length_append]; omega)]
      exact .first rfl hk hnone

end Place

/-! ## 5. Orderly walks -/

namespace InputTurn

variable {t : InputTurn} {c : ClientRef} {n : Nat} {ahead : List ClientRef}

/-- The walk is in order: those ahead were not visited yet, everyone else once. -/
structure Walk (t : InputTurn) (ahead : List ClientRef) : Prop where
  fresh : ∀ c ∈ ahead, t.server.visits c = 0
  seen : ∀ c ∈ t.server.clients, c ∉ ahead → t.server.visits c ≠ 0
  once : ∀ c, t.server.visits c ≤ 1
  distinct : ahead.Nodup
  place : Place t.server.clients t.index ahead

/-- A calm visit takes the walk to the next place. -/
theorem place_visit (h : t.Walk (c :: ahead)) (hcalm : t.calm c = true) :
    ∃ ahead', ahead'.Perm ahead ∧
      Place (t.visit t.index c).server.clients (t.visit t.index c).index ahead' := by
  unfold visit
  dsimp only
  split
  · exact ⟨ahead, .refl _, h.place.next.2.2⟩
  · rename_i hserved
    have hwalks := (Bool.or_eq_true_iff.mp hcalm).resolve_left hserved
    dsimp only at hwalks
    rw [Bool.and_eq_true, beq_iff_eq] at hwalks
    obtain ⟨hclients, hplace⟩ := hwalks
    split
    · rename_i hgoes
      rw [hgoes, Bool.not_true, Bool.false_or] at hplace
      change ∃ ahead', ahead'.Perm ahead ∧ Place (swapRemove c (InputServer.clients _))
        (if (swapRemove c (InputServer.clients _)).length ≤ t.index then 0 else t.index) ahead'
      rw [hclients]
      refine h.place.drop t.server.nodup fun last hlast => ?_
      rw [Option.mem_def.mp hlast, Option.all_some, Bool.or_eq_true, beq_iff_eq, beq_iff_eq] at hplace
      rcases hplace with rfl | hfresh
      · exact List.mem_cons_self
      · by_contra hout
        exact h.seen last (List.mem_of_getLast? hlast) hout hfresh
    · rw [hclients]
      exact ⟨ahead, .refl _, h.place.next.2.2⟩

/-- What a visit leaves of the order, whether it is calm or not. -/
theorem Walk.counts (h : t.Walk (c :: ahead)) (index : Nat) :
    (∀ c', (t.visit index c).server.visits c' ≤ 1) ∧
      (∀ c' ∈ ahead, (t.visit index c).server.visits c' = 0) ∧
      ∀ c' ∈ (t.visit index c).server.clients, c' ∉ ahead →
        (t.visit index c).server.visits c' ≠ 0 := by
  have hv := visits_visit t index c
  rw [hv.visits]
  have hself : t.server.visits c = 0 := h.fresh c List.mem_cons_self
  refine ⟨fun c' => ?_, fun c' hmem => ?_, fun c' hmem hout => ?_⟩
  · by_cases hc : c' = c
    · rw [hc, Function.update_self, hself]
    · rw [Function.update_of_ne hc]
      exact h.once c'
  · have hc : c' ≠ c := fun heq => (List.nodup_cons.mp h.distinct).1 (heq ▸ hmem)
    rw [Function.update_of_ne hc]
    exact h.fresh c' (List.mem_cons_of_mem _ hmem)
  · by_cases hc : c' = c
    · rw [hc, Function.update_self]
      exact Nat.succ_ne_zero _
    · rw [Function.update_of_ne hc]
      exact h.seen c' (hv.clients hmem) fun hin => (List.mem_cons.mp hin).elim hc hout

theorem Walk.visit (h : t.Walk (c :: ahead)) (hcalm : t.calm c = true) :
    ∃ ahead', ahead'.Perm ahead ∧ (t.visit t.index c).Walk ahead' := by
  obtain ⟨ahead', hperm, hplace⟩ := place_visit h hcalm
  obtain ⟨honce, hfresh, hseen⟩ := h.counts t.index
  exact ⟨ahead', hperm, ⟨fun c' hmem => hfresh c' (hperm.mem_iff.mp hmem),
    fun c' hmem hout => hseen c' hmem fun hin => hout (hperm.mem_iff.mpr hin), honce,
    hperm.nodup_iff.mpr (List.nodup_cons.mp h.distinct).2, hplace⟩⟩

theorem next_eq_none (h : t.budget = 0) : t.next = none := if_pos (.inr h)

theorem drainLoop_of_budget (h : t.budget = 0) (n : Nat) : t.drainLoop n = t := by
  cases n with
  | zero => rfl
  | succ n =>
    unfold drainLoop
    rw [next_eq_none h]

theorem Walk.next (h : t.Walk (c :: ahead)) (hbudget : t.budget ≠ 0) : t.next = some (t.index, c) := by
  obtain ⟨hget, hindex, -⟩ := h.place.next
  unfold InputTurn.next
  rw [if_neg (not_or.mpr ⟨by omega, hbudget⟩)]
  dsimp only
  rw [if_neg (Nat.not_le.mpr hindex), hget, Option.map_some]

/-- An orderly walk visits nobody twice, and everyone unless the budget runs out. -/
theorem Walk.drainLoop (h : t.Walk ahead) (hlen : ahead.length = n) (ho : t.orderly n = true) :
    (∀ c, (t.drainLoop n).server.visits c ≤ 1) ∧
      ((t.drainLoop n).budget = 0 ∨
        ∀ c ∈ (t.drainLoop n).server.clients, (t.drainLoop n).server.visits c ≠ 0) := by
  induction n generalizing t ahead with
  | zero =>
    have hnil := List.length_eq_zero_iff.mp hlen
    subst hnil
    exact ⟨h.once, .inr fun c hc => h.seen c hc List.not_mem_nil⟩
  | succ n ih =>
    obtain ⟨c, ahead, rfl⟩ := List.exists_cons_of_length_eq_add_one hlen
    have hlen := Nat.succ.inj hlen
    by_cases hbudget : t.budget = 0
    · rw [drainLoop_of_budget hbudget]
      exact ⟨h.once, .inl hbudget⟩
    · unfold InputTurn.drainLoop
      unfold orderly at ho
      rw [h.next hbudget] at ho ⊢
      dsimp only at ho ⊢
      rw [Bool.and_eq_true, Bool.or_eq_true, Bool.or_eq_true, beq_iff_eq, beq_iff_eq] at ho
      obtain ⟨honce, -, hseen⟩ := h.counts t.index
      obtain ⟨(rfl | hout) | hcalm, hrest⟩ := ho
      · have hnil := List.length_eq_zero_iff.mp hlen
        subst hnil
        exact ⟨honce, .inr fun c' hc' => hseen c' hc' List.not_mem_nil⟩
      · rw [drainLoop_of_budget hout]
        exact ⟨honce, .inl hout⟩
      · obtain ⟨ahead', hperm, hwalk⟩ := h.visit hcalm
        exact ih hwalk (hperm.length_eq.trans hlen) hrest

end InputTurn

namespace InputServer

theorem accounts_begin (s : InputServer) (budget : Nat) : (s.begin budget).Accounts :=
  ⟨fun _ _ => rfl, fun _ _ => Nat.zero_le _, fun _ _ hvisits => absurd rfl hvisits⟩

theorem walk_begin {s : InputServer} (hne : s.clients.length ≠ 0) (budget : Nat) :
    ∃ ahead, ahead.length = s.clients.length ∧ (s.begin budget).Walk ahead := by
  have hlt : s.inputDispatchCursor % s.clients.length < s.clients.length :=
    Nat.mod_lt _ (Nat.pos_of_ne_zero hne)
  generalize hk : s.inputDispatchCursor % s.clients.length = k at hlt
  have hperm : (s.clients.drop k ++ s.clients.take k).Perm s.clients := by
    have hswap : (s.clients.drop k ++ s.clients.take k).Perm (s.clients.take k ++ s.clients.drop k) :=
      List.perm_append_comm
    rwa [List.take_append_drop] at hswap
  refine ⟨s.clients.drop k ++ s.clients.take k, hperm.length_eq, ⟨fun _ _ => rfl, fun c hc hout => ?_,
    fun _ => Nat.zero_le _, hperm.nodup_iff.mpr s.nodup, ?_⟩⟩
  · exact absurd (hperm.mem_iff.mpr hc) hout
  · have hfront : (s.clients.take k).length = k := by
      rw [List.length_take]
      omega
    have hcut : s.clients = s.clients.take k ++ s.clients.drop k := (List.take_append_drop ..).symm
    have hplace := Place.first hcut (Nat.le_of_eq hfront.symm)
      (by rw [ne_eq, List.drop_eq_nil_iff]; omega)
    rw [hfront, List.take_take, Nat.min_self] at hplace
    change Place s.clients (s.inputDispatchCursor % s.clients.length) _
    rw [hk]
    exact hplace

/-- A turn is fair exactly when it is harmless. -/
theorem turnFair_iff (s : InputServer) (budget : Nat) :
    (s.drainBufferedClientInput budget).1.TurnFair (s.drainBufferedClientInput budget).2 ↔
      s.Harmless budget := by
  have hbegin : ∀ c, (s.begin budget).server.taken c ≤ serverInputLineBudgetPerClient :=
    fun _ => Nat.zero_le _
  unfold Harmless
  rw [InputTurn.harmless_iff (s.accounts_begin budget) hbegin]
  unfold drainBufferedClientInput
  split
  · rename_i hnone
    have hnobody : ∀ c, c ∉ s.clients := by
      rw [List.length_eq_zero_iff.mp hnone]
      exact fun _ => List.not_mem_nil
    rw [hnone]
    refine iff_of_true ⟨hbegin, ?_⟩ ⟨hbegin, (s.accounts_begin budget).mayEnd_iff.mpr ?_⟩
    all_goals exact fun ⟨c, hc, _⟩ => absurd hc (hnobody c)
  · have hend := (s.accounts_begin budget).drainLoop s.clients.length
    exact and_congr_right fun _ => hend.mayEnd_iff.symm

/-- The account of a whole turn: what is known of a client without regard to what the commands do. -/
theorem accounts_drain (s : InputServer) (budget : Nat) :
    let r := s.drainBufferedClientInput budget
    (∀ c, r.1.visits c ≤ 1 → r.1.taken c ≤ serverInputLineBudgetPerClient) ∧
      ∀ c ∈ r.1.clients, r.1.visits c ≠ 0 → r.1.hasWork c = true → r.2 = true := by
  have hbounded : ∀ {t : InputTurn}, t.Accounts → ∀ c, t.server.visits c ≤ 1 →
      t.server.taken c ≤ serverInputLineBudgetPerClient := by
    intro t ht c hc
    rcases Nat.le_one_iff_eq_zero_or_eq_one.mp hc with hzero | hone
    · rw [ht.fresh c hzero]
      exact Nat.zero_le _
    · exact ht.once c hone
  unfold drainBufferedClientInput
  split
  · exact ⟨hbounded (s.accounts_begin budget), fun _ _ hvisits => absurd rfl hvisits⟩
  · have hend := (s.accounts_begin budget).drainLoop s.clients.length
    exact ⟨hbounded hend,
      fun c hc hvisits hw => Bool.or_eq_true_iff.mpr (.inl (hend.noted c hc hvisits hw))⟩

theorem visits_of_orderly {s : InputServer} {budget : Nat} (ho : s.Orderly budget) :
    let r := s.drainBufferedClientInput budget
    (∀ c, r.1.visits c ≤ 1) ∧ (r.2 = true ∨ ∀ c ∈ r.1.clients, r.1.visits c ≠ 0) := by
  unfold drainBufferedClientInput
  split
  · rename_i hnone
    refine ⟨fun _ => Nat.zero_le _, .inr fun c hc => ?_⟩
    change c ∈ s.clients at hc
    rw [List.length_eq_zero_iff.mp hnone] at hc
    cases hc
  · rename_i hne
    obtain ⟨ahead, hlen, hwalk⟩ := walk_begin hne budget
    obtain ⟨honce, hdone⟩ := hwalk.drainLoop hlen ho
    refine ⟨honce, hdone.imp_left fun hbudget => ?_⟩
    exact Bool.or_eq_true_iff.mpr (.inr (beq_iff_eq.mpr hbudget))

/-- Clients 0, 1, ... with the given buffers; the first line of `quitter` is a QUIT, and all other
    lines do nothing. -/
def sample (bufs : List Text) (cursor : Nat) (quitter : ClientRef) : InputServer where
  clients := List.range bufs.length
  nodup := List.nodup_range
  inbuf c := bufs.getD c []
  handshake _ := false
  overflowed _ := false
  inputDispatchCursor := cursor
  effects c n := { quits := c == quitter && n == 0 }
  calls _ := 0
  taken _ := 0
  visits _ := 0

end InputServer

end ScratchIrcd
