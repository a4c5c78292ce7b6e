/-
  File:      ScratchIrcd/FloodBudget.lean
  Subject:   The budgets of src/commands/dispatch.c: `general_flood_allow` for every command of a
             client, `command_expensive_allow` for those that cost the server work.

  Each budget is a token bucket (Lib/TokenBucket.lean) that a call looks at with the clock of the
  moment. An expensive command takes from two of them, the client's and the server's, or from
  neither. `general_flood_allow` has its own copy of the refill, which agrees with the other for a
  bucket that is not overfull.
-/
import ScratchIrcd.Network
import ScratchIrcd.Lib.TokenBucket

namespace ScratchIrcd

open CText

/-! ## 1. `general_flood_allow` -/

/-- `FLOOD_BUDGET_BURST`, `FLOOD_BUDGET_REFILL_PER_SECOND`, `FLOOD_VIOLATION_WINDOW_SECONDS`,
    `FLOOD_VIOLATIONS_BEFORE_DISCONNECT`. -/
def floodBudgetBurst : Nat := 80
def floodBudgetRefillPerSecond : Nat := 20
def floodViolationWindowSeconds : Nat := 5
def floodViolationsBeforeDisconnect : Nat := 3

/-- The fields of a client that count its commands; all zero at first. -/
structure FloodBudget where
  bucket : Bucket := {}
  violationWindow : Nat := 0
  violationCount : Nat := 0

/-- A difference of two unsigned words of 32 bits. -/
def uintSub (a b : Nat) : Nat := (a + 2 ^ 32 - b) % 2 ^ 32

/-- The refill as `general_flood_allow` has it. -/
def floodRefill (now : Nat) (b : Bucket) : Bucket :=
  if b.updated = 0 then ⟨floodBudgetBurst, now⟩
  else if b.updated < now then
    let refill := Bucket.gain floodBudgetRefillPerSecond (now - b.updated)
    ⟨if uintSub floodBudgetBurst b.tokens ≤ refill then floodBudgetBurst else b.tokens + refill, now⟩
  else b

/-- One more command that was too much. -/
def FloodBudget.violate (now : Nat) (b : FloodBudget) : FloodBudget :=
  if b.violationWindow = 0 ∨ floodViolationWindowSeconds ≤ now - b.violationWindow then
    { b with violationWindow := now, violationCount := 1 }
  else { b with violationCount := b.violationCount + 1 }

/-- The results 1, -1 and 0. -/
inductive FloodResult where
  | allow | refuse | disconnect
  deriving DecidableEq, Repr

/-- `general_flood_cost`. -/
def generalFloodCost (command : Text) : Nat :=
  if strcasecmpEq command "QUIT".toList || strcasecmpEq command "PONG".toList then 0
  else if ["PRIVMSG", "NOTICE", "JOIN", "PART", "NICK", "MODE", "TOPIC", "KICK", "INVITE",
    "KNOCK"].any (strcasecmpEq command ·.toList) then 2
  else 1

namespace Server

/-- `send_bounded_command_numeric`. -/
def boundedCommandNumeric (s : Server) (c : ClientRef) (code : Nat) (command : Text) (text : String) :
    Server :=
  let command := if command.isEmpty then ['*'] else command
  let base := (⟨.server, .numeric code (s.client c).replyNick [lit "", lit (":" ++ text)]⟩ : Line).wire
    s.config.serverName
  if ircLineContentMax < base.length then s
  else s.replyNumeric c code [bounded (ircLineContentMax - base.length) command, lit (":" ++ text)]

/-- What a client is told that is told to slow down, and what is done to one that does not. -/
def floodAnswer (s : Server) (c : ClientRef) (command : Text) : FloodResult → Server
  | .allow => s
  | .refuse => s.boundedCommandNumeric c 263 command "Flood protection - please slow down"
  | .disconnect =>
      ((s.snotice {.flood} ("Client flood disconnected: nick=".toList ++ (s.client c).replyNick ++
        " real_ip=".toList ++ (s.client c).realIp ++ " command=".toList ++ command)).updClient c
          fun cl => { cl with quitReason := "Excess flood".toList }).sendError c "Excess flood"

/-- `general_flood_allow`; the clock is the server's. -/
def generalFloodAllow (s : Server) (c : ClientRef) (b : FloodBudget) (command : Text) (cost : Nat) :
    FloodResult × FloodBudget × Server :=
  if cost = 0 ∨ (s.client c).isOper then (.allow, b, s)
  else
    let b := { b with bucket := floodRefill s.now b.bucket }
    if cost ≤ b.bucket.tokens then (.allow, { b with bucket := b.bucket.take cost }, s)
    else
      let b := b.violate s.now
      let result : FloodResult :=
        if floodViolationsBeforeDisconnect ≤ b.violationCount then .disconnect else .refuse
      (result, b, s.floodAnswer c command result)

end Server

theorem floodRefill_eq {b : Bucket} (h : b.tokens ≤ floodBudgetBurst) (now : Nat) :
    floodRefill now b = b.refill floodBudgetBurst floodBudgetRefillPerSecond now := by
  have hsub : uintSub floodBudgetBurst b.tokens = floodBudgetBurst - b.tokens := by
    unfold uintSub
    unfold floodBudgetBurst at h ⊢
    omega
  have hcap : (floodBudgetBurst ≤ b.tokens ∨ floodBudgetBurst - b.tokens ≤
      Bucket.gain floodBudgetRefillPerSecond (now - b.updated)) ↔
      floodBudgetBurst - b.tokens ≤ Bucket.gain floodBudgetRefillPerSecond (now - b.updated) := by
    omega
  unfold floodRefill Bucket.refill
  by_cases hnew : b.updated = 0
  · rw [if_pos hnew, if_pos hnew]
  · rw [if_neg hnew, if_neg hnew]
    by_cases hlater : b.updated < now
    · simp only [if_pos hlater, if_neg (not_le.mpr hlater), hsub, hcap]
    · rw [if_neg hlater, if_pos (not_lt.mp hlater)]

/-! ## 2. `command_expensive_allow` -/

/-- `COMMAND_BUDGET_BURST`, `COMMAND_BUDGET_REFILL_PER_SECOND`, `COMMAND_GLOBAL_BUDGET_BURST`,
    `COMMAND_GLOBAL_BUDGET_REFILL_PER_SECOND`, `COMMAND_THROTTLE_SNOTICE_SECONDS`. -/
def commandBudgetBurst : Nat := 20
def commandBudgetRefillPerSecond : Nat := 4
def commandGlobalBudgetBurst : Nat := 200
def commandGlobalBudgetRefillPerSecond : Nat := 40
def commandThrottleSnoticeSeconds : Nat := 5

/-- A budget, and when its exhaustion was last reported. -/
structure CommandBudget where
  bucket : Bucket := {}
  noticeTime : Nat := 0

def CommandBudget.onBucket (b : CommandBudget) (f : Bucket → Bucket) : CommandBudget :=
  { b with bucket := f b.bucket }

/-- The budgets of the clients and the one they share; all zero at first. -/
structure CommandBudgets where
  client : ClientRef → CommandBudget := fun _ => {}
  shared : CommandBudget := {}

/-- A client's budget and the shared one change. -/
def CommandBudgets.both (c : ClientRef) (own shared : Bucket → Bucket) (g : CommandBudgets) :
    CommandBudgets :=
  ⟨Function.update g.client c ((g.client c).onBucket own), g.shared.onBucket shared⟩

/-- `refill_weighted_budget` on both budgets. -/
def CommandBudgets.refill (c : ClientRef) (now : Nat) : CommandBudgets → CommandBudgets :=
  both c (·.refill commandBudgetBurst commandBudgetRefillPerSecond now)
    (·.refill commandGlobalBudgetBurst commandGlobalBudgetRefillPerSecond now)

/-- Both budgets pay. -/
def CommandBudgets.charge (c : ClientRef) (cost : Nat) : CommandBudgets → CommandBudgets :=
  both c (·.take cost) (·.take cost)

theorem CommandBudgets.both_client (c : ClientRef) (own shared : Bucket → Bucket) (g : CommandBudgets)
    (r : ClientRef) : (g.both c own shared).client r =
      if r = c then (g.client c).onBucket own else g.client r := by
  show Function.update g.client c _ r = _
  by_cases hr : r = c
  · subst hr
    rw [if_pos rfl, Function.update_self]
  · rw [if_neg hr, Function.update_of_ne hr]

namespace Server

/-- The reply to a command that has to wait, and the notice to operators every five seconds. -/
def throttleAnswer (s : Server) (c : ClientRef) (command : Text) (b : CommandBudget) (text : String)
    (notice : String) : CommandBudget × Server :=
  let s := s.replyNumeric c 263 [command, lit text]
  if b.noticeTime = 0 ∨ commandThrottleSnoticeSeconds ≤ s.now - b.noticeTime then
    ({ b with noticeTime := s.now }, s.snotice {.flood} (notice.toList ++ (s.client c).replyNick ++
      " real_ip=".toList ++ (s.client c).realIp ++ " command=".toList ++ command))
  else (b, s)

/-- `command_expensive_allow`. -/
def commandExpensiveAllow (s : Server) (c : ClientRef) (g : CommandBudgets) (command : Text)
    (cost : Nat) : Bool × CommandBudgets × Server :=
  if cost = 0 ∨ (s.client c).isOper then (true, g, s)
  else
    let g := g.refill c s.now
    if (g.client c).bucket.tokens < cost then
      let told := s.throttleAnswer c command (g.client c) ":Please wait before repeating this command"
        "Expensive command throttled: nick="
      (false, { g with client := Function.update g.client c told.1 }, told.2)
    else if g.shared.bucket.tokens < cost then
      let told := s.throttleAnswer c command g.shared
        ":Server busy - please retry this expensive command shortly"
        "Global expensive-command budget exhausted: nick="
      (false, { g with shared := told.1 }, told.2)
    else (true, g.charge c cost, s)

theorem throttleAnswer_bucket (s : Server) (c : ClientRef) (command : Text) (b : CommandBudget)
    (text notice : String) : (s.throttleAnswer c command b text notice).1.bucket = b.bucket := by
  unfold throttleAnswer
  dsimp only
  split <;> rfl

/-- What a call does to the budgets: nothing, a look at both, or a look at both and the same cost
    taken from both. -/
theorem commandExpensiveAllow_budgets (s : Server) (c : ClientRef) (g : CommandBudgets)
    (command : Text) {cost : Nat} (hcost : cost ≠ 0) (hoper : (s.client c).isOper = false) :
    let called := s.commandExpensiveAllow c g command cost
    let looked := g.refill c s.now
    let taken := if called.1 then cost else 0
    taken ≤ (looked.client c).bucket.tokens ∧ taken ≤ looked.shared.bucket.tokens ∧
      (called.2.1.client c).bucket = (looked.client c).bucket.take taken ∧
      called.2.1.shared.bucket = looked.shared.bucket.take taken ∧
      ∀ r, r ≠ c → called.2.1.client r = g.client r := by
  have hother : ∀ r, r ≠ c → (g.refill c s.now).client r = g.client r :=
    fun r hr => (CommandBudgets.both_client ..).trans (if_neg hr)
  unfold commandExpensiveAllow
  rw [if_neg (by simp [hcost, hoper])]
  generalize g.refill c s.now = looked at hother
  dsimp only
  split
  · refine ⟨Nat.zero_le _, Nat.zero_le _, ?_, rfl, fun r hr => ?_⟩
    · simp only [Function.update_self, throttleAnswer_bucket]
      rfl
    · exact (Function.update_of_ne hr _ _).trans (hother r hr)
  split
  · refine ⟨Nat.zero_le _, Nat.zero_le _, rfl, ?_, hother⟩
    simp only [throttleAnswer_bucket]
    rfl
  · rename_i hown hshared
    refine ⟨not_lt.mp hown, not_lt.mp hshared, ?_, rfl, fun r hr => ?_⟩
    · exact congrArg CommandBudget.bucket ((CommandBudgets.both_client ..).trans (if_pos rfl))
    · exact ((CommandBudgets.both_client ..).trans (if_neg hr)).trans (hother r hr)

end Server

/-! ## 3. Histories -/

/-- A call: the server at that moment, whose clock it reads, the client, the command and its cost. -/
structure BudgetCall where
  server : Server
  client : ClientRef
  command : Text
  cost : Nat

/-- The client is an operator. -/
def BudgetCall.byOper (k : BudgetCall) : Bool := (k.server.client k.client).isOper

/-- The calls come one after the other, and the clock is running. -/
def InOrder (ks : List BudgetCall) : Prop :=
  (ks.map (·.server.now)).Pairwise (· ≤ ·) ∧ ∀ k ∈ ks, 0 < k.server.now

/-- The cost that counts: that of a call admitted for a client in `who` that is no operator. -/
def BudgetCall.counted (k : BudgetCall) (who : ClientRef → Bool) (admitted : Bool) : Nat :=
  if admitted && who k.client && !k.byOper then k.cost else 0

/-- The budget of a client after its calls, with the times and what was admitted. -/
def floodRun : FloodBudget → List BudgetCall → FloodBudget × List (Nat × Nat)
  | b, [] => (b, [])
  | b, k :: ks =>
      let called := k.server.generalFloodAllow k.client b k.command k.cost
      let rest := floodRun called.2.1 ks
      (rest.1, (k.server.now, k.counted (fun _ => true) (called.1 == .allow)) :: rest.2)

/-- The budgets after calls of any clients, with the times and what was admitted for those in
    `who`. -/
def expensiveRun (who : ClientRef → Bool) :
    CommandBudgets → List BudgetCall → CommandBudgets × List (Nat × Nat)
  | g, [] => (g, [])
  | g, k :: ks =>
      let called := k.server.commandExpensiveAllow k.client g k.command k.cost
      let rest := expensiveRun who called.2.1 ks
      (rest.1, (k.server.now, k.counted who called.1) :: rest.2)

/-- What was admitted in all. -/
def admittedCost (ledger : List (Nat × Nat)) : Nat := (ledger.map (·.2)).sum

theorem floodRun_times (b : FloodBudget) (ks : List BudgetCall) :
    (floodRun b ks).2.map (·.1) = ks.map (·.server.now) := by
  induction ks generalizing b with
  | nil => rfl
  | cons k ks ih => exact congrArg (k.server.now :: ·) (ih _)

theorem expensiveRun_times (who : ClientRef → Bool) (g : CommandBudgets) (ks : List BudgetCall) :
    (expensiveRun who g ks).2.map (·.1) = ks.map (·.server.now) := by
  induction ks generalizing g with
  | nil => rfl
  | cons k ks ih => exact congrArg (k.server.now :: ·) (ih _)

theorem BudgetCall.counted_skip {k : BudgetCall} (h : k.cost = 0 ∨ k.byOper = true)
    (who : ClientRef → Bool) (admitted : Bool) : k.counted who admitted = 0 := by
  unfold counted
  rcases h with hcost | hoper
  · rw [hcost, ite_self]
  · rw [hoper, Bool.not_true, Bool.and_false, if_neg Bool.false_ne_true]

theorem FloodBudget.violate_bucket (now : Nat) (b : FloodBudget) : (b.violate now).bucket = b.bucket := by
  unfold violate
  split <;> rfl

/-- A call that is not let through unseen looks at the budget and takes what it admits. -/
theorem floodCall_bucket {k : BudgetCall} (h : ¬(k.cost = 0 ∨ k.byOper = true)) {b : FloodBudget}
    (hb : b.bucket.tokens ≤ floodBudgetBurst) :
    let called := k.server.generalFloodAllow k.client b k.command k.cost
    let looked := b.bucket.refill floodBudgetBurst floodBudgetRefillPerSecond k.server.now
    let taken := k.counted (fun _ => true) (called.1 == .allow)
    taken ≤ looked.tokens ∧ called.2.1.bucket = looked.take taken := by
  have hplain : (!k.byOper) = true := by
    rw [Bool.not_eq_true', ← Bool.not_eq_true]
    exact fun hoper => h (.inr hoper)
  have hcall : k.server.generalFloodAllow k.client b k.command k.cost = _ := if_neg h
  simp only [floodRefill_eq hb] at hcall
  by_cases hcost : k.cost ≤ (b.bucket.refill floodBudgetBurst floodBudgetRefillPerSecond k.server.now).tokens
  · rw [if_pos hcost] at hcall
    rw [hcall]
    have htaken : k.counted (fun _ => true) (FloodResult.allow == .allow) = k.cost := by
      unfold BudgetCall.counted
      rw [hplain]
      rfl
    exact ⟨htaken ▸ hcost, by rw [htaken]⟩
  · rw [if_neg hcost] at hcall
    rw [hcall]
    have htaken : ∀ r : FloodResult, r ≠ .allow → k.counted (fun _ => true) (r == .allow) = 0 := by
      intro r hr
      unfold BudgetCall.counted
      rw [beq_false_of_ne hr]
      rfl
    dsimp only
    rw [htaken _ (by split <;> simp), FloodBudget.violate_bucket]
    exact ⟨Nat.zero_le _, rfl⟩

/-- The calls of a client spend its budget. -/
theorem floodRun_spends (ks : List BudgetCall) {b : FloodBudget} (hb : b.bucket.tokens ≤ floodBudgetBurst) :
    Bucket.Spends floodBudgetBurst floodBudgetRefillPerSecond b.bucket (floodRun b ks).2
      (floodRun b ks).1.bucket := by
  induction ks generalizing b with
  | nil => exact .nil _
  | cons k ks ih =>
    by_cases hskip : k.cost = 0 ∨ k.byOper = true
    · have hcall : k.server.generalFloodAllow k.client b k.command k.cost = (.allow, b, k.server) :=
        if_pos hskip
      simp only [floodRun, hcall, k.counted_skip hskip]
      exact .skip (ih hb)
    · obtain ⟨hle, hafter⟩ := floodCall_bucket hskip hb
      refine .cons hle ?_
      rw [← hafter]
      refine ih ?_
      rw [hafter]
      exact (Nat.sub_le _ _).trans (Bucket.refill_tokens_le hb)

/-- A call whose cost counts for the client spends the client's budget, and one whose cost counts
    at all the shared one. -/
theorem expensiveCall_bucket {k : BudgetCall} (h : ¬(k.cost = 0 ∨ k.byOper = true)) (g : CommandBudgets)
    (who : ClientRef → Bool) (hwho : who k.client = true) :
    let called := k.server.commandExpensiveAllow k.client g k.command k.cost
    let own := (g.client k.client).bucket.refill commandBudgetBurst commandBudgetRefillPerSecond k.server.now
    let shared := g.shared.bucket.refill commandGlobalBudgetBurst commandGlobalBudgetRefillPerSecond
      k.server.now
    let taken := k.counted who called.1
    taken ≤ own.tokens ∧ taken ≤ shared.tokens ∧ (called.2.1.client k.client).bucket = own.take taken ∧
      called.2.1.shared.bucket = shared.take taken := by
  obtain ⟨hcost, hoper⟩ := not_or.mp h
  rw [Bool.not_eq_true] at hoper
  have hcall := Server.commandExpensiveAllow_budgets k.server k.client g k.command hcost hoper
  have hown : ((g.refill k.client k.server.now).client k.client).bucket = _ :=
    congrArg CommandBudget.bucket ((CommandBudgets.both_client ..).trans (if_pos rfl))
  have htaken : ∀ admitted, k.counted who admitted = if admitted = true then k.cost else 0 := by
    intro admitted
    unfold BudgetCall.counted
    rw [hwho, hoper]
    simp
  dsimp only at hcall ⊢
  rw [hown] at hcall
  rw [htaken]
  exact ⟨hcall.1, hcall.2.1, hcall.2.2.1, hcall.2.2.2.1⟩

/-- A call that costs nothing, or of an operator, counts nothing and leaves the budgets. -/
theorem expensiveRun_skip {k : BudgetCall} {who : ClientRef → Bool} {g : CommandBudgets}
    {ks : List BudgetCall} (hskip : k.cost = 0 ∨ k.byOper = true) :
    expensiveRun who g (k :: ks) =
      ((expensiveRun who g ks).1, (k.server.now, 0) :: (expensiveRun who g ks).2) := by
  have hcall : k.server.commandExpensiveAllow k.client g k.command k.cost = (true, g, k.server) :=
    if_pos hskip
  simp only [expensiveRun, hcall, k.counted_skip hskip]

/-- The calls spend the client's budget with what they admit for the client. -/
theorem expensiveRun_spends_client (c : ClientRef) (ks : List BudgetCall) (g : CommandBudgets) :
    Bucket.Spends commandBudgetBurst commandBudgetRefillPerSecond (g.client c).bucket
      (expensiveRun (· == c) g ks).2 ((expensiveRun (· == c) g ks).1.client c).bucket := by
  induction ks generalizing g with
  | nil => exact .nil _
  | cons k ks ih =>
    by_cases hskip : k.cost = 0 ∨ k.byOper = true
    · rw [expensiveRun_skip hskip]
      exact .skip (ih g)
    by_cases hc : k.client = c
    · subst hc
      obtain ⟨hle, -, hafter, -⟩ := expensiveCall_bucket hskip g (· == k.client) (beq_self_eq_true _)
      refine .cons hle ?_
      rw [← hafter]
      exact ih _
    · -- a call of another client leaves this one's budget alone
      obtain ⟨hcost, hoper⟩ := not_or.mp hskip
      have hother := (Server.commandExpensiveAllow_budgets k.server k.client g k.command hcost
        (Bool.not_eq_true _ ▸ hoper)).2.2.2.2 c (Ne.symm hc)
      have hrest := ih (k.server.commandExpensiveAllow k.client g k.command k.cost).2.1
      rw [hother] at hrest
      have hcounted : ∀ admitted, k.counted (· == c) admitted = 0 := by
        intro admitted
        simp [BudgetCall.counted, hc]
      simp only [expensiveRun, hcounted]
      exact .skip hrest

/-- And the shared budget with what they admit for all. -/
theorem expensiveRun_spends_shared (ks : List BudgetCall) (g : CommandBudgets) :
    Bucket.Spends commandGlobalBudgetBurst commandGlobalBudgetRefillPerSecond g.shared.bucket
      (expensiveRun (fun _ => true) g ks).2 (expensiveRun (fun _ => true) g ks).1.shared.bucket := by
  induction ks generalizing g with
  | nil => exact .nil _
  | cons k ks ih =>
    by_cases hskip : k.cost = 0 ∨ k.byOper = true
    · rw [expensiveRun_skip hskip]
      exact .skip (ih g)
    · obtain ⟨-, hle, -, hafter⟩ := expensiveCall_bucket hskip g (fun _ => true) rfl
      refine .cons hle ?_
      rw [← hafter]
      exact ih _

/-! ## 4. What the budgets bound -/

/-- The calls of a history are of a period of `t` seconds that starts at `a`. -/
def Within (a t : Nat) (ks : List BudgetCall) : Prop :=
  ∀ k ∈ ks, a ≤ k.server.now ∧ k.server.now ≤ a + t

/-- What a history of a new bucket admits in its last part, in the terms of the calls. -/
theorem cost_le_of_spends {burst rate : Nat} {b b' : Bucket} {early late : List (Nat × Nat)}
    (h : Bucket.Spends burst rate {} early b) (h' : Bucket.Spends burst rate b late b')
    {before during : List BudgetCall} (hearly : early.map (·.1) = before.map (·.server.now))
    (hlate : late.map (·.1) = during.map (·.server.now)) (horder : InOrder (before ++ during)) {a t : Nat}
    (hperiod : Within a t during) : admittedCost late ≤ burst + rate * t := by
  have htime : ∀ e ∈ late, ∃ k ∈ during, k.server.now = e.1 := by
    intro e he
    have hmem : e.1 ∈ during.map (·.server.now) := hlate ▸ List.mem_map_of_mem he
    exact List.mem_map.mp hmem
  refine h.sum_le_after h' (a := a) (fun e he => ?_) ?_ (fun e he => ?_)
  · obtain ⟨k, hk, htime⟩ := htime e he
    exact htime ▸ horder.2 k (List.mem_append_right _ hk)
  · rw [List.map_append, hearly, hlate, ← List.map_append]
    exact horder.1
  · obtain ⟨k, hk, htime⟩ := htime e he
    exact htime ▸ hperiod k hk

/-- **Token buckets bound work.** Over any history of calls with the clock running, a client's flood
    budget holds at most its burst, and within `t` seconds `general_flood_allow` admits at most the
    burst and `t` times the rate for it. `command_expensive_allow` keeps to the budget of each client
    and to the shared one, and a call takes its cost from both or from neither. -/
theorem budgets_bound_work {before during : List BudgetCall} (horder : InOrder (before ++ during))
    {a t : Nat} (hperiod : Within a t during) (c : ClientRef) :
    (floodRun {} (before ++ during)).1.bucket.tokens ≤ floodBudgetBurst ∧
    admittedCost (floodRun (floodRun {} before).1 during).2 ≤
      floodBudgetBurst + floodBudgetRefillPerSecond * t ∧
    admittedCost (expensiveRun (· == c) (expensiveRun (· == c) {} before).1 during).2 ≤
      commandBudgetBurst + commandBudgetRefillPerSecond * t ∧
    admittedCost (expensiveRun (fun _ => true) (expensiveRun (fun _ => true) {} before).1 during).2 ≤
      commandGlobalBudgetBurst + commandGlobalBudgetRefillPerSecond * t ∧
    ∀ (k : BudgetCall) (g : CommandBudgets), k.byOper = false →
      let called := k.server.commandExpensiveAllow k.client g k.command k.cost
      let looked := if k.cost = 0 then g else g.refill k.client k.server.now
      let taken := if called.1 then k.cost else 0
      (called.2.1.client k.client).bucket = (looked.client k.client).bucket.take taken ∧
        called.2.1.shared.bucket = looked.shared.bucket.take taken := by
  refine ⟨?_, ?_, ?_, ?_, fun k g hoper => ?_⟩
  · exact (floodRun_spends (before ++ during) (Nat.zero_le _)).tokens_le (Nat.zero_le _)
  · have hbefore := floodRun_spends before (b := {}) (Nat.zero_le _)
    exact cost_le_of_spends hbefore (floodRun_spends during (hbefore.tokens_le (Nat.zero_le _)))
      (floodRun_times _ _) (floodRun_times _ _) horder hperiod
  · exact cost_le_of_spends (expensiveRun_spends_client c before {}) (expensiveRun_spends_client c during _)
      (expensiveRun_times _ _ _) (expensiveRun_times _ _ _) horder hperiod
  · exact cost_le_of_spends (expensiveRun_spends_shared before {}) (expensiveRun_spends_shared during _)
      (expensiveRun_times _ _ _) (expensiveRun_times _ _ _) horder hperiod
  · by_cases hcost : k.cost = 0
    · simp only [hcost, if_true, ite_self]
      exact ⟨rfl, rfl⟩
    · have hcall := Server.commandExpensiveAllow_budgets k.server k.client g k.command hcost hoper
      simp only [if_neg hcost]
      exact ⟨hcall.2.2.1, hcall.2.2.2.1⟩

/-- One busy client: forty messages in a second, the clock at 1000. -/
def busyCalls (now n : Nat) : List BudgetCall :=
  List.replicate n ⟨{ Server.initial {} {} {} with now := now }, 0, "PRIVMSG".toList,
    generalFloodCost "PRIVMSG".toList⟩

theorem budgets_bound_work_busy :
    InOrder ([] ++ busyCalls 1000 41) ∧ Within 1000 0 (busyCalls 1000 41) ∧
      admittedCost (floodRun (floodRun {} []).1 (busyCalls 1000 41)).2 ≤ 80 := by
  have horder : InOrder ([] ++ busyCalls 1000 41) := by
    refine ⟨by decide +kernel, fun k hk => ?_⟩
    rw [List.eq_of_mem_replicate hk]
    exact Nat.succ_pos _
  have hperiod : Within 1000 0 (busyCalls 1000 41) := by
    intro k hk
    rw [List.eq_of_mem_replicate hk]
    exact ⟨le_rfl, le_rfl⟩
  exact ⟨horder, hperiod, (budgets_bound_work horder hperiod 0).2.1⟩

/-- At clock 0 a bucket that was looked at is taken for one that never was, and is filled at each
    call: forty-one messages of cost 2 pass a burst of 80. -/
theorem floodRun_unbounded_at_zero :
    ((busyCalls 0 41).map (·.server.now)).Pairwise (· ≤ ·) ∧ Within 0 0 (busyCalls 0 41) ∧
      (∀ k ∈ busyCalls 0 41, k.byOper = false) ∧
      ¬ admittedCost (floodRun {} (busyCalls 0 41)).2 ≤ floodBudgetBurst + floodBudgetRefillPerSecond * 0 := by
  refine ⟨by decide +kernel, fun k hk => ?_, fun k hk => ?_, by decide +kernel⟩
  · rw [List.eq_of_mem_replicate hk]
    exact ⟨le_rfl, le_rfl⟩
  · rw [List.eq_of_mem_replicate hk]
    decide +kernel

end ScratchIrcd
