/-
  File:      ScratchIrcd/Throttles.lean
  Subject:   The limits per address on password hashing, registration and mail requests
             (`auth_limit_consume` of include/auth_limit.h, `throttle_slot` and its callers in
             src/commands/nickserv.c).

  Each limit has a table of 4096 slots (Lib/WindowTable.lean); hashing and mail have counters for all
  addresses together besides, with windows of a minute and of a second. An address is at most
  `IRC_IP_MAX` bytes long, as the buffer of a slot is. The notices of a refusal are left out.
-/
import ScratchIrcd.Lib.CText
import ScratchIrcd.Lib.WindowTable

namespace ScratchIrcd

open CText WindowTable

/-- `IRCD_NICKSERV_REGISTRATION_THROTTLE_SLOTS` -/
def ircdThrottleSlots : Nat := 4096

inductive ThrottleKind
  | registration | mail | argon2
  deriving DecidableEq

/-- The options the limits are read from; `runtime_config.c` accepts no window below ten seconds. -/
structure ThrottleConfig where
  nickservRegistrationsPerIp : Nat := 5
  nickservRegistrationWindowSeconds : Nat := 3600
  nickservMailRequestsPerIp : Nat := 5
  nickservMailWindowSeconds : Nat := 900
  nickservMailGlobalPerMinute : Nat := 60
  argon2OpsPerIp : Nat := 10
  argon2WindowSeconds : Nat := 60
  argon2GlobalOpsPerMinute : Nat := 60
  argon2GlobalBurstPerSecond : Nat := 8

/-- A counter for all addresses. -/
structure WindowCount where
  windowStart : Nat := 0
  count : Nat := 0
  deriving DecidableEq

def WindowCount.refresh (w : WindowCount) (now window : Nat) : WindowCount :=
  if windowOver w.windowStart now window then { windowStart := now } else w

def WindowCount.more (w : WindowCount) : WindowCount := { w with count := w.count + 1 }

/-- The tables and counters of `Server`. -/
structure Throttles where
  tables : ThrottleKind → Fin ircdThrottleSlots → WindowSlot Text := fun _ _ => {}
  mailGlobal : WindowCount := {}
  argon2Global : WindowCount := {}
  argon2Burst : WindowCount := {}

namespace ThrottleConfig

def limit (cfg : ThrottleConfig) : ThrottleKind → Nat
  | .registration => cfg.nickservRegistrationsPerIp
  | .mail => cfg.nickservMailRequestsPerIp
  | .argon2 => cfg.argon2OpsPerIp

def window (cfg : ThrottleConfig) : ThrottleKind → Nat
  | .registration => cfg.nickservRegistrationWindowSeconds
  | .mail => cfg.nickservMailWindowSeconds
  | .argon2 => cfg.argon2WindowSeconds

end ThrottleConfig

namespace Throttles

/-- Ask the table of one kind. -/
def ask (cfg : ThrottleConfig) (t : Throttles) (kind : ThrottleKind) (ip : Text) (now : Nat) (consume : Bool) :
    Bool × Throttles :=
  let r := request (t.tables kind) ip now (cfg.window kind) (cfg.limit kind) consume
  (r.1, { t with tables := Function.update t.tables kind r.2 })

/-- `throttle_slot` and the check of its count: a window of no length has no slot. -/
def askSlot (cfg : ThrottleConfig) (t : Throttles) (kind : ThrottleKind) (ip : Text) (now : Nat) (consume : Bool) :
    Bool × Throttles :=
  if cfg.window kind = 0 then (false, t) else t.ask cfg kind ip now consume

/-- `server_nickserv_registration_allowed`. -/
def nickservRegistrationAllowed (cfg : ThrottleConfig) (t : Throttles) (ip : Text) (now : Nat) (consume : Bool) :
    Bool × Throttles :=
  if ip.isEmpty then (false, t)
  else if cfg.nickservRegistrationsPerIp = 0 then (true, t)
  else t.askSlot cfg .registration ip now consume

/-- `nickserv_mail_request_allowed`. -/
def nickservMailRequestAllowed (cfg : ThrottleConfig) (t : Throttles) (ip : Text) (now : Nat) : Bool × Throttles :=
  if ip.isEmpty then (false, t)
  else
    let t := { t with mailGlobal := t.mailGlobal.refresh now 60 }
    if cfg.nickservMailGlobalPerMinute ≤ t.mailGlobal.count then (false, t)
    else
      let r := if cfg.nickservMailRequestsPerIp = 0 then (true, t) else t.askSlot cfg .mail ip now true
      if r.1 then (true, { r.2 with mailGlobal := r.2.mailGlobal.more }) else (false, r.2)

/-- The windows of `auth_limit_consume` for all addresses: an option that is 0 switches its limit
    off. -/
def refreshBurst (cfg : ThrottleConfig) (t : Throttles) (now : Nat) : Throttles :=
  if cfg.argon2GlobalBurstPerSecond = 0 then t else { t with argon2Burst := t.argon2Burst.refresh now 1 }

def refreshGlobal (cfg : ThrottleConfig) (t : Throttles) (now : Nat) : Throttles :=
  if cfg.argon2GlobalOpsPerMinute = 0 then t else { t with argon2Global := t.argon2Global.refresh now 60 }

/-- The part of `auth_limit_consume` about the address itself. -/
def consumeForIp (cfg : ThrottleConfig) (t : Throttles) (ip : Text) (now : Nat) : Bool × Throttles :=
  let r := if cfg.argon2OpsPerIp = 0 then (true, t) else t.ask cfg .argon2 ip now true
  if r.1 then
    (true, { r.2 with
      argon2Global := if cfg.argon2GlobalOpsPerMinute = 0 then r.2.argon2Global else r.2.argon2Global.more
      argon2Burst := if cfg.argon2GlobalBurstPerSecond = 0 then r.2.argon2Burst else r.2.argon2Burst.more })
  else (false, r.2)

/-- `auth_limit_consume`. -/
def authLimitConsume (cfg : ThrottleConfig) (t : Throttles) (ip : Text) (now : Nat) : Bool × Throttles :=
  if ip.isEmpty then (false, t)
  else if cfg.argon2OpsPerIp = 0 ∧ cfg.argon2GlobalOpsPerMinute = 0 ∧ cfg.argon2GlobalBurstPerSecond = 0 then
    (true, t)
  else
    let t := t.refreshBurst cfg now
    if cfg.argon2GlobalBurstPerSecond ≠ 0 ∧ cfg.argon2GlobalBurstPerSecond ≤ t.argon2Burst.count then (false, t)
    else
      let t := t.refreshGlobal cfg now
      if cfg.argon2GlobalOpsPerMinute ≠ 0 ∧ cfg.argon2GlobalOpsPerMinute ≤ t.argon2Global.count then (false, t)
      else t.consumeForIp cfg ip now

end Throttles

/-! ## 1. Calls -/

inductive ThrottleCall
  | hash (ip : Text) (now : Nat)
  | registration (ip : Text) (now : Nat) (consume : Bool)
  | mail (ip : Text) (now : Nat)

namespace ThrottleCall

def kind : ThrottleCall → ThrottleKind
  | .hash _ _ => .argon2
  | .registration _ _ _ => .registration
  | .mail _ _ => .mail

def ip : ThrottleCall → Text
  | .hash ip _ | .registration ip _ _ | .mail ip _ => ip

def now : ThrottleCall → Nat
  | .hash _ now | .registration _ now _ | .mail _ now => now

/-- Whether an admitted call is recorded: a registration is checked first and counted once it is
    made. -/
def records : ThrottleCall → Bool
  | .registration _ _ consume => consume
  | .hash _ _ | .mail _ _ => true

end ThrottleCall

/-- The answer to a call. -/
def Throttles.answer (cfg : ThrottleConfig) (t : Throttles) : ThrottleCall → Bool × Throttles
  | .hash ip now => t.authLimitConsume cfg ip now
  | .registration ip now consume => t.nickservRegistrationAllowed cfg ip now consume
  | .mail ip now => t.nickservMailRequestAllowed cfg ip now

/-- The throttles with the address and the time of every operation they recorded. -/
structure ThrottleRun where
  throttles : Throttles := {}
  recorded : ThrottleKind → List (Text × Nat) := fun _ => []

namespace ThrottleRun

def step (cfg : ThrottleConfig) (r : ThrottleRun) (call : ThrottleCall) : ThrottleRun where
  throttles := (r.throttles.answer cfg call).2
  recorded :=
    if (r.throttles.answer cfg call).1 && call.records then
      Function.update r.recorded call.kind (r.recorded call.kind ++ [(call.ip, call.now)])
    else r.recorded

def run (cfg : ThrottleConfig) (calls : List ThrottleCall) : ThrottleRun := calls.foldl (step cfg) {}

end ThrottleRun

/-! ## 2. What a call does -/

/-- A counter stays, or its window was over and it starts again. -/
def WindowCount.KeptOrRestarted (w w' : WindowCount) (now window : Nat) : Prop :=
  w' = w ∨ windowOver w.windowStart now window = true ∧ w' = { windowStart := now }

theorem WindowCount.keptOrRestarted_refresh (w : WindowCount) (now window : Nat) :
    w.KeptOrRestarted (w.refresh now window) now window := by
  unfold refresh
  split
  · rename_i hover
    exact .inr ⟨hover, rfl⟩
  · exact .inl rfl

/-- What a refusal may change: the counters for all addresses, when their windows are over. -/
structure Throttles.Refused (t t' : Throttles) (now : Nat) : Prop where
  tables : t'.tables = t.tables
  mailGlobal : t.mailGlobal.KeptOrRestarted t'.mailGlobal now 60
  argon2Global : t.argon2Global.KeptOrRestarted t'.argon2Global now 60
  argon2Burst : t.argon2Burst.KeptOrRestarted t'.argon2Burst now 1

namespace Throttles

variable {cfg : ThrottleConfig}

/-- The answer `r` to a call: refused, not limited, or admitted by the table. -/
def Answered (cfg : ThrottleConfig) (t : Throttles) (kind : ThrottleKind) (ip : Text) (now : Nat) (consume : Bool)
    (r : Bool × Throttles) : Prop :=
  (r.1 = false ∧ t.Refused r.2 now) ∨ (r.1 = true ∧ cfg.limit kind = 0 ∧ r.2.tables = t.tables) ∨
    (r.1 = true ∧ cfg.limit kind ≠ 0 ∧ (t.ask cfg kind ip now consume).1 = true ∧
      r.2.tables = (t.ask cfg kind ip now consume).2.tables)

theorem Refused.refl (t : Throttles) (now : Nat) : t.Refused t now := ⟨rfl, .inl rfl, .inl rfl, .inl rfl⟩

/-- A refusal by the table leaves it as it was. -/
theorem ask_cases (t : Throttles) (kind : ThrottleKind) (hlimit : cfg.limit kind ≠ 0) (ip : Text) (now : Nat)
    (consume : Bool) :
    t.ask cfg kind ip now consume = (false, t) ∨ (t.ask cfg kind ip now consume).1 = true := by
  cases h : (t.ask cfg kind ip now consume).1 with
  | true => exact .inr rfl
  | false =>
    unfold ask at h ⊢
    dsimp only at h ⊢
    rw [h, request_refused hlimit h, Function.update_eq_self]
    exact .inl rfl

theorem askSlot_cases (t : Throttles) (kind : ThrottleKind) (hlimit : cfg.limit kind ≠ 0) (ip : Text) (now : Nat)
    (consume : Bool) :
    t.askSlot cfg kind ip now consume = (false, t) ∨
      t.askSlot cfg kind ip now consume = t.ask cfg kind ip now consume ∧
        (t.ask cfg kind ip now consume).1 = true := by
  unfold askSlot
  split
  · exact .inl rfl
  · exact (t.ask_cases kind hlimit ip now consume).imp_right fun h => ⟨rfl, h⟩

theorem answered_registration (t : Throttles) (ip : Text) (now : Nat) (consume : Bool) :
    t.Answered cfg .registration ip now consume (t.nickservRegistrationAllowed cfg ip now consume) := by
  unfold nickservRegistrationAllowed
  split
  · exact .inl ⟨rfl, .refl t now⟩
  split
  · rename_i hlimit
    exact .inr (.inl ⟨rfl, hlimit, rfl⟩)
  · rename_i hlimit
    rcases t.askSlot_cases .registration hlimit ip now consume with heq | ⟨heq, hask⟩
    · rw [heq]
      exact .inl ⟨rfl, .refl t now⟩
    · rw [heq]
      exact .inr (.inr ⟨hask, hlimit, hask, rfl⟩)

theorem answered_mail (t : Throttles) (ip : Text) (now : Nat) :
    t.Answered cfg .mail ip now true (t.nickservMailRequestAllowed cfg ip now) := by
  have hrefresh : t.Refused { t with mailGlobal := t.mailGlobal.refresh now 60 } now :=
    ⟨rfl, t.mailGlobal.keptOrRestarted_refresh now 60, .inl rfl, .inl rfl⟩
  unfold nickservMailRequestAllowed
  split
  · exact .inl ⟨rfl, .refl t now⟩
  dsimp only
  split
  · exact .inl ⟨rfl, hrefresh⟩
  by_cases hlimit : cfg.nickservMailRequestsPerIp = 0
  · rw [if_pos hlimit]
    exact .inr (.inl ⟨rfl, hlimit, rfl⟩)
  · rw [if_neg hlimit]
    rcases askSlot_cases { t with mailGlobal := t.mailGlobal.refresh now 60 } .mail hlimit ip now true
      with heq | ⟨heq, hask⟩
    · rw [heq]
      exact .inl ⟨rfl, hrefresh⟩
    · rw [heq, if_pos hask]
      exact .inr (.inr ⟨rfl, hlimit, hask, rfl⟩)

/-- The two refreshes of `auth_limit_consume` touch no table. -/
theorem refused_refreshBurst (cfg : ThrottleConfig) (t : Throttles) (now : Nat) :
    t.Refused (t.refreshBurst cfg now) now ∧ (t.refreshBurst cfg now).argon2Global = t.argon2Global := by
  unfold refreshBurst
  split
  · exact ⟨.refl t now, rfl⟩
  · exact ⟨⟨rfl, .inl rfl, .inl rfl, t.argon2Burst.keptOrRestarted_refresh now 1⟩, rfl⟩

theorem refused_refreshGlobal (cfg : ThrottleConfig) {t t' : Throttles} {now : Nat} (h : t.Refused t' now)
    (hglobal : t'.argon2Global = t.argon2Global) : t.Refused (t'.refreshGlobal cfg now) now := by
  unfold refreshGlobal
  split
  · exact h
  · refine ⟨h.tables, h.mailGlobal, ?_, h.argon2Burst⟩
    rw [hglobal]
    exact t.argon2Global.keptOrRestarted_refresh now 60

theorem answered_consumeForIp {t t' : Throttles} {now : Nat} (h : t.Refused t' now) (ip : Text) :
    t.Answered cfg .argon2 ip now true (t'.consumeForIp cfg ip now) := by
  unfold consumeForIp
  by_cases hlimit : cfg.argon2OpsPerIp = 0
  · rw [if_pos hlimit]
    exact .inr (.inl ⟨rfl, hlimit, h.tables⟩)
  · rw [if_neg hlimit]
    rcases t'.ask_cases .argon2 hlimit ip now true with heq | hask
    · rw [heq]
      exact .inl ⟨rfl, h⟩
    · dsimp only
      rw [if_pos hask]
      unfold ask at hask ⊢
      rw [h.tables] at hask ⊢
      exact .inr (.inr ⟨rfl, hlimit, hask, rfl⟩)

theorem answered_hash (t : Throttles) (ip : Text) (now : Nat) :
    t.Answered cfg .argon2 ip now true (t.authLimitConsume cfg ip now) := by
  obtain ⟨hburst, hglobal⟩ := refused_refreshBurst cfg t now
  have hboth := refused_refreshGlobal cfg hburst hglobal
  unfold authLimitConsume
  split
  · exact .inl ⟨rfl, .refl t now⟩
  split
  · rename_i hoff
    exact .inr (.inl ⟨rfl, hoff.1, rfl⟩)
  dsimp only
  split
  · exact .inl ⟨rfl, hburst⟩
  split
  · exact .inl ⟨rfl, hboth⟩
  · exact answered_consumeForIp hboth ip

theorem answered (t : Throttles) (cfg : ThrottleConfig) (call : ThrottleCall) :
    t.Answered cfg call.kind call.ip call.now call.records (t.answer cfg call) := by
  cases call with
  | hash ip now => exact t.answered_hash ip now
  | registration ip now consume => exact t.answered_registration ip now consume
  | mail ip now => exact t.answered_mail ip now

end Throttles

/-! ## 3. Every run -/

namespace ThrottleRun

variable {cfg : ThrottleConfig}

/-- The tables that have a limit keep account of what was recorded; the others are empty. -/
def Books (cfg : ThrottleConfig) (clock : Nat) (r : ThrottleRun) : Prop :=
  ∀ kind, (cfg.limit kind ≠ 0 →
      Accounts (cfg.window kind) (cfg.limit kind) clock (r.throttles.tables kind) (r.recorded kind)) ∧
    (cfg.limit kind = 0 → r.throttles.tables kind = fun _ => {})

/-- A call that asks no table with a limit. -/
theorem Books.keep {clock : Nat} {r r' : ThrottleRun} (h : Books cfg clock r) {now : Nat} (hclock : clock ≤ now)
    (htables : r'.throttles.tables = r.throttles.tables)
    (hrecorded : ∀ kind, cfg.limit kind ≠ 0 → r'.recorded kind = r.recorded kind) : Books cfg now r' := by
  intro kind
  rw [htables]
  refine ⟨fun hlimit => ?_, (h kind).2⟩
  rw [hrecorded kind hlimit]
  exact ((h kind).1 hlimit).later hclock

theorem Books.step {clock : Nat} {r : ThrottleRun} (h : Books cfg clock r) (hcfg : ∀ kind, 0 < cfg.window kind)
    {call : ThrottleCall} (hclock : clock ≤ call.now) (hnow : 0 < call.now) :
    Books cfg call.now (r.step cfg call) := by
  rcases r.throttles.answered cfg call with ⟨hfalse, hrefused⟩ | ⟨htrue, hlimit, htables⟩ |
    ⟨htrue, hlimit, hask, htables⟩
  · refine h.keep hclock hrefused.tables fun kind _ => ?_
    unfold ThrottleRun.step
    dsimp only
    rw [hfalse]
    rfl
  · refine h.keep hclock htables fun kind hkind => ?_
    unfold ThrottleRun.step
    dsimp only
    split
    · have hne : kind ≠ call.kind := by
        rintro rfl
        exact hkind hlimit
      exact Function.update_of_ne hne _ _
    · rfl
  intro kind
  by_cases hkind : kind = call.kind
  · subst hkind
    refine ⟨fun _ => ?_, fun hzero => absurd hzero hlimit⟩
    have hbooks := ((h call.kind).1 hlimit).request hclock hnow (hcfg call.kind) call.ip call.records
    unfold ThrottleRun.step
    dsimp only
    rw [htables, htrue]
    unfold Throttles.ask at hask ⊢
    dsimp only at hask ⊢
    rw [hask] at hbooks
    rw [Function.update_self]
    cases hrecords : call.records with
    | false => rwa [hrecords] at hbooks
    | true =>
      rw [hrecords] at hbooks
      simp only [Bool.and_self, if_true, Function.update_self] at hbooks ⊢
      exact hbooks
  · have htable : (r.step cfg call).throttles.tables kind = r.throttles.tables kind := by
      show (r.throttles.answer cfg call).2.tables kind = _
      rw [htables]
      exact Function.update_of_ne hkind _ _
    have hrecorded : (r.step cfg call).recorded kind = r.recorded kind := by
      unfold ThrottleRun.step
      dsimp only
      split
      · exact Function.update_of_ne hkind _ _
      · rfl
    rw [htable, hrecorded]
    exact ⟨fun hlimit => ((h kind).1 hlimit).later hclock, (h kind).2⟩

theorem Books.foldl {clock : Nat} {r : ThrottleRun} (h : Books cfg clock r) (hcfg : ∀ kind, 0 < cfg.window kind)
    {calls : List ThrottleCall} (hfrom : ∀ call ∈ calls, clock ≤ call.now ∧ 0 < call.now)
    (hclock : calls.Pairwise fun a b => a.now ≤ b.now) :
    ∃ last, Books cfg last (calls.foldl (ThrottleRun.step cfg) r) := by
  induction calls generalizing clock r with
  | nil => exact ⟨clock, h⟩
  | cons call rest ih =>
    obtain ⟨hcall, -⟩ := List.forall_mem_cons.mp hfrom
    obtain ⟨hlater, hrest⟩ := List.pairwise_cons.mp hclock
    exact ih (h.step hcfg hcall.1 hcall.2)
      (fun later hmem => ⟨hlater later hmem, (hfrom later (List.mem_cons_of_mem _ hmem)).2⟩) hrest

/-- **The limits per address are kept**: by every run on a clock that does not go back and is not 0,
    an address has one slot per table, which counts what was recorded in its window and no more than
    the limit; the next call, whatever it is, takes no slot away whose window is not over, and if it
    is refused it changes no table. -/
theorem throttles_keep_limits (cfg : ThrottleConfig) (hcfg : ∀ kind, 0 < cfg.window kind)
    (calls : List ThrottleCall) (hpositive : ∀ call ∈ calls, 0 < call.now)
    (hclock : calls.Pairwise fun a b => a.now ≤ b.now) :
    (∀ kind i j ip, ((run cfg calls).throttles.tables kind i).owner = some ip →
      ((run cfg calls).throttles.tables kind j).owner = some ip → i = j) ∧
    (∀ kind, cfg.limit kind ≠ 0 → ∀ i ip, ((run cfg calls).throttles.tables kind i).owner = some ip →
      ((run cfg calls).throttles.tables kind i).count = ((run cfg calls).recorded kind).countP (fun e =>
        decide (e.1 = ip ∧ ((run cfg calls).throttles.tables kind i).start ≤ e.2)) ∧
      ((run cfg calls).throttles.tables kind i).count ≤ cfg.limit kind) ∧
    (∀ (call : ThrottleCall) kind i ip, ((run cfg calls).throttles.tables kind i).owner = some ip →
      windowOver ((run cfg calls).throttles.tables kind i).start call.now (cfg.window kind) = false →
      (((run cfg calls).throttles.answer cfg call).2.tables kind i).owner = some ip) ∧
    (∀ call : ThrottleCall, ((run cfg calls).throttles.answer cfg call).1 = false →
      (run cfg calls).throttles.Refused ((run cfg calls).throttles.answer cfg call).2 call.now) := by
  have hstart : Books cfg 0 {} := fun kind => ⟨fun _ => accounts_empty _ _ _, fun _ => rfl⟩
  obtain ⟨last, hbooks⟩ := hstart.foldl hcfg (fun call hmem => ⟨Nat.zero_le _, hpositive call hmem⟩) hclock
  change Books cfg last (run cfg calls) at hbooks
  refine ⟨fun kind i j ip hi hj => ?_, fun kind hlimit i ip hi => ?_, fun call kind i ip hi hopen => ?_,
    fun call hfalse => ?_⟩
  · by_cases hlimit : cfg.limit kind = 0
    · rw [(hbooks kind).2 hlimit] at hi
      cases hi
    · exact ((hbooks kind).1 hlimit).once i j ip hi hj
  · exact ⟨((hbooks kind).1 hlimit).counted i ip hi, ((hbooks kind).1 hlimit).bounded i⟩
  · rcases (run cfg calls).throttles.answered cfg call with ⟨-, hrefused⟩ | ⟨-, -, htables⟩ |
      ⟨-, -, -, htables⟩
    · rw [hrefused.tables]
      exact hi
    · rw [htables]
      exact hi
    · rw [htables]
      unfold Throttles.ask
      by_cases hkind : kind = call.kind
      · subst hkind
        simp only [Function.update_self]
        exact owner_request hi hopen
      · simp only [Function.update_of_ne hkind]
        exact hi
  · rcases (run cfg calls).throttles.answered cfg call with ⟨-, hrefused⟩ | ⟨htrue, -⟩ | ⟨htrue, -⟩
    · exact hrefused
    · rw [htrue] at hfalse
      cases hfalse
    · rw [htrue] at hfalse
      cases hfalse

/-- Two requests from one address and one from another. -/
theorem throttles_keep_limits_three :
    (∀ kind, 0 < ({} : ThrottleConfig).window kind) ∧ ∀ i, ((run {} [.hash "10.0.0.1".toList 5, .hash "10.0.0.2".toList 6,
        .hash "10.0.0.1".toList 7]).throttles.tables .argon2 i).owner = some "10.0.0.1".toList →
      ((run {} [.hash "10.0.0.1".toList 5, .hash "10.0.0.2".toList 6,
        .hash "10.0.0.1".toList 7]).throttles.tables .argon2 i).count ≤ 10 := by
  have hcfg : ∀ kind, 0 < ({} : ThrottleConfig).window kind := by
    rintro ⟨⟩ <;> decide
  refine ⟨hcfg, fun i hi => ?_⟩
  have h := throttles_keep_limits {} hcfg
    [.hash "10.0.0.1".toList 5, .hash "10.0.0.2".toList 6, .hash "10.0.0.1".toList 7]
    (by simp [ThrottleCall.now]) (by simp [ThrottleCall.now])
  exact (h.2.1 .argon2 (by decide) i _ hi).2

/-- Two passwords a second, one a minute, and no limit per address. -/
def oneHash : ThrottleConfig :=
  { argon2OpsPerIp := 0, argon2GlobalOpsPerMinute := 1, argon2GlobalBurstPerSecond := 2 }

/-- One password was hashed for an address while the clock read 0. -/
def hashedAtZero : Throttles :=
  { tables := fun _ i => if i.val = 0 then { owner := some "10.0.0.1".toList, start := 0, count := 1 } else {} }

/-- A password that is refused for the minute starts the counter of the second again. And while the
    clock reads 0, which marks a window that is not open, an address with a limit of one gets
    another. -/
theorem refusal_restarts_second :
    ((run oneHash [.hash "10.0.0.1".toList 1]).throttles.answer oneHash (.hash "10.0.0.1".toList 2)).1 = false ∧
      (run oneHash [.hash "10.0.0.1".toList 1]).throttles.argon2Burst.count = 1 ∧
      ((run oneHash [.hash "10.0.0.1".toList 1]).throttles.answer oneHash
        (.hash "10.0.0.1".toList 2)).2.argon2Burst.count = 0 ∧
      (hashedAtZero.answer { argon2OpsPerIp := 1 } (.hash "10.0.0.1".toList 0)).1 = true := by
  decide +kernel

end ThrottleRun

end ScratchIrcd
