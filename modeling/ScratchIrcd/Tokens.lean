/-
  File:      ScratchIrcd/Tokens.lean
  Subject:   The tokens of NickServ: password resets and email verification (src/nickserv_db.c and the
             commands of src/nickserv.c that use it).

  A token goes out by mail and only its hash is stored, in columns of the account that several
  statements clear. Whether a token is good is decided by one UPDATE with its conditions in WHERE.
  What the columns hold is what the last statement that touched them wrote (`Runs.last_touch`), so a
  token that is accepted was written by the last of them. Here mail is set up, unlike in
  `NickServ.lean`.

  * **`tokens_single_use`** -- over every run of the statements.
-/
import Mathlib.Data.Set.Function
import ScratchIrcd.Lib.Runs
import ScratchIrcd.NickServ

namespace ScratchIrcd

open CText

variable {expiresAt : Int} {h passwordHash : Text} {op : TokenOp}

/-- `IRCD_TOKEN_HASH_HEX_LEN`. -/
def ircdTokenHashHexLen : Nat := 64

/-- The columns of `nickserv_accounts` that matter here. -/
structure TokenAccount where
  passwordHash : Text
  enabled : Bool := true
  email : Text := []
  emailVerified : Bool := false
  pendingEmail : Text := []
  emailVerifyTokenHash : Text := []
  emailVerifyExpiresAt : Int := 0
  resetTokenHash : Text := []
  resetExpiresAt : Int := 0

/-- `name` is the primary key, with collation NOCASE. -/
abbrev TokenAccounts : Type := Text → Option TokenAccount

def accountKey (name : Text) : Text := name.map asciiLower

/-- `text_fits` of nickserv_db.c without `allow_empty`. -/
def filledFits (maximum : Nat) (t : Text) : Bool := !t.isEmpty && textFits maximum t

/-! ## 1. The statements -/

/-- A statement on one account, with the token in the clear. -/
inductive TokenOp
  /-- REGISTER -/
  | register (name passwordHash email : Text) (verified : Bool)
  /-- NSDROP -/
  | drop (name : Text)
  /-- SET PASSWORD, NSSET PASSWORD -/
  | setPassword (name passwordHash : Text)
  /-- NSSET ENABLED -/
  | setEnabled (name : Text) (enabled : Bool)
  /-- RESET with a nickname -/
  | requestReset (name token : Text) (expiresAt : Int)
  /-- RESET with a token and a new password -/
  | consumeReset (name token : Text) (now : Int) (passwordHash : Text)
  /-- SET EMAIL -/
  | setEmail (name address token : Text) (expiresAt : Int)
  /-- VERIFY -/
  | verifyEmail (name token : Text) (now : Int)
  /-- NSSET EMAIL -/
  | adminSetEmail (name email : Text)

namespace TokenOp

def name : TokenOp → Text
  | .register name _ _ _ | .drop name | .setPassword name _ | .setEnabled name _ | .requestReset name _ _
  | .consumeReset name _ _ _ | .setEmail name _ _ _ | .verifyEmail name _ _ | .adminSetEmail name _ => name

def token : TokenOp → Option Text
  | .requestReset _ token _ | .consumeReset _ token _ _ | .setEmail _ _ token _ | .verifyEmail _ token _ => some token
  | _ => none

/-- It changes the password or issues a reset token (or makes or ends the account). -/
def touchesReset : TokenOp → Bool
  | .register _ _ _ _ | .drop _ | .setPassword _ _ | .requestReset _ _ _ | .consumeReset _ _ _ _ => true
  | _ => false

/-- It changes the address or issues a challenge (or makes or ends the account). -/
def touchesEmail : TokenOp → Bool
  | .register _ _ _ _ | .drop _ | .setEmail _ _ _ _ | .verifyEmail _ _ _ | .adminSetEmail _ _ => true
  | _ => false

end TokenOp

namespace TokenAccounts

/-- `UPDATE nickserv_accounts SET ... WHERE name=? AND ...`: whether it changed a row. -/
def update (db : TokenAccounts) (name : Text) (cond : TokenAccount → Bool) (f : TokenAccount → TokenAccount) :
    Bool × TokenAccounts :=
  match db (accountKey name) with
  | some a =>
      if accountArgFits name && cond a then (true, Function.update db (accountKey name) (some (f a)))
      else (false, db)
  | none => (false, db)

/-- Whether the statement succeeded, and the accounts after it. `hash` is `hash_token`. -/
def apply (hash : Text → Text) (db : TokenAccounts) : TokenOp → Bool × TokenAccounts
  | .register name passwordHash email verified =>
      if accountArgFits name && filledFits ircdOperHashMax passwordHash && textFits ircdEmailMax email &&
          (db (accountKey name)).isNone then
        (true, Function.update db (accountKey name)
          (some { passwordHash := passwordHash, email := email, emailVerified := verified }))
      else (false, db)
  | .drop name =>
      if accountArgFits name && (db (accountKey name)).isSome then
        (true, Function.update db (accountKey name) none)
      else (false, db)
  | .setPassword name passwordHash =>
      db.update name (fun _ => filledFits ircdOperHashMax passwordHash) fun a =>
        { a with passwordHash := passwordHash, resetTokenHash := [], resetExpiresAt := 0 }
  | .setEnabled name enabled => db.update name (fun _ => true) fun a => { a with enabled := enabled }
  | .requestReset name token expiresAt =>
      db.update name (fun a => a.enabled && a.emailVerified && !a.email.isEmpty &&
          filledFits ircdTokenHashHexLen (hash token)) fun a =>
        { a with resetTokenHash := hash token, resetExpiresAt := expiresAt }
  | .consumeReset name token now passwordHash =>
      db.update name (fun a => filledFits ircdTokenHashHexLen (hash token) &&
          filledFits ircdOperHashMax passwordHash && a.resetTokenHash == hash token &&
          decide (now ≤ a.resetExpiresAt) && a.enabled) fun a =>
        { a with passwordHash := passwordHash, resetTokenHash := [], resetExpiresAt := 0 }
  | .setEmail name address token expiresAt =>
      db.update name (fun _ => filledFits ircdEmailMax address && filledFits ircdTokenHashHexLen (hash token)) fun a =>
        { a with pendingEmail := address, emailVerifyTokenHash := hash token, emailVerifyExpiresAt := expiresAt }
  | .verifyEmail name token now =>
      db.update name (fun a => filledFits ircdTokenHashHexLen (hash token) && a.emailVerifyTokenHash == hash token &&
          decide (now ≤ a.emailVerifyExpiresAt) && !a.pendingEmail.isEmpty) fun a =>
        { a with email := a.pendingEmail, emailVerified := true
                 pendingEmail := [], emailVerifyTokenHash := [], emailVerifyExpiresAt := 0 }
  | .adminSetEmail name email =>
      db.update name (fun _ => textFits ircdEmailMax email) fun a =>
        { a with email := email, emailVerified := !email.isEmpty
                 pendingEmail := [], emailVerifyTokenHash := [], emailVerifyExpiresAt := 0 }

def step (hash : Text → Text) (db : TokenAccounts) (op : TokenOp) : TokenAccounts := (db.apply hash op).2

/-- No token is out. -/
def NoTokens (db : TokenAccounts) : Prop :=
  ∀ key a, db key = some a → a.resetTokenHash = [] ∧ a.emailVerifyTokenHash = []

/-- A statement that succeeds on the account and touches its reset columns, or its email columns. -/
def touch (hash : Text → Text) (touches : TokenOp → Bool) (key : Text) (db : TokenAccounts) (op : TokenOp) : Bool :=
  touches op && decide (accountKey op.name = key) && (db.apply hash op).1

/-! ## 2. What a statement does -/

variable {hash : Text → Text} {db : TokenAccounts} {name key : Text} {cond : TokenAccount → Bool}
  {f : TokenAccount → TokenAccount} {α : Type} {value : TokenAccount → α}

theorem of_update (h : (db.update name cond f).1 = true) :
    ∃ a, db (accountKey name) = some a ∧ cond a = true ∧
      (db.update name cond f).2 = Function.update db (accountKey name) (some (f a)) := by
  unfold update at h ⊢
  cases ha : db (accountKey name) with
  | none =>
    rw [ha] at h
    cases h
  | some a =>
    rw [ha] at h
    dsimp only at h ⊢
    split at h
    · rename_i hcond
      exact ⟨a, rfl, (Bool.and_eq_true_iff.mp hcond).2, by rw [if_pos hcond]⟩
    · cases h

theorem update_false (h : (db.update name cond f).1 = false) : (db.update name cond f).2 = db := by
  unfold update at h ⊢
  cases ha : db (accountKey name) with
  | none => rfl
  | some a =>
    rw [ha] at h
    dsimp only at h ⊢
    split at h
    · cases h
    · rename_i hcond
      rw [if_neg hcond]

theorem update_other (h : accountKey name ≠ key) : (db.update name cond f).2 key = db key := by
  cases hdone : (db.update name cond f).1 with
  | false => rw [update_false hdone]
  | true =>
    obtain ⟨a, -, -, heq⟩ := of_update hdone
    rw [heq, Function.update_of_ne h.symm]

/-- An UPDATE of other columns. -/
theorem map_update (hf : ∀ a, value (f a) = value a) (key : Text) :
    ((db.update name cond f).2 key).map value = (db key).map value := by
  cases hdone : (db.update name cond f).1 with
  | false => rw [update_false hdone]
  | true =>
    obtain ⟨a, ha, -, heq⟩ := of_update hdone
    rw [heq]
    by_cases hkey : key = accountKey name
    · rw [hkey, Function.update_self, ha, Option.map_some, Option.map_some, hf]
    · rw [Function.update_of_ne hkey]

theorem step_register {email : Text} {verified : Bool}
    (h : (db.apply hash (.register name passwordHash email verified)).1 = true) :
    db.step hash (.register name passwordHash email verified) = Function.update db (accountKey name)
      (some { passwordHash := passwordHash, email := email, emailVerified := verified }) := by
  unfold step
  unfold apply at h ⊢
  dsimp only at h ⊢
  split at h
  · rename_i hcond
    rw [if_pos hcond]
  · cases h

theorem step_drop (h : (db.apply hash (.drop name)).1 = true) :
    db.step hash (.drop name) = Function.update db (accountKey name) none := by
  unfold step
  unfold apply at h ⊢
  dsimp only at h ⊢
  split at h
  · rename_i hcond
    rw [if_pos hcond]
  · cases h

theorem step_false (h : (db.apply hash op).1 = false) : db.step hash op = db := by
  unfold step
  cases op with
  | register name passwordHash email verified =>
    unfold apply at h ⊢
    dsimp only at h ⊢
    split at h
    · cases h
    · rename_i hcond
      rw [if_neg hcond]
  | drop name =>
    unfold apply at h ⊢
    dsimp only at h ⊢
    split at h
    · cases h
    · rename_i hcond
      rw [if_neg hcond]
  | setPassword | setEnabled | requestReset | consumeReset | setEmail | verifyEmail | adminSetEmail =>
    exact update_false h

theorem step_other (h : accountKey op.name ≠ key) : db.step hash op key = db key := by
  unfold step
  cases op with
  | register name passwordHash email verified =>
    unfold apply
    dsimp only
    split
    · exact Function.update_of_ne h.symm _ _
    · rfl
  | drop name =>
    unfold apply
    dsimp only
    split
    · exact Function.update_of_ne h.symm _ _
    · rfl
  | setPassword | setEnabled | requestReset | consumeReset | setEmail | verifyEmail | adminSetEmail =>
    exact update_other h

/-- The columns of the two kinds of tokens. -/
def resetColumns (a : TokenAccount) : Text × Int := (a.resetTokenHash, a.resetExpiresAt)

def emailColumns (a : TokenAccount) : Text × Text × Int :=
  (a.pendingEmail, a.emailVerifyTokenHash, a.emailVerifyExpiresAt)

theorem resetColumns_kept (hash : Text → Text) (key : Text) (db : TokenAccounts) (op : TokenOp)
    (h : touch hash TokenOp.touchesReset key db op = false) :
    (db.step hash op key).map resetColumns = (db key).map resetColumns := by
  by_cases hkey : accountKey op.name = key
  swap
  · rw [step_other hkey]
  cases hdone : (db.apply hash op).1 with
  | false => rw [step_false hdone]
  | true =>
    cases op with
    | register | drop | setPassword | requestReset | consumeReset => simp [touch, hkey, hdone, TokenOp.touchesReset] at h
    | setEnabled | setEmail | verifyEmail | adminSetEmail =>
      unfold step apply
      apply map_update
      intro a
      rfl

theorem emailColumns_kept (hash : Text → Text) (key : Text) (db : TokenAccounts) (op : TokenOp)
    (h : touch hash TokenOp.touchesEmail key db op = false) :
    (db.step hash op key).map emailColumns = (db key).map emailColumns := by
  by_cases hkey : accountKey op.name = key
  swap
  · rw [step_other hkey]
  cases hdone : (db.apply hash op).1 with
  | false => rw [step_false hdone]
  | true =>
    cases op with
    | register | drop | setEmail | verifyEmail | adminSetEmail => simp [touch, hkey, hdone, TokenOp.touchesEmail] at h
    | setPassword | setEnabled | requestReset | consumeReset =>
      unfold step apply
      apply map_update
      intro a
      rfl

/-! ## 3. The statement that wrote a token -/

/-- Of the statements that touch the reset columns only a request leaves a token in them. -/
theorem of_reset_written (htouch : touch hash TokenOp.touchesReset key db op = true)
    (hcols : (db.step hash op key).map resetColumns = some (h, expiresAt)) (hne : h ≠ []) :
    ∃ name token, op = .requestReset name token expiresAt ∧ hash token = h := by
  obtain ⟨hkind, hdone⟩ := Bool.and_eq_true_iff.mp htouch
  obtain ⟨hkind, hkey⟩ := Bool.and_eq_true_iff.mp hkind
  obtain rfl := of_decide_eq_true hkey
  cases op with
  | setEnabled | setEmail | verifyEmail | adminSetEmail => cases hkind
  | register name passwordHash email verified =>
    rw [step_register hdone, TokenOp.name, Function.update_self] at hcols
    exact absurd (congrArg Prod.fst (Option.some.inj hcols)).symm hne
  | drop name =>
    rw [step_drop hdone, TokenOp.name, Function.update_self] at hcols
    cases hcols
  | setPassword name passwordHash | consumeReset name token now passwordHash =>
    obtain ⟨a, -, -, heq⟩ := of_update hdone
    have hwritten : (h, expiresAt) = ([], 0) := by
      unfold step apply at hcols
      rw [heq, TokenOp.name, Function.update_self] at hcols
      exact (Option.some.inj hcols).symm
    exact absurd (congrArg Prod.fst hwritten) hne
  | requestReset name token expires =>
    obtain ⟨a, -, -, heq⟩ := of_update hdone
    unfold step apply at hcols
    rw [heq, TokenOp.name, Function.update_self] at hcols
    obtain ⟨rfl, rfl⟩ := Prod.mk.inj (Option.some.inj hcols)
    exact ⟨name, token, rfl, rfl⟩

/-- Of the statements that touch the email columns only a challenge leaves a token in them. -/
theorem of_challenge_written {address : Text}
    (htouch : touch hash TokenOp.touchesEmail key db op = true)
    (hcols : (db.step hash op key).map emailColumns = some (address, h, expiresAt)) (hne : h ≠ []) :
    ∃ name token, op = .setEmail name address token expiresAt ∧ hash token = h := by
  obtain ⟨hkind, hdone⟩ := Bool.and_eq_true_iff.mp htouch
  obtain ⟨hkind, hkey⟩ := Bool.and_eq_true_iff.mp hkind
  obtain rfl := of_decide_eq_true hkey
  cases op with
  | setPassword | setEnabled | requestReset | consumeReset => cases hkind
  | register name passwordHash email verified =>
    rw [step_register hdone, TokenOp.name, Function.update_self] at hcols
    exact absurd (congrArg (·.2.1) (Option.some.inj hcols)).symm hne
  | drop name =>
    rw [step_drop hdone, TokenOp.name, Function.update_self] at hcols
    cases hcols
  | verifyEmail name token now | adminSetEmail name email =>
    obtain ⟨a, -, -, heq⟩ := of_update hdone
    have hwritten : (address, h, expiresAt) = ([], [], 0) := by
      unfold step apply at hcols
      rw [heq, TokenOp.name, Function.update_self] at hcols
      exact (Option.some.inj hcols).symm
    exact absurd (congrArg (·.2.1) hwritten) hne
  | setEmail name pending token expires =>
    obtain ⟨a, -, -, heq⟩ := of_update hdone
    unfold step apply at hcols
    rw [heq, TokenOp.name, Function.update_self] at hcols
    obtain ⟨rfl, hrest⟩ := Prod.mk.inj (Option.some.inj hcols)
    obtain ⟨rfl, rfl⟩ := Prod.mk.inj hrest
    exact ⟨name, token, rfl, rfl⟩

/-! ## 4. The life of a token -/

/-- `op` is the last statement of the run that touched the columns of the account. -/
def LastTouch (hash : Text → Text) (touches : TokenOp → Bool) (key : Text) (db : TokenAccounts)
    (before : List TokenOp) (op : TokenOp) : Prop :=
  ∃ front back, before = front ++ op :: back ∧
    touch hash touches key (Runs.exec (step hash) db front) op = true ∧
    Runs.Untouched (step hash) (touch hash touches key) (Runs.exec (step hash) db (front ++ [op])) back

/-- Any other statement that touched them came before it. -/
theorem LastTouch.mem {touches : TokenOp → Bool} {before u v : List TokenOp} {op' : TokenOp}
    (h : LastTouch hash touches key db before op) (hbefore : before = u ++ op' :: v)
    (hne : op ≠ op') (htouch : touch hash touches key (Runs.exec (step hash) db u) op' = true) :
    op ∈ v := by
  obtain ⟨front, back, rfl, -, hback⟩ := h
  exact hback.after hbefore htouch hne

theorem filledFits_ne_nil {maximum : Nat} {t : Text} (h : filledFits maximum t = true) : t ≠ [] := by
  rintro rfl
  cases h

section Issued

variable {T : Set Text} {before : List TokenOp} {token : Text} {now : Int}

/-- A reset that succeeds uses the token of the last statement that touched the reset columns. -/
theorem lastTouch_of_consumeReset (hT : Set.InjOn hash T) (hfresh : db.NoTokens)
    (hbefore : ∀ op ∈ before, ∀ t ∈ op.token, t ∈ T) (htoken : token ∈ T)
    (h : ((Runs.exec (step hash) db before).apply hash (.consumeReset name token now
      passwordHash)).1 = true) :
    ∃ name' expiresAt a,
      LastTouch hash TokenOp.touchesReset (accountKey name) db before (.requestReset name' token expiresAt) ∧
        now ≤ expiresAt ∧ Runs.exec (step hash) db before (accountKey name) = some a ∧ a.enabled = true := by
  obtain ⟨a, ha, hcond, -⟩ := of_update h
  simp only [Bool.and_eq_true, beq_iff_eq, decide_eq_true_eq] at hcond
  obtain ⟨⟨⟨⟨hfits, -⟩, hhash⟩, hnow⟩, henabled⟩ := hcond
  have hne : a.resetTokenHash ≠ [] := by
    rw [hhash]
    exact filledFits_ne_nil hfits
  rcases Runs.last_touch (fun db : TokenAccounts => (db (accountKey name)).map resetColumns)
      (resetColumns_kept hash (accountKey name)) db before with
    hstart | ⟨front, op, back, rfl, htouch, hback, hvalue⟩
  · rw [ha] at hstart
    obtain ⟨a', ha', hcols⟩ := Option.map_eq_some_iff.mp hstart.symm
    have hnone : a.resetTokenHash = [] := (congrArg Prod.fst hcols).symm.trans (hfresh _ a' ha').1
    exact absurd hnone hne
  · rw [ha] at hvalue
    obtain ⟨name', token', rfl, heq⟩ := of_reset_written htouch hvalue.symm hne
    obtain rfl : token' = token :=
      hT (hbefore _ (List.mem_append_right _ List.mem_cons_self) _ rfl) htoken (heq.trans hhash)
    exact ⟨name', a.resetExpiresAt, a, ⟨front, back, rfl, htouch, hback⟩, hnow, ha, henabled⟩

/-- A verification that succeeds uses the token of the last statement that touched the email columns,
and what it verifies is the address that came with that token. -/
theorem lastTouch_of_verifyEmail (hT : Set.InjOn hash T) (hfresh : db.NoTokens)
    (hbefore : ∀ op ∈ before, ∀ t ∈ op.token, t ∈ T) (htoken : token ∈ T)
    (h : ((Runs.exec (step hash) db before).apply hash (.verifyEmail name token now)).1 = true) :
    ∃ name' address expiresAt a,
      LastTouch hash TokenOp.touchesEmail (accountKey name) db before (.setEmail name' address token expiresAt) ∧
        now ≤ expiresAt ∧
        (Runs.exec (step hash) db before).step hash (.verifyEmail name token now) (accountKey name) = some a ∧
        a.email = address ∧ a.emailVerified = true := by
  obtain ⟨a, ha, hcond, hafter⟩ := of_update h
  simp only [Bool.and_eq_true, beq_iff_eq, decide_eq_true_eq] at hcond
  obtain ⟨⟨⟨hfits, hhash⟩, hnow⟩, -⟩ := hcond
  have hne : a.emailVerifyTokenHash ≠ [] := by
    rw [hhash]
    exact filledFits_ne_nil hfits
  have hverified := (congrFun hafter (accountKey name)).trans (Function.update_self ..)
  rcases Runs.last_touch (fun db : TokenAccounts => (db (accountKey name)).map emailColumns)
      (emailColumns_kept hash (accountKey name)) db before with
    hstart | ⟨front, op, back, rfl, htouch, hback, hvalue⟩
  · rw [ha] at hstart
    obtain ⟨a', ha', hcols⟩ := Option.map_eq_some_iff.mp hstart.symm
    have hnone : a.emailVerifyTokenHash = [] := (congrArg (·.2.1) hcols).symm.trans (hfresh _ a' ha').2
    exact absurd hnone hne
  · rw [ha] at hvalue
    obtain ⟨name', token', rfl, heq⟩ := of_challenge_written htouch hvalue.symm hne
    obtain rfl : token' = token :=
      hT (hbefore _ (List.mem_append_right _ List.mem_cons_self) _ rfl) htoken (heq.trans hhash)
    exact ⟨name', a.pendingEmail, a.emailVerifyExpiresAt, _, ⟨front, back, rfl, htouch, hback⟩, hnow, hverified,
      rfl, rfl⟩

end Issued

/-- **Tokens are single use.** Where no two tokens of the run have one hash, and from accounts
without tokens: a password reset succeeds only with the token of the last request, while it has not
expired, on an enabled account, and with no password change after the request; a verification succeeds
only with the token of the last challenge, while it has not expired, with no change of the address by an
operator after it, and it verifies the address of that challenge. Between two successes with one token
there is a new request, or a new challenge, with it. -/
theorem tokens_single_use (hash : Text → Text) (T : Set Text) (hT : Set.InjOn hash T) (db : TokenAccounts)
    (hfresh : db.NoTokens) (before : List TokenOp) (hbefore : ∀ op ∈ before, ∀ t ∈ op.token, t ∈ T)
    (name token : Text) (htoken : token ∈ T) (now : Int) :
    (∀ passwordHash,
      ((Runs.exec (step hash) db before).apply hash (.consumeReset name token now passwordHash)).1 = true →
      (∃ name' expiresAt a,
        LastTouch hash TokenOp.touchesReset (accountKey name) db before (.requestReset name' token expiresAt) ∧
          now ≤ expiresAt ∧ Runs.exec (step hash) db before (accountKey name) = some a ∧ a.enabled = true) ∧
      ∀ u v name₁ now₁ passwordHash₁, before = u ++ .consumeReset name₁ token now₁ passwordHash₁ :: v →
        accountKey name₁ = accountKey name →
        ((Runs.exec (step hash) db u).apply hash (.consumeReset name₁ token now₁ passwordHash₁)).1 = true →
        ∃ name' expiresAt, .requestReset name' token expiresAt ∈ v) ∧
    (((Runs.exec (step hash) db before).apply hash (.verifyEmail name token now)).1 = true →
      (∃ name' address expiresAt a,
        LastTouch hash TokenOp.touchesEmail (accountKey name) db before (.setEmail name' address token expiresAt) ∧
          now ≤ expiresAt ∧
          (Runs.exec (step hash) db before).step hash (.verifyEmail name token now) (accountKey name) = some a ∧
          a.email = address ∧ a.emailVerified = true) ∧
      ∀ u v name₁ now₁, before = u ++ .verifyEmail name₁ token now₁ :: v → accountKey name₁ = accountKey name →
        ((Runs.exec (step hash) db u).apply hash (.verifyEmail name₁ token now₁)).1 = true →
        ∃ name' address expiresAt, .setEmail name' address token expiresAt ∈ v) := by
  refine ⟨fun passwordHash hdone => ?_, fun hdone => ?_⟩
  · have hissued := lastTouch_of_consumeReset hT hfresh hbefore htoken hdone
    refine ⟨hissued, fun u v name₁ now₁ passwordHash₁ hsplit hkey hearlier => ?_⟩
    obtain ⟨name', expiresAt, a, hlast, -⟩ := hissued
    have htouch : touch hash TokenOp.touchesReset (accountKey name) (Runs.exec (step hash) db u)
        (.consumeReset name₁ token now₁ passwordHash₁) = true := by
      simp [touch, TokenOp.touchesReset, TokenOp.name, hkey, hearlier]
    exact ⟨name', expiresAt, hlast.mem hsplit nofun htouch⟩
  · have hissued := lastTouch_of_verifyEmail hT hfresh hbefore htoken hdone
    refine ⟨hissued, fun u v name₁ now₁ hsplit hkey hearlier => ?_⟩
    obtain ⟨name', address, expiresAt, a, hlast, -⟩ := hissued
    have htouch : touch hash TokenOp.touchesEmail (accountKey name) (Runs.exec (step hash) db u)
        (.verifyEmail name₁ token now₁) = true := by
      simp [touch, TokenOp.touchesEmail, TokenOp.name, hkey, hearlier]
    exact ⟨name', address, expiresAt, hlast.mem hsplit nofun htouch⟩

/-- One account with a verified address, and a run in which a request replaces another. -/
def oneAccount : TokenAccounts := fun key =>
  if key = "bob".toList then
    some { passwordHash := "p".toList, email := "b@example.org".toList, emailVerified := true }
  else none

def replacedRequest : List TokenOp :=
  [.requestReset "bob".toList "first".toList 100, .setEmail "bob".toList "c@example.org".toList "mail".toList 90,
    .requestReset "Bob".toList "second".toList 200]

theorem tokens_single_use_replaced :
    ((Runs.exec (step id) oneAccount replacedRequest).apply id
        (.consumeReset "bob".toList "first".toList 50 "q".toList)).1 = false ∧
      (∃ name' expiresAt a,
        LastTouch id TokenOp.touchesReset (accountKey "bob".toList) oneAccount replacedRequest
          (.requestReset name' "second".toList expiresAt) ∧ (150 : Int) ≤ expiresAt ∧
        Runs.exec (step id) oneAccount replacedRequest (accountKey "bob".toList) = some a ∧ a.enabled = true) ∧
      ∃ name' address expiresAt a,
        LastTouch id TokenOp.touchesEmail (accountKey "bob".toList) oneAccount replacedRequest
          (.setEmail name' address "mail".toList expiresAt) ∧ (80 : Int) ≤ expiresAt ∧
        (Runs.exec (step id) oneAccount replacedRequest).step id (.verifyEmail "bob".toList "mail".toList 80)
          (accountKey "bob".toList) = some a ∧ a.email = address ∧ a.emailVerified = true := by
  have hfresh : oneAccount.NoTokens := by
    intro key a h
    unfold oneAccount at h
    split at h
    · obtain rfl := Option.some.inj h
      exact ⟨rfl, rfl⟩
    · cases h
  have happly := fun token now => tokens_single_use id Set.univ (Set.injOn_id _) oneAccount hfresh replacedRequest
    (fun _ _ _ _ => trivial) "bob".toList token trivial now
  exact ⟨by decide, ((happly "second".toList 150).1 "q".toList (by decide)).1,
    ((happly "mail".toList 80).2 (by decide)).1⟩

end TokenAccounts

end ScratchIrcd
