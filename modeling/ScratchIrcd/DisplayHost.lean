/-
  File:      ScratchIrcd/DisplayHost.lean
  Subject:   The host a client shows is a function of its modes and its real host.

  Registration puts the cloak on and computes the host; from then on MODE, logins and logouts, OPER
  and SETHOST each recompute a part of it. A client without +t shows its cloak if it has +x and one
  can be made, else its verified name or its address (`Client.publicHost`).

  * `HostView.Shown` -- the host is what it would be if it were computed now;
  * `Client.HostStep` -- a change of one client that keeps this, and `Server.KeepsHosts` -- only such
    changes, so that one proof for each act of a service and each letter of MODE is enough;
  * **`Network.display_host_run`** -- it holds of every registered client in every run.
-/
import ScratchIrcd.NickTable
import ScratchIrcd.Oper
import ScratchIrcd.ReservedNicks

namespace ScratchIrcd

open CText

/-! ## 1. The cloak -/

/-- What +x and -x are about. -/
structure HostView where
  cloaked : Bool
  vhost : Bool
  realIp : Text
  realHost : Text
  displayHost : Text

namespace HostView

def realIdentity (v : HostView) : Text := if v.realHost.isEmpty then v.realIp else v.realHost

/-- The cloak is put on or taken off. -/
def cloak (config : ServerConfig) (ext : External) (v : HostView) (on : Bool) : HostView :=
  { v with
    cloaked := on
    displayHost :=
      if v.vhost then v.displayHost
      else if on then
        bounded ircHostMax ((cloakGenerate config ext v.realIp v.realHost).getD v.realIdentity)
      else bounded ircHostMax v.realIdentity }

variable {config : ServerConfig} {ext : External}

theorem cloak_cloak (v : HostView) (a b : Bool) :
    (v.cloak config ext a).cloak config ext b = v.cloak config ext b := by
  obtain ⟨cloaked, vhost, realIp, realHost, displayHost⟩ := v
  cases vhost <;> rfl

end HostView

namespace Client

def hostView (cl : Client) : HostView :=
  { cloaked := decide (ClientMode.cloaked ∈ cl.modes)
    vhost := decide (ClientMode.vhost ∈ cl.modes)
    realIp := cl.realIp
    realHost := cl.realHost
    displayHost := cl.displayHost }

theorem mem_setMode (cl : Client) (bit b : ClientMode) (on : Bool) :
    decide (b ∈ (cl.setMode bit on).modes) = if bit = b then on else decide (b ∈ cl.modes) := by
  unfold setMode
  by_cases hb : bit = b
  · subst hb
    cases on <;> simp
  · cases on <;> simp [hb, Ne.symm hb]

theorem hostView_setMode {bit : ClientMode} (hcloaked : bit ≠ .cloaked) (hvhost : bit ≠ .vhost)
    (cl : Client) (on : Bool) : (cl.setMode bit on).hostView = cl.hostView := by
  unfold hostView
  rw [mem_setMode, mem_setMode, if_neg hcloaked, if_neg hvhost]
  rfl

theorem hostView_refreshDisplayHost (config : ServerConfig) (ext : External) (cl : Client) :
    (cl.refreshDisplayHost config ext).hostView =
      cl.hostView.cloak config ext (decide (ClientMode.cloaked ∈ cl.modes)) := by
  unfold refreshDisplayHost HostView.cloak hostView
  by_cases hv : ClientMode.vhost ∈ cl.modes
  · simp only [hv, if_true, decide_true]
  · by_cases hx : ClientMode.cloaked ∈ cl.modes
    · simp only [hv, hx, if_true, if_false, decide_true, decide_false, Bool.false_eq_true]
      rfl
    · simp only [hv, hx, if_false, decide_false, Bool.false_eq_true]
      rfl

theorem hostView_applyCloak (config : ServerConfig) (ext : External) (cl : Client) :
    (cl.applyCloak config ext).hostView = cl.hostView.cloak config ext true := by
  have hset : { cl with modes := insert ClientMode.cloaked cl.modes }.hostView =
      { cl.hostView with cloaked := true } := by
    simp [hostView]
  unfold applyCloak
  rw [hostView_refreshDisplayHost, hset]
  simp [HostView.cloak, HostView.realIdentity]

theorem hostView_removeCloak (config : ServerConfig) (ext : External) (cl : Client) :
    cl.removeCloak.hostView = cl.hostView.cloak config ext false := by
  unfold removeCloak HostView.cloak hostView
  by_cases hv : ClientMode.vhost ∈ cl.modes
  · simp [hv]
  · simp [hv]
    rfl

/-- The -x of mode_control.c shows the same host. -/
theorem hostView_uncloak (config : ServerConfig) (ext : External) (cl : Client) :
    ({ cl.setMode .cloaked false with
        history := { cl.history with uncloaked := true } }.refreshDisplayHost config ext).hostView =
      cl.hostView.cloak config ext false := by
  have hset : { cl.setMode .cloaked false with
      history := { cl.history with uncloaked := true } }.hostView =
      { cl.hostView with cloaked := false } := by
    simp [hostView, setMode]
  rw [hostView_refreshDisplayHost, hset]
  simp [setMode, HostView.cloak, HostView.realIdentity]

end Client

/-! ## 2. SETHOST -/

/-- `valid_display_host`. -/
def validDisplayHost (host : Text) : Bool :=
  !host.isEmpty && decide (host.length ≤ ircHostMax) && host.all fun x =>
    isAsciiAlpha x || ('0' ≤ x && x ≤ '9') || x == '.' || x == '-' || x == '_' || x == ':'

/-- The host and +t; +x stays for later. -/
def Client.setHost (cl : Client) (host : Text) : Client :=
  { cl with
    displayHost := host
    accountVhostActive := false
    modes := insert .vhost cl.modes
    history := { cl.history with assignedHosts := host :: cl.history.assignedHosts } }

namespace Server

/-- The nickname and the host of a SETHOST. -/
def sethostWords (params : Text) : Option (Text × Text) :=
  (strtokSpace params).bind fun (nick, rest) =>
    ((strtokSpace rest).map (·.1)).bind fun host =>
      if validDisplayHost host then some (nick, host) else none

/-- `command_sethost` on a client that was found. -/
def sethostTarget (s : Server) (c target : ClientRef) (host : Text) : Server :=
  let old := (s.client target).displayHost
  let s := s.updClient target (·.setHost host)
  let nick := (s.client target).nick
  let s := s.serverNotice c ("SETHOST ".toList ++ nick ++ " -> ".toList ++ host : Text)
  let s := s.serverNotice target ("Your displayed hostname is now ".toList ++ host : Text)
  s.snotice {.identity} ("SETHOST by ".toList ++ (s.client c).nick ++ ": ".toList ++ nick ++ [' '] ++
    old ++ " -> ".toList ++ host ++ " [real_ip=".toList ++ (s.client target).realIp ++ [']'])

/-- `command_sethost`. -/
def commandSethost (s : Server) (c : ClientRef) (params : Option Text) : Server :=
  if !(s.client c).registered then s.notRegistered c
  else if OperPermission.override ∉ (s.client c).operPermissions then s.noPrivileges c
  else match params.bind sethostWords with
    | none => s.needMoreParams c "SETHOST"
    | some (nick, host) =>
      match s.findNick nick with
      | none => s.numeric c 401 [nick, lit ":No such nick/channel"]
      | some target => s.sethostTarget c target host

end Server

/-! ## 3. Shown as computed -/

/-- The host that belongs to a client without +t. -/
def Client.publicHost (config : ServerConfig) (ext : External) (cl : Client) : Text :=
  if ClientMode.cloaked ∈ cl.modes then
    (cloakGenerate config ext cl.realIp cl.realHost).getD cl.realIdentity
  else cl.realIdentity

/-- Computing the host again changes nothing. -/
def HostView.Shown (config : ServerConfig) (ext : External) (v : HostView) : Prop :=
  v.cloak config ext v.cloaked = v

section

variable {config : ServerConfig} {ext : External}

theorem HostView.shown_cloak (v : HostView) (on : Bool) : (v.cloak config ext on).Shown config ext :=
  v.cloak_cloak on on

/-- With +t any host is right. -/
theorem HostView.shown_of_vhost {v : HostView} (hv : v.vhost = true) : v.Shown config ext := by
  obtain ⟨cloaked, vhost, realIp, realHost, displayHost⟩ := v
  obtain rfl : vhost = true := hv
  rfl

theorem length_mapM {α β : Type*} {f : α → Option β} {l : List α} {r : List β}
    (h : l.mapM f = some r) : r.length = l.length := by
  induction l generalizing r with
  | nil =>
    rw [List.mapM_nil] at h
    cases h
    rfl
  | cons x l ih =>
    rw [List.mapM_cons] at h
    obtain ⟨y, -, h⟩ := Option.bind_eq_some_iff.mp h
    obtain ⟨ys, hys, h⟩ := Option.bind_eq_some_iff.mp h
    cases h
    rw [List.length_cons, List.length_cons, ih hys]

theorem length_hexTokens (tokens : List Nat) :
    (tokens.flatMap fun token => hex8 token ++ ['.']).length = 9 * tokens.length := by
  induction tokens with
  | nil => rfl
  | cons token tokens ih =>
    have hone : (hex8 token ++ ['.']).length = 9 := rfl
    rw [List.flatMap_cons, List.length_append, ih, List.length_cons]
    omega

/-- Three tokens of eight digits. -/
theorem length_cloakAddress {family : String} {labels : List String} {address cloak : Text}
    {sizes : List Nat} (hlabels : labels.length = 3)
    (h : cloakAddress config ext family labels address sizes = some cloak) : cloak.length ≤ ircHostMax := by
  unfold cloakAddress at h
  obtain ⟨tokens, htokens, heq⟩ := Option.bind_eq_some_iff.mp h
  have hlength : tokens.length ≤ 3 := by
    rw [length_mapM htokens, List.length_zip, hlabels]
    exact Nat.min_le_left _ _
  have hip : "IP".toList.length = 2 := rfl
  have hmax : ircHostMax = 63 := rfl
  cases heq
  rw [List.length_append, length_hexTokens]
  omega

theorem length_cloakGenerate {realIp realHost cloak : Text}
    (h : cloakGenerate config ext realIp realHost = some cloak) : cloak.length ≤ ircHostMax := by
  unfold cloakGenerate at h
  split at h
  · cases h
  split at h
  · -- a name is measured
    unfold cloakHostname at h
    split at h
    · cases h
    dsimp only at h
    split at h
    · cases h
    · obtain ⟨hlength, heq⟩ := Option.ite_none_right_eq_some.mp h
      exact Option.some.inj heq ▸ hlength
  split at h
  · exact length_cloakAddress rfl h
  split at h
  · exact length_cloakAddress rfl h
  · cases h

/-- What `Shown` means for a client without +t whose real host fits its field. -/
theorem Client.displayHost_of_shown {cl : Client} (h : cl.hostView.Shown config ext)
    (hvhost : ClientMode.vhost ∉ cl.modes) (hip : cl.realIp.length ≤ ircHostMax)
    (hhost : cl.realHost.length ≤ ircHostMax) : cl.displayHost = cl.publicHost config ext := by
  have hreal : cl.realIdentity.length ≤ ircHostMax := by
    unfold realIdentity
    split
    · exact hip
    · exact hhost
  have hpublic : (cl.publicHost config ext).length ≤ ircHostMax := by
    unfold publicHost
    split
    · cases hcloak : cloakGenerate config ext cl.realIp cl.realHost with
      | none => exact hreal
      | some cloak => exact length_cloakGenerate hcloak
    · exact hreal
  have hview : (cl.hostView.cloak config ext cl.hostView.cloaked).displayHost =
      bounded ircHostMax (cl.publicHost config ext) := by
    have hv : cl.hostView.vhost = false := decide_eq_false hvhost
    unfold HostView.cloak publicHost
    rw [hv, if_neg Bool.false_ne_true]
    by_cases hx : ClientMode.cloaked ∈ cl.modes
    · rw [if_pos hx, if_pos (show cl.hostView.cloaked = true from decide_eq_true hx)]
      rfl
    · rw [if_neg hx, if_neg (show cl.hostView.cloaked ≠ true from fun h => hx (of_decide_eq_true h))]
      rfl
  calc cl.displayHost = (cl.hostView.cloak config ext cl.hostView.cloaked).displayHost :=
        (congrArg HostView.displayHost h).symm
    _ = bounded ircHostMax (cl.publicHost config ext) := hview
    _ = cl.publicHost config ext := bounded_of_length_le hpublic

/-- A change of a client that leaves its host right, and is no registration. -/
structure Client.HostStep (config : ServerConfig) (ext : External) (a b : Client) : Prop where
  registered : b.registered = true → a.registered = true
  realIp : b.realIp = a.realIp
  realHost : b.realHost = a.realHost
  shown : a.hostView.Shown config ext → b.hostView.Shown config ext

namespace Client

variable {a b d cl : Client}

/-- What +x and -x are about is as it was. -/
theorem HostStep.of_view (hregistered : b.registered = true → a.registered = true)
    (hview : b.hostView = a.hostView) : a.HostStep config ext b :=
  ⟨hregistered, congrArg HostView.realIp hview, congrArg HostView.realHost hview, fun h => hview ▸ h⟩

theorem HostStep.refl (a : Client) : a.HostStep config ext a := .of_view (fun h => h) rfl

theorem HostStep.trans (h₁ : a.HostStep config ext b) (h₂ : b.HostStep config ext d) :
    a.HostStep config ext d :=
  ⟨fun h => h₁.registered (h₂.registered h), h₂.realIp.trans h₁.realIp, h₂.realHost.trans h₁.realHost,
    fun h => h₂.shown (h₁.shown h)⟩

/-- Where nothing but modes and host changed, and the host was computed. -/
theorem HostStep.computed (hsame : a.SameButModes b) {on : Bool}
    (hview : b.hostView = a.hostView.cloak config ext on) : a.HostStep config ext b where
  registered h := by rw [hsame] at h; exact h
  realIp := by rw [hsame]
  realHost := by rw [hsame]
  shown _ := by
    rw [hview]
    exact HostView.shown_cloak _ _

theorem hostStep_setMode {bit : ClientMode} (hbit : bit ∉ sessionModes) (cl : Client) (on : Bool) :
    cl.HostStep config ext (cl.setMode bit on) := by
  have hcloaked : bit ≠ .cloaked := fun h => hbit (h ▸ by decide)
  have hvhost : bit ≠ .vhost := fun h => hbit (h ▸ by decide)
  exact .of_view (fun h => h) (hostView_setMode hcloaked hvhost cl on)

/-- **A letter of MODE.** -/
theorem SelfModed.hostStep (h : a.SelfModed config ext b) : a.HostStep config ext b := by
  cases h with
  | plain on _ hsession => exact hostStep_setMode hsession a on
  | cloak => exact .computed (a.sameButModes_applyCloak config ext) (hostView_applyCloak config ext a)
  | uncloak => exact .computed a.sameButModes_removeCloak (hostView_removeCloak config ext a)
  | control =>
    exact .computed (sameButModes_refreshDisplayHost config ext rfl) (hostView_uncloak config ext a)

/-- A vhost that goes is followed by the cloak. -/
theorem hostStep_withoutVhost (hregistered : b.registered = a.registered) (hip : b.realIp = a.realIp)
    (hhost : b.realHost = a.realHost) : a.HostStep config ext (b.applyCloak config ext) := by
  have hcloak : b.HostStep config ext (b.applyCloak config ext) := SelfModed.cloak.hostStep
  refine ⟨fun h => hregistered ▸ hcloak.registered h, hcloak.realIp.trans hip,
    hcloak.realHost.trans hhost, fun _ => ?_⟩
  rw [hostView_applyCloak]
  exact HostView.shown_cloak _ _

/-- `apply_account`: a vhost of the account comes with +t. -/
theorem hostStep_applyAccount (cl : Client) (a : NickServAccount) :
    cl.HostStep config ext (cl.applyAccount config ext a) := by
  have hmarked : (cl.setMode .registered true).hostView = cl.hostView :=
    hostView_setMode (by decide) (by decide) cl true
  unfold applyAccount
  dsimp only
  split
  · split
    · exact ⟨fun h => h, rfl, rfl, fun _ => HostView.shown_of_vhost (by simp [hostView])⟩
    · exact .of_view (fun h => h) hmarked
  split
  · exact hostStep_withoutVhost rfl rfl rfl
  · exact .of_view (fun h => h) hmarked

theorem hostStep_dropAccount (cl : Client) : cl.HostStep config ext (cl.dropAccount config ext) := by
  have hunmarked : (cl.setMode .registered false).hostView = cl.hostView :=
    hostView_setMode (by decide) (by decide) cl false
  unfold dropAccount
  dsimp only
  split
  · exact hostStep_withoutVhost rfl rfl rfl
  · exact .of_view (fun h => h) hunmarked

/-- OPER: a host of the block comes with +t. -/
theorem hostStep_grantOper (cl : Client) (g : OperGrant) : cl.HostStep config ext (cl.grantOper g) := by
  have adds : ∀ (cl : Client) (bit : ClientMode) (p : Prop) [Decidable p], bit ∉ sessionModes →
      cl.HostStep config ext (if p then cl.setMode bit true else cl) := by
    intro cl bit p _ hbit
    split
    · exact hostStep_setMode hbit cl true
    · exact .refl cl
  have hbase : cl.HostStep config ext { cl with
      operPermissions := g.permissions
      operName := bounded ircdOperNameMax g.name
      modes := insert .oper cl.modes
      snoticeMask := snoticeAll } := .of_view (fun h => h) (by simp [hostView])
  have hmodes := (hbase.trans (adds _ .netadmin (OperPermission.netadmin ∈ g.permissions)
    (by decide))).trans (adds _ .helpop (OperPermission.helpop ∈ g.permissions) (by decide))
  unfold grantOper
  dsimp only
  split
  · exact hmodes.trans ⟨fun h => h, rfl, rfl, fun _ => HostView.shown_of_vhost (by simp [hostView, setMode])⟩
  · exact hmodes

theorem hostStep_setHost (cl : Client) (host : Text) : cl.HostStep config ext (cl.setHost host) :=
  ⟨fun h => h, rfl, rfl, fun _ => HostView.shown_of_vhost (by simp [hostView, setHost])⟩

end Client

end

namespace Server

variable {c : ClientRef} {s s' s'' : Server} {f : Client → Client}

/-! ## 4. What a command does to the clients -/

/-- Every client changed, if at all, in a way that leaves its host right, under one configuration. -/
structure KeepsHosts (s s' : Server) : Prop where
  config : s'.config = s.config
  ext : s'.ext = s.ext
  client : ∀ c, (s.client c).HostStep s.config s.ext (s'.client c)

namespace KeepsHosts

theorem refl (s : Server) : s.KeepsHosts s := ⟨rfl, rfl, fun _ => .refl _⟩

theorem trans (h₁ : s.KeepsHosts s') (h₂ : s'.KeepsHosts s'') : s.KeepsHosts s'' := by
  refine ⟨h₂.config.trans h₁.config, h₂.ext.trans h₁.ext, fun c => (h₁.client c).trans ?_⟩
  rw [← h₁.config, ← h₁.ext]
  exact h₂.client c

/-- No client changed. -/
theorem congr (h : s.KeepsHosts s') (hconfig : s''.config = s'.config) (hext : s''.ext = s'.ext)
    (hclient : s''.client = s'.client) : s.KeepsHosts s'' :=
  ⟨hconfig.trans h.config, hext.trans h.ext, fun c => by rw [hclient]; exact h.client c⟩

theorem deliver (h : s.KeepsHosts s') (ds : List (ClientRef × Line)) : s.KeepsHosts (s'.deliver ds) :=
  h.congr rfl rfl rfl

theorem quiet (h : s.KeepsHosts s') (hquiet : s'.Quiet s'') : s.KeepsHosts s'' :=
  h.congr hquiet.config (SameLinks.of_quiet hquiet).ext hquiet.client

theorem updClient (h : s.KeepsHosts s')
    (hf : (s'.client c).HostStep s'.config s'.ext (f (s'.client c))) : s.KeepsHosts (s'.updClient c f) := by
  refine h.trans ⟨rfl, rfl, fun r => ?_⟩
  by_cases hr : r = c
  · rw [hr, updClient_self]
    exact hf
  · rw [updClient_of_ne _ _ _ _ hr]
    exact .refl _

/-- A client that is freed is no longer registered. -/
theorem disconnect (h : s.KeepsHosts s') (c : ClientRef) (reason : Text) :
    s.KeepsHosts (s'.disconnect c reason) := by
  refine disconnect_steps (P := s.KeepsHosts) (fun _ ds h => h.deliver ds) (fun s₁ ch h => ?_)
    (fun _ _ _ h => h.congr rfl rfl rfl) (fun s₁ nicks h => ?_) (fun _ _ _ _ _ h => h.congr rfl rfl rfl) h
  · have hroom : s.KeepsHosts (s₁.updChannel ch (·.removeMember c)) := h.congr rfl rfl rfl
    exact hroom.updClient (.of_view id rfl)
  · have htables : s.KeepsHosts { s₁ with
        clients := swapRemove c s₁.clients, clientsByNick := nicks } := h.congr rfl rfl rfl
    exact htables.updClient (.of_view (fun h => absurd h Bool.false_ne_true) rfl)

end KeepsHosts

/-- **An act of a service** changes hosts by logins and logouts only. -/
theorem ServiceAct.keepsHosts (h : ServiceAct s s') : s.KeepsHosts s' := by
  have hsame := KeepsHosts.refl s
  cases h with
  | sync ch c => exact hsame.quiet (s.silent_syncMember ch c).toQuiet
  | load ch => exact hsame.quiet (s.quiet_loadPolicy ch true)
  | identify c a => exact hsame.updClient (Client.hostStep_applyAccount _ a)
  | dropAccount c => exact hsame.updClient (Client.hostStep_dropAccount _)
  | disconnect hfind reason => exact hsame.disconnect _ reason
  | @rename c old nick hfind hvalid hfree =>
    have htable : s.KeepsHosts { s with
        clientsByNick := (s.clientsByNick.remove (s.client c).nick).set nick c } :=
      hsame.congr rfl rfl rfl
    exact htable.updClient (.of_view id rfl)
  | _ => exact hsame.congr rfl rfl rfl

theorem ServiceChain.keepsHosts (h : ServiceChain s s') : s.KeepsHosts s' :=
  Runs.steps_invariant (P := s.KeepsHosts) (fun _ _ h hact => h.trans hact.keepsHosts) (.refl s) h

section

variable (s : Server) (c : ClientRef) (params : Option Text)

theorem keepsHosts_dispatchMode : s.KeepsHosts (s.dispatchMode c params) := by
  have loops : LoopsKeep s.KeepsHosts c := fun s' ch mayChange letters args h =>
    .of_deliver (fun ds h => h.deliver ds)
      (h.quiet (s'.modeOutcome_modeLoop c ch mayChange letters args).quiet)
  exact dispatchMode_induct (P := s.KeepsHosts) (fun _ ds _ h => h.deliver ds)
    (fun _ _ hf h => h.updClient (hf _).hostStep) (fun _ _ _ _ h => h.congr rfl rfl rfl)
    (fun _ _ _ _ h => h.congr rfl rfl rfl) (fun _ _ => .inr loops)
    (fun _ _ _ _ => loops _ _ _ _ _ (.refl s)) (.refl s)

/-- Asking for the block of an operator reads the database. -/
theorem keepsHosts_operAttempt (name password : Text) :
    s.KeepsHosts (s.operAttempt c name password).2 := by
  have hsame := KeepsHosts.refl s
  unfold operAttempt
  split
  · unfold operNetadmin
    split_ifs <;> exact hsame.congr rfl rfl rfl
  · unfold operAccount
    split
    · exact hsame.congr rfl rfl rfl
    dsimp only
    split
    · exact hsame.congr rfl rfl rfl
    split
    · exact hsame.congr rfl rfl rfl
    split
    · exact hsame.congr rfl rfl rfl
    split
    · exact hsame.congr rfl rfl rfl
    · unfold recordOpered
      split <;> exact hsame.congr rfl rfl rfl

theorem keepsHosts_commandOper : s.KeepsHosts (s.commandOper c params) := by
  have hsame := KeepsHosts.refl s
  unfold commandOper
  split
  · exact hsame.deliver _
  split
  · exact hsame.deliver _
  rename_i name password _
  have hattempt := s.keepsHosts_operAttempt c name password
  generalize s.operAttempt c name password = attempt at hattempt
  obtain ⟨_ | g, s₁⟩ := attempt
  · unfold operFailed
    dsimp only
    split <;> exact (hattempt.deliver _).deliver _
  · exact ((hattempt.updClient (Client.hostStep_grantOper _ g)).deliver _).deliver _

theorem keepsHosts_commandSethost : s.KeepsHosts (s.commandSethost c params) := by
  have hsame := KeepsHosts.refl s
  unfold commandSethost
  split
  · exact hsame.deliver _
  split
  · exact hsame.deliver _
  split
  · exact hsame.deliver _
  split
  · exact hsame.deliver _
  · exact (((hsame.updClient (Client.hostStep_setHost _ _)).deliver _).deliver _).deliver _

end

/-! ## 5. Registration -/

/-- Completing a registration: the cloak is put on. -/
theorem client_completeRegistration (s : Server) (c : ClientRef) : (s.completeRegistration c).client =
    (s.updClient c fun cl => { cl.applyCloak s.config s.ext with
      registered := true
      history := { cl.history with everRegistered := true } }).client := by
  unfold Server.completeRegistration
  exact client_watchOnline _ c

/-- Every registered client shows the host that belongs to it, under this configuration. -/
structure HostsShown (config : ServerConfig) (ext : External) (s : Server) : Prop where
  settings : s.config = config ∧ s.ext = ext
  shown : ∀ c, (s.client c).registered = true → (s.client c).hostView.Shown config ext
  realIp : ∀ c, (s.client c).realIp.length ≤ ircHostMax
  realHost : ∀ c, (s.client c).realHost.length ≤ ircHostMax

variable {config : ServerConfig} {ext : External}

theorem HostsShown.of_keepsHosts (h : s.HostsShown config ext) (hkept : s.KeepsHosts s') :
    s'.HostsShown config ext where
  settings := ⟨hkept.config.trans h.settings.1, hkept.ext.trans h.settings.2⟩
  shown c hc := by
    have hstep := hkept.client c
    rw [h.settings.1, h.settings.2] at hstep
    exact hstep.shown (h.shown c (hstep.registered hc))
  realIp c := (hkept.client c).realIp ▸ h.realIp c
  realHost c := (hkept.client c).realHost ▸ h.realHost c

theorem HostsShown.completeRegistration (h : s.HostsShown config ext) (c : ClientRef) :
    (s.completeRegistration c).HostsShown config ext := by
  have hview : ({ (s.client c).applyCloak s.config s.ext with
      registered := true
      history := { (s.client c).history with everRegistered := true } } : Client).hostView =
      (s.client c).hostView.cloak s.config s.ext true := Client.hostView_applyCloak _ _ _
  have hclient := s.client_completeRegistration c
  refine ⟨⟨(s.sameHolders_completeRegistration c).config.trans h.settings.1,
    (s.sameKeys_completeRegistration c).ext.trans h.settings.2⟩, fun r hr => ?_, fun r => ?_, fun r => ?_⟩
  all_goals
    rw [hclient] at *
    by_cases hrc : r = c
  · rw [hrc, updClient_self, hview, h.settings.1, h.settings.2]
    exact HostView.shown_cloak _ _
  · rw [updClient_of_ne _ _ _ _ hrc] at hr ⊢
    exact h.shown r hr
  · rw [hrc, updClient_self]
    exact (congrArg (·.realIp.length) hview).trans_le (h.realIp c)
  · rw [updClient_of_ne _ _ _ _ hrc]
    exact h.realIp r
  · rw [hrc, updClient_self]
    exact (congrArg (·.realHost.length) hview).trans_le (h.realHost c)
  · rw [updClient_of_ne _ _ _ _ hrc]
    exact h.realHost r

end Server

/-! ## 6. Runs -/

/-- A registration is tried, or a client gives one of these commands. -/
inductive HostEvent where
  | register (c : ClientRef)
  | mode (c : ClientRef) (params : Option Text)
  /-- NICKSERV and messages to NickServ: IDENTIFY, REGISTER, LOGOUT and the others. -/
  | nickserv (c : ClientRef) (params : Option Text)
  | identify (c : ClientRef) (params : Option Text)
  | nsset (c : ClientRef) (params : Option Text)
  | nsdrop (c : ClientRef) (params : Option Text)
  | oper (c : ClientRef) (params : Option Text)
  | sethost (c : ClientRef) (params : Option Text)

namespace Network

/-- One event at a time of day. -/
def hostStep (n : Network) (e : Nat × HostEvent) : Network :=
  let n := n.onServer fun s => { s with now := e.1 }
  match e.2 with
  | .register c => n.maybeRegister c
  | .mode c params => n.settle (n.server.dispatchMode c params)
  | .nickserv c params => n.settle (n.server.commandNickserv c params)
  | .identify c params => n.settle (n.server.commandIdentify c params)
  | .nsset c params => n.settle (n.server.commandNsset c params)
  | .nsdrop c params => n.settle (n.server.commandNsdrop c params)
  | .oper c params => n.settle (n.server.commandOper c params)
  | .sethost c params => n.settle (n.server.commandSethost c params)

variable {config : ServerConfig} {ext : External}

open Server (HostsShown KeepsHosts)

theorem hostsShown_maybeRegister {n : Network} (h : n.server.HostsShown config ext) (c : ClientRef) :
    (n.maybeRegister c).server.HostsShown config ext := by
  refine maybeRegister_induct (P := HostsShown config ext) (fun s ds h => ?_) (fun s _ _ h => ?_)
    (fun s h => h.completeRegistration c) h
  · exact h.of_keepsHosts ((KeepsHosts.refl s).deliver ds)
  · exact h.of_keepsHosts ((KeepsHosts.refl s).updClient (.of_view id rfl))

/-- One step keeps the hosts right. -/
theorem hostsShown_hostStep {n : Network} (h : n.server.HostsShown config ext) (e : Nat × HostEvent) :
    (n.hostStep e).server.HostsShown config ext := by
  obtain ⟨now, e⟩ := e
  have h' : HostsShown config ext { n.server with now := now } :=
    ⟨h.settings, h.shown, h.realIp, h.realHost⟩
  have settle : ∀ {s'}, KeepsHosts { n.server with now := now } s' →
      ((n.onServer fun s => { s with now := now }).settle s').server.HostsShown config ext := by
    intro s' hkeeps
    rw [(server_settle _ _).1]
    exact h'.of_keepsHosts hkeeps
  cases e with
  | register c => exact hostsShown_maybeRegister h' c
  | mode c params => exact settle (Server.keepsHosts_dispatchMode _ c params)
  | nickserv c params => exact settle (Server.chain_commandNickserv _ c params).keepsHosts
  | identify c params => exact settle (Server.chain_commandIdentify _ c params).keepsHosts
  | nsset c params => exact settle (Server.chain_commandNsset _ c params).keepsHosts
  | nsdrop c params => exact settle (Server.chain_commandNsdrop _ c params).keepsHosts
  | oper c params => exact settle (Server.keepsHosts_commandOper _ c params)
  | sethost c params => exact settle (Server.keepsHosts_commandSethost _ c params)

/-- **The display host is a function of the state.** From a network on which nobody is registered yet,
    whatever the state of its connections, in every run of registrations and of MODE, NickServ,
    IDENTIFY, NSSET, NSDROP, OPER and SETHOST: a registered client without +t shows its cloak if it
    has +x and one can be made, else its real host, or its address if it has none. -/
theorem display_host_run (n : Network) (hstart : ∀ c, (n.server.client c).registered = false)
    (hip : ∀ c, (n.server.client c).realIp.length ≤ ircIpMax)
    (hhost : ∀ c, (n.server.client c).realHost.length ≤ ircHostMax) (es : List (Nat × HostEvent))
    (c : ClientRef) (hc : ((Runs.exec hostStep n es).server.client c).registered = true)
    (hvhost : ClientMode.vhost ∉ ((Runs.exec hostStep n es).server.client c).modes) :
    ((Runs.exec hostStep n es).server.client c).displayHost =
      ((Runs.exec hostStep n es).server.client c).publicHost n.server.config n.server.ext := by
  have h₀ : n.server.HostsShown n.server.config n.server.ext := by
    refine ⟨⟨rfl, rfl⟩, fun r hr => ?_, fun r => ?_, hhost⟩
    · rw [hstart r] at hr
      cases hr
    · exact (hip r).trans (by decide)
  have hrun : (Runs.exec hostStep n es).server.HostsShown n.server.config n.server.ext :=
    Runs.exec_invariant (P := fun n' : Network => n'.server.HostsShown n.server.config n.server.ext)
      (fun _ e h _ => hostsShown_hostStep h e) h₀ (Runs.allowed_of_forall n fun _ _ => trivial)
  exact Client.displayHost_of_shown (hrun.shown c hc) hvhost (hrun.realIp c) (hrun.realHost c)

/-- A connection that only has to be let in, a key to cloak with, and an account with a vhost. -/
def annReady : Network :=
  let n := Network.initial { cloakKey := "k".toList, cloakPrefix := "irc".toList }
    { hmac32 := fun _ _ _ => some 7 }
    { nickserv := [{ name := "ann".toList, passwordHash := "pw".toList, vhost := "staff.irc".toList }] } {}
    { inetNtop4 := id, inetNtop6 := id } {}
  { n with server := { n.server with
      clients := [0]
      client := fun _ => { id := 1, nick := "ann".toList, user := "u".toList
                           realIp := "10.0.0.1".toList, realHost := "a.example.org".toList
                           dnsState := .verified, dnsblState := .clear } } }

/-- ann registers, logs in, and logs out again. -/
def annRun : List (Nat × HostEvent) :=
  [(0, .register 0), (1, .identify 0 (some "pw".toList)), (2, .nickserv 0 (some "LOGOUT".toList))]

/-- The login gives ann the vhost of the account and +t. After the logout ann shows the cloak again,
    and the real host once it is taken off. -/
theorem display_host_run_ann :
    ((Runs.exec hostStep annReady (annRun.take 2)).server.client 0).displayHost = "staff.irc".toList ∧
    ((Runs.exec hostStep annReady annRun).server.client 0).displayHost =
      "irc-00000007.example.org".toList ∧
    ((Runs.exec hostStep annReady (annRun ++ [(3, .mode 0 (some "ann -x".toList))])).server.client
      0).displayHost = "a.example.org".toList := by
  have hregistered : ∀ c, (annReady.server.client c).registered = false := fun _ => rfl
  have hip : ∀ c, (annReady.server.client c).realIp.length ≤ ircIpMax := fun _ =>
    (by decide : "10.0.0.1".toList.length ≤ ircIpMax)
  have hhost : ∀ c, (annReady.server.client c).realHost.length ≤ ircHostMax := fun _ =>
    (by decide : "a.example.org".toList.length ≤ ircHostMax)
  refine ⟨by decide +kernel, ?_, ?_⟩
  · rw [display_host_run annReady hregistered hip hhost _ 0 (by decide +kernel) (by decide +kernel)]
    decide +kernel
  · rw [display_host_run annReady hregistered hip hhost _ 0 (by decide +kernel) (by decide +kernel)]
    decide +kernel

end Network

end ScratchIrcd
