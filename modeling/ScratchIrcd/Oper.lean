/-
  File:      ScratchIrcd/Oper.lean
  Subject:   OPER (src/commands/oper.c, src/oper.c, src/operator_db.c), and the modes +N and +h
             along runs of OPER, MODE and SAMODE.

  A grant replaces the permissions of a client and only adds modes to it. MODE reaches neither
  +N nor +h. SAMODE sets and removes +h and leaves the permissions alone. So +N follows the
  permissions, and +h the latest word of a grant or a SAMODE, as long as no grant takes away a
  permission whose mode the client wears.
-/
import ScratchIrcd.ModeRule

namespace ScratchIrcd

open CText

/-! ## 1. Permissions -/

/-- `OPER_PERMISSION_ALL`. -/
def operPermissionAll : Finset OperPermission :=
  {.rehash, .die, .restart, .wallops, .kill, .kline, .unkline, .zline, .override, .getHost, .helpop,
    .netadmin, .geoban, .eline, .stats}

/-- `SNOTICE_ALL`. -/
def snoticeAll : Finset Snotice :=
  {.connections, .operators, .kills, .bans, .geobans, .webirc, .dns, .security, .admin, .services,
    .registrations, .identity, .moderation, .flood}

/-- `permission_names`. -/
def permissionNames : List (String × OperPermission) :=
  [("can_rehash", .rehash), ("can_die", .die), ("can_restart", .restart), ("helpop", .helpop),
    ("can_wallops", .wallops), ("can_kill", .kill), ("can_kline", .kline), ("can_unkline", .unkline),
    ("can_zline", .zline), ("can_eline", .eline), ("can_geoban", .geoban), ("can_stats", .stats),
    ("get_host", .getHost), ("can_override", .override), ("netadmin", .netadmin)]

/-- `lookup_permission`. -/
def lookupPermission (name : Text) : Option OperPermission :=
  (permissionNames.find? fun p => p.1.toList == name).map (·.2)

/-- The loop of `oper_permissions_parse`; every token takes at least one byte. -/
def operPermissionsLoop : Nat → Text → Finset OperPermission → Option (Finset OperPermission)
  | 0, _, result => some result
  | fuel + 1, text, result =>
      match strtok (· == ',') text with
      | none => some result
      | some (token, rest) =>
          let token := token.dropWhile fun x => x == ' ' || x == '\t'
          if token == "oper".toList then operPermissionsLoop fuel rest result
          else (lookupPermission token).bind fun bit =>
            operPermissionsLoop fuel rest (insert bit result)

/-- `oper_permissions_parse`. -/
def operPermissionsParse (text : Text) : Option (Finset OperPermission) :=
  if 512 ≤ text.length then none else operPermissionsLoop text.length text ∅

/-! ## 2. operators.db -/

/-- `IRCD_OPER_FLAGS_MAX`. -/
def ircdOperFlagsMax : Nat := 255

/-- `record_from_stmt` succeeds. -/
def OperatorRecord.readable (r : OperatorRecord) : Bool :=
  columnFits ircdOperNameMax r.name && columnFits ircdOperHashMax r.passwordHash &&
    columnFits ircdOperFlagsMax r.permissions && columnFits ircHostMax r.vhost &&
    !r.name.isEmpty && !r.passwordHash.isEmpty

namespace Storage

/-- `operator_db_open`: a vhost that is too long anywhere in the table refuses the database. -/
def operatorDbOpen (d : Storage) : Bool × Storage :=
  (d.ioOk && d.operators.all fun r => decide (r.vhost.length ≤ ircHostMax), d.tick)

/-- `operator_db_get`: the record when it returns 1. -/
def operatorDbGet (d : Storage) (name : Text) : Option OperatorRecord × Storage :=
  if name.isEmpty || !textFits ircdOperNameMax name then (none, d)
  else if !d.ioOk then (none, d.tick)
  else ((d.operators.find? fun r => nocaseEq r.name name).filter (·.readable), d.tick)

end Storage

/-! ## 3. OPER -/

/-- What a successful OPER gives, and how it is announced. -/
structure OperGrant where
  name : Text
  permissions : Finset OperPermission
  vhost : Text
  /-- `" Network Administrator"` or `"n IRC operator"`. -/
  title : String
  deriving DecidableEq

/-- A grant's word on +h. -/
def OperGrant.helps (g : OperGrant) : Bool := decide (OperPermission.helpop ∈ g.permissions)

/-- Why an OPER fails. -/
inductive OperRefusal where
  | hostNotAuthorized | throttled | badPassword | unavailable | unknownOperator | invalidPermissions
  deriving DecidableEq, Repr

/-- The reason in the notice of `failed_oper`. -/
def OperRefusal.why : OperRefusal → String
  | hostNotAuthorized => "host not authorized"
  | throttled => "authentication throttled"
  | badPassword => "bad password"
  | unavailable => "operator database unavailable"
  | unknownOperator => "unknown or disabled operator"
  | invalidPermissions => "invalid stored permissions"

/-- `grant_oper`. -/
def Client.grantOper (cl : Client) (g : OperGrant) : Client :=
  let cl := { cl with
    operPermissions := g.permissions
    operName := bounded ircdOperNameMax g.name
    modes := insert .oper cl.modes
    snoticeMask := snoticeAll }
  let cl := if OperPermission.netadmin ∈ g.permissions then cl.setMode .netadmin true else cl
  let cl := if OperPermission.helpop ∈ g.permissions then cl.setMode .helpop true else cl
  if OperPermission.getHost ∈ g.permissions ∧ g.vhost ≠ [] then
    { (cl.setMode .cloaked false).setMode .vhost true with
      displayHost := bounded ircHostMax g.vhost
      accountVhostActive := false
      history := { cl.history with
        assignedHosts := bounded ircHostMax g.vhost :: cl.history.assignedHosts } }
  else cl

/-- `netadmin_host_matches`. -/
def Client.netadminHostMatches (cl : Client) (mask : Text) : Bool :=
  !mask.isEmpty &&
    (!cl.realHost.isEmpty && ircMaskMatch mask (ScratchIrcd.identity cl.nick cl.user cl.realHost) ||
      ircMaskMatch mask (ScratchIrcd.identity cl.nick cl.user cl.realIp))

/-- The name and the password of an OPER. -/
def operWords (params : Text) : Option (Text × Text) :=
  (strtokSpace params).bind fun (name, rest) =>
    ((strtokRest rest).map dropColon).bind fun password =>
      if password.isEmpty then none else some (name, password)

namespace Server

/-- OPER as the administrator of the configuration. -/
def operNetadmin (s : Server) (c : ClientRef) (password : Text) :
    Except OperRefusal OperGrant × Server :=
  if s.config.netadminPasswordHash.isEmpty ||
      !(s.client c).netadminHostMatches s.config.netadminHostmask then
    (.error .hostNotAuthorized, s)
  else if !s.admitOk then (.error .throttled, s.admitTick)
  else if !s.ext.argonVerify s.config.netadminPasswordHash password then
    (.error .badPassword, s.admitTick)
  else (.ok { name := s.config.netadminName, permissions := operPermissionAll,
              vhost := s.config.netadminVhost, title := " Network Administrator" }, s.admitTick)

/-- `operator_db_set_last_opered` on a connection of its own; nobody reads the date. -/
def recordOpered (s : Server) : Server :=
  match s.storage.operatorDbOpen with
  | (false, d) => { s with storage := d }
  | (true, d) => { s with storage := d.tick }

/-- OPER as an operator of the database. -/
def operAccount (s : Server) (name password : Text) : Except OperRefusal OperGrant × Server :=
  match s.storage.operatorDbOpen with
  | (false, d) => (.error .unavailable, { s with storage := d })
  | (true, d) =>
    let (found, d) := d.operatorDbGet name
    let s := { s with storage := d }
    match found.filter (·.enabled) with
    | none => (.error .unknownOperator, s)
    | some record =>
        if !s.admitOk then (.error .throttled, s.admitTick)
        else if !s.ext.argonVerify record.passwordHash password then
          (.error .badPassword, s.admitTick)
        else
          let permissions := operPermissionsParse record.permissions
          match permissions.filter (OperPermission.netadmin ∉ ·) with
          | none => (.error .invalidPermissions, s.admitTick)
          | some permissions =>
              (.ok { name := record.name, permissions := permissions, vhost := record.vhost,
                     title := "n IRC operator" }, s.admitTick.recordOpered)

/-- Is it granted? The name of the configuration goes before the database. -/
def operAttempt (s : Server) (c : ClientRef) (name password : Text) :
    Except OperRefusal OperGrant × Server :=
  if !s.config.netadminName.isEmpty && strcasecmpEq name s.config.netadminName then
    s.operNetadmin c password
  else s.operAccount name password

/-- `nick!user@display_host [real_ip=…]`, as the notices of OPER show a client. -/
def operIdentity (s : Server) (c : ClientRef) : Text :=
  (s.client c).identity ++ " [real_ip=".toList ++ (s.client c).realIp ++ [']']

/-- `failed_oper`, and the reply. -/
def operFailed (s : Server) (c : ClientRef) (name : Text) (r : OperRefusal) : Server :=
  let s := s.snotice {.operators} ("Failed OPER: ".toList ++ s.operIdentity c ++ " name=".toList ++
    name ++ " (".toList ++ r.why.toList ++ [')'])
  match r with
  | .hostNotAuthorized | .unknownOperator => s.numeric c 491 [lit ":No O-lines for your host"]
  | .throttled | .badPassword => s.numeric c 464 [lit ":Password Incorrect"]
  | .unavailable | .invalidPermissions => s.noPrivileges c

/-- `grant_oper`, the reply and the notice. -/
def operGranted (s : Server) (c : ClientRef) (g : OperGrant) : Server :=
  let s := s.updClient c (·.grantOper g)
  let s := s.numeric c 381 [(":You are now a".toList ++ g.title.toList : Text)]
  s.snotice {.operators} ("OPER successful: ".toList ++ s.operIdentity c ++ " as ".toList ++
    (if g.title = " Network Administrator" then "Network Administrator ".toList else []) ++
    (s.client c).operName)

/-- `command_oper`. -/
def commandOper (s : Server) (c : ClientRef) (params : Option Text) : Server :=
  if !(s.client c).registered then s.notRegistered c
  else match params.bind operWords with
    | none => s.needMoreParams c "OPER"
    | some (name, password) =>
      match s.operAttempt c name password with
      | (.error r, s) => s.operFailed c name r
      | (.ok g, s) => s.operGranted c g

end Server

/-! ## 4. Ranks

What the three commands do to a client, as far as its permissions, +N and +h go. -/

/-- The permissions of a client, and whether it wears +N and +h. -/
structure Rank where
  permissions : Finset OperPermission
  netadmin : Bool
  helpop : Bool
  deriving DecidableEq

namespace Rank

/-- A grant replaces the permissions, and adds the modes. -/
def grant (r : Rank) (g : OperGrant) : Rank where
  permissions := g.permissions
  netadmin := r.netadmin || decide (OperPermission.netadmin ∈ g.permissions)
  helpop := r.helpop || decide (OperPermission.helpop ∈ g.permissions)

/-- One letter of a SAMODE. -/
def letter (r : Rank) (l : Bool × Char) : Rank := if l.2 == 'h' then { r with helpop := l.1 } else r

end Rank

namespace Client

def rank (cl : Client) : Rank where
  permissions := cl.operPermissions
  netadmin := decide (ClientMode.netadmin ∈ cl.modes)
  helpop := decide (ClientMode.helpop ∈ cl.modes)

theorem SelfModed.rank {a b : Client} {config : ServerConfig} {ext : External}
    (h : a.SelfModed config ext b) : b.rank = a.rank := by
  have hpermissions : b.operPermissions = a.operPermissions := by rw [h.same]
  have hnetadmin := h.granted .netadmin (by decide)
  have hhelpop := h.granted .helpop (by decide)
  simp only [Client.rank, hpermissions, hnetadmin, hhelpop]

theorem rank_grantOper (cl : Client) (g : OperGrant) : (cl.grantOper g).rank = cl.rank.grant g := by
  unfold grantOper rank Rank.grant setMode
  dsimp only
  split_ifs <;> simp_all

/-- SAMODE reaches +h and not +N. -/
theorem rank_setMode_allowed (cl : Client) {l : Bool × Char} {bit : ClientMode}
    (hbit : Server.allowedUserMode l.2 = some bit) : (cl.setMode bit l.1).rank = cl.rank.letter l := by
  have hletters : ∀ x ∈ "BdgHhIipRsTWw".toList, ∀ b, clientModeBit x = some b →
      b ≠ .netadmin ∧ (b = .helpop ↔ x = 'h') := forall_mem_of_all (by decide)
  unfold Server.allowedUserMode at hbit
  split_ifs at hbit with hmem
  obtain ⟨hnetadmin, hhelpop⟩ := hletters l.2 (List.contains_iff_mem.mp hmem) bit hbit
  unfold rank Rank.letter setMode
  by_cases hl : l.2 = 'h'
  · rw [hhelpop.mpr hl] at hnetadmin ⊢
    cases l.1 <;> simp [hl]
  · have hne : bit ≠ .helpop := fun heq => hl (hhelpop.mp heq)
    cases l.1 <;> simp [hl, hnetadmin.symm, hne.symm]

end Client

namespace Server

/-- Every client has the rank it had. -/
def SameRanks (s s' : Server) : Prop := ∀ x, (s'.client x).rank = (s.client x).rank

theorem SameRanks.of_client {s s' : Server} (h : s'.client = s.client) : s.SameRanks s' :=
  fun x => by rw [h]

theorem SameRanks.trans {a b c : Server} (h₁ : a.SameRanks b) (h₂ : b.SameRanks c) :
    a.SameRanks c := fun x => (h₂ x).trans (h₁ x)

theorem rank_updClient (s : Server) (c x : ClientRef) (f : Client → Client) :
    ((s.updClient c f).client x).rank = if x = c then (f (s.client c)).rank else (s.client x).rank := by
  by_cases hx : x = c
  · subst hx; rw [updClient_self, if_pos rfl]
  · rw [updClient_of_ne _ _ _ _ hx, if_neg hx]

theorem SameRanks.updClient {s s' : Server} (h : s.SameRanks s') {c : ClientRef} {f : Client → Client}
    (hf : (f (s'.client c)).rank = (s'.client c).rank) : s.SameRanks (s'.updClient c f) := by
  refine h.trans fun x => ?_
  rw [rank_updClient]
  split_ifs with hx
  · rw [hf, hx]
  · rfl

theorem sameRanks_addToChannel (s : Server) (ch : ChannelRef) (c : ClientRef) :
    s.SameRanks (s.addToChannel ch c) := by
  unfold addToChannel
  split_ifs
  · exact .of_client rfl
  · have hseated : s.SameRanks (s.updChannel ch (·.addMember c)) := .of_client rfl
    exact hseated.updClient rfl

theorem sameRanks_removeFromChannel (s : Server) (ch : ChannelRef) (c : ClientRef) :
    s.SameRanks (s.removeFromChannel ch c) := by
  have hleft : s.SameRanks (s.updChannel ch (·.removeMember c)) := .of_client rfl
  exact hleft.updClient rfl

/-- The loop of `mode_channel` is about the channel. -/
theorem loopsKeep_sameRanks (s : Server) (c : ClientRef) : LoopsKeep (SameRanks s) c := by
  intro s' ch mayChange letters args h
  refine .of_deliver (fun ds h => h) (h.trans (.of_client ?_))
  exact (s'.modeOutcome_modeLoop c ch mayChange letters args).quiet.client

/-- **No MODE changes a rank**, not even that of an operator who gives it. -/
theorem sameRanks_dispatchMode (s : Server) (c : ClientRef) (params : Option Text) :
    s.SameRanks (s.dispatchMode c params) :=
  dispatchMode_induct (P := SameRanks s) (fun _ _ _ h => h)
    (fun _ _ hf h => h.updClient (hf _).rank) (fun _ _ _ _ h => h) (fun _ _ _ _ h => h)
    (fun _ _ => .inr (loopsKeep_sameRanks s c))
    (fun _ _ _ _ => loopsKeep_sameRanks s c _ _ _ _ _ (.of_client rfl)) (.of_client rfl)

/-! ## 5. OPER -/

theorem client_operNetadmin (s : Server) (c : ClientRef) (password : Text) :
    (s.operNetadmin c password).2.client = s.client := by
  unfold operNetadmin
  split_ifs <;> rfl

theorem client_operAccount (s : Server) (name password : Text) :
    (s.operAccount name password).2.client = s.client := by
  unfold operAccount
  split
  · rfl
  · dsimp only
    split
    · rfl
    · split_ifs
      · rfl
      · rfl
      · split
        · rfl
        · unfold recordOpered
          split <;> rfl

theorem client_operAttempt (s : Server) (c : ClientRef) (name password : Text) :
    (s.operAttempt c name password).2.client = s.client := by
  unfold operAttempt
  split
  · exact s.client_operNetadmin c password
  · exact s.client_operAccount name password

/-- What an OPER of `c` grants, if anything. -/
def operGrant (s : Server) (c : ClientRef) (params : Option Text) : Option OperGrant :=
  if !(s.client c).registered then none
  else (params.bind operWords).bind fun (name, password) =>
    (s.operAttempt c name password).1.toOption

/-- What it grants to `x`. -/
def operGrantTo (s : Server) (c : ClientRef) (params : Option Text) (x : ClientRef) :
    Option OperGrant := if c = x then s.operGrant c params else none

theorem client_operFailed (s : Server) (c : ClientRef) (name : Text) (r : OperRefusal) :
    (s.operFailed c name r).client = s.client := by
  unfold operFailed
  cases r <;> rfl

theorem rank_commandOper (s : Server) (c : ClientRef) (params : Option Text) (x : ClientRef) :
    ((s.commandOper c params).client x).rank =
      (s.operGrantTo c params x).elim (s.client x).rank (s.client x).rank.grant := by
  have hrefused : s.operGrant c params = none → ∀ s' : Server, s'.client = s.client →
      (s'.client x).rank = (s.operGrantTo c params x).elim (s.client x).rank (s.client x).rank.grant := by
    intro hnone s' hclient
    unfold operGrantTo
    rw [hnone, ite_self, hclient]
    rfl
  unfold commandOper
  split
  · rename_i hreg
    exact hrefused (if_pos hreg) _ rfl
  · rename_i hreg
    split
    · rename_i hwords
      refine hrefused ?_ _ rfl
      rw [operGrant, if_neg hreg, hwords]
      rfl
    · rename_i name password hwords
      have hclient := s.client_operAttempt c name password
      have hgrant : s.operGrant c params = (s.operAttempt c name password).1.toOption := by
        rw [operGrant, if_neg hreg, hwords]
        rfl
      cases hattempt : s.operAttempt c name password with
      | mk result s' =>
        rw [hattempt] at hclient hgrant
        cases result with
        | error r => exact hrefused hgrant _ ((s'.client_operFailed c name r).trans hclient)
        | ok g =>
          have hrank : ((s'.operGranted c g).client x).rank =
              ((s'.updClient c (·.grantOper g)).client x).rank := rfl
          dsimp only at hclient ⊢
          rw [hrank, rank_updClient, hclient, Client.rank_grantOper]
          unfold operGrantTo
          rw [hgrant]
          by_cases hx : x = c
          · rw [if_pos hx, if_pos hx.symm, hx]
            rfl
          · rw [if_neg hx, if_neg (Ne.symm hx)]
            rfl

/-! ## 6. SAMODE -/

/-- The letters a SAMODE of `c` sets on the client `x`. -/
def samodeLetters (s : Server) (c : ClientRef) (params : Option Text) (x : ClientRef) :
    List (Bool × Char) :=
  if !(s.client c).registered || OperPermission.override ∉ (s.client c).operPermissions then []
  else (((params.bind strtokSpace).bind fun (target, tail) => (strtokRest tail).bind fun rest =>
    if startsChannel target || s.findNick target != some x then none
    else (strtokSpace rest).map fun modes => signedLetters true modes.1)).getD []

theorem rank_samodeUser (s : Server) (c subject x : ClientRef) (modes : Text) :
    ((s.samodeUser c subject (some modes)).client x).rank =
      (if subject = x then signedLetters true modes else []).foldl Rank.letter (s.client x).rank := by
  have hletter : ∀ (s : Server) l, ((samodeUserLetter c subject s l).client x).rank =
      if subject = x then (s.client x).rank.letter l else (s.client x).rank := by
    intro s l
    unfold samodeUserLetter
    split
    · rename_i hnone
      have hl : l.2 ≠ 'h' := by
        intro hl
        rw [hl] at hnone
        cases hnone
      have hsame : (s.client x).rank.letter l = (s.client x).rank := if_neg (by simpa using hl)
      rw [hsame, ite_self]
      rfl
    · rename_i bit hbit
      rw [rank_updClient, Client.rank_setMode_allowed _ hbit]
      by_cases hx : x = subject
      · rw [if_pos hx, if_pos hx.symm, hx]
      · rw [if_neg hx, if_neg (Ne.symm hx)]
  have hfold : ∀ (ls : List (Bool × Char)) (s : Server),
      ((ls.foldl (samodeUserLetter c subject) s).client x).rank =
        (if subject = x then ls else []).foldl Rank.letter (s.client x).rank := by
    intro ls
    induction ls with
    | nil => intro s; rw [ite_self]; rfl
    | cons l ls ih =>
      intro s
      rw [List.foldl_cons, ih, hletter]
      split_ifs <;> rfl
  exact hfold _ s

theorem sameRanks_samodeChannel (s : Server) (c : ClientRef) (ch : ChannelRef) (target rest : Text) :
    s.SameRanks (s.samodeChannel c ch target rest) := by
  have hraise : s.SameRanks (s.samodeRaise c ch) := s.sameRanks_addToChannel ch c
  have hcore : s.SameRanks ((s.samodeRaise c ch).commandModeCore c
      (some (target ++ ' ' :: rest))) :=
    commandModeCore_induct (P := SameRanks s) (fun _ _ _ h => h)
      (fun _ _ hf h => h.updClient (hf _).rank) (fun _ _ _ _ h => h)
      (fun _ _ _ _ _ _ _ _ => loopsKeep_sameRanks s c _ _ _ _ _ hraise) hraise
  unfold samodeChannel samodeRestore
  dsimp only
  split
  · exact hcore.trans (sameRanks_removeFromChannel _ ch c)
  · exact hcore

theorem rank_commandSamode (s : Server) (c : ClientRef) (params : Option Text) (x : ClientRef) :
    ((s.commandSamode c params).client x).rank =
      (s.samodeLetters c params x).foldl Rank.letter (s.client x).rank := by
  unfold commandSamode withOverride samodeLetters
  split
  · rename_i hreg
    rw [if_pos (by rw [hreg]; rfl)]
    rfl
  · rename_i hreg
    split
    · rename_i hover
      rw [if_pos (by simp [hover])]
      rfl
    · rename_i hover
      rw [if_neg (by simp [hreg, hover])]
      cases params.bind strtokSpace with
      | none => rfl
      | some words =>
        obtain ⟨target, tail⟩ := words
        dsimp only [Option.bind_some]
        cases strtokRest tail with
        | none => rfl
        | some rest =>
          dsimp only [Option.bind_some]
          split
          · rename_i hstarts
            rw [if_pos (by rw [hstarts]; rfl)]
            split
            · rfl
            · split
              · split
                · rfl
                · exact s.sameRanks_samodeChannel c _ target rest x
              · exact s.sameRanks_samodeChannel c _ target rest x
          · rename_i hstarts
            cases s.findNick target with
            | none => simp [hstarts]; rfl
            | some subject =>
              cases strtokSpace rest with
              | none => simp [samodeUser]; rfl
              | some modes =>
                dsimp only [Option.map_some]
                rw [rank_samodeUser]
                by_cases hx : subject = x
                · simp [hstarts, hx]
                · simp [hx]

end Server

/-! ## 7. Runs -/

/-- A line with one of the three commands. -/
inductive OperLine where
  | oper (c : ClientRef) (params : Option Text)
  | mode (c : ClientRef) (params : Option Text)
  | samode (c : ClientRef) (params : Option Text)
  deriving DecidableEq, Repr

namespace OperLine

def exec (s : Server) : OperLine → Server
  | oper c params => s.commandOper c params
  | mode c params => s.dispatchMode c params
  | samode c params => s.commandSamode c params

/-- What a line makes of the rank of `x`. -/
def rank (x : ClientRef) (s : Server) (r : Rank) : OperLine → Rank
  | oper c params => (s.operGrantTo c params x).elim r r.grant
  | mode _ _ => r
  | samode c params => (s.samodeLetters c params x).foldl Rank.letter r

theorem rank_exec (s : Server) (line : OperLine) (x : ClientRef) :
    ((line.exec s).client x).rank = line.rank x s (s.client x).rank := by
  cases line with
  | oper c params => exact s.rank_commandOper c params x
  | mode c params => exact s.sameRanks_dispatchMode c params x
  | samode c params => exact s.rank_commandSamode c params x

/-- The last word on the +h of `x`, where `said` was the one before the line: what `onGrant` reads
    from a grant, or the sign of the last `h` a SAMODE sets. -/
def helpWord (onGrant : OperGrant → Bool) (x : ClientRef) (s : Server) (said : Bool) :
    OperLine → Bool
  | oper c params => (s.operGrantTo c params x).elim said onGrant
  | mode _ _ => said
  | samode c params =>
      (s.samodeLetters c params x).foldl (fun said l => if l.2 == 'h' then l.1 else said) said

/-- A grant of the line to `x` has the permissions whose modes `x` wears. -/
def Widens (x : ClientRef) (s : Server) : OperLine → Prop
  | oper c params => ∀ g, s.operGrantTo c params x = some g →
      (ClientMode.netadmin ∈ (s.client x).modes → OperPermission.netadmin ∈ g.permissions) ∧
        (ClientMode.helpop ∈ (s.client x).modes → OperPermission.helpop ∈ g.permissions)
  | mode _ _ => True
  | samode _ _ => True

end OperLine

/-- +N shows the permission of an administrator, and +h says `help`. -/
structure Client.ShowsRank (cl : Client) (help : Bool) : Prop where
  netadmin : ClientMode.netadmin ∈ cl.modes ↔ OperPermission.netadmin ∈ cl.operPermissions
  helpop : ClientMode.helpop ∈ cl.modes ↔ help = true

/-- The same of a rank. -/
def Rank.Shows (r : Rank) (help : Bool) : Prop :=
  (r.netadmin = true ↔ OperPermission.netadmin ∈ r.permissions) ∧ r.helpop = help

namespace Rank

variable {r : Rank} {help : Bool}

theorem Shows.grant (g : OperGrant)
    (hadmin : r.netadmin = true → OperPermission.netadmin ∈ g.permissions)
    (hhelps : r.helpop = true → OperPermission.helpop ∈ g.permissions) : (r.grant g).Shows g.helps := by
  constructor
  · unfold Rank.grant
    simp only [Bool.or_eq_true, decide_eq_true_eq]
    exact or_iff_right_of_imp hadmin
  · exact Bool.or_eq_right_iff_imp.mpr fun hworn => decide_eq_true (hhelps hworn)

/-- The letters of a SAMODE move +h and the word on it alike, and leave the rest. -/
theorem Shows.letters (h : r.Shows help) (ls : List (Bool × Char)) :
    (ls.foldl Rank.letter r).Shows
      (ls.foldl (fun said l => if l.2 == 'h' then l.1 else said) help) := by
  induction ls generalizing r help with
  | nil => exact h
  | cons l ls ih =>
    have hletter : (r.letter l).Shows (if l.2 == 'h' then l.1 else help) := by
      unfold Rank.letter
      split
      · exact ⟨h.1, rfl⟩
      · exact h
    exact ih hletter

end Rank

theorem Client.showsRank_iff (cl : Client) (help : Bool) : cl.ShowsRank help ↔ cl.rank.Shows help := by
  unfold Rank.Shows Client.rank
  simp only [decide_eq_true_eq]
  constructor
  · exact fun h => ⟨h.netadmin, by cases help <;> simp [h.helpop]⟩
  · rintro ⟨hnetadmin, hhelpop⟩
    exact ⟨hnetadmin, by rw [← hhelpop]; exact decide_eq_true_iff.symm⟩

namespace Server

def runLines (s : Server) (lines : List OperLine) : Server := lines.foldl OperLine.exec s

/-- The last word on the +h of `x` after a run. -/
def helpWord (onGrant : OperGrant → Bool) (x : ClientRef) : Server → Bool → List OperLine → Bool
  | _, said, [] => said
  | s, said, line :: lines =>
      helpWord onGrant x (line.exec s) (line.helpWord onGrant x s said) lines

/-- No grant of the run takes a permission from `x` whose mode it wears. -/
def Widens (x : ClientRef) : Server → List OperLine → Prop
  | _, [] => True
  | s, line :: lines => line.Widens x s ∧ Widens x (line.exec s) lines

/-- One line keeps what the modes show. -/
theorem showsRank_exec {s : Server} {x : ClientRef} {help : Bool} (line : OperLine)
    (hwidens : line.Widens x s) (h : (s.client x).ShowsRank help) :
    ((line.exec s).client x).ShowsRank (line.helpWord OperGrant.helps x s help) := by
  rw [Client.showsRank_iff] at h
  rw [Client.showsRank_iff, OperLine.rank_exec]
  cases line with
  | oper c params =>
    simp only [OperLine.rank, OperLine.helpWord]
    cases hgrant : s.operGrantTo c params x with
    | none => exact h
    | some g =>
      -- what the client wears already, the grant has too
      obtain ⟨hadmin, hhelps⟩ := hwidens g hgrant
      exact .grant g (fun hworn => hadmin (of_decide_eq_true hworn))
        fun hworn => hhelps (of_decide_eq_true hworn)
  | mode c params => exact h
  | samode c params => exact h.letters _

/-- **The modes show the rank.** However OPER, MODE and SAMODE follow each other, a client that
    started without a rank wears +N exactly when its permissions have netadmin, and +h exactly
    when the last of its grants and of the `h` set on it by SAMODE says so, unless a grant took
    away a permission whose mode it wore. -/
theorem modes_show_rank (s : Server) (x : ClientRef) (lines : List OperLine)
    (hpermissions : (s.client x).operPermissions = ∅)
    (hnetadmin : ClientMode.netadmin ∉ (s.client x).modes)
    (hhelpop : ClientMode.helpop ∉ (s.client x).modes) (hwidens : s.Widens x lines) :
    ((s.runLines lines).client x).ShowsRank (s.helpWord OperGrant.helps x false lines) := by
  have hstart : (s.client x).ShowsRank false :=
    ⟨by simp [hnetadmin, hpermissions], by simp [hhelpop]⟩
  clear hpermissions hnetadmin hhelpop
  generalize false = help at hstart ⊢
  induction lines generalizing s help with
  | nil => exact hstart
  | cons line lines ih => exact ih _ hwidens.2 _ (showsRank_exec line hwidens.1 hstart)

/-- `ann`, who may become the administrator or `helper`. -/
def rankless : Server :=
  { Server.initial
      { netadminName := "root".toList, netadminPasswordHash := "pw".toList
        netadminHostmask := "*".toList }
      {} { operators := [{ name := "helper".toList, passwordHash := "hp".toList
                           permissions := "helpop".toList }] } with
    clients := [0]
    client := fun _ => { id := 1, registered := true, nick := "ann".toList, user := "u".toList
                         realIp := "10.0.0.1".toList, displayHost := "h".toList }
    nextClient := 1
    clientsByNick := (ChainedTable.empty 4093 buckets_pos).set "ann".toList 0 }

theorem modes_show_rank_root :
    ((rankless.runLines [.oper 0 (some "root pw".toList),
        .samode 0 (some "ann -h".toList)]).client 0).ShowsRank
      (rankless.helpWord OperGrant.helps 0 false
        [.oper 0 (some "root pw".toList), .samode 0 (some "ann -h".toList)]) :=
  modes_show_rank rankless 0 _ rfl (by decide) (by decide)
    ⟨fun _ _ => ⟨fun h => absurd h (by decide), fun h => absurd h (by decide)⟩, trivial, trivial⟩

/-- Permission and explicit setting do not decide +h, nor the permissions +N: a SAMODE takes +h
    from an operator who keeps the permission, and a second grant without netadmin leaves +N. -/
theorem grant_does_not_decide_modes :
    (∃ lines, lines = [.oper 0 (some "root pw".toList), .samode 0 (some "ann -h".toList)] ∧
      OperPermission.helpop ∈ ((rankless.runLines lines).client 0).operPermissions ∧
      ¬ ((rankless.runLines lines).client 0).ShowsRank
        (decide (OperPermission.helpop ∈ ((rankless.runLines lines).client 0).operPermissions) ||
          rankless.helpWord (fun _ => false) 0 false lines)) ∧
    ∃ lines, lines = [.oper 0 (some "root pw".toList), .oper 0 (some "helper hp".toList)] ∧
      ((rankless.runLines lines).client 0).operPermissions = {.helpop} ∧
      ¬ ((rankless.runLines lines).client 0).ShowsRank
        (decide (OperPermission.helpop ∈ ((rankless.runLines lines).client 0).operPermissions) ||
          rankless.helpWord (fun _ => false) 0 false lines) := by
  refine ⟨⟨_, rfl, by decide +kernel, fun h => ?_⟩, ⟨_, rfl, by decide +kernel, fun h => ?_⟩⟩
  · exact absurd (h.helpop.mpr (by decide +kernel)) (by decide +kernel)
  · exact absurd (h.netadmin.mp (by decide +kernel)) (by decide +kernel)

end Server

end ScratchIrcd
