/-
  File:      ScratchIrcd/NickServ.lean
  Subject:   The commands of NickServ (src/nickserv.c), the commands around them (IDENTIFY and
             NICKSERV: src/commands/identify.c, nickserv.c), and what network administrators do to
             accounts: NSSET and NSDROP (src/commands/nickserv_admin.c).

  No mail is set up (`sendmail_path` is empty), so no token is ever issued and VERIFY and RESET
  find none. Rate limiters answer as `Server.admits` says; what they tell operators is not
  modelled, nor are memos. NICKSERV answers IDENTIFY and LOGOUT itself and never hands them on,
  so the functions of nickserv.c of the same names have no model.
-/
import ScratchIrcd.ChanServ
import ScratchIrcd.Presence

namespace ScratchIrcd

open CText

/-! ## 1. The account of a client -/

/-- `apply_account`: the vhost of the account is shown unless another one is in place. -/
def Client.applyAccount (config : ServerConfig) (ext : External) (a : NickServAccount)
    (cl : Client) : Client :=
  let cl := { cl with accountName := a.name, modes := insert ClientMode.registered cl.modes }
  if !a.vhost.isEmpty then
    if ClientMode.vhost ∉ cl.modes ∨ cl.accountVhostActive then
      { cl with
        displayHost := a.vhost
        modes := insert ClientMode.vhost (cl.modes.erase .cloaked)
        accountVhostActive := true
        history := { cl.history with assignedHosts := a.vhost :: cl.history.assignedHosts } }
    else cl
  else if cl.accountVhostActive then
    { cl with
      accountVhostActive := false
      modes := cl.modes.erase .vhost }.applyCloak config ext
  else cl

/-- LOGOUT, and what NSSET and NSDROP do to a session: no account, and no vhost that came with
    it. -/
def Client.dropAccount (config : ServerConfig) (ext : External) (cl : Client) : Client :=
  let cl := { cl with
    accountName := []
    modes := cl.modes.erase .registered
    saslState := .none }
  if cl.accountVhostActive then
    { cl with
      accountVhostActive := false
      modes := cl.modes.erase .vhost }.applyCloak config ext
  else cl

/-- `service_nickname_reserved`. -/
def serviceNicknameReserved (nick : Text) : Bool :=
  isWord nick "NickServ" || isWord nick "ChanServ" || isWord nick "MemoServ"

/-- `nickserv_config_reserved_nickname`. -/
def configReservedNickname (config : ServerConfig) (nick : Text) : Bool :=
  config.reservedNicks.any fun r => strcasecmpEq r nick

/-- A nickname this client may not take: of a service, or kept for operators. -/
def Client.nicknameReserved (config : ServerConfig) (cl : Client) (nick : Text) : Bool :=
  serviceNicknameReserved nick || (configReservedNickname config nick && !cl.isOper)

/-- `valid_account_name` of nickserv_admin.c. -/
def validAccountName (account : Text) : Bool :=
  !account.isEmpty && decide (account.length ≤ ircNickMax) &&
    !account.any fun x => x == ' ' || x == '\t' || isLineBreak x

/-- `valid_vhost`. -/
def validVhost (vhost : Text) : Bool :=
  decide (vhost.length ≤ ircHostMax) && !vhost.any fun x => x == ' ' || x == '\t' || isLineBreak x

/-- `IRCD_EMAIL_MAX`. -/
def ircdEmailMax : Nat := 254

/-- One `@`, not first, and a dot after it with something on both sides. -/
def emailShape (address : Text) : Bool :=
  match address.span (· != '@') with
  | (name, '@' :: domain) =>
      !name.isEmpty && !domain.isEmpty && !domain.contains '@' &&
        (match domain.reverse.span (· != '.') with
          | (last, '.' :: before) => !last.isEmpty && !before.isEmpty
          | _ => false)
  | _ => false

/-- `valid_email` of nickserv.c. -/
def validEmail (address : Text) : Bool :=
  decide (3 ≤ address.length) && decide (address.length ≤ ircdEmailMax) &&
    (address.all fun x => decide (32 < x.toNat) && x.toNat != 127) && emailShape address

/-- `valid_email` of nickserv_admin.c, where no address is an address too. -/
def validAdminEmail (address : Text) : Bool :=
  decide (address.length ≤ ircdEmailMax) &&
    !(address.any fun x => x == ' ' || x == '\t' || isLineBreak x) &&
    (address.isEmpty || emailShape address)

namespace Server

/-- `nickserv_notice`. -/
def nsNotice (s : Server) (c : ClientRef) (text : String) : Server :=
  s.serviceNotice "NickServ" c text.toList

/-- Who is told of a change of account: members with account-notify, each once, channel by
    channel; `earlier` are the channels gone through. -/
def accountRecipients (s : Server) (c : ClientRef) (earlier : List ChannelRef) :
    List ChannelRef → List ClientRef
  | [] => []
  | ch :: rest =>
      ((s.memberRefs ch).filter fun r =>
        r != c && decide (Capability.accountNotify ∈ (s.client r).capabilities) &&
          !earlier.any fun e => s.inChannel e r) ++ accountRecipients s c (ch :: earlier) rest

/-- `ircv3_account_notify`. -/
def accountNotify (s : Server) (c : ClientRef) : Server :=
  if !(s.client c).registered then s
  else s.deliver ((s.accountRecipients c [] (s.client c).channels).map fun r =>
    (r, ⟨s.userSource c, .account (s.shownAccount c)⟩))

/-- After the account of a client changed: tell the others, bring its memberships in step. -/
def accountChanged (s : Server) (c : ClientRef) : Server := (s.accountNotify c).syncClient c

/-! ## 2. IDENTIFY and LOGOUT -/

/-- `record_successful_identify`. -/
def recordIdentify (s : Server) (account : Text) : Server :=
  match s.storage.nickservDbOpen with
  | (false, d) => { s with storage := d }
  | (true, d) => { s with storage := (d.nickservDbSetLastIdentified account s.now).2 }

/-- `nickserv_identify`. -/
def nickservIdentify (s : Server) (c : ClientRef) (account password : Text) : Bool × Server :=
  let own := (s.client c).accountName
  if account.isEmpty || password.isEmpty then (false, s)
  else if !own.isEmpty && !strcasecmpEq own account then (false, s)
  else match s.enabledAccount account with
    | (none, s) => (false, s)
    | (some a, s) =>
        if !s.admitOk then (false, s.admitTick)
        else if !s.ext.argonVerify a.passwordHash password then (false, s.admitTick)
        else (true, (s.admitTick.recordIdentify a.name).updClient c
          (·.applyAccount s.config s.ext a))

/-- The account and the password of an IDENTIFY: one word is a password for one's own
    nickname. -/
def identifyWords (s : Server) (c : ClientRef) (params : Text) : Option (Text × Text) :=
  (strtokSpace params).map fun (first, rest) =>
    match strtokRest rest with
    | none => ((s.client c).nick, first)
    | some second => (first, second.dropWhile (· == ' '))

/-- `command_identify` and `handle_identify_alias` once there is a password. -/
def identifyRequest (s : Server) (c : ClientRef) (words : Text × Text) (refuse : String) :
    Server :=
  match s.nickservIdentify c words.1 words.2 with
  | (true, s') =>
      let s' := if (s.client c).accountName.isEmpty then s'.accountChanged c else s'
      s'.nsNotice c "Password accepted - you are now identified."
  | (false, s') => s'.nsNotice c refuse

/-- `command_identify` of commands/identify.c. -/
def commandIdentify (s : Server) (c : ClientRef) (params : Option Text) : Server :=
  if !(s.client c).registered then s.notRegistered c
  else match params.bind (s.identifyWords c) with
    | none => s.needMoreParams c "IDENTIFY"
    | some words => s.identifyRequest c words "Password incorrect or account unavailable."

/-- `handle_identify_alias`: without a password it says nothing. -/
def identifyAlias (s : Server) (c : ClientRef) (params : Option Text) : Server :=
  match params.bind (s.identifyWords c) with
  | none => s
  | some words => s.identifyRequest c words
      "Password incorrect, account unavailable, or authentication throttled."

/-- A session loses its account. -/
def endSession (s : Server) (c : ClientRef) : Server :=
  (s.updClient c (·.dropAccount s.config s.ext)).accountChanged c

/-- `handle_logout_alias`. -/
def logoutAlias (s : Server) (c : ClientRef) (params : Option Text) : Server :=
  if params.any fun p => !p.isEmpty then s.nsNotice c "Syntax: LOGOUT"
  else if (s.client c).accountName.isEmpty then s.nsNotice c "You are not identified to an account."
  else (s.endSession c).nsNotice c "You are now logged out of your account."

/-! ## 3. REGISTER -/

/-- The record `command_register` writes. -/
def newAccount (s : Server) (c : ClientRef) (hash : Text) : NickServAccount :=
  { name := bounded ircNickMax (cString (s.client c).nick), passwordHash := hash
    lastIdentifiedAt := s.now }

/-- `command_register` after the limiter: hash, add, identify. -/
def registerAccount (s : Server) (c : ClientRef) (password : Text) : Server :=
  match s.ext.argonHash password with
  | none => s.nsNotice c "Nickname registration failed."
  | some hash =>
    let a := s.newAccount c hash
    match s.storage.nickservDbAdd a with
    | (false, d) => { s with storage := d }.nsNotice c "Nickname registration failed."
    | (true, d) => ({ s with storage := d }.updClient c
        (·.applyAccount s.config s.ext a)).nsNotice c "Nickname registered and identified."

/-- `command_register`. -/
def nickservRegister (s : Server) (c : ClientRef) (password : Text) : Server :=
  let nick := (s.client c).nick
  if password.isEmpty then s.nsNotice c "Syntax: REGISTER <password>"
  else if nick.isEmpty then s.nsNotice c "You must have a nickname before registering."
  else if !(s.client c).accountName.isEmpty then
    s.nsNotice c "You are already identified to an account."
  else if (s.client c).nicknameReserved s.config nick then
    s.numeric c 437 [nick, lit ":is a reserved nick"]
  else match s.storage.nickservDbOpen with
    | (false, d) => { s with storage := d }.nsNotice c "Account database is unavailable."
    | (true, d) =>
      match d.nickservDbGet nick with
      | (some (some _), d) =>
          { s with storage := d }.nsNotice c "That nickname is already registered."
      | (none, d) => { s with storage := d }.nsNotice c "Account lookup failed."
      | (some none, d) =>
          let s := { s with storage := d }
          if !s.admitOk then
            s.admitTick.nsNotice c "Password hashing rate limit reached; try again later."
          else s.admitTick.registerAccount c password

/-! ## 4. RECOVER and GHOST -/

/-- `recover_authorized`. -/
def recoverAuthorized (s : Server) (c : ClientRef) (nick : Text) : Bool × Server :=
  let own := (s.client c).accountName
  if own.isEmpty || !strcasecmpEq own nick then (false, s)
  else
    let (a, s) := s.enabledAccount nick
    (a.isSome, s)

/-- The nickname a session is renamed to. -/
def guestNick (s : Server) (target : ClientRef) : Text :=
  bounded ircNickMax ("Guest".toList ++ decimal (s.client target).id)

/-- Put a client under another nickname in the table. -/
def rename (s : Server) (c : ClientRef) (nick : Text) : Server :=
  { s with clientsByNick := (s.clientsByNick.remove (s.client c).nick).set nick c }.updClient c
    fun cl => { cl with nick := nick }

/-- `recover_rename`: the NICK line goes to each channel of the target in turn. -/
def recoverRename (s : Server) (target : ClientRef) : Bool × Server :=
  let guest := s.guestNick target
  if (s.findNick guest).isSome then (false, s)
  else
    let line : Line := ⟨s.userSource target, .nick guest⟩
    let s := s.rename target guest
    let s := (s.client target).channels.foldl (fun s ch => s.broadcast ch none line) s
    (true, s.serviceNotice "NickServ" target
      ("Your nickname was recovered by its registered owner; you are now ".toList ++ guest ++ ['.']))

/-- `command_recover` on a session that is not the client's own. -/
def recoverTarget (s : Server) (c target : ClientRef) (kill ghost : Bool) : Server :=
  if kill then
    (s.disconnect target ("NickServ ".toList ++ (if ghost then "GHOST" else "RECOVER").toList ++
      " by ".toList ++ (s.client c).accountName)).nsNotice c "Nickname session disconnected."
  else match s.recoverRename target with
    | (true, s) => s.nsNotice c "Nickname recovered; the previous user was safely renamed."
    | (false, s) => s.nsNotice c "Unable to recover that nickname."

/-- `command_recover`, for RECOVER and its alias GHOST. -/
def nickservRecover (s : Server) (c : ClientRef) (params : Text) (ghost : Bool) : Server :=
  let refused := s.nsNotice c
    (if ghost then "Syntax: GHOST <nick>" else "Syntax: RECOVER <nick> [KILL]")
  match strtokSpace params with
  | none => refused
  | some (nick, rest) =>
      let action := (strtokSpace rest).map (·.1)
      let kill := ghost || action.any fun a => isWord a "KILL"
      if !ghost && action.isSome && !kill then refused
      else match s.recoverAuthorized c nick with
        | (false, s) => s.nsNotice c "You must be identified to that registered account."
        | (true, s) =>
          match s.findNick nick with
          | none => s.nsNotice c "That nickname is not currently in use."
          | some target =>
              if target = c then s.nsNotice c "You are already using that nickname."
              else s.recoverTarget c target kill ghost

/-! ## 5. SET, VERIFY and RESET -/

/-- `command_set_password`. -/
def nickservSetPassword (s : Server) (c : ClientRef) (password : Text) : Server :=
  let own := (s.client c).accountName
  let failed (s : Server) : Server := s.nsNotice c "Password change failed."
  if own.isEmpty then s.nsNotice c "You must identify before changing your password."
  else if password.isEmpty then s.nsNotice c "Syntax: SET PASSWORD <new-password>"
  else if !s.admitOk then
    s.admitTick.nsNotice c "Password hashing rate limit reached; try again later."
  else
    let s := s.admitTick
    match s.ext.argonHash password with
    | none => failed s
    | some hash =>
      match s.storage.nickservDbOpen with
      | (false, d) => failed { s with storage := d }
      | (true, d) =>
        match d.nickservDbSetPassword own hash with
        | (false, d) => failed { s with storage := d }
        | (true, d) => { s with storage := d }.nsNotice c "Password changed."

/-- `command_set_email`. -/
def nickservSetEmail (s : Server) (c : ClientRef) (address : Text) : Server :=
  if (s.client c).accountName.isEmpty then
    s.nsNotice c "You must identify before setting an email address."
  else if !validEmail address then s.nsNotice c "Syntax: SET EMAIL <address>"
  else s.nsNotice c "Email services are not configured on this server."

/-- SET of `nickserv_handle_message`. -/
def nickservSet (s : Server) (c : ClientRef) (params : Text) : Server :=
  let syntaxHelp := s.nsNotice c "Syntax: SET PASSWORD <new-password>  OR  SET EMAIL <address>"
  match setWords params with
  | none => syntaxHelp
  | some (field, value) =>
      if isWord field "PASSWORD" then s.nickservSetPassword c value
      else if isWord field "EMAIL" then s.nickservSetEmail c value
      else syntaxHelp

/-- `command_verify`: one look at the database, which holds no token. -/
def nickservVerify (s : Server) (c : ClientRef) (token : Text) : Server :=
  if (s.client c).accountName.isEmpty then
    s.nsNotice c "You must identify before verifying an email address."
  else if token.isEmpty then s.nsNotice c "Syntax: VERIFY <token>"
  else match s.storage.nickservDbOpen with
    | (false, d) => { s with storage := d }.nsNotice c "Account database is unavailable."
    | (true, d) =>
        { s with storage := d.tick }.nsNotice c "Verification token is invalid or expired."

/-- `command_reset`. -/
def nickservReset (s : Server) (c : ClientRef) (params : Text) : Server :=
  match strtokSpace params with
  | none => s.nsNotice c "Syntax: RESET <nick>  OR  RESET <nick> <token> <new-password>"
  | some (_, rest) =>
    match strtokSpace rest with
    | none => s.nsNotice c ("If that account exists and has a verified email address, a password " ++
        "reset message has been queued.")
    | some (_, rest) =>
        if rest.isEmpty then s.nsNotice c "Syntax: RESET <nick> <token> <new-password>"
        else if !s.admitOk then
          s.admitTick.nsNotice c "Password hashing rate limit reached; try again later."
        else
          let s := s.admitTick
          let failed (s : Server) : Server := s.nsNotice c "Reset token is invalid or expired."
          match s.ext.argonHash (rest.dropWhile (· == ' ')) with
          | none => failed s
          | some _ =>
            match s.storage.nickservDbOpen with
            | (false, d) => failed { s with storage := d }
            | (true, d) => failed { s with storage := d.tick }

/-! ## 6. The NICKSERV command -/

/-- `nickserv_handle_message`. -/
def nickservHandleMessage (s : Server) (c : ClientRef) (command rest : Text) : Server :=
  if isWord command "REGISTER" then s.nickservRegister c rest
  else if isWord command "RECOVER" then s.nickservRecover c rest false
  else if isWord command "GHOST" then s.nickservRecover c rest true
  else if isWord command "RESET" then s.nickservReset c rest
  else if isWord command "VERIFY" then s.nickservVerify c rest
  else if isWord command "SET" then s.nickservSet c rest
  else if isWord command "HELP" then s.nsNotice c ("Commands: REGISTER, IDENTIFY, LOGOUT, RECOVER, " ++
    "GHOST, SET PASSWORD, SET EMAIL, VERIFY, RESET")
  else s.nsNotice c "Unknown command. Use HELP."

/-- `recover_target_before`: the session a RECOVER without KILL is about. -/
def recoverTargetBefore (s : Server) (command rest : Text) : Option ClientRef :=
  match strtokSpace rest with
  | none => none
  | some (nick, rest) =>
      if isWord command "RECOVER" && (strtokSpace rest).isNone then s.findNick nick else none

/-- `recover_presence_after`, for a session whose nickname was `old`. -/
def recoverPresenceAfter (s : Server) (target : ClientRef) (old : Text) : Server :=
  if old.isEmpty || !s.clients.contains target || (s.client target).nick == old then s
  else ((s.whowasRecord target old).watchOffline target old).watchOnline target

/-- The presence of the session a RECOVER was about, if it was about one. -/
def recoverDone (s : Server) : Option (ClientRef × Text) → Server
  | none => s
  | some (target, old) => s.recoverPresenceAfter target old

/-- What NICKSERV does after `nickserv_handle_message` when the client has an account now. -/
def registrationDone (s : Server) (c : ClientRef) (registering : Bool) : Server :=
  let s := s.accountChanged c
  if !registering then s
  else
    let s := if ClientMode.netadmin ∈ (s.client c).modes then s else s.admitTick
    s.snotice {.registrations} ("NickServ registration: account=".toList ++
      (s.client c).accountName ++ " nick=".toList ++ (s.client c).nick ++ " real_ip=".toList ++
      (s.client c).realIp)

/-- `command_nickserv_message` after the throttles. -/
def nickservServe (s : Server) (c : ClientRef) (command rest : Text) : Server :=
  let was := (s.client c).accountName
  let target := (s.recoverTargetBefore command rest).map fun r => (r, (s.client r).nick)
  let s' := (s.nickservHandleMessage c command rest).recoverDone target
  let now := (s'.client c).accountName
  if was.isEmpty && !now.isEmpty then s'.registrationDone c (isWord command "REGISTER")
  else if !was.isEmpty && now.isEmpty then s'.accountChanged c
  else s'

/-- `command_nickserv_message`; the first registration throttle is asked before the work. -/
def nickservMessage (s : Server) (c : ClientRef) (text : Text) : Server :=
  match strtokSpace text with
  | none => s
  | some (command, rest) =>
      let words := (strtokRest rest).map fun r => r.dropWhile (· == ' ')
      if isWord command "IDENTIFY" then s.identifyAlias c words
      else if isWord command "LOGOUT" then s.logoutAlias c words
      else if isWord command "REGISTER" && (s.client c).accountName.isEmpty &&
          decide (ClientMode.netadmin ∉ (s.client c).modes) then
        if !s.admitOk then s.admitTick.nsNotice c
          "Registration rate limit reached for your IP address; try again later."
        else s.admitTick.nickservServe c command (words.getD [])
      else s.nickservServe c command (words.getD [])

/-- `command_nickserv`. -/
def commandNickserv (s : Server) (c : ClientRef) (params : Option Text) : Server :=
  if !(s.client c).registered then s.notRegistered c
  else match params.bind strtokRest with
    | none => s.needMoreParams c "NICKSERV"
    | some params => s.nickservMessage c params

/-! ## 7. Accounts in the hands of administrators -/

/-- `clear_live_account`. -/
def clearLiveAccount (s : Server) (account : Text) : Server :=
  if !validAccountName account then s
  else s.clients.foldl (fun s c =>
    let own := (s.client c).accountName
    if !own.isEmpty && strcasecmpEq own account then s.endSession c else s) s

/-- `collect_founded_channels`: name and successor of every enabled row the account founded. -/
def foundedChannels (s : Server) (account : Text) : Option (List (Text × Text)) × Server :=
  let d := s.storage
  let rows := d.chanserv.channels.filter fun r => r.enabled && nocaseEq r.founder account
  let readable := rows.all fun r =>
    columnFits ircChannelNameMax r.name && columnFits ircNickMax r.successor
  (if d.ioOk && readable then some (rows.map fun r => (r.name, r.successor)) else none,
    { s with storage := d.tick })

/-- `nickserv_account_enabled`. -/
def accountEnabled (s : Server) (account : Text) : Bool × Server :=
  if !validAccountName account then (false, s)
  else
    let (a, s) := s.enabledAccount account
    (a.isSome, s)

/-- The founder of one channel is gone: its successor takes over, or the registration ends. -/
def succeed (account : Text) (s : Server) (item : Text × Text) : Server :=
  let (name, successor) := item
  let (enabled, s) := s.accountEnabled successor
  if enabled && !strcasecmpEq successor account then
    match s.storage.chanservDbSetFounder name successor with
    | (false, d) => { s with storage := d }
    | (true, d) =>
      match d.chanservDbSetSuccessor name [] with
      | (false, d) => { s with storage := d }
      | (true, d) => ({ s with storage := d }.snotice {Snotice.services}
          ("ChanServ successor promoted: channel=".toList ++ name ++ " old_founder=".toList ++
            account ++ " new_founder=".toList ++ successor)).refreshRegistration name
  else match s.storage.chanservDbSetEnabled name false with
    | (false, d) => { s with storage := d }
    | (true, d) => ({ s with storage := d }.snotice {Snotice.services}
        ("ChanServ registration disabled: channel=".toList ++ name ++ " orphaned_founder=".toList ++
          account)).refreshRegistration name

/-- `handle_chanserv_founder_account_removed`. -/
def founderRemoved (s : Server) (account : Text) : Server :=
  if !validAccountName account then s
  else match s.storage.chanservDbOpen with
    | (false, d) => { s with storage := d }
    | (true, d) =>
      match { s with storage := d }.foundedChannels account with
      | (none, s) => s
      | (some items, s) => items.foldl (succeed account) s

/-- One of the names that IRCNOCASE takes for equal, the first. -/
def distinctNames (names : List Text) : List Text :=
  names.foldl (fun acc n => if acc.any (nameEq n) then acc else acc ++ [n]) []

/-- The SELECT of `collect_account_reference_channels`, whose UNION sorts. The column `successor`
    has the default collation, which compares byte by byte; `account` has NOCASE. -/
def referencedNames (st : ChanServStore) (account : Text) : List Text :=
  let named := (st.channels.filter fun r => r.successor == account).map (·.name)
  let listed := (st.access.filter fun a => nocaseEq a.account account).map (·.channel)
  (distinctNames (named ++ listed)).mergeSort (foldLe ircFold)

/-- `collect_account_reference_channels`. -/
def referencedChannels (s : Server) (account : Text) : Option (List Text) × Server :=
  let d := s.storage
  let names := referencedNames d.chanserv account
  (if d.ioOk && names.all (columnFits ircChannelNameMax) then some names else none,
    { s with storage := d.tick })

/-- `UPDATE channels SET successor='' WHERE successor=?`, on one row. -/
def clearSuccessor (account : Text) (r : ChanServChannel) : ChanServChannel :=
  if r.successor == account then { r with successor := [] } else r

/-- The transaction of `remove_chanserv_account_references`: BEGIN, UPDATE, DELETE, COMMIT; a
    failure rolls everything back. -/
def dropReferences (d : Storage) (account : Text) : Bool × Storage :=
  let st := d.chanserv
  let cleared := { st with
    channels := st.channels.map (clearSuccessor account)
    access := st.access.filter fun a => !nocaseEq a.account account }
  if !d.ioOk then (false, d.tick)
  else if !d.tick.ioOk then (false, d.tick.tick)
  else if !d.tick.tick.ioOk then (false, d.tick.tick.tick)
  else if !d.tick.tick.tick.ioOk then (false, d.tick.tick.tick.tick)
  else (true, { d.tick.tick.tick.tick with chanserv := cleared })

/-- `remove_chanserv_account_references`. -/
def removeReferences (s : Server) (account : Text) : Server :=
  if !validAccountName account then s
  else match s.storage.chanservDbOpen with
    | (false, d) => { s with storage := d }
    | (true, d) =>
      match { s with storage := d }.referencedChannels account with
      | (none, s) => s
      | (some names, s) =>
        match dropReferences s.storage account with
        | (false, d) => { s with storage := d }
        | (true, d) => names.foldl refreshRegistration { s with storage := d }

/-- What one field of NSSET writes; the canonical name and whether it disables the account are
    known for ENABLED only. -/
def nssetField (s : Server) (name field value : Text) :
    Bool × Option (Text × Bool) × Storage :=
  let d := s.storage
  if isWord field "PASSWORD" then
    match s.ext.argonHash value with
    | none => (false, none, d)
    | some hash =>
        let (ok, d) := d.nickservDbSetPassword name hash
        (ok, none, d)
  else if isWord field "VHOST" then
    let vhost := if value = ['-'] then [] else value
    if !validVhost vhost then (false, none, d)
    else
      let (ok, d) := d.nickservDbSetVhost name vhost
      (ok, none, d)
  else if isWord field "EMAIL" then
    let email := if value = ['-'] then [] else value
    if !validAdminEmail email then (false, none, d)
    else
      -- the columns of the address are not part of the model
      let (ok, d) := d.updateAccount name id
      (ok, none, d)
  else if isWord field "ENABLED" && (value = ['0'] || value = ['1']) then
    match d.nickservDbGet name with
    | (some (some a), d) =>
        let (ok, d) := d.nickservDbSetEnabled a.name (value == ['1'])
        (ok, some (a.name, a.enabled && value == ['0']), d)
    | (_, d) => (false, none, d)
  else (false, none, d)

/-- NSSET after a successful write. -/
def nssetDone (s : Server) (c : ClientRef) (name field value : Text)
    (known : Option (Text × Bool)) : Server :=
  let account := (known.map (·.1)).getD name
  let detail := if isWord field "PASSWORD" then "PASSWORD changed".toList
    else if isWord field "EMAIL" then "EMAIL changed".toList else value
  let s := if known.any (·.2) then (s.clearLiveAccount account).founderRemoved account else s
  s.snotice {.services} ("NSSET by ".toList ++ (s.client c).nick ++ ": account=".toList ++ account ++
    " field=".toList ++ field ++ " value=".toList ++ detail)

/-- `command_nsset`. -/
def commandNsset (s : Server) (c : ClientRef) (params : Option Text) : Server :=
  s.withNetadmin c <|
    match params.bind strtokSpace with
    | none => s.needMoreParams c "NSSET"
    | some (name, rest) =>
      match setWords rest with
      | none => s.needMoreParams c "NSSET"
      | some (field, value) =>
          if value.isEmpty then s.needMoreParams c "NSSET"
          else match s.storage.nickservDbOpen with
            | (false, d) => { s with storage := d }.adminNotice c "NSSET failed."
            | (true, d) =>
              match { s with storage := d }.nssetField name field value with
              | (false, _, d) => { s with storage := d }.adminNotice c "NSSET failed."
              | (true, known, d) => ({ s with storage := d }.adminNotice c
                  "NickServ account updated.").nssetDone c name field value known

/-- NSDROP after the account is deleted. -/
def nsdropDone (s : Server) (c : ClientRef) (account : Text) : Server :=
  let s := ((s.clearLiveAccount account).founderRemoved account).removeReferences account
  (s.adminNotice c "NickServ account deleted.").snotice {.services}
    ("NSDROP by ".toList ++ (s.client c).nick ++ ": account=".toList ++ account)

/-- The account of that name, read and then deleted under its own spelling. -/
def dropAccountRow (d : Storage) (name : Text) : Option NickServAccount × Storage :=
  match d.nickservDbOpen with
  | (false, d) => (none, d)
  | (true, d) =>
    match d.nickservDbGet name with
    | (some (some a), d) =>
        let (ok, d) := d.nickservDbDelete a.name
        (if ok then some a else none, d)
    | (_, d) => (none, d)

/-- `command_nsdrop`. -/
def commandNsdrop (s : Server) (c : ClientRef) (params : Option Text) : Server :=
  s.withNetadmin c <|
    match (params.bind strtokSpace).map (·.1) with
    | none => s.needMoreParams c "NSDROP"
    | some name =>
      match dropAccountRow s.storage name with
      | (none, d) => { s with storage := d }.adminNotice c "NSDROP failed."
      | (some a, d) => { s with storage := d }.nsdropDone c a.name

end Server

end ScratchIrcd
