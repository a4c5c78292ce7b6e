/-
  File:      ScratchIrcd/Registration.lean
  Subject:   From a connection to a registered client (src/commands/common.c, nick.c, user.c,
             pass.c, cap.c, ping.c, src/nospoof.c), the answers of the resolvers and the timeouts
             (src/server.c), and the run of it all.

  A client the server wants to be rid of (`shutdown`) stays until its socket is seen closed; that
  is the event `disconnect`. What registration sends after 004 (ISUPPORT and the MOTD) is not
  modelled, nor are the PINGs that keep a connection alive.
-/
import ScratchIrcd.Network
import ScratchIrcd.Watch
import ScratchIrcd.Lib.Runs

namespace ScratchIrcd

open CText

/-! ## 1. Bans at registration -/

/-- `IRCD_VERSION`, `IRCD_CREATED`, and the two lists of mode letters that 004 ends with
    (`IRCD_SUPPORTED_USER_MODES`, `IRCD_SUPPORTED_CHANNEL_MODES`): include/config.h has them empty. -/
def ircdVersion : Text := "ScratchIRCd-0.34".toList
def ircdCreated : Text := "August 2026".toList
def ircdSupportedUserModes : Text := []
def ircdSupportedChannelModes : Text := []

/-- `IRC_DEFAULT_QUIT_REASON`. -/
def ircDefaultQuitReason : Text := "Client quit".toList

/-- `IRCD_DNSBL_NAME_MAX`, `SERVER_DNSBL_REASON_ZONE_MAX`, `SERVER_DNSBL_SET_BY_NAME_MAX`. -/
def ircdDnsblNameMax : Nat := 63
def serverDnsblReasonZoneMax : Nat := 255 - 6 - 63 - 3
def serverDnsblSetByNameMax : Nat := 63 - 6

/-- `geoban_type_name`. -/
def GeoBanType.typeName : GeoBanType → String
  | .country => "COUNTRY"
  | .region => "REGION"
  | .asn => "ASN"
  | .org => "ORG"

namespace Client

/-- `user@real_ip`, `user@real_host`. -/
def ipIdentity (cl : Client) : Text := cl.user ++ '@' :: cl.realIp

def hostIdentity (cl : Client) : Text := cl.user ++ '@' :: cl.realHost

/-- The two identities KLINE rows and their exemptions are matched against. -/
def klineIdentities (cl : Client) : List Text :=
  [if cl.realHost.isEmpty then cl.ipIdentity else cl.hostIdentity, cl.ipIdentity]

/-- The verified host; it is shown unless a cloak or a vhost is. -/
def resolved (host : Text) (cl : Client) : Client :=
  let cl := { cl with dnsState := .verified, realHost := bounded ircHostMax host }
  if ClientMode.cloaked ∈ cl.modes ∨ ClientMode.vhost ∈ cl.modes then cl
  else { cl with displayHost := cl.realHost }

/-- The client as notices to operators name it. -/
def registrant (cl : Client) : Text :=
  cl.replyNick ++ '!' :: cl.user ++ '@' :: cl.displayHost ++ " [real_ip=".toList ++ cl.realIp ++ [']']

end Client

namespace Server

/-- The client is told that it is banned, and its socket is shut down. -/
def rejectRegistration (s : Server) (c : ClientRef) (reason : Text) : Server :=
  (s.replyNumeric c 465 [(":You are banned from this server.  Mail ".toList ++
    s.config.adminEmail ++ " for more information".toList : Text)]).updClient c
    fun cl => { cl with quitReason := bounded ircQuitReasonMax reason }

/-- The PING that asks for the cookie. -/
def challenge (s : Server) (c : ClientRef) (cookie : Text) : Server :=
  (s.updClient c fun cl => { cl with nospoofStarted := true }).send c
    ⟨.bare, .raw { text := "PING :".toList ++ cookie }⟩

/-- The checks of `command_maybe_register` on the client's own state. -/
def mayRegister (s : Server) (c : ClientRef) : Bool :=
  let cl := s.client c
  !cl.registered && !cl.nick.isEmpty && !cl.user.isEmpty && !cl.capNegotiating &&
    cl.dnsState != .pending && cl.dnsState != .none &&
    (s.config.serverPassword.isEmpty || cl.passAccepted) &&
    (!s.config.nospoofEnabled || (cl.nospoofStarted && cl.nospoofVerified))

/-- The last part of `command_maybe_register`. -/
def completeRegistration (s : Server) (c : ClientRef) : Server :=
  let s := s.updClient c fun cl => { cl.applyCloak s.config s.ext with
    registered := true
    history := { cl.history with everRegistered := true } }
  let cl := s.client c
  let welcome : Field :=
    { text := ":Welcome to the ".toList ++ s.config.networkName ++ " IRC Network ".toList ++
        cl.identity
      hosts := [(c, cl.displayHost)] }
  let s := s.numeric c 1 [welcome]
  let s := s.numeric c 2 [(":Your host is ".toList ++ s.config.serverName ++
    " running version ".toList ++ ircdVersion : Text)]
  let s := s.numeric c 3 [(":This server was created ".toList ++ ircdCreated : Text)]
  let s := s.numeric c 4 [s.config.serverName, ircdVersion, ircdSupportedUserModes,
    ircdSupportedChannelModes]
  (s.watchOnline c).snotice {.connections} ("Client registered: ".toList ++ cl.identity ++
    " [real_ip=".toList ++ cl.realIp ++ " real_host=".toList ++
    (if cl.realHost.isEmpty then ['-'] else cl.realHost) ++
    (if cl.webircActive then " webirc" else "").toList ++ [']'])

end Server

namespace Network

/-- The first active row that is against the client, and whether an ELINE exempts from it. -/
def geoVerdict (n : Network) (c : ClientRef) : Option (GeoBanRecord × Bool) :=
  let cl := n.server.client c
  if !n.bans.readable then none
  else (n.bans.geoBanMatch n.server.now (n.conn c).geoip).map fun r =>
    (r, n.bans.exceptionMatch n.server.ext n.server.now .geoban [cl.realIp, cl.ipIdentity])

def zlineVerdict (n : Network) (c : ClientRef) : Option (BanRecord × Bool) :=
  let cl := n.server.client c
  (n.bans.banMatch n.server.ext n.server.now .zline [cl.realIp]).map fun r =>
    (r, n.bans.exceptionMatch n.server.ext n.server.now .zline [cl.realIp, cl.ipIdentity])

def klineVerdict (n : Network) (c : ClientRef) : Option (BanRecord × Bool) :=
  let cl := n.server.client c
  (n.bans.banMatch n.server.ext n.server.now .kline cl.klineIdentities).map fun r =>
    (r, n.bans.exceptionMatch n.server.ext n.server.now .kline cl.klineIdentities)

/-- A row is against the client and nothing exempts it. -/
def Rejects {α : Type} (verdict : Option (α × Bool)) : Bool := verdict.any fun v => !v.2

/-- `registration_geo_banned`: what is said and done. -/
def registrationGeoBanned (n : Network) (c : ClientRef) : Network :=
  let cl := n.server.client c
  match n.geoVerdict c with
  | none => n
  | some (r, exempt) =>
      let what := cl.registrant ++ " matched ".toList ++ r.type.typeName.toList ++ " \x7b".toList ++
        r.value ++ "\x7d".toList
      if exempt then
        n.onServer fun s => s.snotice {.geobans}
          ("Registration GEOBAN match exempted by ELINE: ".toList ++ what)
      else
        n.onServer fun s => (s.snotice {.geobans} ("Registration rejected by GEOBAN: ".toList ++
          what)).rejectRegistration c
          (if r.reason.isEmpty then "GeoIP policy ban".toList else r.reason)

/-- The notice about a ZLINE or KLINE row that an ELINE exempts from. -/
def noteExempt (n : Network) (c : ClientRef) (family : String) (verdict : Option (BanRecord × Bool)) :
    Network :=
  match verdict with
  | some (r, true) => n.onServer fun s => s.snotice {.bans} ("Registration ".toList ++
      family.toList ++ " match exempted by ELINE: ".toList ++ (s.client c).registrant ++
      " matched ".toList ++ r.mask)
  | _ => n

/-- The refusal of `registration_banned`. -/
def refuseBanned (n : Network) (c : ClientRef) (family : String) (verdict : Option (BanRecord × Bool)) :
    Network :=
  match verdict with
  | some (r, _) => n.onServer fun s => (s.snotice {.bans} ("Registration rejected by ".toList ++
      family.toList ++ ": ".toList ++ (s.client c).registrant ++ " matched ".toList ++
      r.mask)).rejectRegistration c (if r.reason.isEmpty then "Banned".toList else r.reason)
  | none => n

/-- `registration_ban_policy_error`. -/
def banPolicyError (n : Network) (c : ClientRef) : Network :=
  n.onServer fun s => (s.snotice {.security, .bans}
    ("Registration rejected because KLINE/ZLINE policy could not be read safely for ".toList ++
      (s.client c).registrant)).rejectRegistration c "Ban policy database error".toList

/-! ## 2. Registration -/

/-- The GeoIP lookup, made once per address. -/
def lookupGeoip (n : Network) (c : ClientRef) : Network :=
  if (n.conn c).geoipComplete then n
  else n.updConn c fun k => { k with
    geoip := n.platform.geoipLookup (n.server.client c).realIp, geoipComplete := true }

/-- The DNSBL lookup is asked for, if it was not and there is something to ask. -/
def startDnsbl (n : Network) (c : ClientRef) : Network :=
  let cl := n.server.client c
  let become (n : Network) (state : DnsblState) : Network :=
    n.onServer fun s => s.updClient c fun cl => { cl with dnsblState := state }
  if cl.dnsblState ≠ .none then n
  else if n.server.config.dnsblCount = 0 then become n .clear
  else
    let asked := { n with submitted := n.submitted + 1 }
    if n.platform.submits n.submitted then
      (become { asked with dnsblRequests := ⟨cl.id, cl.realIp⟩ :: n.dnsblRequests } .pending).updConn
        c fun k => { k with dnsblDeadline := n.server.now + n.config.dnsblTimeoutSeconds }
    else
      (become asked .error).onServer fun s => s.snotice {.dns, .flood}
        ("DNSBL resolver queue saturated/unavailable for ".toList ++ cl.realIp ++
          "; registration fails open".toList)

/-- `registration_banned` and what follows when it lets the client in. -/
def finishRegistration (n : Network) (c : ClientRef) : Network :=
  if !n.bans.readable then n.banPolicyError c
  else if Rejects (n.zlineVerdict c) then n.refuseBanned c "ZLINE" (n.zlineVerdict c)
  else
    let passed := n.noteExempt c "ZLINE" (n.zlineVerdict c)
    if Rejects (n.klineVerdict c) then passed.refuseBanned c "KLINE" (n.klineVerdict c)
    else (passed.noteExempt c "KLINE" (n.klineVerdict c)).onServer (·.completeRegistration c)

/-- `command_maybe_register`. -/
def maybeRegister (n : Network) (c : ClientRef) : Network :=
  if !n.server.mayRegister c then n
  else
    let located := n.lookupGeoip c
    let judged := located.registrationGeoBanned c
    if Rejects (located.geoVerdict c) then judged
    else
      let asked := judged.startDnsbl c
      let state := (asked.server.client c).dnsblState
      if state = .pending ∨ state = .listed then asked else asked.finishRegistration c

/-! ## 3. The commands of an unregistered client -/

/-- `nospoof_start`. -/
def nospoofStart (n : Network) (c : ClientRef) : Network :=
  let cl := n.server.client c
  if !n.server.config.nospoofEnabled || cl.nospoofStarted || cl.nick.isEmpty then n
  else
    let cookie := n.platform.cookies n.cookiesMade
    let n := { n with cookiesMade := n.cookiesMade + 1 }.onServer fun s =>
      s.updClient c fun cl => { cl with nospoofCookie := cookie }
    if cookie.isEmpty then n
    else
      (n.updConn c fun k => { k with
        nospoofDeadline := n.server.now + n.config.nospoofTimeoutSeconds }).onServer
          (·.challenge c cookie)

end Network

namespace Server

/-- `broadcast_nick_change`: everyone who shares a channel, and then the client. -/
def broadcastNickChange (s : Server) (c : ClientRef) (old : Text) : Server :=
  let cl := s.client c
  let line : Line := ⟨.user c old cl.user cl.displayHost, .nick cl.nick⟩
  s.deliver (((s.clients.filter fun r => r != c && s.shareChannel c r) ++ [c]).map fun r => (r, line))

/-- The name in the table and in the record; the empty nickname is in no table. -/
def takeNick (s : Server) (c : ClientRef) (nick : Text) : Server :=
  let old := (s.client c).nick
  let table := if old.isEmpty then s.clientsByNick else s.clientsByNick.remove old
  { s with clientsByNick := table.set nick c }.updClient c
    fun cl => { cl with nick := nick }

/-- What NICK does for a registered client: presence on both sides of the change. -/
def changeNick (s : Server) (c : ClientRef) (nick : Text) : Server :=
  let old := (s.client c).nick
  let s := ((s.whowasRecord c old).watchOffline c old).takeNick c nick
  ((s.broadcastNickChange c old).watchOnline c).pmstats 802 [(':' :: old ++ ' ' :: nick : Text)]

/-- `request_version`. -/
def requestVersion (s : Server) (c : ClientRef) : Server :=
  let cl := s.client c
  if s.config.nospoofEnabled && cl.nospoofVerified && !cl.versionRequested && !cl.nick.isEmpty then
    (s.send c ⟨.server, .privmsg cl.nick "\x01VERSION\x01".toList⟩).updClient c
      fun cl => { cl with versionRequested := true }
  else s

/-- `:<server> CAP <nick> <subcommand> :<caps>` -/
def sendCap (s : Server) (c : ClientRef) (subcommand : String) (caps : Text) : Server :=
  s.send c ⟨.server, .raw { text := "CAP ".toList ++ (s.client c).replyNick ++ ' ' ::
    subcommand.toList ++ " :".toList ++ caps }⟩

end Server

/-- What USER sets. -/
def Client.withUser (user realname : Text) (cl : Client) : Client :=
  { cl with user := user, realname := realname }

/-- `valid_username`. -/
def validUsername (user : Text) : Bool :=
  !user.isEmpty && decide (user.length ≤ ircUserMax) &&
    user.all fun x => isAsciiAlpha x || x.isDigit || x == '-' || x == '_' || x == '.'

/-- `valid_realname`. -/
def validRealname (realname : Text) : Bool :=
  !realname.isEmpty && decide (realname.length ≤ ircRealnameMax) &&
    realname.all fun x => decide (0x20 ≤ x.toNat) && x.toNat != 0x7f

/-- The table of cap.c. -/
def capabilityTable : List (String × Capability) :=
  [("account-notify", .accountNotify), ("away-notify", .awayNotify), ("batch", .batch),
    ("draft/chathistory", .chathistory), ("extended-join", .extendedJoin),
    ("labeled-response", .labeledResponse), ("message-tags", .messageTags), ("sasl", .sasl),
    ("server-time", .serverTime)]

/-- `capability_bit`. -/
def capabilityBit (name : Text) : Option Capability :=
  (capabilityTable.find? fun entry => entry.1.toList == name).map (·.2)

/-- `CAP_ADVERTISED_LEGACY`, `CAP_ADVERTISED_302`. -/
def capAdvertisedLegacy : Text := joinBlank (capabilityTable.map fun entry => entry.1.toList)

def capAdvertised302 : Text := joinBlank (capabilityTable.map fun entry =>
  if entry.2 = .sasl then "sasl=PLAIN".toList else entry.1.toList)

/-- `enabled_capabilities`. -/
def enabledCapabilities (cl : Client) : Text :=
  joinBlank ((capabilityTable.filter fun entry => entry.2 ∈ cl.capabilities).map fun entry =>
    entry.1.toList)

/-- The loop of `requested_capabilities`; a word starts with `-` to switch off. -/
def requestedLoop : Nat → Text → Finset Capability → Option (Finset Capability)
  | 0, _, proposed => some proposed
  | fuel + 1, request, proposed =>
      match strtokSpace request with
      | none => some proposed
      | some (word, rest) =>
          match word with
          | '-' :: name => (capabilityBit name).bind fun bit =>
              requestedLoop fuel rest (proposed.erase bit)
          | name => (capabilityBit name).bind fun bit =>
              requestedLoop fuel rest (insert bit proposed)

/-- `requested_capabilities`. -/
def requestedCapabilities (cl : Client) (request : Text) : Option (Finset Capability) :=
  if request.isEmpty then none
  else
    match requestedLoop request.length request cl.capabilities with
    | none => none
    | some proposed =>
        if Capability.labeledResponse ∈ proposed ∧ Capability.batch ∉ proposed then none
        else some proposed

/-- Whoever gets labelled responses can read batches. -/
def Client.LabeledIsBatched (cl : Client) : Prop :=
  Capability.labeledResponse ∈ cl.capabilities → Capability.batch ∈ cl.capabilities

/-- `strtoul(text, &end, 10)` without its end: the digits at the front, after blanks and a sign. -/
def leadingNumber (text : Text) : Nat :=
  let value (digits : Text) : Nat := (digitsVal 0 (digits.takeWhile (·.isDigit))).getD 0
  match text.dropWhile isCSpace with
  | '-' :: rest =>
      if 2 ^ 64 ≤ value rest then 2 ^ 64 - 1 else (2 ^ 64 - value rest) % 2 ^ 64
  | '+' :: rest => min (value rest) (2 ^ 64 - 1)
  | rest => min (value rest) (2 ^ 64 - 1)

/-- `clean_param`. -/
def cleanParam (text : Text) : Text := dropColon (text.dropWhile (· == ' '))

/-- The token of a PONG: its last word, without a colon. -/
def pongCookie (params : Text) : Text :=
  let token := cleanParam params
  if token.contains ' ' then cleanParam (token.reverse.takeWhile (· != ' ')).reverse else token

namespace Network

/-- `command_nick`. -/
def nick (n : Network) (c : ClientRef) (params : Option Text) : Network :=
  let cl := n.server.client c
  let refused (code : Nat) (texts : List Field) : Network :=
    n.onServer fun s => s.replyNumeric c code texts
  match params.bind strtokRest with
  | none => refused 431 [lit ":No nickname given"]
  | some params =>
      let wanted := params.takeWhile (· != ' ')
      if !validNickname wanted then
        refused 432 [wanted, lit ":Erroneous Nickname: Illegal characters"]
      else if cl.nicknameReserved n.server.config wanted then
        refused 437 [wanted, lit ":is a reserved nick"]
      else if (n.server.findNick wanted).any (· != c) then
        refused 433 [wanted, lit ":Nickname is already in use."]
      else if cl.registered then
        if cl.nick.isEmpty then n.onServer fun s => s.takeNick c wanted
        else n.onServer fun s => s.changeNick c wanted
      else ((n.onServer fun s => s.takeNick c wanted).nospoofStart c).maybeRegister c

/-- `command_user`. -/
def user (n : Network) (c : ClientRef) (params : Option Text) : Network :=
  let cl := n.server.client c
  let refused (code : Nat) (texts : List Field) : Network :=
    n.onServer fun s => s.replyNumeric c code texts
  let short := refused 461 [lit "USER", lit ":Not enough parameters"]
  if cl.registered || !cl.user.isEmpty then refused 462 [lit ":You may not reregister"]
  else
    match params.bind strtokSpace with
    | none => short
    | some (user, rest) =>
        match (strtokSpace rest).bind fun mode => strtokSpace mode.2 with
        | none => short
        | some (_, rest) =>
            match strtokRest rest with
            | none => short
            | some realname =>
                if !validUsername user || !validRealname (dropColon realname) then
                  refused 468 [lit ":Invalid USER identity"]
                else
                  (n.onServer fun s => s.updClient c (·.withUser user (dropColon realname))).maybeRegister c

/-- `command_pass`. -/
def pass (n : Network) (c : ClientRef) (params : Option Text) : Network :=
  let accepted (ok : Bool) : Network :=
    n.onServer fun s => s.updClient c fun cl => { cl with passAccepted := ok }
  if (n.server.client c).registered then
    n.onServer fun s => s.numeric c 462 [lit ":You may not reregister"]
  else
    match params.bind strtokSpace with
    | none => n.onServer fun s => s.replyNumeric c 461 [lit "PASS", lit ":Not enough parameters"]
    | some (password, _) =>
        if n.server.config.serverPassword.isEmpty || password == n.server.config.serverPassword then
          (accepted true).maybeRegister c
        else (accepted false).onServer fun s => s.replyNumeric c 464 [lit ":Password Incorrect"]

/-- `command_cap`. -/
def cap (n : Network) (c : ClientRef) (params : Option Text) : Network :=
  let negotiating (on : Bool) : Network :=
    n.onServer fun s => s.updClient c fun cl => { cl with capNegotiating := on }
  match params.bind strtokSpace with
  | none => n
  | some (subcommand, rest) =>
      let rest := rest.dropWhile fun x => x == ' ' || x == ':'
      if isWord subcommand "LS" then
        (negotiating true).onServer fun s => s.sendCap c "LS"
          (if 302 ≤ leadingNumber rest then capAdvertised302 else capAdvertisedLegacy)
      else if isWord subcommand "LIST" then
        n.onServer fun s => s.sendCap c "LIST" (enabledCapabilities (s.client c))
      else if isWord subcommand "REQ" then
        match requestedCapabilities (n.server.client c) rest with
        | some proposed => (negotiating true).onServer fun s =>
            (s.sendCap c "ACK" rest).updClient c fun cl => { cl with capabilities := proposed }
        | none => (negotiating true).onServer fun s => s.sendCap c "NAK" rest
      else if isWord subcommand "END" then (negotiating false).maybeRegister c
      else n

/-- `command_pong`, as far as it is `nospoof_handle_pong`. -/
def pong (n : Network) (c : ClientRef) (params : Option Text) : Network :=
  let cl := n.server.client c
  match params with
  | none => n
  | some params =>
      if !cl.nospoofStarted || cl.nospoofVerified || pongCookie params != cl.nospoofCookie then n
      else (n.onServer fun s => ((s.updClient c fun cl =>
        { cl with nospoofVerified := true, nospoofCookie := [] }).requestVersion c).requestWebsite
          c).maybeRegister c

/-! ## 4. Answers and timeouts -/

/-- The notice on how the look-up of the host went, once the connection can carry it. -/
def lookupNotice (n : Network) (c : ClientRef) (text : String) : Network :=
  n.plainNotice c (n.conn c).tlsHandshake text

/-- The state of a client whose look-up gave no host. -/
def dnsWithout (n : Network) (c : ClientRef) (state : DnsState) (notice : String) : Network :=
  ((n.onServer fun s => (s.updClient c fun cl =>
    { cl with dnsState := state, realHost := [] }).snotice {.dns} (notice.toList ++
      (s.client c).realIp)).lookupNotice c
    "*** Hostname lookup failed; using IP instead").maybeRegister c

/-- `handle_dns_result`: `host` is the verified name, if there is one. -/
def handleDnsResult (n : Network) (clientId : Nat) (host : Text) : Network :=
  match n.findClientById clientId with
  | none => n
  | some c =>
      if (n.server.client c).dnsState ≠ .pending then n
      else if host.isEmpty then n.dnsWithout c .failed "FCrDNS failed or did not verify for "
      else
        ((n.onServer fun s => (s.updClient c (·.resolved host)).snotice {.dns}
          ("FCrDNS verified: ".toList ++ (s.client c).realIp ++ " -> ".toList ++
            bounded ircHostMax host)).lookupNotice c
          "*** Done looking up your hostname").maybeRegister c

/-- `DNSBL <name> (<zone>)`, the reason of the row and of the QUIT. -/
def dnsblReason (name zone : Text) : Text :=
  bounded ircQuitReasonMax ("DNSBL ".toList ++ bounded ircdDnsblNameMax name ++ " (".toList ++
    bounded serverDnsblReasonZoneMax zone ++ [')'])

/-- `INSERT OR REPLACE INTO bans`: mask has collation NOCASE. -/
def addBan (b : BanTables) (r : BanRecord) : BanTables :=
  { b with bans := (b.bans.filter fun x => !(x.type = r.type && nocaseEq x.mask r.mask)) ++ [r] }

/-- The automatic ZLINE of `handle_dnsbl_result`. -/
def addAutomaticZline (n : Network) (c : ClientRef) (name zone : Text) : Network :=
  let ip := (n.server.client c).realIp
  let duration := n.config.zlineDefaultDurationSeconds
  if !n.bans.readable || duration = 0 || ip.isEmpty then n
  else
    let row : BanRecord :=
      { type := .zline, mask := ip, reason := dnsblReason name zone
        setBy := "DNSBL:".toList ++ bounded serverDnsblSetByNameMax name
        expiresAt := n.server.now + duration }
    { n with bans := addBan n.bans row }

/-- `handle_dnsbl_result`: `listing` is the list an address was found on, its name and zone. -/
def handleDnsblResult (n : Network) (clientId : Nat) (listing : Option (Text × Text)) : Network :=
  match n.findClientById clientId with
  | none => n
  | some c =>
      let become (state : DnsblState) : Network :=
        n.onServer fun s => s.updClient c fun cl => { cl with dnsblState := state }
      if (n.server.client c).dnsblState ≠ .pending then n
      else
        match listing with
        | none => (become .clear).maybeRegister c
        | some (name, zone) =>
            let name := if name.isEmpty then "listed".toList else name
            let zone := if zone.isEmpty then "unknown".toList else zone
            let found := "DNSBL listed ".toList ++ (n.server.client c).realIp ++ " in ".toList ++
              zone ++ " (".toList ++ name ++ [')']
            if n.bans.elinePolicyMatch n.server.ext n.server.now .dnsbl (n.server.client c).realIp then
              ((become .clear).onServer fun s => s.snotice {.dns, .bans}
                (found ++ "; exempted by ELINE".toList)).maybeRegister c
            else
              ((become .listed).addAutomaticZline c name zone).onServer fun s =>
                (s.snotice {.dns, .bans} (found ++ "; automatic exact-IP ZLINE created for ".toList ++
                  decimal n.config.zlineDefaultDurationSeconds ++
                  " seconds".toList)).rejectRegistration c (dnsblReason name zone)

/-- The end of a connection that ran out of time. -/
def timedOut (n : Network) (c : ClientRef) (categories : Finset Snotice) (notice : Text)
    (reason : String) : Network :=
  (n.onServer fun s => (s.snotice categories notice).sendError c reason).disconnect c reason.toList

/-- The timeout of the DNSBL look-up. -/
def expireDnsbl (n : Network) (c : ClientRef) : Network :=
  if (n.server.client c).dnsblState = .pending ∧ (n.conn c).dnsblDeadline ≤ n.server.now then
    (n.onServer fun s => (s.updClient c fun cl => { cl with dnsblState := .timeout }).snotice {.dns}
      ("DNSBL lookup timeout for ".toList ++ (s.client c).realIp)).maybeRegister c
  else n

/-- The timeouts of the look-ups. -/
def expireLookups (n : Network) (c : ClientRef) : Network :=
  (if (n.server.client c).dnsState = .pending ∧ (n.conn c).dnsDeadline ≤ n.server.now then
    n.dnsWithout c .timeout "FCrDNS timeout for "
  else n).expireDnsbl c

/-- One turn of `expire_connection_lookups`; the result says whether the client is gone. -/
def expire (n : Network) (c : ClientRef) : Network × Bool :=
  let cl := n.server.client c
  if !cl.registered && decide (cl.signonTime + n.config.registrationTimeoutSeconds ≤ n.server.now) then
    (n.timedOut c {.flood} ("Registration timeout for ".toList ++ cl.realIp ++ " (nick=".toList ++
      cl.replyNick ++ " cap=".toList ++ (if cl.capNegotiating then "yes" else "no").toList ++
      " sasl_state=".toList ++ decimal cl.saslState.ctorIdx ++ [')']) "Registration timeout", true)
  else if n.server.config.nospoofEnabled && cl.nospoofStarted && !cl.nospoofVerified &&
      decide ((n.conn c).nospoofDeadline ≤ n.server.now) then
    (n.timedOut c {.security} ("No-spoof PING timeout for ".toList ++ cl.realIp ++
      " (nick=".toList ++ cl.replyNick ++ [')']) "No-spoof PING timeout", true)
  else (n.expireLookups c, false)

end Network

/-! ## 5. Runs -/

/-- What commands about other matters leave of a client's record. -/
structure Client.SameConnection (a b : Client) : Prop where
  id : b.id = a.id
  nick : b.nick = a.nick
  registered : b.registered = a.registered
  realIp : b.realIp = a.realIp
  dnsState : b.dnsState = a.dnsState
  dnsblState : b.dnsblState = a.dnsblState
  signonTime : b.signonTime = a.signonTime
  watchList : b.watchList = a.watchList
  pmstatsEnabled : b.pmstatsEnabled = a.pmstatsEnabled
  capabilities : b.capabilities = a.capabilities

/-- A command about other matters (OPER, MODE, AWAY, PRIVMSG, ...): the sender's record changes
    apart from all this, and lines go out that are not about presence. -/
structure Upkeep where
  edit : Client → Client
  lines : List (ClientRef × Line)
  keeps : ∀ cl : Client, cl.SameConnection (edit cl)
  aside : ∀ d ∈ lines, ∀ source target params,
    d.2 ≠ ⟨source, .numeric 600 target params⟩ ∧ d.2 ≠ ⟨source, .numeric 601 target params⟩

/-- What happens to the server. A turn of `expire_connection_lookups` is an event of its own: a
    sweep is a run of them (`exec_expire`). -/
inductive NetworkEvent where
  | clock (now : Nat)
  /-- KLINE, ZLINE, GEOBAN, ELINE, or another process: bans.db has other rows now. -/
  | bans (b : BanTables)
  | accept (peer : Option Text) (tls nonblocking sslNew : Bool)
  | tlsEstablished (c : ClientRef)
  | nick (c : ClientRef) (params : Option Text)
  | user (c : ClientRef) (params : Option Text)
  | pass (c : ClientRef) (params : Option Text)
  | cap (c : ClientRef) (params : Option Text)
  | pong (c : ClientRef) (params : Option Text)
  | webirc (c : ClientRef) (params : Option Text)
  | nickserv (c : ClientRef) (params : Option Text)
  | identify (c : ClientRef) (params : Option Text)
  | watch (c : ClientRef) (params : Option Text)
  | pmstats (c : ClientRef) (params : Option Text)
  | other (c : ClientRef) (e : Upkeep)
  /-- A resolver answers. -/
  | dnsResult (request : LookupRequest) (host : Text)
  | dnsblResult (request : LookupRequest) (listing : Option (Text × Text))
  | expire (c : ClientRef)
  /-- QUIT, KILL, a closed socket, a flood, ... -/
  | disconnect (c : ClientRef) (reason : Text)

namespace NetworkEvent

/-- The connection an event is about. -/
def actor : NetworkEvent → Option ClientRef
  | .tlsEstablished c | .nick c _ | .user c _ | .pass c _ | .cap c _ | .pong c _ | .webirc c _
  | .nickserv c _ | .identify c _ | .watch c _ | .pmstats c _ | .other c _ | .expire c
  | .disconnect c _ => some c
  | _ => none

end NetworkEvent

namespace Network

/-- WEBIRC, and the end of a connection that it refuses. -/
def commandWebirc (n : Network) (c : ClientRef) (params : Option Text) : Network :=
  let done := n.webirc c params
  if done.2 then
    let reason := (done.1.server.client c).quitReason
    done.1.disconnect c (if reason.isEmpty then ircDefaultQuitReason else reason)
  else done.1

def handle (n : Network) : NetworkEvent → Network
  | .clock now => n.onServer fun s => { s with now := now }
  | .bans b => { n with bans := b }
  | .accept peer tls nonblocking sslNew => n.accept peer tls nonblocking sslNew
  | .tlsEstablished c => n.tlsEstablished c
  | .nick c params => n.nick c params
  | .user c params => n.user c params
  | .pass c params => n.pass c params
  | .cap c params => n.cap c params
  | .pong c params => n.pong c params
  | .webirc c params => n.commandWebirc c params
  | .nickserv c params => n.settle (n.server.commandNickserv c params)
  | .identify c params => n.settle (n.server.commandIdentify c params)
  | .watch c params => n.onServer (·.commandWatch c params)
  | .pmstats c params => n.onServer (·.commandPmstats c params)
  | .other c e => n.onServer fun s => (s.updClient c e.edit).deliver e.lines
  | .dnsResult request host =>
      if request ∈ n.dnsRequests then n.handleDnsResult request.clientId host else n
  | .dnsblResult request listing =>
      if request ∈ n.dnsblRequests then n.handleDnsblResult request.clientId listing else n
  | .expire c => (n.expire c).1
  | .disconnect c reason => n.disconnect c reason

/-- One event. What is no connection (any more) does nothing. -/
def step (n : Network) (e : NetworkEvent) : Network :=
  if e.actor.all fun c => n.server.clients.contains c then n.handle e else n

/-- `server_init`: nobody is connected. -/
def initial (server : ServerConfig) (ext : External) (storage : Storage) (config : ConnectionConfig)
    (platform : Platform) (bans : BanTables) : Network where
  server := Server.initial server ext storage
  config := config
  platform := platform
  bans := bans
  clientsById := ChainedTable.empty 4093 buckets_pos
  connectionCounts := ChainedTable.empty 4093 buckets_pos
  conn := fun _ => {}
  dnsRequests := []
  dnsblRequests := []
  submitted := 0
  cookiesMade := 0

end Network

end ScratchIrcd
