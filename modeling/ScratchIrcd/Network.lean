/-
  File:      ScratchIrcd/Network.lean
  Subject:   Connections: taking them in, counting them, dropping them, and the identity a gateway
             reports (`accept_clients`, `server_disconnect`, the counters of src/server.c,
             src/commands/webirc.c).

  `Network` is the `Server` with the tables that only connections use. `server_disconnect` takes a
  client out of `clients_by_id` and of the counters as well; as commands of `Server` may disconnect
  clients, `settle` does that for everyone who is gone after a command.

  `inet_ntop`, GeoIP, the random bytes of the no-spoof cookie and the queues of the two resolvers
  are not ours (`Platform`). What was ever asked of the resolvers is kept (`dnsRequests`,
  `dnsblRequests`); the source does not keep it, and only answers look at it.
-/
import ScratchIrcd.Bans
import ScratchIrcd.NickServ

namespace ScratchIrcd

open CText

/-! ## 1. State -/

/-- `IRC_IP_MAX`, `IRCD_WEBIRC_GATEWAY_NAME_MAX`, `IRC_QUIT_REASON_MAX`. -/
def ircIpMax : Nat := 45
def ircdWebircGatewayNameMax : Nat := 127
def ircQuitReasonMax : Nat := 255

/-- `WebIrcGatewayConfig`. -/
structure WebIrcGatewayConfig where
  ip : Text
  password : Text
  deriving DecidableEq, Repr

/-- The options of `ServerConfig` about connections. -/
structure ConnectionConfig where
  maxClients : Nat := 1024
  maxConnectionsPerIp : Nat := 0
  connectionLimitExemptIps : List Text := []
  webircGateways : List WebIrcGatewayConfig := []
  registrationTimeoutSeconds : Nat := 60
  dnsTimeoutSeconds : Nat := 5
  dnsblTimeoutSeconds : Nat := 5
  nospoofTimeoutSeconds : Nat := 30
  zlineDefaultDurationSeconds : Nat := 3600
  klineDefaultDurationSeconds : Nat := 3600
  klineDefaultReason : Text := "Temporary KLINE".toList
  zlineDefaultReason : Text := "Temporary ZLINE".toList

/-- Functions of third parties. -/
structure Platform where
  /-- `inet_ntop`, of the address bytes. -/
  inetNtop4 : Text → Text
  inetNtop6 : Text → Text
  geoipLookup : Text → ClientGeoIP := fun _ => {}
  /-- Whether a resolver's queue takes a request, in call order. -/
  submits : Nat → Bool := fun _ => true
  /-- The cookies of `hex_cookie`, in call order; empty if there were no random bytes. -/
  cookies : Nat → Text := fun _ => "0123456789abcdef0123456789abcdef".toList

/-- `DnsRequest`, `DnsblRequest`. -/
structure LookupRequest where
  clientId : Nat
  ip : Text
  deriving DecidableEq, Repr

/-- The fields of `Client` that nothing else reads. -/
structure Connection where
  geoip : ClientGeoIP := {}
  geoipComplete : Bool := false
  dnsDeadline : Nat := 0
  dnsblDeadline : Nat := 0
  nospoofDeadline : Nat := 0
  /-- `tls_state == CLIENT_TLS_HANDSHAKE`. -/
  tlsHandshake : Bool := false

structure Network where
  server : Server
  config : ConnectionConfig
  platform : Platform
  bans : BanTables
  clientsById : HashTable ClientRef
  connectionCounts : HashTable Nat
  conn : ClientRef → Connection
  /-- Everything asked of the resolvers so far. -/
  dnsRequests : List LookupRequest
  dnsblRequests : List LookupRequest
  /-- How often a queue was written to, and how many cookies were made. -/
  submitted : Nat
  cookiesMade : Nat

/-- What WEBIRC makes of a client's record. -/
def Client.asEndUser (ip : Text) (cl : Client) : Client :=
  { cl with
    webircActive := true
    realIp := bounded ircIpMax ip
    realHost := []
    displayHost := bounded ircHostMax ip
    modes := insert .webirc cl.modes
    dnsblState := .none }

namespace Server

/-- A numeric to a client that may not have a nickname yet. -/
def replyNumeric (s : Server) (c : ClientRef) (code : Nat) (params : List Field) : Server :=
  s.send c ⟨.server, .numeric code (s.client c).replyNick params⟩

/-- `:<server> ERROR :<text>` -/
def sendError (s : Server) (c : ClientRef) (text : String) : Server :=
  s.send c ⟨.server, .raw { text := "ERROR :".toList ++ text.toList }⟩

/-- `:<server> NOTICE AUTH :<text>` -/
def authNotice (s : Server) (c : ClientRef) (text : String) : Server :=
  s.send c ⟨.server, .notice "AUTH".toList (lit text)⟩

/-- Operators hear of a new connection, and of a look-up that could not be asked for. -/
def noteAccepted (s : Server) (c : ClientRef) (tls : Bool) : Server :=
  s.snotice {.connections} ("Client connection accepted: real_ip=".toList ++ (s.client c).realIp ++
    " transport=".toList ++ (if tls then "TLS" else "plain").toList)

def noteUnasked (s : Server) (c : ClientRef) : Server :=
  s.snotice {.dns} ("FCrDNS submission failed for ".toList ++ (s.client c).realIp)

/-- `nospoof_request_website`. -/
def requestWebsite (s : Server) (c : ClientRef) : Server :=
  let cl := s.client c
  if s.config.nospoofEnabled && cl.nospoofVerified && cl.webircActive && !cl.websiteRequested &&
      !cl.nick.isEmpty then
    (s.send c ⟨.server, .privmsg cl.nick "\x01WEBSITE\x01".toList⟩).updClient c
      fun cl => { cl with websiteRequested := true }
  else s

/-- The end of a successful WEBIRC. -/
def noteEndUser (s : Server) (c : ClientRef) (peerIp gatewayName : Text) : Server :=
  (s.snotice {.webirc} ("WEBIRC authenticated: end-user=".toList ++ (s.client c).realIp ++
    " gateway=".toList ++ peerIp ++ " gateway-name=".toList ++ gatewayName)).requestWebsite c

end Server

/-! ## 2. Counting connections -/

/-- One address, however it is written: what `inet_ntop` makes of what `inet_pton` reads. -/
def canonicalIp (ext : External) (platform : Platform) (ip : Text) : Option Text :=
  if ip.isEmpty then none
  else
    match ext.inetPton4 ip with
    | some address => some (platform.inetNtop4 address)
    | none => (ext.inetPton6 ip).map platform.inetNtop6

/-- One more connection from an address. -/
def countAdd (counts : HashTable Nat) (key : Text) : Option (HashTable Nat) :=
  match counts.get key with
  | some count => if count = 2 ^ 64 - 1 then none else some (counts.set key (count + 1))
  | none => some (counts.set key 1)

/-- One connection less; a counter that would be zero is dropped. -/
def countRemove (counts : HashTable Nat) (key : Text) : HashTable Nat :=
  match counts.get key with
  | none => counts
  | some count => if 1 < count then counts.set key (count - 1) else counts.remove key

namespace Network

/-- Something that touches the server only. -/
def onServer (n : Network) (f : Server → Server) : Network := { n with server := f n.server }

def updConn (n : Network) (c : ClientRef) (f : Connection → Connection) : Network :=
  { n with conn := Function.update n.conn c (f (n.conn c)) }

/-- `canonical_numeric_ip`. -/
def canonicalNumericIp (n : Network) (ip : Text) : Option Text :=
  canonicalIp n.server.ext n.platform ip

/-- `numeric_ip_equal` of server.c. -/
def sameAddress (n : Network) (left right : Text) : Bool :=
  match n.canonicalNumericIp left, n.canonicalNumericIp right with
  | some l, some r => l == r
  | _, _ => false

/-- `connection_count_add`; `none` is a failure. -/
def connectionCountAdd (n : Network) (ip : Text) : Option Network :=
  (n.canonicalNumericIp ip).bind fun key =>
    (countAdd n.connectionCounts key).map fun counts => { n with connectionCounts := counts }

/-- `connection_count_remove`. -/
def connectionCountRemove (n : Network) (ip : Text) : Network :=
  match n.canonicalNumericIp ip with
  | none => n
  | some key => { n with connectionCounts := countRemove n.connectionCounts key }

/-- `server_connection_count_move`. -/
def connectionCountMove (n : Network) (oldIp newIp : Text) : Option Network :=
  match n.canonicalNumericIp oldIp, n.canonicalNumericIp newIp with
  | some oldKey, some newKey =>
      match n.connectionCounts.get oldKey with
      | none => none
      | some count =>
          if count = 0 then none
          else if oldKey = newKey then some n
          else (n.connectionCountAdd newKey).map fun n => n.connectionCountRemove oldKey
  | _, _ => none

/-- `server_connection_limit_ip_exempt`. -/
def connectionLimitIpExempt (n : Network) (ip : Text) : Bool :=
  !ip.isEmpty &&
    (n.config.connectionLimitExemptIps.any (n.sameAddress ip) ||
      n.config.webircGateways.any (fun gateway => n.sameAddress ip gateway.ip) ||
      n.bans.elinePolicyMatch n.server.ext n.server.now .connectionLimit ip)

/-- The number of connections from an address that count against its limit. -/
def countedConnections (n : Network) (ip : Text) (exclude : Option ClientRef) : Nat :=
  match n.canonicalNumericIp ip with
  | none => 0
  | some key =>
      let count := (n.connectionCounts.get key).getD 0
      match exclude with
      | none => count
      | some c => if n.sameAddress (n.server.client c).realIp key then count - 1 else count

/-- `server_connection_limit_reached`. -/
def connectionLimitReached (n : Network) (ip : Text) (exclude : Option ClientRef) : Bool :=
  !ip.isEmpty && n.config.maxConnectionsPerIp != 0 && !n.connectionLimitIpExempt ip &&
    decide (n.config.maxConnectionsPerIp ≤ n.countedConnections ip exclude)

/-! ## 3. Taking connections in and dropping them -/

/-- `client_id_key`. -/
def clientIdKey (id : Nat) : Text := decimal id

/-- `server_find_client_by_id`. -/
def findClientById (n : Network) (id : Nat) : Option ClientRef := n.clientsById.get (clientIdKey id)

/-- `dns_resolver_submit` for the client as it is now, and the state that follows. -/
def submitDns (n : Network) (c : ClientRef) : Network :=
  let cl := n.server.client c
  let ok := n.platform.submits n.submitted
  { n with
    submitted := n.submitted + 1
    dnsRequests := if ok then ⟨cl.id, cl.realIp⟩ :: n.dnsRequests else n.dnsRequests }.onServer
      fun s => s.updClient c fun cl => { cl with dnsState := if ok then .pending else .failed }

/-- `client_create`: the record of a new connection, which is not in any table yet. -/
def clientCreate (n : Network) (ip : Text) (tls : Bool) : Network :=
  let c := n.server.nextClient
  let id := n.server.nextClientId
  { n with
    server := { n.server with
      client := Function.update n.server.client c
        { id := id, signonTime := n.server.now, lastActivity := n.server.now
          realIp := bounded ircIpMax ip, displayHost := bounded ircHostMax (bounded ircIpMax ip) }
      nextClient := c + 1
      nextClientId := id + 1 }
    conn := Function.update n.conn c { tlsHandshake := tls } }

/-- A notice that a connection under TLS cannot get yet. -/
def plainNotice (n : Network) (c : ClientRef) (tls : Bool) (text : String) : Network :=
  if tls then n else n.onServer (·.authNotice c text)

/-- What an accepted client and the operators are told, and the look-up of its host. -/
def startLookup (n : Network) (c : ClientRef) (tls : Bool) : Network :=
  let n := (n.onServer (·.noteAccepted c tls)).updConn c fun k =>
    { k with dnsDeadline := n.server.now + n.config.dnsTimeoutSeconds }
  let n := (n.plainNotice c tls "*** Looking up your hostname").submitDns c
  if (n.server.client c).dnsState = .failed then
    (n.onServer (·.noteUnasked c)).plainNotice c tls "*** Hostname lookup failed; using IP instead"
  else n

/-- A client whose record is complete enters the tables; if it cannot be counted, it is freed. -/
def enterTables (n : Network) (c : ClientRef) (ip : Text) (tls : Bool) : Network :=
  let key := clientIdKey (n.server.client c).id
  let indexed := { n with clientsById := n.clientsById.set key c }
  match indexed.connectionCountAdd (n.server.client c).realIp with
  | none =>
      { n with clientsById := indexed.clientsById.remove key }.onServer fun s =>
        s.snotice {Snotice.flood} ("Connection rejected from ".toList ++ ip ++
          ": per-IP index allocation failure".toList)
  | some n => (n.onServer fun s => { s with clients := s.clients ++ [c] }).startLookup c tls

/-- One turn of `accept_clients`. `peer` is the address as `getnameinfo` writes it; `nonblocking`
    and `sslNew` say whether the socket and its TLS session can be set up. Memory does not run
    out. -/
def accept (n : Network) (peer : Option Text) (tls nonblocking sslNew : Bool) : Network :=
  match peer with
  | none =>
      n.onServer fun s => s.snotice {.flood} "Connection rejected: unable to determine peer IP".toList
  | some ip =>
      let rejected (categories : Finset Snotice) (why : Text) : Network :=
        n.onServer fun s => s.snotice categories ("Connection rejected from ".toList ++ ip ++ why)
      if n.config.maxClients ≤ n.server.clients.length then
        rejected {.flood} (": global client limit reached (".toList ++
          decimal n.server.clients.length ++ '/' :: decimal n.config.maxClients ++ [')'])
      else if n.connectionLimitReached ip none then
        rejected {.flood, .security} (": per-IP concurrent connection limit reached (".toList ++
          decimal n.config.maxConnectionsPerIp ++ [')'])
      else if n.server.nextClientId = 2 ^ 64 then
        rejected {.flood} ": client ID space exhausted".toList
      else if !nonblocking then
        rejected {.flood} ": server resource allocation/setup failure".toList
      else
        let created := n.clientCreate ip tls
        if tls && !sslNew then
          created.onServer fun s => s.snotice {.security}
            ("TLS connection setup failed from ".toList ++ ip)
        else created.enterTables n.server.nextClient ip tls

/-- The state of TLS connections that are set up (`advance_tls_handshake`). -/
def tlsEstablished (n : Network) (c : ClientRef) : Network :=
  if !(n.conn c).tlsHandshake then n
  else
    (n.updConn c fun k => { k with tlsHandshake := false }).onServer fun s =>
      (s.updClient c fun cl => { cl with modes := insert .secure cl.modes }).authNotice c
        (match (s.client c).dnsState with
          | .pending => "*** Looking up your hostname"
          | .verified => "*** Done looking up your hostname"
          | _ => "*** Hostname lookup failed; using IP instead")

/-- What `server_disconnect` does to the tables of connections. -/
def forget (n : Network) (c : ClientRef) : Network :=
  { n with clientsById := n.clientsById.remove (clientIdKey (n.server.client c).id) }.connectionCountRemove
    (n.server.client c).realIp

/-- After a command of the server: whoever is gone is forgotten. -/
def settle (n : Network) (s : Server) : Network :=
  (n.server.clients.filter fun c => !s.clients.contains c).foldl forget { n with server := s }

/-- The tables of connections are all that `settle` adds to a command. -/
theorem server_settle (n : Network) (s : Server) :
    (n.settle s).server = s ∧ (n.settle s).bans = n.bans := by
  unfold settle
  refine List.foldlRecOn (motive := fun n' : Network => n'.server = s ∧ n'.bans = n.bans) _ _
    ⟨rfl, rfl⟩ fun n' h x _ => ?_
  unfold forget connectionCountRemove
  split <;> exact h

/-- `server_disconnect`. -/
def disconnect (n : Network) (c : ClientRef) (reason : Text) : Network :=
  n.settle (n.server.disconnect c reason)

/-! ## 4. WEBIRC -/

/-- `authorized_gateway`. -/
def authorizedGateway (n : Network) (peerIp password : Text) : Bool :=
  n.config.webircGateways.any fun gateway =>
    numericIpEqual n.server.ext gateway.ip peerIp && gateway.password == password

/-- A client under the next id. -/
def underNextId (n : Network) (c : ClientRef) : Network :=
  let id := n.server.nextClientId
  let table := n.clientsById.set (clientIdKey id) c
  { n with
    clientsById := table.remove (clientIdKey (n.server.client c).id)
    server := { n.server with nextClientId := id + 1 }.updClient c fun cl => { cl with id := id } }

/-- `server_reassign_client_id`. -/
def reassignClientId (n : Network) (c : ClientRef) : Option Network :=
  if n.server.nextClientId = 2 ^ 64 then none else some (n.underNextId c)

/-- A refused WEBIRC: the client is told, operators are, and the client has to go. -/
def webircRefused (n : Network) (c : ClientRef) (categories : Finset Snotice) (notice : Text)
    (error : String) : Network × Bool :=
  (n.onServer fun s => (s.snotice categories notice).sendError c error, true)

/-- The identity of the end user takes the place of the gateway's. -/
def readdressed (n : Network) (c : ClientRef) (ip : Text) : Network :=
  (n.onServer (·.updClient c (·.asEndUser ip))).updConn c fun k => { k with
    geoip := {}, geoipComplete := false, dnsblDeadline := 0
    dnsDeadline := n.server.now + n.config.dnsTimeoutSeconds }

/-- The end user's host is looked up anew. -/
def becomeEndUser (n : Network) (c : ClientRef) (ip : Text) : Network :=
  (n.readdressed c ip).submitDns c

/-- `command_webirc` for a gateway that may use it; the result says whether the client has to
    go. -/
def webircAccepted (n : Network) (c : ClientRef) (gatewayName suppliedIp : Text) : Network × Bool :=
  let peerIp := (n.server.client c).realIp
  match n.canonicalNumericIp suppliedIp with
  | none =>
      n.webircRefused c {.webirc} ("Rejected WEBIRC from gateway ".toList ++ peerIp ++
        ": invalid end-user IP ".toList ++ suppliedIp) "WEBIRC supplied invalid client IP"
  | some ip =>
      if n.connectionLimitReached ip (some c) then
        n.webircRefused c {.security, .webirc} ("WEBIRC end-user connection limit exceeded: end-user=".toList
          ++ ip ++ " gateway=".toList ++ peerIp)
          "Too many concurrent connections from your IP address"
      else
        let failed (n : Network) (what : String) : Network × Bool :=
          n.webircRefused c {.security, .webirc} ("Rejected WEBIRC from gateway ".toList ++ peerIp ++
            ": unable to reindex end-user ".toList ++ what.toList) "WEBIRC connection setup failed"
        match n.reassignClientId c with
        | none => failed n "connection"
        | some n =>
            match n.connectionCountMove peerIp ip with
            | none => failed n "connection count"
            | some n =>
                ((n.becomeEndUser c ip).onServer (·.noteEndUser c peerIp gatewayName), false)

/-- The four parameters of WEBIRC. -/
def webircParams (params : Text) : Option (Text × Text × Text × Text) :=
  match strtokSpace params with
  | none => none
  | some (password, rest) =>
      match strtokSpace rest with
      | none => none
      | some (gatewayName, rest) =>
          match strtokSpace rest with
          | none => none
          | some (suppliedHost, rest) =>
              match strtokSpace rest with
              | none => none
              | some (suppliedIp, rest) =>
                  if (strtokSpace rest).isSome || decide (ircdWebircGatewayNameMax < gatewayName.length) ||
                      decide (ircHostMax < suppliedHost.length) then none
                  else some (password, gatewayName, suppliedHost, suppliedIp)

/-- `command_webirc`. -/
def webirc (n : Network) (c : ClientRef) (params : Option Text) : Network × Bool :=
  let cl := n.server.client c
  match params with
  | none =>
      n.webircRefused c {.webirc} ("Rejected WEBIRC use from ".toList ++ cl.realIp ++
        ": command must be used once before registration".toList)
        "WEBIRC must be used once before registration"
  | some params =>
      if cl.registered || cl.webircActive then
        n.webircRefused c {.webirc} ("Rejected WEBIRC use from ".toList ++ cl.realIp ++
          ": command must be used once before registration".toList)
          "WEBIRC must be used once before registration"
      else
        match webircParams params with
        | none =>
            n.webircRefused c {.webirc} ("Rejected WEBIRC from ".toList ++ cl.realIp ++
              ": invalid or overlong parameters".toList) "Invalid WEBIRC parameters"
        | some (password, gatewayName, _, suppliedIp) =>
            if !n.authorizedGateway cl.realIp password then
              n.webircRefused c {.webirc} ("Rejected WEBIRC authentication from gateway ".toList ++
                cl.realIp) "Unauthorized WEBIRC gateway"
            else n.webircAccepted c gatewayName suppliedIp

end Network

end ScratchIrcd
