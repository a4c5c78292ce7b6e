/-
  File:      ScratchIrcd/State.lean
  Subject:   The server: clients, channels, tables, databases, and the log of delivered lines
             (include/client.h, include/server.h, the database schemas).

  Pointers are references into two heaps (`client`, `channel`); a reference is never reused, so
  a freed object can be told from a new one. Storage calls take their outcome from `Storage.io`,
  one answer per statement in the order they are issued: a statement over every `Server` is a
  statement over every pattern of storage failures. Everything outside the repository (HMAC, Argon2, `inet_pton`,
  the ban and GeoIP databases at registration) is a parameter in `External`.

  Command parameters come from input lines of at most 510 bytes (`IRC_LINE_CONTENT_MAX`), so the
  copies commands make of them into buffers of 1024 bytes are whole.

  Output is a log: every line queued for a client is delivered, in order. Output queues that
  overflow and lines above 510 bytes, which `client_send_line` refuses, are not modelled.
-/
import ScratchIrcd.Channel

namespace ScratchIrcd

open CText

/-! ## 1. Clients -/

/-- `ClientDnsState`, `ClientDnsblState`, `ClientSaslState`. -/
inductive DnsState where
  | none | pending | verified | failed | timeout
  deriving DecidableEq, Repr

inductive DnsblState where
  | none | pending | clear | listed | timeout | error
  deriving DecidableEq, Repr

inductive SaslState where
  | none | plainWaitData | complete | failed
  deriving DecidableEq, Repr

/-- `CLIENT_CAP_*`. -/
inductive Capability where
  | sasl | accountNotify | batch | serverTime | chathistory | awayNotify | extendedJoin
  | labeledResponse | messageTags
  deriving DecidableEq, Repr

/-- `OPER_PERMISSION_*`. -/
inductive OperPermission where
  | rehash | die | restart | wallops | kill | kline | unkline | zline | override | getHost
  | helpop | netadmin | geoban | eline | stats
  deriving DecidableEq, Repr

/-- `SNOTICE_*`: the categories of server notices. -/
inductive Snotice where
  | connections | operators | kills | bans | geobans | webirc | dns | security | admin | services
  | registrations | identity | moderation | flood
  deriving DecidableEq, Repr

/-- What happened to a client that its record does not keep; read only by statements. -/
structure ClientHistory where
  /-- Registration completed (`registered` is reset when the client is freed). -/
  everRegistered : Bool := false
  /-- A `MODE -x` of its own was carried out. -/
  uncloaked : Bool := false
  /-- Hosts given to it by SETHOST, OPER or an account. -/
  assignedHosts : List Text := []
  deriving DecidableEq, Repr

/-- `Client`. -/
structure Client where
  id : Nat := 0
  registered : Bool := false
  passAccepted : Bool := false
  modes : ClientModeSet := ∅
  operPermissions : Finset OperPermission := ∅
  operName : Text := []
  snoticeMask : Finset Snotice := ∅
  pmstatsEnabled : Bool := false
  nick : Text := []
  user : Text := []
  realname : Text := []
  away : Text := []
  accountName : Text := []
  capNegotiating : Bool := false
  capabilities : Finset Capability := ∅
  saslState : SaslState := .none
  /-- The `sasl_buffer_len` bytes of `sasl_buffer`. -/
  saslBuffer : Text := []
  /-- `ircv3_client_tags` of the command being handled. -/
  clientTags : Text := []
  realIp : Text := []
  realHost : Text := []
  displayHost : Text := []
  accountVhostActive : Bool := false
  webircActive : Bool := false
  nospoofStarted : Bool := false
  nospoofVerified : Bool := false
  nospoofCookie : Text := []
  versionRequested : Bool := false
  versionReceived : Bool := false
  clientVersion : Text := []
  websiteRequested : Bool := false
  websiteReceived : Bool := false
  clientWebsite : Text := []
  dnsState : DnsState := .none
  dnsblState : DnsblState := .none
  signonTime : Nat := 0
  lastActivity : Nat := 0
  silenceList : List Text := []
  watchList : List Text := []
  quitReason : Text := []
  channelCount : Nat := 0
  channels : List ChannelRef := []
  history : ClientHistory := {}

/-- `client_mode_has(client->modes, CLIENT_MODE_OPER | CLIENT_MODE_NETADMIN)`. -/
def Client.isOper (c : Client) : Bool := isOperator c.modes

/-- `command_reply_nick`. -/
def Client.replyNick (c : Client) : Text := if c.nick.isEmpty then ['*'] else c.nick

/-- `nick!user@display_host`. -/
def Client.identity (c : Client) : Text := ScratchIrcd.identity c.nick c.user c.displayHost

/-- The client's half of `channel_add_client`. -/
def Client.link (c : Client) (ch : ChannelRef) : Client :=
  { c with channels := ch :: c.channels, channelCount := c.channelCount + 1 }

/-- The client's half of `channel_remove_client`. -/
def Client.unlink (c : Client) (ch : ChannelRef) : Client :=
  { c with
    channels := c.channels.erase ch
    channelCount := if c.channels.contains ch then c.channelCount - 1 else c.channelCount }

/-- `WhowasRecord`, with the client it describes. -/
structure WhowasRecord where
  subject : ClientRef
  nick : Text
  user : Text
  host : Text
  realname : Text
  serverName : Text
  time : Nat
  deriving DecidableEq, Repr

/-! ## 2. Databases -/

/-- A row of `channels` in chanserv.db. -/
structure ChanServChannel where
  name : Text
  founder : Text
  description : Text := []
  enabled : Bool := true
  modeLock : ChannelModeSet := ∅
  topic : Text := []
  topicSetter : Field := { text := [] }
  topicTime : Nat := 0
  secureOps : Bool := false
  successor : Text := []
  greeting : Text := []
  loggingEnabled : Bool := false
  createdAt : Nat := 0
  deriving DecidableEq

/-- `ChanServAccessLevel` without NONE. -/
inductive AccessLevel where
  | voice | halfop | op | protect | owner
  deriving DecidableEq, Repr

/-- A row of `access`. -/
structure ChanServAccess where
  channel : Text
  account : Text
  level : AccessLevel
  deriving DecidableEq, Repr

/-- A row of `channel_runtime`. -/
structure RuntimeRow where
  channel : Text
  key : Text := []
  userLimit : Int := 0
  joinCount : Int := 0
  joinSeconds : Int := 0
  limitRedirect : Text := []
  banRedirect : Text := []
  deriving DecidableEq, Repr

/-- `CHANSERV_MASK_BAN`, `CHANSERV_MASK_EXCEPTION`, `CHANSERV_MASK_INVEX`. -/
inductive MaskKind where
  | ban | exception | invex
  deriving DecidableEq, Repr

/-- A row of `channel_masks`. -/
structure MaskRow where
  channel : Text
  kind : MaskKind
  mask : Text
  authorized : Bool
  deriving DecidableEq, Repr

/-- Equal primary keys `(channel, type, mask)`; `channel` has collation IRCNOCASE. -/
def MaskRow.sameKey (a b : MaskRow) : Prop :=
  nameEq a.channel b.channel = true ∧ a.kind = b.kind ∧ a.mask = b.mask

theorem MaskRow.unique_nil : ([] : List MaskRow).Pairwise (fun a b => ¬ a.sameKey b) := .nil

/-- The two runtime tables: what `chanserv_persist.c` owns. Rows of `masks` are in rowid order,
    and the primary key keeps them apart. -/
structure RuntimeTables where
  runtime : List RuntimeRow := []
  masks : List MaskRow := []
  masks_unique : masks.Pairwise (fun a b => ¬ a.sameKey b) := by exact MaskRow.unique_nil

/-- chanserv.db and the shared connection of chanserv_persist.c. -/
structure ChanServStore where
  channels : List ChanServChannel := []
  access : List ChanServAccess := []
  /-- What is committed. -/
  tables : RuntimeTables := {}
  /-- `channel_masks` exists. A table of the 0.20 development schema, which the source discards
      on first use, is not modelled. -/
  maskTable : Bool := true
  /-- `shared_db` is open. -/
  sharedOpen : Bool := false
  /-- `shared_schema_ready`. -/
  schemaReady : Bool := false
  /-- A transaction whose COMMIT failed stays open: what the connection then reads. -/
  pending : Option RuntimeTables := none

/-- A row of `nickserv_accounts`. -/
structure NickServAccount where
  name : Text
  passwordHash : Text := []
  vhost : Text := []
  enabled : Bool := true
  lastIdentifiedAt : Nat := 0
  deriving DecidableEq, Repr

/-- A row of `operators`; its dates are read by nothing. -/
structure OperatorRecord where
  name : Text
  passwordHash : Text
  permissions : Text := []
  vhost : Text := []
  enabled : Bool := true
  deriving DecidableEq, Repr

/-- All databases, and how the statements issued against them turn out. -/
structure Storage where
  /-- The outcome of each statement, in the order they are issued. -/
  io : Nat → Bool := fun _ => true
  /-- How many were issued. -/
  ioPos : Nat := 0
  chanserv : ChanServStore := {}
  nickserv : List NickServAccount := []
  operators : List OperatorRecord := []

/-! ## 3. The server -/

/-- The options of `ServerConfig` that the modelled functions read. -/
structure ServerConfig where
  serverName : Text := "scratch.local".toList
  networkName : Text := "ScratchNet".toList
  serverPassword : Text := []
  adminEmail : Text := []
  maxChannels : Nat := 4096
  nospoofEnabled : Bool := false
  cloakKey : Text := []
  cloakPrefix : Text := "dru".toList
  reservedNicks : List Text := []
  dnsblCount : Nat := 0
  netadminName : Text := []
  netadminPasswordHash : Text := []
  netadminHostmask : Text := "*!*@*".toList
  netadminVhost : Text := []

/-- Functions of third parties. -/
structure External where
  /-- The first four bytes of HMAC-SHA256 under the key, of `label|data`. -/
  hmac32 : Text → Text → Text → Option Nat := fun _ _ _ => some 0
  /-- `inet_pton`: the address bytes. -/
  inetPton4 : Text → Option Text := fun _ => none
  inetPton6 : Text → Option Text := fun _ => none
  /-- `argon2id_hash_encoded` and `argon2id_verify`. -/
  argonHash : Text → Option Text := some
  argonVerify : Text → Text → Bool := fun a b => a == b

/-- `client_free_hook`: who is told when a client is freed. -/
inductive FreeHook where
  | none | presence | pmstats
  deriving DecidableEq, Repr

/-- A line delivered to a client; `toOper` is the recipient's operator status at that moment. -/
structure Delivery where
  dest : ClientRef
  line : Line
  toOper : Bool
  deriving DecidableEq, Repr

/-- `Server`. -/
structure Server where
  config : ServerConfig
  ext : External
  /-- `time(NULL)` of the event being handled. -/
  now : Nat
  storage : Storage
  /-- The answers of the rate limiters (auth_limit.h, the NickServ throttles), in call order. -/
  admits : Nat → Bool
  admitPos : Nat
  /-- `server->clients[]`, in array order. -/
  clients : List ClientRef
  client : ClientRef → Client
  nextClient : ClientRef
  nextClientId : Nat
  clientsByNick : HashTable ClientRef
  channelsByName : HashTable ChannelRef
  channel : ChannelRef → Channel
  nextChannel : ChannelRef
  channelCount : Nat
  whowas : List WhowasRecord
  freeHook : FreeHook
  /-- `pmstats_server` is set. -/
  pmstatsActive : Bool
  /-- Everything delivered so far, oldest first. -/
  out : List Delivery

theorem buckets_pos : 0 < 4093 := by decide

/-- `server_init`: nobody connected, no channel, tables of 4093 buckets. -/
def Server.initial (config : ServerConfig) (ext : External) (storage : Storage) : Server where
  config := config
  ext := ext
  now := 0
  storage := storage
  admits := fun _ => true
  admitPos := 0
  clients := []
  client := fun _ => {}
  nextClient := 0
  nextClientId := 1
  clientsByNick := ChainedTable.empty 4093 buckets_pos
  channelsByName := ChainedTable.empty 4093 buckets_pos
  channel := fun _ => { name := [] }
  nextChannel := 0
  channelCount := 0
  whowas := []
  freeHook := .none
  pmstatsActive := false
  out := []

end ScratchIrcd
