/-
  File:      ScratchIrcd/Query.lean
  Subject:   The commands that only read: LIST, NAMES, WHO and WHOIS (src/commands/list.c,
             names.c, who.c, whois.c) with the rules of src/visibility.c. The rule for a topic
             query is the one of NAMES and stands with TOPIC.

  Each command is the list of lines it answers with. GeoIP data is kept with the connection, so
  WHOIS takes it as an argument.
-/
import ScratchIrcd.Bans
import ScratchIrcd.Topic

namespace ScratchIrcd

open CText

/-- The delimiters of `strtok(params, " ,")`. -/
def isBlankOrComma (x : Char) : Bool := x == ' ' || x == ','

namespace Server

/-! ## 1. Replies -/

/-- Lines for one client, in order. -/
def sendAll (s : Server) (c : ClientRef) (lines : List Line) : Server :=
  s.deliver (lines.map fun l => (c, l))

/-- `:<server> <code> <nick> <params>` for `c`. -/
def reply (s : Server) (c : ClientRef) (code : Nat) (params : List Field) : Line :=
  ⟨.server, .numeric code (s.client c).nick params⟩

/-- The bytes of a numeric that repeats a query, without the query. -/
def queryBase (s : Server) (c : ClientRef) (code : Nat) (text : String) : Nat :=
  ((s.reply c code [lit "", lit text]).wire s.config.serverName).length

/-- `send_end_of_names_query`, `send_end_of_who_query`: the query as typed, cut to fit. -/
def queryReply (s : Server) (c : ClientRef) (code : Nat) (query : Text) (text : String) : List Line :=
  let base := s.queryBase c code text
  if ircLineContentMax < base then []
  else [s.reply c code [bounded (ircLineContentMax - base) query, lit text]]

/-! ## 2. Visibility -/

/-- `visibility_list_channel` -/
def listVisible (s : Server) (c : ClientRef) (ch : ChannelRef) : Bool :=
  if (s.channel ch).name.head? = some '&' then false
  else if (s.client c).isOper || s.inChannel ch c then true
  else decide (Disjoint (s.channel ch).modes {.privateChan, .secret})

/-- `visibility_share_channel` -/
def visibilityShareChannel (s : Server) (c subject : ClientRef) : Bool :=
  c == subject || s.shareChannel c subject

/-- `visibility_who_user` -/
def whoVisible (s : Server) (c subject : ClientRef) : Bool :=
  if !(s.client subject).registered then false
  else if c == subject || (s.client c).isOper then true
  else if ClientMode.invisible ∉ (s.client subject).modes then true
  else s.visibilityShareChannel c subject

/-- `visibility_whois_channel` -/
def whoisVisible (s : Server) (c subject : ClientRef) (ch : ChannelRef) : Bool :=
  if c == subject || (s.client c).isOper then true
  else if ClientMode.privateMode ∈ (s.client subject).modes then false
  else if s.inChannel ch c then true
  else decide (Disjoint (s.channel ch).modes {.privateChan, .secret}) &&
    decide ((s.channel ch).name.head? ≠ some '&')

/-! ## 3. LIST and NAMES -/

/-- The channels in the order of the hash table. -/
def channelRefs (s : Server) : List ChannelRef := s.channelsByName.values

def listLine (s : Server) (c : ClientRef) (ch : ChannelRef) : Line :=
  s.reply c 322 [(s.channel ch).name, decimal (s.channel ch).memberCount,
    (':' :: (s.channel ch).topic : Text)]

/-- `command_list`; its parameter is not read. -/
def commandList (s : Server) (c : ClientRef) (_params : Option Text) : Server :=
  if !(s.client c).registered then s.notRegistered c
  else s.sendAll c (s.reply c 321 [lit "Channel", lit ":Users  Name"] ::
    (s.channelRefs.filter (s.listVisible c)).map (s.listLine c) ++
    [s.reply c 323 [lit ":End of /LIST"]])

/-- The channel sign of names.c. -/
def namesMarker (chan : Channel) : Char :=
  if ChannelMode.secret ∈ chan.modes then '@'
  else if decide (ChannelMode.privateChan ∈ chan.modes) || decide (chan.name.head? = some '&') then '*'
  else '='

/-- `send_names_for_channel`. A channel that is not shown is answered under its own name. -/
def namesForChannel (s : Server) (c : ClientRef) (ch : ChannelRef) : List Line :=
  if !s.namesVisible c ch then [s.endOfNames c ch]
  else s.namesReplies c (namesMarker (s.channel ch)) ch ++ [s.endOfNames c ch]

/-- NAMES with a name. -/
def namesQuery (s : Server) (c : ClientRef) (name : Text) : List Line :=
  match s.findChannel name with
  | some ch => s.namesForChannel c ch
  | none => s.queryReply c 366 name ":End of /NAMES list."

/-- `command_names` -/
def commandNames (s : Server) (c : ClientRef) (params : Option Text) : Server :=
  if !(s.client c).registered then s.notRegistered c
  else match params.bind (strtok isBlankOrComma) with
    | some (name, _) => s.sendAll c (s.namesQuery c name)
    | none => s.sendAll c ((s.channelRefs.filter (s.namesVisible c)).flatMap (s.namesForChannel c))

/-! ## 4. WHO -/

/-- The status field of a 352 line. -/
def whoStatus (s : Server) (c subject : ClientRef) (channel : Option ChannelRef) : Text :=
  (if (s.client subject).away.isEmpty then 'H' else 'G') ::
    ((if (s.client subject).isOper &&
        (decide (ClientMode.hideOper ∉ (s.client subject).modes) || (s.client c).isOper)
      then ['*'] else []) ++
    ((channel.bind fun ch => (s.channel ch).findMember subject).bind
      fun m => privilegePrefix m.privileges).toList)

/-- `send_who_reply` -/
def whoReply (s : Server) (c : ClientRef) (channel : Option ChannelRef) (subject : ClientRef) : Line :=
  let sub := s.client subject
  s.reply c 352 [(channel.map fun ch => (s.channel ch).name).getD ['*'], sub.user,
    { text := sub.displayHost, hosts := [(subject, sub.displayHost)] }, s.config.serverName,
    sub.nick, s.whoStatus c subject channel, (":0 ".toList ++ sub.realname : Text)]

/-- WHO of a channel. -/
def whoChannel (s : Server) (c : ClientRef) (mask : Text) : List Line :=
  match (s.findChannel mask).filter (s.namesVisible c) with
  | some ch => ((s.memberRefs ch).filter (s.whoVisible c)).map (s.whoReply c (some ch))
  | none => []

/-- WHO of a nickname. -/
def whoNick (s : Server) (c : ClientRef) (mask : Text) : List Line :=
  (((s.findNick mask).filter (s.whoVisible c)).map (s.whoReply c none)).toList

/-- WHO of everybody. -/
def whoAll (s : Server) (c : ClientRef) : List Line :=
  (s.clients.filter (s.whoVisible c)).map (s.whoReply c none)

/-- The 352 lines for a mask. -/
def whoLines (s : Server) (c : ClientRef) : Option Text → List Line
  | none => s.whoAll c
  | some mask =>
      if startsChannel mask then s.whoChannel c mask
      else if mask ≠ ['0'] ∧ mask ≠ ['*'] then s.whoNick c mask
      else s.whoAll c

/-- `command_who` -/
def commandWho (s : Server) (c : ClientRef) (params : Option Text) : Server :=
  let mask := (params.bind strtokSpace).map Prod.fst
  if !(s.client c).registered then s.notRegistered c
  else s.sendAll c (s.whoLines c mask ++ s.queryReply c 315 (mask.getD ['*']) ":End of /WHO list.")

/-! ## 5. WHOIS -/

/-- `send_whois_user`: the real name is cut so that the line fits. -/
def whoisUser (s : Server) (c target : ClientRef) : List Line :=
  let t := s.client target
  let line (realname : Text) := s.reply c 311 [t.nick, t.user,
    { text := t.displayHost, hosts := [(target, t.displayHost)] }, lit "*", (':' :: realname : Text)]
  let overhead := ((line []).wire s.config.serverName).length
  if ircLineContentMax < overhead then []
  else [line (bounded (min (ircLineContentMax - overhead) ircRealnameMax) t.realname)]

/-- A channel as WHOIS shows it. -/
def whoisToken (s : Server) (target : ClientRef) (ch : ChannelRef) : Text :=
  (((s.channel ch).findMember target).bind fun m => privilegePrefix m.privileges).toList ++
    (s.channel ch).name

/-- The channels shown; a token too long for its buffer is left out. -/
def whoisTokens (s : Server) (c target : ClientRef) : List Text :=
  (((s.client target).channels.filter (s.whoisVisible c target)).map (s.whoisToken target)).filter
    fun token => decide (token.length < ircChannelNameMax + 2)

def whoisChannelsLine (s : Server) (c target : ClientRef) (tokens : List Text) : Line :=
  s.reply c 319 [(s.client target).nick, (':' :: joinBlank tokens : Text)]

/-- The loop of `send_whois_channels`: fill a line while it fits, then start the next. A token
    that fits no line is left out. `current` is the line being filled. -/
def whoisChunks (fit : List Text → Bool) (current : List Text) : List Text → List (List Text)
  | [] => if current.isEmpty then [] else [current]
  | e :: es =>
      if fit (current ++ [e]) then whoisChunks fit (current ++ [e]) es
      else (if current.isEmpty then [] else [current]) ++
        whoisChunks fit (if fit [e] then [e] else []) es

/-- `send_whois_channels` -/
def whoisChannels (s : Server) (c target : ClientRef) : List Line :=
  (whoisChunks (fun tokens => s.fits (s.whoisChannelsLine c target tokens)) []
    (s.whoisTokens c target)).map (s.whoisChannelsLine c target)

/-- `<name> (<code>)`, or the one that is known. -/
def placeText (label : String) (name code : Text) : List Text :=
  if !name.isEmpty && !code.isEmpty then [label.toList ++ name ++ " (".toList ++ code ++ [')']]
  else if !name.isEmpty then [label.toList ++ name]
  else if !code.isEmpty then [label.toList ++ code]
  else []

/-- The texts of `send_whois_geoip`. -/
def geoipTexts (geoip : ClientGeoIP) : List Text :=
  placeText "GeoIP Country: " geoip.countryName geoip.countryCode ++
  placeText "GeoIP Region: " geoip.regionName geoip.regionCode ++
  placeText "GeoIP City: " geoip.city [] ++
  placeText "GeoIP Continent: " geoip.continentCode [] ++
  placeText "GeoIP Network: " geoip.network [] ++
  (if geoip.asn = 0 then [] else ["GeoIP ASN: AS".toList ++ decimal geoip.asn]) ++
  placeText "GeoIP Organization: " geoip.organization []

/-- A WHOIS line about `target` with one text. -/
def whoisText (s : Server) (c target : ClientRef) (code : Nat) (text : Field) : Line :=
  s.reply c code [(s.client target).nick, text]

/-- 301, and who the target is: account, bot, helper, operator, secure connection. -/
def whoisStanding (s : Server) (c target : ClientRef) : List Line :=
  let t := s.client target
  let shown := decide (ClientMode.hideOper ∉ t.modes) || (s.client c).isOper
  (if t.away.isEmpty then [] else [s.whoisText c target 301 (':' :: t.away : Text)]) ++
  (if ClientMode.registered ∈ t.modes then
    (if !t.accountName.isEmpty && !strcasecmpEq t.nick t.accountName then
      [s.whoisText c target 320 (":is logged in as ".toList ++ t.accountName : Text)]
    else [s.whoisText c target 307 (lit ":is a registered nick")]) else []) ++
  (if ClientMode.bot ∈ t.modes then [s.whoisText c target 335 (lit ":is a \x02Bot\x02")] else []) ++
  (if ClientMode.helpop ∈ t.modes then
    [s.whoisText c target 310 (lit ":is available for help.")] else []) ++
  (if decide (ClientMode.netadmin ∈ t.modes) && shown then
    [s.whoisText c target 313 (lit ":is an Administrator")]
  else if decide (ClientMode.oper ∈ t.modes) && shown then
    [s.whoisText c target 313 (lit ":is an IRCop")] else []) ++
  (if ClientMode.secure ∈ t.modes then
    [s.whoisText c target 671 (lit ":is using a secure connection")] else [])

/-- 317, when the target does not hide it. -/
def whoisIdle (s : Server) (c target : ClientRef) : List Line :=
  let t := s.client target
  if decide (ClientMode.hideIdle ∉ t.modes) || c == target || (s.client c).isOper then
    [s.reply c 317 [t.nick, decimal (s.now - t.lastActivity), decimal t.signonTime,
      lit ":seconds idle signon time"]]
  else []

/-- What only the target and operators see. -/
def whoisAudit (s : Server) (geoip : Option ClientGeoIP) (c target : ClientRef) : List Line :=
  let t := s.client target
  let host := if t.realHost.isEmpty then t.realIp else t.realHost
  if c == target || (s.client c).isOper then
    s.whoisText c target 378
      { text := ":is connecting from *@".toList ++ host ++ ' ' :: t.realIp
        hosts := [(target, host), (target, t.realIp)] } ::
    ((geoip.map geoipTexts).getD []).map (fun text => s.whoisText c target 320 (':' :: text : Text)) ++
    (if t.versionReceived then
      [s.whoisText c target 672 (':' :: t.clientVersion : Text)] else []) ++
    (if t.webircActive && t.websiteReceived then
      [s.whoisText c target 673 (':' :: t.clientWebsite : Text)] else [])
  else []

/-- `send_missing_whois`: both lines repeat the query, cut to what fits the longer one. -/
def missingWhois (s : Server) (c : ClientRef) (query : Text) : List Line :=
  let base := max (s.queryBase c 401 ":No such nick/channel") (s.queryBase c 318 ":End of /WHOIS list.")
  let shown := bounded (ircLineContentMax - base) query
  if ircLineContentMax < base then []
  else [s.reply c 401 [shown, lit ":No such nick/channel"], s.reply c 318 [shown, lit ":End of /WHOIS list."]]

/-- All the lines about one target. -/
def whoisLines (s : Server) (geoip : Option ClientGeoIP) (c target : ClientRef) : List Line :=
  s.whoisUser c target ++
  [s.reply c 312 [(s.client target).nick, s.config.serverName, (':' :: s.config.networkName : Text)]] ++
  s.whoisStanding c target ++ s.whoisChannels c target ++ s.whoisIdle c target ++
  s.whoisAudit geoip c target ++ [s.whoisText c target 318 (lit ":End of /WHOIS list.")]

/-- The notice an operator with +W gets. -/
def whoisNotice (s : Server) (c target : ClientRef) : Server :=
  if target != c && decide (ClientMode.whoisNotice ∈ (s.client target).modes) &&
      (s.client target).isOper then
    s.serverNotice target
      { text := "*** ".toList ++ (s.client c).identity ++ " did a /WHOIS on you".toList
        hosts := [(c, (s.client c).displayHost)] }
  else s

/-- `command_whois` -/
def commandWhois (s : Server) (geoip : ClientRef → Option ClientGeoIP) (c : ClientRef)
    (params : Option Text) : Server :=
  if !(s.client c).registered then s.notRegistered c
  else match params.bind (strtok isBlankOrComma) with
    | none => s.sendAll c [s.reply c 431 [lit ":No nickname given"]]
    | some (name, _) =>
        match s.findNick name with
        | none => s.sendAll c (s.missingWhois c name)
        | some target => (s.whoisNotice c target).sendAll c (s.whoisLines (geoip target) c target)

end Server

end ScratchIrcd
