/-
  File:      ScratchIrcd/Message.lean
  Subject:   PRIVMSG and NOTICE (src/commands/moderation_policy.c, src/commands/privmsg.c,
             src/commands/notice.c, src/message_policy.c, src/nospoof.c).

  The policy of moderation_policy.c runs first, the commands proper after it; only these ask
  whether the sender is registered. Writes to the history and to channel logs are left out.
-/
import ScratchIrcd.JoinPart
import ScratchIrcd.NickServ

namespace ScratchIrcd

open CText

/-! ## 1. Colours -/

/-- `message_contains_color`. -/
def messageContainsColor (text : Text) : Bool :=
  text.any fun x => x == '\x03' || x == '\x04' || x == '\x1b'

/-- Skip at most `n` characters of a kind. -/
def skipUpTo (kind : Char → Bool) : Nat → Text → Text
  | 0, text => text
  | _ + 1, [] => []
  | n + 1, x :: text => if kind x then skipUpTo kind n text else x :: text

/-- What follows a colour code: up to `n` digits, and as many again after a comma. -/
def skipColor (digit : Char → Bool) (n : Nat) (text : Text) : Text :=
  match skipUpTo digit n text with
  | ',' :: rest => skipUpTo digit n rest
  | rest => rest

/-- `isxdigit` of the C locale. -/
def isHexDigit (x : Char) : Bool :=
  x.isDigit || ('a' ≤ x && x ≤ 'f') || ('A' ≤ x && x ≤ 'F')

/-- `skip_irc_color` and `skip_irc_hex_color`, after the code itself. -/
def skipIrcColor (text : Text) : Text := skipColor (·.isDigit) 2 text

def skipIrcHexColor (text : Text) : Text := skipColor isHexDigit 6 text

/-- `skip_ansi_sgr`, after the escape: what follows the sequence, if it is one. -/
def skipAnsiSgr : Text → Option Text
  | '[' :: rest =>
      match rest.dropWhile fun x => x.isDigit || x == ';' || x == ':' with
      | 'm' :: rest => some rest
      | _ => none
  | _ => none

/-- The loop of `message_strip_color`. Every turn takes at least one character. -/
def stripColorLoop : Nat → Text → Text
  | 0, _ => []
  | _ + 1, [] => []
  | fuel + 1, x :: text =>
      if x == '\x03' then stripColorLoop fuel (skipIrcColor text)
      else if x == '\x04' then stripColorLoop fuel (skipIrcHexColor text)
      else if x == '\x1b' then
        match skipAnsiSgr text with
        | some rest => stripColorLoop fuel rest
        | none => x :: stripColorLoop fuel text
      else x :: stripColorLoop fuel text

/-- `message_strip_color` into a buffer of `outSize` bytes. -/
def messageStripColor (outSize : Nat) (text : Text) : Text :=
  bounded (outSize - 1) (stripColorLoop text.length text)

/-! ## 2. CTCP replies to the server -/

/-- `IRCD_CLIENT_VERSION_MAX`, `IRCD_CLIENT_WEBSITE_MAX`. -/
def ircdClientVersionMax : Nat := 255
def ircdClientWebsiteMax : Nat := 255

/-- `capture_ctcp`: the value of a reply to this query. -/
def captureCtcp (max : Nat) (text : Text) (name : String) : Option Text :=
  match text with
  | '\x01' :: rest =>
      if !strcasecmpEq (rest.take name.length) name.toList then none
      else
        let close (value : Text) : Text := if value.getLast? = some '\x01' then value.dropLast else value
        match rest.drop name.length with
        | ' ' :: value => some (bounded max (close value))
        | '\x01' :: value => some (bounded max (close ('\x01' :: value)))
        | _ => none
  | _ => none

namespace Server

/-- `nospoof_version_target_allowed`. -/
def versionTargetAllowed (s : Server) (c : ClientRef) (target : Option Text) : Bool :=
  !s.versionRestricted c ||
    target.any fun t => !startsChannel t && (s.findNick t).any fun r => (s.client r).isOper

/-- `nospoof_handle_notice`: the state with the reply noted, if the notice is one. -/
def nospoofHandleNotice (s : Server) (c : ClientRef) (params : Text) : Option Server :=
  let cl := s.client c
  if !s.config.nospoofEnabled then none
  else match strtokSpace params with
    | none => none
    | some (target, rest) =>
      match strtokRest rest with
      | none => none
      | some text =>
        if !strcasecmpEq target s.config.serverName then none
        else
          let text := dropColon text
          let version := captureCtcp ircdClientVersionMax text "VERSION"
          let website := captureCtcp ircdClientWebsiteMax text "WEBSITE"
          if cl.versionRequested && !cl.versionReceived && version.isSome then
            some (s.updClient c fun cl =>
              { cl with versionReceived := true, clientVersion := version.getD [] })
          else if cl.webircActive && cl.websiteRequested && !cl.websiteReceived && website.isSome then
            some (s.updClient c fun cl =>
              { cl with websiteReceived := true, clientWebsite := website.getD [] })
          else none

end Server

/-! ## 3. Relays -/

/-- The two kinds of message. -/
inductive MessageKind where
  | privmsg | notice
  deriving DecidableEq, Repr

/-- The verb on the wire. -/
def MessageKind.verb : MessageKind → String
  | .privmsg => "PRIVMSG"
  | .notice => "NOTICE"

def MessageKind.body (target text : Text) : MessageKind → Body
  | .privmsg => .privmsg target text
  | .notice => .notice target text

/-- `ircv3_message_wire_fits`. -/
def messageWireFits (cl : Client) (verb : String) (target text : Text) : Bool :=
  decide (1 + cl.nick.length + 1 + cl.user.length + 1 + cl.displayHost.length + 1 + verb.length + 1 +
    target.length + 2 + text.length ≤ ircLineContentMax)

/-- `usermode_deaf_allows_text`. -/
def deafAllowsText (cl : Client) (text : Text) : Bool :=
  decide (ClientMode.deaf ∉ cl.modes) || text.head? == some '!'

/-- The ban rule for messages: owners pass, protected members answer only to authorized bans. -/
def Channel.bansMessage (chan : Channel) (c : ClientRef) (cl : Client) : Bool :=
  match chan.findMember c with
  | some m =>
      if ChannelPrivilege.owner ∈ m.privileges then false
      else if ChannelPrivilege.protect ∈ m.privileges then chan.isBannedProtected cl.identity
      else chan.isBanned cl.identity
  | none => chan.isBanned cl.identity

/-- Why a channel takes no message of the client, in the order of the checks. -/
def Channel.refusesMessage (chan : Channel) (c : ClientRef) (cl : Client) (text : Text) :
    Option String :=
  let member := chan.findMember c
  if chan.bansMessage c cl then some "banned from channel (+b)"
  else if ChannelMode.noExternal ∈ chan.modes ∧ member.isNone then some "no external messages (+n)"
  else if ChannelMode.regonlySpeak ∈ chan.modes ∧ ClientMode.registered ∉ cl.modes then
    some "registered nickname required (+M)"
  else if ChannelMode.moderated ∈ chan.modes ∧ member.all fun m => decide (m.privileges = ∅) then
    some "moderated channel (+m)"
  else if ChannelMode.noColor ∈ chan.modes ∧ messageContainsColor text then
    some "colors are not permitted (+c)"
  else none

/-- What a channel makes of a text. -/
def Channel.deliveredText (chan : Channel) (text : Text) : Text :=
  if ChannelMode.stripColor ∈ chan.modes then messageStripColor 1024 text else text

/-- `presence_silence_matches`. -/
def Client.silences (cl sender : Client) : Bool :=
  cl.silenceList.any fun mask => ircMaskMatch mask sender.identity

/-- The reason of a 404. -/
def cannotSend (reason : String) : Field := lit (":Cannot send to channel (" ++ reason ++ ")")

namespace Server

/-- `ircv3_send_message`. -/
def sendMessage (s : Server) (c r : ClientRef) (kind : MessageKind) (target text : Text) : Server :=
  if !messageWireFits (s.client c) kind.verb target text then s
  else s.send r ⟨s.userSource c, kind.body target text⟩

/-- `ircv3_broadcast_message` of the sender to all others. -/
def broadcastMessage (s : Server) (ch : ChannelRef) (c : ClientRef) (kind : MessageKind)
    (text : Text) : Server :=
  let target := (s.channel ch).name
  if !messageWireFits (s.client c) kind.verb target text then s
  else s.deliver (((s.memberRefs ch).filter fun r =>
    r != c && (kind == .notice || deafAllowsText (s.client r) text)).map fun r =>
      (r, ⟨s.userSource c, kind.body target text⟩))

/-- `command_expensive_allow`: the budget of the client, then that of the server. A refusal is told
    to operators at most every few seconds, which is a limiter of its own. -/
def expensiveAllow (s : Server) (c : ClientRef) (command : String) : Bool × Server :=
  let cl := s.client c
  let refused (s : Server) (reply : String) (notice : String) : Bool × Server :=
    let s := s.send c ⟨.server, .numeric 263 cl.replyNick [lit command, lit reply]⟩
    let told := s.admitTick
    (false, if s.admitOk then told.snotice {.flood} (notice.toList ++ ": nick=".toList ++
      cl.replyNick ++ " real_ip=".toList ++ cl.realIp ++ " command=".toList ++ command.toList)
    else told)
  if cl.isOper then (true, s)
  else if !s.admitOk then
    refused s.admitTick ":Please wait before repeating this command" "Expensive command throttled"
  else if !s.admitTick.admitOk then
    refused s.admitTick.admitTick ":Server busy - please retry this expensive command shortly"
      "Global expensive-command budget exhausted"
  else (true, s.admitTick.admitTick)

/-! ## 4. privmsg.c and notice.c -/

/-- What a service does with a message; MemoServ is not modelled. -/
structure MessageServices where
  memoserv : Server → ClientRef → Text → Server := fun s _ _ => s

/-- A PRIVMSG to a channel. -/
def privmsgChannel (s : Server) (c : ClientRef) (target text : Text) : Server :=
  match s.findChannel target with
  | none => s.numeric c 403 [target, lit ":No such channel"]
  | some ch =>
      let chan := s.channel ch
      match chan.refusesMessage c (s.client c) text with
      | some reason => s.numeric c 404 [chan.name, cannotSend reason]
      | none =>
          let text := chan.deliveredText text
          if !messageWireFits (s.client c) "PRIVMSG" chan.name text then
            s.numeric c 417 [lit "PRIVMSG", lit ":Message would exceed the IRC relay line limit"]
          else (s.broadcastMessage ch c .privmsg text).updClient c
            fun cl => { cl with lastActivity := s.now }

/-- A PRIVMSG to a nickname. -/
def privmsgClient (s : Server) (c : ClientRef) (target text : Text) : Server :=
  let cl := s.client c
  match s.findNick target with
  | none => s.numeric c 401 [target, lit ":No such nick/channel"]
  | some r =>
      let destination := s.client r
      if destination.silences cl then s
      else if ClientMode.regonlyMsg ∈ destination.modes ∧ ClientMode.registered ∉ cl.modes then
        s.numeric c 486 [(':' :: destination.nick ++
          " only accepts private messages from registered users".toList : Text)]
      else if ClientMode.noCtcp ∈ destination.modes ∧ text.head? = some '\x01' then
        s.numeric c 492 [(':' :: destination.nick ++ " does not accept CTCPs".toList : Text)]
      else if !messageWireFits cl "PRIVMSG" destination.nick text then
        s.numeric c 417 [lit "PRIVMSG", lit ":Message would exceed the IRC relay line limit"]
      else
        let s := ((s.sendMessage c r .privmsg destination.nick text).pmstats 801
          [(':' :: cl.nick ++ ' ' :: destination.nick : Text)]).updClient c
            fun cl => { cl with lastActivity := s.now }
        if destination.away.isEmpty then s
        else s.numeric c 301 [destination.nick, (':' :: destination.away : Text)]

/-- `command_privmsg` of privmsg.c. -/
def commandPrivmsgCore (services : MessageServices) (s : Server) (c : ClientRef)
    (params : Option Text) : Server :=
  let limited (service : String) (serve : Server → Server) : Server :=
    match s.expensiveAllow c service with
    | (true, s) => serve s
    | (false, s) => s
  if !(s.client c).registered then s.notRegistered c
  else match params.bind strtokSpace with
    | none => s.numeric c 411 [lit ":No recipient given (PRIVMSG)"]
    | some (target, rest) =>
      if target.contains ',' then
        s.numeric c 407 [target, lit ":Duplicate recipients. No message delivered"]
      else match strtokRest rest with
        | none => s.numeric c 412 [lit ":No text to send"]
        | some text =>
          if text = [':'] then s.numeric c 412 [lit ":No text to send"]
          else
            let text := dropColon text
            if isWord target "NickServ" then limited "NICKSERV" fun s => s.nickservMessage c text
            else if isWord target "ChanServ" then
              limited "CHANSERV" fun s => s.commandChanserv c (some text)
            else if isWord target "MemoServ" then
              limited "MEMOSERV" fun s => services.memoserv s c text
            else if startsChannel target then s.privmsgChannel c target text
            else s.privmsgClient c target text

/-- A NOTICE to a channel. -/
def noticeChannel (s : Server) (c : ClientRef) (target text : Text) : Server :=
  match s.findChannel target with
  | none => s
  | some ch =>
      let chan := s.channel ch
      if ChannelMode.noNotice ∈ chan.modes ∨ (chan.refusesMessage c (s.client c) text).isSome then s
      else s.broadcastMessage ch c .notice (chan.deliveredText text)

/-- A NOTICE to a nickname. -/
def noticeClient (s : Server) (c : ClientRef) (target text : Text) : Server :=
  let cl := s.client c
  match s.findNick target with
  | none => s
  | some r =>
      let destination := s.client r
      if destination.silences cl ∨
          (ClientMode.regonlyMsg ∈ destination.modes ∧ ClientMode.registered ∉ cl.modes) ∨
          (ClientMode.noCtcp ∈ destination.modes ∧ text.head? = some '\x01') then s
      else s.sendMessage c r .notice destination.nick text

/-- `command_notice` of notice.c: no refusal is told. -/
def commandNoticeCore (s : Server) (c : ClientRef) (params : Option Text) : Server :=
  if !(s.client c).registered then s
  else match params with
    | none => s
    | some params =>
      match s.nospoofHandleNotice c params with
      | some s => s
      | none =>
        match (strtokSpace params).bind fun words => (strtokRest words.2).map (words.1, ·) with
        | none => s
        | some (target, text) =>
            let text := dropColon text
            if target.contains ',' || text.isEmpty then s
            else if startsChannel target then s.noticeChannel c target text
            else s.noticeClient c target text

/-! ## 5. moderation_policy.c -/

/-- `message_target`. -/
def messageTarget (params : Text) : Option Text := (strtokSpace params).map (·.1)

/-- The channel a target names, if it names one. -/
def messageChannel (s : Server) (target : Option Text) : Option ChannelRef :=
  target.bind fun t => if startsChannel t then s.findChannel t else none

/-- The client a target names, if it names one. -/
def messageClient (s : Server) (target : Option Text) : Option ClientRef :=
  target.bind fun t => if startsChannel t then none else s.findNick t

/-- `banned_channel_send`: the channel that bans the sender. -/
def bannedChannelSend (s : Server) (c : ClientRef) (target : Option Text) : Option ChannelRef :=
  (s.messageChannel target).filter fun ch => (s.channel ch).bansMessage c (s.client c)

/-- `muted_channel_send`: a sender with +M, where no privilege in the channel helps. -/
def mutedChannelSend (s : Server) (c : ClientRef) (target : Option Text) : Bool :=
  target.any startsChannel && decide (ClientMode.channelMute ∈ (s.client c).modes) &&
    !(s.client c).isOper &&
    !(s.messageChannel target).any fun ch =>
      ((s.channel ch).findMember c).any fun m => decide (m.privileges ≠ ∅)

/-- The reply of `muted_channel_send`. -/
def refuseMuted (s : Server) (c : ClientRef) (target : Option Text) : Server :=
  s.numeric c 404 [target.getD [], cannotSend "channel messaging disabled by user mode +M"]

/-- Is the destination deaf to this sender? -/
def deafTo (s : Server) (c r : ClientRef) : Bool :=
  decide (ClientMode.privateDeaf ∈ (s.client r).modes) && !(s.client c).isOper

/-- The outermost `command_privmsg`. -/
def commandPrivmsg (services : MessageServices) (s : Server) (c : ClientRef)
    (params : Option Text) : Server :=
  match params with
  | none => commandPrivmsgCore services s c none
  | some params =>
    let target := messageTarget params
    if !s.versionTargetAllowed c target then
      s.serverNotice c (lit ("You must respond to the CTCP VERSION request before joining channels " ++
        "or messaging anyone except an IRC operator or network administrator."))
    else match s.bannedChannelSend c target with
      | some ch => s.numeric c 404 [(s.channel ch).name, cannotSend "banned from channel (+b)"]
      | none =>
        if s.mutedChannelSend c target then s.refuseMuted c target
        else match s.messageClient target with
          | none => commandPrivmsgCore services s c (some params)
          | some r =>
              if s.deafTo c r then
                s.send c ⟨s.userSource r, .notice (s.client c).nick
                  (lit "I cannot send or receive private messages.")⟩
              else if s.deafTo r c then s
              else commandPrivmsgCore services s c (some params)

/-- The outermost `command_notice`. -/
def commandNotice (s : Server) (c : ClientRef) (params : Option Text) : Server :=
  match params with
  | none => s.commandNoticeCore c none
  | some params =>
    match s.nospoofHandleNotice c params with
    | some s => s
    | none =>
      let target := messageTarget params
      if !s.versionTargetAllowed c target then s
      else if (s.bannedChannelSend c target).isSome then s
      else if s.mutedChannelSend c target then s.refuseMuted c target
      else match s.messageClient target with
        | none => s.commandNoticeCore c (some params)
        | some r => if s.deafTo c r || s.deafTo r c then s else s.commandNoticeCore c (some params)

end Server

end ScratchIrcd
