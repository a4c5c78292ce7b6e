/-
  File:      ScratchIrcd/Authority.lean
  Subject:   KICK (src/commands/kick.c) and the commands operators force on others: SAJOIN, SAPART
             and SAMODE (src/commands/sajoin.c, sapart.c, samode.c).
-/
import ScratchIrcd.JoinPart
import ScratchIrcd.Mode

namespace ScratchIrcd

open CText

namespace Server

/-! ## 1. KICK -/

/-- The rank rule: whether `actor` may remove `target`. A protected member that is not an owner
    yields to protected members and owners; everyone else to a higher rank only. -/
def mayKick (actor target : Member) : Bool :=
  if target.client == actor.client then true
  else if ChannelPrivilege.protect ∈ target.privileges ∧
      ChannelPrivilege.owner ∉ target.privileges then
    decide (ChannelPrivilege.protect ∈ actor.privileges ∨ ChannelPrivilege.owner ∈ actor.privileges)
  else decide (privilegeRank target.privileges < privilegeRank actor.privileges)

/-- The reason a KICK is announced with: `IRC_DEFAULT_KICK_REASON` for none or one too long. -/
def kickReason (s : Server) (c : ClientRef) (ch : ChannelRef) (target : ClientRef)
    (reason : Option Text) : Text :=
  let typed := dropColon (reason.getD [])
  if !typed.isEmpty &&
      s.fits ⟨s.userSource c, .kick (s.channel ch).name (s.client target).nick typed⟩ then typed
  else "Kicked".toList

/-- Announce a KICK, remove the target, drop the channel if it is empty. -/
def kickChannel (s : Server) (c : ClientRef) (ch : ChannelRef) (target : ClientRef)
    (reason : Text) : Server :=
  ((s.broadcast ch none ⟨s.userSource c,
    .kick (s.channel ch).name (s.client target).nick reason⟩).removeFromChannel
      ch target).removeChannelIfEmpty ch

/-- KICK on a channel that exists, of the nickname `nick`. -/
def kickMember (s : Server) (c : ClientRef) (ch : ChannelRef) (nick : Text)
    (reason : Option Text) : Server :=
  let name := (s.channel ch).name
  match (s.channel ch).findMember c with
  | none => s.numeric c 442 [name, lit ":You're not on that channel"]
  | some actor =>
      if privilegeRank actor.privileges < 2 then
        s.numeric c 482 [name, lit ":You're not channel operator"]
      else match s.findNick nick with
        | none => s.queryNumeric c 401 nick ":No such nick/channel"
        | some target =>
          match (s.channel ch).findMember target with
          | none => s.numeric c 441 [(s.client target).nick, name,
              lit ":They aren't on that channel"]
          | some victim =>
              if mayKick actor victim then s.kickChannel c ch target (s.kickReason c ch target reason)
              else s.numeric c 484 [name, (":Cannot kick protected user ".toList ++
                (s.client target).nick ++ ['.'] : Text)]

/-- `command_kick`. -/
def commandKick (s : Server) (c : ClientRef) (params : Option Text) : Server :=
  if !(s.client c).registered then s.notRegistered c
  else match params.bind strtokSpace with
    | none => s.needMoreParams c "KICK"
    | some (name, rest) =>
      match strtokSpace rest with
      | none => s.needMoreParams c "KICK"
      | some (nick, rest) =>
          if !channelNameValid name then s.queryNumeric c 403 name ":No such channel"
          else match s.findChannel name with
            | none => s.numeric c 403 [name, lit ":No such channel"]
            | some ch => s.kickMember c ch nick (strtokRest rest)

/-! ## 2. SAJOIN and SAPART -/

/-- The words of a list separated by commas and blanks; every word takes at least one byte. -/
def listWords : Nat → Text → List Text
  | 0, _ => []
  | fuel + 1, t =>
      match strtok (fun x => x == ',' || x == ' ') t with
      | none => []
      | some (word, rest) => word :: listWords fuel rest

/-- The frame of SAJOIN, SAPART and SAMODE: who may, and the two parameters. -/
def withOverride (s : Server) (c : ClientRef) (command : String) (params : Option Text)
    (body : Text → Text → Server) : Server :=
  if !(s.client c).registered then s.notRegistered c
  else if OperPermission.override ∉ (s.client c).operPermissions then s.noPrivileges c
  else match params.bind strtokSpace with
    | none => s.needMoreParams c command
    | some (word, rest) =>
      match strtokRest rest with
      | none => s.needMoreParams c command
      | some rest => body word rest

/-- What SAJOIN does to the record of the channel it put the target into. It asks ChanServ only
    on a channel that carries +r already. -/
def forceSeat (s : Server) (target : ClientRef) (ch : ChannelRef) (first : Bool) : Server :=
  if (s.channel ch).isRegistered then
    let (privileges, s) := s.clientPrivileges target (s.channel ch).name
    if privileges = ∅ then s else s.updChannel ch (·.updateMember target (·.setService privileges))
  else if first then s.updChannel ch (·.updateMember target (·.addManual ownerPrivileges))
  else s

/-- The text of a SAJOIN or SAPART notice. -/
def forceNotice (s : Server) (c target : ClientRef) (ch : ChannelRef) (verb arrow : String) : Text :=
  verb.toList ++ " by ".toList ++ (s.client c).nick ++ ": ".toList ++ (s.client target).nick ++
    arrow.toList ++ (s.channel ch).name ++ " [real_ip=".toList ++ (s.client target).realIp ++ [']']

/-- What is said when SAJOIN put the target into the channel. -/
def forceAnnounce (s : Server) (c target : ClientRef) (ch : ChannelRef) : Server :=
  let s := (s.broadcastJoin ch target).awayNotifyJoin ch target
  let s := s.snotice {.moderation} (s.forceNotice c target ch "SAJOIN" " -> ")
  let s := if (s.channel ch).topic.isEmpty then s
    else s.numeric target 332 [(s.channel ch).name, (':' :: (s.channel ch).topic : Text)]
  s.sendNames ch target

/-- One channel name of a SAJOIN. -/
def forceJoin (c target : ClientRef) (s : Server) (name : Text) : Server :=
  if !channelNameValid name || decide (ircMaxChannelsPerClient ≤ (s.client target).channelCount) then s
  else match s.getOrCreateChannel name with
    | (none, s) => s
    | (some ch, s) =>
        if s.inChannel ch target then s
        else
          let first := decide ((s.channel ch).memberCount = 0)
          ((s.addToChannel ch target).forceSeat target ch first).forceAnnounce c target ch

/-- `command_sajoin`. -/
def commandSajoin (s : Server) (c : ClientRef) (params : Option Text) : Server :=
  s.withOverride c "SAJOIN" params fun nick channels =>
    match s.findNick nick with
    | none => s.numeric c 401 [nick, lit ":No such nick/channel"]
    | some target =>
        let s := (listWords channels.length channels).foldl (forceJoin c target) s
        s.serverNotice c ("SAJOIN completed for ".toList ++ (s.client target).nick : Text)

/-- What is said before SAPART takes the target out of the channel. -/
def forcePartAnnounce (s : Server) (c target : ClientRef) (ch : ChannelRef) : Server :=
  let reason := bounded 63 ("Forced part by ".toList ++ (s.client c).nick)
  let s := s.broadcast ch none ⟨s.userSource target, .part (s.channel ch).name reason⟩
  s.snotice {.moderation} (s.forceNotice c target ch "SAPART" " <- ")

/-- One channel name of a SAPART. -/
def forcePart (c target : ClientRef) (s : Server) (name : Text) : Server :=
  match s.findChannel name with
  | none => s
  | some ch =>
      if !s.inChannel ch target then s
      else ((s.forcePartAnnounce c target ch).removeFromChannel ch target).removeChannelIfEmpty ch

/-- `command_sapart`. -/
def commandSapart (s : Server) (c : ClientRef) (params : Option Text) : Server :=
  s.withOverride c "SAPART" params fun nick channels =>
    match s.findNick nick with
    | none => s.numeric c 401 [nick, lit ":No such nick/channel"]
    | some target =>
        let s := (listWords channels.length channels).foldl (forcePart c target) s
        s.serverNotice c ("SAPART completed for ".toList ++ (s.client target).nick : Text)

/-! ## 3. SAMODE -/

/-- `allowed_user_mode`. -/
def allowedUserMode (letter : Char) : Option ClientMode :=
  if "BdgHhIipRsTWw".toList.contains letter then clientModeBit letter else none

/-- One letter of `samode_user`. -/
def samodeUserLetter (c target : ClientRef) (s : Server) (l : Bool × Char) : Server :=
  match allowedUserMode l.2 with
  | none => s.numeric c 501 [lit ":Unknown MODE flag"]
  | some bit => s.updClient target (·.setMode bit l.1)

/-- `samode_user`. -/
def samodeUser (s : Server) (c target : ClientRef) (modes : Option Text) : Server :=
  match modes with
  | none => s.needMoreParams c "SAMODE"
  | some modes =>
      let s := (signedLetters true modes).foldl (samodeUserLetter c target) s
      let s := s.serverNotice c ("SAMODE completed for ".toList ++ (s.client target).nick : Text)
      s.snotice {.moderation} ("SAMODE by ".toList ++ (s.client c).nick ++ ": user ".toList ++
        (s.client target).nick ++ ' ' :: modes ++ " [real_ip=".toList ++
        (s.client target).realIp ++ [']'])

/-- `samode_channel_params_valid`: only the range of a +l. -/
def samodeLimitRefused : List (Bool × Char) → List Text → Bool
  | [], _ => false
  | (adding, letter) :: rest, args =>
      (letter == 'l' && adding && args.head?.any limitOutOfRange) ||
        samodeLimitRefused rest (if takesParam adding letter then args.tail else args)

/-- SAMODE seats its caller, if need be, and writes OWNER and OPERATOR into the one word. -/
def samodeRaise (s : Server) (c : ClientRef) (ch : ChannelRef) : Server :=
  (s.addToChannel ch c).updChannel ch (·.updateMember c fun g =>
    { g with privileges := g.privileges ∪ ownerPrivileges })

/-- The caller leaves, or has the three words it had. -/
def samodeRestore (s : Server) (c : ClientRef) (ch : ChannelRef) : Option Member → Server
  | none => s.removeFromChannel ch c
  | some m => s.updChannel ch (·.updateMember c fun _ => m.grants)

/-- SAMODE on a channel: `mode.c` is run with the authority of an owner. -/
def samodeChannel (s : Server) (c : ClientRef) (ch : ChannelRef) (target rest : Text) : Server :=
  let inside := (s.channel ch).findMember c
  let s := s.samodeRaise c ch
  let s := (s.commandModeCore c (some (target ++ ' ' :: rest))).persistChannel ch
  (s.snotice {.moderation} ("SAMODE by ".toList ++ (s.client c).nick ++
    ": channel ".toList ++ target ++ ' ' :: rest)).samodeRestore c ch inside

/-- `command_samode`. -/
def commandSamode (s : Server) (c : ClientRef) (params : Option Text) : Server :=
  s.withOverride c "SAMODE" params fun target rest =>
    if startsChannel target then
      match s.findChannel target with
      | none => s.numeric c 403 [target, lit ":No such channel"]
      | some ch =>
        match modeWords (target ++ ' ' :: rest) with
        | some (_, some (letters, args)) =>
            if samodeLimitRefused (signedLetters true letters) args then s.needMoreParams c "SAMODE"
            else s.samodeChannel c ch target rest
        | _ => s.samodeChannel c ch target rest
    else match s.findNick target with
      | none => s.numeric c 401 [target, lit ":No such nick/channel"]
      | some subject => s.samodeUser c subject ((strtokSpace rest).map (·.1))

end Server

end ScratchIrcd
