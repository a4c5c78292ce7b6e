/-
  File:      ScratchIrcd/Line.lean
  Subject:   What the server writes to its clients.

  A line is kept structured: where it comes from, its verb or numeric, its parameters. The
  bytes on the wire are `Line.wire`. Text in which the server wrote a client's host carries
  that client along (`Field.hosts`, `Source.user`): the annotation is not on the wire, it
  records whose host the bytes show, which is what a statement about addresses is about.
-/
import ScratchIrcd.Names

namespace ScratchIrcd

open CText

/-- A `Client *`: the serial number of the allocation. Never reused. -/
abbrev ClientRef := Nat

/-- A `Channel *`, likewise. -/
abbrev ChannelRef := Nat

/-- A piece of wire text, with the clients whose host it shows and the host shown. -/
structure Field where
  text : Text
  hosts : List (ClientRef × Text) := []
  deriving DecidableEq, Repr

instance : Coe Text Field := ⟨fun t => { text := t }⟩

/-- Fixed text of a reply. -/
def lit (s : String) : Field := { text := s.toList }

/-- The prefix of a line. -/
inductive Source where
  /-- `:<server_name>` -/
  | server
  /-- `:<nick>!<user>@<host>` of a client. -/
  | user (subject : ClientRef) (nick user host : Text)
  /-- `:<service>!service@<server_name>` -/
  | service (name : Text)
  /-- No prefix at all (`PING :token`). -/
  | bare
  deriving DecidableEq, Repr

/-- The part of a line after its prefix. -/
inductive Body where
  /-- `extended` carries account and real name (IRCv3 extended-join). -/
  | join (channel : Text) (extended : Option (Text × Text))
  | part (channel reason : Text)
  | kick (channel nick reason : Text)
  | quit (reason : Text)
  | nick (newNick : Text)
  | privmsg (target text : Text)
  | notice (target : Text) (text : Field)
  | tagmsg (target : Text)
  | mode (target changes : Text)
  | topic (channel text : Text)
  | invite (nick channel : Text)
  | away (reason : Text)
  | account (name : Text)
  /-- Operator broadcasts: the verb as sent. -/
  | operText (verb text : Text)
  /-- One 353 line: the channel's marker and name, and the prefixed nicknames. -/
  | namesReply (target : Text) (marker : Char) (channel : Text) (names : List (Option Char × Text))
  /-- The 366 line. -/
  | endOfNames (target channel : Text)
  | numeric (code : Nat) (target : Text) (params : List Field)
  /-- Lines of the registration protocol: `PING`, `ERROR`, `CAP`, ... -/
  | raw (text : Field)
  deriving DecidableEq, Repr

structure Line where
  source : Source
  body : Body
  deriving DecidableEq, Repr

/-! ## 1. Hosts shown -/

/-- Replies: numerics, notices of the server or of a service, and lines of the registration
    protocol. Nothing that a client did is relayed by one. -/
def Line.isReply : Line → Bool
  | ⟨.server, .numeric _ _ _⟩ => true
  | ⟨.server, .notice _ _⟩ => true
  | ⟨.service _, .notice _ _⟩ => true
  | ⟨_, .namesReply _ _ _ _⟩ => true
  | ⟨_, .endOfNames _ _⟩ => true
  | ⟨_, .raw _⟩ => true
  | _ => false

/-! ## 2. Bytes -/

/-- Words separated by single blanks. -/
def joinBlank : List Text → Text
  | [] => []
  | [w] => w
  | w :: ws => w ++ ' ' :: joinBlank ws

/-- `%03d` -/
def threeDigits (n : Nat) : Text :=
  [n / 100 % 10, n / 10 % 10, n % 10].map fun d => Char.ofNat (d + '0'.toNat)

def Source.wire (serverName : Text) : Source → Text
  | .server => ':' :: serverName ++ [' ']
  | .user _ n u h => ':' :: n ++ '!' :: u ++ '@' :: h ++ [' ']
  | .service name => ':' :: name ++ "!service@".toList ++ serverName ++ [' ']
  | .bare => []

def namesToken (p : Option Char × Text) : Text := p.1.toList ++ p.2

def Body.wire : Body → Text
  | .join ch none => "JOIN ".toList ++ ch
  | .join ch (some (acct, realname)) =>
      "JOIN ".toList ++ ch ++ ' ' :: acct ++ " :".toList ++ realname
  | .part ch reason => "PART ".toList ++ ch ++ " :".toList ++ reason
  | .kick ch n reason => "KICK ".toList ++ ch ++ ' ' :: n ++ " :".toList ++ reason
  | .quit reason => "QUIT :".toList ++ reason
  | .nick n => "NICK :".toList ++ n
  | .privmsg target text => "PRIVMSG ".toList ++ target ++ " :".toList ++ text
  | .notice target text => "NOTICE ".toList ++ target ++ " :".toList ++ text.text
  | .tagmsg target => "TAGMSG ".toList ++ target
  | .mode target changes => "MODE ".toList ++ target ++ ' ' :: changes
  | .topic ch text => "TOPIC ".toList ++ ch ++ " :".toList ++ text
  | .invite n ch => "INVITE ".toList ++ n ++ " :".toList ++ ch
  | .away reason => if reason.isEmpty then "AWAY".toList else "AWAY :".toList ++ reason
  | .account name => "ACCOUNT ".toList ++ name
  | .operText verb text => verb ++ " :".toList ++ text
  | .namesReply target marker ch names =>
      "353 ".toList ++ target ++ ' ' :: marker :: ' ' :: ch ++ " :".toList ++
        joinBlank (names.map namesToken)
  | .endOfNames target ch => "366 ".toList ++ target ++ ' ' :: ch ++ " :End of /NAMES list.".toList
  | .numeric code target params =>
      threeDigits code ++ ' ' :: target ++ params.flatMap (fun p => ' ' :: p.text)
  | .raw text => text.text

/-- The bytes of a line, without CR LF. -/
def Line.wire (serverName : Text) (l : Line) : Text := l.source.wire serverName ++ l.body.wire

end ScratchIrcd
