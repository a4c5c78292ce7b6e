/-
  File:      ScratchIrcd/Relay.lean
  Subject:   Lines that announce membership: JOIN, AWAY on join, NAMES (src/ircv3.c, and
             `command_send_names` of src/commands/common.c), and the bytes a client reads.
-/
import ScratchIrcd.Server

namespace ScratchIrcd

open CText

namespace Server

/-! ## 1. Announcements -/

/-- The line fits the wire: `ircv3_message_wire_fits`, `kick_wire_fits`, `names_payload_fits`. -/
def fits (s : Server) (l : Line) : Bool :=
  decide ((l.wire s.config.serverName).length ≤ ircLineContentMax)

/-- The account of a client as extended-join and account-notify show it. -/
def shownAccount (s : Server) (c : ClientRef) : Text :=
  if (s.client c).accountName.isEmpty then ['*'] else (s.client c).accountName

/-- The JOIN line of `c` for one recipient. -/
def joinLine (s : Server) (ch : ChannelRef) (c recipient : ClientRef) : Line :=
  ⟨s.userSource c, .join (s.channel ch).name
    (if Capability.extendedJoin ∈ (s.client recipient).capabilities then
      some (s.shownAccount c, (s.client c).realname) else none)⟩

/-- `ircv3_broadcast_join`. -/
def broadcastJoin (s : Server) (ch : ChannelRef) (c : ClientRef) : Server :=
  s.deliver ((s.memberRefs ch).map fun r => (r, s.joinLine ch c r))

/-- The recipients `send_away_notify` does not skip. -/
def wantsAway (s : Server) (c recipient : ClientRef) : Bool :=
  recipient != c && decide (Capability.awayNotify ∈ (s.client recipient).capabilities)

def awayLine (s : Server) (c : ClientRef) : Line := ⟨s.userSource c, .away (s.client c).away⟩

/-- `ircv3_away_notify_join`. -/
def awayNotifyJoin (s : Server) (ch : ChannelRef) (c : ClientRef) : Server :=
  if (s.client c).away.isEmpty then s
  else s.deliver (((s.memberRefs ch).filter (s.wantsAway c)).map fun r => (r, s.awayLine c))

/-- A member as NAMES shows it. -/
def namesEntry (s : Server) (m : Member) : Option Char × Text :=
  (privilegePrefix m.privileges, (s.client m.client).nick)

/-- One 353 line. -/
def namesLine (s : Server) (c : ClientRef) (marker : Char) (ch : ChannelRef)
    (names : List (Option Char × Text)) : Line :=
  ⟨.server, .namesReply (s.client c).nick marker (s.channel ch).name names⟩

/-- The loop of `command_send_names`: fill a line while it fits, then start the next. `current`
    is the line being filled. -/
def namesChunks (fit : List (Option Char × Text) → Bool) (current : List (Option Char × Text)) :
    List (Option Char × Text) → List (List (Option Char × Text))
  | [] => if current.isEmpty then [] else [current]
  | e :: es =>
      if fit (current ++ [e]) then namesChunks fit (current ++ [e]) es
      else if current.isEmpty then namesChunks fit [e] es
      else current :: namesChunks fit [e] es

/-- The 353 lines for the members of a channel. An empty channel gets one empty line. -/
def namesReplies (s : Server) (c : ClientRef) (marker : Char) (ch : ChannelRef) : List Line :=
  let chunks := namesChunks (fun names => s.fits (s.namesLine c marker ch names)) []
    ((s.channel ch).members.map s.namesEntry)
  (if (s.channel ch).memberCount = 0 then chunks ++ [[]] else chunks).map (s.namesLine c marker ch)

/-- The 366 line. -/
def endOfNames (s : Server) (c : ClientRef) (ch : ChannelRef) : Line :=
  ⟨.server, .endOfNames (s.client c).nick (s.channel ch).name⟩

/-- `command_send_names`. -/
def sendNames (s : Server) (ch : ChannelRef) (c : ClientRef) : Server :=
  let marker := if (s.channel ch).name.head? = some '&' then '*' else '='
  s.deliver ((s.namesReplies c marker ch ++ [s.endOfNames c ch]).map fun l => (c, l))

/-! ## 2. What a client reads -/

/-- The lines a client gets on the way from `s` to `s'`. -/
def linesTo (s s' : Server) (c : ClientRef) : List Line :=
  ((s'.out.drop s.out.length).filter fun d => d.dest == c).map (·.line)

theorem linesTo_self (s : Server) (c : ClientRef) : s.linesTo s c = [] := by
  unfold linesTo
  simp

theorem linesTo_of_out {s s' s'' : Server} {c : ClientRef} (h : s''.out = s'.out) :
    s.linesTo s'' c = s.linesTo s' c := by
  unfold linesTo
  rw [h]

theorem linesTo_deliver (s : Server) (c : ClientRef) (ds : List (ClientRef × Line)) :
    s.linesTo (s.deliver ds) c = (ds.filter fun d => d.1 == c).map (·.2) := by
  unfold linesTo deliver
  simp [List.filter_map, Function.comp_def]

theorem linesTo_send_self (s : Server) (c : ClientRef) (l : Line) : s.linesTo (s.send c l) c = [l] := by
  unfold send
  rw [linesTo_deliver]
  simp

theorem linesTo_send_other (s : Server) {c r : ClientRef} (h : r ≠ c) (l : Line) :
    s.linesTo (s.send r l) c = [] := by
  unfold send
  rw [linesTo_deliver]
  simp [h]

/-- The bytes a client gets on the way from `s` to `s'`. -/
def bytesTo (s s' : Server) (c : ClientRef) : List Text :=
  ((s'.out.drop s.out.length).filter fun d => d.dest == c).map fun d => d.line.wire s.config.serverName

/-- A numeric of the server, as bytes. -/
def numericBytes (config : ServerConfig) (code : Nat) (nick : Text) (params : List Field) : Text :=
  (⟨.server, .numeric code nick params⟩ : Line).wire config.serverName

section

variable (s : Server) (c : ClientRef)

theorem bytesTo_send (l : Line) :
    s.bytesTo (s.send c l) c = [l.wire s.config.serverName] := by
  unfold bytesTo send deliver
  simp

theorem bytesTo_numeric (code : Nat) (params : List Field) :
    s.bytesTo (s.numeric c code params) c = [numericBytes s.config code (s.client c).nick params] :=
  bytesTo_send s c _

theorem bytesTo_notRegistered : s.bytesTo (s.notRegistered c) c =
    [numericBytes s.config 451 (s.client c).replyNick [lit ":You have not registered"]] :=
  bytesTo_send s c _

theorem bytesTo_self : s.bytesTo s c = [] := by
  unfold bytesTo
  simp

end

theorem bytesTo_of_out {s s' s'' : Server} (h : s''.out = s'.out) (c : ClientRef) :
    s.bytesTo s'' c = s.bytesTo s' c := by
  unfold bytesTo
  rw [h]

theorem numericBytes_two (config : ServerConfig) (code : Nat) (nick : Text) (a b : Field) :
    numericBytes config code nick [a, b] =
      (':' :: config.serverName ++ ' ' :: threeDigits code ++ ' ' :: nick ++ [' ']) ++
        (a.text ++ (' ' :: b.text)) := by
  have hwire : numericBytes config code nick [a, b] = (':' :: config.serverName ++ [' ']) ++
      (threeDigits code ++ ' ' :: nick ++ (' ' :: a.text ++ (' ' :: b.text ++ []))) := rfl
  rw [hwire]
  simp only [List.cons_append, List.append_assoc, List.nil_append, List.append_nil]

theorem numericBytes_inj {config : ServerConfig} {code : Nat} {nick : Text} {a a' b : Field}
    (h : numericBytes config code nick [a, b] = numericBytes config code nick [a', b]) :
    a.text = a'.text := by
  rw [numericBytes_two, numericBytes_two] at h
  exact List.append_cancel_right (List.append_cancel_left h)

end Server

end ScratchIrcd
