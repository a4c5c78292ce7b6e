/-
  File:      ScratchIrcd/Server.lean
  Subject:   The server's primitive operations: sending, the heaps, the channel table
             (src/client.c, src/channel.c, src/server.c, src/message_policy.c).

  Every command is a composition of these. Each touches few fields; the `@[simp]` lemmas say,
  operation by operation, which ones it leaves alone.
-/
import ScratchIrcd.State

namespace ScratchIrcd

open CText

namespace Server

/-! ## 1. Sending -/

/-- Queue lines, in order. -/
def deliver (s : Server) (ds : List (ClientRef × Line)) : Server :=
  { s with out := s.out ++ ds.map fun d =>
      { dest := d.1, line := d.2, toOper := (s.client d.1).isOper } }

/-- `client_send_line`, `client_sendf`. -/
def send (s : Server) (c : ClientRef) (l : Line) : Server := s.deliver [(c, l)]

/-- `:<server> <code> <nick> <params>` -/
def numeric (s : Server) (c : ClientRef) (code : Nat) (params : List Field) : Server :=
  s.send c ⟨.server, .numeric code (s.client c).nick params⟩

/-- The reply of `command_require_registered`. -/
def notRegistered (s : Server) (c : ClientRef) : Server :=
  s.send c ⟨.server, .numeric 451 (s.client c).replyNick [lit ":You have not registered"]⟩

/-- 461 for a command that lacks a parameter. -/
def needMoreParams (s : Server) (c : ClientRef) (command : String) : Server :=
  s.numeric c 461 [lit command, lit ":Not enough parameters"]

/-- A numeric that repeats what the client typed, cut so that the line fits
    (`send_no_such_channel_query`, `send_kick_query_error`, ...). -/
def queryNumeric (s : Server) (c : ClientRef) (code : Nat) (query : Text) (text : String) :
    Server :=
  let base := (⟨.server, .numeric code (s.client c).nick [lit "", lit text]⟩ : Line).wire
    s.config.serverName
  if ircLineContentMax < base.length then s
  else s.numeric c code [bounded (ircLineContentMax - base.length) query, lit text]

/-- `:<server> NOTICE <nick> :<text>` -/
def serverNotice (s : Server) (c : ClientRef) (text : Field) : Server :=
  s.send c ⟨.server, .notice (s.client c).nick text⟩

/-- `:<service>!service@<server> NOTICE <nick> :<text>` -/
def serviceNotice (s : Server) (service : String) (c : ClientRef) (text : Text) : Server :=
  s.send c ⟨.service service.toList, .notice (s.client c).nick text⟩

/-- The prefix of a line a client is the source of. -/
def userSource (s : Server) (c : ClientRef) : Source :=
  .user c (s.client c).nick (s.client c).user (s.client c).displayHost

/-- The members of a channel in list order. -/
def memberRefs (s : Server) (ch : ChannelRef) : List ClientRef :=
  (s.channel ch).members.map (·.client)

/-- `channel_broadcast`: one line to every member but `except`. -/
def broadcast (s : Server) (ch : ChannelRef) (except : Option ClientRef) (l : Line) : Server :=
  s.deliver (((s.memberRefs ch).filter fun c => some c != except).map fun c => (c, l))

/-- Does `snotice_broadcast` reach this client? -/
def takesSnotice (s : Server) (category : Finset Snotice) (c : ClientRef) : Bool :=
  (s.client c).registered && (s.client c).isOper &&
    decide (ClientMode.serverNotices ∈ (s.client c).modes) &&
    decide (¬ Disjoint (s.client c).snoticeMask category)

/-- Cut a text into pieces of at most `n` bytes; the empty text is one empty piece. The fuel is
    the length of the text, of which every piece takes at least one byte. -/
def chunksOf (n : Nat) : Nat → Text → List Text
  | 0, t => [t]
  | fuel + 1, t => if t.length ≤ n then [t] else t.take n :: chunksOf n fuel (t.drop n)

/-- What `send_server_notice_chunks` sends to one client: nothing when the text has a line
    break or the frame leaves no room. -/
def snoticeLines (s : Server) (text : Text) (c : ClientRef) : List (ClientRef × Line) :=
  let frame := (⟨.server, .notice (s.client c).nick (lit "*** ")⟩ : Line).wire s.config.serverName
  if text.any isLineBreak || decide (ircLineContentMax ≤ frame.length) then []
  else (chunksOf (ircLineContentMax - frame.length) text.length text).map fun piece =>
    (c, ⟨.server, .notice (s.client c).nick ("*** ".toList ++ piece : Text)⟩)

/-- `snotice_broadcast`: a notice to the registered operators that asked for the category. -/
def snotice (s : Server) (category : Finset Snotice) (text : Text) : Server :=
  s.deliver ((s.clients.filter (s.takesSnotice category)).flatMap (s.snoticeLines text))

/-! ## 2. Rate limiters -/

/-- The answer of the next rate limiter, and one such call made. -/
def admitOk (s : Server) : Bool := s.admits s.admitPos

def admitTick (s : Server) : Server := { s with admitPos := s.admitPos + 1 }

/-! ## 3. The heaps -/

def updClient (s : Server) (c : ClientRef) (f : Client → Client) : Server :=
  { s with client := Function.update s.client c (f (s.client c)) }

def updChannel (s : Server) (ch : ChannelRef) (f : Channel → Channel) : Server :=
  { s with channel := Function.update s.channel ch (f (s.channel ch)) }

/-- `hash_get(&server->clients_by_nick, nick)`. -/
def findNick (s : Server) (nick : Text) : Option ClientRef := s.clientsByNick.get nick

/-- `hash_get(&server->channels_by_name, name)`. -/
def findChannel (s : Server) (name : Text) : Option ChannelRef := s.channelsByName.get name

/-- Is the client a member of the channel? -/
def inChannel (s : Server) (ch : ChannelRef) (c : ClientRef) : Bool := (s.channel ch).hasClient c

/-- `clients_share_channel`. -/
def shareChannel (s : Server) (a b : ClientRef) : Bool :=
  (s.client a).channels.any fun ch => s.inChannel ch b

/-- `channel_add_client`: both halves of a membership. -/
def addToChannel (s : Server) (ch : ChannelRef) (c : ClientRef) : Server :=
  if s.inChannel ch c then s
  else (s.updChannel ch (·.addMember c)).updClient c (·.link ch)

/-- `channel_remove_client`. -/
def removeFromChannel (s : Server) (ch : ChannelRef) (c : ClientRef) : Server :=
  (s.updChannel ch (·.removeMember c)).updClient c (·.unlink ch)

/-- The state with a fresh channel object under `name`. -/
def createChannel (s : Server) (name : Text) : Server :=
  { s with
    channel := Function.update s.channel s.nextChannel { name := name }
    channelsByName := s.channelsByName.set name s.nextChannel
    nextChannel := s.nextChannel + 1
    channelCount := s.channelCount + 1 }

/-- `server_get_or_create_channel`. -/
def getOrCreateChannel (s : Server) (name : Text) : Option ChannelRef × Server :=
  match s.findChannel name with
  | some ch => (some ch, s)
  | none =>
      if s.config.maxChannels ≤ s.channelCount then (none, s)
      else if channelNameValid name then (some s.nextChannel, s.createChannel name)
      else (none, s)

/-- `server_remove_channel_if_empty`. -/
def removeChannelIfEmpty (s : Server) (ch : ChannelRef) : Server :=
  if (s.channel ch).memberCount ≠ 0 then s
  else if (s.findChannel (s.channel ch).name).isSome then
    { s with
      channelsByName := s.channelsByName.remove (s.channel ch).name
      channelCount := s.channelCount - 1 }
  else s

/-! ## 4. What each operation leaves alone -/

section Frame

variable (s : Server) (ds : List (ClientRef × Line)) (c c' : ClientRef) (ch ch' : ChannelRef)
  (f : Client → Client) (g : Channel → Channel)

@[simp] theorem deliver_channel : (s.deliver ds).channel = s.channel := rfl

@[simp] theorem updClient_channel : (s.updClient c f).channel = s.channel := rfl
@[simp] theorem updClient_self : (s.updClient c f).client c = f (s.client c) :=
  Function.update_self ..

theorem updClient_of_ne (h : c' ≠ c) : (s.updClient c f).client c' = s.client c' :=
  Function.update_of_ne h ..

@[simp] theorem updChannel_client : (s.updChannel ch g).client = s.client := rfl
@[simp] theorem updChannel_out : (s.updChannel ch g).out = s.out := rfl
@[simp] theorem updChannel_self : (s.updChannel ch g).channel ch = g (s.channel ch) :=
  Function.update_self ..

theorem updChannel_of_ne (h : ch' ≠ ch) : (s.updChannel ch g).channel ch' = s.channel ch' :=
  Function.update_of_ne h ..

end Frame

/-! ## 5. Replies -/

/-- Only replies are sent. -/
def Replies (ds : List (ClientRef × Line)) : Prop := ∀ d ∈ ds, d.2.isReply = true

theorem replies_one {c : ClientRef} {l : Line} (h : l.isReply = true) : Replies [(c, l)] := by
  intro d hd
  rw [List.mem_singleton.mp hd]
  exact h

/-- What `snotice_broadcast` sends. -/
theorem replies_snotice (s : Server) (category : Finset Snotice) (text : Text) :
    Replies ((s.clients.filter (s.takesSnotice category)).flatMap (s.snoticeLines text)) := by
  intro d hd
  obtain ⟨r, -, hd⟩ := List.mem_flatMap.mp hd
  unfold snoticeLines at hd
  dsimp only at hd
  split at hd
  · cases hd
  · obtain ⟨piece, -, rfl⟩ := List.mem_map.mp hd
    rfl

end Server

end ScratchIrcd
