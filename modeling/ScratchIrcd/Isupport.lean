/-
  File:      ScratchIrcd/Isupport.lean
  Subject:   The second 005 line and PCHANNELS (`send_pchannels_isupport` of src/commands/common.c).

  The names of the registered channels come from a cached text, separated by commas. The first line
  also carries the other tokens; when a name does not fit any more the line goes out and the next
  one starts with it.
-/
import ScratchIrcd.Query

namespace ScratchIrcd

open CText

/-- The texts between commas, as the cursor of `send_pchannels_isupport` finds them: behind a comma
    at the very end there is none. -/
def commaFields (cached : Text) : List Text :=
  let fields := cached.splitOn ','
  if fields.getLast? = some [] then fields.dropLast else fields

/-- The tokens in front of the history limit in `second_base` of `send_isupport`. -/
def isupportTokens : Text :=
  "EXCEPTS=e INVEX=I MAXLIST=b:100,e:100,I:100 WATCH=128 SILENCE=64 TARGMAX=PRIVMSG:1,NOTICE:1,".toList ++
    "JOIN:1,PART:1,KICK:1,NAMES:1 MSGREFTYPES=timestamp CHATHISTORY=".toList

/-- `second_base` of `send_isupport`. -/
def isupportBase (historyLimit : Nat) : Text :=
  isupportTokens ++ decimal historyLimit

/-- One payload: the first one stands behind the other tokens. -/
def pchannelsPayload (historyLimit : Nat) (part : Bool × List Text) : Text :=
  (if part.1 then isupportBase historyLimit ++ [' '] else []) ++ "PCHANNELS=".toList ++ [','].intercalate part.2

/-- The loop of `send_pchannels_isupport`: the names of the payload being filled are `current`. A
    field that is no name ends it, and so does a name that fits no line of its own. -/
def pchannelsLoop (fit : Bool × List Text → Bool) (first : Bool) (current : List Text) :
    List Text → List (Bool × List Text)
  | [] => if fit (first, current) then [(first, current)] else []
  | name :: rest =>
      if name.isEmpty || decide (ircChannelNameMax < name.length) then []
      else if fit (first, current ++ [name]) then pchannelsLoop fit first (current ++ [name]) rest
      else (if fit (first, current) then [(first, current)] else []) ++
        (if fit (false, [name]) then pchannelsLoop fit false [name] rest else [])

namespace Server

/-- `RPL_PROTOCOLS` -/
def pchannelsLine (s : Server) (c : ClientRef) (historyLimit : Nat) (part : Bool × List Text) : Line :=
  s.reply c 5 [pchannelsPayload historyLimit part, lit ":are supported by this server"]

/-- The payloads `send_pchannels_isupport` sends for a cached text. -/
def pchannelsParts (s : Server) (c : ClientRef) (historyLimit : Nat) (cached : Text) :
    List (Bool × List Text) :=
  pchannelsLoop (fun part => s.fits (s.pchannelsLine c historyLimit part)) true [] (commaFields cached)

/-- `send_pchannels_isupport`. -/
def sendPchannels (s : Server) (c : ClientRef) (historyLimit : Nat) (cached : Text) : Server :=
  s.sendAll c ((s.pchannelsParts c historyLimit cached).map (s.pchannelsLine c historyLimit))

end Server

/-- Names without commas are found again. -/
theorem commaFields_intercalate {names : List Text} (h : ∀ w ∈ names, w ≠ [] ∧ ',' ∉ w) :
    commaFields ([','].intercalate names) = names := by
  unfold commaFields
  by_cases hnil : names = []
  · subst hnil
    rfl
  · dsimp only
    rw [List.splitOn_intercalate ',' (fun w hw => (h w hw).2) hnil, if_neg]
    intro hlast
    exact (h [] (List.mem_of_getLast? hlast)).1 rfl

end ScratchIrcd
