/-
  File:      ScratchIrcd/Mode.lean
  Subject:   User modes, and MODE as the dispatcher calls it: src/commands/mode.c inside
             src/commands/mode_persist.c inside src/commands/mode_control.c.

  `command_mode` is defined three times and renamed by the build, so a MODE line runs through
  three layers, each of which parses its parameters again.
-/
import ScratchIrcd.ChannelMode
import ScratchIrcd.Cloak

namespace ScratchIrcd

open CText

/-! ## 1. User mode letters -/

/-- `client_mode_bit`. -/
def clientModeLetters : List (Char × ClientMode) :=
  [('B', .bot), ('d', .deaf), ('g', .globals), ('H', .hideOper), ('h', .helpop), ('I', .hideIdle),
   ('i', .invisible), ('N', .netadmin), ('o', .oper), ('p', .privateMode), ('R', .regonlyMsg),
   ('r', .registered), ('S', .service), ('s', .serverNotices), ('T', .noCtcp), ('t', .vhost),
   ('V', .webirc), ('W', .whoisNotice), ('w', .wallops), ('x', .cloaked), ('z', .secure)]

def clientModeBit (letter : Char) : Option ClientMode :=
  (clientModeLetters.find? fun x => x.1 == letter).map (·.2)

/-- `client_mode_self_settable`. -/
def clientModeSelfSettable (letter : Char) : Bool := "BdgipRsTw".toList.contains letter

/-- `format_client_modes`, over the letters and bits of one layer. -/
def formatModes (bit : Char → Option ClientMode) (letters : String) (modes : ClientModeSet) : Text :=
  '+' :: letters.toList.filter fun l => (bit l).any (· ∈ modes)

/-- `bit_for_letter` of mode_control.c. -/
def bitForLetter (letter : Char) : Option ClientMode :=
  if letter == 'D' then some .privateDeaf
  else if letter == 'M' then some .channelMute
  else clientModeBit letter

/-- `client_mode_add` or `client_mode_remove` on the client's modes. -/
def Client.setMode (c : Client) (bit : ClientMode) (on : Bool) : Client :=
  { c with modes := if on then insert bit c.modes else c.modes.erase bit }

namespace Server

/-! ## 2. mode.c -/

/-- `ERR_NOPRIVILEGES`. -/
def noPrivileges (s : Server) (c : ClientRef) : Server :=
  s.numeric c 481 [lit ":Permission Denied- You do not have the correct IRC operator privileges"]

/-- One letter of `mode_user`. -/
def modeUserLetter (c : ClientRef) (s : Server) (l : Bool × Char) : Server :=
  match clientModeBit l.2 with
  | none => s.numeric c 501 [lit ":Unknown MODE flag"]
  | some bit =>
      if clientModeSelfSettable l.2 then s.updClient c (·.setMode bit l.1) else s.noPrivileges c

/-- `mode_user`. -/
def modeUser (s : Server) (c : ClientRef) (target : Text) (modes : Option Text) : Server :=
  match s.findNick target with
  | none => s.numeric c 401 [target, lit ":No such nick/channel"]
  | some subject =>
      if subject != c then s.numeric c 502 [lit ":Cant change mode for other users"]
      else
        let s := (signedLetters true (modes.getD [])).foldl (modeUserLetter c) s
        s.numeric c 221 [formatModes clientModeBit "BdghHiNopRrSsTtVWwxz" (s.client c).modes]

/-- The letters of `send_channel_modes`, and the parameters that go with them. -/
def channelModeTexts (chan : Channel) : Text × Text :=
  let booleans := "AciKMmnOprRSstTVz".toList.filter fun l =>
    (channelBooleanModeBit l).any (· ∈ chan.modes)
  let values : List (Char × Text) :=
    (if chan.key.isEmpty then [] else [('k', chan.key)]) ++
    (if chan.userLimit = 0 then [] else [('l', decimal chan.userLimit)]) ++
    (if chan.joinThrottleCount = 0 then []
      else [('j', decimal chan.joinThrottleCount ++ ':' :: decimal chan.joinThrottleSeconds)]) ++
    (if chan.limitRedirect.isEmpty then [] else [('L', chan.limitRedirect)]) ++
    (if chan.banRedirect.isEmpty then [] else [('B', chan.banRedirect)])
  ('+' :: booleans ++ values.map (·.1), joinBlank (values.map (·.2)))

/-- The words of a MODE: target, mode string, and at most 32 parameters. -/
def modeWords (params : Text) : Option (Text × Option (Text × List Text)) :=
  (strtokSpace params).map fun (target, rest) =>
    (target, (strtokSpace rest).map fun (modes, rest) =>
      (modes, (spaceWords rest.length rest).take 32))
where
  /-- Repeated `strtok(NULL, " ")`; every word takes at least one byte. -/
  spaceWords : Nat → Text → List Text
    | 0, _ => []
    | fuel + 1, t =>
        match strtokSpace t with
        | none => []
        | some (word, rest) => word :: spaceWords fuel rest

/-- The mode string behind a target. -/
theorem modeWords_append {target rest : Text} (hne : target ≠ [])
    (hword : ∀ x ∈ target, (x == ' ') = false) : modeWords (target ++ ' ' :: rest) =
      some (target, (strtokSpace rest).map fun (modes, rest) =>
        (modes, (modeWords.spaceWords rest.length rest).take 32)) := by
  unfold modeWords
  rw [strtokSpace, strtok_append hne hword rfl]
  rfl

theorem modeWords_self {target : Text} (hne : target ≠ []) (hword : ∀ x ∈ target, (x == ' ') = false) :
    modeWords target = some (target, none) := by
  unfold modeWords
  rw [strtokSpace, strtok_self hne hword]
  rfl

theorem word_of_modeWords {params target : Text} {modes : Option (Text × List Text)}
    (h : modeWords params = some (target, modes)) :
    target ≠ [] ∧ ∀ x ∈ target, (x == ' ') = false := by
  unfold modeWords at h
  obtain ⟨⟨tok, rest⟩, htok, heq⟩ := Option.map_eq_some_iff.mp h
  cases heq
  exact strtok_token htok

/-- `command_mode_core`. The format of 324 has no place for the parameters here. -/
def commandModeCore (s : Server) (c : ClientRef)
    (params : Option Text) : Server :=
  if !(s.client c).registered then s.notRegistered c
  else match params with
    | none => s.needMoreParams c "MODE"
    | some params =>
      match modeWords params with
      | none => s
      | some (target, modes) =>
          if !startsChannel target then s.modeUser c target (modes.map (·.1))
          else match s.findChannel target with
            | none => s.numeric c 403 [target, lit ":No such channel"]
            | some ch =>
              match modes with
              | none => s.numeric c 324 [(s.channel ch).name, (channelModeTexts (s.channel ch)).1]
              | some (letters, args) => s.modeChannel c ch letters args

/-! ## 3. mode_persist.c -/

/-- The answer to a bare `MODE #channel`, key included. -/
def sendChannelModes (s : Server) (c : ClientRef) (ch : ChannelRef) : Server :=
  let (modes, params) := channelModeTexts (s.channel ch)
  s.numeric c 324 [(s.channel ch).name,
    (if params.isEmpty then modes else modes ++ ' ' :: params : Text)]

/-- The variables of `handle_special_user_modes`. -/
structure SpecialModes where
  server : Server
  consumed : Bool := false
  filtered : Text := []
  lastSign : Option Char := none

/-- The modes of operators that a client may set on itself here. -/
def operatorModeBit (letter : Char) : Option ClientMode :=
  if letter == 'H' then some .hideOper
  else if letter == 'I' then some .hideIdle
  else if letter == 'W' then some .whoisNotice
  else if letter == 'g' then some .globals
  else if letter == 's' then some .serverNotices
  else none

/-- One letter of `handle_special_user_modes`. -/
def specialModeLetter (c : ClientRef) (isOper : Bool) (st : SpecialModes) (l : Bool × Char) :
    SpecialModes :=
  if l.2 == 'x' then
    { st with
      consumed := true
      server := st.server.updClient c fun cl =>
        if l.1 then cl.applyCloak st.server.config st.server.ext else cl.removeCloak }
  else match operatorModeBit l.2 with
    | some bit =>
        { st with
          consumed := true
          server := if isOper then st.server.updClient c (·.setMode bit l.1)
            else st.server.noPrivileges c }
    | none =>
        let (filtered, lastSign) := appendMode 128 st.filtered st.lastSign (signChar l.1) l.2
        { st with filtered := filtered, lastSign := lastSign }

/-- `handle_special_user_modes` with what `command_mode` does after it: `none` when nothing was
    consumed and the parameters go on as they are. -/
def specialUserModes (s : Server) (c : ClientRef) (target modes : Text) : Option Server :=
  if s.findNick target != some c then none
  else
    let st := (signedLetters true modes).foldl (specialModeLetter c (s.client c).isOper) { server := s }
    if !st.consumed then none
    else some (st.server.commandModeCore c
      (some (if st.filtered.isEmpty then target else target ++ ' ' :: st.filtered)))

/-- The end of `command_mode`: a changed +j starts a new window, and the channel is saved. -/
def modeSave (s : Server) (before : Option (Nat × Nat)) (name : Text) : Server :=
  match s.findChannel name with
  | none => s
  | some ch =>
      let chan := s.channel ch
      let s := if before.getD (0, 0) = (chan.joinThrottleCount, chan.joinThrottleSeconds) then s
        else s.updChannel ch (·.joinThrottleClear)
      s.persistChannel ch

/-- The channel a target names here: the name is cut to 32 bytes first. -/
def modeTarget (s : Server) (target : Text) : Option ChannelRef :=
  s.findChannel (bounded ircChannelNameMax target)

/-- The part of `command_mode` for a channel that was found: refused, or `mode.c` and the save. -/
def modeChannelPolicy (s : Server) (c : ClientRef) (ch : ChannelRef) (target letters : Text)
    (args : List Text) (params : Text) : Server :=
  match mlockRefuses (s.channel ch) letters with
  | some letter => s.numeric c 974 [[letter], lit ":Mode is locked by ChanServ"]
  | none =>
    match validateParams (s.channel ch) (signedLetters true letters) args with
    | some (code, reply) => s.numeric c code reply
    | none =>
        let chan := s.channel ch
        (s.commandModeCore c (some params)).modeSave
          (some (chan.joinThrottleCount, chan.joinThrottleSeconds))
          (bounded ircChannelNameMax target)

/-- `command_mode` of mode_persist.c. -/
def commandModePolicy (s : Server) (c : ClientRef) (params : Option Text) : Server :=
  match params with
  | none => s.commandModeCore c none
  | some params =>
    match modeWords params with
    | none => s.commandModeCore c (some params)
    | some (target, modes) =>
        if startsChannel target then
          match s.modeTarget target, modes with
          | some ch, none =>
              if !(s.client c).registered then s.notRegistered c else s.sendChannelModes c ch
          | some ch, some (letters, args) => s.modeChannelPolicy c ch target letters args params
          | none, _ =>
              (s.commandModeCore c (some params)).modeSave none (bounded ircChannelNameMax target)
        else match modes with
          | none => s.commandModeCore c (some params)
          | some (letters, _) =>
              (s.specialUserModes c target letters).getD (s.commandModeCore c (some params))

/-! ## 4. mode_control.c -/

/-- `send_full_user_modes`. -/
def sendFullUserModes (s : Server) (c : ClientRef) : Server :=
  s.numeric c 221 [formatModes bitForLetter "BDMdghHiINopRrSsTtVWwxz" (s.client c).modes]

/-- The +x and -x of mode_control.c. -/
def controlCloak (s : Server) (c : ClientRef) (adding : Bool) : Server :=
  let cl := s.client c
  if adding then
    if s.config.cloakKey.isEmpty || (cloakGenerate s.config s.ext cl.realIp cl.realHost).isNone then
      s.serverNotice c (lit "MODE +x unavailable: cloak_key is not configured")
    else s.updClient c (·.applyCloak s.config s.ext)
  else s.updClient c fun cl =>
    { cl.setMode .cloaked false with history := { cl.history with uncloaked := true } }.refreshDisplayHost
      s.config s.ext

/-- One letter of the loop in mode_control.c; `consumed` is `handled_x`. -/
def controlLetter (c : ClientRef) (st : SpecialModes) (l : Bool × Char) : SpecialModes :=
  if l.2 == 'D' || l.2 == 'M' then { st with server := st.server.noPrivileges c }
  else if l.2 == 'x' then
    { st with consumed := true, server := st.server.controlCloak c l.1 }
  else
    let (filtered, lastSign) := appendMode 128 st.filtered st.lastSign (signChar l.1) l.2
    { st with filtered := filtered, lastSign := lastSign }

/-- A MODE with a mode string whose target is, byte for byte, the client's own nickname. -/
def modeSelf (s : Server) (c : ClientRef) (target letters : Text) (rest : Option Text) : Server :=
  let st := (signedLetters true letters).foldl (controlLetter c) { server := s }
  let s := if st.filtered.isEmpty then st.server
    else st.server.commandModePolicy c (some (target ++ ' ' :: st.filtered ++
      (match rest with
        | some rest => ' ' :: rest
        | none => [])))
  if st.consumed then s.sendFullUserModes c else s

/-- The outermost `command_mode`. -/
def commandMode (s : Server) (c : ClientRef) (params : Option Text) : Server :=
  match params.bind strtokSpace with
  | none => s.commandModePolicy c params
  | some (target, rest) =>
      if target != (s.client c).nick then s.commandModePolicy c params
      else match strtokSpace rest with
        | none => if !(s.client c).registered then s.notRegistered c else s.sendFullUserModes c
        | some (letters, rest) =>
            if startsChannel target then s.commandModePolicy c params
            else if !(s.client c).registered then s.notRegistered c
            else s.modeSelf c target letters (strtokRest rest)

/-- `channel_mode_wire_fits` of the dispatcher. -/
def modeWireFits (cl : Client) (params : Option Text) : Bool :=
  match params with
  | none => true
  | some params =>
      !startsChannel (params.dropWhile (· == ' ')) ||
        decide (1 + cl.nick.length + 1 + cl.user.length + 1 + cl.displayHost.length + 6 +
          params.length ≤ 510)

/-- MODE from the dispatcher, which refuses one on a channel whose echo would not fit a line. -/
def dispatchMode (s : Server) (c : ClientRef) (params : Option Text) : Server :=
  if modeWireFits (s.client c) params then s.commandMode c params
  else s.send c ⟨.server, .numeric 417 (s.client c).replyNick [lit "MODE",
    lit ":MODE change would exceed the IRC line limit; split the change"]⟩

end Server

end ScratchIrcd
