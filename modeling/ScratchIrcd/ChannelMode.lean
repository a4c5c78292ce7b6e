/-
  File:      ScratchIrcd/ChannelMode.lean
  Subject:   MODE on channels: the parser of src/commands/mode.c and the ChanServ layer around it
             (`check_mlock` and `validate_channel_mode_params` of src/commands/mode_persist.c).

  One letter is decided first (`modeLetter`: refused with a numeric, or an edit of the record)
  and carried out after. The loop of the source is `modeLoop`, over the letters that are left.
-/
import ScratchIrcd.Policy
import ScratchIrcd.Relay

namespace ScratchIrcd

open CText

/-! ## 1. Letters -/

/-- `channel_boolean_mode_bit`. -/
def channelModeLetters : List (Char × ChannelMode) :=
  [('A', .adminOnly), ('c', .noColor), ('i', .inviteOnly), ('K', .noKnock), ('M', .regonlySpeak),
   ('m', .moderated), ('n', .noExternal), ('O', .operOnly), ('p', .privateChan),
   ('r', .registered), ('R', .regonlyJoin), ('S', .stripColor), ('s', .secret),
   ('t', .topicLock), ('T', .noNotice), ('V', .noInvite), ('z', .secureOnly)]

def channelBooleanModeBit (letter : Char) : Option ChannelMode :=
  (channelModeLetters.find? fun x => x.1 == letter).map (·.2)

/-- `boolean_bit` of mode_persist.c, `persistent_mode_bit` of chanserv.c: all but +r. -/
def booleanBit (letter : Char) : Option ChannelMode :=
  if letter == 'r' then none else channelBooleanModeBit letter

/-- `channel_privilege_bit`. -/
def channelPrivilegeBit (letter : Char) : Option ChannelPrivilege :=
  (privilegeLetters.find? fun x => x.2 == letter).map (·.1)

/-- The list a letter stands for. -/
def listKind (letter : Char) : Option MaskKind :=
  if letter == 'b' then some .ban
  else if letter == 'e' then some .exception
  else if letter == 'I' then some .invex
  else none

def isSign (letter : Char) : Bool := letter == '+' || letter == '-'

/-- The letters of a mode string, each with whether the sign before it is `+`. Every parser of
    the source reads mode strings this way, starting from `+`. -/
def signedLetters (adding : Bool) : List Char → List (Bool × Char)
  | [] => []
  | letter :: rest =>
      if isSign letter then signedLetters (letter == '+') rest
      else (adding, letter) :: signedLetters adding rest

def signChar (adding : Bool) : Char := if adding then '+' else '-'

/-! ## 2. Numbers -/

/-- `isspace` in the C locale. -/
def isCSpace (c : Char) : Bool := c == ' ' || ('\t' ≤ c && c ≤ '\r')

/-- `parse_uint`: all of the text is a number in the eyes of `strtoul`. -/
def parseUint (t : Text) : Option Nat :=
  let (negative, digits) := match t.dropWhile isCSpace with
    | '-' :: rest => (true, rest)
    | '+' :: rest => (false, rest)
    | rest => (false, rest)
  if digits.isEmpty then none
  else
    match digitsVal 0 digits with
    | none => none
    | some value =>
        if 2 ^ 64 ≤ value then none
        else some (if negative then (2 ^ 64 - value) % 2 ^ 64 else value)

/-- The parameter of +j: `count:seconds`, both positive and within an unsigned int. -/
def parseThrottle (t : Text) : Option (Nat × Nat) :=
  if !t.contains ':' then none
  else
    match parseUint (t.takeWhile (· != ':')), parseUint ((t.dropWhile (· != ':')).drop 1) with
    | some count, some seconds =>
        if count = 0 ∨ seconds = 0 ∨ 2 ^ 32 ≤ count ∨ 2 ^ 32 ≤ seconds then none
        else some (count, seconds)
    | _, _ => none

/-! ## 3. Edits -/

/-- What one accepted mode letter does to the channel record. -/
inductive ChannelEdit where
  | boolean (bit : ChannelMode) (on : Bool)
  | grant (subject : ClientRef) (p : ChannelPrivilege)
  | revoke (subject : ClientRef) (p : ChannelPrivilege)
  | key (key : Text)
  | limit (n : Nat)
  | throttle (count seconds : Nat)
  | limitRedirect (target : Text)
  | banRedirect (target : Text)
  | addMask (kind : MaskKind) (mask : Text) (authorized : Bool)
  | removeMask (kind : MaskKind) (mask : Text)
  deriving DecidableEq

/-- Carry out an edit. Buffers cut what is too long; a mask that cannot be added is dropped. -/
def Channel.edit (ch : Channel) : ChannelEdit → Channel
  | .boolean bit on => { ch with modes := if on then insert bit ch.modes else ch.modes.erase bit }
  | .grant c p => ch.updateMember c (·.addManual {p})
  | .revoke c p => ch.updateMember c (·.removeManual {p})
  | .key k => { ch with key := bounded ircChannelKeyMax k }
  | .limit n => { ch with userLimit := n }
  | .throttle count seconds =>
      { ch with joinThrottleCount := count, joinThrottleSeconds := seconds }
  | .limitRedirect t => { ch with limitRedirect := bounded ircChannelNameMax t }
  | .banRedirect t => { ch with banRedirect := bounded ircChannelNameMax t }
  | .addMask kind mask authorized =>
      match maskAddAuthorized (ch.maskList kind) mask authorized with
      | .ok l => ch.setMaskList kind l
      | .error _ => ch
  | .removeMask kind mask => ch.setMaskList kind (maskRemove mask (ch.maskList kind))

/-- How one letter is decided. `consumes` tells whether it uses up its parameter. -/
inductive LetterOutcome where
  | refuse (code : Nat) (params : List Field) (consumes : Bool)
  | change (edit : ChannelEdit) (consumes : Bool) (shown : Option Text)

/-- `ERR_NEEDMOREPARAMS` of MODE. -/
def modeNeedsParam (consumes : Bool) : LetterOutcome :=
  .refuse 461 [lit "MODE", lit ":Not enough parameters"] consumes

/-- Rank an account needs before SecureOps lets a privilege be granted to it. -/
def secureRank : ChannelPrivilege → Nat
  | .owner => 5
  | .protect => 4
  | .operator => 3
  | .halfop => 2
  | .voice => 0

/-- Do the privileges of a member include one of `ps`? -/
def Channel.memberHas (ch : Channel) (c : ClientRef) (ps : ChannelPrivilegeSet) : Bool :=
  match ch.findMember c with
  | some m => decide (¬ Disjoint m.privileges ps)
  | none => false

/-- `may_change_channel`. -/
def Channel.mayChange (ch : Channel) (c : ClientRef) : Bool :=
  ch.memberHas c {.owner, .protect, .operator}

/-- `may_manage_protected`; also the authority behind a +b. -/
def Channel.mayManageProtected (ch : Channel) (c : ClientRef) : Bool :=
  ch.memberHas c {.owner, .protect}

namespace Server

/-- `ban_mask_targets_protected`. -/
def banTargetsProtected (s : Server) (ch : ChannelRef) (mask : Text) : Bool :=
  (s.channel ch).members.any fun m =>
    decide (ChannelPrivilege.protect ∈ m.privileges) &&
      !decide (ChannelPrivilege.owner ∈ m.privileges) &&
      ircMaskMatch mask (s.client m.client).identity

/-- `secureops_allows`: asks ChanServ only on a SecureOps channel. -/
def secureopsAllows (s : Server) (ch : ChannelRef) (subject : ClientRef) (p : ChannelPrivilege) :
    Bool × Server :=
  if !(s.channel ch).chanservSecureOps then (true, s)
  else
    let (eligible, s) := s.clientPrivileges subject (s.channel ch).name
    (decide (secureRank p ≤ privilegeRank eligible), s)

/-- A privilege letter with its parameter. Only +a and -a ask for the actor's own rank. -/
def modePrivilege (s : Server) (c : ClientRef) (ch : ChannelRef)
    (adding : Bool) (p : ChannelPrivilege) (param : Text) : LetterOutcome × Server :=
  match s.findNick param with
  | none => (.refuse 401 [param, lit ":No such nick/channel"] true, s)
  | some subject =>
      if !s.inChannel ch subject then
        (.refuse 441 [(s.client subject).nick, (s.channel ch).name,
          lit ":They aren't on that channel"] true, s)
      else
        let (allowed, s) := if adding then s.secureopsAllows ch subject p else (true, s)
        if !allowed then
          (.refuse 482 [(s.channel ch).name,
            lit ":SecureOps prevented granting protected status to an ineligible account"] true, s)
        else if p = .protect ∧ ¬ (s.channel ch).mayManageProtected c then
          (.refuse 482 [(s.channel ch).name, lit ":You're not channel operator"] true, s)
        else (.change (if adding then .grant subject p else .revoke subject p) true
          (some (s.client subject).nick), s)

/-- The letters that set a value of the channel. -/
def modeValue (adding : Bool) (letter : Char) (param : Option Text) : Option LetterOutcome :=
  if letter == 'k' then
    some <| match adding, param with
    | true, none => modeNeedsParam false
    | true, some p => .change (.key p) true (some p)
    | false, p => .change (.key []) p.isSome p
  else if letter == 'l' then
    some <| match adding, param with
    | true, none => modeNeedsParam false
    | true, some p => match parseUint p with
        | some (n + 1) => .change (.limit (n + 1)) true (some p)
        | _ => modeNeedsParam true
    | false, _ => .change (.limit 0) false none
  else if letter == 'j' then
    some <| match adding, param with
    | true, none => modeNeedsParam false
    | true, some p =>
        if 64 ≤ p.length then modeNeedsParam false
        else match parseThrottle p with
          | some (count, seconds) => .change (.throttle count seconds) true (some p)
          | none => modeNeedsParam true
    | false, _ => .change (.throttle 0 0) false none
  else if letter == 'L' then
    some <| match adding, param with
    | true, none => modeNeedsParam false
    | true, some p => .change (.limitRedirect p) true (some p)
    | false, _ => .change (.limitRedirect []) false none
  else if letter == 'B' then
    some <| match adding, param with
    | true, none => modeNeedsParam false
    | true, some p => .change (.banRedirect p) true (some p)
    | false, _ => .change (.banRedirect []) false none
  else none

/-- A list letter with its mask. A +b by an ordinary operator may not hit a protected member. -/
def modeMask (s : Server) (c : ClientRef) (ch : ChannelRef)
    (adding : Bool) (kind : MaskKind) (mask : Text) : LetterOutcome :=
  if !adding then .change (.removeMask kind mask) true (some mask)
  else
    let authorized := kind == .ban && (s.channel ch).mayManageProtected c
    if kind == .ban && !authorized && s.banTargetsProtected ch mask then
      .refuse 482 [(s.channel ch).name, lit ":You're not channel operator"] true
    else .change (.addMask kind mask authorized) true (some mask)

/-- The body of the loop in `mode_channel` for a letter that is not a sign or a list query. -/
def modeLetter (s : Server) (c : ClientRef) (ch : ChannelRef)
    (adding : Bool) (letter : Char) (param : Option Text) : LetterOutcome × Server :=
  match channelBooleanModeBit letter with
  | some .registered =>
      (.refuse 468 [(s.channel ch).name, lit ":Only servers can change that mode"] false, s)
  | some bit => (.change (.boolean bit adding) false none, s)
  | none =>
    match channelPrivilegeBit letter, param with
    | some _, none => (modeNeedsParam false, s)
    | some p, some param => s.modePrivilege c ch adding p param
    | none, param =>
      match modeValue adding letter param with
      | some outcome => (outcome, s)
      | none =>
        match listKind letter, param with
        | some kind, some mask => (s.modeMask c ch adding kind mask, s)
        | some _, none => (modeNeedsParam false, s)
        | none, _ => (.refuse 472 [[letter], lit ":is unknown mode char to me"] false, s)

/-! ## 4. The loop -/

/-- `send_mask_list`. -/
def sendMaskList (s : Server) (c : ClientRef) (ch : ChannelRef) (kind : MaskKind) : Server :=
  let chan := s.channel ch
  let (entry, last, text) := match kind with
    | .ban => (367, 368, ":End of Channel Ban List")
    | .exception => (348, 349, ":End of Channel Exception List")
    | .invex => (346, 347, ":End of Channel Invite List")
  (s.deliver ((chan.maskList kind).map fun e =>
    (c, ⟨.server, .numeric entry (s.client c).nick [chan.name, e.mask, lit "*", lit "0"]⟩))).numeric
      c last [chan.name, lit text]

/-- The variables of the loop in `mode_channel`. -/
structure ModeRun where
  server : Server
  /-- `argv` from `argi` on. -/
  args : List Text
  changed : Text := []
  lastSign : Option Char := none
  changedParams : Text := []
  /-- The edits carried out so far; read only by statements. -/
  edits : List ChannelEdit := []

/-- `append_mode`, into a buffer of `size` bytes: the text and the last sign written. -/
def appendMode (size : Nat) (buffer : Text) (lastSign : Option Char) (sign letter : Char) :
    Text × Option Char :=
  let (buffer, lastSign) :=
    if lastSign ≠ some sign ∧ buffer.length + 1 < size then (buffer ++ [sign], some sign)
    else (buffer, lastSign)
  (if buffer.length + 1 < size then buffer ++ [letter] else buffer, lastSign)

/-- `append_param`, into a buffer of `IRCD_MESSAGE_BUFFER_SIZE` bytes. -/
def appendParam (buffer param : Text) : Text :=
  bounded 1023 (if buffer.isEmpty then param else buffer ++ ' ' :: param)

/-- Carry out what was decided for a letter. -/
def ModeRun.apply (run : ModeRun) (c : ClientRef) (ch : ChannelRef) (adding : Bool)
    (letter : Char) (decided : LetterOutcome × Server) : ModeRun :=
  match decided with
  | (.refuse code params consumes, s) =>
      { run with server := s.numeric c code params
                 args := if consumes then run.args.tail else run.args }
  | (.change edit consumes shown, s) =>
      let (changed, lastSign) := appendMode 128 run.changed run.lastSign (signChar adding) letter
      { run with server := s.updChannel ch (·.edit edit)
                 args := if consumes then run.args.tail else run.args
                 changed := changed
                 lastSign := lastSign
                 changedParams := match shown with
                   | some p => appendParam run.changedParams p
                   | none => run.changedParams
                 edits := run.edits ++ [edit] }

/-- The loop over the mode string. `false` is the early return after 482, which skips what
    follows the loop. Lists are shown to anyone; `mayChange` was read before the loop. -/
def modeLoop (c : ClientRef) (ch : ChannelRef) (mayChange : Bool) :
    List (Bool × Char) → ModeRun → Bool × ModeRun
  | [], run => (true, run)
  | (adding, letter) :: rest, run =>
      match listKind letter, run.args with
      | some kind, [] =>
          modeLoop c ch mayChange rest { run with server := run.server.sendMaskList c ch kind }
      | _, _ =>
          if !mayChange then
            let refusal : List Field :=
              [(run.server.channel ch).name, lit ":You're not channel operator"]
            (false, { run with server := run.server.numeric c 482 refusal })
          else modeLoop c ch mayChange rest (run.apply c ch adding letter
            (run.server.modeLetter c ch adding letter run.args.head?))

/-- The MODE line announcing what changed: without its parameters when they do not fit, and not
    at all when even the letters do not. -/
def announceModes (s : Server) (c : ClientRef) (ch : ChannelRef) (changed params : Text) :
    Server :=
  let line (changes : Text) : Line := ⟨s.userSource c, .mode (s.channel ch).name changes⟩
  if !s.fits (line changed) then s
  else if !params.isEmpty && s.fits (line (changed ++ ' ' :: params)) then
    s.broadcast ch none (line (changed ++ ' ' :: params))
  else s.broadcast ch none (line changed)

/-- `mode_channel`, for the channel it found and a mode string. -/
def modeChannel (s : Server) (c : ClientRef) (ch : ChannelRef)
    (letters : Text) (args : List Text) : Server :=
  match modeLoop c ch ((s.channel ch).mayChange c) (signedLetters true letters)
      { server := s, args := args } with
  | (false, run) => run.server
  | (true, run) =>
      if run.changed.isEmpty then run.server
      else (run.server.announceModes c ch run.changed run.changedParams).persistChannel ch

/-! ## 5. The ChanServ layer -/

/-- `check_mlock`: the first letter the mode lock does not allow. -/
def mlockRefuses (chan : Channel) (letters : Text) : Option Char :=
  ((signedLetters true letters).find? fun (adding, letter) =>
    (booleanBit letter).any fun bit => !chan.modeChangeAllowed bit adding).map (·.2)

/-- `user_limit_exceeds_persistable_range`: decimal digits above 2^63 - 1, or a sign of minus. -/
def limitOutOfRange (param : Text) : Bool :=
  match dropPlus param with
  | '-' :: _ => true
  | digits => !digits.isEmpty && (digitsVal 0 digits).any (fun v => decide (2 ^ 63 ≤ v))
where
  dropPlus : Text → Text
    | '+' :: rest => rest
    | t => t

/-- A redirect the channel may have: a channel name that fits and is not its own. -/
def redirectAcceptable (chan : Channel) (param : Text) : Bool :=
  startsChannel param && decide (param.length ≤ ircChannelNameMax) &&
    !strcasecmpEq param chan.name

/-- Does the ChanServ layer count a parameter for this letter? (`param != NULL` apart.) -/
def takesParam (adding : Bool) (letter : Char) : Bool :=
  (channelPrivilegeBit letter).isSome || letter == 'k' || (listKind letter).isSome ||
    (adding && (letter == 'l' || letter == 'j' || letter == 'L' || letter == 'B'))

/-- `validate_channel_mode_params`: the numeric and parameters it refuses with. -/
def validateParams (chan : Channel) :
    List (Bool × Char) → List Text → Option (Nat × List Field)
  | [], _ => none
  | (adding, letter) :: rest, args =>
      if letter == 'l' && adding && args.head?.any limitOutOfRange then
        some (461, [lit "MODE", lit ":Not enough parameters"])
      else if (letter == 'L' || letter == 'B') && adding &&
          !args.head?.any (redirectAcceptable chan) then
        some (403, [args.head?.getD ['*'], lit ":No such channel"])
      else validateParams chan rest (if takesParam adding letter then args.tail else args)

end Server

end ScratchIrcd
