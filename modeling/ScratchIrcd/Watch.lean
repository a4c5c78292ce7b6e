/-
  File:      ScratchIrcd/Watch.lean
  Subject:   The WATCH command (src/commands/watch.c) and PMSTATS, which shares the hook that runs
             when a client is freed (src/commands/dispatch.c).
-/
import ScratchIrcd.Presence

namespace ScratchIrcd

open CText

/-- `IRCD_WATCH_MAX`. -/
def ircdWatchMax : Nat := 128

/-- `presence_watch_add`: nothing if the list is full. -/
def Client.watchAdd (cl : Client) (nick : Text) : Option Client :=
  if cl.watches nick then some cl
  else if ircdWatchMax ≤ cl.watchList.length then none
  else some { cl with watchList := nick :: cl.watchList }

/-- `presence_watch_remove`. -/
def Client.watchRemove (cl : Client) (nick : Text) : Client :=
  { cl with watchList := cl.watchList.eraseP fun w => foldEq rfc1459Fold w nick }

namespace Server

/-! ## 1. WATCH -/

/-- The registered client under a nickname. -/
def onlineUnder (s : Server) (nick : Text) : Option ClientRef :=
  (s.findNick nick).filter fun r => (s.client r).registered

/-- 604 about a client that is online. -/
def nowOn (s : Server) (c subject : ClientRef) : Server :=
  let cl := s.client subject
  s.numeric c 604 [cl.nick, cl.user, cl.hostField subject, decimal cl.signonTime, lit ":is online"]

/-- `report_current`. -/
def reportCurrent (s : Server) (c : ClientRef) (nick : Text) : Server :=
  match s.onlineUnder nick with
  | some subject => s.nowOn c subject
  | none => s.numeric c 605 [nick, lit "*", lit "*", lit "0", lit ":is offline"]

/-- The nicknames of a WATCH list as the lines that carry them: each line takes as many as fit. -/
def watchChunks (fits : Text → Bool) : List Text → Text → List Text
  | [], line => if fits line then [line] else []
  | nick :: rest, line =>
      let longer := if line.isEmpty then nick else line ++ ' ' :: nick
      if fits longer then watchChunks fits rest longer
      else
        (if !line.isEmpty && fits line then [line] else []) ++
          watchChunks fits rest (if fits nick then nick else line)

/-- `list_watch`. -/
def listWatch (s : Server) (c : ClientRef) : Server :=
  let line (payload : Text) : Line :=
    ⟨.server, .numeric 606 (s.client c).nick [(':' :: payload : Text)]⟩
  let fits (payload : Text) : Bool :=
    decide (((line payload).wire s.config.serverName).length ≤ ircLineContentMax)
  (s.deliver ((watchChunks fits (s.client c).watchList []).map fun payload => (c, line payload))).numeric
    c 607 [lit ":End of WATCH L"]

/-- `status_watch`. -/
def statusWatch (s : Server) (c : ClientRef) : Server :=
  let on := if (s.client c).nick.isEmpty then 0 else (s.watchers (s.client c).nick).length
  (s.listWatch c).numeric c 603 [(":You have ".toList ++ decimal (s.client c).watchList.length ++
    " and are on ".toList ++ decimal on ++ " WATCH entries".toList : Text)]

/-- `list_online_watch`. -/
def listOnlineWatch (s : Server) (c : ClientRef) : Server :=
  (((s.client c).watchList.filterMap s.onlineUnder).foldl (fun s r => s.nowOn c r) s).numeric c 607
    [lit ":End of WATCH L"]

/-- A word of one character. -/
def watchLetter (s : Server) (c : ClientRef) (letter : Char) : Server :=
  if asciiLower letter = 's' then s.statusWatch c
  else if asciiLower letter = 'l' then s.listOnlineWatch c
  else if asciiLower letter = 'c' then
    (s.updClient c fun cl => { cl with watchList := [] }).numeric c 607 [lit ":End of WATCH C"]
  else s

/-- `WATCH -nick`. -/
def stopWatching (s : Server) (c : ClientRef) (nick : Text) : Server :=
  let s := s.updClient c (·.watchRemove nick)
  let host : Field × Field := match s.onlineUnder nick with
    | some r => ({ text := (s.client r).user }, (s.client r).hostField r)
    | none => (lit "*", lit "*")
  s.numeric c 602 [nick, host.1, host.2, decimal s.now, lit ":stopped watching"]

/-- The words of WATCH in turn; a full list ends the command. -/
def watchWords (c : ClientRef) : Nat → Text → Server → Server
  | 0, _, s => s
  | fuel + 1, params, s =>
      match strtokSpace params with
      | none => s
      | some ([letter], rest) => watchWords c fuel rest (s.watchLetter c letter)
      | some (sign :: nick, rest) =>
          if !validNickname nick then watchWords c fuel rest s
          else if sign = '+' then
            match (s.client c).watchAdd nick with
            | none => s.numeric c 512 [nick, lit ":Maximum size for WATCH-list is 128 entries"]
            | some cl => watchWords c fuel rest ((s.updClient c fun _ => cl).reportCurrent c nick)
          else if sign = '-' then watchWords c fuel rest (s.stopWatching c nick)
          else watchWords c fuel rest s
      | some ([], rest) => watchWords c fuel rest s

/-- `command_watch`. -/
def commandWatch (s : Server) (c : ClientRef) (params : Option Text) : Server :=
  if !(s.client c).registered then s.notRegistered c
  else
    match params.bind strtokRest with
    | none => s.listWatch c
    | some params => watchWords c params.length params s

/-! ## 2. PMSTATS -/

/-- `server_pmstats_set_enabled`. -/
def pmstatsSetEnabled (s : Server) (c : ClientRef) (enabled : Bool) : Server :=
  let s := s.updClient c fun cl => { cl with pmstatsEnabled := enabled }
  if enabled then { s with pmstatsActive := true, freeHook := .pmstats }
  else if s.pmstatsActive && s.pmstatsSubscribers.isEmpty then
    { s with pmstatsActive := false, freeHook := .none }
  else s

/-- Who may use PMSTATS. -/
def pmstatsAllowed (cl : Client) : Bool :=
  decide (ClientMode.netadmin ∈ cl.modes) ||
    (decide (ClientMode.oper ∈ cl.modes) && decide (ClientMode.bot ∈ cl.modes) &&
      decide (OperPermission.stats ∈ cl.operPermissions))

/-- `command_pmstats`. -/
def commandPmstats (s : Server) (c : ClientRef) (params : Option Text) : Server :=
  let value := (((params.getD []).dropWhile (· == ' ')).reverse.dropWhile (· == ' ')).reverse
  let refused (code : Nat) (text : String) : Server :=
    s.send c ⟨.server, .numeric code (s.client c).replyNick [lit "PMSTATS", lit text]⟩
  if !pmstatsAllowed (s.client c) then refused 421 ":Unknown command"
  else if strcasecmpEq value "on".toList then s.pmstatsSetEnabled c true
  else if strcasecmpEq value "off".toList then s.pmstatsSetEnabled c false
  else refused 461 ":Expected ON or OFF"

/-! ## 3. What the two commands can do -/

end Server

/-- 600 and 601: somebody came or went. -/
def Line.announcesPresence (l : Line) : Bool :=
  match l.body with
  | .numeric code _ _ => code == 600 || code == 601
  | _ => false

namespace Server

section Rules

variable {R : Server → Server → Prop} (hrefl : ∀ s, R s s)
  (htrans : ∀ a b d, R a b → R b d → R a d)
  (hsay : ∀ (s : Server) ds, (∀ d ∈ ds, d.2.announcesPresence = false) → R s (s.deliver ds))
  {c : ClientRef}

include hsay

theorem numeric_rule (s : Server) (code : Nat) (hcode : (code == 600 || code == 601) = false)
    (params : List Field) : R s (s.numeric c code params) := by
  refine hsay s _ fun d hd => ?_
  rw [List.mem_singleton.mp hd]
  exact hcode

theorem nowOn_rule (s : Server) (subject : ClientRef) : R s (s.nowOn c subject) :=
  numeric_rule hsay s 604 rfl _

theorem reportCurrent_rule (s : Server) (nick : Text) : R s (s.reportCurrent c nick) := by
  unfold reportCurrent
  split
  · exact nowOn_rule hsay s _
  · exact numeric_rule hsay s 605 rfl _

include htrans

theorem listWatch_rule (s : Server) : R s (s.listWatch c) := by
  refine htrans _ _ _ (hsay s _ fun d hd => ?_) (numeric_rule hsay _ 607 rfl _)
  obtain ⟨payload, -, rfl⟩ := List.mem_map.mp hd
  rfl

include hrefl

theorem listOnlineWatch_rule (s : Server) : R s (s.listOnlineWatch c) := by
  have loop : ∀ (rs : List ClientRef) (s : Server), R s (rs.foldl (fun s r => s.nowOn c r) s) := by
    intro rs
    induction rs with
    | nil => exact hrefl
    | cons r rs ih => exact fun s => htrans _ _ _ (nowOn_rule hsay s r) (ih _)
  exact htrans _ _ _ (loop _ s) (numeric_rule hsay _ 607 rfl _)

section List

variable (hlist : ∀ (s : Server) list, R s (s.updClient c fun cl => { cl with watchList := list }))

include hlist

theorem watchLetter_rule (s : Server) (letter : Char) : R s (s.watchLetter c letter) := by
  unfold watchLetter
  split
  · exact htrans _ _ _ (listWatch_rule htrans hsay s) (numeric_rule hsay _ 603 rfl _)
  split
  · exact listOnlineWatch_rule hrefl htrans hsay s
  split
  · exact htrans _ _ _ (hlist s []) (numeric_rule hsay _ 607 rfl _)
  · exact hrefl s

omit hrefl in
theorem stopWatching_rule (s : Server) (nick : Text) : R s (s.stopWatching c nick) :=
  htrans _ _ _ (hlist s _) (numeric_rule hsay _ 602 rfl _)

omit hrefl htrans hsay in
theorem watchAdd_rule (s : Server) {nick : Text} {cl : Client}
    (hadd : (s.client c).watchAdd nick = some cl) : R s (s.updClient c fun _ => cl) := by
  have hcl : ({ s.client c with watchList := cl.watchList } : Client) = cl := by
    unfold Client.watchAdd at hadd
    split_ifs at hadd <;> cases hadd <;> rfl
  have hedit : (s.updClient c fun x => { x with watchList := cl.watchList }) = s.updClient c fun _ => cl :=
    congrArg (fun x => { s with client := Function.update s.client c x }) hcl
  rw [← hedit]
  exact hlist s cl.watchList

theorem watchWords_rule (fuel : Nat) (params : Text) (s : Server) :
    R s (watchWords c fuel params s) := by
  induction fuel generalizing params s with
  | zero => exact hrefl s
  | succ fuel ih =>
    unfold watchWords
    split
    · exact hrefl s
    · exact htrans _ _ _ (watchLetter_rule hrefl htrans hsay hlist s _) (ih _ _)
    · split
      · exact ih _ s
      split
      · split
        · exact numeric_rule hsay s 512 rfl _
        · rename_i cl hadd
          exact htrans _ _ _ (htrans _ _ _ (watchAdd_rule hlist s hadd) (reportCurrent_rule hsay _ _))
            (ih _ _)
      split
      · exact htrans _ _ _ (stopWatching_rule htrans hsay hlist s _) (ih _ _)
      · exact ih _ s
    · exact ih _ s

/-- **WATCH edits the list of the client that sent it, and talks.** -/
theorem commandWatch_rule (s : Server) (params : Option Text) : R s (s.commandWatch c params) := by
  unfold commandWatch
  split
  · refine hsay s _ fun d hd => ?_
    rw [List.mem_singleton.mp hd]
    rfl
  split
  · exact listWatch_rule htrans hsay s
  · exact watchWords_rule hrefl htrans hsay hlist _ _ s

end List

end Rules

end Server

end ScratchIrcd
