/-
  File:      ScratchIrcd/Presence.lean
  Subject:   WATCH and WHOWAS bookkeeping, and the end of a connection
             (src/presence.c, src/commands/whowas.c, the pmstats part of src/commands/dispatch.c,
             `server_disconnect`).

  The hook that runs when a client is freed is a global of the source that two subsystems set
  in turn; `FreeHook` says who has it.
-/
import ScratchIrcd.Server

namespace ScratchIrcd

open CText

variable {c : ClientRef} {l : List ClientRef}

/-- `IRCD_WHOWAS_MAX`. -/
def ircdWhowasMax : Nat := 256

/-- `presence_watch_contains`. -/
def Client.watches (c : Client) (nick : Text) : Bool :=
  c.watchList.any fun w => foldEq rfc1459Fold w nick

/-- A client's host as a field of a reply. -/
def Client.hostField (c : Client) (subject : ClientRef) : Field :=
  { text := c.displayHost, hosts := [(subject, c.displayHost)] }

/-- Drop an entry of `server->clients[]`: the last one takes its place. -/
def swapRemove (c : ClientRef) (l : List ClientRef) : List ClientRef :=
  if c ∈ l then (l.replace c (l.getLast?.getD c)).dropLast else l

/-- The last one goes to the front. -/
theorem perm_getLast_dropLast (l : List ClientRef) : (l.getLast?.toList ++ l.dropLast).Perm l := by
  rcases List.eq_nil_or_concat l with rfl | ⟨init, last, rfl⟩
  · exact .refl _
  · rw [List.concat_eq_append, List.getLast?_concat, List.dropLast_concat]
    exact List.perm_append_comm

/-- Where the client stands, the last one of those behind it moves in. -/
theorem swapRemove_append {front : List ClientRef} (hfront : c ∉ front) (back : List ClientRef) :
    swapRemove c (front ++ c :: back) = front ++ (back.getLast?.toList ++ back.dropLast) := by
  have hreplace : ∀ x, (front ++ c :: back).replace c x = front ++ x :: back := by
    intro x
    rw [List.replace_append_right hfront, List.replace_cons_self]
  unfold swapRemove
  rw [if_pos (List.mem_append_right _ List.mem_cons_self), hreplace]
  rcases List.eq_nil_or_concat back with rfl | ⟨init, last, rfl⟩
  · simp
  · have hlast : (front ++ c :: (init ++ [last])).getLast? = some last := by
      rw [← List.cons_append, ← List.append_assoc, List.getLast?_concat]
    rw [List.concat_eq_append, hlast, Option.getD_some, ← List.cons_append, ← List.append_assoc,
      List.dropLast_concat, List.getLast?_concat, List.dropLast_concat]
    rfl

/-- The others stay, each as often as before. -/
theorem perm_swapRemove (hc : c ∈ l) : (c :: swapRemove c l).Perm l := by
  obtain ⟨front, back, rfl, hfront⟩ := List.eq_append_cons_of_mem hc
  rw [swapRemove_append hfront]
  refine (List.perm_middle.symm).trans (List.Perm.append_left _ (.cons _ ?_))
  rcases List.eq_nil_or_concat back with rfl | ⟨init, last, rfl⟩
  · exact .refl _
  · rw [List.concat_eq_append, List.getLast?_concat, List.dropLast_concat]
    exact List.perm_append_comm

theorem nodup_swapRemove (hl : l.Nodup) : (swapRemove c l).Nodup := by
  by_cases hc : c ∈ l
  · exact (List.nodup_cons.mp ((perm_swapRemove hc).nodup_iff.mpr hl)).2
  · rw [swapRemove, if_neg hc]
    exact hl

theorem mem_swapRemove {c' : ClientRef} (hl : l.Nodup) : c' ∈ swapRemove c l ↔ c' ∈ l ∧ c' ≠ c := by
  by_cases hc : c ∈ l
  · have hperm := perm_swapRemove hc
    have hnot := (List.nodup_cons.mp (hperm.nodup_iff.mpr hl)).1
    rw [← hperm.mem_iff, List.mem_cons]
    constructor
    · intro hmem
      exact ⟨.inr hmem, fun heq => hnot (heq ▸ hmem)⟩
    · rintro ⟨heq | hmem, hne⟩
      · exact absurd heq hne
      · exact hmem
  · rw [swapRemove, if_neg hc]
    exact ⟨fun hmem => ⟨hmem, fun heq => hc (heq ▸ hmem)⟩, And.left⟩

namespace Server

/-- The registered clients that watch a nickname, in array order. -/
def watchers (s : Server) (nick : Text) : List ClientRef :=
  s.clients.filter fun w => (s.client w).registered && (s.client w).watches nick

/-- One 600 or 601 line about `subject`, under the nickname `nick`. -/
def watchLine (s : Server) (code : Nat) (subject : ClientRef) (nick : Text) (time : Nat)
    (text : String) (w : ClientRef) : ClientRef × Line :=
  (w, ⟨.server, .numeric code (s.client w).nick [nick, (s.client subject).user,
    (s.client subject).hostField subject, decimal time, lit text]⟩)

/-- `presence_watch_online`. -/
def watchOnline (s : Server) (subject : ClientRef) : Server :=
  let cl := s.client subject
  if !cl.registered || cl.nick.isEmpty then s
  else { s with freeHook := .presence }.deliver
    ((s.watchers cl.nick).map (s.watchLine 600 subject cl.nick cl.signonTime ":logged online"))

theorem client_watchOnline (s : Server) (c : ClientRef) : (s.watchOnline c).client = s.client := by
  unfold watchOnline
  dsimp only
  split <;> rfl

theorem channel_watchOnline (s : Server) (c : ClientRef) : (s.watchOnline c).channel = s.channel := by
  unfold watchOnline
  dsimp only
  split <;> rfl

/-- `presence_watch_offline`. -/
def watchOffline (s : Server) (subject : ClientRef) (nick : Text) : Server :=
  if nick.isEmpty then s
  else s.deliver ((s.watchers nick).map (s.watchLine 601 subject nick s.now ":logged offline"))

/-- `presence_whowas_record`: newest first, 256 kept. -/
def whowasRecord (s : Server) (subject : ClientRef) (nick : Text) : Server :=
  let cl := s.client subject
  if (!cl.registered && cl.signonTime == 0) || nick.isEmpty then s
  else { s with whowas := ({ subject := subject, nick := nick, user := cl.user
                             host := cl.displayHost, realname := cl.realname
                             serverName := s.config.serverName, time := s.now } ::
                            s.whowas).take ircdWhowasMax }

/-- The clients that asked for pmstats. -/
def pmstatsSubscribers (s : Server) : List ClientRef :=
  s.clients.filter fun c => (s.client c).pmstatsEnabled

/-- One pmstats line to every subscriber. -/
def pmstats (s : Server) (code : Nat) (text : List Field) : Server :=
  s.deliver (s.pmstatsSubscribers.map fun c =>
    (c, ⟨.server, .numeric code (s.client c).nick text⟩))

/-- `server_pmstats_disconnect`. -/
def pmstatsDisconnect (s : Server) (c : ClientRef) : Server :=
  if (s.client c).nick.isEmpty then s else s.pmstats 803 [(':' :: (s.client c).nick : Text)]

/-- `client_free` as far as others notice: the hook. `registered` is 0 already, so
    `pmstats_client_free` sends nothing. -/
def clientFree (s : Server) (c : ClientRef) : Server :=
  match s.freeHook with
  | .none => s
  | .presence =>
      if (s.client c).signonTime == 0 || (s.client c).nick.isEmpty then s
      else (s.whowasRecord c (s.client c).nick).watchOffline c (s.client c).nick
  | .pmstats =>
      if s.pmstatsSubscribers.isEmpty then { s with freeHook := .none, pmstatsActive := false }
      else s

/-- The snotice of `server_disconnect`. -/
def disconnectNotice (s : Server) (c : ClientRef) (reason : Text) : Text :=
  let cl := s.client c
  let orStar (t : Text) (other : Text) : Text := if t.isEmpty then other else t
  "Client disconnect: nick=".toList ++ orStar cl.nick ['*'] ++ " user=".toList ++
    orStar cl.user ['*'] ++ " display_host=".toList ++ orStar cl.displayHost cl.realIp ++
    " real_ip=".toList ++ cl.realIp ++ " real_host=".toList ++ orStar cl.realHost ['-'] ++
    " registered=".toList ++ (if cl.registered then "yes" else "no").toList ++
    " reason=".toList ++ reason

/-- The QUIT line to everyone who shares a channel. -/
def quitNotices (s : Server) (c : ClientRef) (reason : Text) : List (ClientRef × Line) :=
  (s.clients.filter fun r => r != c && s.shareChannel c r).map fun r =>
    (r, ⟨s.userSource c, .quit reason⟩)

/-- Take a client out of every channel it is in, dropping those it leaves empty. -/
def leaveAll (s : Server) (c : ClientRef) : Server :=
  (s.client c).channels.foldl (fun s ch => (s.removeFromChannel ch c).removeChannelIfEmpty ch) s

/-- Take a client off the server's tables. -/
def unlist (s : Server) (c : ClientRef) : Server :=
  let s := if (s.client c).nick.isEmpty then s
    else { s with clientsByNick := s.clientsByNick.remove (s.client c).nick }
  { s with clients := swapRemove c s.clients }.updClient c fun cl => { cl with registered := false }

/-- `server_disconnect`. QUIT is announced only for a registered client. -/
def disconnect (s : Server) (c : ClientRef) (reason : Text) : Server :=
  let s := if (s.client c).registered then s.pmstatsDisconnect c else s
  let s := s.snotice {.connections} (s.disconnectNotice c reason)
  let s := if (s.client c).registered then s.deliver (s.quitNotices c reason) else s
  ((s.leaveAll c).unlist c).clientFree c

end Server

/-! ## The ring behind the list of WHOWAS -/

/-- `whowas[]`, `whowas_next` and `whowas_count`; a cell that was never written has no nickname. -/
structure WhowasRing where
  cell : Nat → Option WhowasRecord
  next : Nat
  count : Nat

namespace WhowasRing

variable {r : WhowasRing} {l : List WhowasRecord}

/-- Write a record over the oldest. -/
def push (r : WhowasRing) (x : WhowasRecord) : WhowasRing where
  cell := Function.update r.cell r.next (some x)
  next := (r.next + 1) % ircdWhowasMax
  count := if r.count < ircdWhowasMax then r.count + 1 else r.count

/-- `presence_whowas_record`. -/
def record (r : WhowasRing) (s : Server) (subject : ClientRef) (nick : Text) : WhowasRing :=
  let cl := s.client subject
  if (!cl.registered && cl.signonTime == 0) || nick.isEmpty then r
  else r.push { subject := subject, nick := nick, user := cl.user, host := cl.displayHost
                realname := cl.realname, serverName := s.config.serverName, time := s.now }

/-- The cell that was written as the last but `i`. -/
def back (r : WhowasRing) (i : Nat) : Option WhowasRecord :=
  r.cell ((r.next + ircdWhowasMax - 1 - i) % ircdWhowasMax)

/-- The loop of `command_whowas`: the records it shows, with the turns and the matches left. -/
def scan (r : WhowasRing) (nick : Text) : Nat → Nat → Nat → List WhowasRecord
  | turns + 1, scanned, wanted + 1 =>
      match (r.back scanned).filter fun x => strcasecmpEq x.nick nick with
      | some x => x :: r.scan nick turns (scanned + 1) wanted
      | none => r.scan nick turns (scanned + 1) (wanted + 1)
  | _, _, _ => []

/-- The ring holds a list, newest first. -/
structure Holds (r : WhowasRing) (l : List WhowasRecord) : Prop where
  next : r.next < 256
  count : r.count = l.length
  length : l.length ≤ 256
  back : ∀ i < l.length, r.back i = l[i]?

theorem Holds.push (h : r.Holds l) (x : WhowasRecord) : (r.push x).Holds ((x :: l).take 256) := by
  obtain ⟨hnext, hcount, hlength, hback⟩ := h
  refine ⟨Nat.mod_lt _ (by decide), ?_, List.length_take_le _ _, fun i hi => ?_⟩
  · have hmax : ircdWhowasMax = 256 := rfl
    simp only [WhowasRing.push, List.length_take, List.length_cons]
    split <;> omega
  · rw [List.length_take, List.length_cons] at hi
    rw [List.getElem?_take_of_lt (by omega)]
    simp only [WhowasRing.back, WhowasRing.push, ircdWhowasMax] at hback ⊢
    cases i with
    | zero =>
      have hhere : ((r.next + 1) % 256 + 256 - 1 - 0) % 256 = r.next := by omega
      rw [hhere, Function.update_self, List.getElem?_cons_zero]
    | succ i =>
      -- one cell further back from one cell further on
      have hsame : ((r.next + 1) % 256 + 256 - 1 - (i + 1)) % 256 = (r.next + 256 - 1 - i) % 256 := by
        omega
      rw [hsame, Function.update_of_ne (by omega), List.getElem?_cons_succ]
      exact hback i (by omega)

theorem Holds.scan (h : r.Holds l) (nick : Text) (turns scanned wanted : Nat)
    (hturns : scanned + turns = l.length) : r.scan nick turns scanned wanted =
      ((l.drop scanned).filter fun x => strcasecmpEq x.nick nick).take wanted := by
  induction turns generalizing scanned wanted with
  | zero =>
    rw [List.drop_of_length_le (by omega)]
    simp [WhowasRing.scan]
  | succ turns ih =>
    cases wanted with
    | zero => simp [WhowasRing.scan]
    | succ wanted =>
      have hlt : scanned < l.length := by omega
      rw [WhowasRing.scan, h.back scanned hlt, List.drop_eq_getElem_cons hlt,
        List.getElem?_eq_getElem hlt, List.filter_cons]
      cases hnick : strcasecmpEq l[scanned].nick nick <;>
        simp [Option.filter, hnick, ih (scanned + 1) _ (by omega)]

theorem Holds.record (h : r.Holds l) (s : Server) (c : ClientRef) (nick : Text) :
    (r.record s c nick).Holds ({ s with whowas := l }.whowasRecord c nick).whowas := by
  unfold WhowasRing.record Server.whowasRecord
  dsimp only
  split
  · exact h
  · exact h.push _

/-- **WHOWAS reads the ring as the newest records.** Whatever the server is like at each call that
    records a client, the loop shows the records of the nickname, newest first, up to the number
    asked for, of the list that `Server.whowasRecord` keeps. -/
theorem whowas_reads_newest (calls : List (Server × ClientRef × Text)) (nick : Text) (wanted : Nat) :
    let r : WhowasRing := calls.foldl (fun r q => r.record q.1 q.2.1 q.2.2) ⟨fun _ => none, 0, 0⟩
    let l := calls.foldl (fun l q => ({ q.1 with whowas := l }.whowasRecord q.2.1 q.2.2).whowas) []
    r.scan nick r.count 0 wanted = (l.filter fun x => strcasecmpEq x.nick nick).take wanted := by
  intro r l
  have hrun : ∀ (r : WhowasRing) (l : List WhowasRecord), r.Holds l →
      (calls.foldl (fun r q => r.record q.1 q.2.1 q.2.2) r).Holds (calls.foldl
        (fun l q => ({ q.1 with whowas := l }.whowasRecord q.2.1 q.2.2).whowas) l) := by
    induction calls with
    | nil => exact fun _ _ h => h
    | cons q calls ih => exact fun r l h => ih _ _ (h.record q.1 q.2.1 q.2.2)
  have hholds : r.Holds l := hrun _ []
    ⟨by decide, rfl, by decide, fun i hi => absurd hi (Nat.not_lt_zero i)⟩
  exact hholds.scan nick r.count 0 wanted (by rw [Nat.zero_add, hholds.count])

end WhowasRing

end ScratchIrcd
