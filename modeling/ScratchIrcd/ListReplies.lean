/-
  File:      ScratchIrcd/ListReplies.lean
  Subject:   Lists that are cut into lines: NAMES, the channels of WHOIS, PCHANNELS and WATCH.

  Each loop fills a line while the next item fits, sends it and starts the next one with that item.
  They differ in what they do with an item that fits no line, with an empty line and at the end;
  for legal names none of this matters, every loop is a cut (Lib/Cuts.lean) of its list.
-/
import ScratchIrcd.Isupport
import ScratchIrcd.Lib.Cuts
import ScratchIrcd.TopicFit
import ScratchIrcd.Watch

namespace ScratchIrcd

open CText

/-! ## 1. The loops -/

/-- A loop that puts an element on the line it has, or on a new one, cuts its list into lines that
    fit. -/
theorem cut_of_loop {α : Type} {fit : List α → Bool} {loop : List α → List α → List (List α)}
    (hnil : ∀ current, loop current [] = if current.isEmpty then [] else [current])
    (hcons : ∀ current e es, fit [e] = true → loop current (e :: es) =
      if fit (current ++ [e]) then loop (current ++ [e]) es
      else if current.isEmpty then loop [e] es else current :: loop [e] es)
    {es current : List α} (hone : ∀ e ∈ es, fit [e] = true)
    (hcurrent : current = [] ∨ fit current = true) :
    Cut id fit (current ++ es) (loop current es) := by
  induction es generalizing current with
  | nil =>
    rw [List.append_nil, hnil]
    split
    · rename_i hempty
      rw [List.isEmpty_iff.mp hempty]
      exact .nil
    · rename_i hempty
      exact .single (hcurrent.resolve_left fun h => hempty (List.isEmpty_iff.mpr h))
  | cons e es ih =>
    obtain ⟨hfirst, hrest⟩ := List.forall_mem_cons.mp hone
    rw [hcons current e es hfirst]
    split
    · rename_i hlonger
      rw [← List.singleton_append, ← List.append_assoc]
      exact ih hrest (.inr hlonger)
    split
    · rename_i hempty
      rw [List.isEmpty_iff.mp hempty]
      exact ih hrest (.inr hfirst)
    · rename_i hempty
      exact .cons (hcurrent.resolve_left fun h => hempty (List.isEmpty_iff.mpr h)) (ih hrest (.inr hfirst))

theorem Server.cut_namesChunks {fit : List (Option Char × Text) → Bool}
    {es current : List (Option Char × Text)} (hone : ∀ e ∈ es, fit [e] = true)
    (hcurrent : current = [] ∨ fit current = true) :
    Cut id fit (current ++ es) (namesChunks fit current es) :=
  cut_of_loop (fun _ => rfl) (fun _ _ _ _ => rfl) hone hcurrent

theorem Server.cut_whoisChunks {fit : List Text → Bool} {es current : List Text}
    (hone : ∀ e ∈ es, fit [e] = true) (hcurrent : current = [] ∨ fit current = true) :
    Cut id fit (current ++ es) (whoisChunks fit current es) := by
  refine cut_of_loop (fun _ => rfl) (fun current e es hfirst => ?_) hone hcurrent
  rw [whoisChunks, if_pos hfirst]
  split_ifs <;> rfl

theorem cut_pchannelsLoop {fit : Bool × List Text → Bool} {es current : List Text} {first : Bool}
    (hname : ∀ e ∈ es, channelNameValid e = true) (hone : ∀ e ∈ es, fit (false, [e]) = true)
    (hcurrent : fit (first, current) = true) :
    Cut (·.2) fit (current ++ es) (pchannelsLoop fit first current es) := by
  induction es generalizing first current with
  | nil =>
    rw [List.append_nil, pchannelsLoop, if_pos hcurrent]
    exact .single hcurrent
  | cons e es ih =>
    obtain ⟨hfirst, hrest⟩ := List.forall_mem_cons.mp hone
    obtain ⟨hvalid, hvalids⟩ := List.forall_mem_cons.mp hname
    have hlength := length_le_of_channelNameValid hvalid
    have hfield : ¬ (e.isEmpty || decide (ircChannelNameMax < e.length)) = true := by
      have hne : e ≠ [] := by
        rintro rfl
        exact absurd hvalid (by decide)
      have hshort : ¬ ircChannelNameMax < e.length := by
        unfold ircChannelNameMax
        omega
      simp [hne, hshort]
    unfold pchannelsLoop
    rw [if_neg hfield, if_pos hcurrent, if_pos hfirst]
    split
    · rename_i hlonger
      rw [← List.singleton_append, ← List.append_assoc]
      exact ih hvalids hrest hlonger
    · exact .cons hcurrent (ih hvalids hrest hfirst)

theorem joinBlank_concat {ws : List Text} (hws : ws ≠ []) (w : Text) :
    joinBlank (ws ++ [w]) = joinBlank ws ++ ' ' :: w := by
  induction ws with
  | nil => exact absurd rfl hws
  | cons v vs ih =>
    cases vs with
    | nil => rfl
    | cons u us =>
      show v ++ ' ' :: joinBlank ((u :: us) ++ [w]) = (v ++ ' ' :: joinBlank (u :: us)) ++ ' ' :: w
      rw [ih (List.cons_ne_nil _ _), List.append_assoc, List.cons_append]

theorem joinBlank_ne_nil {ws : List Text} (hws : ws ≠ []) (hne : ∀ w ∈ ws, w ≠ []) : joinBlank ws ≠ [] := by
  cases ws with
  | nil => exact absurd rfl hws
  | cons v vs =>
    have hv := hne v List.mem_cons_self
    cases vs with
    | nil => exact hv
    | cons u us => exact List.append_ne_nil_of_left_ne_nil hv _

/-- The loop of `list_watch` keeps the text of the line; the nicknames of it are `current`. -/
theorem cut_watchChunks {fits : Text → Bool} {nicks current : List Text} (hne : ∀ n ∈ current ++ nicks, n ≠ [])
    (hone : ∀ n ∈ nicks, fits n = true) (hcurrent : fits (joinBlank current) = true) :
    ∃ parts, Server.watchChunks fits nicks (joinBlank current) = parts.map joinBlank ∧
      Cut id (fun part => fits (joinBlank part)) (current ++ nicks) parts := by
  induction nicks generalizing current with
  | nil =>
    refine ⟨[current], ?_, ?_⟩
    · rw [Server.watchChunks, if_pos hcurrent]
      rfl
    · rw [List.append_nil]
      exact .single hcurrent
  | cons n nicks ih =>
    obtain ⟨hfirst, hrest⟩ := List.forall_mem_cons.mp hone
    have hlonger : (if (joinBlank current).isEmpty = true then n else joinBlank current ++ ' ' :: n) =
        joinBlank (current ++ [n]) := by
      by_cases hnil : current = []
      · subst hnil
        rfl
      · have hfull := joinBlank_ne_nil hnil fun w hw => hne w (List.mem_append_left _ hw)
        rw [if_neg (by simpa using hfull), joinBlank_concat hnil]
    have happend : current ++ n :: nicks = (current ++ [n]) ++ nicks := by simp
    unfold Server.watchChunks
    dsimp only
    rw [hlonger, if_pos hfirst]
    split
    · rename_i hfit
      rw [happend] at hne ⊢
      exact ih hne hrest hfit
    · rename_i hfit
      have hnil : current ≠ [] := by
        rintro rfl
        exact hfit hfirst
      have hfull := joinBlank_ne_nil hnil fun w hw => hne w (List.mem_append_left _ hw)
      have htail : ∀ w ∈ [n] ++ nicks, w ≠ [] := fun w hw => hne w (List.mem_append_right _ hw)
      obtain ⟨parts, heq, hcut⟩ := ih htail hrest hfirst
      refine ⟨current :: parts, ?_, .cons hcurrent hcut⟩
      rw [if_pos (by simp [hfull, hcurrent])]
      exact congrArg (joinBlank current :: ·) heq

/-! ## 2. One item fits a line -/

theorem length_wire_namesReply (serverName nick : Text) (marker : Char) (channel : Text)
    (names : List (Option Char × Text)) :
    ((⟨.server, .namesReply nick marker channel names⟩ : Line).wire serverName).length =
      serverName.length + nick.length + channel.length + 11 + (joinBlank (names.map namesToken)).length := by
  show ((':' :: serverName ++ [' ']) ++ ("353 ".toList ++ nick ++ ' ' :: marker :: ' ' :: channel ++
    " :".toList ++ joinBlank (names.map namesToken))).length = _
  have hverb : "353 ".toList.length = 4 ∧ " :".toList.length = 2 := ⟨rfl, rfl⟩
  simp only [List.length_append, List.length_cons, List.length_nil]
  omega

theorem length_isupportBase_le {historyLimit : Nat} (h : historyLimit < 2 ^ 64) :
    (isupportBase historyLimit).length ≤ 175 := by
  have hdigits : (decimal historyLimit).length ≤ 20 := Nat.toDigits_length 10 _ 20 (by omega) (by omega)
  have htokens : isupportTokens.length = 155 := by decide +kernel
  unfold isupportBase
  rw [List.length_append]
  omega

theorem length_marked_le (marker : Option Char) (name : Text) : (marker.toList ++ name).length ≤ name.length + 1 := by
  cases marker <;> simp

theorem ne_nil_and_no_comma {name : Text} (h : channelNameValid name = true) : name ≠ [] ∧ ',' ∉ name := by
  unfold channelNameValid at h
  simp only [Bool.and_eq_true, decide_eq_true_eq] at h
  obtain ⟨⟨⟨hstart, -⟩, -⟩, htail⟩ := h
  cases name with
  | nil => exact absurd hstart (by decide)
  | cons x rest =>
    refine ⟨List.cons_ne_nil _ _, fun hmem => ?_⟩
    rcases List.mem_cons.mp hmem with rfl | hmem
    · exact absurd hstart (show ¬ isChannelPrefix ',' = true by decide)
    · exact absurd (List.all_eq_true.mp htail ',' hmem) (by decide)

namespace Server

theorem fits_iff {s : Server} {l : Line} : s.fits l = true ↔ (l.wire s.config.serverName).length ≤ 510 :=
  decide_eq_true_iff

section OneItem

variable {s : Server} {c : ClientRef} (hserver : s.config.serverName.length ≤ ircServerNameMax)
  (hnick : validNickname (s.client c).nick = true)
include hserver hnick

theorem fits_namesLine {ch : ChannelRef} (hch : (s.channel ch).name.length ≤ ircChannelNameMax) (marker : Char)
    {names : List (Option Char × Text)} (hnames : (joinBlank (names.map namesToken)).length ≤ 16) :
    s.fits (s.namesLine c marker ch names) = true := by
  have hnick' := length_le_of_validNickname hnick
  unfold ircServerNameMax at hserver
  unfold ircChannelNameMax at hch
  rw [fits_iff, namesLine, length_wire_namesReply]
  omega

theorem fits_whoisChannelsLine {target : ClientRef} (htarget : validNickname (s.client target).nick = true)
    {token : Text} (htoken : token.length ≤ 33) :
    s.fits (s.whoisChannelsLine c target [token]) = true := by
  have hnick' := length_le_of_validNickname hnick
  have htarget' := length_le_of_validNickname htarget
  unfold ircServerNameMax at hserver
  rw [fits_iff, whoisChannelsLine, reply, length_wire_numeric]
  show _ + ((' ' :: (s.client target).nick) ++ ((' ' :: ':' :: token) ++ [])).length ≤ 510
  simp only [List.length_append, List.length_cons, List.length_nil]
  omega

theorem fits_pchannelsLine {historyLimit : Nat} {part : Bool × List Text}
    (hpart : (pchannelsPayload historyLimit part).length ≤ 186) :
    s.fits (s.pchannelsLine c historyLimit part) = true := by
  have hnick' := length_le_of_validNickname hnick
  have htext : ":are supported by this server".toList.length = 29 := rfl
  unfold ircServerNameMax at hserver
  rw [fits_iff, pchannelsLine, reply, length_wire_numeric]
  show _ + ((' ' :: pchannelsPayload historyLimit part) ++
    ((' ' :: ":are supported by this server".toList) ++ [])).length ≤ 510
  simp only [List.length_append, List.length_cons, List.length_nil]
  omega

/-- `RPL_WATCHLIST` -/
def watchListLine (s : Server) (c : ClientRef) (payload : Text) : Line :=
  ⟨.server, .numeric 606 (s.client c).nick [(':' :: payload : Text)]⟩

theorem fits_watchListLine {payload : Text} (hpayload : payload.length ≤ 15) :
    s.fits (s.watchListLine c payload) = true := by
  have hnick' := length_le_of_validNickname hnick
  unfold ircServerNameMax at hserver
  rw [fits_iff, watchListLine, length_wire_numeric]
  show _ + ((' ' :: ':' :: payload) ++ []).length ≤ 510
  simp only [List.length_append, List.length_cons, List.length_nil]
  omega

end OneItem

/-! ## 3. The replies -/

/-- The lines carry the items, in order and each once, in at most 510 bytes a line: `line` writes
    the line of one part, whose items are `carried`. -/
def CarriesAll {α β : Type} (s : Server) (line : α → Line) (carried : α → List β) (items : List β)
    (lines : List Line) : Prop :=
  ∃ parts, lines = parts.map line ∧
    Cut carried (fun part => decide (((line part).wire s.config.serverName).length ≤ 510)) items parts

section Replies

variable {s : Server} {c : ClientRef} (hserver : s.config.serverName.length ≤ ircServerNameMax)
  (hnick : validNickname (s.client c).nick = true)
include hserver hnick

theorem carriesAll_namesReplies {ch : ChannelRef} (hch : (s.channel ch).name.length ≤ ircChannelNameMax)
    (hmembers : ∀ m ∈ (s.channel ch).members, validNickname (s.client m.client).nick = true) (marker : Char) :
    s.CarriesAll (s.namesLine c marker ch) id ((s.channel ch).members.map s.namesEntry)
      (s.namesReplies c marker ch) := by
  have hone : ∀ e ∈ (s.channel ch).members.map s.namesEntry,
      s.fits (s.namesLine c marker ch [e]) = true := by
    intro e he
    obtain ⟨m, hm, rfl⟩ := List.mem_map.mp he
    refine fits_namesLine hserver hnick hch marker ?_
    exact (length_marked_le _ _).trans (Nat.succ_le_succ (length_le_of_validNickname (hmembers m hm)))
  have hcut : Cut id (fun names => s.fits (s.namesLine c marker ch names))
      ((s.channel ch).members.map s.namesEntry)
      (namesChunks (fun names => s.fits (s.namesLine c marker ch names)) []
        ((s.channel ch).members.map s.namesEntry)) :=
    cut_namesChunks hone (.inl rfl)
  unfold namesReplies
  dsimp only
  split
  · -- nobody is in the channel: one line without a name
    exact ⟨_, rfl, hcut.concat rfl (fits_namesLine hserver hnick hch marker (Nat.zero_le _))⟩
  · exact ⟨_, rfl, hcut⟩

theorem carriesAll_whoisChannels {target : ClientRef} (htarget : validNickname (s.client target).nick = true)
    (hchannels : ∀ ch ∈ (s.client target).channels, (s.channel ch).name.length ≤ ircChannelNameMax) :
    s.CarriesAll (s.whoisChannelsLine c target) id
      (((s.client target).channels.filter (s.whoisVisible c target)).map (s.whoisToken target))
      (s.whoisChannels c target) := by
  have hshort : ∀ token ∈ ((s.client target).channels.filter (s.whoisVisible c target)).map
      (s.whoisToken target), token.length ≤ 33 := by
    intro token htoken
    obtain ⟨ch, hch, rfl⟩ := List.mem_map.mp htoken
    exact (length_marked_le _ _).trans (Nat.succ_le_succ (hchannels ch (List.mem_filter.mp hch).1))
  -- the buffer of a token has room for every one of them
  have hall : s.whoisTokens c target =
      ((s.client target).channels.filter (s.whoisVisible c target)).map (s.whoisToken target) :=
    List.filter_eq_self.mpr fun token htoken => decide_eq_true (Nat.lt_succ_of_le (hshort token htoken))
  refine ⟨_, rfl, ?_⟩
  rw [hall]
  exact cut_whoisChunks (fun token htoken => fits_whoisChannelsLine hserver hnick htarget (hshort token htoken))
    (.inl rfl)

theorem carriesAll_pchannels {historyLimit : Nat} (hlimit : historyLimit < 2 ^ 64) {names : List Text}
    (hnames : ∀ name ∈ names, channelNameValid name = true) :
    s.CarriesAll (s.pchannelsLine c historyLimit) (·.2) names
      ((s.pchannelsParts c historyLimit ([','].intercalate names)).map (s.pchannelsLine c historyLimit)) := by
  have hbase := length_isupportBase_le hlimit
  have hverb : "PCHANNELS=".toList.length = 10 := rfl
  have hfirst : (pchannelsPayload historyLimit (true, [])).length ≤ 186 := by
    show ((isupportBase historyLimit ++ [' ']) ++ "PCHANNELS=".toList ++ []).length ≤ 186
    simp only [List.length_append, List.length_cons, List.length_nil]
    omega
  have hone : ∀ name ∈ names, (pchannelsPayload historyLimit (false, [name])).length ≤ 186 := by
    intro name hname
    have hlength := length_le_of_channelNameValid (hnames name hname)
    show ([] ++ "PCHANNELS=".toList ++ [','].intercalate [name]).length ≤ 186
    rw [List.intercalate_singleton]
    simp only [List.length_append, List.length_nil]
    omega
  refine ⟨_, rfl, ?_⟩
  unfold pchannelsParts
  rw [commaFields_intercalate fun name hname => ne_nil_and_no_comma (hnames name hname)]
  show Cut _ (fun part => s.fits (s.pchannelsLine c historyLimit part)) ([] ++ names) _
  exact cut_pchannelsLoop hnames (fun name hname => fits_pchannelsLine hserver hnick (hone name hname))
    (fits_pchannelsLine hserver hnick hfirst)

theorem carriesAll_watchList (hwatch : ∀ nick ∈ (s.client c).watchList, validNickname nick = true) :
    s.CarriesAll (fun nicks => s.watchListLine c (joinBlank nicks)) id (s.client c).watchList
      ((watchChunks (fun payload => s.fits (s.watchListLine c payload)) (s.client c).watchList []).map
        (s.watchListLine c)) := by
  have hne : ∀ nick ∈ [] ++ (s.client c).watchList, nick ≠ [] := by
    rintro _ hmem rfl
    exact absurd (hwatch [] hmem) (by decide)
  obtain ⟨parts, hparts, hcut⟩ := cut_watchChunks hne
    (fun nick hmem => fits_watchListLine hserver hnick (length_le_of_validNickname (hwatch nick hmem)))
    (fits_watchListLine hserver hnick (Nat.zero_le _))
  refine ⟨parts, ?_, hcut⟩
  exact (congrArg (List.map (s.watchListLine c)) hparts).trans List.map_map

end Replies

theorem linesTo_sendAll (s : Server) (c : ClientRef) (lines : List Line) :
    s.linesTo (s.sendAll c lines) c = lines := by
  unfold sendAll
  rw [linesTo_deliver]
  simp [List.filter_map, Function.comp_def]

theorem out_listWatch (s : Server) (c : ClientRef) :
    (s.listWatch c).out = (s.sendAll c ((watchChunks (fun payload => s.fits (s.watchListLine c payload))
      (s.client c).watchList []).map (s.watchListLine c) ++ [s.reply c 607 [lit ":End of WATCH L"]])).out := by
  show (s.out ++ _) ++ _ = s.out ++ _
  rw [List.append_assoc, List.map_append, List.map_append]
  simp only [List.map_map]
  rfl

/-- **List replies lose nothing**: NAMES lines after a JOIN and of the command, the channels of WHOIS,
    PCHANNELS and the WATCH list. -/
theorem list_replies_carry_all {s : Server} {c : ClientRef}
    (hserver : s.config.serverName.length ≤ ircServerNameMax)
    (hnick : validNickname (s.client c).nick = true) :
    (∀ ch, (s.channel ch).name.length ≤ ircChannelNameMax →
      (∀ m ∈ (s.channel ch).members, validNickname (s.client m.client).nick = true) →
      (∃ marker lines, s.linesTo (s.sendNames ch c) c = lines ++ [s.endOfNames c ch] ∧
        s.CarriesAll (s.namesLine c marker ch) id ((s.channel ch).members.map s.namesEntry) lines) ∧
      (s.namesVisible c ch = true →
        ∃ marker lines, s.namesForChannel c ch = lines ++ [s.endOfNames c ch] ∧
        s.CarriesAll (s.namesLine c marker ch) id ((s.channel ch).members.map s.namesEntry) lines)) ∧
    (∀ target, validNickname (s.client target).nick = true →
      (∀ ch ∈ (s.client target).channels, (s.channel ch).name.length ≤ ircChannelNameMax) →
      s.CarriesAll (s.whoisChannelsLine c target) id
        (((s.client target).channels.filter (s.whoisVisible c target)).map (s.whoisToken target))
        (s.whoisChannels c target)) ∧
    (∀ historyLimit < 2 ^ 64, ∀ names : List Text, (∀ name ∈ names, channelNameValid name = true) →
      s.CarriesAll (s.pchannelsLine c historyLimit) (·.2) names
        (s.linesTo (s.sendPchannels c historyLimit ([','].intercalate names)) c)) ∧
    ((∀ nick ∈ (s.client c).watchList, validNickname nick = true) →
      ∃ lines, s.linesTo (s.listWatch c) c = lines ++ [s.reply c 607 [lit ":End of WATCH L"]] ∧
        s.CarriesAll (fun nicks => s.watchListLine c (joinBlank nicks)) id (s.client c).watchList lines) := by
  refine ⟨fun ch hch hmembers => ⟨?_, fun hvisible => ?_⟩, fun target htarget hchannels => ?_,
    fun historyLimit hlimit names hnames => ?_, fun hwatch => ?_⟩
  · exact ⟨_, _, s.linesTo_sendAll c _, carriesAll_namesReplies hserver hnick hch hmembers _⟩
  · refine ⟨namesMarker (s.channel ch), _, ?_, carriesAll_namesReplies hserver hnick hch hmembers _⟩
    unfold namesForChannel
    rw [hvisible]
    rfl
  · exact carriesAll_whoisChannels hserver hnick htarget hchannels
  · unfold sendPchannels
    rw [linesTo_sendAll]
    exact carriesAll_pchannels hserver hnick hlimit hnames
  · refine ⟨_, ?_, carriesAll_watchList hserver hnick hwatch⟩
    rw [linesTo_of_out (out_listWatch s c), linesTo_sendAll]

/-- A member who watches two nicknames. -/
def watchingMember : Server :=
  let s := (Server.initial {} {} {}).updClient 0 fun cl =>
    { cl with nick := "ann".toList, watchList := ["bob".toList, "cid".toList] }
  (s.updChannel 0 fun ch => { ch with name := "#lobby".toList }).addToChannel 0 0

/-- All five lists of one client; the eighteen channel names need a second line. -/
theorem list_replies_carry_all_member :
    (∃ marker lines, watchingMember.linesTo (watchingMember.sendNames 0 0) 0 =
        lines ++ [watchingMember.endOfNames 0 0] ∧
      watchingMember.CarriesAll (watchingMember.namesLine 0 marker 0) id [(none, "ann".toList)] lines) ∧
    (∃ marker lines, watchingMember.namesForChannel 0 0 = lines ++ [watchingMember.endOfNames 0 0] ∧
      watchingMember.CarriesAll (watchingMember.namesLine 0 marker 0) id [(none, "ann".toList)] lines) ∧
    watchingMember.CarriesAll (watchingMember.whoisChannelsLine 0 0) id ["#lobby".toList]
      (watchingMember.whoisChannels 0 0) ∧
    watchingMember.CarriesAll (watchingMember.pchannelsLine 0 50) (·.2)
      (List.replicate 18 ('#' :: List.replicate 31 'c'))
      (watchingMember.linesTo (watchingMember.sendPchannels 0 50
        ([','].intercalate (List.replicate 18 ('#' :: List.replicate 31 'c')))) 0) ∧
    ∃ lines, watchingMember.linesTo (watchingMember.listWatch 0) 0 =
        lines ++ [watchingMember.reply 0 607 [lit ":End of WATCH L"]] ∧
      watchingMember.CarriesAll (fun nicks => watchingMember.watchListLine 0 (joinBlank nicks)) id
        ["bob".toList, "cid".toList] lines := by
  obtain ⟨hnames, hwhois, hpchannels, hwatch⟩ :=
    list_replies_carry_all (s := watchingMember) (c := 0) (by decide +kernel) (by decide +kernel)
  obtain ⟨hjoin, hquery⟩ := hnames 0 (by decide +kernel) (by decide +kernel)
  have hwhois := hwhois 0 (by decide +kernel) (by decide +kernel)
  have hentries : (watchingMember.channel 0).members.map watchingMember.namesEntry = [(none, "ann".toList)] := by
    decide +kernel
  have htokens : ((watchingMember.client 0).channels.filter (watchingMember.whoisVisible 0 0)).map
      (watchingMember.whoisToken 0) = ["#lobby".toList] := by
    decide +kernel
  rw [hentries] at hjoin hquery
  rw [htokens] at hwhois
  refine ⟨hjoin, hquery (by decide +kernel), hwhois, ?_, hwatch (by decide +kernel)⟩
  refine hpchannels 50 (by decide) _ fun name hname => ?_
  rw [List.eq_of_mem_replicate hname]
  decide +kernel

end Server

end ScratchIrcd
