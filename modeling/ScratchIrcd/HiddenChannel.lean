/-
  File:      ScratchIrcd/HiddenChannel.lean
  Subject:   What LIST, NAMES, WHO, WHOIS and a topic query tell an outsider about a channel with
             +s or +p: the answers in a state are compared with the answers in the same state
             without the channel.

  Every answer is the same but two. NAMES and a topic query for the channel itself end with a
  line that names it, and take the name from the channel; for a channel that does not exist they
  repeat the name as it was typed. So the channel shows itself to whoever asks for it in another
  spelling.
-/
import ScratchIrcd.Query

namespace ScratchIrcd

open CText

variable {text : String} {name query : Text}

/-- A line that asks about channels or clients. -/
inductive Query where
  | list (params : Option Text)
  | names (params : Option Text)
  | who (params : Option Text)
  | whois (params : Option Text)
  /-- TOPIC without a topic. -/
  | topic (params : Option Text)
      (noTopic : ∀ w ∈ params.bind strtokSpace, strtokRest w.2 = none)

/-- The channel a NAMES line or a topic query asks for. -/
def Query.asksFor : Query → Option Text
  | .names params => (params.bind (strtok isBlankOrComma)).map Prod.fst
  | .topic params _ => (params.bind strtokSpace).map Prod.fst
  | _ => none

namespace Server

/-! ## 1. The state without a channel -/

/-- The state in which the channel and its memberships do not exist. -/
def without (s : Server) (ch : ChannelRef) : Server :=
  { s with
    channelsByName := s.channelsByName.remove (s.channel ch).name
    channelCount := s.channelCount - 1
    client := fun r => (s.client r).unlink ch }

/-- The server handles a query of `c`. -/
def ask (s : Server) (geoip : ClientRef → Option ClientGeoIP) (c : ClientRef) : Query → Server
  | .list params => s.commandList c params
  | .names params => s.commandNames c params
  | .who params => s.commandWho c params
  | .whois params => s.commandWhois geoip c params
  | .topic params _ => s.commandTopic c params

/-- The bytes `c` gets as the answer. -/
def answer (s : Server) (geoip : ClientRef → Option ClientGeoIP) (c : ClientRef) (q : Query) :
    List Text :=
  s.bytesTo (s.ask geoip c q) c

/-- `ch` is a channel with +s or +p, and `c` is a registered client with no right to see it. -/
structure HiddenFrom (s : Server) (ch : ChannelRef) (c : ClientRef) : Prop where
  live : s.findChannel (s.channel ch).name = some ch
  hidden : ¬ Disjoint (s.channel ch).modes {.privateChan, .secret}
  registered : (s.client c).registered = true
  notOper : (s.client c).isOper = false
  outside : s.inChannel ch c = false

/-- A query for the channel itself spells its name as the channel has it. -/
def SpelledAsStored (s : Server) (ch : ChannelRef) (q : Query) : Prop :=
  ∀ name ∈ q.asksFor, nameEq name (s.channel ch).name = true → name = (s.channel ch).name

variable {s : Server} {ch : ChannelRef} {c : ClientRef}

theorem HiddenFrom.not_namesVisible (h : s.HiddenFrom ch c) : s.namesVisible c ch = false := by
  unfold namesVisible
  simp [h.notOper, h.outside, h.hidden]

theorem HiddenFrom.not_listVisible (h : s.HiddenFrom ch c) : s.listVisible c ch = false := by
  unfold listVisible
  simp [h.notOper, h.outside, h.hidden]

theorem HiddenFrom.not_whoisVisible (h : s.HiddenFrom ch c) {r : ClientRef} (hr : c ≠ r) :
    s.whoisVisible c r ch = false := by
  unfold whoisVisible
  simp [h.notOper, h.outside, h.hidden, hr]

/-- Without the channel its names lead nowhere, and every other name leads where it did. -/
theorem findChannel_without (hs : s.Sound) (h : s.HiddenFrom ch c) (name : Text) :
    (s.without ch).findChannel name =
      if s.findChannel name = some ch then none else s.findChannel name := by
  have hget : (s.without ch).findChannel name =
      if nameEq (s.channel ch).name name = true then none else s.findChannel name :=
    s.channelsByName.get_remove _ _
  rw [hget]
  by_cases heq : nameEq (s.channel ch).name name = true
  · have hfind : s.findChannel name = some ch := (hs.congr heq).symm.trans h.live
    rw [if_pos heq, if_pos hfind]
  · have hfind : s.findChannel name ≠ some ch := fun hfind => heq (hs.named hfind)
    rw [if_neg heq, if_neg hfind]

/-- The outsider's own memberships are not among those that go. -/
theorem HiddenFrom.channels_without (hs : s.Sound) (h : s.HiddenFrom ch c) :
    ((s.without ch).client c).channels = (s.client c).channels := by
  apply List.erase_of_not_mem
  intro hmem
  have hmember : c ∈ s.memberRefs ch := (hs.linked h.live c).mp hmem
  have hin : s.inChannel ch c = true := (Channel.hasClient_iff _ _).mpr hmember
  rw [h.outside] at hin
  cases hin

/-! ## 2. Answers that stay the same -/

/-- A walk that skips `x` does not notice when `x` is erased. -/
theorem filter_erase_of_skipped {α : Type*} [DecidableEq α] {p : α → Bool} {x : α} (hx : p x = false)
    (l : List α) : (l.erase x).filter p = l.filter p := by
  induction l with
  | nil => rfl
  | cons a l ih =>
    by_cases ha : a = x
    · subst ha
      simp [hx]
    · rw [List.erase_cons_tail (by simpa using ha), List.filter_cons, List.filter_cons, ih]

theorem bytesTo_sendAll (s : Server) (c : ClientRef) (lines : List Line) :
    s.bytesTo (s.sendAll c lines) c = lines.map (·.wire s.config.serverName) := by
  unfold bytesTo sendAll deliver
  simp [Function.comp_def, List.filter_map]

theorem bytesTo_whoisNotice (s : Server) (c target : ClientRef) (lines : List Line) :
    s.bytesTo ((s.whoisNotice c target).sendAll c lines) c =
      lines.map (·.wire s.config.serverName) := by
  unfold whoisNotice
  split
  · rename_i hcond
    have hne : target ≠ c := by
      rw [Bool.and_eq_true, Bool.and_eq_true] at hcond
      exact bne_iff_ne.mp hcond.1.1
    unfold bytesTo sendAll serverNotice send deliver
    simp [Function.comp_def, List.filter_map, hne]
  · exact s.bytesTo_sendAll c lines

theorem listVisible_without (r : ClientRef) : (s.without ch).listVisible r = s.listVisible r := rfl

theorem namesVisible_without (r : ClientRef) : (s.without ch).namesVisible r = s.namesVisible r := rfl

theorem whoVisible_without (hs : s.Sound) (h : s.HiddenFrom ch c) :
    (s.without ch).whoVisible c = s.whoVisible c := by
  funext r
  have hshare : (s.without ch).shareChannel c r = s.shareChannel c r := by
    unfold shareChannel
    rw [h.channels_without hs]
    rfl
  unfold whoVisible visibilityShareChannel
  rw [hshare]
  rfl

theorem answer_list (h : s.HiddenFrom ch c) (geoip : ClientRef → Option ClientGeoIP)
    (params : Option Text) :
    (s.without ch).answer geoip c (.list params) = s.answer geoip c (.list params) := by
  have hrefs : (s.without ch).channelRefs.filter (s.listVisible c) =
      s.channelRefs.filter (s.listVisible c) := by
    refine s.channelsByName.filter_values_remove fun v hv => ?_
    have hch : v = ch := Option.some.inj (hv.symm.trans h.live)
    rw [hch]
    exact h.not_listVisible
  have hreg : ((s.without ch).client c).registered = true := h.registered
  unfold answer ask commandList
  rw [h.registered, hreg, listVisible_without, hrefs]
  simp only [Bool.not_true, Bool.false_eq_true, if_false]
  rw [bytesTo_sendAll, bytesTo_sendAll]
  rfl

section

variable (hs : s.Sound) (h : s.HiddenFrom ch c)
include hs h

theorem whoLines_without (mask : Option Text) :
    (s.without ch).whoLines c mask = s.whoLines c mask := by
  have hall : (s.without ch).whoAll c = s.whoAll c := by
    unfold whoAll
    rw [whoVisible_without hs h]
    rfl
  cases mask with
  | none => exact hall
  | some mask =>
    have hnick : (s.without ch).whoNick c mask = s.whoNick c mask := by
      unfold whoNick
      rw [whoVisible_without hs h]
      rfl
    have hchannel : (s.without ch).whoChannel c mask = s.whoChannel c mask := by
      unfold whoChannel
      rw [findChannel_without hs h, whoVisible_without hs h, namesVisible_without]
      by_cases hfind : s.findChannel mask = some ch
      · rw [if_pos hfind, hfind, Option.filter_some, h.not_namesVisible]
        rfl
      · rw [if_neg hfind]
        rfl
    unfold whoLines
    dsimp only
    rw [hall, hnick, hchannel]

theorem answer_who (geoip : ClientRef → Option ClientGeoIP) (params : Option Text) :
    (s.without ch).answer geoip c (.who params) = s.answer geoip c (.who params) := by
  have hreg : ((s.without ch).client c).registered = true := h.registered
  unfold answer ask commandWho
  rw [h.registered, hreg]
  simp only [Bool.not_true, Bool.false_eq_true, if_false]
  rw [bytesTo_sendAll, bytesTo_sendAll, whoLines_without hs h]
  rfl

theorem whoisTokens_without (r : ClientRef) :
    (s.without ch).whoisTokens c r = s.whoisTokens c r := by
  have hshown : ((s.without ch).client r).channels.filter (s.whoisVisible c r) =
      (s.client r).channels.filter (s.whoisVisible c r) := by
    by_cases hr : c = r
    · subst hr
      rw [h.channels_without hs]
    · exact filter_erase_of_skipped (h.not_whoisVisible hr) _
  unfold whoisTokens
  have hvisible : (s.without ch).whoisVisible c r = s.whoisVisible c r := rfl
  rw [hvisible, hshown]
  rfl

theorem whoisLines_without (geoip : Option ClientGeoIP) (r : ClientRef) :
    (s.without ch).whoisLines geoip c r = s.whoisLines geoip c r := by
  have hchannels : (s.without ch).whoisChannels c r = s.whoisChannels c r := by
    unfold whoisChannels
    rw [whoisTokens_without hs h]
    rfl
  unfold whoisLines
  rw [hchannels]
  rfl

theorem answer_whois (geoip : ClientRef → Option ClientGeoIP) (params : Option Text) :
    (s.without ch).answer geoip c (.whois params) = s.answer geoip c (.whois params) := by
  have hreg : ((s.without ch).client c).registered = true := h.registered
  have hnicks : (s.without ch).findNick = s.findNick := rfl
  unfold answer ask commandWhois
  rw [h.registered, hreg, hnicks]
  simp only [Bool.not_true, Bool.false_eq_true, if_false]
  split
  · rw [bytesTo_sendAll, bytesTo_sendAll]
    rfl
  · split
    · rw [bytesTo_sendAll, bytesTo_sendAll]
      rfl
    · rw [bytesTo_whoisNotice, bytesTo_whoisNotice, whoisLines_without hs h]
      rfl

end

/-! ## 3. NAMES and the topic query -/

/-- The names that stand in every reply are within their buffers. -/
structure NamesFit (s : Server) (c : ClientRef) : Prop where
  server : s.config.serverName.length ≤ ircHostMax
  nick : (s.client c).nick.length ≤ ircNickMax

/-- A query as long as a channel name is repeated in full. -/
theorem queryBase_room (hfit : s.NamesFit c) (code : Nat) (htext : text.toList.length ≤ 32)
    (hquery : query.length ≤ ircChannelNameMax) :
    s.queryBase c code text ≤ ircLineContentMax ∧
      query.length ≤ ircLineContentMax - s.queryBase c code text := by
  have hbase : s.queryBase c code text =
      s.config.serverName.length + (s.client c).nick.length + text.toList.length + 8 := by
    have hbytes : s.queryBase c code text =
        (numericBytes s.config code (s.client c).nick [lit "", lit text]).length := rfl
    have hempty : (lit "").text = [] := rfl
    have htail : (lit text).text = text.toList := rfl
    have hcode : (threeDigits code).length = 3 := rfl
    rw [hbytes, numericBytes_two, hempty, htail]
    simp only [List.length_append, List.length_cons, List.length_nil, hcode]
    omega
  have hserver : s.config.serverName.length ≤ 63 := hfit.server
  have hnick : (s.client c).nick.length ≤ 15 := hfit.nick
  have hname : query.length ≤ 32 := hquery
  have hmax : ircLineContentMax = 510 := rfl
  omega

theorem queryReply_of_short (hfit : s.NamesFit c) {code : Nat} (htext : text.toList.length ≤ 32)
    (hquery : query.length ≤ ircChannelNameMax) :
    s.queryReply c code query text = [s.reply c code [query, lit text]] := by
  obtain ⟨hbase, hroom⟩ := queryBase_room hfit code htext hquery
  unfold queryReply
  dsimp only
  rw [if_neg (Nat.not_lt.mpr hbase), bounded_of_length_le hroom]

theorem queryNumeric_of_short (hfit : s.NamesFit c) {code : Nat} (htext : text.toList.length ≤ 32)
    (hquery : query.length ≤ ircChannelNameMax) :
    s.queryNumeric c code query text = s.numeric c code [query, lit text] := by
  obtain ⟨hbase, hroom⟩ := queryBase_room hfit code htext hquery
  have hdef : s.queryNumeric c code query text =
      if ircLineContentMax < s.queryBase c code text then s
      else s.numeric c code [bounded (ircLineContentMax - s.queryBase c code text) query, lit text] :=
    rfl
  rw [hdef, if_neg (Nat.not_lt.mpr hbase), bounded_of_length_le hroom]

/-- A name of the channel is as long as the stored one. -/
theorem HiddenFrom.length_le (hs : s.Sound) (h : s.HiddenFrom ch c)
    (heq : nameEq name (s.channel ch).name = true) : name.length ≤ ircChannelNameMax := by
  have hvalid : channelNameValid (s.channel ch).name = true := hs.valid h.live
  have hlen := length_eq_of_nameEq heq
  unfold channelNameValid at hvalid
  simp only [Bool.and_eq_true, decide_eq_true_eq] at hvalid
  omega

theorem bytes_endOfNames (s : Server) (c : ClientRef) (ch : ChannelRef) :
    (s.endOfNames c ch).wire s.config.serverName = numericBytes s.config 366 (s.client c).nick
      [(s.channel ch).name, lit ":End of /NAMES list."] := by
  have hwire : (s.endOfNames c ch).wire s.config.serverName =
      (':' :: s.config.serverName ++ [' ']) ++ ("366 ".toList ++ (s.client c).nick ++
        ' ' :: (s.channel ch).name ++ " :End of /NAMES list.".toList) := rfl
  have hcode : "366 ".toList = threeDigits 366 ++ [' '] := by decide
  have htext : " :End of /NAMES list.".toList = ' ' :: (lit ":End of /NAMES list.").text := by decide
  rw [hwire, hcode, htext, numericBytes_two]
  simp only [List.cons_append, List.append_assoc, List.nil_append]

/-- NAMES for a name of the channel: the stored name if it exists, the typed one if not. -/
theorem namesQuery_self (hs : s.Sound) (h : s.HiddenFrom ch c) (hfit : s.NamesFit c)
    (heq : nameEq name (s.channel ch).name = true) :
    (s.namesQuery c name).map (·.wire s.config.serverName) =
        [numericBytes s.config 366 (s.client c).nick
          [(s.channel ch).name, lit ":End of /NAMES list."]] ∧
      ((s.without ch).namesQuery c name).map (·.wire s.config.serverName) =
        [numericBytes s.config 366 (s.client c).nick [name, lit ":End of /NAMES list."]] := by
  have hfind : s.findChannel name = some ch := (hs.congr heq).trans h.live
  have hgone : (s.without ch).findChannel name = none := by
    rw [findChannel_without hs h, if_pos hfind]
  have hfit' : (s.without ch).NamesFit c := ⟨hfit.server, hfit.nick⟩
  constructor
  · unfold namesQuery namesForChannel
    rw [hfind]
    dsimp only
    rw [h.not_namesVisible, ← bytes_endOfNames]
    rfl
  · unfold namesQuery
    rw [hgone]
    dsimp only
    rw [queryReply_of_short hfit' (by decide) (h.length_le hs heq)]
    rfl

/-- The same for a topic query. -/
theorem topicQuery_self (hs : s.Sound) (h : s.HiddenFrom ch c) (hfit : s.NamesFit c)
    (heq : nameEq name (s.channel ch).name = true) :
    s.bytesTo (s.topicQuery c ch) c =
        [numericBytes s.config 403 (s.client c).nick [(s.channel ch).name, lit ":No such channel"]] ∧
      (s.without ch).bytesTo ((s.without ch).queryNumeric c 403 name ":No such channel") c =
        [numericBytes s.config 403 (s.client c).nick [name, lit ":No such channel"]] := by
  have hfit' : (s.without ch).NamesFit c := ⟨hfit.server, hfit.nick⟩
  constructor
  · unfold topicQuery
    rw [h.not_namesVisible]
    exact bytesTo_numeric s c _ _
  · rw [queryNumeric_of_short hfit' (by decide) (h.length_le hs heq)]
    exact bytesTo_numeric (s.without ch) c _ _

/-- A query that names no channel, or another one, is not held to any spelling. -/
theorem spelledAsStored_of_ne {q : Query} (hq : q.asksFor = some name)
    (hne : nameEq name (s.channel ch).name ≠ true) : s.SpelledAsStored ch q := by
  intro name' hmem heq
  rw [hq] at hmem
  cases hmem
  exact absurd heq hne

theorem spelledAsStored_iff {q : Query} (hq : q.asksFor = some name)
    (heq : nameEq name (s.channel ch).name = true) :
    s.SpelledAsStored ch q ↔ name = (s.channel ch).name := by
  constructor
  · intro h
    exact h name hq heq
  · intro h name' hmem _
    rw [hq] at hmem
    cases hmem
    exact h

theorem findChannel_without_of_ne (hs : s.Sound) (h : s.HiddenFrom ch c)
    (hne : nameEq name (s.channel ch).name ≠ true) :
    (s.without ch).findChannel name = s.findChannel name := by
  rw [findChannel_without hs h, if_neg]
  intro hfind
  exact hne (nameEq_symm (hs.named hfind))

theorem answer_names_iff (hs : s.Sound) (h : s.HiddenFrom ch c) (hfit : s.NamesFit c)
    (geoip : ClientRef → Option ClientGeoIP) (params : Option Text) :
    (s.without ch).answer geoip c (.names params) = s.answer geoip c (.names params) ↔
      s.SpelledAsStored ch (.names params) := by
  have hreg : ((s.without ch).client c).registered = true := h.registered
  unfold answer ask commandNames
  rw [h.registered, hreg]
  simp only [Bool.not_true, Bool.false_eq_true, if_false]
  cases hw : params.bind (strtok isBlankOrComma) with
  | none =>
    have hasks : (Query.names params).asksFor = none := by rw [Query.asksFor, hw]; rfl
    have hrefs : (s.without ch).channelRefs.filter (s.namesVisible c) =
        s.channelRefs.filter (s.namesVisible c) := by
      refine s.channelsByName.filter_values_remove fun v hv => ?_
      have hch : v = ch := Option.some.inj (hv.symm.trans h.live)
      rw [hch]
      exact h.not_namesVisible
    dsimp only
    rw [bytesTo_sendAll, bytesTo_sendAll, namesVisible_without, hrefs]
    refine iff_of_true rfl fun name hmem => ?_
    rw [hasks] at hmem
    cases hmem
  | some w =>
    obtain ⟨name, rest⟩ := w
    have hasks : (Query.names params).asksFor = some name := by rw [Query.asksFor, hw]; rfl
    have hconfig : (s.without ch).config = s.config := rfl
    dsimp only
    rw [bytesTo_sendAll, bytesTo_sendAll, hconfig]
    by_cases heq : nameEq name (s.channel ch).name = true
    · obtain ⟨hthere, hgone⟩ := namesQuery_self hs h hfit heq
      rw [spelledAsStored_iff hasks heq, hthere, hgone]
      constructor
      · intro hbytes
        exact numericBytes_inj (List.cons.inj hbytes).1
      · intro hname
        rw [← hname]
    · refine iff_of_true ?_ (spelledAsStored_of_ne hasks heq)
      unfold namesQuery
      rw [findChannel_without_of_ne hs h heq]
      rfl

theorem bytesTo_queryNumeric (s : Server) (c : ClientRef) (code : Nat) (query : Text)
    (text : String) : s.bytesTo (s.queryNumeric c code query text) c =
      (s.queryReply c code query text).map (·.wire s.config.serverName) := by
  have hdef : s.queryNumeric c code query text =
      if ircLineContentMax < s.queryBase c code text then s
      else s.numeric c code [bounded (ircLineContentMax - s.queryBase c code text) query, lit text] :=
    rfl
  unfold queryReply
  rw [hdef]
  dsimp only
  split
  · exact bytesTo_self s c
  · exact bytesTo_numeric s c _ _

theorem bytesTo_topicQuery_without (ch' : ChannelRef) :
    (s.without ch).bytesTo ((s.without ch).topicQuery c ch') c = s.bytesTo (s.topicQuery c ch') c := by
  have hvisible : (s.without ch).namesVisible c ch' = s.namesVisible c ch' := rfl
  have hchannel : (s.without ch).channel = s.channel := rfl
  unfold topicQuery
  rw [hvisible, hchannel]
  cases s.namesVisible c ch' with
  | false => rfl
  | true =>
    cases hempty : (s.channel ch').topic.isEmpty with
    | false =>
      dsimp only
      rw [hempty]
      rfl
    | true =>
      dsimp only
      rw [hempty]
      rfl

theorem answer_topic_iff (hs : s.Sound) (h : s.HiddenFrom ch c) (hfit : s.NamesFit c)
    (geoip : ClientRef → Option ClientGeoIP) (params : Option Text)
    (hno : ∀ w ∈ params.bind strtokSpace, strtokRest w.2 = none) :
    (s.without ch).answer geoip c (.topic params hno) = s.answer geoip c (.topic params hno) ↔
      s.SpelledAsStored ch (.topic params hno) := by
  have hreg : ((s.without ch).client c).registered = true := h.registered
  unfold answer ask commandTopic
  rw [h.registered, hreg]
  simp only [Bool.not_true, Bool.false_eq_true, if_false]
  cases hw : params.bind strtokSpace with
  | none =>
    have hasks : (Query.topic params hno).asksFor = none := by rw [Query.asksFor, hw]; rfl
    refine iff_of_true rfl fun name hmem => ?_
    rw [hasks] at hmem
    cases hmem
  | some w =>
    obtain ⟨name, rest⟩ := w
    have hasks : (Query.topic params hno).asksFor = some name := by rw [Query.asksFor, hw]; rfl
    have hrest : strtokRest rest = none := hno (name, rest) hw
    dsimp only
    by_cases heq : nameEq name (s.channel ch).name = true
    · have hfind : s.findChannel name = some ch := (hs.congr heq).trans h.live
      obtain ⟨hthere, hgone⟩ := topicQuery_self hs h hfit heq
      rw [spelledAsStored_iff hasks heq, findChannel_without hs h, if_pos hfind, hfind]
      dsimp only
      rw [hrest]
      dsimp only
      rw [hthere, hgone]
      constructor
      · intro hbytes
        exact numericBytes_inj (List.cons.inj hbytes).1
      · intro hname
        rw [← hname]
    · refine iff_of_true ?_ (spelledAsStored_of_ne hasks heq)
      rw [findChannel_without_of_ne hs h heq]
      cases s.findChannel name with
      | none =>
        dsimp only
        rw [bytesTo_queryNumeric, bytesTo_queryNumeric]
        rfl
      | some ch' =>
        dsimp only
        rw [hrest]
        exact bytesTo_topicQuery_without ch'

/-! ## 4. The hidden channel -/

/-- **An outsider's LIST, NAMES, WHO, WHOIS or topic query is answered as if the hidden channel did
    not exist exactly when a NAMES or topic query for it spells its name as the channel has it.** -/
theorem hidden_channel_unseen_iff (hs : s.Sound) (h : s.HiddenFrom ch c) (hfit : s.NamesFit c)
    (geoip : ClientRef → Option ClientGeoIP) (q : Query) :
    (s.without ch).answer geoip c q = s.answer geoip c q ↔ s.SpelledAsStored ch q := by
  have free : q.asksFor = none → s.SpelledAsStored ch q := by
    intro hasks name hmem
    rw [hasks] at hmem
    cases hmem
  cases q with
  | list params => exact iff_of_true (answer_list h geoip params) (free rfl)
  | names params => exact answer_names_iff hs h hfit geoip params
  | who params => exact iff_of_true (answer_who hs h geoip params) (free rfl)
  | whois params => exact iff_of_true (answer_whois hs h geoip params) (free rfl)
  | topic params hno => exact answer_topic_iff hs h hfit geoip params hno

/-- `dave` (client 1) has a secret channel, `eve` (client 0) is not in it. -/
def secretClub : Server :=
  Runs.exec channelStep
    { Server.initial {} {} {} with
      clients := [0, 1]
      client := fun c => { id := c + 1, registered := true, user := "u".toList
                           nick := if c = 0 then "eve".toList else "dave".toList
                           displayHost := "host".toList }
      clientsByNick := ((ChainedTable.empty 4093 buckets_pos).set "eve".toList 0).set
        "dave".toList 1 }
    [(1, .join 1 (some "#Secret".toList)), (2, .mode 1 (some "#Secret +s".toList))]

theorem sound_secretClub : secretClub.Sound :=
  Sound.exec (sound_of_empty (fun _ => rfl) fun _ => rfl) _

theorem hiddenFrom_secretClub : secretClub.HiddenFrom 0 0 where
  live := by decide +kernel
  hidden := by decide +kernel
  registered := by decide +kernel
  notOper := by decide +kernel
  outside := by decide +kernel

theorem namesFit_secretClub : secretClub.NamesFit 0 := ⟨by decide +kernel, by decide +kernel⟩

theorem hidden_channel_unseen_iff_secretClub :
    (secretClub.without 0).answer (fun _ => none) 0 (.names (some "#Secret".toList)) =
      secretClub.answer (fun _ => none) 0 (.names (some "#Secret".toList)) := by
  refine (hidden_channel_unseen_iff sound_secretClub hiddenFrom_secretClub namesFit_secretClub
    _ _).mpr ?_
  have hname : (secretClub.channel 0).name = "#Secret".toList := by decide +kernel
  exact (spelledAsStored_iff rfl (by rw [hname]; exact nameEq_refl _)).mpr hname.symm

/-- `NAMES #secret` is answered with `#Secret` when the channel is there. -/
theorem secretClub_seen : secretClub.Sound ∧ secretClub.HiddenFrom 0 0 ∧ secretClub.NamesFit 0 ∧
    secretClub.answer (fun _ => none) 0 (.names (some "#secret".toList)) =
      [":scratch.local 366 eve #Secret :End of /NAMES list.".toList] ∧
    (secretClub.without 0).answer (fun _ => none) 0 (.names (some "#secret".toList)) =
      [":scratch.local 366 eve #secret :End of /NAMES list.".toList] :=
  ⟨sound_secretClub, hiddenFrom_secretClub, namesFit_secretClub, by decide +kernel, by decide +kernel⟩

end Server

end ScratchIrcd
