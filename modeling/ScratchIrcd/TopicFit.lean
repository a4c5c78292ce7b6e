/-
  File:      ScratchIrcd/TopicFit.lean
  Subject:   `irc_topic_limit` (src/irc.c) against every line a topic or a greeting stands in.

  The limit is computed from two line shapes, the 332 reply and the TOPIC relay, with every name at
  its longest. The 322 line of LIST also carries a member count, and the lines of ChanServ a prefix
  of their own; what is left of the 510 bytes is enough for each.
-/
import ScratchIrcd.Query
import Mathlib.Data.Nat.Digits.Defs

namespace ScratchIrcd

open CText

/-- `%d` -/
def intDecimal (n : Int) : Text := (if n < 0 then ['-'] else []) ++ decimal n.natAbs

/-- The lines a topic is shown in: the 332 reply, LIST, the TOPIC relay and ChanServ's TOPIC; and the
    greeting, which is held to the same limit. -/
def topicLines (subject : ClientRef) (nick user host channel topic : Text) (count : Int) : List Line :=
  [⟨.server, .numeric 332 nick [channel, (':' :: topic : Text)]⟩,
   ⟨.server, .numeric 322 nick [channel, intDecimal count, (':' :: topic : Text)]⟩,
   ⟨.user subject nick user host, .topic channel topic⟩,
   ⟨.service "ChanServ".toList, .topic channel topic⟩,
   ⟨.service "ChanServ".toList, .notice nick topic⟩]

theorem length_intDecimal_le {n : Int} (hlow : -2147483648 ≤ n) (hhigh : n ≤ 2147483647) :
    (intDecimal n).length ≤ 11 := by
  have hdigits : (decimal n.natAbs).length ≤ 10 := Nat.toDigits_length 10 _ 10 (by omega) (by omega)
  have hsign : (if n < 0 then ['-'] else []).length ≤ 1 := by split <;> simp
  unfold intDecimal
  rw [List.length_append]
  omega

/-- What the relay leaves of a line; the 332 reply leaves more. -/
theorem ircTopicLimit_le (config : ServerConfig) : ircTopicLimit config ≤ 378 := by
  unfold ircTopicLimit
  dsimp only
  split
  · exact Nat.zero_le _
  · exact min_le_right _ _

theorem length_le_of_validNickname {nick : Text} (h : validNickname nick = true) : nick.length ≤ 15 := by
  unfold validNickname at h
  simp only [Bool.and_eq_true, decide_eq_true_eq] at h
  exact h.1.1.2

theorem length_le_of_channelNameValid {name : Text} (h : channelNameValid name = true) :
    name.length ≤ 32 := by
  unfold channelNameValid at h
  simp only [Bool.and_eq_true, decide_eq_true_eq] at h
  exact h.1.2

section

variable (serverName : Text)

theorem length_wire_numeric (code : Nat) (nick : Text) (params : List Field) :
    ((⟨.server, .numeric code nick params⟩ : Line).wire serverName).length =
      serverName.length + nick.length + 6 + (params.flatMap fun p => ' ' :: p.text).length := by
  show ((':' :: serverName ++ [' ']) ++ (threeDigits code ++ ' ' :: nick ++ _)).length = _
  have hcode : (threeDigits code).length = 3 := rfl
  simp only [List.length_append, List.length_cons, List.length_nil, hcode]
  omega

theorem length_wire_topic (source : Source) (channel topic : Text) :
    ((⟨source, .topic channel topic⟩ : Line).wire serverName).length =
      (source.wire serverName).length + 6 + channel.length + 2 + topic.length := by
  show (_ ++ ("TOPIC ".toList ++ channel ++ " :".toList ++ topic)).length = _
  have hverb : "TOPIC ".toList.length = 6 ∧ " :".toList.length = 2 := ⟨rfl, rfl⟩
  simp only [List.length_append]
  omega

theorem length_wire_notice (source : Source) (nick text : Text) :
    ((⟨source, .notice nick text⟩ : Line).wire serverName).length =
      (source.wire serverName).length + 7 + nick.length + 2 + text.length := by
  show (_ ++ ("NOTICE ".toList ++ nick ++ " :".toList ++ text)).length = _
  have hverb : "NOTICE ".toList.length = 7 ∧ " :".toList.length = 2 := ⟨rfl, rfl⟩
  simp only [List.length_append]
  omega

theorem length_wire_user (subject : ClientRef) (nick user host : Text) :
    ((Source.user subject nick user host).wire serverName).length =
      nick.length + user.length + host.length + 4 := by
  show (':' :: nick ++ '!' :: user ++ '@' :: host ++ [' ']).length = _
  simp only [List.length_append, List.length_cons, List.length_nil]
  omega

theorem length_wire_chanserv :
    ((Source.service "ChanServ".toList).wire serverName).length = serverName.length + 19 := by
  show (':' :: "ChanServ".toList ++ "!service@".toList ++ serverName ++ [' ']).length = _
  have hname : "ChanServ".toList.length = 8 ∧ "!service@".toList.length = 9 := ⟨rfl, rfl⟩
  simp only [List.length_append, List.length_cons, List.length_nil]
  omega

end

/-- **Every accepted topic is representable everywhere**: with any legal names, and any count that
    is an `int`. -/
theorem Server.topic_fits_everywhere (s : Server) (hserver : s.config.serverName.length ≤ ircServerNameMax)
    {topic : Text} (htopic : topic.length ≤ ircTopicLimit s.config) {nick user host channel : Text}
    (hnick : validNickname nick = true) (huser : user.length ≤ ircUserMax)
    (hhost : host.length ≤ ircHostMax) (hchannel : channelNameValid channel = true)
    {count : Int} (hlow : -2147483648 ≤ count) (hhigh : count ≤ 2147483647) (subject : ClientRef) :
    ∀ l ∈ topicLines subject nick user host channel topic count,
      (l.wire s.config.serverName).length ≤ 510 := by
  have hlimit := htopic.trans (ircTopicLimit_le s.config)
  have hnick' := length_le_of_validNickname hnick
  have hchannel' := length_le_of_channelNameValid hchannel
  have hcount := length_intDecimal_le hlow hhigh
  unfold ircServerNameMax at hserver
  unfold ircUserMax at huser
  unfold ircHostMax at hhost
  unfold topicLines
  simp only [List.forall_mem_cons, List.not_mem_nil, false_implies, implies_true, and_true,
    length_wire_numeric, length_wire_topic, length_wire_notice, length_wire_user, length_wire_chanserv,
    List.flatMap_cons, List.flatMap_nil, List.length_append, List.length_cons, List.length_nil]
  refine ⟨?_, ?_, ?_, ?_, ?_⟩ <;> omega

/-- The longest names there are, with a topic at the limit. -/
theorem Server.topic_fits_everywhere_longest :
    ircTopicLimit (Server.initial {} {} {}).config = 378 ∧
      ∀ l ∈ topicLines 0 (List.replicate 15 'n') (List.replicate 10 'u') (List.replicate 63 'h')
          ('#' :: List.replicate 31 'c') (List.replicate 378 't') (-2147483648),
        (l.wire (Server.initial {} {} {}).config.serverName).length ≤ 510 :=
  ⟨by decide +kernel, Server.topic_fits_everywhere (Server.initial {} {} {}) (by decide +kernel) (by decide +kernel)
    (by decide +kernel) (by decide +kernel) (by decide +kernel) (by decide +kernel) (by decide)
    (by decide) 0⟩

end ScratchIrcd
