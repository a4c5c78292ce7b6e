/-
  File:      ScratchIrcd/Modes.lean
  Subject:   User modes, channel modes and membership privileges (include/modes.h, src/modes.c).

  A mode word of the source is a set of its bits. `*_mode_has(set, mask)` is membership (for a
  mask of several bits: that one of them is present), `*_mode_add` is union, `*_mode_remove`
  set difference.
-/
import Mathlib.Data.Finset.Basic
import Mathlib.Data.Finset.SDiff
import ScratchIrcd.Lib.CText

namespace ScratchIrcd

open CText

/-- `CLIENT_MODE_*`. -/
inductive ClientMode where
  | bot | deaf | globals | hideOper | helpop | hideIdle | invisible | netadmin | oper
  | privateMode | regonlyMsg | registered | service | serverNotices | noCtcp | vhost | webirc
  | whoisNotice | wallops | cloaked | secure | privateDeaf | channelMute
  deriving DecidableEq, Repr

/-- `CHANNEL_MODE_*`. -/
inductive ChannelMode where
  | adminOnly | noColor | inviteOnly | noKnock | regonlySpeak | moderated | noExternal | operOnly
  | privateChan | registered | regonlyJoin | stripColor | secret | topicLock | noNotice | noInvite
  | secureOnly
  deriving DecidableEq, Repr

/-- `CHANNEL_PRIV_*`; `protect` is the source's PROTECTED. -/
inductive ChannelPrivilege where
  | voice | halfop | operator | owner | protect
  deriving DecidableEq, Repr

abbrev ClientModeSet := Finset ClientMode
abbrev ChannelModeSet := Finset ChannelMode
abbrev ChannelPrivilegeSet := Finset ChannelPrivilege

/-- `CLIENT_MODE_OPER | CLIENT_MODE_NETADMIN` asked of a mode word. -/
def isOperator (modes : ClientModeSet) : Bool :=
  decide (ClientMode.oper ∈ modes) || decide (ClientMode.netadmin ∈ modes)

/-- `CHANNEL_PRIV_OWNER | CHANNEL_PRIV_OPERATOR`, what a founder and a first member get. -/
def ownerPrivileges : ChannelPrivilegeSet := {.owner, .operator}

/-- `channel_privilege_rank`: 0 none, 1 voice, 2 halfop, 3 operator, 4 protected, 5 owner. -/
def privilegeRank (p : ChannelPrivilegeSet) : Nat :=
  if .owner ∈ p then 5
  else if .protect ∈ p then 4
  else if .operator ∈ p then 3
  else if .halfop ∈ p then 2
  else if .voice ∈ p then 1
  else 0

/-- `channel_privilege_prefix`. -/
def privilegePrefix (p : ChannelPrivilegeSet) : Option Char :=
  if .owner ∈ p then some '~'
  else if .protect ∈ p then some '&'
  else if .operator ∈ p then some '@'
  else if .halfop ∈ p then some '%'
  else if .voice ∈ p then some '+'
  else none

/-- The letters in the order `channel_privilege_format` writes them. -/
def privilegeLetters : List (ChannelPrivilege × Char) :=
  [(.owner, 'q'), (.protect, 'a'), (.operator, 'o'), (.halfop, 'h'), (.voice, 'v')]

/-- `channel_privilege_format`. -/
def privilegeFormat (p : ChannelPrivilegeSet) : Text :=
  (privilegeLetters.filter fun x => x.1 ∈ p).map (·.2)

/-! ## Ranks -/

theorem privilegeRank_lt_four {p : ChannelPrivilegeSet} :
    privilegeRank p < 4 ↔ .owner ∉ p ∧ .protect ∉ p := by
  unfold privilegeRank
  split_ifs <;> simp_all

theorem privilegeRank_eq_five {p : ChannelPrivilegeSet} : privilegeRank p = 5 ↔ .owner ∈ p := by
  unfold privilegeRank
  split_ifs <;> simp_all

theorem privilegeRank_eq_four {p : ChannelPrivilegeSet} :
    privilegeRank p = 4 ↔ .owner ∉ p ∧ .protect ∈ p := by
  unfold privilegeRank
  split_ifs <;> simp_all

end ScratchIrcd
