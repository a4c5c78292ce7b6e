/-
  File:      ScratchIrcd/ServiceAct.lean
  Subject:   What a service command can do: a chain of acts.

  The commands of ChanServ, NickServ and their administrators share a small number of effects:
  output, statements on the databases, a setting put on the live channel, a row read again, a member
  brought in step, an account gained or lost. `ServiceAct` names them, and every command is shown to
  be a chain of them; an invariant is then proved act by act, for all commands at once. Statements may
  fail: what they leave of the databases is left open.
-/
import ScratchIrcd.NickServ
import ScratchIrcd.JoinPolicy

namespace ScratchIrcd

open CText Relation

variable {s s' : Server} {α : Type*}

/-! ## 1. Acts -/

/-- A setting of CHANSERV SET that a live channel keeps, with the value it is given. -/
inductive Setting where
  | mlock (lock : ChannelModeSet)
  | topiclock (lock : ChannelModeSet)
  | secureOps (on : Bool)
  | successor (account : Text)
  | greeting (text : Text)
  | topic (text : Text) (setter : Field) (time : Nat)

/-- What it does to the live channel. -/
def Setting.live : Setting → Channel → Channel
  | .mlock lock, ch => { ch with
      chanservPolicyLoaded := true
      chanservPolicyValid := true
      chanservModeLock := lock
      modes := insert ChannelMode.registered ((ch.modes \ persistentModeMask) ∪ lock) }
  | .topiclock lock, ch => { ch with
      chanservModeLock := lock
      modes := if ChannelMode.topicLock ∈ lock then insert ChannelMode.topicLock ch.modes
        else ch.modes.erase .topicLock }
  | .secureOps on, ch => { ch with chanservSecureOps := on }
  | .successor account, ch => { ch with chanservSuccessor := cString account }
  | .greeting text, ch => { ch with chanservGreeting := cString text }
  | .topic text setter time, ch => { ch with topic := text, topicSetter := setter, topicTime := time }

namespace Server

/-- What a service command is made of. -/
inductive ServiceAct (s : Server) : Server → Prop
  | say (ds : List (ClientRef × Line)) : ServiceAct s (s.deliver ds)
  /-- WHOWAS, the free hook, a rate limiter. -/
  | aside (whowas : List WhowasRecord) (hook : FreeHook) (n : Nat) :
      ServiceAct s { s with whowas := whowas, freeHook := hook, admitPos := n }
  /-- Statements on the databases, whatever they read, write or fail to. -/
  | statements (d : Storage) : ServiceAct s { s with storage := d }
  | setting (p : Setting) (ch : ChannelRef) : ServiceAct s (s.updChannel ch p.live)
  | register (c : ClientRef) (ch : ChannelRef) (account : Text) :
      ServiceAct s (s.updChannel ch fun chan =>
        (chan.register account).updateMember c (·.setService ownerPrivileges))
  | sync (ch : ChannelRef) (c : ClientRef) : ServiceAct s (s.syncMember ch c)
  /-- The row of a live channel is read again. -/
  | load (ch : ChannelRef) : ServiceAct s (s.loadPolicy ch true)
  | identify (c : ClientRef) (a : NickServAccount) :
      ServiceAct s (s.updClient c (·.applyAccount s.config s.ext a))
  | dropAccount (c : ClientRef) : ServiceAct s (s.updClient c (·.dropAccount s.config s.ext))
  | disconnect {c : ClientRef} {old : Text} (hfind : s.findNick old = some c) (reason : Text) :
      ServiceAct s (s.disconnect c reason)
  | rename {c : ClientRef} {old nick : Text} (hfind : s.findNick old = some c)
      (hvalid : validNickname nick = true) (hfree : s.findNick nick = none) :
      ServiceAct s (s.rename c nick)

/-- From `s` to `s'` by acts. -/
abbrev ServiceChain : Server → Server → Prop := ReflTransGen ServiceAct

end Server

/-! ## 2. Chains of the pieces -/

theorem Storage.onlyRead_nickservDbGet (d : Storage) (name : Text) :
    d.OnlyRead (d.nickservDbGet name).2 := by
  unfold nickservDbGet
  split_ifs
  · exact .refl d
  · exact .tick d
  · split <;> exact .tick d

namespace Server

/-- Looking an account up. -/
theorem enabledAccount_eq (s : Server) (name : Text) :
    ∃ d, s.storage.OnlyRead d ∧ (s.enabledAccount name).2 = { s with storage := d } := by
  have hopen : s.storage.OnlyRead s.storage.nickservDbOpen.2 := .tick _
  unfold enabledAccount
  generalize s.storage.nickservDbOpen = opened at hopen
  obtain ⟨_ | _, d⟩ := opened
  · exact ⟨d, hopen, rfl⟩
  · dsimp only at hopen ⊢
    have hget := hopen.trans (d.onlyRead_nickservDbGet name)
    generalize d.nickservDbGet name = got at hget
    obtain ⟨_ | _ | a, d'⟩ := got <;> exact ⟨d', hget, rfl⟩

namespace ServiceChain

theorem refl (s : Server) : ServiceChain s s := ReflTransGen.refl

theorem trans {a b c : Server} (h₁ : ServiceChain a b) (h₂ : ServiceChain b c) : ServiceChain a c :=
  ReflTransGen.trans h₁ h₂

theorem stored (s : Server) (d : Storage) : ServiceChain s { s with storage := d } :=
  .single (.statements d)

section

variable (h : ServiceChain s s')
include h

theorem say (ds : List (ClientRef × Line)) : ServiceChain s (s'.deliver ds) := h.tail (.say ds)

theorem csNotice (c : ClientRef) (text : Text) : ServiceChain s (s'.csNotice c text) := by
  obtain ⟨ds, -, heq⟩ := s'.csNotice_replies c text
  rw [heq]
  exact h.say ds

theorem adminNotice (c : ClientRef) (text : String) : ServiceChain s (s'.adminNotice c text) := by
  obtain ⟨ds, -, heq⟩ := s'.adminNotice_replies c text
  rw [heq]
  exact h.say ds

theorem nsNotice (c : ClientRef) (text : String) : ServiceChain s (s'.nsNotice c text) := h.say _

theorem numeric (c : ClientRef) (code : Nat) (params : List Field) :
    ServiceChain s (s'.numeric c code params) := h.say _

theorem snotice (category : Finset Snotice) (text : Text) :
    ServiceChain s (s'.snotice category text) := h.say _

end

theorem foldl {f : Server → α → Server} (hstep : ∀ (s : Server) (x : α), ServiceChain s (f s x))
    (xs : List α) (s : Server) : ServiceChain s (xs.foldl f s) := by
  induction xs generalizing s with
  | nil => exact .refl s
  | cons x xs ih => exact (hstep s x).trans (ih _)

end ServiceChain

section

variable (s : Server) (c : ClientRef)

theorem chain_accountChanged : ServiceChain s (s.accountChanged c) := by
  refine ReflTransGen.trans ?_ (ServiceChain.foldl (fun _ ch => .single (.sync ch c)) _ _)
  unfold accountNotify
  split
  · exact .refl
  · exact (ServiceChain.refl s).say _

theorem chain_endSession : ServiceChain s (s.endSession c) :=
  ServiceChain.trans (.single (.dropAccount c)) (chain_accountChanged _ c)

theorem chain_syncChannel (ch : ChannelRef) : ServiceChain s (s.syncChannel ch) :=
  ServiceChain.foldl (fun _ c => .single (.sync ch c)) _ s

theorem chain_refreshRegistration (name : Text) : ServiceChain s (s.refreshRegistration name) := by
  unfold refreshRegistration
  split
  · exact .refl s
  · rename_i ch _
    have hload : ServiceChain s (s.loadPolicy ch true) := .single (.load ch)
    dsimp only
    generalize s.loadPolicy ch true = s₁ at hload
    have hmode (p : Bool) : ServiceChain s (if p = true then s₁ else
        s₁.serviceMode ch [signChar (s₁.channel ch).isRegistered, 'r']) := by
      split
      · exact hload
      · exact hload.say _
    split
    · exact (hmode _).trans (chain_syncChannel _ ch)
    · exact hmode _

theorem chain_enabledAccount (name : Text) : ServiceChain s (s.enabledAccount name).2 := by
  obtain ⟨d, -, heq⟩ := s.enabledAccount_eq name
  rw [heq]
  exact .stored s d

theorem chain_loadFounderChannel (name : Text) : ServiceChain s (s.loadFounderChannel c name).2 := by
  have missing (d : Storage) (text : Text) : ServiceChain s ({ s with storage := d }.csNotice c text) :=
    (ServiceChain.stored s d).csNotice c text
  unfold loadFounderChannel
  dsimp only
  split
  · exact .csNotice (.refl s) c _
  · split
    · exact missing _ _
    · split
      · split
        · exact missing _ _
        · split
          · exact .stored s _
          · exact missing _ _
      · exact missing _ _

end

end Server

end ScratchIrcd
