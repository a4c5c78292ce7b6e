/-
  File:      ScratchIrcd/Unregistered.lean
  Subject:   What PRIVMSG, NOTICE and MODE tell a connection that has not registered.

  The commands proper ask for registration first. The policies around them do not: a ban, a user
  mode +D or +M, a locked mode or a refused parameter stops the line before that (`Stop`), and each
  is told in words of its own. A line tells nothing about users and channels exactly as far as it
  is stopped alike.
-/
import ScratchIrcd.Message
import ScratchIrcd.ModeRule

namespace ScratchIrcd

open CText

/-! ## 1. Lines and what stops them -/

/-- PRIVMSG, NOTICE, and a MODE on a channel. -/
inductive TalkLine where
  | privmsg (params : Option Text)
  | notice (params : Option Text)
  | mode (params : Text) (h : (Server.messageTarget params).any startsChannel = true)

/-- What stops a line before anybody asks whether the sender is registered. -/
inductive Stop where
  /-- A ban of a channel, which is named as it is stored. -/
  | banned (channel : Text)
  /-- The sender's own +M. -/
  | muted
  /-- +D of the destination, who is shown in full. -/
  | deaf (identity : Text)
  /-- The sender's own +D, without a word. -/
  | silent
  /-- A letter that ChanServ locks. -/
  | locked (letter : Char)
  /-- A limit that cannot be stored. -/
  | limit
  /-- A channel that is no target of a redirect. -/
  | redirect (param : Text)
  deriving DecidableEq

/-- The client in other channels. -/
def Client.inChannels (cl : Client) (channels : List ChannelRef) (count : Nat) : Client :=
  { cl with channels := channels, channelCount := count }

namespace Server

/-- What stops a PRIVMSG to this target. -/
def privmsgStop (s : Server) (c : ClientRef) (target : Option Text) : Option Stop :=
  match s.bannedChannelSend c target with
  | some ch => some (.banned (s.channel ch).name)
  | none =>
    if s.mutedChannelSend c target then some .muted
    else (s.messageClient target).bind fun r =>
      if s.deafTo c r then some (.deaf (s.client r).identity)
      else if s.deafTo r c then some .silent
      else none

/-- What stops a NOTICE in words; a ban and +D do it without. -/
def noticeStop (s : Server) (c : ClientRef) (target : Option Text) : Option Stop :=
  if (s.bannedChannelSend c target).isNone && s.mutedChannelSend c target then some .muted else none

/-- What a channel has against a change of modes. -/
def changeStop (chan : Channel) (letters : Text) (args : List Text) : Option Stop :=
  match mlockRefuses chan letters with
  | some letter => some (.locked letter)
  | none => (validateParams chan (signedLetters true letters) args).map fun reply =>
      if reply.1 = 461 then .limit else .redirect ((reply.2.head?.map (·.text)).getD [])

/-- What stops a MODE on a channel. -/
def modeStop (s : Server) (params : Text) : Option Stop :=
  (modeWords params).bind fun words => words.2.bind fun modes =>
    (s.modeTarget words.1).bind fun ch => changeStop (s.channel ch) modes.1 modes.2

/-- What stops a line before the check of registration. -/
def stops (s : Server) (c : ClientRef) : TalkLine → Option Stop
  | .privmsg params => params.bind fun p => s.privmsgStop c (messageTarget p)
  | .notice params => params.bind fun p =>
      if (s.nospoofHandleNotice c p).isSome then none else s.noticeStop c (messageTarget p)
  | .mode params _ => if modeWireFits (s.client c) (some params) then s.modeStop params else none

/-- A line of the connection. -/
def talk (services : MessageServices) (s : Server) (c : ClientRef) : TalkLine → Server
  | .privmsg params => commandPrivmsg services s c params
  | .notice params => s.commandNotice c params
  | .mode params _ => s.dispatchMode c (some params)

/-- Nothing is different but channels and other clients (and what was sent before). -/
structure SameSelf (c : ClientRef) (s₁ s₂ : Server) : Prop where
  rest : s₂ = { s₁ with
    clients := s₂.clients, client := s₂.client, nextClient := s₂.nextClient
    nextClientId := s₂.nextClientId, clientsByNick := s₂.clientsByNick
    channelsByName := s₂.channelsByName, channel := s₂.channel, nextChannel := s₂.nextChannel
    channelCount := s₂.channelCount, out := s₂.out }
  self : s₂.client c = (s₁.client c).inChannels (s₂.client c).channels (s₂.client c).channelCount

/-! ## 2. Bytes of the replies -/

/-- What is said about a stop, to a client, about a target. -/
def stopBytes (config : ServerConfig) (cl : Client) (target : Option Text) : Stop → List Text
  | .banned channel =>
      [numericBytes config 404 cl.nick [channel, cannotSend "banned from channel (+b)"]]
  | .muted => [numericBytes config 404 cl.nick
      [target.getD [], cannotSend "channel messaging disabled by user mode +M"]]
  | .deaf identity => [(':' :: identity) ++ (' ' :: "NOTICE ".toList ++ cl.nick ++ " :".toList ++
      "I cannot send or receive private messages.".toList)]
  | .silent => []
  | .locked letter =>
      [numericBytes config 974 cl.nick [[letter], lit ":Mode is locked by ChanServ"]]
  | .limit => [numericBytes config 461 cl.nick [lit "MODE", lit ":Not enough parameters"]]
  | .redirect param => [numericBytes config 403 cl.nick [param, lit ":No such channel"]]

/-- The reply that is the same in every state. -/
def unregisteredBytes (config : ServerConfig) (cl : Client) : TalkLine → List Text
  | .notice _ => []
  | .mode params _ =>
      if modeWireFits cl (some params) then
        [numericBytes config 451 cl.replyNick [lit ":You have not registered"]]
      else [numericBytes config 417 cl.replyNick [lit "MODE",
        lit ":MODE change would exceed the IRC line limit; split the change"]]
  | .privmsg _ => [numericBytes config 451 cl.replyNick [lit ":You have not registered"]]

theorem noticeBytes (config : ServerConfig) (r : ClientRef) (cl : Client) (nick : Text) (text : Field) :
    (⟨.user r cl.nick cl.user cl.displayHost, .notice nick text⟩ : Line).wire config.serverName =
      (':' :: cl.identity) ++ (' ' :: "NOTICE ".toList ++ nick ++ " :".toList ++ text.text) := by
  have hwire : (⟨.user r cl.nick cl.user cl.displayHost, .notice nick text⟩ : Line).wire
      config.serverName = (':' :: cl.nick ++ '!' :: cl.user ++ '@' :: cl.displayHost ++ [' ']) ++
        ("NOTICE ".toList ++ nick ++ " :".toList ++ text.text) := rfl
  have hidentity : cl.identity = cl.nick ++ '!' :: cl.user ++ '@' :: cl.displayHost := rfl
  rw [hwire, hidentity]
  simp only [List.cons_append, List.append_assoc, List.nil_append]

variable {s : Server} {c : ClientRef}

theorem commandModeCore_unregistered (h : (s.client c).registered = false)
    (params : Option Text) :
    s.commandModeCore c params = s.notRegistered c := by
  unfold commandModeCore
  rw [h]
  rfl

/-- **A PRIVMSG before registration**: the stop, or 451. -/
theorem bytesTo_privmsg (services : MessageServices) (h : (s.client c).registered = false)
    (hfree : s.versionRestricted c = false) (params : Option Text) :
    s.bytesTo (commandPrivmsg services s c params) c =
      ((s.stops c (.privmsg params)).map (stopBytes s.config (s.client c)
        (params.bind messageTarget))).getD (unregisteredBytes s.config (s.client c) (.privmsg params)) := by
  have hcore : ∀ params, commandPrivmsgCore services s c params = s.notRegistered c := by
    intro params
    unfold commandPrivmsgCore
    rw [h]
    rfl
  cases params with
  | none =>
    rw [commandPrivmsg, hcore, bytesTo_notRegistered]
    rfl
  | some params =>
    have hallowed : s.versionTargetAllowed c (messageTarget params) = true := by
      rw [versionTargetAllowed, hfree]
      rfl
    rw [commandPrivmsg, hallowed, stops, Option.bind_some, Option.bind_some, privmsgStop]
    simp only [Bool.not_true, Bool.false_eq_true, if_false]
    cases s.bannedChannelSend c (messageTarget params) with
    | some ch =>
      rw [bytesTo_numeric]
      rfl
    | none =>
      dsimp only
      split
      · rw [refuseMuted, bytesTo_numeric]
        rfl
      cases s.messageClient (messageTarget params) with
      | none =>
        dsimp only
        rw [hcore, bytesTo_notRegistered]
        rfl
      | some r =>
        dsimp only
        rw [Option.bind_some, hcore]
        split
        · rw [bytesTo_send, userSource, noticeBytes]
          rfl
        split
        · exact bytesTo_self s c
        · rw [bytesTo_notRegistered]
          rfl

/-- **A NOTICE before registration**: silence, unless the sender's own +M speaks. -/
theorem bytesTo_notice (h : (s.client c).registered = false) (hfree : s.versionRestricted c = false)
    (params : Option Text) :
    s.bytesTo (s.commandNotice c params) c =
      ((s.stops c (.notice params)).map (stopBytes s.config (s.client c)
        (params.bind messageTarget))).getD [] := by
  have hcore : ∀ params, s.commandNoticeCore c params = s := by
    intro params
    unfold commandNoticeCore
    rw [h]
    rfl
  cases params with
  | none =>
    rw [commandNotice, hcore]
    exact bytesTo_self s c
  | some params =>
    have hallowed : s.versionTargetAllowed c (messageTarget params) = true := by
      rw [versionTargetAllowed, hfree]
      rfl
    have hnoted : ∀ s', s.nospoofHandleNotice c params = some s' → s'.out = s.out := by
      intro s' hs'
      unfold nospoofHandleNotice at hs'
      dsimp only at hs'
      split_ifs at hs'
      split at hs'
      · cases hs'
      split at hs'
      · cases hs'
      split_ifs at hs' <;> cases hs' <;> rfl
    rw [commandNotice, stops, Option.bind_some, Option.bind_some]
    cases hhandled : s.nospoofHandleNotice c params with
    | some s' =>
      dsimp only
      rw [bytesTo_of_out (hnoted s' hhandled)]
      exact bytesTo_self s c
    | none =>
      dsimp only
      rw [hallowed, noticeStop, hcore]
      simp only [Option.isSome_none, Bool.not_true, Bool.false_eq_true, if_false]
      cases s.bannedChannelSend c (messageTarget params) with
      | some ch => exact bytesTo_self s c
      | none =>
        simp only [Option.isSome_none, Option.isNone_none, Bool.true_and, Bool.false_eq_true, if_false]
        split
        · rw [refuseMuted, bytesTo_numeric]
          rfl
        cases s.messageClient (messageTarget params) with
        | none => exact bytesTo_self s c
        | some r =>
          dsimp only
          split <;> exact bytesTo_self s c

/-- The two replies of `validate_channel_mode_params`. -/
theorem validateParams_cases (chan : Channel) (letters : List (Bool × Char)) (args : List Text)
    {reply : Nat × List Field} (h : validateParams chan letters args = some reply) :
    reply = (461, [lit "MODE", lit ":Not enough parameters"]) ∨
      ∃ param : Text, reply = (403, [{ text := param }, lit ":No such channel"]) := by
  induction letters generalizing args with
  | nil => cases h
  | cons l letters ih =>
    unfold validateParams at h
    split_ifs at h
    · exact .inl (Option.some.inj h).symm
    · exact .inr ⟨_, (Option.some.inj h).symm⟩
    · exact ih _ h
    · exact ih _ h

/-- The policy of mode_persist.c before registration. -/
theorem bytesTo_modePolicy (h : (s.client c).registered = false) {params target rest : Text}
    (hwords : strtokSpace params = some (target, rest)) (hchannel : startsChannel target = true) :
    s.bytesTo (s.commandModePolicy c (some params)) c =
      ((s.modeStop params).map (stopBytes s.config (s.client c) none)).getD
        [numericBytes s.config 451 (s.client c).replyNick [lit ":You have not registered"]] := by
  have hsaved : ∀ before name, s.bytesTo ((s.notRegistered c).modeSave before name) c =
      [numericBytes s.config 451 (s.client c).replyNick [lit ":You have not registered"]] := by
    intro before name
    rw [bytesTo_of_out (out_modeSave _ before name), bytesTo_notRegistered]
  obtain ⟨modes, hmodes⟩ : ∃ modes, modeWords params = some (target, modes) := by
    rw [modeWords, hwords]
    exact ⟨_, rfl⟩
  rw [commandModePolicy, modeStop, hmodes, Option.bind_some]
  dsimp only
  rw [if_pos hchannel]
  cases hfind : s.modeTarget target with
  | none =>
    cases modes with
    | none =>
      dsimp only
      rw [commandModeCore_unregistered h, hsaved]
      rfl
    | some modes =>
      dsimp only
      rw [commandModeCore_unregistered h, hsaved]
      rfl
  | some ch =>
    cases modes with
    | none =>
      dsimp only
      rw [h, Bool.not_false, if_pos rfl, bytesTo_notRegistered]
      rfl
    | some modes =>
      dsimp only
      rw [Option.bind_some, Option.bind_some, modeChannelPolicy, changeStop]
      cases mlockRefuses (s.channel ch) modes.1 with
      | some letter =>
        dsimp only
        rw [bytesTo_numeric]
        rfl
      | none =>
        dsimp only
        cases hreply : validateParams (s.channel ch) (signedLetters true modes.1) modes.2 with
        | some reply =>
          dsimp only
          rw [bytesTo_numeric]
          rcases validateParams_cases _ _ _ hreply with rfl | ⟨param, rfl⟩ <;> rfl
        | none =>
          dsimp only
          rw [commandModeCore_unregistered h, hsaved]
          rfl

/-- **A MODE on a channel before registration**: the stop, or 451. -/
theorem bytesTo_mode (h : (s.client c).registered = false) {params : Text}
    (hchannel : (messageTarget params).any startsChannel = true) :
    s.bytesTo (s.dispatchMode c (some params)) c =
      ((s.stops c (.mode params hchannel)).map (stopBytes s.config (s.client c) none)).getD
        (unregisteredBytes s.config (s.client c) (.mode params hchannel)) := by
  obtain ⟨⟨target, rest⟩, hwords⟩ : ∃ words, strtokSpace params = some words := by
    unfold messageTarget at hchannel
    cases hwords : strtokSpace params with
    | none => rw [hwords] at hchannel; cases hchannel
    | some words => exact ⟨words, rfl⟩
  have hstarts : startsChannel target = true := by
    rw [messageTarget, hwords] at hchannel
    exact hchannel
  have hpolicy := bytesTo_modePolicy h hwords hstarts
  rw [dispatchMode, stops, unregisteredBytes]
  split
  · rw [commandMode, Option.bind_some, hwords]
    dsimp only
    split
    · exact hpolicy
    -- the client's own nickname looks like a channel: a bare MODE is refused, another goes on
    cases hmodes : strtokSpace rest with
    | none =>
      have hnone : s.modeStop params = none := by
        rw [modeStop, modeWords, hwords]
        simp [hmodes]
      dsimp only
      rw [h, Bool.not_false, if_pos rfl, bytesTo_notRegistered, hnone]
      rfl
    | some modes => exact hpolicy
  · rw [bytesTo_send]
    rfl

/-! ## 3. Replies that differ -/

/-- The end of a reply, by which its kind is known. -/
def mark (text : Text) : Text := text.reverse.take 2

theorem mark_append (front : Text) {back : Text} (h : 2 ≤ back.length) :
    mark (front ++ back) = mark back := by
  unfold mark
  rw [List.reverse_append, List.take_append_of_le_length (by simpa using h)]

/-- A numeric with two parameters, cut before the first of them. -/
theorem mark_numericBytes (config : ServerConfig) (code : Nat) (nick : Text) (a : Field) {b : Field}
    (h : 2 ≤ b.text.length) : mark (numericBytes config code nick [a, b]) = mark b.text := by
  have hcut : ∀ front : Text, mark (front ++ (a.text ++ (' ' :: b.text))) = mark b.text := by
    intro front
    have heq : front ++ (a.text ++ (' ' :: b.text)) = (front ++ a.text ++ [' ']) ++ b.text := by
      simp only [List.append_assoc, List.cons_append, List.nil_append]
    rw [heq, mark_append _ h]
  rw [numericBytes_two, hcut]

/-- The end of each reply. -/
def stopMark : Stop → List Text
  | .banned _ => [[')', ')']]
  | .muted => [[')', 'M']]
  | .deaf _ => [['.', 's']]
  | .silent => []
  | .locked _ => [['v', 'r']]
  | .limit => [['s', 'r']]
  | .redirect _ => [['l', 'e']]

section

variable (config : ServerConfig) (cl : Client) (target : Option Text)

theorem mark_stopBytes (st : Stop) :
    (stopBytes config cl target st).map mark = stopMark st := by
  have ends : ∀ (code : Nat) (a b : Field) (text : Text), 2 ≤ b.text.length → mark b.text = text →
      [numericBytes config code cl.nick [a, b]].map mark = [text] := by
    intro code a b text hlen htext
    rw [List.map_cons, List.map_nil, mark_numericBytes _ _ _ _ hlen, htext]
  cases st with
  | banned | muted => exact ends _ _ _ _ (by decide) rfl
  | deaf identity =>
    refine congrArg (fun t => [t]) ?_
    rw [← List.append_assoc, mark_append _ (by decide)]
    rfl
  | silent => rfl
  | locked | limit | redirect => exact ends _ _ _ _ (by decide) rfl

/-- **Different stops are told differently.** -/
theorem stopBytes_injective :
    Function.Injective (stopBytes config cl target) := by
  intro st st' h
  have hmarks := congrArg (List.map mark) h
  rw [mark_stopBytes, mark_stopBytes] at hmarks
  -- the ends tell the kinds apart, what stands before them the members of a kind
  cases st <;> cases st' <;> simp [stopMark] at hmarks
  case banned.banned => exact congrArg Stop.banned (numericBytes_inj (List.cons.inj h).1)
  case muted.muted => rfl
  case deaf.deaf =>
    exact congrArg Stop.deaf (List.cons.inj (List.append_cancel_right (List.cons.inj h).1)).2
  case silent.silent => rfl
  case locked.locked =>
    exact congrArg Stop.locked (List.cons.inj (numericBytes_inj (List.cons.inj h).1)).1
  case limit.limit => rfl
  case redirect.redirect => exact congrArg Stop.redirect (numericBytes_inj (List.cons.inj h).1)

/-- No stop is told as 451. -/
theorem stopBytes_ne_notRegistered (nick : Text) (st : Stop) : stopBytes config cl target st ≠
      [numericBytes config 451 nick [lit ":You have not registered"]] := by
  intro h
  have hmarks := congrArg (List.map mark) h
  have hone : mark (numericBytes config 451 nick [lit ":You have not registered"]) = ['d', 'e'] := by
    have hwire : numericBytes config 451 nick [lit ":You have not registered"] =
        (':' :: config.serverName ++ [' ']) ++ ((threeDigits 451 ++ ' ' :: nick) ++
          (' ' :: (lit ":You have not registered").text ++ [])) := rfl
    rw [hwire, ← List.append_assoc, mark_append _ (by decide)]
    rfl
  rw [mark_stopBytes, List.map_cons, List.map_nil, hone] at hmarks
  cases st <;> simp [stopMark] at hmarks

end

/-! ## 4. Two states -/

/-- The target a stop may name as it was typed. -/
def talkTarget : TalkLine → Option Text
  | .privmsg params | .notice params => params.bind messageTarget
  | .mode _ _ => none

/-- **What a line before registration is answered**: the stop, or what every state answers. -/
theorem bytesTo_talk (services : MessageServices) (h : (s.client c).registered = false)
    (hfree : s.versionRestricted c = false) (line : TalkLine) :
    s.bytesTo (talk services s c line) c =
      ((s.stops c line).map (stopBytes s.config (s.client c) (talkTarget line))).getD
        (unregisteredBytes s.config (s.client c) line) := by
  cases line with
  | privmsg params => exact bytesTo_privmsg services h hfree params
  | notice params => exact bytesTo_notice h hfree params
  | mode params hchannel => exact bytesTo_mode h hchannel

/-- No stop of a line is told as what every state answers. -/
theorem stopBytes_ne_unregistered {line : TalkLine} {st : Stop} (h : s.stops c line = some st)
    (config : ServerConfig) (cl : Client) (hfits : ∀ params, modeWireFits cl params =
      modeWireFits (s.client c) params) :
    stopBytes config cl (talkTarget line) st ≠ unregisteredBytes config cl line := by
  cases line with
  | privmsg params => exact stopBytes_ne_notRegistered config cl _ _ st
  | notice params =>
    have hmuted : st = .muted := by
      obtain ⟨p, -, hstop⟩ := Option.bind_eq_some_iff.mp h
      split at hstop
      · cases hstop
      · unfold noticeStop at hstop
        split at hstop
        · exact (Option.some.inj hstop).symm
        · cases hstop
    subst hmuted
    exact List.cons_ne_nil _ _
  | mode params hchannel =>
    rw [stops] at h
    split at h
    · rename_i hwire
      rw [unregisteredBytes, hfits, if_pos hwire]
      exact stopBytes_ne_notRegistered config cl _ _ st
    · cases h

variable {s₁ s₂ : Server}

section

variable (h : SameSelf c s₁ s₂)
include h

theorem SameSelf.config : s₂.config = s₁.config := by
  rw [h.rest]

/-- What does not depend on the channels a client is in. -/
theorem SameSelf.field {α : Type} (f : Client → α)
    (hf : ∀ cl channels count, f (Client.inChannels cl channels count) = f cl) :
    f (s₂.client c) = f (s₁.client c) :=
  (congrArg f h.self).trans (hf _ _ _)

theorem SameSelf.modeWireFits (params : Option Text) :
    modeWireFits (s₂.client c) params = modeWireFits (s₁.client c) params := by
  have hnick : (s₂.client c).nick = (s₁.client c).nick := h.field Client.nick fun _ _ _ => rfl
  have huser : (s₂.client c).user = (s₁.client c).user := h.field Client.user fun _ _ _ => rfl
  have hhost : (s₂.client c).displayHost = (s₁.client c).displayHost :=
    h.field Client.displayHost fun _ _ _ => rfl
  cases params with
  | none => rfl
  | some params =>
    unfold Server.modeWireFits
    dsimp only
    rw [hnick, huser, hhost]

/-- Both states word a reply alike. -/
theorem SameSelf.words (target : Option Text) (line : TalkLine) :
    stopBytes s₂.config (s₂.client c) target = stopBytes s₁.config (s₁.client c) target ∧
      unregisteredBytes s₂.config (s₂.client c) line =
        unregisteredBytes s₁.config (s₁.client c) line := by
  have hnick : (s₂.client c).nick = (s₁.client c).nick := h.field Client.nick fun _ _ _ => rfl
  have hreply : (s₂.client c).replyNick = (s₁.client c).replyNick := by
    rw [Client.replyNick, hnick]
    rfl
  rw [h.config]
  constructor
  · funext st
    cases st <;> simp only [stopBytes, hnick]
  · cases line <;> simp only [unregisteredBytes, hreply, h.modeWireFits]

end

/-- **A connection that has not registered learns nothing exactly as far as its line is stopped
    alike** before the check of registration, whatever channels and other clients there are. -/
theorem unregistered_learns_iff (services : MessageServices) (s₁ s₂ : Server) (c : ClientRef)
    (line : TalkLine) (hsame : SameSelf c s₁ s₂) (hregistered : (s₁.client c).registered = false)
    (hfree : s₁.versionRestricted c = false) :
    s₁.bytesTo (talk services s₁ c line) c = s₂.bytesTo (talk services s₂ c line) c ↔
      s₁.stops c line = s₂.stops c line := by
  have hregistered₂ : (s₂.client c).registered = false :=
    (hsame.field Client.registered fun _ _ _ => rfl).trans hregistered
  have hfree₂ : s₂.versionRestricted c = false := by
    have hrequested : (s₂.client c).versionRequested = (s₁.client c).versionRequested :=
      hsame.field Client.versionRequested fun _ _ _ => rfl
    have hreceived : (s₂.client c).versionReceived = (s₁.client c).versionReceived :=
      hsame.field Client.versionReceived fun _ _ _ => rfl
    rw [versionRestricted, hsame.config, hrequested, hreceived]
    exact hfree
  obtain ⟨hstop, hnone⟩ := hsame.words (talkTarget line) line
  rw [bytesTo_talk services hregistered hfree, bytesTo_talk services hregistered₂ hfree₂, hstop, hnone]
  have hne₁ := fun st (h : s₁.stops c line = some st) =>
    stopBytes_ne_unregistered h s₁.config (s₁.client c) fun _ => rfl
  have hne₂ := fun st (h : s₂.stops c line = some st) =>
    stopBytes_ne_unregistered h s₁.config (s₁.client c) fun params => (hsame.modeWireFits params).symm
  have hinj := stopBytes_injective s₁.config (s₁.client c) (talkTarget line)
  generalize s₁.stops c line = o₁ at hne₁ ⊢
  generalize s₂.stops c line = o₂ at hne₂ ⊢
  refine ⟨fun h => ?_, fun h => by rw [h]⟩
  cases o₁ with
  | none =>
    cases o₂ with
    | none => rfl
    | some st => exact absurd h.symm (hne₂ st rfl)
  | some st =>
    cases o₂ with
    | none => exact absurd h (hne₁ st rfl)
    | some st' => rw [hinj h]

/-- Connection 0 has a nickname and is not registered yet. -/
def newcomer : Server :=
  let s := Server.initial {} {} {}
  { s with
    clients := [0]
    clientsByNick := s.clientsByNick.set "eve".toList 0
    client := fun _ => { nick := "eve".toList, user := "e".toList, displayHost := "h".toList } }

/-- The same connection, where a deaf user is connected and a locked channel bans everybody. -/
def newcomerAmong : Server :=
  { newcomer with
    clients := [0, 1]
    clientsByNick := newcomer.clientsByNick.set "dave".toList 1
    client := fun r =>
      if r = 1 then { nick := "dave".toList, user := "d".toList, displayHost := "host".toList
                      registered := true, modes := {.privateDeaf} }
      else newcomer.client r
    channelsByName := newcomer.channelsByName.set "#Ops".toList 0
    channel := fun _ =>
      { name := "#Ops".toList, banList := [{ mask := "*!*@*".toList }] } }

theorem sameSelf_newcomer : SameSelf 0 newcomer newcomerAmong where
  rest := rfl
  self := rfl

/-- **The policies tell on users and channels**: a PRIVMSG shows who is behind a nickname, or that a
    channel is there and how its name is written; a MODE shows that a channel is there. -/
theorem newcomer_learns :
    SameSelf 0 newcomer newcomerAmong ∧
    (∀ line ∈ [TalkLine.privmsg (some "dave :hi".toList), .privmsg (some "#ops :hi".toList),
        .mode "#ops +L #OPS".toList rfl],
      newcomer.bytesTo (talk {} newcomer 0 line) 0 ≠
        newcomerAmong.bytesTo (talk {} newcomerAmong 0 line) 0) ∧
    newcomerAmong.bytesTo (talk {} newcomerAmong 0 (.privmsg (some "dave :hi".toList))) 0 =
      [":dave!d@host NOTICE eve :I cannot send or receive private messages.".toList] :=
  ⟨sameSelf_newcomer, by decide +kernel, by decide +kernel⟩

theorem unregistered_learns_iff_newcomer :
    newcomer.bytesTo (talk {} newcomer 0 (.notice (some "dave :hi".toList))) 0 =
      newcomerAmong.bytesTo (talk {} newcomerAmong 0 (.notice (some "dave :hi".toList))) 0 :=
  (unregistered_learns_iff {} newcomer newcomerAmong 0 (.notice (some "dave :hi".toList))
    sameSelf_newcomer rfl rfl).mpr (by decide +kernel)

end Server

end ScratchIrcd
