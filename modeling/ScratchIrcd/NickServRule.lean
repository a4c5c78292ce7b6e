/-
  File:      ScratchIrcd/NickServRule.lean
  Subject:   The commands of NickServ and of its administrators are chains of acts.
-/
import ScratchIrcd.ChanServRule

namespace ScratchIrcd

open CText Relation

namespace Server

section

variable (s : Server) (c : ClientRef)

/-! ## 1. IDENTIFY, LOGOUT and REGISTER -/

theorem chain_admitTick : ServiceChain s s.admitTick :=
  .single (.aside s.whowas s.freeHook (s.admitPos + 1))

/-- Nothing but the database changes. -/
theorem recordIdentify_eq (account : Text) : ∃ d, s.recordIdentify account = { s with storage := d } := by
  unfold recordIdentify
  split <;> exact ⟨_, rfl⟩

theorem chain_nickservIdentify (account password : Text) :
    ServiceChain s (s.nickservIdentify c account password).2 := by
  have hacc := chain_enabledAccount s account
  unfold nickservIdentify
  dsimp only
  split
  · exact .refl s
  split
  · exact .refl s
  generalize s.enabledAccount account = found at hacc
  obtain ⟨_ | a, s₁⟩ := found
  · exact hacc
  · have htick := hacc.trans (chain_admitTick s₁)
    dsimp only
    split
    · exact htick
    split
    · exact htick
    · obtain ⟨d, heq⟩ := s₁.admitTick.recordIdentify_eq a.name
      rw [heq]
      exact (htick.trans (.stored _ d)).tail (.identify c a)

theorem chain_identifyRequest (words : Text × Text) (refuse : String) :
    ServiceChain s (s.identifyRequest c words refuse) := by
  have hident := chain_nickservIdentify s c words.1 words.2
  unfold identifyRequest
  generalize s.nickservIdentify c words.1 words.2 = res at hident
  obtain ⟨_ | _, s₁⟩ := res
  · exact hident.nsNotice c _
  · dsimp only
    refine ServiceChain.nsNotice ?_ c _
    split
    · exact hident.trans (chain_accountChanged s₁ c)
    · exact hident

theorem chain_commandIdentify (params : Option Text) : ServiceChain s (s.commandIdentify c params) := by
  unfold commandIdentify
  split
  · exact .say (.refl s) _
  split
  · exact .numeric (.refl s) c _ _
  · exact chain_identifyRequest s c _ _

theorem chain_logoutAlias (params : Option Text) : ServiceChain s (s.logoutAlias c params) := by
  unfold logoutAlias
  split
  · exact .nsNotice (.refl s) c _
  split
  · exact .nsNotice (.refl s) c _
  · exact ServiceChain.nsNotice (chain_endSession s c) c _

theorem chain_registerAccount (password : Text) : ServiceChain s (s.registerAccount c password) := by
  unfold registerAccount
  split
  · exact .nsNotice (.refl s) c _
  · dsimp only
    split
    · exact .nsNotice (.stored s _) c _
    · exact ServiceChain.nsNotice ((ServiceChain.stored s _).tail (.identify c _)) c _

theorem chain_nickservRegister (password : Text) : ServiceChain s (s.nickservRegister c password) := by
  have said := (ServiceChain.refl s).nsNotice c
  unfold nickservRegister
  dsimp only
  split
  · exact said _
  split
  · exact said _
  split
  · exact said _
  split
  · exact .numeric (.refl s) c _ _
  split
  · exact .nsNotice (.stored s _) c _
  split
  · exact .nsNotice (.stored s _) c _
  · exact .nsNotice (.stored s _) c _
  · rename_i d _
    have htick := (ServiceChain.stored s d).trans (chain_admitTick _)
    split
    · exact htick.nsNotice c _
    · exact htick.trans (chain_registerAccount _ c password)

/-! ## 2. RECOVER -/

/-- The nickname of a recovered session is a valid one. -/
theorem validNickname_guest (target : ClientRef) : validNickname (s.guestNick target) = true := by
  have hdigits : ∀ x ∈ decimal (s.client target).id, validNickChar x = true := by
    intro x hx
    have hdigit := Nat.isDigit_of_mem_toDigits (by decide) (by decide) hx
    rw [Char.isDigit, Bool.and_eq_true] at hdigit
    simp only [validNickChar, Bool.or_eq_true, Bool.and_eq_true, decide_eq_true_eq]
    exact .inl (.inl (.inr ⟨of_decide_eq_true hdigit.1, of_decide_eq_true hdigit.2⟩))
  have hguest : s.guestNick target =
      'G' :: 'u' :: 'e' :: 's' :: 't' :: (decimal (s.client target).id).take 10 := rfl
  rw [hguest, validNickname]
  simp only [List.isEmpty_cons, Bool.not_false, Bool.true_and, List.length_cons, List.take_succ_cons,
    List.take_zero, List.tail_cons, Bool.and_eq_true, decide_eq_true_eq, List.all_cons, List.all_nil,
    List.all_eq_true]
  refine ⟨⟨?_, by decide, trivial⟩, by decide, by decide, by decide, by decide, fun x hx => ?_⟩
  · have := List.length_take_le 10 (decimal (s.client target).id)
    unfold ircNickMax
    omega
  · exact hdigits x (List.mem_of_mem_take hx)

variable {s} {target : ClientRef} {nick : Text}

theorem chain_recoverRename (hfind : s.findNick nick = some target) :
    ServiceChain s (s.recoverRename target).2 := by
  unfold recoverRename
  dsimp only
  split
  · exact .refl s
  · rename_i hfree
    have hrename : ServiceChain s (s.rename target (s.guestNick target)) :=
      .single (.rename hfind (s.validNickname_guest target) (by simpa using hfree))
    exact (hrename.trans (ServiceChain.foldl (fun s₁ ch => (ServiceChain.refl s₁).say _) _ _)).say _

theorem chain_recoverTarget (hfind : s.findNick nick = some target) (kill ghost : Bool) :
    ServiceChain s (s.recoverTarget c target kill ghost) := by
  unfold recoverTarget
  split
  · exact ServiceChain.nsNotice (.single (.disconnect hfind _)) c _
  · have hrename := chain_recoverRename hfind
    generalize s.recoverRename target = res at hrename
    obtain ⟨_ | _, s₁⟩ := res
    · exact hrename.nsNotice c _
    · exact hrename.nsNotice c _

variable (s)

theorem chain_recoverAuthorized (nick : Text) : ServiceChain s (s.recoverAuthorized c nick).2 := by
  unfold recoverAuthorized
  dsimp only
  split
  · exact .refl s
  · exact chain_enabledAccount s nick

theorem chain_nickservRecover (params : Text) (ghost : Bool) :
    ServiceChain s (s.nickservRecover c params ghost) := by
  unfold nickservRecover
  dsimp only
  split
  · exact .nsNotice (.refl s) c _
  split
  · exact .nsNotice (.refl s) c _
  · rename_i nick rest _ _
    have hauth := chain_recoverAuthorized s c nick
    generalize s.recoverAuthorized c nick = res at hauth
    obtain ⟨_ | _, s₁⟩ := res
    · exact hauth.nsNotice c _
    · dsimp only at hauth ⊢
      split
      · exact hauth.nsNotice c _
      split
      · exact hauth.nsNotice c _
      · rename_i hfind _
        exact hauth.trans (chain_recoverTarget c hfind _ ghost)

theorem chain_recoverPresenceAfter (target : ClientRef) (old : Text) :
    ServiceChain s (s.recoverPresenceAfter target old) := by
  have record : ∀ s : Server, ServiceChain s (s.whowasRecord target old) := by
    intro s
    unfold whowasRecord
    dsimp only
    split
    · exact .refl s
    · exact .single (.aside _ s.freeHook s.admitPos)
  have offline : ∀ s : Server, ServiceChain s (s.watchOffline target old) := by
    intro s
    unfold watchOffline
    split
    · exact .refl s
    · exact .say (.refl s) _
  have online : ∀ s : Server, ServiceChain s (s.watchOnline target) := by
    intro s
    unfold watchOnline
    dsimp only
    split
    · exact .refl s
    · exact ServiceChain.say (.single (.aside s.whowas .presence s.admitPos)) _
  unfold recoverPresenceAfter
  split
  · exact .refl s
  · exact ((record s).trans (offline _)).trans (online _)

theorem chain_recoverDone (target : Option (ClientRef × Text)) : ServiceChain s (s.recoverDone target) := by
  unfold recoverDone
  split
  · exact .refl s
  · exact chain_recoverPresenceAfter s _ _

/-! ## 3. The NICKSERV command -/

theorem chain_nickservSetPassword (password : Text) :
    ServiceChain s (s.nickservSetPassword c password) := by
  have htick := chain_admitTick s
  unfold nickservSetPassword
  dsimp only
  split
  · exact .nsNotice (.refl s) c _
  split
  · exact .nsNotice (.refl s) c _
  split
  · exact htick.nsNotice c _
  split
  · exact htick.nsNotice c _
  split
  · exact (htick.trans (.stored _ _)).nsNotice c _
  split
  · exact (htick.trans (.stored _ _)).nsNotice c _
  · exact (htick.trans (.stored _ _)).nsNotice c _

theorem chain_nickservSetEmail (address : Text) : ServiceChain s (s.nickservSetEmail c address) := by
  unfold nickservSetEmail
  split
  · exact .nsNotice (.refl s) c _
  split
  · exact .nsNotice (.refl s) c _
  · exact .nsNotice (.refl s) c _

theorem chain_nickservSet (params : Text) : ServiceChain s (s.nickservSet c params) := by
  unfold nickservSet
  dsimp only
  split
  · exact .nsNotice (.refl s) c _
  split
  · exact chain_nickservSetPassword s c _
  split
  · exact chain_nickservSetEmail s c _
  · exact .nsNotice (.refl s) c _

theorem chain_nickservVerify (token : Text) : ServiceChain s (s.nickservVerify c token) := by
  unfold nickservVerify
  split
  · exact .nsNotice (.refl s) c _
  split
  · exact .nsNotice (.refl s) c _
  split
  · exact .nsNotice (.stored s _) c _
  · exact .nsNotice (.stored s _) c _

theorem chain_nickservReset (params : Text) : ServiceChain s (s.nickservReset c params) := by
  have htick := chain_admitTick s
  unfold nickservReset
  split
  · exact .nsNotice (.refl s) c _
  split
  · exact .nsNotice (.refl s) c _
  split
  · exact .nsNotice (.refl s) c _
  split
  · exact htick.nsNotice c _
  dsimp only
  split
  · exact htick.nsNotice c _
  split
  · exact (htick.trans (.stored _ _)).nsNotice c _
  · exact (htick.trans (.stored _ _)).nsNotice c _

theorem chain_nickservHandleMessage (command rest : Text) :
    ServiceChain s (s.nickservHandleMessage c command rest) := by
  unfold nickservHandleMessage
  split
  · exact chain_nickservRegister s c rest
  split
  · exact chain_nickservRecover s c rest false
  split
  · exact chain_nickservRecover s c rest true
  split
  · exact chain_nickservReset s c rest
  split
  · exact chain_nickservVerify s c rest
  split
  · exact chain_nickservSet s c rest
  split
  · exact .nsNotice (.refl s) c _
  · exact .nsNotice (.refl s) c _

theorem chain_registrationDone (registering : Bool) :
    ServiceChain s (s.registrationDone c registering) := by
  have hchanged := chain_accountChanged s c
  unfold registrationDone
  dsimp only
  split
  · exact hchanged
  · refine ServiceChain.snotice (hchanged.trans ?_) _ _
    split
    · exact .refl _
    · exact chain_admitTick _

theorem chain_nickservServe (command rest : Text) :
    ServiceChain s (s.nickservServe c command rest) := by
  have hafter := (chain_nickservHandleMessage s c command rest).trans (chain_recoverDone _
    ((s.recoverTargetBefore command rest).map fun r => (r, (s.client r).nick)))
  unfold nickservServe
  dsimp only
  split
  · exact hafter.trans (chain_registrationDone _ c _)
  split
  · exact hafter.trans (chain_accountChanged _ c)
  · exact hafter

theorem chain_nickservMessage (text : Text) : ServiceChain s (s.nickservMessage c text) := by
  have htick := chain_admitTick s
  unfold nickservMessage
  split
  · exact .refl s
  dsimp only
  split
  · unfold identifyAlias
    split
    · exact .refl s
    · exact chain_identifyRequest s c _ _
  split
  · exact chain_logoutAlias s c _
  split
  · split
    · exact htick.nsNotice c _
    · exact htick.trans (chain_nickservServe _ c _ _)
  · exact chain_nickservServe s c _ _

theorem chain_commandNickserv (params : Option Text) : ServiceChain s (s.commandNickserv c params) := by
  unfold commandNickserv
  split
  · exact .say (.refl s) _
  split
  · exact .numeric (.refl s) c _ _
  · exact chain_nickservMessage s c _

/-! ## 4. Accounts in the hands of administrators -/

theorem chain_clearLiveAccount (account : Text) : ServiceChain s (s.clearLiveAccount account) := by
  unfold clearLiveAccount
  split
  · exact .refl s
  · refine ServiceChain.foldl (fun s₁ c => ?_) _ s
    dsimp only
    split
    · exact chain_endSession s₁ c
    · exact .refl s₁

theorem accountEnabled_eq (account : Text) :
    ∃ d, s.storage.OnlyRead d ∧ (s.accountEnabled account).2 = { s with storage := d } := by
  unfold accountEnabled
  split
  · exact ⟨s.storage, .refl _, rfl⟩
  · exact s.enabledAccount_eq account

theorem chain_succeed (account : Text) (item : Text × Text) : ServiceChain s (succeed account s item) := by
  obtain ⟨name, successor⟩ := item
  have hacc : ServiceChain s (s.accountEnabled successor).2 := by
    obtain ⟨d, -, heq⟩ := accountEnabled_eq s successor
    rw [heq]
    exact .stored s d
  unfold succeed
  dsimp only
  generalize s.accountEnabled successor = found at hacc
  obtain ⟨enabled, s₁⟩ := found
  have hstored (d : Storage) : ServiceChain s { s₁ with storage := d } := hacc.trans (.stored s₁ d)
  have noted (d : Storage) (text : Text) : ServiceChain s
      ((({ s₁ with storage := d } : Server).snotice {Snotice.services} text).refreshRegistration name) :=
    ((hstored d).snotice _ text).trans (chain_refreshRegistration _ name)
  dsimp only
  split
  · split
    · exact hstored _
    split
    · exact hstored _
    · exact noted _ _
  split
  · exact hstored _
  · exact noted _ _

theorem chain_founderRemoved (account : Text) : ServiceChain s (s.founderRemoved account) := by
  unfold founderRemoved
  split
  · exact .refl s
  split
  · exact .stored s _
  · rename_i d _
    have hread : ServiceChain s (({ s with storage := d } : Server).foundedChannels account).2 :=
      .stored s d.tick
    generalize ({ s with storage := d } : Server).foundedChannels account = found at hread
    obtain ⟨_ | items, s₁⟩ := found
    · exact hread
    · exact hread.trans (ServiceChain.foldl (fun s₁ item => chain_succeed s₁ account item) items s₁)

theorem chain_removeReferences (account : Text) : ServiceChain s (s.removeReferences account) := by
  unfold removeReferences
  split
  · exact .refl s
  split
  · exact .stored s _
  · rename_i d _
    have hread : ServiceChain s (({ s with storage := d } : Server).referencedChannels account).2 :=
      .stored s d.tick
    generalize ({ s with storage := d } : Server).referencedChannels account = found at hread
    obtain ⟨_ | names, s₁⟩ := found
    · exact hread
    · dsimp only at hread ⊢
      split
      · exact hread.trans (.stored s₁ _)
      · exact (hread.trans (.stored s₁ _)).trans
          (ServiceChain.foldl (fun s name => chain_refreshRegistration s name) names _)

theorem chain_nssetDone (name field value : Text) (known : Option (Text × Bool)) :
    ServiceChain s (s.nssetDone c name field value known) := by
  unfold nssetDone
  dsimp only
  refine ServiceChain.snotice ?_ _ _
  split
  · exact (chain_clearLiveAccount s _).trans (chain_founderRemoved _ _)
  · exact .refl s

theorem chain_commandNsset (params : Option Text) : ServiceChain s (s.commandNsset c params) := by
  refine chain_withNetadmin ?_
  split
  · exact .numeric (.refl s) c _ _
  split
  · exact .numeric (.refl s) c _ _
  split
  · exact .numeric (.refl s) c _ _
  split
  · exact .adminNotice (.stored s _) c _
  split
  · exact .adminNotice (.stored s _) c _
  · exact ((ServiceChain.stored s _).adminNotice c _).trans (chain_nssetDone ..)

theorem chain_commandNsdrop (params : Option Text) : ServiceChain s (s.commandNsdrop c params) := by
  refine chain_withNetadmin ?_
  split
  · exact .numeric (.refl s) c _ _
  split
  · exact .adminNotice (.stored s _) c _
  · rename_i a d _
    have hchain := ((ServiceChain.stored s d).trans (chain_clearLiveAccount _ a.name)).trans
      (chain_founderRemoved _ a.name)
    exact ((hchain.trans (chain_removeReferences _ a.name)).adminNotice c _).snotice _ _

end

end Server

end ScratchIrcd
