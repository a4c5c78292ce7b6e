/-
  File:      ScratchIrcd/ChanServRule.lean
  Subject:   The commands of ChanServ and of its administrators are chains of acts.
-/
import ScratchIrcd.ServiceAct

namespace ScratchIrcd

open CText Relation

namespace Server

variable {s : Server}

/-! ## 1. CHANSERV -/

theorem chain_broadcastServiceModeChange (s : Server) (ch : ChannelRef) (before after : ChannelModeSet) :
    ServiceChain s (s.broadcastServiceModeChange ch before after) := by
  unfold broadcastServiceModeChange
  dsimp only
  split
  · exact .refl s
  · exact .say (.refl s) _

/-- Store, change the live channel, confirm. -/
theorem chain_setStored (s : Server) (c : ClientRef) (name : Text) (stored : Bool × Storage)
    {live : Server → ChannelRef → Server} (hlive : ∀ s ch, ServiceChain s (live s ch))
    (confirm refuse : String) : ServiceChain s (s.setStored c name stored live confirm refuse) := by
  obtain ⟨ok, d⟩ := stored
  have hstored := ServiceChain.stored s d
  cases ok with
  | false => exact hstored.csNotice c _
  | true =>
    refine ServiceChain.csNotice ?_ c _
    split
    · exact hstored
    · exact hstored.trans (hlive _ _)

section

variable (s : Server) (c : ClientRef)

theorem chain_setMlock (name value : Text) : ServiceChain s (s.setMlock c name value) := by
  unfold setMlock
  dsimp only
  split
  · exact .csNotice (.refl s) c _
  · rename_i lock _
    refine chain_setStored s c name _ (fun s ch => ?_) _ _
    exact ServiceChain.trans (.single (.setting (.mlock lock) ch)) (chain_broadcastServiceModeChange _ ch _ _)

theorem chain_setTopiclock (name : Text) (r : ChanServChannel) (value : Text) :
    ServiceChain s (s.setTopiclock c name r value) := by
  unfold setTopiclock
  split
  · exact .csNotice (.refl s) c _
  · refine chain_setStored s c name _ (fun s ch => ?_) _ _
    exact ServiceChain.trans (.single (.setting (.topiclock _) ch))
      (chain_broadcastServiceModeChange _ ch _ _)

theorem chain_setSecureOps (name value : Text) : ServiceChain s (s.setSecureOps c name value) := by
  unfold setSecureOps
  split
  · exact .csNotice (.refl s) c _
  · rename_i on _
    refine chain_setStored s c name _ (fun s ch => ?_) _ _
    exact ServiceChain.trans (.single (.setting (.secureOps on) ch)) (chain_syncChannel _ ch)

theorem chain_storeSuccessor (name successor : Text) : ServiceChain s (s.storeSuccessor c name successor) :=
  chain_setStored s c name _ (fun _ ch => .single (.setting (.successor successor) ch)) _ _

theorem chain_setSuccessor (name : Text) (r : ChanServChannel) (value : Text) :
    ServiceChain s (s.setSuccessor c name r value) := by
  have hacc := chain_enabledAccount s value
  unfold setSuccessor
  dsimp only
  split
  · exact chain_storeSuccessor s c name []
  · generalize s.enabledAccount value = found at hacc
    obtain ⟨_ | a, s₁⟩ := found
    · exact hacc.csNotice c _
    · dsimp only
      split
      · exact hacc.csNotice c _
      · exact hacc.trans (chain_storeSuccessor s₁ c name value)

theorem chain_setGreeting (name value : Text) : ServiceChain s (s.setGreeting c name value) := by
  unfold setGreeting
  dsimp only
  generalize (if isWord (dropColon value) "NONE" = true then [] else dropColon value) = text
  split
  · exact .csNotice (.refl s) c _
  · exact chain_setStored s c name _ (fun _ ch => .single (.setting (.greeting text) ch)) _ _

theorem chain_setTopic (name value : Text) : ServiceChain s (s.setTopic c name value) := by
  unfold setTopic
  dsimp only
  split
  · exact .csNotice (.refl s) c _
  · refine chain_setStored s c name _ (fun s ch => ?_) _ _
    exact ServiceChain.say (.single (.setting (.topic (dropColon value) (s.topicSetter c) s.now) ch)) _

theorem chain_setField (name : Text) (r : ChanServChannel) (field value : Text) :
    ServiceChain s (s.setField c name r field value) := by
  unfold setField
  split
  · exact chain_setMlock s c name value
  split
  · exact chain_setTopiclock s c name r value
  split
  · exact chain_setSecureOps s c name value
  split
  · exact chain_setSuccessor s c name r value
  split
  · exact chain_setGreeting s c name value
  split
  · exact chain_setTopic s c name value
  · exact .csNotice (.refl s) c _

theorem chain_chanservSet (params : Option Text) : ServiceChain s (s.chanservSet c params) := by
  unfold chanservSet
  generalize (params.bind strtokSpace).getD ([], []) = words
  obtain ⟨name, rest⟩ := words
  dsimp only
  have hload := chain_loadFounderChannel s c name
  generalize s.loadFounderChannel c name = loaded at hload
  obtain ⟨_ | r, s₁⟩ := loaded
  · exact hload
  · dsimp only
    split
    · exact hload.csNotice c _
    · exact hload.trans (chain_setField s₁ c name r _ _)

theorem chain_accessList (name : Text) : ServiceChain s (s.accessList c name) := by
  have hread := ServiceChain.stored s s.storage.tick
  unfold accessList
  dsimp only
  split
  · exact hread.trans (ServiceChain.foldl (fun s t => (ServiceChain.refl s).csNotice c t) _ _)
  · exact hread.csNotice c _

theorem chain_syncAccount (ch : ChannelRef) (account : Text) : ServiceChain s (s.syncAccount ch account) := by
  refine ServiceChain.foldl (fun s₁ c => ?_) _ s
  dsimp only
  split
  · exact .single (.sync ch c)
  · exact .refl s₁

/-- The access list is written, and the account's sessions are brought in step. -/
theorem chain_accessStored (d : Storage) (name account text : Text) :
    ServiceChain s ((match ({ s with storage := d } : Server).findChannel name with
      | none => { s with storage := d }
      | some ch => ({ s with storage := d } : Server).syncAccount ch account).csNotice c text) := by
  refine ServiceChain.csNotice ?_ c text
  split
  · exact .stored s d
  · exact (ServiceChain.stored s d).trans (chain_syncAccount _ _ account)

theorem chain_accessDel (name account : Text) : ServiceChain s (s.accessDel c name account) := by
  unfold accessDel
  split
  · exact .csNotice (.stored s _) c _
  · exact chain_accessStored s c _ name account _

theorem chain_accessAdd (name account : Text) (level : AccessLevel) :
    ServiceChain s (s.accessAdd c name account level) := by
  have hacc := chain_enabledAccount s account
  unfold accessAdd
  generalize s.enabledAccount account = found at hacc
  obtain ⟨_ | a, s₁⟩ := found
  · exact hacc.csNotice c _
  · dsimp only at hacc ⊢
    split
    · exact (hacc.trans (.stored s₁ _)).csNotice c _
    · exact hacc.trans (chain_accessStored s₁ c _ name a.name _)

theorem chain_chanservAccess (params : Option Text) : ServiceChain s (s.chanservAccess c params) := by
  unfold chanservAccess
  generalize (params.bind strtokSpace).getD ([], []) = words
  obtain ⟨name, rest⟩ := words
  dsimp only
  have hload := chain_loadFounderChannel s c name
  generalize s.loadFounderChannel c name = loaded at hload
  obtain ⟨_ | r, s₁⟩ := loaded
  · exact hload
  · dsimp only at hload ⊢
    split
    · exact hload.csNotice c _
    split
    · exact hload.trans (chain_accessList s₁ c name)
    split
    · exact hload.csNotice c _
    split
    · exact hload.csNotice c _
    split
    · exact hload.trans (chain_accessDel s₁ c name _)
    split
    · split
      · exact hload.trans (chain_accessAdd s₁ c name _ _)
      · exact hload.csNotice c _
    · exact hload.csNotice c _

theorem chain_registerChannel (ch : ChannelRef) (description : Text) :
    ServiceChain s (s.registerChannel c ch description) := by
  unfold registerChannel
  dsimp only
  split
  · exact .csNotice (.stored s _) c _
  · split
    · exact .csNotice (.stored s _) c _
    · rename_i d _
      have hregister := (ServiceChain.stored s d).tail (.register c ch (s.client c).accountName)
      exact ServiceChain.csNotice (hregister.tail (.statements _)) c _

theorem chain_chanservRegister (params : Option Text) : ServiceChain s (s.chanservRegister c params) := by
  have said := (ServiceChain.refl s).csNotice c
  unfold chanservRegister
  split
  · exact said _
  split
  · exact said _
  dsimp only
  split
  · exact said _
  split
  · exact said _
  split
  · exact said _
  split
  · exact said _
  split
  · exact said _
  · exact chain_registerChannel s c _ _

theorem chain_chanservInfo (params : Option Text) : ServiceChain s (s.chanservInfo c params) := by
  unfold chanservInfo
  split
  · exact .csNotice (.refl s) c _
  split
  · exact .csNotice (.refl s) c _
  split
  · exact .csNotice (.stored s _) c _
  split
  · exact .csNotice (.stored s _) c _
  · exact .csNotice (.stored s _) c _

theorem chain_setLogging (name : Text) (value : Option Text) :
    ServiceChain s (s.setLogging c name value) := by
  have hread : ServiceChain s (s.loggingRegistered name).2 := .stored s _
  have hset (on : Bool) (s : Server) : ServiceChain s (s.loggingSet name on).2 := by
    unfold loggingSet
    split
    · exact .stored s _
    · exact .stored s _
  unfold setLogging
  split
  · exact .csNotice (.refl s) c _
  split
  · exact .csNotice (.refl s) c _
  · rename_i on _ _
    generalize s.loggingRegistered name = found at hread
    obtain ⟨_ | _, s₁⟩ := found
    · exact hread.csNotice c _
    · have hdone := hread.trans (hset on s₁)
      dsimp only
      generalize s₁.loggingSet name on = res at hdone
      obtain ⟨_ | _, s₂⟩ := res
      · exact hdone.csNotice c _
      · exact hdone.csNotice c _

/-! ## 2. Registrations in the hands of administrators -/

theorem chain_enableRow (name : Text) : ServiceChain s (s.enableRow name).2.2 := by
  unfold enableRow
  split
  · split
    · exact .stored s _
    split
    · split
      · exact .stored s _
      · exact .stored s _
    · exact .stored s _
  · exact .stored s _

theorem chain_moveRow (name value : Text) : ServiceChain s (s.moveRow name value).2 := by
  have hacc := chain_enabledAccount s value
  unfold moveRow
  generalize s.enabledAccount value = found at hacc
  obtain ⟨_ | a, s₁⟩ := found
  · exact hacc
  · have hstored (d : Storage) : ServiceChain s { s₁ with storage := d } := hacc.trans (.stored s₁ d)
    dsimp only
    split
    · split
      · exact hstored _
      split
      · exact hstored _
      · exact hstored _
    · exact hstored _

theorem chain_cssetField (name field value : Text) :
    ServiceChain s (s.cssetField name field value).2.2 := by
  unfold cssetField
  split
  · dsimp only
    split
    · exact .refl s
    · exact .stored s _
  split
  · split
    · exact .stored s _
    split
    · exact chain_enableRow s name
    · exact .refl s
  split
  · exact chain_moveRow s name value
  · exact .refl s

end

theorem chain_withNetadmin {body : Server} {c : ClientRef} (h : ServiceChain s body) :
    ServiceChain s (s.withNetadmin c body) := by
  unfold withNetadmin
  split
  · exact .say (.refl s) _
  split
  · exact .say (.refl s) _
  · exact h

/-- The live channel is read again, or the caller is told why not. -/
theorem chain_adminStored (s : Server) (c : ClientRef) (name : Text) (ok : Bool) (notice : Text)
    (confirm refuse : String) : ServiceChain s (s.adminStored c name ok notice confirm refuse) := by
  unfold adminStored
  split
  · exact ((chain_refreshRegistration s name).snotice _ _).adminNotice c _
  · exact .adminNotice (.refl s) c _

section

variable (s : Server) (c : ClientRef)

theorem chain_commandCsset (params : Option Text) : ServiceChain s (s.commandCsset c params) := by
  refine chain_withNetadmin ?_
  split
  · exact .numeric (.refl s) c _ _
  split
  · exact .numeric (.refl s) c _ _
  split
  · exact .numeric (.refl s) c _ _
  split
  · exact .adminNotice (.stored s _) c _
  · exact ((ServiceChain.stored s _).trans (chain_cssetField _ _ _ _)).trans (chain_adminStored ..)

theorem chain_commandCsdrop (params : Option Text) : ServiceChain s (s.commandCsdrop c params) := by
  refine chain_withNetadmin ?_
  split
  · exact .numeric (.refl s) c _ _
  split
  · exact .adminNotice (.stored s _) c _
  · exact (ServiceChain.stored s _).trans (chain_adminStored ..)

/-! ## 3. The CHANSERV command -/

/-- All of `chanserv_handle_message` but DROP, which CHANSERV never hands on. -/
theorem chain_chanservHandleMessage (text : Text)
    (hdrop : ∀ command rest, strtokSpace text = some (command, rest) → isWord command "DROP" = false) :
    ServiceChain s (s.chanservHandleMessage c text) := by
  unfold chanservHandleMessage
  split
  · exact .refl s
  · rename_i command rest htok
    dsimp only
    split
    · exact chain_chanservRegister s c _
    split
    · exact chain_chanservInfo s c _
    split
    · rename_i hword
      rw [hdrop command rest htok] at hword
      cases hword
    split
    · exact chain_chanservAccess s c _
    split
    · exact chain_chanservSet s c _
    split
    · exact .csNotice (.refl s) c _
    · exact .csNotice (.refl s) c _

theorem chain_chanservRequest (isDrop : Bool) (params : Text)
    (hdrop : isDrop = (strtokSpace params).any fun w => isWord w.1 "DROP") :
    ServiceChain s (s.chanservRequest c isDrop params) := by
  unfold chanservRequest
  split
  · exact chain_commandCsdrop s c _
  · rename_i hfalse
    split
    · exact chain_setLogging s c _ _
    · refine chain_chanservHandleMessage s c params fun command rest htok => ?_
      rw [htok] at hdrop
      simp only [Option.any_some] at hdrop
      rw [← hdrop]
      simpa using hfalse

theorem chain_registrationExists (name : Text) : ServiceChain s (s.registrationExists name).2 := by
  unfold registrationExists
  split
  · exact .stored s _
  · exact .stored s _

theorem chain_registrationNotice (isRegister existed : Bool) (name : Text) :
    ServiceChain s (s.registrationNotice c isRegister existed name) := by
  have hexists := chain_registrationExists s name
  unfold registrationNotice
  generalize s.registrationExists name = found at hexists
  obtain ⟨exist, s₁⟩ := found
  dsimp only at hexists ⊢
  split
  · refine ServiceChain.snotice (hexists.trans ?_) _ _
    unfold broadcastRegistered
    split
    · exact .refl s₁
    split
    · exact (ServiceChain.refl s₁).say _
    · exact .refl s₁
  split
  · exact hexists.snotice _ _
  · exact hexists

/-- **CHANSERV is a chain of acts.** -/
theorem chain_commandChanserv (params : Option Text) : ServiceChain s (s.commandChanserv c params) := by
  unfold commandChanserv
  split
  · exact .say (.refl s) _
  split
  · exact .numeric (.refl s) c _ _
  · rename_i text _
    dsimp only
    split
    · exact .say (.refl s) _
    split
    · split
      · exact chain_chanservRequest s c _ text rfl
      · exact ((chain_registrationExists s _).trans (chain_chanservRequest _ c _ text rfl)).trans
          (chain_registrationNotice ..)
    · rename_i hword
      refine chain_chanservRequest s c false text ?_
      simp only [Bool.or_eq_true, not_or, Bool.not_eq_true] at hword
      exact hword.2.symm

end

end Server

end ScratchIrcd
