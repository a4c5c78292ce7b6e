/-
  File:      ScratchIrcd/ReservedNicks.lean
  Subject:   Who holds a reserved nickname after NICK and RECOVER.

  `command_nick` refuses a reserved nickname under `strcasecmp` (docs/RESERVED_NICKS.md); the table
  of nicknames takes two names for one under RFC1459. On the names of services, which are letters,
  both agree; a configured nickname with a bracket has another spelling that anybody may take.
  `recover_rename` does not ask. Apart from that, nobody but operators holds a reserved nickname.
-/
import ScratchIrcd.BanSweep

namespace ScratchIrcd

open CText

variable {target : ClientRef} {params : Option Text} {config : ServerConfig} {r : Text}

variable {c : ClientRef} {a : Server} {command nick rest : Text}

/-! ## 1. The two comparisons -/

/-- The names of services. -/
def serviceNames : List Text := ["NickServ".toList, "ChanServ".toList, "MemoServ".toList]

theorem serviceNicknameReserved_of_nameEq (hr : r ∈ serviceNames) (h : nameEq nick r = true) :
    serviceNicknameReserved nick = true := by
  have hsigns : ∀ r ∈ serviceNames, ∀ x ∈ r, ircFold x ∉ foldedSigns := by
    intro r hr
    simp only [serviceNames, List.mem_cons, List.not_mem_nil, or_false] at hr
    rcases hr with rfl | rfl | rfl <;> exact forall_mem_of_all (by decide)
  have heq := strcasecmpEq_of_nameEq (hsigns r hr) h
  unfold serviceNicknameReserved isWord
  simp only [serviceNames, List.mem_cons, List.not_mem_nil, or_false] at hr
  rcases hr with rfl | rfl | rfl <;> simp only [heq, Bool.true_or, Bool.or_true]

/-! ## 2. What is kept -/

/-- No reserved nickname is this one under `strcasecmp`, and no service's under RFC1459. -/
def ServerConfig.Spares (config : ServerConfig) (nick : Text) : Prop :=
  (∀ r ∈ config.reservedNicks, strcasecmpEq r nick = false) ∧
    ∀ r ∈ serviceNames, nameEq nick r = false

instance (config : ServerConfig) (nick : Text) : Decidable (config.Spares nick) :=
  inferInstanceAs (Decidable (_ ∧ _))

namespace Server

/-- The configuration is this one, and nobody without operator or network administrator mode holds
    a nickname that it reserves. -/
structure ReservedKept (config : ServerConfig) (s : Server) : Prop where
  same : s.config = config
  nick : ∀ x ∈ s.clients, (s.client x).isOper = false → config.Spares (s.client x).nick

/-- Nobody came, and everybody has the nickname and the operator modes they had. -/
structure SameHolders (s s' : Server) : Prop where
  config : s'.config = s.config
  clients : ∀ x ∈ s'.clients, x ∈ s.clients
  nick : ∀ x, (s'.client x).nick = (s.client x).nick
  oper : ∀ x, (s'.client x).isOper = (s.client x).isOper

variable {config : ServerConfig} {s s' : Server}

theorem ReservedKept.of_holders (h : s.ReservedKept config) (hsame : s.SameHolders s') :
    s'.ReservedKept config where
  same := hsame.config.trans h.same
  nick x hx hoper := by
    rw [hsame.nick]
    exact h.nick x (hsame.clients x hx) (hsame.oper x ▸ hoper)

namespace SameHolders

theorem refl (s : Server) : s.SameHolders s := ⟨rfl, fun _ h => h, fun _ => rfl, fun _ => rfl⟩

theorem trans {b c : Server} (h₁ : a.SameHolders b) (h₂ : b.SameHolders c) : a.SameHolders c where
  config := h₂.config.trans h₁.config
  clients x hx := h₁.clients x (h₂.clients x hx)
  nick x := (h₂.nick x).trans (h₁.nick x)
  oper x := (h₂.oper x).trans (h₁.oper x)

/-- Nothing of a client changed. -/
theorem congr (h : s.SameHolders s') (hconfig : a.config = s'.config)
    (hclients : a.clients = s'.clients) (hclient : a.client = s'.client) : s.SameHolders a :=
  h.trans ⟨hconfig, fun x hx => hclients ▸ hx, fun x => by rw [hclient], fun x => by rw [hclient]⟩

theorem deliver (h : s.SameHolders s') (ds : List (ClientRef × Line)) :
    s.SameHolders (s'.deliver ds) := h.congr rfl rfl rfl

theorem quiet (h : s.SameHolders s') (hq : s'.Quiet a) : s.SameHolders a :=
  h.congr hq.config hq.clients hq.client

theorem updClient (h : s.SameHolders s') {f : Client → Client}
    (hnick : (f (s'.client c)).nick = (s'.client c).nick)
    (hoper : (f (s'.client c)).isOper = (s'.client c).isOper) :
    s.SameHolders (s'.updClient c f) := by
  have hupd : ∀ x, ((s'.updClient c f).client x).nick = (s'.client x).nick ∧
      ((s'.updClient c f).client x).isOper = (s'.client x).isOper := by
    intro x
    by_cases hx : x = c
    · subst hx
      rw [updClient_self]
      exact ⟨hnick, hoper⟩
    · rw [updClient_of_ne _ _ _ _ hx]
      exact ⟨rfl, rfl⟩
  exact h.trans ⟨rfl, fun _ hx => hx, fun x => (hupd x).1, fun x => (hupd x).2⟩

end SameHolders

section

variable (s : Server) (c : ClientRef)

theorem sameHolders_whowasRecord (nick : Text) :
    s.SameHolders (s.whowasRecord c nick) := by
  unfold whowasRecord
  dsimp only
  split <;> exact (SameHolders.refl s).congr rfl rfl rfl

theorem sameHolders_watchOffline (nick : Text) :
    s.SameHolders (s.watchOffline c nick) := by
  unfold watchOffline
  split <;> exact (SameHolders.refl s).congr rfl rfl rfl

theorem sameHolders_watchOnline : s.SameHolders (s.watchOnline c) := by
  unfold watchOnline
  dsimp only
  split <;> exact (SameHolders.refl s).congr rfl rfl rfl

theorem sameHolders_disconnect (reason : Text) :
    s.SameHolders (s.disconnect c reason) := by
  refine disconnect_steps (P := s.SameHolders) (fun _ ds h => h.deliver ds) (fun s₁ ch h => ?_)
    (fun _ _ _ h => h.congr rfl rfl rfl) (fun s₁ nicks h => ?_) (fun _ _ _ _ _ h => h.congr rfl rfl rfl)
    (.refl s)
  · exact (h.congr (a := s₁.updChannel ch (·.removeMember c)) rfl rfl rfl).updClient rfl rfl
  · have hgone : ∀ x ∈ swapRemove c s₁.clients, x ∈ s₁.clients := by
      intro x hx
      by_cases hc : c ∈ s₁.clients
      · exact (perm_swapRemove hc).mem_iff.mp (List.mem_cons_of_mem _ hx)
      · have hsame : swapRemove c s₁.clients = s₁.clients := if_neg hc
        exact hsame ▸ hx
    have hlists : s₁.SameHolders { s₁ with
        clients := swapRemove c s₁.clients, clientsByNick := nicks } :=
      ⟨rfl, hgone, fun _ => rfl, fun _ => rfl⟩
    exact (h.trans hlists).updClient rfl rfl

end

theorem isOper_applyCloak (config : ServerConfig) (ext : External) (cl : Client) :
    (cl.applyCloak config ext).isOper = cl.isOper := by
  have hcloak : cl.SelfModed config ext (cl.applyCloak config ext) := .cloak
  have hgranted := hcloak.granted
  unfold Client.isOper isOperator
  rw [decide_eq_decide.mpr (hgranted .oper (by decide)),
    decide_eq_decide.mpr (hgranted .netadmin (by decide))]

theorem sameHolders_completeRegistration (s : Server) (c : ClientRef) :
    s.SameHolders (s.completeRegistration c) := by
  have hcloak := Client.sameButModes_applyCloak s.config s.ext (s.client c)
  unfold Client.SameButModes at hcloak
  unfold completeRegistration
  dsimp only
  refine SameHolders.deliver (SameHolders.trans ?_ (sameHolders_watchOnline _ c)) _
  refine (((((SameHolders.refl s).updClient ?_ ?_).deliver _).deliver _).deliver _).deliver _
  · rw [hcloak]
  · exact isOper_applyCloak s.config s.ext (s.client c)

/-! ## 3. A nickname is given -/

/-- A client that may hold the nickname gets it. -/
theorem ReservedKept.given (h : s.ReservedKept config)
    (hmay : (s.client c).isOper = true ∨ config.Spares nick) (table : HashTable ClientRef) :
    ({ s with clientsByNick := table }.updClient c
      fun cl => { cl with nick := nick }).ReservedKept config where
  same := h.same
  nick x hx hoper := by
    by_cases hxc : x = c
    · subst hxc
      rw [updClient_self] at hoper ⊢
      rcases hmay with hmay | hmay
      · exact absurd (hmay.symm.trans hoper) (by decide)
      · exact hmay
    · rw [updClient_of_ne _ _ _ _ hxc] at hoper ⊢
      exact h.nick x hx hoper

theorem ReservedKept.takeNick (h : s.ReservedKept config)
    (hmay : (s.client c).isOper = true ∨ config.Spares nick) :
    (s.takeNick c nick).ReservedKept config :=
  h.given hmay _

theorem SameHolders.may (h : s.SameHolders s')
    (hmay : (s.client c).isOper = true ∨ config.Spares nick) :
    (s'.client c).isOper = true ∨ config.Spares nick := by
  rw [h.oper]
  exact hmay

theorem ReservedKept.changeNick (h : s.ReservedKept config)
    (hmay : (s.client c).isOper = true ∨ config.Spares nick) :
    (s.changeNick c nick).ReservedKept config := by
  have hgone : s.SameHolders ((s.whowasRecord c (s.client c).nick).watchOffline c (s.client c).nick) :=
    (s.sameHolders_whowasRecord c _).trans (sameHolders_watchOffline _ c _)
  unfold Server.changeNick
  dsimp only
  have taken := (h.of_holders hgone).takeNick (hgone.may hmay)
  refine taken.of_holders (SameHolders.deliver ?_ _)
  exact ((SameHolders.refl _).deliver _).trans (sameHolders_watchOnline _ c)

end Server

/-- What `command_nick` lets through. -/
theorem spares_of_not_reserved {cl : Client} (hreserved : cl.nicknameReserved config nick = false)
    (hoper : cl.isOper = false) : config.Spares nick := by
  rw [Client.nicknameReserved, hoper, Bool.not_false, Bool.and_true, Bool.or_eq_false_iff] at hreserved
  refine ⟨fun r hr => ?_, fun r hr => ?_⟩
  · exact Bool.eq_false_iff.mpr (List.any_eq_false.mp hreserved.2 r hr)
  · rw [Bool.eq_false_iff]
    intro heq
    rw [serviceNicknameReserved_of_nameEq hr heq] at hreserved
    cases hreserved.1

namespace Network

open Server (SameHolders ReservedKept)

variable {config : ServerConfig} {n : Network}

/-- What the way to a registration can do to the server: it says something, notes what it found out
    about the client, completes the registration. -/
theorem maybeRegister_induct {P : Server → Prop} (say : ∀ s ds, P s → P (s.deliver ds))
    (note : ∀ s (reason : Client → Text) (state : Client → DnsblState), P s → P (s.updClient c fun
      cl => { cl with quitReason := reason cl, dnsblState := state cl }))
    (complete : ∀ s, P s → P (s.completeRegistration c)) (h : P n.server) :
    P (n.maybeRegister c).server := by
  have reject : ∀ s reason, P s → P (s.rejectRegistration c reason) := fun s reason h =>
    note _ (fun _ => bounded ircQuitReasonMax reason) (·.dnsblState) (say _ _ h)
  have become : ∀ s state, P s → P (s.updClient c fun cl => { cl with dnsblState := state }) :=
    fun s state h => note s (·.quitReason) (fun _ => state) h
  have exempt : ∀ (m : Network) family verdict, P m.server → P (m.noteExempt c family verdict).server := by
    intro m family verdict hm
    unfold noteExempt
    split
    · exact say _ _ hm
    · exact hm
  have refuse : ∀ (m : Network) family verdict, P m.server → P (m.refuseBanned c family verdict).server := by
    intro m family verdict hm
    unfold refuseBanned
    split
    · exact reject _ _ (say _ _ hm)
    · exact hm
  have located : P (n.lookupGeoip c).server := by
    unfold lookupGeoip
    split <;> exact h
  have judged : P ((n.lookupGeoip c).registrationGeoBanned c).server := by
    unfold registrationGeoBanned
    dsimp only
    split
    · exact located
    split
    · exact say _ _ located
    · exact reject _ _ (say _ _ located)
  have asked : P (((n.lookupGeoip c).registrationGeoBanned c).startDnsbl c).server := by
    unfold startDnsbl
    dsimp only
    split
    · exact judged
    split
    · exact become _ _ judged
    split
    · exact become _ _ judged
    · exact say _ _ (become _ _ judged)
  unfold maybeRegister
  dsimp only
  split
  · exact h
  split
  · exact judged
  split
  · exact asked
  · generalize ((n.lookupGeoip c).registrationGeoBanned c).startDnsbl c = m at asked
    unfold finishRegistration
    dsimp only
    split
    · exact reject _ _ (say _ _ asked)
    split
    · exact refuse _ _ _ asked
    split
    · exact refuse _ _ _ (exempt _ _ _ asked)
    · exact complete _ (exempt _ _ _ (exempt _ _ _ asked))

theorem sameHolders_maybeRegister (n : Network) (c : ClientRef) :
    n.server.SameHolders (n.maybeRegister c).server :=
  maybeRegister_induct (P := n.server.SameHolders) (fun _ ds h => h.deliver ds)
    (fun _ _ _ h => h.updClient rfl rfl)
    (fun s h => h.trans (s.sameHolders_completeRegistration c)) (.refl _)

theorem sameHolders_nospoofStart (n : Network) (c : ClientRef) :
    n.server.SameHolders (n.nospoofStart c).server := by
  unfold nospoofStart
  dsimp only
  have hcookie : ∀ cookie, n.server.SameHolders
      (n.server.updClient c fun cl => { cl with nospoofCookie := cookie }) :=
    fun _ => (SameHolders.refl _).updClient rfl rfl
  split
  · exact .refl _
  split
  · exact hcookie _
  · exact ((hcookie _).updClient rfl rfl).deliver _

/-- **NICK gives a reserved nickname to operators only.** -/
theorem reservedKept_nick (h : n.server.ReservedKept config) (c : ClientRef) (params : Option Text) :
    (n.nick c params).server.ReservedKept config := by
  have said : ∀ ds, (n.server.deliver ds).ReservedKept config := fun ds =>
    h.of_holders ((SameHolders.refl _).deliver ds)
  unfold nick
  dsimp only
  split
  · exact said _
  rename_i text htext
  split
  · exact said _
  split
  · exact said _
  rename_i hreserved
  split
  · exact said _
  have hmay : (n.server.client c).isOper = true ∨ config.Spares (text.takeWhile (· != ' ')) := by
    cases hoper : (n.server.client c).isOper with
    | true => exact .inl rfl
    | false => exact .inr (spares_of_not_reserved (h.same ▸ Bool.eq_false_iff.mpr hreserved) hoper)
  have taken := h.takeNick hmay
  split
  · split
    · exact taken
    · exact h.changeNick hmay
  · exact (taken.of_holders (sameHolders_nospoofStart
      (n.onServer fun s => s.takeNick c (text.takeWhile (· != ' '))) c)).of_holders
      (sameHolders_maybeRegister _ c)

end Network

/-! ## 4. RECOVER -/

namespace Server

variable {config : ServerConfig} {s : Server}

theorem guestNick_eq (s : Server) (target : ClientRef) : ∃ rest, s.guestNick target = 'G' :: rest :=
  ⟨("uest".toList ++ decimal (s.client target).id).take 14, rfl⟩

/-- The nickname of a renamed session is no service's. -/
theorem guestNick_ne_service (s : Server) (target : ClientRef) (hr : r ∈ serviceNames) :
    nameEq (s.guestNick target) r = false := by
  obtain ⟨rest, hrest⟩ := s.guestNick_eq target
  rw [hrest, Bool.eq_false_iff]
  intro heq
  have hmaps := foldEq_iff.mp heq
  simp only [serviceNames, List.mem_cons, List.not_mem_nil, or_false] at hr
  rcases hr with rfl | rfl | rfl <;> exact absurd (List.cons.inj hmaps).1 (by decide)

/-- The session that a RECOVER may rename: an operator, or the new nickname is not reserved. -/
def RecoverSpares (s : Server) (target : ClientRef) : Prop :=
  (s.client target).isOper = true ∨
    ∀ r ∈ s.config.reservedNicks, strcasecmpEq r (s.guestNick target) = false

instance (s : Server) (target : ClientRef) : Decidable (s.RecoverSpares target) :=
  inferInstanceAs (Decidable (_ ∨ _))

/-- Nobody came, operators are who they were, and everybody has the nickname they had or the one
    that RECOVER gives. -/
structure Guested (s s' : Server) : Prop where
  config : s'.config = s.config
  clients : ∀ x ∈ s'.clients, x ∈ s.clients
  nick : ∀ x, (s'.client x).nick = (s.client x).nick ∨ (s'.client x).nick = s.guestNick x
  oper : ∀ x, (s'.client x).isOper = (s.client x).isOper

theorem SameHolders.guested (h : s.SameHolders s') : s.Guested s' :=
  ⟨h.config, h.clients, fun x => .inl (h.nick x), h.oper⟩

theorem Guested.trans (h : s.Guested s') (h' : s'.SameHolders a) : s.Guested a where
  config := h'.config.trans h.config
  clients x hx := h.clients x (h'.clients x hx)
  nick x := by
    rw [h'.nick]
    exact h.nick x
  oper x := (h'.oper x).trans (h.oper x)

theorem ReservedKept.of_guested (h : s.ReservedKept config) (hg : s.Guested s')
    (hspares : ∀ x, (s'.client x).nick ≠ (s.client x).nick → s.RecoverSpares x) :
    s'.ReservedKept config where
  same := hg.config.trans h.same
  nick x hx hoper := by
    by_cases hnick : (s'.client x).nick = (s.client x).nick
    · rw [hnick]
      exact h.nick x (hg.clients x hx) (hg.oper x ▸ hoper)
    · rw [(hg.nick x).resolve_left hnick]
      refine ⟨?_, fun r hr => s.guestNick_ne_service x hr⟩
      rw [← h.same]
      exact (hspares x hnick).resolve_left (by rw [← hg.oper, hoper]; exact Bool.false_ne_true)

theorem guested_recoverRename (s : Server) (target : ClientRef) :
    s.Guested (s.recoverRename target).2 := by
  unfold recoverRename
  dsimp only
  split
  · exact (SameHolders.refl s).guested
  · have hrenamed : s.Guested (s.rename target (s.guestNick target)) := by
      refine ⟨rfl, fun _ hx => hx, fun x => ?_, fun x => ?_⟩
      all_goals
        unfold rename
        by_cases hx : x = target
      · rw [hx, updClient_self]
        exact .inr rfl
      · rw [updClient_of_ne _ _ _ _ hx]
        exact .inl rfl
      · rw [hx, updClient_self]
        rfl
      · rw [updClient_of_ne _ _ _ _ hx]
    refine hrenamed.trans (SameHolders.deliver ?_ _)
    exact List.foldlRecOn _ _ (SameHolders.refl _) fun _ h₁ _ _ => h₁.deliver _

theorem guested_recoverTarget (s : Server) (c target : ClientRef) (kill ghost : Bool) :
    s.Guested (s.recoverTarget c target kill ghost) := by
  unfold recoverTarget
  cases kill with
  | true => exact ((s.sameHolders_disconnect target _).deliver _).guested
  | false =>
    have renamed := s.guested_recoverRename target
    rw [if_neg Bool.false_ne_true]
    generalize s.recoverRename target = res at renamed
    obtain ⟨_ | _, s₁⟩ := res
    · exact renamed.trans ((SameHolders.refl _).deliver _)
    · exact renamed.trans ((SameHolders.refl _).deliver _)

theorem sameHolders_recoverAuthorized (s : Server) (c : ClientRef) (nick : Text) :
    ∃ d, (s.recoverAuthorized c nick).2 = { s with storage := d } := by
  unfold recoverAuthorized
  dsimp only
  split
  · exact ⟨s.storage, rfl⟩
  · obtain ⟨d, -, hd⟩ := s.enabledAccount_eq nick
    exact ⟨d, hd⟩

theorem guested_nickservRecover (s : Server) (c : ClientRef) (rest : Text) (ghost : Bool) :
    s.Guested (s.nickservRecover c rest ghost) := by
  have said : ∀ ds, s.Guested (s.deliver ds) := fun ds => ((SameHolders.refl _).deliver ds).guested
  unfold nickservRecover
  dsimp only
  split
  · exact said _
  split
  · exact said _
  rename_i nick action _ _
  obtain ⟨d, hd⟩ := s.sameHolders_recoverAuthorized c nick
  have hread : s.SameHolders { s with storage := d } := (SameHolders.refl s).congr rfl rfl rfl
  generalize s.recoverAuthorized c nick = res at hd
  obtain ⟨_ | _, s₁⟩ := res
  all_goals
    obtain rfl : s₁ = _ := hd
    dsimp only
  · exact (hread.deliver _).guested
  split
  · exact (hread.deliver _).guested
  split
  · exact (hread.deliver _).guested
  · have hdone := guested_recoverTarget { s with storage := d } c
    exact ⟨(hdone _ _ _).config, (hdone _ _ _).clients, (hdone _ _ _).nick, (hdone _ _ _).oper⟩

theorem sameHolders_recoverDone (s : Server) (target : Option (ClientRef × Text)) :
    s.SameHolders (s.recoverDone target) := by
  unfold recoverDone
  split
  · exact .refl s
  unfold recoverPresenceAfter
  split
  · exact .refl s
  · exact ((s.sameHolders_whowasRecord _ _).trans (sameHolders_watchOffline _ _ _)).trans
      (sameHolders_watchOnline _ _)

theorem sameHolders_accountChanged (s : Server) (c : ClientRef) :
    s.SameHolders (s.accountChanged c) :=
  (SameHolders.refl s).quiet (s.silent_accountChanged c).toQuiet

theorem sameHolders_registrationDone (s : Server) (c : ClientRef) (registering : Bool) :
    s.SameHolders (s.registrationDone c registering) := by
  have hchanged := s.sameHolders_accountChanged c
  unfold registrationDone
  dsimp only
  split
  · exact hchanged
  · refine SameHolders.deliver ?_ _
    split
    · exact hchanged
    · exact hchanged.congr rfl rfl rfl

/-- The command of a line to NickServ and what it is given. -/
def nickservWords (params : Option Text) : Option (Text × Text) :=
  ((params.bind strtokRest).bind strtokSpace).map fun words =>
    (words.1, ((strtokRest words.2).map fun r => r.dropWhile (· == ' ')).getD [])

/-- The session a line to NickServ is to rename. -/
def recovered (s : Server) (params : Option Text) : Option ClientRef :=
  (nickservWords params).bind fun words => s.recoverTargetBefore words.1 words.2

theorem nickservHandleMessage_recover (s : Server) (c : ClientRef)
    (hcommand : isWord command "RECOVER" = true) :
    s.nickservHandleMessage c command rest = s.nickservRecover c rest false := by
  rw [nickservHandleMessage, isWord_false hcommand (by decide), hcommand]
  rfl

/-- A line to NickServ whose command is RECOVER. -/
theorem commandNickserv_recover (s : Server) (c : ClientRef)
    (hwords : nickservWords params = some (command, rest))
    (hcommand : isWord command "RECOVER" = true) :
    s.commandNickserv c params =
      if (s.client c).registered then s.nickservServe c command rest else s.notRegistered c := by
  unfold nickservWords at hwords
  obtain ⟨⟨command', rest'⟩, htext, heq⟩ := Option.map_eq_some_iff.mp hwords
  obtain ⟨text, hparams, htext⟩ := Option.bind_eq_some_iff.mp htext
  cases heq
  unfold commandNickserv
  cases (s.client c).registered with
  | false => rfl
  | true =>
    rw [hparams]
    simp only [Bool.not_true, Bool.false_eq_true, if_false, if_true]
    unfold nickservMessage
    rw [htext]
    dsimp only
    rw [isWord_false hcommand (by decide), isWord_false hcommand (by decide),
      isWord_false hcommand (by decide)]
    rfl

/-- A RECOVER renames nobody but to a guest. -/
theorem guested_commandNickserv (s : Server) (c : ClientRef)
    (hwords : nickservWords params = some (command, rest))
    (hcommand : isWord command "RECOVER" = true) : s.Guested (s.commandNickserv c params) := by
  have hhandled : s.Guested (s.nickservHandleMessage c command rest) := by
    rw [nickservHandleMessage_recover s c hcommand]
    exact s.guested_nickservRecover c rest false
  rw [commandNickserv_recover s c hwords hcommand]
  split
  · unfold nickservServe
    dsimp only
    have hdone := hhandled.trans (sameHolders_recoverDone _
      ((s.recoverTargetBefore command rest).map fun r => (r, (s.client r).nick)))
    split
    · exact hdone.trans (sameHolders_registrationDone _ c _)
    split
    · exact hdone.trans (sameHolders_accountChanged _ c)
    · exact hdone
  · exact ((SameHolders.refl s).deliver _).guested

end Server

/-! ## 5. Runs -/

namespace NetworkEvent

/-- NICK, and a line to NickServ whose command is RECOVER. -/
def isNickOrRecover : NetworkEvent → Bool
  | .nick _ _ => true
  | .nickserv _ params => (Server.nickservWords params).any fun words => isWord words.1 "RECOVER"
  | _ => false

end NetworkEvent

namespace Network

open Server (ReservedKept)

/-- Whoever a RECOVER renames is an operator, or is renamed to a nickname that is not reserved. -/
def SparesReserved (n : Network) : NetworkEvent → Prop
  | .nickserv c params => ∀ x,
      ((n.step (.nickserv c params)).server.client x).nick ≠ (n.server.client x).nick →
        n.server.RecoverSpares x
  | _ => True

theorem reservedKept_step {n : Network} (h : n.server.ReservedKept config) {e : NetworkEvent}
    (hkind : e.isNickOrRecover = true) (hspares : n.SparesReserved e) :
    (n.step e).server.ReservedKept config := by
  by_cases hactor : (e.actor.all fun c => n.server.clients.contains c) = true
  swap
  · rw [Network.step, if_neg hactor]
    exact h
  have hstep : n.step e = n.handle e := if_pos hactor
  cases e with
  | nick c params =>
    rw [hstep]
    exact reservedKept_nick h c params
  | nickserv c params =>
    rw [NetworkEvent.isNickOrRecover] at hkind
    cases hwords : Server.nickservWords params with
    | none => rw [hwords] at hkind; cases hkind
    | some words =>
      rw [hwords] at hkind
      have hserver : (n.step (.nickserv c params)).server = n.server.commandNickserv c params := by
        rw [hstep]
        exact (n.server_settle _).1
      rw [SparesReserved, hserver] at hspares
      rw [hserver]
      exact h.of_guested (n.server.guested_commandNickserv c hwords hkind) hspares
  | _ => cases hkind

/-- **Reserved nicknames are kept for operators** in every run of NICK and RECOVER in which nobody
    is renamed to a guest's nickname that is reserved. -/
theorem reserved_nicks_kept (n : Network) (es : List NetworkEvent)
    (hstart : n.server.ReservedKept n.server.config)
    (hrun : Runs.Allowed step (fun m e => e.isNickOrRecover = true ∧ m.SparesReserved e) n es) :
    (Runs.exec step n es).server.ReservedKept n.server.config :=
  Runs.exec_invariant (P := fun m => m.server.ReservedKept n.server.config)
    (fun _ _ h hok => reservedKept_step h hok.1 hok.2) hstart hrun

/-- Client 0 is identified to the account under whose name client 1 goes. -/
def annTwice (reserved : List Text) : Network :=
  let n := Network.initial { reservedNicks := reserved } {}
    { nickserv := [{ name := "ann".toList, passwordHash := ['h'] }] } {} { inetNtop4 := id, inetNtop6 := id } {}
  { n with server := { n.server with
      clients := [0, 1]
      clientsByNick := (n.server.clientsByNick.set "bob".toList 0).set "ann".toList 1
      client := fun c =>
        if c = 0 then
          { id := 1, registered := true, nick := "bob".toList, accountName := "ann".toList }
        else { id := 2, registered := true, nick := "ann".toList } } }

/-- `strcasecmp` knows one spelling of `[x]`, the table of nicknames takes `{x}` for it. -/
theorem reserved_nick_other_spelling :
    let n := annTwice ["[x]".toList]
    let n' := n.step (.nick 1 (some "\x7bx\x7d".toList))
    (∀ x ∈ n.server.clients, (n.server.client x).isOper = false →
      ∀ r ∈ n.server.config.reservedNicks ++ serviceNames,
        nameEq (n.server.client x).nick r = false) ∧
    ¬ ∀ x ∈ n'.server.clients, (n'.server.client x).isOper = false →
      ∀ r ∈ n.server.config.reservedNicks ++ serviceNames,
        nameEq (n'.server.client x).nick r = false := by
  decide +kernel

theorem reserved_nicks_kept_ann :
    let es : List NetworkEvent := [.nick 1 (some "anne".toList), .nick 1 (some "Ann".toList),
      .nickserv 0 (some "RECOVER ann".toList)]
    let n := Runs.exec step (annTwice ["root".toList]) es
    (n.server.client 1).nick = "Guest2".toList ∧
      n.server.ReservedKept (annTwice ["root".toList]).server.config := by
  refine ⟨by decide +kernel, reserved_nicks_kept _ _ ⟨rfl, by decide +kernel⟩ ?_⟩
  refine ⟨⟨rfl, trivial⟩, ⟨rfl, trivial⟩, ⟨by decide +kernel, fun x _ => .inr fun r hr => ?_⟩, trivial⟩
  obtain rfl : r = "root".toList := List.mem_singleton.mp hr
  obtain ⟨rest, hrest⟩ := Server.guestNick_eq _ x
  rw [hrest, Bool.eq_false_iff]
  exact fun heq => absurd (List.cons.inj (foldEq_iff.mp heq)).1 (by decide)

end Network

end ScratchIrcd
