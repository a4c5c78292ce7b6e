/-
  File:      ScratchIrcd/ClientIndex.lean
  Subject:   The tables of connections follow the connections, whatever happens.

  Every event is a chain of acts on the tables (`chain_step`), so an invariant of the tables is
  proved act by act. The first one is that the tables hold exactly the live clients; with
  `Later`, which says that an id that was given up does not come back, it gives the main result.
-/
import ScratchIrcd.Connections

namespace ScratchIrcd

open CText Relation

namespace Network

variable {n n' : Network}

/-! ## 1. Every step is a chain of acts -/

open Server (SameKeys)

section Stays

section

variable (s : Server) (c : ClientRef)

theorem sameKeys_requestWebsite : s.SameKeys (s.requestWebsite c) := by
  unfold Server.requestWebsite
  dsimp only
  split
  · exact ((SameKeys.refl s).deliver _).updClient c rfl rfl rfl id
  · exact .refl s

theorem sameKeys_requestVersion : s.SameKeys (s.requestVersion c) := by
  unfold Server.requestVersion
  dsimp only
  split
  · exact ((SameKeys.refl s).deliver _).updClient c rfl rfl rfl id
  · exact .refl s

theorem sameKeys_commandWatch (params : Option Text) :
    s.SameKeys (s.commandWatch c params) :=
  Server.commandWatch_rule SameKeys.refl (fun _ _ _ => SameKeys.trans)
    (fun s ds _ => (SameKeys.refl s).deliver ds)
    (fun s _ => (SameKeys.refl s).updClient c rfl rfl rfl id) s params

theorem sameKeys_commandPmstats (params : Option Text) :
    s.SameKeys (s.commandPmstats c params) := by
  have toggled : ∀ on, s.SameKeys (s.pmstatsSetEnabled c on) := by
    intro on
    have hset : s.SameKeys (s.updClient c fun cl => { cl with pmstatsEnabled := on }) :=
      (SameKeys.refl s).updClient c rfl rfl rfl id
    unfold Server.pmstatsSetEnabled
    dsimp only
    split_ifs
    · exact hset.trans ⟨rfl, rfl, rfl, rfl, rfl, fun _ => rfl, fun _ => rfl, fun _ => rfl,
      fun _ h => h, rfl⟩
    · exact hset.trans ⟨rfl, rfl, rfl, rfl, rfl, fun _ => rfl, fun _ => rfl, fun _ => rfl,
      fun _ h => h, rfl⟩
    · exact hset
  unfold Server.commandPmstats
  dsimp only
  split_ifs
  · exact (SameKeys.refl s).deliver _
  · exact toggled true
  · exact toggled false
  · exact (SameKeys.refl s).deliver _

end

variable {c : ClientRef}

theorem stays_nospoofStart (n : Network) (c : ClientRef) : n.Stays (n.nospoofStart c) := by
  unfold nospoofStart
  dsimp only
  split
  · exact .refl n
  have hmade : n.Stays { n with cookiesMade := n.cookiesMade + 1 } :=
    ⟨.refl _, rfl, rfl, rfl, rfl, fun _ h => .inl h, fun _ h => .inl h, fun _ h => h⟩
  have hcookie := hmade.edit c (f := fun cl =>
    { cl with nospoofCookie := n.platform.cookies n.cookiesMade }) fun _ => ⟨rfl, rfl, rfl, id⟩
  split
  · exact hcookie
  · exact (hcookie.updConn c fun _ h => h).onServer (f := (·.challenge c _))
      (((SameKeys.refl _).updClient c rfl rfl rfl id).deliver _)

theorem stays_user (hc : c ∈ n.server.clients) (params : Option Text) : n.Stays (n.user c params) := by
  have refused : ∀ code texts, n.Stays (n.onServer fun s => s.replyNumeric c code texts) :=
    fun _ _ => Stays.of_keys (.deliver (.refl _) _)
  unfold user
  dsimp only
  split
  · exact refused ..
  split
  · exact refused ..
  split
  · exact refused ..
  split
  · exact refused ..
  split
  · exact refused ..
  · refine Stays.trans ?_ (stays_maybeRegister ?_)
    · exact (Stays.refl n).edit c fun _ => ⟨rfl, rfl, rfl, id⟩
    · exact hc

theorem stays_pass (hc : c ∈ n.server.clients) (params : Option Text) : n.Stays (n.pass c params) := by
  have accepted : ∀ ok, n.Stays (n.onServer fun s => s.updClient c fun cl =>
      { cl with passAccepted := ok }) :=
    fun _ => (Stays.refl n).edit c fun _ => ⟨rfl, rfl, rfl, id⟩
  unfold pass
  dsimp only
  split
  · exact .of_keys (.deliver (.refl _) _)
  split
  · exact .of_keys (.deliver (.refl _) _)
  split
  · exact (accepted true).trans (stays_maybeRegister hc)
  · exact (accepted false).onServer (.deliver (.refl _) _)

/-- A request for labelled responses without batches is refused. -/
theorem labeled_requestedCapabilities {cl : Client} {request : Text} {proposed : Finset Capability}
    (h : requestedCapabilities cl request = some proposed) :
    Capability.labeledResponse ∈ proposed → Capability.batch ∈ proposed := by
  unfold requestedCapabilities at h
  split at h
  · cases h
  split at h
  · cases h
  split at h
  · cases h
  · rename_i hboth
    obtain rfl := Option.some.inj h
    intro hlabeled
    by_contra hbatch
    exact hboth ⟨hlabeled, hbatch⟩

theorem stays_cap (hc : c ∈ n.server.clients) (params : Option Text) : n.Stays (n.cap c params) := by
  have negotiating : ∀ on, n.Stays (n.onServer fun s => s.updClient c fun cl =>
      { cl with capNegotiating := on }) :=
    fun _ => (Stays.refl n).edit c fun _ => ⟨rfl, rfl, rfl, id⟩
  unfold cap
  dsimp only
  split
  · exact .refl n
  split
  · exact (negotiating true).onServer (.deliver (.refl _) _)
  split
  · exact .of_keys (.deliver (.refl _) _)
  split
  · split
    · rename_i proposed hrequested
      exact (negotiating true).onServer (((SameKeys.refl _).deliver _).updClient c rfl rfl rfl
        fun _ => labeled_requestedCapabilities hrequested)
    · exact (negotiating true).onServer (.deliver (.refl _) _)
  split
  · exact (negotiating false).trans (stays_maybeRegister hc)
  · exact .refl n

theorem stays_pong (hc : c ∈ n.server.clients) (params : Option Text) : n.Stays (n.pong c params) := by
  unfold pong
  dsimp only
  split
  · exact .refl n
  split
  · exact .refl n
  · have hverified : n.Stays (n.onServer fun s => ((s.updClient c fun cl =>
        { cl with nospoofVerified := true, nospoofCookie := [] }).requestVersion c).requestWebsite c) :=
      Stays.of_keys ((((SameKeys.refl n.server).updClient c rfl rfl rfl id).trans
        (sameKeys_requestVersion _ c)).trans (sameKeys_requestWebsite _ c))
    exact hverified.trans (stays_maybeRegister (by rw [hverified.keys.clients]; exact hc))

theorem stays_tlsEstablished (n : Network) (c : ClientRef) : n.Stays (n.tlsEstablished c) := by
  unfold tlsEstablished
  split
  · exact .refl n
  · exact ((Stays.refl n).updConn c fun _ h => h).onServer
      (((SameKeys.refl _).updClient c rfl rfl rfl id).deliver _)

theorem stays_dnsWithout (hc : c ∈ n.server.clients) (state : DnsState) (notice : String) :
    n.Stays (n.dnsWithout c state notice) := by
  have hset : n.Stays (n.onServer fun s => (s.updClient c fun cl =>
      { cl with dnsState := state, realHost := [] }).snotice {.dns}
        (notice.toList ++ (s.client c).realIp)) :=
    Stays.of_keys (((SameKeys.refl n.server).updClient c rfl rfl rfl id).deliver _)
  have htold := fun tls => hset.trans (stays_plainNotice _ c tls
    "*** Hostname lookup failed; using IP instead")
  exact (htold _).trans (stays_maybeRegister (by rw [(htold _).keys.clients]; exact hc))

theorem stays_expireDnsbl (hc : c ∈ n.server.clients) : n.Stays (n.expireDnsbl c) := by
  unfold expireDnsbl
  split
  · have hset : n.Stays (n.onServer fun s => (s.updClient c fun cl =>
        { cl with dnsblState := .timeout }).snotice {.dns}
          ("DNSBL lookup timeout for ".toList ++ (s.client c).realIp)) :=
      Stays.of_keys (((SameKeys.refl n.server).updClient c rfl rfl rfl id).deliver _)
    exact hset.trans (stays_maybeRegister hc)
  · exact .refl n

theorem stays_expireLookups (hc : c ∈ n.server.clients) : n.Stays (n.expireLookups c) := by
  unfold expireLookups
  split
  · have hdns := stays_dnsWithout hc .timeout "FCrDNS timeout for "
    exact hdns.trans (stays_expireDnsbl (by rw [hdns.keys.clients]; exact hc))
  · exact stays_expireDnsbl hc

theorem Indexed.mem_of_findClientById (h : n.Indexed) {id : Nat} (hfind : n.findClientById id = some c) :
    c ∈ n.server.clients ∧ (n.server.client c).id = id := by
  obtain ⟨hc, hkey⟩ := (h.id _ c).mp hfind
  exact ⟨hc, (decimal_injective hkey).symm⟩

theorem stays_handleDnsResult (h : n.Indexed) (id : Nat) (host : Text) :
    n.Stays (n.handleDnsResult id host) := by
  unfold handleDnsResult
  split
  · exact .refl n
  · rename_i c hfind
    have hc := (h.mem_of_findClientById hfind).1
    split
    · exact .refl n
    split
    · exact stays_dnsWithout hc _ _
    · have hset : n.Stays (n.onServer fun s => (s.updClient c (·.resolved host)).snotice {.dns}
          ("FCrDNS verified: ".toList ++ (s.client c).realIp ++ " -> ".toList ++
            bounded ircHostMax host)) := by
        refine Stays.of_keys (((SameKeys.refl n.server).updClient c ?_ ?_ ?_ ?_).deliver _)
        iterate 3
          unfold Client.resolved
          dsimp only
          split <;> rfl
        · unfold Client.resolved
          dsimp only
          split <;> exact fun h => h
      have htold := fun tls => hset.trans (stays_plainNotice _ c tls "*** Done looking up your hostname")
      exact (htold _).trans (stays_maybeRegister (by rw [(htold _).keys.clients]; exact hc))

theorem stays_addAutomaticZline (n : Network) (c : ClientRef) (name zone : Text) :
    n.Stays (n.addAutomaticZline c name zone) := by
  unfold addAutomaticZline
  dsimp only
  split
  · exact .refl n
  · exact ⟨.refl _, rfl, rfl, rfl, rfl, fun _ h => .inl h, fun _ h => .inl h, fun _ h => h⟩

theorem stays_handleDnsblResult (h : n.Indexed) (id : Nat) (listing : Option (Text × Text)) :
    n.Stays (n.handleDnsblResult id listing) := by
  unfold handleDnsblResult
  split
  · exact .refl n
  · rename_i c hfind
    have hc := (h.mem_of_findClientById hfind).1
    have become : ∀ state, n.Stays (n.onServer fun s => s.updClient c fun cl =>
        { cl with dnsblState := state }) := fun _ => (Stays.refl n).edit c fun _ => ⟨rfl, rfl, rfl, fun h => h⟩
    dsimp only
    split
    · exact .refl n
    split
    · exact (become .clear).trans (stays_maybeRegister hc)
    split
    · refine ((become .clear).onServer (.deliver (.refl _) _)).trans (stays_maybeRegister ?_)
      exact hc
    · exact ((become .listed).trans (stays_addAutomaticZline _ c _ _)).onServer
        (((SameKeys.refl _).deliver _).trans (sameKeys_rejectRegistration _ c _))

end Stays

section Chains

variable {E : Text → Bool} {P : Text → Prop} {c : ClientRef}

theorem Stays.chain (h : n.Stays n') : TableChain E P n n' := .single (.stay h)

section

variable (hc : c ∈ n.server.clients)
include hc

theorem chain_disconnect (reason : Text) :
    TableChain E P n (n.disconnect c reason) :=
  .single (.settle (.one hc reason))

theorem chain_timedOut (categories : Finset Snotice) (notice : Text) (reason : String) :
    TableChain E P n (n.timedOut c categories notice reason) := by
  have hsaid : n.Stays (n.onServer fun s => (s.snotice categories notice).sendError c reason) :=
    Stays.of_keys (((SameKeys.refl n.server).deliver _).deliver _)
  exact hsaid.chain.trans (chain_disconnect (n := n.onServer _) hc _)

theorem chain_expire :
    TableChain E P n (n.expire c).1 := by
  unfold expire
  dsimp only
  split
  · exact chain_timedOut hc _ _ _
  split
  · exact chain_timedOut hc _ _ _
  · exact (stays_expireLookups hc).chain

end

theorem chain_nick (hc : c ∈ n.server.clients) (params : Option Text) :
    TableChain E P n (n.nick c params) := by
  have refused : ∀ code texts, TableChain E P n (n.onServer fun s => s.replyNumeric c code texts) :=
    fun _ _ => (Stays.of_keys (.deliver (.refl _) _)).chain
  unfold Network.nick
  dsimp only
  split
  · exact refused ..
  rename_i params _
  generalize params.takeWhile (· != ' ') = wanted
  split
  · exact refused ..
  rename_i hvalid
  split
  · exact refused ..
  split
  · exact refused ..
  rename_i hused
  have hfree : ∀ r, n.server.findNick wanted = some r → r = c := by
    intro r hr
    rw [hr] at hused
    simpa using hused
  have taken : TableChain E P n (n.onServer fun s => s.takeNick c wanted) :=
    .single (.nick hc (by simpa using hvalid) hfree)
  split
  · split
    · exact taken
    · -- presence before and after is no concern of the tables
      have hbefore : n.Stays (n.onServer fun s => (s.whowasRecord c (n.server.client c).nick).watchOffline
          c (n.server.client c).nick) :=
        Stays.of_keys (.of_links ((n.server.sameLinks_whowasRecord c _).trans
          (Server.sameLinks_watchOffline _ c _)) (by
            unfold Server.watchOffline Server.whowasRecord
            dsimp only
            split_ifs <;> rfl))
      have hc' := hc
      rw [← hbefore.keys.clients] at hc'
      refine (hbefore.chain.tail (.nick hc' (by simpa using hvalid) fun r hr => hfree r ?_)).tail
        (.stay ((Stays.refl _).onServer (f := fun s =>
          ((s.broadcastNickChange c (n.server.client c).nick).watchOnline c).pmstats 802
            [(':' :: (n.server.client c).nick ++ ' ' :: wanted : Text)]) ?_))
      · rwa [Server.findNick, hbefore.keys.clientsByNick] at hr
      · exact (((SameKeys.refl _).deliver _).trans (.of_links (Server.sameLinks_watchOnline _ c)
          (Server.channel_watchOnline _ c))).deliver _
  · exact (taken.tail (.stay (stays_nospoofStart _ c))).tail (.stay (stays_maybeRegister (by
      rw [(stays_nospoofStart _ c).keys.clients]
      exact hc)))

/-- WEBIRC, before a client that it refuses goes. -/
theorem chain_webirc (hE : ∀ x, n.connectionLimitIpExempt x = E x) (hc : c ∈ n.server.clients)
    (params : Option Text) : TableChain E P n (n.webirc c params).1 ∧
      (n.webirc c params).1.server.clients = n.server.clients := by
  have refused : ∀ (m : Network) categories notice error, m.Stays (m.webircRefused c categories notice error).1 :=
    fun m _ _ _ => .of_keys (((SameKeys.refl m.server).deliver _).deliver _)
  have refuses : ∀ categories notice error,
      TableChain E P n (n.webircRefused c categories notice error).1 ∧
        (n.webircRefused c categories notice error).1.server.clients = n.server.clients :=
    fun _ _ _ => ⟨(refused n ..).chain, (refused n ..).keys.clients⟩
  unfold webirc
  dsimp only
  split
  · exact refuses ..
  split
  · exact refuses ..
  split
  · exact refuses ..
  split
  · exact refuses ..
  unfold webircAccepted
  dsimp only
  split
  · exact refuses ..
  rename_i ip hip
  split
  · exact refuses ..
  rename_i hlimit
  split
  · exact refuses ..
  rename_i n₁ hnew
  split
  · refine ⟨(ReflTransGen.single (.reassign hc hnew)).tail (.stay (refused n₁ ..)), ?_⟩
    rw [(refused n₁ ..).keys.clients, (reassignClientId_eq hnew).2]
    rfl
  rename_i n₂ hmove
  have hdone : ∀ gateway, (n₂.becomeEndUser c ip).Stays
      ((n₂.becomeEndUser c ip).onServer (·.noteEndUser c (n.server.client c).realIp gateway)) :=
    fun _ => .of_keys (((SameKeys.refl _).deliver _).trans (sameKeys_requestWebsite _ c))
  refine ⟨(ReflTransGen.single (.endUser hc hE hip (by simpa using hlimit) hnew hmove)).tail
    (.stay (hdone _)), ?_⟩
  obtain ⟨-, rfl⟩ := reassignClientId_eq hnew
  obtain ⟨t, rfl⟩ := connectionCountMove_eq hmove
  exact (hdone _).keys.clients

theorem chain_commandWebirc (hE : ∀ x, n.connectionLimitIpExempt x = E x) (hc : c ∈ n.server.clients)
    (params : Option Text) : TableChain E P n (n.commandWebirc c params) := by
  obtain ⟨hchain, hclients⟩ := chain_webirc (P := P) hE hc params
  unfold commandWebirc
  dsimp only
  split
  · exact hchain.trans (chain_disconnect (by rw [hclients]; exact hc) _)
  · exact hchain

theorem chain_accept (hE : ∀ x, n.connectionLimitIpExempt x = E x) {peer : Option Text}
    (hP : ∀ ip, peer = some ip → P ip) (tls nonblocking sslNew : Bool) :
    TableChain E P n (n.accept peer tls nonblocking sslNew) := by
  have rejected : ∀ (m : Network) categories text, m.Stays (m.onServer fun s => s.snotice categories text) :=
    fun m _ _ => Stays.of_keys (.deliver (.refl _) _)
  unfold accept
  split
  · exact (rejected n ..).chain
  rename_i ip
  dsimp only
  split
  · exact (rejected n ..).chain
  split
  · exact (rejected n ..).chain
  rename_i hlimit
  split
  · exact (rejected n ..).chain
  rename_i hid
  split
  · exact (rejected n ..).chain
  split
  · exact (ReflTransGen.single (.create ip tls hid)).tail (.stay (rejected _ ..))
  · exact .single (.enter tls hid hE (hP ip rfl) (by simpa using hlimit))

/-- **Every step is a chain of acts.** -/
theorem chain_step (h : n.Indexed) (hE : ∀ x, n.connectionLimitIpExempt x = E x) {e : NetworkEvent}
    (hP : ∀ ip tls nonblocking sslNew, e = .accept (some ip) tls nonblocking sslNew → P ip) :
    TableChain E P n (n.step e) := by
  unfold step
  split
  swap
  · exact .refl
  rename_i hactor
  have hlive : ∀ c, e.actor = some c → c ∈ n.server.clients := by
    intro c hc
    rw [hc] at hactor
    exact List.contains_iff_mem.mp (by simpa using hactor)
  cases e with
  | clock now =>
    exact Stays.chain (.of_keys ⟨rfl, rfl, rfl, rfl, rfl, fun _ => rfl, fun _ => rfl, fun _ => rfl,
      fun _ h => h, rfl⟩)
  | bans b =>
    exact Stays.chain ⟨.refl _, rfl, rfl, rfl, rfl, fun _ h => .inl h, fun _ h => .inl h, fun _ h => h⟩
  | accept peer tls nonblocking sslNew =>
    exact chain_accept hE (fun ip hip => hP ip tls nonblocking sslNew (by rw [hip])) _ _ _
  | tlsEstablished c => exact (n.stays_tlsEstablished c).chain
  | nick c params => exact chain_nick (hlive c rfl) params
  | user c params => exact (stays_user (hlive c rfl) params).chain
  | pass c params => exact (stays_pass (hlive c rfl) params).chain
  | cap c params => exact (stays_cap (hlive c rfl) params).chain
  | pong c params => exact (stays_pong (hlive c rfl) params).chain
  | webirc c params => exact chain_commandWebirc hE (hlive c rfl) params
  | nickserv c params =>
    exact .single (.settle (.service (Server.chain_commandNickserv n.server c params)))
  | identify c params =>
    exact .single (.settle (.service (Server.chain_commandIdentify n.server c params)))
  | watch c params => exact Stays.chain (.of_keys (sameKeys_commandWatch _ c params))
  | pmstats c params => exact Stays.chain (.of_keys (sameKeys_commandPmstats _ c params))
  | other c e =>
    refine Stays.chain (.of_keys (((SameKeys.refl n.server).updClient c (e.keeps _).id (e.keeps _).nick
      (e.keeps _).realIp fun hcaps => ?_).deliver _))
    unfold Client.LabeledIsBatched
    rw [(e.keeps _).capabilities]
    exact hcaps
  | dnsResult request host =>
    show TableChain E P n (if _ then _ else n)
    split
    · exact (stays_handleDnsResult h _ _).chain
    · exact .refl
  | dnsblResult request listing =>
    show TableChain E P n (if _ then _ else n)
    split
    · exact (stays_handleDnsblResult h _ _).chain
    · exact .refl
  | expire c => exact chain_expire (hlive c rfl)
  | disconnect c reason => exact chain_disconnect (hlive c rfl) reason

/-- Channels change only where connections end. -/
theorem channel_of_act (hact : TableAct E P n n') :
    n'.server.channel = n.server.channel ∨ n.server.Ends n'.server := by
  cases hact with
  | stay hstays => exact .inl hstays.keys.channel
  | settle hends =>
    rw [(n.server_settle _).1]
    exact .inr hends
  | enter tls hid hE hP hlimit =>
    rcases enterTables_cases (n.clientCreate _ tls) n.server.nextClient _ tls with
      ⟨-, hstays⟩ | ⟨counts, -, hstays⟩ <;> exact .inl hstays.keys.channel
  | reassign hc hnew =>
    obtain ⟨-, rfl⟩ := reassignClientId_eq hnew
    exact .inl rfl
  | endUser hc hE hip hlimit hnew hmove =>
    obtain ⟨-, rfl⟩ := reassignClientId_eq hnew
    obtain ⟨t, rfl⟩ := connectionCountMove_eq hmove
    rename_i c _ ip
    exact .inl (stays_submitDns
      (n := readdressed { n.underNextId c with connectionCounts := t } c ip) hc).keys.channel
  | _ => exact .inl rfl

end Chains

/-! ## 2. Ids -/

/-- Whoever is connected later has the id of then, or one that was not yet given out; nobody was
    invited. -/
structure Later (n n' : Network) : Prop where
  nextClientId : n.server.nextClientId ≤ n'.server.nextClientId
  id : ∀ c ∈ n'.server.clients,
    (c ∈ n.server.clients ∧ (n'.server.client c).id = (n.server.client c).id) ∨
      n.server.nextClientId ≤ (n'.server.client c).id
  invites : n.server.KeepsInvites n'.server

namespace Later

theorem refl (n : Network) : n.Later n := ⟨le_rfl, fun _ hc => .inl ⟨hc, rfl⟩, .refl _⟩

theorem trans {a b c : Network} (h₁ : a.Later b) (h₂ : b.Later c) : a.Later c := by
  refine ⟨h₁.nextClientId.trans h₂.nextClientId, fun r hr => ?_, h₁.invites.trans h₂.invites⟩
  rcases h₂.id r hr with ⟨hr, heq⟩ | hnew
  · rw [heq]
    exact h₁.id r hr
  · exact .inr (h₁.nextClientId.trans hnew)

theorem of_thins (hclients : ∀ c ∈ n'.server.clients, c ∈ n.server.clients)
    (hnext : n'.server.nextClientId = n.server.nextClientId)
    (hid : ∀ c, (n'.server.client c).id = (n.server.client c).id)
    (hinvites : n.server.KeepsInvites n'.server) : n.Later n' :=
  ⟨hnext.ge, fun c hc => .inl ⟨hclients c hc, hid c⟩, hinvites⟩

theorem of_stays (h : n.Stays n') : n.Later n' :=
  of_thins (fun _ hc => h.keys.clients ▸ hc) h.keys.nextClientId h.keys.id h.keys.invites

theorem settle {s' : Server} (h : n.server.Thins s') : n.Later (n.settle s') := by
  obtain ⟨t, u, heq, -⟩ := foldl_forget_eq (n.server.clients.filter fun c => !_) { n with server := s' }
  rw [Network.settle, heq]
  exact of_thins h.clients h.nextClientId h.id h.invites

theorem clientCreate (h : n.Indexed) (ip : Text) (tls : Bool) : n.Later (n.clientCreate ip tls) := by
  refine ⟨Nat.le_succ _, fun c hc => .inl ⟨hc, ?_⟩, .refl _⟩
  rw [client_clientCreate n ip tls (h.server.fresh c hc).ne]

/-- The new connection has the next id. -/
theorem enterTables (h : n.Indexed) (ip : Text) (tls : Bool) :
    n.Later ((n.clientCreate ip tls).enterTables n.server.nextClient ip tls) := by
  rcases enterTables_cases (n.clientCreate ip tls) n.server.nextClient ip tls with
    ⟨-, hstays⟩ | ⟨counts, -, hstays⟩
  · have hout : n.Later ((n.clientCreate ip tls).unentered n.server.nextClient) :=
      ⟨Nat.le_succ _, (clientCreate h ip tls).id, .refl _⟩
    exact hout.trans (.of_stays hstays)
  · refine trans (b := (n.clientCreate ip tls).entered n.server.nextClient counts)
      ⟨Nat.le_succ _, fun c hc => ?_, .refl n.server⟩ (.of_stays hstays)
    rcases List.mem_append.mp hc with hold | hnew
    · exact (clientCreate h ip tls).id c hold
    · rw [List.mem_singleton.mp hnew]
      refine .inr (le_of_eq ?_)
      exact congrArg Client.id (n.client_clientCreate_self ip tls).symm

theorem underNextId (n : Network) (c : ClientRef) : n.Later (n.underNextId c) := by
  refine ⟨Nat.le_succ _, fun r hr => ?_, .refl _⟩
  rw [client_underNextId]
  by_cases heq : r = c
  · rw [heq, Server.updClient_self]
    exact .inr le_rfl
  · rw [Server.updClient_of_ne _ _ _ _ heq]
    exact .inl ⟨hr, rfl⟩

theorem becomeEndUser {c : ClientRef} (hc : c ∈ n.server.clients) (ip : Text) :
    n.Later (n.becomeEndUser c ip) := by
  have hid : ∀ r, ((n.readdressed c ip).server.client r).id = (n.server.client r).id := by
    intro r
    rw [client_readdressed]
    by_cases hr : r = c
    · rw [hr, Server.updClient_self]
      rfl
    · rw [Server.updClient_of_ne _ _ _ _ hr]
  have hmoved : n.Later (n.readdressed c ip) := of_thins (fun _ hc => hc) rfl hid (.refl _)
  exact hmoved.trans (.of_stays (stays_submitDns hc))

theorem of_act {E : Text → Bool} {P : Text → Prop} (h : n.Indexed) (hact : TableAct E P n n') :
    n.Later n' := by
  cases hact with
  | stay hstays => exact .of_stays hstays
  | nick hc hvalid hfree =>
    have ht := n.server.thins_takeNick
    exact of_thins (fun _ hc => hc) rfl (ht _ _).id (ht _ _).invites
  | settle hends => exact .settle (h.server.ends hends).2
  | create ip tls hid => exact .clientCreate h ip tls
  | enter tls hid hE hP hlimit => exact .enterTables h _ tls
  | reassign hc hnew =>
    obtain ⟨-, rfl⟩ := reassignClientId_eq hnew
    exact .underNextId n _
  | endUser hc hE hip hlimit hnew hmove =>
    obtain ⟨-, rfl⟩ := reassignClientId_eq hnew
    obtain ⟨t, rfl⟩ := connectionCountMove_eq hmove
    rename_i c _ ip
    have hnext : n.Later { n.underNextId c with connectionCounts := t } :=
      ⟨(underNextId n c).nextClientId, (underNextId n c).id, (underNextId n c).invites⟩
    exact hnext.trans (becomeEndUser (n := { n.underNextId c with connectionCounts := t }) hc ip)

end Later

theorem Indexed.step (h : n.Indexed) (e : NetworkEvent) : (n.step e).Indexed ∧ n.Later (n.step e) := by
  have hchain := chain_step (P := fun _ => True) h (fun _ => rfl) (e := e) fun _ _ _ _ _ => trivial
  refine Runs.steps_invariant (P := fun m => m.Indexed ∧ n.Later m) (fun a b hab hact => ?_)
    ⟨h, .refl n⟩ hchain
  exact ⟨hab.1.of_act hact, hab.2.trans (.of_act hab.1 hact)⟩

theorem Indexed.exec (h : n.Indexed) (es : List NetworkEvent) :
    (Runs.exec Network.step n es).Indexed ∧ n.Later (Runs.exec Network.step n es) := by
  induction es generalizing n with
  | nil => exact ⟨h, .refl n⟩
  | cons e es ih =>
    obtain ⟨hstep, hlater⟩ := h.step e
    exact ⟨(ih hstep).1, hlater.trans (ih hstep).2⟩

theorem indexed_initial (server : ServerConfig) (ext : External) (storage : Storage)
    (config : ConnectionConfig) (platform : Platform) (bans : BanTables) :
    (initial server ext storage config platform bans).Indexed := by
  refine ⟨⟨List.nodup_nil, fun c hc => absurd hc List.not_mem_nil, fun m c => ?_⟩, fun key c => ?_,
    fun c hc => absurd hc List.not_mem_nil⟩
  · refine ⟨fun hget => ?_, fun hc => absurd hc.1 List.not_mem_nil⟩
    exact absurd (hget.symm.trans (ChainedTable.get_empty ..)) (Option.some_ne_none c)
  · refine ⟨fun hget => ?_, fun hc => absurd hc.1 List.not_mem_nil⟩
    exact absurd (hget.symm.trans (ChainedTable.get_empty ..)) (Option.some_ne_none c)

/-- **The indexes hold exactly the live clients.** In every state of every run, `clients_by_id` and
    `clients_by_nick` have the ids and the non-empty nicknames of the clients in `clients[]`, no two
    of which have equal nicknames. An id stands for one connection, and only for as long as the
    connection has it: if it is there at two moments then the same client has it, and had it at
    every moment between. -/
theorem clientIndexes_exact (server : ServerConfig) (ext : External) (storage : Storage)
    (config : ConnectionConfig) (platform : Platform) (bans : BanTables)
    (es₁ es₂ es₃ : List NetworkEvent) :
    let n₁ := Runs.exec step (initial server ext storage config platform bans) es₁
    let n₂ := Runs.exec step n₁ es₂
    let n₃ := Runs.exec step n₂ es₃
    n₁.server.clients.Nodup ∧
    (∀ key c, n₁.clientsById.get key = some c ↔
      c ∈ n₁.server.clients ∧ key = clientIdKey (n₁.server.client c).id) ∧
    (∀ nick c, n₁.server.clientsByNick.get nick = some c ↔
      c ∈ n₁.server.clients ∧ (n₁.server.client c).nick ≠ [] ∧
        nameEq (n₁.server.client c).nick nick = true) ∧
    (∀ c ∈ n₁.server.clients, ∀ c' ∈ n₁.server.clients, (n₁.server.client c).nick ≠ [] →
      nameEq (n₁.server.client c).nick (n₁.server.client c').nick = true → c = c') ∧
    ∀ c ∈ n₁.server.clients, ∀ c' ∈ n₃.server.clients,
      (n₃.server.client c').id = (n₁.server.client c).id →
        c' = c ∧ c ∈ n₂.server.clients ∧ (n₂.server.client c).id = (n₁.server.client c).id := by
  intro n₁ n₂ n₃
  have h₁ := ((indexed_initial server ext storage config platform bans).exec es₁).1
  obtain ⟨h₂, hlater₁⟩ := h₁.exec es₂
  have hlater₂ := (h₂.exec es₃).2
  refine ⟨h₁.server.nodup, h₁.id, h₁.server.nick, fun c hc c' hc' => h₁.server.nick_unique hc hc',
    fun c hc c' hc' heq => ?_⟩
  have hold := h₁.id_lt c hc
  -- an id that was given out by `n₁` is not a new one in `n₂` or `n₃`
  rcases (hlater₁.trans hlater₂).id c' hc' with ⟨hc₁, hid⟩ | hnew
  swap
  · exact absurd (heq ▸ hnew) (not_le.mpr hold)
  obtain rfl : c' = c := h₁.id_unique hc₁ hc (hid.symm.trans heq)
  rcases hlater₂.id c' hc' with ⟨hc₂, hid₂⟩ | hnew
  · exact ⟨rfl, hc₂, hid₂.symm.trans heq⟩
  · exact absurd (hlater₁.nextClientId.trans (heq ▸ hnew)) (not_le.mpr hold)

end Network

end ScratchIrcd
