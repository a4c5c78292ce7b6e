/-
  File:      ScratchIrcd/Connections.lean
  Subject:   What can happen to the tables of connections, and `clients_by_id`.

  `TableAct` lists what a step can do to the tables: nothing, another nickname, another id, a
  connection made or let in, an end user in place of a gateway, and what is left when a command
  ended connections. `Indexed` says that `clients_by_id` holds the live clients under their ids;
  every act keeps it.
-/
import ScratchIrcd.NickTable

namespace ScratchIrcd

open CText Relation

variable {c : ClientRef} {s' : Server}

/-! ## 1. What leaves the tables alone -/

/-- What is known of the place of a connection is what the GeoIP data say of its address. -/
def Connection.Located (platform : Platform) (ip : Text) (k : Connection) : Prop :=
  k.geoipComplete = true → k.geoip = platform.geoipLookup ip

namespace Network

variable {n n' : Network}

theorem updConn_self (n : Network) (c : ClientRef) (f : Connection → Connection) :
    (n.updConn c f).conn c = f (n.conn c) := Function.update_self ..

theorem updConn_of_ne (n : Network) (f : Connection → Connection) {r : ClientRef} (h : r ≠ c) :
    (n.updConn c f).conn r = n.conn r := Function.update_of_ne h ..

/-- Connections and tables are as they were; what was asked of the resolvers since then was asked
    for clients as they are, and so was the GeoIP lookup. -/
structure Stays (n n' : Network) : Prop where
  keys : n.server.SameKeys n'.server
  config : n'.config = n.config
  platform : n'.platform = n.platform
  clientsById : n'.clientsById = n.clientsById
  connectionCounts : n'.connectionCounts = n.connectionCounts
  dns : ∀ r ∈ n'.dnsRequests, r ∈ n.dnsRequests ∨ ∃ c ∈ n.server.clients,
    r = ⟨(n.server.client c).id, (n.server.client c).realIp⟩
  dnsbl : ∀ r ∈ n'.dnsblRequests, r ∈ n.dnsblRequests ∨ ∃ c ∈ n.server.clients,
    r = ⟨(n.server.client c).id, (n.server.client c).realIp⟩
  located : ∀ c, (n.conn c).Located n.platform (n.server.client c).realIp →
    (n'.conn c).Located n.platform (n.server.client c).realIp

namespace Stays

theorem refl (n : Network) : n.Stays n :=
  ⟨.refl _, rfl, rfl, rfl, rfl, fun _ h => .inl h, fun _ h => .inl h, fun _ h => h⟩

theorem trans {a b c : Network} (h₁ : a.Stays b) (h₂ : b.Stays c) : a.Stays c where
  keys := h₁.keys.trans h₂.keys
  config := h₂.config.trans h₁.config
  platform := h₂.platform.trans h₁.platform
  clientsById := h₂.clientsById.trans h₁.clientsById
  connectionCounts := h₂.connectionCounts.trans h₁.connectionCounts
  dns r hr := by
    rcases h₂.dns r hr with hr | ⟨x, hx, rfl⟩
    · exact h₁.dns r hr
    · rw [h₁.keys.clients] at hx
      exact .inr ⟨x, hx, by rw [h₁.keys.id, h₁.keys.realIp]⟩
  dnsbl r hr := by
    rcases h₂.dnsbl r hr with hr | ⟨x, hx, rfl⟩
    · exact h₁.dnsbl r hr
    · rw [h₁.keys.clients] at hx
      exact .inr ⟨x, hx, by rw [h₁.keys.id, h₁.keys.realIp]⟩
  located r hr := by
    have hnext := h₂.located r
    rw [h₁.platform, h₁.keys.realIp] at hnext
    exact hnext (h₁.located r hr)

theorem of_keys (h : n.server.SameKeys s') : n.Stays { n with server := s' } :=
  ⟨h, rfl, rfl, rfl, rfl, fun _ h => .inl h, fun _ h => .inl h, fun _ h => h⟩

theorem onServer (h : n.Stays n') {f : Server → Server} (hf : n'.server.SameKeys (f n'.server)) :
    n.Stays (n'.onServer f) := h.trans (of_keys hf)

/-- A record changes apart from the keys it is under. -/
theorem edit (h : n.Stays n') (c : ClientRef) {f : Client → Client}
    (hf : ∀ cl, (f cl).id = cl.id ∧ (f cl).nick = cl.nick ∧ (f cl).realIp = cl.realIp ∧
      (cl.LabeledIsBatched → (f cl).LabeledIsBatched)) :
    n.Stays (n'.onServer fun s => s.updClient c f) :=
  h.onServer ((Server.SameKeys.refl _).updClient c (hf _).1 (hf _).2.1 (hf _).2.2.1 (hf _).2.2.2)

theorem updConn (h : n.Stays n') (c : ClientRef) {f : Connection → Connection}
    (hf : ∀ ip, (n'.conn c).Located n'.platform ip → (f (n'.conn c)).Located n'.platform ip) :
    n.Stays (n'.updConn c f) := by
  refine h.trans ⟨.refl _, rfl, rfl, rfl, rfl, fun _ h => .inl h, fun _ h => .inl h, fun r hr => ?_⟩
  by_cases heq : r = c
  · subst heq
    rw [updConn_self]
    exact hf _ hr
  · rw [updConn_of_ne _ _ heq]
    exact hr

end Stays

section Registration

open Server (SameKeys sameKeys_completeRegistration sameLinks_watchOnline sameLinks_watchOffline
  sameLinks_whowasRecord)

theorem sameKeys_rejectRegistration (s : Server) (c : ClientRef) (reason : Text) :
    s.SameKeys (s.rejectRegistration c reason) :=
  ((SameKeys.refl s).deliver _).updClient c rfl rfl rfl id

theorem stays_lookupGeoip (n : Network) (c : ClientRef) : n.Stays (n.lookupGeoip c) := by
  unfold lookupGeoip
  split
  · exact .refl n
  · refine ⟨.refl _, rfl, rfl, rfl, rfl, fun _ h => .inl h, fun _ h => .inl h, fun r hr => ?_⟩
    by_cases heq : r = c
    · subst heq
      rw [updConn_self]
      exact fun _ => rfl
    · rw [updConn_of_ne _ _ heq]
      exact hr

theorem stays_registrationGeoBanned (n : Network) (c : ClientRef) :
    n.Stays (n.registrationGeoBanned c) := by
  unfold registrationGeoBanned
  dsimp only
  split
  · exact .refl n
  · split
    · exact .of_keys (.deliver (.refl _) _)
    · exact .of_keys
        (((SameKeys.refl _).deliver _).trans (sameKeys_rejectRegistration _ c _))

theorem stays_startDnsbl (hc : c ∈ n.server.clients) : n.Stays (n.startDnsbl c) := by
  unfold startDnsbl
  dsimp only
  split
  · exact .refl n
  split
  · exact .of_keys ((SameKeys.refl _).updClient c rfl rfl rfl id)
  split
  · have hsubmitted : ∀ requests, (∀ r ∈ requests, r ∈ n.dnsblRequests ∨
          ∃ c ∈ n.server.clients, r = ⟨(n.server.client c).id, (n.server.client c).realIp⟩) →
        n.Stays { n with submitted := n.submitted + 1, dnsblRequests := requests } := fun _ h =>
      ⟨.refl _, rfl, rfl, rfl, rfl, fun _ h => .inl h, h, fun _ h => h⟩
    refine Stays.updConn (Stays.onServer (hsubmitted _ fun r hr => ?_)
      ((SameKeys.refl _).updClient c rfl rfl rfl id)) c fun _ h => h
    rcases List.mem_cons.mp hr with rfl | hr
    · exact .inr ⟨c, hc, rfl⟩
    · exact .inl hr
  · have hsubmitted : n.Stays { n with submitted := n.submitted + 1 } :=
      ⟨.refl _, rfl, rfl, rfl, rfl, fun _ h => .inl h, fun _ h => .inl h, fun _ h => h⟩
    exact (hsubmitted.onServer ((SameKeys.refl _).updClient c rfl rfl rfl id)).onServer
      (.deliver (.refl _) _)

theorem stays_noteExempt (n : Network) (c : ClientRef) (family : String)
    (verdict : Option (BanRecord × Bool)) : n.Stays (n.noteExempt c family verdict) := by
  unfold noteExempt
  split
  · exact .of_keys (.deliver (.refl _) _)
  · exact .refl n

theorem stays_refuseBanned (n : Network) (c : ClientRef) (family : String)
    (verdict : Option (BanRecord × Bool)) : n.Stays (n.refuseBanned c family verdict) := by
  unfold refuseBanned
  split
  · exact .of_keys
      (((SameKeys.refl _).deliver _).trans (sameKeys_rejectRegistration _ c _))
  · exact .refl n

theorem stays_finishRegistration (n : Network) (c : ClientRef) :
    n.Stays (n.finishRegistration c) := by
  unfold finishRegistration
  dsimp only
  split
  · exact .of_keys
      (((SameKeys.refl _).deliver _).trans (sameKeys_rejectRegistration _ c _))
  split
  · exact n.stays_refuseBanned c _ _
  have hpassed := n.stays_noteExempt c "ZLINE" (n.zlineVerdict c)
  split
  · exact hpassed.trans (stays_refuseBanned _ c _ _)
  · exact (hpassed.trans (stays_noteExempt _ c _ _)).onServer (sameKeys_completeRegistration _ c)

theorem stays_maybeRegister (hc : c ∈ n.server.clients) : n.Stays (n.maybeRegister c) := by
  unfold maybeRegister
  dsimp only
  split
  · exact .refl n
  have hjudged := (n.stays_lookupGeoip c).trans (stays_registrationGeoBanned _ c)
  split
  · exact hjudged
  have hasked := hjudged.trans (stays_startDnsbl (c := c) (by rw [hjudged.keys.clients]; exact hc))
  split
  · exact hasked
  · exact hasked.trans (stays_finishRegistration _ c)

end Registration

/-! ## 2. Acts on the tables -/

open Server (Thins)

/-- What a step can do to the tables. `E` are the addresses exempt from the limit when a connection
    comes in, `P` is what is known of the text `getnameinfo` writes. -/
inductive TableAct (E : Text → Bool) (P : Text → Prop) (n : Network) : Network → Prop
  | stay {n' : Network} (h : n.Stays n') : TableAct E P n n'
  | nick {c : ClientRef} {nick : Text} (hc : c ∈ n.server.clients)
      (hvalid : validNickname nick = true)
      (hfree : ∀ r, n.server.findNick nick = some r → r = c) :
      TableAct E P n (n.onServer (·.takeNick c nick))
  /-- A command ended connections. -/
  | settle {s' : Server} (h : n.server.Ends s') : TableAct E P n (n.settle s')
  | create (ip : Text) (tls : Bool) (hid : n.server.nextClientId ≠ 2 ^ 64) :
      TableAct E P n (n.clientCreate ip tls)
  | enter {ip : Text} (tls : Bool) (hid : n.server.nextClientId ≠ 2 ^ 64)
      (hE : ∀ x, n.connectionLimitIpExempt x = E x) (hP : P ip)
      (hlimit : n.connectionLimitReached ip none = false) :
      TableAct E P n ((n.clientCreate ip tls).enterTables n.server.nextClient ip tls)
  | reassign {c : ClientRef} {n' : Network} (hc : c ∈ n.server.clients)
      (h : n.reassignClientId c = some n') : TableAct E P n n'
  /-- WEBIRC. -/
  | endUser {c : ClientRef} {supplied ip : Text} {n₁ n₂ : Network} (hc : c ∈ n.server.clients)
      (hE : ∀ x, n.connectionLimitIpExempt x = E x) (hip : n.canonicalNumericIp supplied = some ip)
      (hlimit : n.connectionLimitReached ip (some c) = false)
      (hnew : n.reassignClientId c = some n₁)
      (hmove : n₁.connectionCountMove (n.server.client c).realIp ip = some n₂) :
      TableAct E P n (n₂.becomeEndUser c ip)

abbrev TableChain (E : Text → Bool) (P : Text → Prop) : Network → Network → Prop :=
  ReflTransGen (TableAct E P)

/-! ## 3. The table of ids -/

theorem nameEq_clientIdKey {id : Nat} {key : Text} :
    nameEq (clientIdKey id) key = true ↔ key = clientIdKey id := by
  refine ⟨fun h => ?_, fun h => h ▸ nameEq_refl _⟩
  have hlow : ∀ x ∈ clientIdKey id, x.toNat < 65 := by
    intro x hx
    have hdigit := Nat.isDigit_of_mem_toDigits (by decide) (by decide) hx
    rw [Char.isDigit, Bool.and_eq_true] at hdigit
    have hle : x.toNat ≤ '9'.toNat := of_decide_eq_true hdigit.2
    exact lt_of_le_of_lt hle (by decide)
  exact (eq_of_nameEq_low hlow h).symm

/-- `clients_by_id` holds the live clients under their ids, none of which is still to come. -/
structure Indexed (n : Network) : Prop where
  server : n.server.Indexed
  id : ∀ key c, n.clientsById.get key = some c ↔
    c ∈ n.server.clients ∧ key = clientIdKey (n.server.client c).id
  id_lt : ∀ c ∈ n.server.clients, (n.server.client c).id < n.server.nextClientId

namespace Indexed

theorem id_unique (h : n.Indexed) {c' : ClientRef} (hc : c ∈ n.server.clients)
    (hc' : c' ∈ n.server.clients) (heq : (n.server.client c).id = (n.server.client c').id) :
    c = c' := by
  have hget := (h.id (clientIdKey (n.server.client c').id) c).mpr ⟨hc, by rw [heq]⟩
  exact Option.some.inj (hget.symm.trans ((h.id _ c').mpr ⟨hc', rfl⟩))

/-- No client has an id that was not given out. -/
theorem get_next (h : n.Indexed) : n.clientsById.get (clientIdKey n.server.nextClientId) = none := by
  rw [Option.eq_none_iff_forall_ne_some]
  intro c hget
  obtain ⟨hc, hkey⟩ := (h.id _ c).mp hget
  exact absurd (decimal_injective hkey) (h.id_lt _ hc).ne'

/-- Nothing the tables depend on changed. -/
theorem congr (h : n.Indexed) (hs : n'.server.Indexed) (hclients : n'.server.clients = n.server.clients)
    (hnext : n'.server.nextClientId = n.server.nextClientId)
    (hid : ∀ c ∈ n.server.clients, (n'.server.client c).id = (n.server.client c).id)
    (htable : n'.clientsById = n.clientsById) : n'.Indexed where
  server := hs
  id key c := by
    rw [htable, h.id, hclients]
    exact and_congr_right fun hc => by rw [hid c hc]
  id_lt c hc := by
    rw [hclients] at hc
    rw [hid c hc, hnext]
    exact h.id_lt c hc

theorem of_stays (h : n.Indexed) (hstays : n.Stays n') : n'.Indexed :=
  h.congr (h.server.of_keys hstays.keys) hstays.keys.clients hstays.keys.nextClientId
    (fun c _ => hstays.keys.id c) hstays.clientsById

end Indexed

/-! ### Forgetting connections -/

theorem connectionCountRemove_eq (n : Network) (ip : Text) :
    ∃ t, n.connectionCountRemove ip = { n with connectionCounts := t } := by
  unfold connectionCountRemove
  split <;> exact ⟨_, rfl⟩

theorem forget_eq (n : Network) (c : ClientRef) : ∃ t, n.forget c = { n with
    clientsById := n.clientsById.remove (clientIdKey (n.server.client c).id)
    connectionCounts := t } := by
  obtain ⟨t, ht⟩ := connectionCountRemove_eq
    { n with clientsById := n.clientsById.remove (clientIdKey (n.server.client c).id) }
    (n.server.client c).realIp
  exact ⟨t, ht⟩

theorem foldl_forget_eq (cs : List ClientRef) (n : Network) :
    ∃ t u, cs.foldl forget n = { n with clientsById := t, connectionCounts := u } ∧
      ∀ key c, t.get key = some c ↔ n.clientsById.get key = some c ∧
        ∀ r ∈ cs, key ≠ clientIdKey (n.server.client r).id := by
  induction cs generalizing n with
  | nil =>
    exact ⟨_, _, rfl, fun _ _ => ⟨fun h => ⟨h, fun _ hr => absurd hr List.not_mem_nil⟩, And.left⟩⟩
  | cons c cs ih =>
    obtain ⟨u₀, hforget⟩ := n.forget_eq c
    obtain ⟨t, u, hfold, hget⟩ := ih (n.forget c)
    rw [hforget] at hfold hget
    refine ⟨t, u, ?_, fun key r => ?_⟩
    · rw [List.foldl_cons, hforget]
      exact hfold
    · rw [hget, ChainedTable.get_remove]
      dsimp only
      rw [ircKeys_eqv, List.forall_mem_cons]
      by_cases hkey : key = clientIdKey (n.server.client c).id
      · rw [if_pos (nameEq_clientIdKey.mpr hkey)]
        exact ⟨fun h => absurd h.1 (Option.some_ne_none r).symm, fun h => absurd hkey h.2.1⟩
      · rw [if_neg fun h => hkey (nameEq_clientIdKey.mp h)]
        tauto

theorem mem_gone :
    c ∈ n.server.clients.filter (fun c => !s'.clients.contains c) ↔
      c ∈ n.server.clients ∧ c ∉ s'.clients := by
  rw [List.mem_filter, Bool.not_eq_true', ← Bool.not_eq_true, List.contains_iff_mem]

theorem Indexed.settle (h : n.Indexed) (ht : n.server.Thins s') (hi : s'.Indexed) :
    (n.settle s').Indexed := by
  obtain ⟨t, u, heq, hget⟩ := foldl_forget_eq
    (n.server.clients.filter fun c => !s'.clients.contains c) { n with server := s' }
  unfold Network.settle
  rw [heq]
  refine ⟨hi, fun key c => ?_, fun c hc => ?_⟩
  · rw [hget, h.id, ht.id]
    constructor
    · rintro ⟨⟨hc, hkey⟩, hgone⟩
      refine ⟨?_, hkey⟩
      by_contra hout
      exact hgone c (mem_gone.mpr ⟨hc, hout⟩) (by rw [hkey, ht.id])
    · rintro ⟨hc, hkey⟩
      refine ⟨⟨ht.clients c hc, hkey⟩, fun r hr heq => ?_⟩
      obtain ⟨hr, hout⟩ := mem_gone.mp hr
      have hids : (n.server.client r).id = (n.server.client c).id := by
        rw [← ht.id r]
        exact decimal_injective (heq.symm.trans hkey)
      exact hout (h.id_unique hr (ht.clients c hc) hids ▸ hc)
  · rw [ht.id, ht.nextClientId]
    exact h.id_lt c (ht.clients c hc)

/-! ### New connections and new ids -/

theorem client_clientCreate (n : Network) (ip : Text) (tls : Bool) (hc : c ≠ n.server.nextClient) :
    (n.clientCreate ip tls).server.client c = n.server.client c :=
  Function.update_of_ne hc ..

theorem client_clientCreate_self (n : Network) (ip : Text) (tls : Bool) :
    (n.clientCreate ip tls).server.client n.server.nextClient =
      { id := n.server.nextClientId, signonTime := n.server.now, lastActivity := n.server.now
        realIp := bounded ircIpMax ip, displayHost := bounded ircHostMax (bounded ircIpMax ip) } :=
  Function.update_self ..

theorem Indexed.clientCreate (h : n.Indexed) (ip : Text) (tls : Bool) :
    (n.clientCreate ip tls).Indexed := by
  have hold : ∀ c ∈ n.server.clients, (n.clientCreate ip tls).server.client c = n.server.client c :=
    fun c hc => n.client_clientCreate ip tls (h.server.fresh c hc).ne
  refine ⟨⟨h.server.nodup, fun c hc => (h.server.fresh c hc).trans (Nat.lt_succ_self _),
    fun m c => ?_⟩, fun key c => ?_, fun c hc => ?_⟩
  · refine (h.server.nick m c).trans (and_congr_right fun hc => ?_)
    rw [hold c hc]
  · refine (h.id key c).trans (and_congr_right fun hc => ?_)
    rw [hold c hc]
  · rw [hold c hc]
    exact (h.id_lt c hc).trans (Nat.lt_succ_self _)

/-- A client is put into the tables, with the counters as `connection_count_add` leaves them. -/
def entered (n : Network) (c : ClientRef) (counts : HashTable Nat) : Network :=
  { n with
    clientsById := n.clientsById.set (clientIdKey (n.server.client c).id) c
    connectionCounts := counts
    server := { n.server with clients := n.server.clients ++ [c] } }

/-- A client that cannot be counted is taken out again. -/
def unentered (n : Network) (c : ClientRef) : Network :=
  let key := clientIdKey (n.server.client c).id
  { n with clientsById := (n.clientsById.set key c).remove key }

open Server (SameKeys) in
theorem stays_submitDns (hc : c ∈ n.server.clients) : n.Stays (n.submitDns c) := by
  have hasked : n.Stays { n with
      submitted := n.submitted + 1
      dnsRequests := if n.platform.submits n.submitted then
        ⟨(n.server.client c).id, (n.server.client c).realIp⟩ :: n.dnsRequests else n.dnsRequests } := by
    refine ⟨.refl _, rfl, rfl, rfl, rfl, fun r hr => ?_, fun _ h => .inl h, fun _ h => h⟩
    dsimp only at hr
    split at hr
    · rcases List.mem_cons.mp hr with rfl | hr
      · exact .inr ⟨c, hc, rfl⟩
      · exact .inl hr
    · exact .inl hr
  unfold submitDns
  dsimp only
  refine hasked.onServer ?_
  exact (SameKeys.refl n.server).updClient c rfl rfl rfl id

theorem stays_plainNotice (n : Network) (c : ClientRef) (tls : Bool) (text : String) :
    n.Stays (n.plainNotice c tls text) := by
  unfold plainNotice
  split
  · exact .refl n
  · exact .of_keys (.deliver (.refl _) _)

theorem stays_startLookup (hc : c ∈ n.server.clients) (tls : Bool) :
    n.Stays (n.startLookup c tls) := by
  have hbegun : n.Stays ((n.onServer (·.noteAccepted c tls)).updConn c fun k =>
      { k with dnsDeadline := n.server.now + n.config.dnsTimeoutSeconds }) :=
    (Stays.of_keys (.deliver (.refl _) _)).updConn c fun _ h => h
  have hasking := hbegun.trans (stays_plainNotice _ c tls "*** Looking up your hostname")
  have hasked := hasking.trans (stays_submitDns (c := c) (by rw [hasking.keys.clients]; exact hc))
  unfold startLookup
  dsimp only
  split
  · have hnoted := hasked.onServer (f := (·.noteUnasked c)) ((Server.SameKeys.refl _).deliver _)
    exact hnoted.trans (stays_plainNotice ..)
  · exact hasked

/-- Letting a connection in: it cannot be counted, or the tables have it and the rest is talk. -/
theorem enterTables_cases (n : Network) (c : ClientRef) (ip : Text) (tls : Bool) :
    (n.connectionCountAdd (n.server.client c).realIp = none ∧
      (n.unentered c).Stays (n.enterTables c ip tls)) ∨
    ∃ counts, n.connectionCountAdd (n.server.client c).realIp =
        some { n with connectionCounts := counts } ∧
      (n.entered c counts).Stays (n.enterTables c ip tls) := by
  have hcount : ({ n with clientsById := n.clientsById.set (clientIdKey (n.server.client c).id) c } :
      Network).connectionCountAdd (n.server.client c).realIp =
      (n.connectionCountAdd (n.server.client c).realIp).map fun m =>
        { m with clientsById := n.clientsById.set (clientIdKey (n.server.client c).id) c } := by
    unfold connectionCountAdd canonicalNumericIp
    dsimp only
    cases canonicalIp n.server.ext n.platform (n.server.client c).realIp with
    | none => rfl
    | some key => cases h : countAdd n.connectionCounts key <;> simp [h]
  unfold enterTables
  dsimp only
  rw [hcount]
  cases hadd : n.connectionCountAdd (n.server.client c).realIp with
  | none => exact .inl ⟨rfl, (Stays.refl (n.unentered c)).onServer (.deliver (.refl _) _)⟩
  | some m =>
    obtain ⟨key, -, hm⟩ := Option.bind_eq_some_iff.mp hadd
    obtain ⟨counts, -, rfl⟩ := Option.map_eq_some_iff.mp hm
    exact .inr ⟨counts, rfl, stays_startLookup (n := n.entered c counts)
      (List.mem_append_right _ List.mem_cons_self) tls⟩

theorem Indexed.unentered (h : n.Indexed)
    (hfree : n.clientsById.get (clientIdKey (n.server.client c).id) = none) :
    (n.unentered c).Indexed := by
  refine ⟨h.server, fun key r => ?_, h.id_lt⟩
  refine Iff.trans ?_ (h.id key r)
  show (ChainedTable.remove _ _).get key = some r ↔ _
  rw [ChainedTable.get_remove, ChainedTable.get_set, ircKeys_eqv]
  split
  · rename_i heq
    rw [← ChainedTable.get_congr n.clientsById heq, hfree]
  · exact Iff.rfl

theorem Indexed.entered (h : n.Indexed) (hout : c ∉ n.server.clients)
    (hlt : c < n.server.nextClient) (hid : (n.server.client c).id < n.server.nextClientId)
    (hnick : (n.server.client c).nick = [])
    (hfree : n.clientsById.get (clientIdKey (n.server.client c).id) = none)
    (counts : HashTable Nat) : (n.entered c counts).Indexed := by
  have hmem : ∀ r, r ∈ (n.entered c counts).server.clients ↔ r ∈ n.server.clients ∨ r = c := by
    intro r
    show r ∈ n.server.clients ++ [c] ↔ _
    rw [List.mem_append, List.mem_singleton]
  refine ⟨⟨?_, fun r hr => ?_, fun m r => ?_⟩, fun key r => ?_, fun r hr => ?_⟩
  · exact h.server.nodup.append (List.nodup_singleton c) (List.disjoint_singleton.mpr hout)
  · rcases (hmem r).mp hr with hr | rfl
    · exact h.server.fresh r hr
    · exact hlt
  · rw [hmem]
    refine (h.server.nick m r).trans ⟨fun hr => ⟨.inl hr.1, hr.2⟩, fun hr => ⟨?_, hr.2⟩⟩
    rcases hr.1 with hr' | rfl
    · exact hr'
    · exact absurd hnick hr.2.1
  · rw [hmem]
    show (ChainedTable.set _ _ _).get key = some r ↔ _ ∧ key = clientIdKey (n.server.client r).id
    rw [ChainedTable.get_set, ircKeys_eqv]
    split
    · rename_i heq
      obtain rfl := nameEq_clientIdKey.mp heq
      refine ⟨fun hr => ?_, fun hr => ?_⟩
      · cases hr
        exact ⟨.inr rfl, rfl⟩
      · rcases hr with ⟨hr | rfl, hkey⟩
        · exact absurd ((h.id _ r).mpr ⟨hr, hkey⟩) (by rw [hfree]; exact (Option.some_ne_none r).symm)
        · rfl
    · rename_i hne
      refine (h.id key r).trans ⟨fun hr => ⟨.inl hr.1, hr.2⟩, ?_⟩
      rintro ⟨hr | rfl, hkey⟩
      · exact ⟨hr, hkey⟩
      · exact absurd (nameEq_clientIdKey.mpr hkey) hne
  · rcases (hmem r).mp hr with hr | rfl
    · exact h.id_lt r hr
    · exact hid

/-- The tables on the way to a new connection. -/
theorem Indexed.entering (h : n.Indexed) (ip : Text) (tls : Bool) :
    ((n.clientCreate ip tls).unentered n.server.nextClient).Indexed ∧
      ∀ counts, ((n.clientCreate ip tls).entered n.server.nextClient counts).Indexed := by
  have hcreated := h.clientCreate ip tls
  have hnew := n.client_clientCreate_self ip tls
  have hfree : (n.clientCreate ip tls).clientsById.get
      (clientIdKey ((n.clientCreate ip tls).server.client n.server.nextClient).id) = none := by
    rw [hnew]
    exact h.get_next
  refine ⟨hcreated.unentered hfree, hcreated.entered
    (fun hmem => lt_irrefl _ (h.server.fresh _ hmem)) (Nat.lt_succ_self _) ?_ ?_ hfree⟩
  · rw [hnew]
    exact Nat.lt_succ_self _
  · rw [hnew]

theorem Indexed.enterTables (h : n.Indexed) (ip : Text) (tls : Bool) :
    ((n.clientCreate ip tls).enterTables n.server.nextClient ip tls).Indexed := by
  rcases enterTables_cases (n.clientCreate ip tls) n.server.nextClient ip tls with
    ⟨-, hstays⟩ | ⟨counts, -, hstays⟩
  · exact (h.entering ip tls).1.of_stays hstays
  · exact ((h.entering ip tls).2 counts).of_stays hstays

theorem reassignClientId_eq (h : n.reassignClientId c = some n') :
    n.server.nextClientId ≠ 2 ^ 64 ∧ n' = n.underNextId c := by
  unfold reassignClientId at h
  split at h
  · cases h
  · rename_i hid
    exact ⟨hid, (Option.some.inj h).symm⟩

theorem client_underNextId (n : Network) (c : ClientRef) :
    (n.underNextId c).server.client = (n.server.updClient c fun cl =>
      { cl with id := n.server.nextClientId }).client := rfl

theorem Indexed.underNextId (h : n.Indexed) (hc : c ∈ n.server.clients) :
    (n.underNextId c).Indexed := by
  have hself : ((n.underNextId c).server.client c).id = n.server.nextClientId := by
    rw [client_underNextId, Server.updClient_self]
  have hother : ∀ r, r ≠ c → (n.underNextId c).server.client r = n.server.client r := by
    intro r hr
    rw [client_underNextId, Server.updClient_of_ne _ _ _ _ hr]
  have hnick : ∀ r, ((n.underNextId c).server.client r).nick = (n.server.client r).nick := by
    intro r
    by_cases hr : r = c
    · rw [hr, client_underNextId, Server.updClient_self]
    · rw [hother r hr]
  refine ⟨⟨h.server.nodup, h.server.fresh, fun m r => ?_⟩, fun key r => ?_, fun r hr => ?_⟩
  · rw [hnick]
    exact h.server.nick m r
  · show (ChainedTable.remove _ _).get key = some r ↔ r ∈ n.server.clients ∧ _
    rw [ChainedTable.get_remove, ChainedTable.get_set, ircKeys_eqv, ircKeys_eqv]
    by_cases hold : key = clientIdKey (n.server.client c).id
    · -- the old key is gone, and nobody else has that id
      rw [if_pos (nameEq_clientIdKey.mpr hold)]
      refine ⟨fun hr => absurd hr (Option.some_ne_none r).symm, fun ⟨hr, hkey⟩ => ?_⟩
      by_cases heq : r = c
      · rw [heq, hself] at hkey
        exact absurd (decimal_injective (hold.symm.trans hkey)) (h.id_lt _ hc).ne
      · rw [hother r heq] at hkey
        exact absurd (h.id_unique hr hc (decimal_injective (hkey.symm.trans hold))) heq
    · rw [if_neg fun heq => hold (nameEq_clientIdKey.mp heq)]
      by_cases hnew : key = clientIdKey n.server.nextClientId
      · rw [if_pos (nameEq_clientIdKey.mpr hnew)]
        refine ⟨fun hr => ?_, fun ⟨hr, hkey⟩ => ?_⟩
        · cases hr
          exact ⟨hc, by rw [hself]; exact hnew⟩
        · by_cases heq : r = c
          · rw [heq]
          · rw [hother r heq] at hkey
            exact absurd (decimal_injective (hkey.symm.trans hnew)) (h.id_lt _ hr).ne
      · rw [if_neg fun heq => hnew (nameEq_clientIdKey.mp heq)]
        refine (h.id key r).trans (and_congr_right fun hr => ?_)
        by_cases heq : r = c
        · rw [heq, hself]
          exact ⟨fun hkey => absurd hkey hold, fun hkey => absurd hkey hnew⟩
        · rw [hother r heq]
  · by_cases heq : r = c
    · rw [heq, hself]
      exact Nat.lt_succ_self _
    · rw [hother r heq]
      exact (h.id_lt r hr).trans (Nat.lt_succ_self _)

theorem connectionCountMove_eq {oldIp newIp : Text} (h : n.connectionCountMove oldIp newIp = some n') :
    ∃ t, n' = { n with connectionCounts := t } := by
  unfold connectionCountMove at h
  split at h
  · split at h
    · cases h
    · split_ifs at h
      · cases h
        exact ⟨_, rfl⟩
      · obtain ⟨m, hadd, rfl⟩ := Option.map_eq_some_iff.mp h
        obtain ⟨key, -, hm⟩ := Option.bind_eq_some_iff.mp hadd
        obtain ⟨counts, -, rfl⟩ := Option.map_eq_some_iff.mp hm
        obtain ⟨t, ht⟩ := connectionCountRemove_eq { n with connectionCounts := counts } _
        exact ⟨t, ht⟩
  · cases h

theorem client_readdressed (n : Network) (c : ClientRef) (ip : Text) :
    (n.readdressed c ip).server.client = (n.server.updClient c (·.asEndUser ip)).client := rfl

theorem Indexed.readdressed (h : n.Indexed) (c : ClientRef) (ip : Text) :
    (n.readdressed c ip).Indexed := by
  have hclient : ∀ r, ((n.readdressed c ip).server.client r).nick = (n.server.client r).nick ∧
      ((n.readdressed c ip).server.client r).id = (n.server.client r).id := by
    intro r
    rw [client_readdressed]
    by_cases hr : r = c
    · subst hr
      rw [Server.updClient_self]
      exact ⟨rfl, rfl⟩
    · rw [Server.updClient_of_ne _ _ _ _ hr]
      exact ⟨rfl, rfl⟩
  have hserver : (n.readdressed c ip).server.Indexed := by
    refine ⟨h.server.nodup, h.server.fresh, fun m r => ?_⟩
    rw [(hclient r).1]
    exact h.server.nick m r
  exact h.congr hserver rfl rfl (fun r _ => (hclient r).2) rfl

theorem Indexed.becomeEndUser (h : n.Indexed) (hc : c ∈ n.server.clients) (ip : Text) :
    (n.becomeEndUser c ip).Indexed :=
  (h.readdressed c ip).of_stays (stays_submitDns hc)

/-- **Every act keeps the tables.** -/
theorem Indexed.of_act {E : Text → Bool} {P : Text → Prop} (h : n.Indexed) (hact : TableAct E P n n') :
    n'.Indexed := by
  cases hact with
  | stay hstays => exact h.of_stays hstays
  | nick hc hvalid hfree =>
    rename_i c nick
    have hne : nick ≠ [] := by
      rintro rfl
      cases hvalid
    refine h.congr (h.server.takeNick hc hne hfree) rfl rfl (fun r _ => ?_) rfl
    exact (n.server.thins_takeNick c nick).id r
  | settle hends =>
    obtain ⟨hi, hthins⟩ := h.server.ends hends
    exact h.settle hthins hi
  | create ip tls hid => exact h.clientCreate ip tls
  | enter tls hid hE hP hlimit => exact h.enterTables _ tls
  | reassign hc hnew =>
    obtain ⟨-, rfl⟩ := reassignClientId_eq hnew
    exact h.underNextId hc
  | endUser hc hE hip hlimit hnew hmove =>
    obtain ⟨-, rfl⟩ := reassignClientId_eq hnew
    obtain ⟨t, rfl⟩ := connectionCountMove_eq hmove
    have hnext := h.underNextId hc
    exact Indexed.becomeEndUser (n := { n.underNextId _ with connectionCounts := t })
      ⟨hnext.server, hnext.id, hnext.id_lt⟩ hc _

end Network

end ScratchIrcd
