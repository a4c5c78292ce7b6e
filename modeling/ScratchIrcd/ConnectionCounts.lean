/-
  File:      ScratchIrcd/ConnectionCounts.lean
  Subject:   `connection_counts_by_ip` counts the live connections of each address.

  The table is read as a function from canonical addresses to numbers (`Tallied`), of which
  `connection_count_add` raises one value and `connection_count_remove` lowers one. Each act on
  the tables of connections moves the counter of an address by as much as it moves the number of
  clients there; a limit that was checked before the counter was raised holds after it.
-/
import ScratchIrcd.ClientIndex

namespace ScratchIrcd

open CText Relation

variable {c : ClientRef} {count : Nat} {ip key : Text}

/-! ## 1. Addresses -/

/-- What is assumed of `inet_pton` and `inet_ntop`: the text written for an address is read as that
    address, fits the buffer, and has only hexadecimal digits, dots and colons. -/
structure CanonicalAddresses (ext : External) (platform : Platform) : Prop where
  canonical : ∀ ip key, canonicalIp ext platform ip = some key → canonicalIp ext platform key = some key
  fits : ∀ ip key, canonicalIp ext platform ip = some key → key.length ≤ ircIpMax
  plain : ∀ ip key, canonicalIp ext platform ip = some key →
    ∀ x ∈ key, x ∈ "0123456789abcdef.:".toList

/-- A canonical address. -/
def IsAddress (ext : External) (platform : Platform) (key : Text) : Prop :=
  canonicalIp ext platform key = some key

/-- What is assumed of `getnameinfo`: the text of a peer, if it is an address, is the canonical
    one. -/
def NumericHost (ext : External) (platform : Platform) (ip : Text) : Prop :=
  ∀ key, canonicalIp ext platform (bounded ircIpMax ip) = some key → key = ip

namespace CanonicalAddresses

variable {ext : External} {platform : Platform}

/-- Folding does nothing to an address, so the table does not confuse two of them. -/
theorem eq_of_nameEq (h : CanonicalAddresses ext platform) {a b : Text}
    (ha : IsAddress ext platform a) (hb : IsAddress ext platform b) (heq : nameEq a b = true) :
    a = b := by
  have hfold : ∀ x ∈ "0123456789abcdef.:".toList, ircFold x = x :=
    forall_mem_of_all (by decide)
  have hplain : ∀ key, IsAddress ext platform key → key.map ircFold = key := fun key hkey =>
    (List.map_congr_left fun x hx => hfold x (h.plain key key hkey x hx)).trans (List.map_id key)
  rw [← hplain a ha, ← hplain b hb]
  exact foldEq_iff.mp heq

end CanonicalAddresses

/-! ## 2. A table of counters -/

/-- The record of a count; there is none of zero. -/
def stored (count : Nat) : Option Nat := if count = 0 then none else some count

theorem stored_eq_none : stored count = none ↔ count = 0 := by
  unfold stored
  split_ifs with h <;> simp [h]

theorem eq_of_stored {k : Nat} (h : stored count = some k) : count = k ∧ k ≠ 0 := by
  unfold stored at h
  split_ifs at h with hzero
  cases h
  exact ⟨rfl, hzero⟩

/-- The counters stored for the keys in `C` are the numbers `f`. -/
def Tallied (C : Text → Prop) (counts : HashTable Nat) (f : Text → Nat) : Prop :=
  ∀ key, C key → counts.get key = stored (f key)

namespace Tallied

variable {C : Text → Prop} {counts : HashTable Nat} {f g : Text → Nat}

theorem congr (h : Tallied C counts f) (hfg : ∀ key, C key → g key = f key) : Tallied C counts g := by
  intro key hkey
  rw [hfg key hkey]
  exact h key hkey

theorem getD (h : Tallied C counts f) (hkey : C key) : (counts.get key).getD 0 = f key := by
  rw [h key hkey, stored]
  split_ifs with hzero
  · exact hzero.symm
  · rfl

section Keys

variable (hC : ∀ a b, C a → C b → nameEq a b = true → a = b)

include hC

theorem add (h : Tallied C counts f) (hkey : C key) {counts' : HashTable Nat}
    (hadd : countAdd counts key = some counts') :
    Tallied C counts' fun k => f k + if key = k then 1 else 0 := by
  have hset : counts' = counts.set key (f key + 1) := by
    unfold countAdd at hadd
    rw [h key hkey] at hadd
    split at hadd
    · rename_i count hcount
      rw [(eq_of_stored hcount).1]
      split_ifs at hadd
      exact (Option.some.inj hadd).symm
    · rename_i hcount
      rw [stored_eq_none.mp hcount]
      exact (Option.some.inj hadd).symm
  intro k hk
  dsimp only
  rw [hset, ChainedTable.get_set, ircKeys_eqv]
  by_cases heq : key = k
  · subst heq
    rw [if_pos (nameEq_refl key), if_pos rfl]
    rfl
  · rw [if_neg fun hname => heq (hC _ _ hkey hk hname), if_neg heq]
    exact h k hk

theorem remove (h : Tallied C counts f) (hkey : C key) :
    Tallied C (countRemove counts key) fun k => f k - if key = k then 1 else 0 := by
  intro k hk
  dsimp only
  unfold countRemove
  by_cases heq : key = k
  · subst heq
    rw [if_pos rfl]
    split
    · rename_i hnone
      have hzero := stored_eq_none.mp ((h key hkey).symm.trans hnone)
      rw [hnone, hzero]
      rfl
    · rename_i count hcount
      obtain ⟨rfl, hne⟩ := eq_of_stored ((h key hkey).symm.trans hcount)
      split_ifs with hmany
      · rw [ChainedTable.get_set_self, stored, if_neg (by omega)]
      · rw [ChainedTable.get_remove_self, eq_comm, stored_eq_none]
        omega
  · have hother : ¬ nameEq key k = true := fun hname => heq (hC _ _ hkey hk hname)
    rw [if_neg heq, Nat.sub_zero, ← h k hk]
    split
    · rfl
    split_ifs
    · rw [ChainedTable.get_set, ircKeys_eqv, if_neg hother]
    · rw [ChainedTable.get_remove, ircKeys_eqv, if_neg hother]

end Keys

end Tallied

/-- Two conditions on the elements of a list that differ at one element only. -/
theorem countP_change {α : Type*} [DecidableEq α] {l : List α} (hl : l.Nodup) {a : α} (ha : a ∈ l)
    {p q : α → Bool} (hpq : ∀ b ∈ l, b ≠ a → q b = p b) :
    l.countP q + (if p a then 1 else 0) = l.countP p + (if q a then 1 else 0) := by
  have hperm := List.perm_cons_erase ha
  have hrest : (l.erase a).countP q = (l.erase a).countP p :=
    List.countP_congr fun b hb => by
      rw [hpq b (List.mem_of_mem_erase hb) fun heq => (hl.mem_erase_iff.mp hb).1 heq]
  rw [hperm.countP_eq q, hperm.countP_eq p, List.countP_cons, List.countP_cons, hrest]
  omega

/-! ## 3. The counters and the connections -/

namespace Network

variable {n n' : Network}

/-- The number of live clients at an address. -/
def connectionsFrom (n : Network) (key : Text) : Nat :=
  n.server.clients.countP fun c => n.canonicalNumericIp (n.server.client c).realIp = some key

section Counts

variable {ext : External} {platform : Platform} {config : ConnectionConfig} {E : Text → Bool}

/-- The counters are exact, and addresses that are not exempt keep to the limit. -/
structure Counted (ext : External) (platform : Platform) (config : ConnectionConfig)
    (E : Text → Bool) (n : Network) : Prop where
  sameExt : n.server.ext = ext
  samePlatform : n.platform = platform
  sameConfig : n.config = config
  tally : Tallied (IsAddress ext platform) n.connectionCounts n.connectionsFrom
  limit : ∀ key, IsAddress ext platform key → E key = false → config.maxConnectionsPerIp ≠ 0 →
    n.connectionsFrom key ≤ config.maxConnectionsPerIp

theorem connectionsFrom_congr (n n' : Network) (hclients : n'.server.clients = n.server.clients)
    (hext : n'.server.ext = n.server.ext) (hplatform : n'.platform = n.platform)
    (hip : ∀ c ∈ n.server.clients, (n'.server.client c).realIp = (n.server.client c).realIp)
    (key : Text) : n'.connectionsFrom key = n.connectionsFrom key := by
  unfold connectionsFrom canonicalNumericIp
  rw [hclients, hext, hplatform]
  exact List.countP_congr fun c hc => by rw [hip c hc]

namespace Counted

section

variable (h : Counted ext platform config E n)
include h

/-- Counters and clients are as they were. -/
theorem congr (hclients : n'.server.clients = n.server.clients)
    (hext : n'.server.ext = n.server.ext) (hplatform : n'.platform = n.platform)
    (hconfig : n'.config = n.config) (hcounts : n'.connectionCounts = n.connectionCounts)
    (hip : ∀ c ∈ n.server.clients, (n'.server.client c).realIp = (n.server.client c).realIp) :
    Counted ext platform config E n' := by
  have hfrom := connectionsFrom_congr n n' hclients hext hplatform hip
  refine ⟨hext.trans h.sameExt, hplatform.trans h.samePlatform, hconfig.trans h.sameConfig, ?_, ?_⟩
  · rw [hcounts]
    exact h.tally.congr fun key _ => hfrom key
  · intro key hkey hE hmax
    rw [hfrom]
    exact h.limit key hkey hE hmax

theorem of_stays (hstays : n.Stays n') :
    Counted ext platform config E n' :=
  h.congr hstays.keys.clients hstays.keys.ext hstays.platform hstays.config hstays.connectionCounts
    fun c _ => hstays.keys.realIp c

theorem canonicalNumericIp_eq (ip : Text) :
    n.canonicalNumericIp ip = canonicalIp ext platform ip := by
  rw [canonicalNumericIp, h.sameExt, h.samePlatform]

/-- Where the limit is not reached there is room for one more. -/
theorem lt_of_not_reached (hkey : IsAddress ext platform key)
    (hexempt : n.connectionLimitIpExempt key = false) (hmax : config.maxConnectionsPerIp ≠ 0)
    {exclude : Option ClientRef} (hreached : n.connectionLimitReached key exclude = false)
    (hexclude : ∀ c, exclude = some c → canonicalIp ext platform (n.server.client c).realIp ≠ some
      key) : n.connectionsFrom key < config.maxConnectionsPerIp := by
  have hcount : n.countedConnections key exclude = n.connectionsFrom key := by
    unfold countedConnections
    rw [h.canonicalNumericIp_eq, hkey]
    dsimp only
    cases exclude with
    | none => exact h.tally.getD hkey
    | some c =>
      have hdiffers : n.sameAddress (n.server.client c).realIp key = false := by
        unfold sameAddress
        rw [h.canonicalNumericIp_eq, h.canonicalNumericIp_eq, hkey]
        cases hip : canonicalIp ext platform (n.server.client c).realIp with
        | none => rfl
        | some other =>
          have hne : other ≠ key := fun heq => hexclude c rfl (by rw [hip, heq])
          simpa using hne
      dsimp only
      rw [hdiffers]
      exact h.tally.getD hkey
  have hfull : key.isEmpty = false := by
    cases key with
    | nil => cases hkey
    | cons => rfl
  unfold connectionLimitReached at hreached
  rw [hfull, hexempt, h.sameConfig, hcount] at hreached
  simpa [hmax] using hreached

end

end Counted

/-! ### Connections that end -/

theorem tallied_foldl_forget (hinet : CanonicalAddresses ext platform) (cs : List ClientRef)
    (hext : n.server.ext = ext) (hplatform : n.platform = platform) {f : Text → Nat}
    (h : Tallied (IsAddress ext platform) n.connectionCounts f) :
    Tallied (IsAddress ext platform) (cs.foldl forget n).connectionCounts fun key =>
      f key - cs.countP fun c => canonicalIp ext platform (n.server.client c).realIp = some key := by
  induction cs generalizing n f with
  | nil => exact h
  | cons c cs ih =>
    have hone : Tallied (IsAddress ext platform) (n.forget c).connectionCounts fun key =>
        f key - if canonicalIp ext platform (n.server.client c).realIp = some key then 1 else 0 := by
      unfold forget connectionCountRemove canonicalNumericIp
      dsimp only
      rw [hext, hplatform]
      cases hip : canonicalIp ext platform (n.server.client c).realIp with
      | none => exact h
      | some key =>
        refine (h.remove (fun _ _ => hinet.eq_of_nameEq) (hinet.canonical _ _ hip)).congr fun k _ => ?_
        simp only [Option.some.injEq]
    obtain ⟨t, ht⟩ := n.forget_eq c
    have hserver : (n.forget c).server = n.server := by rw [ht]
    have hrest := ih (n := n.forget c) (by rw [ht]; exact hext) (by rw [ht]; exact hplatform) hone
    rw [List.foldl_cons]
    refine hrest.congr fun key _ => ?_
    rw [hserver, List.countP_cons]
    simp only [decide_eq_true_eq]
    omega

theorem Counted.settle (h : Counted ext platform config E n) (hinet : CanonicalAddresses ext platform)
    (hi : n.Indexed) {s' : Server} (ht : n.server.Thins s') (hi' : s'.Indexed) :
    Counted ext platform config E (n.settle s') := by
  obtain ⟨t, u, heq, -⟩ := foldl_forget_eq
    (n.server.clients.filter fun c => !s'.clients.contains c) { n with server := s' }
  -- who was there is there still, or is forgotten
  have hfrom : ∀ key, n.connectionsFrom key = (n.settle s').connectionsFrom key +
      (n.server.clients.filter fun c => !s'.clients.contains c).countP fun c =>
        canonicalIp ext platform (s'.client c).realIp = some key := by
    intro key
    have hperm : (n.server.clients.filter fun c => s'.clients.contains c).Perm s'.clients := by
      refine (List.perm_ext_iff_of_nodup (hi.server.nodup.filter _) hi'.nodup).mpr fun c => ?_
      rw [List.mem_filter, List.contains_iff_mem]
      exact ⟨And.right, fun hc => ⟨ht.clients c hc, hc⟩⟩
    have hsettled : (n.settle s').connectionsFrom key =
        s'.clients.countP fun c => canonicalIp ext platform (s'.client c).realIp = some key := by
      unfold Network.settle connectionsFrom canonicalNumericIp
      rw [heq]
      dsimp only
      rw [ht.ext, h.sameExt, h.samePlatform]
    rw [hsettled, ← hperm.countP_eq, connectionsFrom]
    simp only [ht.realIp, h.canonicalNumericIp_eq]
    exact List.countP_eq_countP_filter_add ..
  have htally := tallied_foldl_forget (n := { n with server := s' }) hinet
    (n.server.clients.filter fun c => !s'.clients.contains c) (ht.ext.trans h.sameExt) h.samePlatform h.tally
  refine ⟨?_, ?_, ?_, htally.congr fun key _ => ?_, fun key hkey hE hmax => ?_⟩
  · rw [Network.settle, heq]
    exact ht.ext.trans h.sameExt
  · rw [Network.settle, heq]
    exact h.samePlatform
  · rw [Network.settle, heq]
    exact h.sameConfig
  · rw [hfrom key]
    exact (Nat.add_sub_cancel ..).symm
  · exact (Nat.le_add_right ..).trans ((hfrom key).ge.trans (h.limit key hkey hE hmax))

/-! ### New connections -/

theorem connectionsFrom_clientCreate (hi : n.Indexed) (ip : Text) (tls : Bool) (key : Text) :
    (n.clientCreate ip tls).connectionsFrom key = n.connectionsFrom key := by
  have hsame : ∀ c ∈ n.server.clients,
      ((n.clientCreate ip tls).server.client c).realIp = (n.server.client c).realIp := fun c hc => by
    rw [n.client_clientCreate ip tls (hi.server.fresh c hc).ne]
  exact connectionsFrom_congr n (n.clientCreate ip tls) rfl rfl rfl hsame key

theorem Counted.clientCreate (h : Counted ext platform config E n) (hi : n.Indexed) (ip : Text)
    (tls : Bool) : Counted ext platform config E (n.clientCreate ip tls) := by
  refine h.congr rfl rfl rfl rfl rfl fun c hc => ?_
  rw [n.client_clientCreate ip tls (hi.server.fresh c hc).ne]

theorem connectionsFrom_entered (n : Network) (c : ClientRef) (counts : HashTable Nat) (key : Text) :
    (n.entered c counts).connectionsFrom key = n.connectionsFrom key +
      if n.canonicalNumericIp (n.server.client c).realIp = some key then 1 else 0 := by
  refine (List.countP_append ..).trans (congrArg _ ?_)
  rw [List.countP_singleton]
  simp only [decide_eq_true_eq]
  rfl

theorem Counted.enterTables (h : Counted ext platform config E n)
    (hinet : CanonicalAddresses ext platform) (hi : n.Indexed) (tls : Bool)
    (hE : ∀ x, n.connectionLimitIpExempt x = E x) (hpeer : NumericHost ext platform ip)
    (hlimit : n.connectionLimitReached ip none = false) : Counted ext platform config E
      ((n.clientCreate ip tls).enterTables n.server.nextClient ip tls) := by
  have hcreated := h.clientCreate hi ip tls
  rcases enterTables_cases (n.clientCreate ip tls) n.server.nextClient ip tls with
    ⟨-, hstays⟩ | ⟨counts, hadd, hstays⟩
  · have hunentered : Counted ext platform config E
        ((n.clientCreate ip tls).unentered n.server.nextClient) :=
      hcreated.congr rfl rfl rfl rfl rfl fun _ _ => rfl
    exact hunentered.of_stays hstays
  refine Counted.of_stays ?_ hstays
  obtain ⟨key, hkey, hm⟩ := Option.bind_eq_some_iff.mp hadd
  obtain ⟨counts', hcounts, heq⟩ := Option.map_eq_some_iff.mp hm
  obtain rfl : counts' = counts := congrArg Network.connectionCounts heq
  have hkey' := hkey
  rw [n.client_clientCreate_self ip tls, hcreated.canonicalNumericIp_eq] at hkey'
  obtain rfl := hpeer key hkey'
  have haddress := hinet.canonical _ _ hkey'
  have hfrom : ∀ k, ((n.clientCreate key tls).entered n.server.nextClient counts').connectionsFrom k =
      n.connectionsFrom k + if key = k then 1 else 0 := by
    intro k
    rw [connectionsFrom_entered, connectionsFrom_clientCreate hi, hkey]
    simp only [Option.some.injEq]
  refine ⟨h.sameExt, h.samePlatform, h.sameConfig, ?_, fun k hk hfree hmax => ?_⟩
  · exact (h.tally.add (fun _ _ => hinet.eq_of_nameEq) haddress hcounts).congr fun k _ => hfrom k
  · rw [hfrom k]
    split_ifs with heq
    · subst heq
      exact h.lt_of_not_reached haddress (by rw [hE, hfree]) hmax hlimit fun _ hc => by cases hc
    · exact h.limit k hk hfree hmax

/-! ### End users -/

theorem realIp_underNextId (n : Network) (c r : ClientRef) :
    ((n.underNextId c).server.client r).realIp = (n.server.client r).realIp := by
  rw [client_underNextId]
  by_cases hr : r = c
  · rw [hr, Server.updClient_self]
  · rw [Server.updClient_of_ne _ _ _ _ hr]

theorem Counted.underNextId (h : Counted ext platform config E n) (c : ClientRef) :
    Counted ext platform config E (n.underNextId c) :=
  h.congr rfl rfl rfl rfl rfl fun r _ => n.realIp_underNextId c r

theorem connectionsFrom_underNextId (n : Network) (c : ClientRef) (key : Text) :
    (n.underNextId c).connectionsFrom key = n.connectionsFrom key :=
  connectionsFrom_congr n (n.underNextId c) rfl rfl rfl (fun r _ => n.realIp_underNextId c r) key

/-- A counter moves from one canonical address to another. -/
theorem connectionCountMove_cases {oldIp newIp : Text} (h : n.connectionCountMove oldIp newIp = some n') :
    ∃ oldKey newKey, n.canonicalNumericIp oldIp = some oldKey ∧
      n.canonicalNumericIp newIp = some newKey ∧
      (oldKey = newKey ∧ n' = n ∨ oldKey ≠ newKey ∧ ∃ key counts,
        n.canonicalNumericIp newKey = some key ∧ countAdd n.connectionCounts key = some counts ∧
        n' = { n with connectionCounts := counts }.connectionCountRemove oldKey) := by
  unfold connectionCountMove at h
  split at h
  swap
  · cases h
  rename_i oldKey newKey hold hnew
  refine ⟨oldKey, newKey, hold, hnew, ?_⟩
  split at h
  · cases h
  split_ifs at h with hzero heq
  · exact .inl ⟨heq, (Option.some.inj h).symm⟩
  · obtain ⟨m, hadd, rfl⟩ := Option.map_eq_some_iff.mp h
    obtain ⟨key, hkey, hm⟩ := Option.bind_eq_some_iff.mp hadd
    obtain ⟨counts, hcounts, rfl⟩ := Option.map_eq_some_iff.mp hm
    exact .inr ⟨heq, key, counts, hkey, hcounts, rfl⟩

theorem connectionsFrom_readdressed (hnodup : n.server.clients.Nodup) (hc : c ∈ n.server.clients)
    (ip key : Text) :
    (n.readdressed c ip).connectionsFrom key +
        (if n.canonicalNumericIp (n.server.client c).realIp = some key then 1 else 0) =
      n.connectionsFrom key +
        if n.canonicalNumericIp (bounded ircIpMax ip) = some key then 1 else 0 := by
  have hchange := countP_change hnodup hc
    (p := fun r => n.canonicalNumericIp (n.server.client r).realIp = some key)
    (q := fun r => n.canonicalNumericIp ((n.readdressed c ip).server.client r).realIp = some key)
    fun r _ hr => by rw [client_readdressed, Server.updClient_of_ne _ _ _ _ hr]
  rw [client_readdressed, Server.updClient_self] at hchange
  simp only [decide_eq_true_eq] at hchange
  exact hchange

/-- A counter and its client move together. -/
theorem Counted.endUser (h : Counted ext platform config E n)
    (hinet : CanonicalAddresses ext platform) (hi : n.Indexed) (hc : c ∈ n.server.clients)
    (hip : IsAddress ext platform ip) (hroom : canonicalIp ext platform (n.server.client c).realIp
      ≠ some ip → E ip = false → config.maxConnectionsPerIp ≠ 0 → n.connectionsFrom ip <
      config.maxConnectionsPerIp)
    (hmove : n.connectionCountMove (n.server.client c).realIp ip = some n') :
    Counted ext platform config E (n'.becomeEndUser c ip) := by
  obtain ⟨oldKey, newKey, hold, hnew, hmoved⟩ := connectionCountMove_cases hmove
  rw [h.canonicalNumericIp_eq] at hold hnew
  obtain rfl : ip = newKey := Option.some.inj (hip.symm.trans hnew)
  have hfits : bounded ircIpMax ip = ip := bounded_of_length_le (hinet.fits _ _ hip)
  obtain ⟨t, rfl⟩ := connectionCountMove_eq hmove
  -- the number of clients at each address
  have hfrom : ∀ key, (readdressed { n with connectionCounts := t } c ip).connectionsFrom key =
      n.connectionsFrom key + (if ip = key then 1 else 0) - if oldKey = key then 1 else 0 := by
    intro key
    have hcount := connectionsFrom_readdressed (n := { n with connectionCounts := t }) hi.server.nodup hc ip key
    have hcanonical : ∀ x, canonicalNumericIp { n with connectionCounts := t } x =
        canonicalIp ext platform x := h.canonicalNumericIp_eq
    simp only [hcanonical, hfits, hold, hnew, Option.some.injEq] at hcount
    have hsame : connectionsFrom { n with connectionCounts := t } key = n.connectionsFrom key := rfl
    omega
  have htally : Tallied (IsAddress ext platform) t fun key =>
      n.connectionsFrom key + (if ip = key then 1 else 0) - if oldKey = key then 1 else 0 := by
    rcases hmoved with ⟨rfl, heq⟩ | ⟨-, key, counts, hkey, hcounts, heq⟩
    · obtain rfl : t = n.connectionCounts := congrArg Network.connectionCounts heq
      exact h.tally.congr fun key _ => Nat.add_sub_cancel ..
    · rw [h.canonicalNumericIp_eq] at hkey
      obtain rfl : ip = key := Option.some.inj (hip.symm.trans hkey)
      have holdKey := hinet.canonical _ _ hold
      have hremove : ∀ x, canonicalNumericIp { n with connectionCounts := counts } x =
        canonicalIp ext platform x := h.canonicalNumericIp_eq
      rw [connectionCountRemove, hremove, holdKey] at heq
      obtain rfl : t = countRemove counts oldKey := congrArg Network.connectionCounts heq
      exact (h.tally.add (fun _ _ => hinet.eq_of_nameEq) hip hcounts).remove
        (fun _ _ => hinet.eq_of_nameEq) holdKey
  refine Counted.of_stays (n := readdressed { n with connectionCounts := t } c ip) ?_ (stays_submitDns hc)
  refine ⟨h.sameExt, h.samePlatform, h.sameConfig, htally.congr fun key _ => hfrom key,
    fun key hkey hfree hmax => ?_⟩
  rw [hfrom key]
  have hlimit := h.limit key hkey hfree hmax
  by_cases hto : ip = key
  · subst hto
    by_cases hsame : oldKey = ip
    · rw [if_pos rfl, if_pos hsame]
      exact hlimit
    · have hlt := hroom (by rw [hold]; simpa using hsame) hfree hmax
      rw [if_pos rfl, if_neg hsame]
      exact hlt
  · rw [if_neg hto]
    omega

/-! ## 4. Every run -/

theorem Counted.of_act (h : Counted ext platform config E n) (hinet : CanonicalAddresses ext platform)
    (hi : n.Indexed) (hact : TableAct E (NumericHost ext platform) n n') :
    Counted ext platform config E n' := by
  cases hact with
  | stay hstays => exact h.of_stays hstays
  | nick hc hvalid hfree =>
    exact h.congr rfl rfl rfl rfl rfl fun r _ => (n.server.thins_takeNick _ _).realIp r
  | settle hends =>
    obtain ⟨hi', hthins⟩ := hi.server.ends hends
    exact h.settle hinet hi hthins hi'
  | create ip tls hid => exact h.clientCreate hi ip tls
  | enter tls hid hE hP hlimit => exact h.enterTables hinet hi tls hE hP hlimit
  | reassign hc hnew =>
    obtain ⟨-, rfl⟩ := reassignClientId_eq hnew
    exact h.underNextId _
  | endUser hc hE hip hlimit hnew hmove =>
    rename_i c supplied ip n₁ n₂
    obtain ⟨-, rfl⟩ := reassignClientId_eq hnew
    have hunder := h.underNextId c
    have hrealIp := n.realIp_underNextId c c
    rw [h.canonicalNumericIp_eq] at hip
    have haddress := hinet.canonical _ _ hip
    rw [← hrealIp] at hmove
    refine hunder.endUser hinet (hi.underNextId hc) hc haddress (fun hother hfree hmax => ?_) hmove
    rw [hrealIp] at hother
    rw [connectionsFrom_underNextId]
    exact h.lt_of_not_reached haddress (by rw [hE, hfree]) hmax hlimit fun r hr => by
      cases hr
      exact hother

end Counts

/-- What a run is assumed to be like: peers have numeric addresses, and no step changes which
    addresses are exempt from the limit. -/
def SteadyExemptions (ext : External) (platform : Platform) (n : Network) (e : NetworkEvent) : Prop :=
  (∀ ip tls nonblocking sslNew, e = .accept (some ip) tls nonblocking sslNew →
    NumericHost ext platform ip) ∧
  ∀ ip, (n.step e).connectionLimitIpExempt ip = n.connectionLimitIpExempt ip

theorem counted_initial (server : ServerConfig) (ext : External) (storage : Storage)
    (config : ConnectionConfig) (platform : Platform) (bans : BanTables) (E : Text → Bool) :
    Counted ext platform config E (initial server ext storage config platform bans) :=
  ⟨rfl, rfl, rfl, fun _ _ => ChainedTable.get_empty .., fun _ _ _ _ => Nat.zero_le _⟩

/-- **The counters are exact.** In every state of every run, the counter stored for an address is
    the number of live clients there, and an address that is not exempt has at most
    `max_connections_per_ip` of them. -/
theorem connectionCounts_exact (server : ServerConfig) (ext : External) (storage : Storage)
    (config : ConnectionConfig) (platform : Platform) (bans : BanTables) (es : List NetworkEvent)
    (hinet : CanonicalAddresses ext platform)
    (hrun : Runs.Allowed step (SteadyExemptions ext platform)
      (initial server ext storage config platform bans) es) :
    let n₀ := initial server ext storage config platform bans
    let n := Runs.exec step n₀ es
    ∀ key, canonicalIp ext platform key = some key →
      n.connectionCounts.get key = stored (n.connectionsFrom key) ∧
      (n₀.connectionLimitIpExempt key = false → config.maxConnectionsPerIp ≠ 0 →
        n.connectionsFrom key ≤ config.maxConnectionsPerIp) := by
  intro n₀ n key hkey
  -- the exemptions of the start are those of every state
  have hinv : n.Indexed ∧ Counted ext platform config n₀.connectionLimitIpExempt n ∧
      ∀ ip, n.connectionLimitIpExempt ip = n₀.connectionLimitIpExempt ip := by
    refine Runs.exec_invariant (P := fun m => m.Indexed ∧
      Counted ext platform config n₀.connectionLimitIpExempt m ∧
        ∀ ip, m.connectionLimitIpExempt ip = n₀.connectionLimitIpExempt ip)
      (fun m e ⟨hi, hcounted, hexempt⟩ hsteady => ?_)
      ⟨indexed_initial .., counted_initial .., fun _ => rfl⟩ hrun
    have hchain := chain_step hi hexempt hsteady.1
    refine ⟨(hi.step e).1, ?_, fun ip => (hsteady.2 ip).trans (hexempt ip)⟩
    refine (Runs.steps_invariant (P := fun k => k.Indexed ∧
      Counted ext platform config n₀.connectionLimitIpExempt k) (fun a b hab hact => ?_)
      ⟨hi, hcounted⟩ hchain).2
    exact ⟨hab.1.of_act hact, hab.2.of_act hinet hab.1 hact⟩
  exact ⟨hinv.2.1.tally key hkey, fun hfree hmax => hinv.2.1.limit key hkey hfree hmax⟩

/-- Two addresses there are: a gateway's and a user's. -/
def twoAddresses : External :=
  { inetPton4 := fun ip => if ip = "127.0.0.1".toList then some ['g'] else
      if ip = "10.0.0.1".toList then some ['u'] else none }

def twoAddressPlatform : Platform :=
  { inetNtop4 := fun b => if b = ['u'] then "10.0.0.1".toList else "127.0.0.1".toList, inetNtop6 := fun _ => [] }

theorem canonicalIp_twoAddresses (h : canonicalIp twoAddresses twoAddressPlatform ip = some key) :
    key ∈ ["10.0.0.1".toList, "127.0.0.1".toList] := by
  unfold canonicalIp at h
  split_ifs at h
  split at h
  · rw [← Option.some.inj h, twoAddressPlatform]
    dsimp only
    split <;> decide
  · cases h

theorem canonicalAddresses_two : CanonicalAddresses twoAddresses twoAddressPlatform where
  canonical ip key h := (by decide : ∀ key ∈ ["10.0.0.1".toList, "127.0.0.1".toList],
    canonicalIp twoAddresses twoAddressPlatform key = some key) key (canonicalIp_twoAddresses h)
  fits ip key h := (by decide : ∀ key ∈ ["10.0.0.1".toList, "127.0.0.1".toList],
    key.length ≤ ircIpMax) key (canonicalIp_twoAddresses h)
  plain ip key h x hx := (by decide : ∀ key ∈ ["10.0.0.1".toList, "127.0.0.1".toList],
    key ⊆ "0123456789abcdef.:".toList) key (canonicalIp_twoAddresses h) hx

theorem connectionLimitIpExempt_congr {a b : Network} (hconfig : a.config = b.config) (hbans : a.bans = b.bans)
    (hplatform : a.platform = b.platform) (hext : a.server.ext = b.server.ext)
    (hnow : a.server.now = b.server.now) (ip : Text) :
    a.connectionLimitIpExempt ip = b.connectionLimitIpExempt ip := by
  unfold connectionLimitIpExempt sameAddress canonicalNumericIp
  rw [hconfig, hbans, hplatform, hext, hnow]

/-- Two connections from the gateway, of which the first is moved to its user's address. -/
def throughGateway : List NetworkEvent :=
  [.accept (some "127.0.0.1".toList) false true true, .accept (some "127.0.0.1".toList) false true true,
    .webirc 0 (some "pw web host 10.0.0.1".toList)]

theorem connectionCounts_gateway :
    let config : ConnectionConfig :=
      { maxConnectionsPerIp := 1, webircGateways := [⟨"127.0.0.1".toList, "pw".toList⟩] }
    let n₀ := initial {} twoAddresses {} config twoAddressPlatform {}
    let n := Runs.exec step n₀ throughGateway
    (n.connectionCounts.get "10.0.0.1".toList = some 1 ∧ n.connectionCounts.get "127.0.0.1".toList = some 1) ∧
    ∀ key, canonicalIp twoAddresses twoAddressPlatform key = some key →
      n.connectionCounts.get key = stored (n.connectionsFrom key) ∧
      (n₀.connectionLimitIpExempt key = false → 1 ≠ 0 → n.connectionsFrom key ≤ 1) := by
  refine ⟨by decide +kernel, connectionCounts_exact {} twoAddresses {}
    { maxConnectionsPerIp := 1, webircGateways := [⟨"127.0.0.1".toList, "pw".toList⟩] }
    twoAddressPlatform {} throughGateway canonicalAddresses_two ?_⟩
  have hpeer : NumericHost twoAddresses twoAddressPlatform "127.0.0.1".toList := by
    intro key hkey
    exact Option.some.inj (hkey.symm.trans (by decide))
  refine ⟨⟨?_, fun ip => rfl⟩, ⟨?_, fun ip => rfl⟩, ⟨nofun, connectionLimitIpExempt_congr rfl rfl rfl rfl rfl⟩,
    trivial⟩
  all_goals
    intro ip tls nonblocking sslNew he
    cases he
    exact hpeer

end Network

end ScratchIrcd
