/-
  File:      ScratchIrcd/BanSweep.lean
  Subject:   KLINE and ZLINE (src/commands/kline.c, zline.c): who is disconnected when a row is
             added.

  The sweep takes every active row of the family and, for each, walks over the clients; a client
  that goes leaves its place to the last one. Whether a client goes depends on its own user, host
  and address, which nobody else's end changes. So the order of the rows and of the clients does
  not matter, and the clients that go are those the check at registration would turn away.
-/
import ScratchIrcd.NickTable

namespace ScratchIrcd

open CText

variable {family : BanFamily} {order : List BanRecord → List BanRecord} {params : Option Text}
  {a b s : Server}

variable {r : BanRequest} {bans : BanTables} {c : ClientRef} {n : Network}

/-! ## 1. bans.db -/

/-- What a KLINE or ZLINE asks to add; `duration` is set for a nickname. -/
structure BanRequest where
  mask : Text
  reason : Text
  duration : Option Nat := none
  deriving DecidableEq, Repr

namespace BanTables

/-- `ban_db_add`, `ban_db_add_timed`, on a database that was opened. -/
def add (b : BanTables) (now : Nat) (type : BanType) (r : BanRequest) (setBy : Text) :
    Option BanTables :=
  if !b.readable || r.mask.isEmpty || !textFits ircChannelMaskMax r.mask ||
      !textFits ircQuitReasonMax r.reason || !textFits ircdOperNameMax setBy ||
      r.duration = some 0 then none
  else some (Network.addBan b
    { type := type, mask := r.mask, reason := r.reason, setBy := setBy,
      expiresAt := r.duration.elim 0 (now + ·) })

/-- `ban_db_delete`. -/
def delete (b : BanTables) (type : BanType) (mask : Text) : Option BanTables :=
  if !b.readable || mask.isEmpty || !textFits ircChannelMaskMax mask ||
      !(b.bans.any fun r => r.type = type && nocaseEq r.mask mask) then none
  else some { b with bans := b.bans.filter fun r => !(r.type = type && nocaseEq r.mask mask) }

/-- The rows `ban_db_list` visits. Their order is by creation date, which is not modelled. -/
def active (b : BanTables) (now : Nat) (type : BanType) : List BanRecord :=
  b.bans.filter fun r => r.type = type && stillActive now r.expiresAt

/-- `ban_exception_db_match`: the row that exempts. -/
def exceptionFind (b : BanTables) (ext : External) (now : Nat) (type : BanExceptionType)
    (identities : List Text) : Option BanExceptionRecord :=
  if !b.readable then none
  else b.exceptions.find? fun r =>
    r.type = type && stillActive now r.expiresAt && r.matches ext identities

theorem exceptionFind_isSome (b : BanTables) (ext : External) (now : Nat) (type : BanExceptionType)
    (identities : List Text) : (b.exceptionFind ext now type identities).isSome =
      b.exceptionMatch ext now type identities := by
  unfold exceptionFind exceptionMatch
  cases b.readable with
  | false => rfl
  | true => exact List.isSome_find?

end BanTables

/-! ## 2. The sweep -/

/-- Where `kline_disconnect_row` and `zline_disconnect_row` differ. -/
structure BanFamily where
  type : BanType
  exception : BanExceptionType
  name : String
  /-- What the row is matched against, and what the exemptions. -/
  identities : Client → List Text
  exempted : Client → List Text

def klineFamily : BanFamily where
  type := .kline
  exception := .kline
  name := "KLINE"
  identities := Client.klineIdentities
  exempted := Client.klineIdentities

/-- The sweep writes `*` for a user that is not known yet. -/
def zlineFamily : BanFamily where
  type := .zline
  exception := .zline
  name := "ZLINE"
  identities cl := [cl.realIp]
  exempted cl := [cl.realIp, (if cl.user.isEmpty then ['*'] else cl.user) ++ '@' :: cl.realIp]

/-- The identities of a family are made of user, host and address. -/
def BanFamily.Reads (family : BanFamily) : Prop :=
  ∀ a b : Client, a.user = b.user → a.realIp = b.realIp → a.realHost = b.realHost →
    family.identities a = family.identities b ∧ family.exempted a = family.exempted b

theorem klineFamily_reads : klineFamily.Reads := by
  intro a b huser hip hhost
  have hsame : a.klineIdentities = b.klineIdentities := by
    simp only [Client.klineIdentities, Client.ipIdentity, Client.hostIdentity, huser, hip, hhost]
  exact ⟨hsame, hsame⟩

theorem zlineFamily_reads : zlineFamily.Reads := by
  intro a b huser hip _
  simp only [zlineFamily, huser, hip, and_self]

/-- The client as the notices of the sweep name it. -/
def Client.swept (cl : Client) : Text :=
  cl.replyNick ++ " (".toList ++ cl.user ++ '@' :: cl.displayHost ++ ") [real_ip=".toList ++
    cl.realIp ++ [']']

namespace Network

/-- The body of the loop over the clients; `true` when the client went. -/
def sweepTurn (family : BanFamily) (setter : ClientRef) (r : BanRequest) (record : BanRecord)
    (n : Network) (target : ClientRef) : Network × Bool :=
  let cl := n.server.client target
  if target != setter && record.matches n.server.ext (family.identities cl) then
    match n.bans.exceptionFind n.server.ext n.server.now family.exception (family.exempted cl) with
    | some exception =>
        (n.onServer fun s => s.snotice {.bans} (family.name.toList ++
          " matched but ELINE exempted ".toList ++ cl.swept ++ " ban=".toList ++ r.mask ++
          " exception=".toList ++ exception.mask), false)
    | none =>
        let told := n.onServer fun s => (s.snotice {.bans} (family.name.toList ++
          " matched ".toList ++ cl.swept ++ " by ".toList ++ r.mask)).replyNumeric target 465
            [(":You are banned from this server.  Mail ".toList ++ s.config.adminEmail ++
              " for more information".toList : Text)]
        (told.disconnect target (if r.reason.isEmpty then record.reason else r.reason), true)
  else (n, false)

/-- The loop over `server->clients[]`: a client that goes leaves its place to the last one. -/
def sweepLoop (turn : Network → ClientRef → Network × Bool) : Nat → Nat → Network → Network
  | 0, _, n => n
  | fuel + 1, index, n =>
      match n.server.clients[index]? with
      | none => n
      | some c => sweepLoop turn fuel (if (turn n c).2 then index else index + 1) (turn n c).1

/-- `kline_disconnect_row`, `zline_disconnect_row`. Every turn moves on or drops a client. -/
def disconnectRow (family : BanFamily) (setter : ClientRef) (r : BanRequest) (n : Network)
    (record : BanRecord) : Network :=
  sweepLoop (sweepTurn family setter r record) n.server.clients.length 0 n

/-- `ban_db_list` with `kline_disconnect_row` or `zline_disconnect_row`. -/
def sweep (family : BanFamily) (setter : ClientRef) (r : BanRequest) (rows : List BanRecord)
    (n : Network) : Network := rows.foldl (disconnectRow family setter r) n

/-! ## 3. The commands -/

/-- Whom the row is set by. -/
def banSetter (n : Network) (c : ClientRef) : Text :=
  let cl := n.server.client c
  if cl.operName.isEmpty then cl.nick else cl.operName

/-- `:<server> NOTICE <nick> :<family> <text>` -/
def banNotice (n : Network) (family : BanFamily) (c : ClientRef) (text : Text) : Network :=
  n.onServer (·.serverNotice c (family.name.toList ++ ' ' :: text : Text))

/-- The two lines at the end of KLINE and ZLINE. -/
def banAdded (n : Network) (family : BanFamily) (c : ClientRef) (r : BanRequest) : Network :=
  let nick := (n.server.client c).nick
  match r.duration with
  | some seconds =>
      (n.banNotice family c ("added: ".toList ++ r.mask ++ " (".toList ++ decimal seconds ++
        "s, ".toList ++ r.reason ++ [')'])).onServer fun s => s.snotice {.bans}
          (nick ++ " added temporary ".toList ++ family.name.toList ++ ' ' :: r.mask ++
            " for ".toList ++ decimal seconds ++ "s (".toList ++ r.reason ++ [')'])
  | none =>
      (n.banNotice family c ("added: ".toList ++ r.mask)).onServer fun s => s.snotice {.bans}
        (nick ++ " added ".toList ++ family.name.toList ++ ' ' :: r.mask ++ " (".toList ++
          r.reason ++ [')'])

/-- KLINE and ZLINE once the mask is known: add, sweep, tell. -/
def banAdd (family : BanFamily) (order : List BanRecord → List BanRecord) (n : Network)
    (c : ClientRef) (r : BanRequest) : Network :=
  match n.bans.add n.server.now family.type r (n.banSetter c) with
  | none => n.banNotice family c "failed".toList
  | some bans =>
      (sweep family c r (order (bans.active n.server.now family.type))
        { n with bans := bans }).banAdded family c r

/-- KLINE and ZLINE with a leading `-`. -/
def banRemove (family : BanFamily) (n : Network) (c : ClientRef) (mask : Text) : Network :=
  match n.bans.delete family.type mask with
  | none => n.banNotice family c "removal failed".toList
  | some bans =>
      let n : Network := { n with bans := bans }
      (n.banNotice family c ("removed: ".toList ++ mask)).onServer fun s => s.snotice {.bans}
        ((s.client c).nick ++ " removed ".toList ++ family.name.toList ++ ' ' :: mask)

/-- Why nothing is added. -/
inductive BanRefusal where
  | noSuchNick | hostTooLong | invalidMask
  deriving DecidableEq, Repr

/-- What `command_kline` makes of its parameters: a nickname stands for its host. -/
def klineRequest (n : Network) (mask : Text) (reason : Option Text) :
    Except BanRefusal BanRequest :=
  if mask.contains '@' then
    let reason := dropColon (reason.getD [])
    .ok { mask := mask, reason := if reason.isEmpty then "K-lined".toList else reason }
  else match n.server.findNick mask with
    | none => .error .noSuchNick
    | some target =>
        let cl := n.server.client target
        let mask := "*@".toList ++ (if cl.realHost.isEmpty then cl.realIp else cl.realHost)
        if ircChannelMaskMax < mask.length then .error .hostTooLong
        else .ok { mask := mask, reason := n.config.klineDefaultReason
                   duration := some n.config.klineDefaultDurationSeconds }

/-- `valid_cidr_mask`. -/
def validCidrMask (ext : External) (mask : Text) : Bool :=
  let address := mask.takeWhile (· != '/')
  let rest := (mask.dropWhile (· != '/')).tail
  !address.isEmpty && !rest.contains '/' && decide (address.length ≤ ircIpMax) &&
    (parseUint rest).any fun bits =>
      if (ext.inetPton4 address).isSome then decide (bits ≤ 32)
      else (ext.inetPton6 address).isSome && decide (bits ≤ 128)

/-- What `command_zline` makes of its parameters: a nickname stands for its address. -/
def zlineRequest (n : Network) (mask : Text) (reason : Option Text) :
    Except BanRefusal BanRequest :=
  if mask.any fun x => x == '.' || x == ':' || x == '*' || x == '?' then
    if ircChannelMaskMax < mask.length || (mask.contains '/' && !validCidrMask n.server.ext mask) then
      .error .invalidMask
    else
      let reason := dropColon (reason.getD [])
      .ok { mask := mask, reason := if reason.isEmpty then "Z-lined".toList else reason }
  else match n.server.findNick mask with
    | none => .error .noSuchNick
    | some target =>
        .ok { mask := bounded ircIpMax (n.server.client target).realIp
              reason := n.config.zlineDefaultReason
              duration := some n.config.zlineDefaultDurationSeconds }

/-- The reply to a mask nothing is added for. -/
def banRefused (n : Network) (family : BanFamily) (c : ClientRef) (mask : Text) :
    BanRefusal → Network
  | .noSuchNick => n.onServer (·.numeric c 401 [mask, lit ":No such nick/channel"])
  | .hostTooLong => n.banNotice family c "failed: resolved host is too long for a ban mask".toList
  | .invalidMask => n.onServer (·.serverNotice c ("Invalid ".toList ++ family.name.toList ++
      " mask: ".toList ++ mask : Text))

/-- `command_kline`. -/
def kline (order : List BanRecord → List BanRecord) (n : Network) (c : ClientRef)
    (params : Option Text) : Network :=
  let permissions := (n.server.client c).operPermissions
  if !(n.server.client c).registered then n.onServer (·.notRegistered c)
  else match params.bind strtokSpace with
    | none => n.onServer (·.needMoreParams c "KLINE")
    | some ('-' :: mask, _) =>
        if OperPermission.unkline ∉ permissions then n.onServer (·.noPrivileges c)
        else banRemove klineFamily n c mask
    | some (mask, rest) =>
        if OperPermission.kline ∉ permissions then n.onServer (·.noPrivileges c)
        else match n.klineRequest mask (strtokRest rest) with
          | .error e => n.banRefused klineFamily c mask e
          | .ok r => banAdd klineFamily order n c r

/-- `command_zline`. -/
def zline (order : List BanRecord → List BanRecord) (n : Network) (c : ClientRef)
    (params : Option Text) : Network :=
  if !(n.server.client c).registered then n.onServer (·.notRegistered c)
  else if OperPermission.zline ∉ (n.server.client c).operPermissions then
    n.onServer (·.noPrivileges c)
  else match params.bind strtokSpace with
    | none => n.onServer (·.needMoreParams c "ZLINE")
    | some ('-' :: mask, _) => banRemove zlineFamily n c mask
    | some (mask, rest) =>
        match n.zlineRequest mask (strtokRest rest) with
        | .error e => n.banRefused zlineFamily c mask e
        | .ok r => banAdd zlineFamily order n c r

end Network

/-! ## 4. What a sweep reads

The user, host and address of every client, the clock and the tables: they survive the end of any
connection. -/

/-- Every client has the identities it had. -/
structure Server.SameIdentities (s s' : Server) : Prop where
  ext : s'.ext = s.ext
  now : s'.now = s.now
  user : ∀ c, (s'.client c).user = (s.client c).user
  realIp : ∀ c, (s'.client c).realIp = (s.client c).realIp
  realHost : ∀ c, (s'.client c).realHost = (s.client c).realHost

namespace Server

theorem SameIdentities.refl (s : Server) : s.SameIdentities s :=
  ⟨rfl, rfl, fun _ => rfl, fun _ => rfl, fun _ => rfl⟩

theorem SameIdentities.trans {c : Server} (h₁ : a.SameIdentities b) (h₂ : b.SameIdentities c) :
    a.SameIdentities c where
  ext := h₂.ext.trans h₁.ext
  now := h₂.now.trans h₁.now
  user x := (h₂.user x).trans (h₁.user x)
  realIp x := (h₂.realIp x).trans (h₁.realIp x)
  realHost x := (h₂.realHost x).trans (h₁.realHost x)

/-- Nothing of a client changed. -/
theorem SameIdentities.congr (h : s.SameIdentities a) (hext : b.ext = a.ext)
    (hnow : b.now = a.now) (hclient : b.client = a.client) : s.SameIdentities b :=
  h.trans ⟨hext, hnow, fun x => by rw [hclient], fun x => by rw [hclient], fun x => by rw [hclient]⟩

theorem SameIdentities.updClient {s' : Server} (h : s.SameIdentities s') (c : ClientRef)
    {f : Client → Client} (hf : ∀ cl : Client, (f cl).user = cl.user ∧ (f cl).realIp = cl.realIp ∧
      (f cl).realHost = cl.realHost) : s.SameIdentities (s'.updClient c f) := by
  have hupd : ∀ x, ((s'.updClient c f).client x).user = (s'.client x).user ∧
      ((s'.updClient c f).client x).realIp = (s'.client x).realIp ∧
      ((s'.updClient c f).client x).realHost = (s'.client x).realHost := by
    intro x
    by_cases hx : x = c
    · subst hx
      rw [updClient_self]
      exact hf _
    · rw [updClient_of_ne _ _ _ _ hx]
      exact ⟨rfl, rfl, rfl⟩
  exact h.trans ⟨rfl, rfl, fun x => (hupd x).1, fun x => (hupd x).2.1, fun x => (hupd x).2.2⟩

section

variable (s : Server) (c : ClientRef)

theorem sameIdentities_disconnect (reason : Text) :
    s.SameIdentities (s.disconnect c reason) := by
  refine disconnect_steps (P := s.SameIdentities) (fun _ _ h => h.congr rfl rfl rfl) (fun s₁ ch h => ?_)
    (fun _ _ _ h => h.congr rfl rfl rfl) (fun s₁ nicks h => ?_) (fun _ _ _ _ _ h => h.congr rfl rfl rfl)
    (.refl s)
  · exact (h.congr (b := s₁.updChannel ch (·.removeMember c)) rfl rfl rfl).updClient c
      fun _ => ⟨rfl, rfl, rfl⟩
  · have hlists : s.SameIdentities { s₁ with
        clients := swapRemove c s₁.clients, clientsByNick := nicks } := h.congr rfl rfl rfl
    exact hlists.updClient c fun _ => ⟨rfl, rfl, rfl⟩

theorem clients_disconnect (reason : Text) :
    (s.disconnect c reason).clients = swapRemove c s.clients := by
  obtain ⟨s₁, hbefore, hafter⟩ := s.disconnect_links c reason
  rw [hafter.clients, unlist_eq, ← hbefore.clients]
  rfl

end

end Server

namespace Network

/-- The tables and the identities are as they were. -/
structure SameBanView (n n' : Network) : Prop where
  bans : n'.bans = n.bans
  server : n.server.SameIdentities n'.server

theorem SameBanView.trans {a b c : Network} (h₁ : SameBanView a b) (h₂ : SameBanView b c) :
    SameBanView a c := ⟨h₂.bans.trans h₁.bans, h₁.server.trans h₂.server⟩

/-- A row is against a client that did not set it, and nothing exempts it. -/
def Goes (family : BanFamily) (setter : ClientRef) (n : Network) (record : BanRecord)
    (x : ClientRef) : Prop :=
  x ≠ setter ∧ record.matches n.server.ext (family.identities (n.server.client x)) = true ∧
    n.bans.exceptionMatch n.server.ext n.server.now family.exception
      (family.exempted (n.server.client x)) = false

section Sweep

variable {family : BanFamily} (hfamily : family.Reads) (setter : ClientRef) (r : BanRequest)
  (record : BanRecord)

include hfamily

theorem goes_congr {n' : Network} (h : SameBanView n n') (x : ClientRef) :
    Goes family setter n' record x ↔ Goes family setter n record x := by
  obtain ⟨hids, hexempt⟩ := hfamily _ _ (h.server.user x) (h.server.realIp x) (h.server.realHost x)
  unfold Goes
  rw [h.bans, h.server.ext, h.server.now, hids, hexempt]

omit hfamily in
/-- One turn: a client that is to go, goes, and otherwise there is only output. -/
theorem sweepTurn_spec (family : BanFamily) (n : Network) (c : ClientRef) :
    SameBanView n (sweepTurn family setter r record n c).1 ∧
      ((Goes family setter n record c ∧ (sweepTurn family setter r record n c).2 = true ∧
          (sweepTurn family setter r record n c).1.server.clients = swapRemove c n.server.clients) ∨
        (¬ Goes family setter n record c ∧ (sweepTurn family setter r record n c).2 = false ∧
          (sweepTurn family setter r record n c).1.server.clients = n.server.clients)) := by
  have hview : ∀ s : Server, s.ext = n.server.ext → s.now = n.server.now →
      s.client = n.server.client → SameBanView n { n with server := s } :=
    fun s hext hnow hclient => ⟨rfl, (Server.SameIdentities.refl _).congr hext hnow hclient⟩
  have hfound := n.bans.exceptionFind_isSome n.server.ext n.server.now family.exception
    (family.exempted (n.server.client c))
  unfold sweepTurn
  dsimp only
  split
  · rename_i hcond
    obtain ⟨hne, hmatch⟩ := Bool.and_eq_true_iff.mp hcond
    split
    · rename_i exception hfind
      rw [hfind] at hfound
      exact ⟨hview _ rfl rfl rfl, .inr ⟨fun h => by simp [h.2.2] at hfound, rfl, rfl⟩⟩
    · rename_i hfind
      rw [hfind] at hfound
      generalize htold : n.onServer _ = told
      have hsame : SameBanView n told := htold ▸ hview _ rfl rfl rfl
      have hclients : told.server.clients = n.server.clients := htold ▸ rfl
      obtain ⟨hserver, hbans⟩ := told.server_settle (told.server.disconnect c
        (if r.reason.isEmpty then record.reason else r.reason))
      rw [disconnect]
      refine ⟨hsame.trans ⟨hbans, ?_⟩, .inl ⟨⟨bne_iff_ne.mp hne, hmatch, hfound.symm⟩, rfl, ?_⟩⟩
      · rw [hserver]
        exact told.server.sameIdentities_disconnect c _
      · rw [hserver, Server.clients_disconnect, hclients]
  · rename_i hcond
    refine ⟨hview _ rfl rfl rfl, .inr ⟨fun h => hcond ?_, rfl, rfl⟩⟩
    exact Bool.and_eq_true_iff.mpr ⟨bne_iff_ne.mpr h.1, h.2.1⟩

/-- The walk, by induction on the turns that are left: those in front were looked at. -/
theorem sweepLoop_spec {n₀ : Network} (fuel : Nat) {front back : List ClientRef}
    (hview : SameBanView n₀ n) (hclients : n.server.clients = front ++ back)
    (hnodup : n.server.clients.Nodup) (hfuel : back.length ≤ fuel) :
    SameBanView n₀ (sweepLoop (sweepTurn family setter r record) fuel front.length n) ∧
      (sweepLoop (sweepTurn family setter r record) fuel front.length n).server.clients.Nodup ∧
      ∀ x, x ∈ (sweepLoop (sweepTurn family setter r record) fuel front.length n).server.clients ↔
        x ∈ front ∨ x ∈ back ∧ ¬ Goes family setter n₀ record x := by
  induction fuel generalizing n front back with
  | zero =>
    obtain rfl := List.length_eq_zero_iff.mp (Nat.le_zero.mp hfuel)
    exact ⟨hview, hnodup, fun x => by simp [sweepLoop, hclients]⟩
  | succ fuel ih =>
    cases back with
    | nil =>
      have hget : n.server.clients[front.length]? = none := by simp [hclients]
      simp only [sweepLoop, hget]
      exact ⟨hview, hnodup, fun x => by simp [hclients]⟩
    | cons c back =>
      have hget : n.server.clients[front.length]? = some c := by simp [hclients]
      obtain ⟨hturn, hcases⟩ := sweepTurn_spec setter r record family n c
      have hgoes := goes_congr hfamily setter record hview c
      have hfront : c ∉ front := by
        rw [hclients] at hnodup
        exact fun hmem => (List.nodup_append.mp hnodup).2.2 c hmem c List.mem_cons_self rfl
      simp only [sweepLoop, hget]
      generalize sweepTurn family setter r record n c = turn at hturn hcases
      rcases hcases with ⟨hgo, hdropped, hnext⟩ | ⟨hstay, hkept, hnext⟩
      · -- the last client stands where `c` stood
        have hnodup' : turn.1.server.clients.Nodup := by rw [hnext]; exact nodup_swapRemove hnodup
        rw [hclients, swapRemove_append hfront] at hnext
        have hperm := perm_getLast_dropLast back
        rw [hdropped, if_pos rfl]
        obtain ⟨hview', hnodup'', hmem⟩ := ih (hview.trans hturn) hnext hnodup'
          (by rw [hperm.length_eq]; exact Nat.le_of_succ_le_succ hfuel)
        refine ⟨hview', hnodup'', fun x => ?_⟩
        rw [hmem, hperm.mem_iff, List.mem_cons]
        have hnot : ¬ (x = c ∧ ¬ Goes family setter n₀ record x) := by
          rintro ⟨rfl, hx⟩
          exact hx (hgoes.mp hgo)
        tauto
      · rw [hkept, if_neg Bool.false_ne_true]
        have hnext' : turn.1.server.clients = (front ++ [c]) ++ back := by
          rw [hnext, hclients, List.append_assoc]
          rfl
        have hloop := ih (hview.trans hturn) hnext' (by rw [hnext]; exact hnodup)
          (Nat.le_of_succ_le_succ hfuel)
        rw [List.length_append, List.length_singleton] at hloop
        refine ⟨hloop.1, hloop.2.1, fun x => ?_⟩
        rw [hloop.2.2, List.mem_append, List.mem_singleton, List.mem_cons]
        have hyes : x = c → ¬ Goes family setter n₀ record x := by
          rintro rfl hx
          exact hstay (hgoes.mpr hx)
        tauto

/-- One row. -/
theorem disconnectRow_spec (n : Network) (hnodup : n.server.clients.Nodup) :
    SameBanView n (disconnectRow family setter r n record) ∧
      (disconnectRow family setter r n record).server.clients.Nodup ∧
      ∀ x, x ∈ (disconnectRow family setter r n record).server.clients ↔
        x ∈ n.server.clients ∧ ¬ Goes family setter n record x := by
  have hall : n.server.clients = [] ++ n.server.clients := rfl
  obtain ⟨hview, hnodup', hmem⟩ := sweepLoop_spec hfamily setter r record n.server.clients.length
    (⟨rfl, .refl _⟩ : SameBanView n n) hall hnodup (Nat.le_refl _)
  exact ⟨hview, hnodup', fun x => (hmem x).trans (or_iff_right List.not_mem_nil)⟩

/-- **A sweep**: whoever a row is against, goes. -/
theorem mem_sweep (rows : List BanRecord) (n : Network) (hnodup : n.server.clients.Nodup)
    (x : ClientRef) : x ∈ (sweep family setter r rows n).server.clients ↔
      x ∈ n.server.clients ∧ ∀ record ∈ rows, ¬ Goes family setter n record x := by
  induction rows generalizing n with
  | nil => simp [sweep]
  | cons record rows ih =>
    obtain ⟨hview, hnodup', hmem⟩ := disconnectRow_spec hfamily setter r record n hnodup
    have hrest := ih _ hnodup'
    rw [sweep, List.foldl_cons, ← sweep, hrest, hmem, List.forall_mem_cons, and_assoc]
    exact and_congr_right fun _ => and_congr_right fun _ =>
      forall₂_congr fun _ _ => not_congr (goes_congr hfamily setter _ hview x)

end Sweep

/-! ## 5. The check at registration -/

/-- A verdict that rejects, with whatever row it names. -/
theorem rejects_iff (b : BanTables) (ext : External) (now : Nat) (type : BanType)
    (identities : List Text) (exempt : Bool) :
    Rejects ((b.banMatch ext now type identities).map fun row => (row, exempt)) = true ↔
      (∃ row ∈ b.active now type, row.matches ext identities = true) ∧ exempt = false := by
  have hmatch : (b.banMatch ext now type identities).isSome = true ↔
      ∃ row ∈ b.active now type, row.matches ext identities = true := by
    unfold BanTables.banMatch BanTables.active
    rw [List.find?_isSome]
    simp only [List.mem_filter, Bool.and_eq_true, decide_eq_true_eq]
    exact exists_congr fun row => by tauto
  rw [← hmatch]
  unfold Rejects
  cases b.banMatch ext now type identities with
  | none => simp
  | some row => cases exempt <;> simp

/-- What KLINE adds, and the table with it; `none` when it adds nothing. -/
def klineAdds (n : Network) (c : ClientRef) (params : Option Text) :
    Option (BanRequest × BanTables) :=
  if !(n.server.client c).registered then none
  else (params.bind strtokSpace).bind fun (mask, rest) =>
    if mask.head? = some '-' ∨ OperPermission.kline ∉ (n.server.client c).operPermissions then none
    else (n.klineRequest mask (strtokRest rest)).toOption.bind fun r =>
      (n.bans.add n.server.now .kline r (n.banSetter c)).map fun bans => (r, bans)

/-- What ZLINE adds, and the table with it. -/
def zlineAdds (n : Network) (c : ClientRef) (params : Option Text) :
    Option (BanRequest × BanTables) :=
  if !(n.server.client c).registered ∨
      OperPermission.zline ∉ (n.server.client c).operPermissions then none
  else (params.bind strtokSpace).bind fun (mask, rest) =>
    if mask.head? = some '-' then none
    else (n.zlineRequest mask (strtokRest rest)).toOption.bind fun r =>
      (n.bans.add n.server.now .zline r (n.banSetter c)).map fun bans => (r, bans)

/-- Adding a row of a family: those go whom a row is against. -/
theorem mem_banAdd (hfamily : family.Reads) (horder : ∀ rows, (order rows).Perm rows)
    (hnodup : n.server.clients.Nodup)
    (hadd : n.bans.add n.server.now family.type r (n.banSetter c) = some bans) (x : ClientRef) :
    x ∈ (banAdd family order n c r).server.clients ↔ x ∈ n.server.clients ∧
      ∀ row ∈ bans.active n.server.now family.type, ¬ Goes family c { n with bans := bans } row x := by
  have hadded : ∀ m : Network, (m.banAdded family c r).server.clients = m.server.clients := by
    intro m
    unfold banAdded
    split <;> rfl
  unfold banAdd
  rw [hadd]
  dsimp only
  rw [hadded, mem_sweep hfamily c r _ { n with bans := bans } hnodup]
  simp only [(horder _).mem_iff]

theorem kline_of_adds (h : n.klineAdds c params = some (r, bans))
    (order : List BanRecord → List BanRecord) :
    kline order n c params = banAdd klineFamily order n c r ∧
      n.bans.add n.server.now klineFamily.type r (n.banSetter c) = some bans := by
  unfold klineAdds at h
  split at h
  · cases h
  rename_i hreg
  obtain ⟨⟨mask, rest⟩, hwords, h⟩ := Option.bind_eq_some_iff.mp h
  dsimp only at h
  split at h
  · cases h
  rename_i hplain
  obtain ⟨hminus, hmay⟩ := not_or.mp hplain
  obtain ⟨r', hrequest, h⟩ := Option.bind_eq_some_iff.mp h
  obtain ⟨bans', hadd, h⟩ := Option.map_eq_some_iff.mp h
  cases h
  have hrequest' : n.klineRequest mask (strtokRest rest) = .ok r := by
    cases hreq : n.klineRequest mask (strtokRest rest) with
    | error e => rw [hreq] at hrequest; cases hrequest
    | ok r' => rw [hreq] at hrequest; cases hrequest; rfl
  refine ⟨?_, hadd⟩
  unfold kline
  rw [if_neg hreg, hwords]
  split
  · cases ‹some _ = none›
  · rename_i heq
    cases heq
    exact absurd rfl hminus
  · rename_i heq
    cases heq
    rw [if_neg hmay, hrequest']

theorem zline_of_adds (h : n.zlineAdds c params = some (r, bans))
    (order : List BanRecord → List BanRecord) :
    zline order n c params = banAdd zlineFamily order n c r ∧
      n.bans.add n.server.now zlineFamily.type r (n.banSetter c) = some bans := by
  unfold zlineAdds at h
  split at h
  · cases h
  rename_i hmay
  obtain ⟨hreg, hmay⟩ := not_or.mp hmay
  obtain ⟨⟨mask, rest⟩, hwords, h⟩ := Option.bind_eq_some_iff.mp h
  dsimp only at h
  split at h
  · cases h
  rename_i hminus
  obtain ⟨r', hrequest, h⟩ := Option.bind_eq_some_iff.mp h
  obtain ⟨bans', hadd, h⟩ := Option.map_eq_some_iff.mp h
  cases h
  have hrequest' : n.zlineRequest mask (strtokRest rest) = .ok r := by
    cases hreq : n.zlineRequest mask (strtokRest rest) with
    | error e => rw [hreq] at hrequest; cases hrequest
    | ok r' => rw [hreq] at hrequest; cases hrequest; rfl
  refine ⟨?_, hadd⟩
  unfold zline
  rw [if_neg hreg, if_neg hmay, hwords]
  split
  · cases ‹some _ = none›
  · rename_i heq
    cases heq
    exact absurd rfl hminus
  · rename_i heq
    cases heq
    rw [hrequest']

/-- Some row is against the client and nothing exempts it. -/
theorem not_mem_banAdd (hfamily : family.Reads) (horder : ∀ rows, (order rows).Perm rows)
    (hnodup : n.server.clients.Nodup)
    (hadd : n.bans.add n.server.now family.type r (n.banSetter c) = some bans) {x : ClientRef}
    (hx : x ∈ n.server.clients) :
    x ∉ (banAdd family order n c r).server.clients ↔ x ≠ c ∧
      (∃ row ∈ bans.active n.server.now family.type,
        row.matches n.server.ext (family.identities (n.server.client x)) = true) ∧
      bans.exceptionMatch n.server.ext n.server.now family.exception
        (family.exempted (n.server.client x)) = false := by
  rw [mem_banAdd hfamily horder hnodup hadd x]
  unfold Goes
  constructor
  · intro h
    by_contra hcon
    refine h ⟨hx, fun row hrow hgoes => hcon ⟨hgoes.1, ⟨row, hrow, hgoes.2.1⟩, hgoes.2.2⟩⟩
  · rintro ⟨hne, ⟨row, hrow, hmatch⟩, hexempt⟩ ⟨-, hall⟩
    exact hall row hrow ⟨hne, hmatch, hexempt⟩

/-- **Sweeps agree with registration.** Whatever the order of the rows and of the clients, when a
    KLINE (a ZLINE) is added, the clients that are disconnected are those, other than the one who
    set it, whom the check of that family at registration turns away. -/
theorem sweeps_agree_with_registration (n : Network) (hnodup : n.server.clients.Nodup)
    (order : List BanRecord → List BanRecord) (horder : ∀ rows, (order rows).Perm rows)
    (c : ClientRef) (params : Option Text) (r : BanRequest) (bans : BanTables)
    (x : ClientRef) (hx : x ∈ n.server.clients) (huser : (n.server.client x).user ≠ []) :
    (n.klineAdds c params = some (r, bans) → (x ∉ (kline order n c params).server.clients ↔
      x ≠ c ∧ Rejects (klineVerdict { n with bans := bans } x) = true)) ∧
    (n.zlineAdds c params = some (r, bans) → (x ∉ (zline order n c params).server.clients ↔
      x ≠ c ∧ Rejects (zlineVerdict { n with bans := bans } x) = true)) := by
  constructor
  · intro hadds
    obtain ⟨hcommand, hadd⟩ := kline_of_adds hadds order
    rw [hcommand, not_mem_banAdd klineFamily_reads horder hnodup hadd hx]
    exact and_congr_right fun _ => (rejects_iff bans _ _ _ _ _).symm
  · intro hadds
    obtain ⟨hcommand, hadd⟩ := zline_of_adds hadds order
    rw [hcommand, not_mem_banAdd zlineFamily_reads horder hnodup hadd hx]
    have hexempted : zlineFamily.exempted (n.server.client x) =
        [(n.server.client x).realIp, (n.server.client x).ipIdentity] := by
      simp only [zlineFamily, Client.ipIdentity, List.isEmpty_iff, huser, if_false]
    rw [hexempted]
    exact and_congr_right fun _ => (rejects_iff bans _ _ _ _ _).symm

/-- An operator and a user. -/
def twoClients : Network :=
  let n := Network.initial {} {} {} {} { inetNtop4 := id, inetNtop6 := id } {}
  { n with server := { n.server with
      clients := [0, 1]
      client := fun c =>
        if c = 0 then
          { id := 1, registered := true, nick := "op".toList, user := "o".toList
            realIp := "10.0.0.9".toList, operPermissions := {.kline, .zline} }
        else { id := 2, registered := true, nick := "ann".toList, user := "u".toList
               realIp := "10.0.0.1".toList } } }

theorem sweeps_agree_with_registration_ann :
    1 ∉ (kline id twoClients 0 (some "*@10.0.0.* :gone".toList)).server.clients := by
  have hadds : twoClients.klineAdds 0 (some "*@10.0.0.* :gone".toList) =
      some (⟨"*@10.0.0.*".toList, "gone".toList, none⟩, { bans := [
        { type := .kline, mask := "*@10.0.0.*".toList, reason := "gone".toList,
          setBy := "op".toList }] }) := by
    rfl
  have hagree := (sweeps_agree_with_registration twoClients (by decide) id (fun _ => .refl _) 0
    (some "*@10.0.0.* :gone".toList) _ _ 1 (by decide) (by decide)).1 hadds
  exact hagree.mpr ⟨by decide, by decide +kernel⟩

end Network

end ScratchIrcd
