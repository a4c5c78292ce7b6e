/-
  File:      ScratchIrcd/ElineMask.lean
  Subject:   What ELINE accepts as a mask (`valid_eline_mask`, src/commands/kline.c) and what such a
             mask matches (`ban_exception_record_matches`, src/ban_db.c).

  The check splits a mask at its first `@` and looks for a slash behind it. The matching takes a
  slash anywhere for a CIDR mask, splits at the last `@`, and compares addresses as numbers only if
  the whole mask has no wildcard.

  * `wildcardMatch_iff` -- the loop of `wildcard_match` decides its pattern;
  * **`eline_mask_iff`** -- the masks that mean what they say.
-/
import ScratchIrcd.Cidr
import ScratchIrcd.Lib.Glob

namespace ScratchIrcd

open CText

variable {address p t user : Text} {test : Text → Text → Bool}

/-! ## 1. The wildcard loop -/

/-- A sign of a pattern, but for the star, fits a letter. -/
def wildcardFits (c t : Char) : Bool := c == '?' || asciiLower c == asciiLower t

/-- What a wildcard pattern matches. -/
def WildcardMatches : Text → Text → Prop := Glob.Matches '*' wildcardFits

theorem wildcardLoop_eq (n : Nat) : wildcardLoop n = Glob.search '*' wildcardFits n := by
  refine Glob.eq_search (fun _ _ _ => rfl) (fun _ _ _ => rfl) ?_ ?_ n
  · intro n x t back
    rcases back with _ | ⟨sp, _ | ⟨y, rest⟩⟩ <;> rfl
  · intro n c p x t back
    by_cases hc : c = '*'
    · subst hc
      rfl
    · rw [if_neg (by simpa using hc)]
      conv_lhs => unfold wildcardLoop
      dsimp only
      split
      · rename_i heq
        exact absurd (List.cons.inj heq).1 hc
      · rename_i heq
        obtain ⟨rfl, rfl⟩ := List.cons.inj heq
        rcases back with _ | ⟨sp, _ | ⟨y, rest⟩⟩ <;> rfl
      · rename_i heq
        cases heq

/-- The turns the two loops are given are enough for any pattern and text. -/
theorem turns_lt (p t : Text) : t.length * (p.length + t.length) + p.length + t.length <
    (t.length + 1) * (p.length + t.length + 2) := by
  rw [Nat.succ_mul, Nat.mul_add t.length (p.length + t.length) 2]
  omega

/-- **`wildcard_match` decides its pattern.** -/
theorem wildcardMatch_iff : wildcardMatch p t = true ↔ WildcardMatches p t := by
  unfold wildcardMatch WildcardMatches
  rw [wildcardLoop_eq]
  exact Glob.search_none_iff (turns_lt p t)

/-- `@` in a pattern stands for itself. -/
theorem wildcardFits_at {x : Char} (h : wildcardFits '@' x = true) : x = '@' := by
  have hlower : asciiLower x = '@' := by
    simp only [wildcardFits, Bool.or_eq_true, beq_iff_eq] at h
    exact h.elim (fun h => absurd h (by decide)) fun h => h.symm
  refine eq_of_ircFold_low (by decide) ?_
  rw [ircFold_asciiLower, hlower]
  rfl

/-- A text that is split at a letter it has once. -/
theorem append_cons_inj {α : Type*} {d : α} {a b a' b' : List α} (ha : d ∉ a) (hb : d ∉ b)
    (h : a ++ d :: b = a' ++ d :: b') : a' = a ∧ b' = b := by
  induction a generalizing a' with
  | nil =>
    cases a' with
    | nil => exact ⟨rfl, (List.cons.inj h).2.symm⟩
    | cons x a' =>
      have hmem : d ∈ b := by
        rw [(List.cons.inj h).2]
        exact List.mem_append_right _ List.mem_cons_self
      exact absurd hmem hb
  | cons y a ih =>
    rw [List.mem_cons, not_or] at ha
    cases a' with
    | nil => exact absurd (List.cons.inj h).1.symm ha.1
    | cons x a' =>
      obtain ⟨rfl, htail⟩ := List.cons.inj h
      obtain ⟨rfl, rfl⟩ := ih ha.2 htail
      exact ⟨rfl, rfl⟩

/-- A mask with an `@` against an identity with one: both parts. -/
theorem wildcardMatch_at {ident host : Text} (huser : '@' ∉ user) (haddress : '@' ∉ address) :
    wildcardMatch (ident ++ '@' :: host) (user ++ '@' :: address) =
      (wildcardMatch ident user && wildcardMatch host address) := by
  rw [Bool.eq_iff_iff, Bool.and_eq_true, wildcardMatch_iff, wildcardMatch_iff, wildcardMatch_iff]
  unfold WildcardMatches
  rw [Glob.matches_append]
  constructor
  · rintro ⟨t₁, t₂, heq, h₁, h₂⟩
    rw [Glob.Matches, if_neg (by decide)] at h₂
    obtain ⟨x, t', rfl, hfits, h'⟩ := h₂
    rw [wildcardFits_at hfits] at heq
    obtain ⟨rfl, rfl⟩ := append_cons_inj huser haddress heq
    exact ⟨h₁, h'⟩
  · rintro ⟨h₁, h₂⟩
    exact ⟨user, '@' :: address, rfl, h₁, (Glob.matches_cons (by decide)).mpr ⟨by decide, h₂⟩⟩

/-- A pattern with an `@` matches no text without one. -/
theorem wildcardMatch_of_at (hp : '@' ∈ p) (ht : '@' ∉ t) : wildcardMatch p t = false := by
  rw [← Bool.not_eq_true, wildcardMatch_iff]
  intro h
  obtain ⟨x, hx, hfits⟩ := Glob.Matches.exists_fits h hp (by decide)
  exact ht (wildcardFits_at hfits ▸ hx)

/-- Every pattern matches a text: its signs beside the stars. -/
theorem wildcardMatch_filter (p : Text) : wildcardMatch p (p.filter (· != '*')) = true := by
  refine wildcardMatch_iff.mpr (Glob.matches_filter (fun c => ?_) p)
  rw [wildcardFits, beq_self_eq_true, Bool.or_true]

/-! ## 2. Masks -/

/-- The parts of a text at an `@` that no other follows. -/
theorem splitAtLast_append (haddress : '@' ∉ address) :
    splitAtLast (user ++ '@' :: address) = some (user, address) := by
  have hrev : (user ++ '@' :: address).reverse = address.reverse ++ '@' :: user.reverse := by
    simp
  have hpass : ∀ x ∈ address.reverse, (x != '@') = true := by
    intro x hx
    rw [bne_iff_ne]
    exact fun heq => haddress (heq ▸ List.mem_reverse.mp hx)
  have hcontains : (user ++ '@' :: address).contains '@' = true :=
    List.contains_iff_mem.mpr (List.mem_append_right _ List.mem_cons_self)
  unfold splitAtLast
  rw [if_pos hcontains, hrev, List.dropWhile_append_of_pos hpass, List.takeWhile_append_of_pos hpass]
  simp

/-- `valid_eline_cidr_host`; it is `valid_cidr_mask` word for word. -/
def validElineCidrHost (ext : External) (host : Text) : Bool := Network.validCidrMask ext host

/-- `valid_eline_mask` -/
def validElineMask (ext : External) (mask : Text) : Bool :=
  let host := if mask.contains '@' then (mask.dropWhile (· != '@')).tail else mask
  !mask.isEmpty && decide (mask.length ≤ ircChannelMaskMax) && !mask.any isLineBreak &&
    (!host.contains '/' || validElineCidrHost ext host)

/-- What the host part of a mask says about a host: a block of addresses, an address, or a
    pattern. -/
def hostPartMatches (ext : External) (host address : Text) : Bool :=
  if host.contains '/' then cidrMatch ext host address
  else numericIpEqual ext host address || wildcardMatch host address

/-- A user and a host, as an identity is made of them. -/
structure IsIdentity (user address : Text) : Prop where
  noAtUser : '@' ∉ user
  noAtAddress : '@' ∉ address
  fits : (user ++ '@' :: address).length ≤ ircChannelMaskMax

/-- The mask `ident@host` matches an identity when both parts match, and it matches some. -/
structure MeansWhatItSays (ext : External) (ident host : Text) : Prop where
  exact : ∀ (record : BanExceptionRecord) (user address : Text), record.mask = ident ++ '@' :: host →
    IsIdentity user address → (record.matches ext [user ++ '@' :: address] = true ↔
      wildcardMatch ident user = true ∧ hostPartMatches ext host address = true)
  inhabited : ∀ record : BanExceptionRecord, record.mask = ident ++ '@' :: host →
    ∃ user address, IsIdentity user address ∧ record.matches ext [user ++ '@' :: address] = true

/-- The masks that do: one `@`; a slash, if the user part has one, in the host part too; and a
    wildcard only where no host within the limit is another spelling of the address. -/
structure ElineClear (ext : External) (ident host : Text) : Prop where
  oneAt : '@' ∉ host
  slash : '/' ∈ ident → '/' ∈ host
  spelling : '/' ∈ host ∨ hasWildcard (ident ++ '@' :: host) = false ∨ ∀ address, '@' ∉ address →
    (ident.filter (· != '*')).length + 1 + address.length ≤ ircChannelMaskMax →
    numericIpEqual ext host address = true → wildcardMatch host address = true

section

variable {ext : External} {ident host user address : Text} {record : BanExceptionRecord}

theorem matches_singleton (record : BanExceptionRecord) (identity : Text) :
    record.matches ext [identity] = record.matchesIdentity ext identity := by
  simp only [BanExceptionRecord.matches, List.any_cons, List.any_nil, Bool.or_false]

theorem contains_slash : (ident ++ '@' :: host).contains '/' = (ident.contains '/' || host.contains '/') := by
  rw [Bool.eq_iff_iff, Bool.or_eq_true, List.contains_iff_mem, List.contains_iff_mem,
    List.contains_iff_mem, List.mem_append, List.mem_cons]
  exact or_congr_right (or_iff_right (by decide))

/-- The address tests of a mask whose host part has no `@`. -/
theorem addressIdentityMatch_at (hhost : '@' ∉ host)
    (hmask : (ident ++ '@' :: host).length ≤ ircChannelMaskMax)
    (hidentity : IsIdentity user address) :
    addressIdentityMatch test (ident ++ '@' :: host) (user ++ '@' :: address) =
      (wildcardMatch ident user && test host address) := by
  have hfits : ¬ (ircChannelMaskMax < (ident ++ '@' :: host).length ∨
      ircChannelMaskMax < (user ++ '@' :: address).length) := by
    have := hidentity.fits
    omega
  unfold addressIdentityMatch
  rw [if_neg hfits, splitAtLast_append hhost, splitAtLast_append hidentity.noAtAddress]

/-- A mask with two `@` passes none of them. -/
theorem addressIdentityMatch_two (hhost : '@' ∈ host) (hidentity : IsIdentity user address) :
    addressIdentityMatch test (ident ++ '@' :: host) (user ++ '@' :: address) = false := by
  obtain ⟨b, a, hrev, hb⟩ := List.eq_append_cons_of_mem (List.mem_reverse.mpr hhost)
  have hsplit : host = a.reverse ++ '@' :: b.reverse := by
    have := congrArg List.reverse hrev
    simpa using this
  have hlast : '@' ∉ b.reverse := fun h => hb (List.mem_reverse.mp h)
  have hmask : ident ++ '@' :: host = (ident ++ '@' :: a.reverse) ++ '@' :: b.reverse := by
    rw [hsplit]
    simp
  unfold addressIdentityMatch
  split
  · rfl
  · rw [hmask, splitAtLast_append hlast, splitAtLast_append hidentity.noAtAddress]
    have hnone : wildcardMatch (ident ++ '@' :: a.reverse) user = false :=
      wildcardMatch_of_at (List.mem_append_right _ List.mem_cons_self) hidentity.noAtUser
    simp only [hnone, Bool.false_and]

/-- A mask with two `@` matches no identity. -/
theorem matchesIdentity_two (hhost : '@' ∈ host) (hmask : record.mask = ident ++ '@' :: host)
    (hidentity : IsIdentity user address) :
    record.matchesIdentity ext (user ++ '@' :: address) = false := by
  have hglob : wildcardMatch (ident ++ '@' :: host) (user ++ '@' :: address) = false := by
    rw [wildcardMatch_at hidentity.noAtUser hidentity.noAtAddress,
      wildcardMatch_of_at hhost hidentity.noAtAddress, Bool.and_false]
  unfold BanExceptionRecord.matchesIdentity cidrIdentityMatch exactIpIdentityEqual
  rw [hmask, addressIdentityMatch_two hhost hidentity, addressIdentityMatch_two hhost hidentity, hglob]
  simp

/-- A slash anywhere makes a mask a CIDR mask. -/
theorem matchesIdentity_slash (hhost : '@' ∉ host) (hmask : record.mask = ident ++ '@' :: host)
    (hlen : (ident ++ '@' :: host).length ≤ ircChannelMaskMax) (hidentity : IsIdentity user address)
    (hslash : (ident ++ '@' :: host).contains '/' = true) :
    record.matchesIdentity ext (user ++ '@' :: address) =
      (wildcardMatch ident user && cidrMatch ext host address) := by
  unfold BanExceptionRecord.matchesIdentity cidrIdentityMatch
  rw [hmask, if_pos hslash, hslash, Bool.true_and, addressIdentityMatch_at hhost hlen hidentity]

/-- Without one, addresses are compared if the whole mask has no wildcard. -/
theorem matchesIdentity_plain (hhost : '@' ∉ host) (hmask : record.mask = ident ++ '@' :: host)
    (hlen : (ident ++ '@' :: host).length ≤ ircChannelMaskMax) (hidentity : IsIdentity user address)
    (hslash : (ident ++ '@' :: host).contains '/' = false) :
    record.matchesIdentity ext (user ++ '@' :: address) =
      (wildcardMatch ident user && ((!hasWildcard (ident ++ '@' :: host) &&
        numericIpEqual ext host address) || wildcardMatch host address)) := by
  unfold BanExceptionRecord.matchesIdentity exactIpIdentityEqual
  rw [hmask, hslash, if_neg Bool.false_ne_true, addressIdentityMatch_at hhost hlen hidentity,
    wildcardMatch_at hidentity.noAtUser hidentity.noAtAddress]
  cases hasWildcard (ident ++ '@' :: host) <;> cases wildcardMatch ident user <;> simp

/-- What the check guarantees. -/
theorem validElineMask_spec (hident : '@' ∉ ident) (h : validElineMask ext (ident ++ '@' :: host) = true) :
    (ident ++ '@' :: host).length ≤ ircChannelMaskMax ∧
      ('/' ∈ host → Network.validCidrMask ext host = true) := by
  have hcontains : (ident ++ '@' :: host).contains '@' = true :=
    List.contains_iff_mem.mpr (List.mem_append_right _ List.mem_cons_self)
  have hpass : ∀ x ∈ ident, (x != '@') = true := by
    intro x hx
    rw [bne_iff_ne]
    exact fun heq => hident (heq ▸ hx)
  have hhost : ((ident ++ '@' :: host).dropWhile (· != '@')).tail = host := by
    rw [List.dropWhile_append_of_pos hpass]
    rfl
  unfold validElineMask at h
  rw [if_pos hcontains, hhost] at h
  simp only [Bool.and_eq_true, decide_eq_true_eq, Bool.or_eq_true, Bool.not_eq_true'] at h
  refine ⟨h.1.1.2, fun hslash => h.2.resolve_left fun hnone => ?_⟩
  rw [List.contains_iff_mem.mpr hslash] at hnone
  cases hnone

/-- A CIDR mask matches the network it names. -/
theorem cidrMatch_network (hext : ext.PtonSized) (hvalid : Network.validCidrMask ext host = true) :
    cidrMatch ext host (host.takeWhile (· != '/')) = true := by
  obtain ⟨-, -, -, block, hreads, -⟩ := validCidrMask_iff.mp hvalid
  exact (cidrMatch_iff hext hvalid hreads _).mpr ⟨block.network, hreads.network, fun _ _ => rfl⟩

/-- The shortest user of a mask, and a host not longer than the mask's, are an identity. -/
theorem isIdentity_filter (hident : '@' ∉ ident) (ht : '@' ∉ t)
    (hfits : (ident.filter (· != '*')).length + 1 + t.length ≤ ircChannelMaskMax) :
    IsIdentity (ident.filter (· != '*')) t := by
  refine ⟨fun h => hident (List.mem_of_mem_filter h), ht, ?_⟩
  rw [List.length_append, List.length_cons]
  omega

/-- A mask with a block of addresses means what it says. -/
theorem means_cidr (hext : ext.PtonSized) (hident : '@' ∉ ident) (hhost : '@' ∉ host)
    (hlen : (ident ++ '@' :: host).length ≤ ircChannelMaskMax) (hslash : '/' ∈ host)
    (hvalid : Network.validCidrMask ext host = true) : MeansWhatItSays ext ident host := by
  have hcontains : (ident ++ '@' :: host).contains '/' = true :=
    List.contains_iff_mem.mpr (List.mem_append_right _ (List.mem_cons_of_mem _ hslash))
  refine ⟨fun record user address hmask hidentity => ?_, fun record hmask => ?_⟩
  · rw [matches_singleton, matchesIdentity_slash hhost hmask hlen hidentity hcontains,
      Bool.and_eq_true, hostPartMatches, if_pos (List.contains_iff_mem.mpr hslash)]
  · have hnetwork : '@' ∉ host.takeWhile (· != '/') :=
      fun h => hhost ((List.takeWhile_sublist _).subset h)
    have hfits : (ident.filter (· != '*')).length + 1 + (host.takeWhile (· != '/')).length ≤
        ircChannelMaskMax := by
      have hident' := List.length_filter_le (· != '*') ident
      have hhost' := (List.takeWhile_sublist (l := host) (· != '/')).length_le
      rw [List.length_append, List.length_cons] at hlen
      omega
    have hidentity := isIdentity_filter hident hnetwork hfits
    refine ⟨_, _, hidentity, ?_⟩
    rw [matches_singleton, matchesIdentity_slash hhost hmask hlen hidentity hcontains,
      wildcardMatch_filter, cidrMatch_network hext hvalid]
    rfl

/-- Without a slash, a mask means what it says if there is one spelling. -/
theorem means_plain (hident : '@' ∉ ident) (hhost : '@' ∉ host)
    (hlen : (ident ++ '@' :: host).length ≤ ircChannelMaskMax) (hslash : '/' ∉ ident)
    (hslash' : '/' ∉ host)
    (hspelling : hasWildcard (ident ++ '@' :: host) = false ∨ ∀ address, '@' ∉ address →
      (ident.filter (· != '*')).length + 1 + address.length ≤ ircChannelMaskMax →
      numericIpEqual ext host address = true → wildcardMatch host address = true) :
    MeansWhatItSays ext ident host := by
  have hcontains' : host.contains '/' = false := by
    rwa [← Bool.not_eq_true, List.contains_iff_mem]
  have hcontains : (ident ++ '@' :: host).contains '/' = false := by
    rw [contains_slash, hcontains', Bool.or_false, ← Bool.not_eq_true, List.contains_iff_mem]
    exact hslash
  refine ⟨fun record user address hmask hidentity => ?_, fun record hmask => ?_⟩
  · rw [matches_singleton, matchesIdentity_plain hhost hmask hlen hidentity hcontains,
      Bool.and_eq_true, hostPartMatches, if_neg (by rw [hcontains']; exact Bool.false_ne_true)]
    refine and_congr_right fun huser => ?_
    rw [Bool.or_eq_true, Bool.or_eq_true, Bool.and_eq_true, Bool.not_eq_true']
    constructor
    · exact fun h => h.imp_left And.right
    · rintro (hnumeric | hglob)
      · rcases hspelling with hplain | hspelling
        · exact .inl ⟨hplain, hnumeric⟩
        · have hshort := Glob.Matches.length_filter_le (wildcardMatch_iff.mp huser)
          have hfits := hidentity.fits
          rw [List.length_append, List.length_cons] at hfits
          exact .inr (hspelling address hidentity.noAtAddress (by omega) hnumeric)
      · exact .inr hglob
  · have haddress : '@' ∉ host.filter (· != '*') := fun h => hhost (List.mem_of_mem_filter h)
    have hfits : (ident.filter (· != '*')).length + 1 + (host.filter (· != '*')).length ≤
        ircChannelMaskMax := by
      have hident' := List.length_filter_le (· != '*') ident
      have hhost' := List.length_filter_le (· != '*') host
      rw [List.length_append, List.length_cons] at hlen
      omega
    have hidentity := isIdentity_filter hident haddress hfits
    refine ⟨_, _, hidentity, ?_⟩
    rw [matches_singleton, matchesIdentity_plain hhost hmask hlen hidentity hcontains,
      wildcardMatch_filter, wildcardMatch_filter, Bool.or_true]
    rfl

/-- **An accepted mask `ident@host` means what it says exactly when it is clear**: it has one `@`, a
    slash in the user part only beside one in the host part, and beside a wildcard no address with
    another spelling. -/
theorem eline_mask_iff (ext : External) (hext : ext.PtonSized) {ident host : Text}
    (hident : '@' ∉ ident) (hvalid : validElineMask ext (ident ++ '@' :: host) = true) :
    MeansWhatItSays ext ident host ↔ ElineClear ext ident host := by
  obtain ⟨hlen, hcidr⟩ := validElineMask_spec hident hvalid
  let record : BanExceptionRecord := ⟨.kline, ident ++ '@' :: host, 0⟩
  constructor
  · intro hmeans
    obtain ⟨user, address, hidentity, hmatch⟩ := hmeans.inhabited record rfl
    rw [matches_singleton] at hmatch
    have hhost : '@' ∉ host := by
      intro hat
      rw [matchesIdentity_two hat rfl hidentity] at hmatch
      cases hmatch
    by_cases hslash : '/' ∈ host
    · exact ⟨hhost, fun _ => hslash, .inl hslash⟩
    · have hslash' : '/' ∉ ident := by
        intro h
        have hcontains : (ident ++ '@' :: host).contains '/' = true :=
          List.contains_iff_mem.mpr (List.mem_append_left _ h)
        have hnone : host.contains '/' = false := by
          rwa [← Bool.not_eq_true, List.contains_iff_mem]
        have hcidr' : cidrMatch ext host address = false := by
          unfold cidrMatch
          simp only [hnone, Bool.not_false, Bool.true_or, if_true]
        rw [matchesIdentity_slash hhost rfl hlen hidentity hcontains, hcidr', Bool.and_false] at hmatch
        cases hmatch
      refine ⟨hhost, fun h => absurd h hslash', .inr ?_⟩
      by_cases hwild : hasWildcard (ident ++ '@' :: host) = false
      · exact .inl hwild
      · refine .inr fun address haddress hfits hnumeric => ?_
        -- the shortest user sees the spelling
        have hidentity' := isIdentity_filter hident haddress hfits
        have hnone : host.contains '/' = false := by
          rwa [← Bool.not_eq_true, List.contains_iff_mem]
        have hcontains : (ident ++ '@' :: host).contains '/' = false := by
          rw [contains_slash, hnone, Bool.or_false, ← Bool.not_eq_true, List.contains_iff_mem]
          exact hslash'
        have hsays := (hmeans.exact record _ address rfl hidentity').mpr ⟨wildcardMatch_filter ident, by
          rw [hostPartMatches, hnone, if_neg Bool.false_ne_true, hnumeric, Bool.true_or]⟩
        rw [matches_singleton, matchesIdentity_plain hhost rfl hlen hidentity' hcontains,
          Bool.eq_true_of_not_eq_false hwild, Bool.not_true, Bool.false_and, Bool.false_or,
          Bool.and_eq_true] at hsays
        exact hsays.2
  · rintro ⟨hhost, hslash, hspelling⟩
    by_cases hslash' : '/' ∈ host
    · exact means_cidr hext hident hhost hlen hslash' (hcidr hslash')
    · exact means_plain hident hhost hlen (fun h => hslash' (hslash h)) hslash'
        (hspelling.resolve_left hslash')

end

theorem ptonSized_default : ({} : External).PtonSized := by
  intro family text address h
  cases family <;> cases h

theorem eline_mask_iff_star : MeansWhatItSays {} "*".toList "example.test".toList := by
  refine (eline_mask_iff {} ptonSized_default (by decide) (by decide)).mpr ⟨by decide, by decide, ?_⟩
  exact .inr (.inr fun address _ _ hnumeric => by cases hnumeric)

/-- Two spellings of one address. -/
def loopbackSpellings : External :=
  { inetPton6 := fun text =>
      if text = "::1".toList ∨ text = "0::1".toList then some (List.replicate 15 '\x00' ++ ['\x01'])
      else none }

/-- A slash in the user part, a second `@`, and a wildcard beside an address that is spelled in
    another way: three accepted masks that match less than they say. -/
theorem eline_masks_astray :
    (validElineMask {} "a/b@host".toList = true ∧ wildcardMatch "a/b".toList "a/b".toList = true ∧
      hostPartMatches {} "host".toList "host".toList = true ∧
      (⟨.kline, "a/b@host".toList, 0⟩ : BanExceptionRecord).matches {} ["a/b@host".toList] = false) ∧
    (validElineMask {} "a@b@c".toList = true ∧ ∀ user address, IsIdentity user address →
      (⟨.kline, "a@b@c".toList, 0⟩ : BanExceptionRecord).matches {} [user ++ '@' :: address] = false) ∧
    (validElineMask loopbackSpellings "*@::1".toList = true ∧
      wildcardMatch "*".toList "a".toList = true ∧
      hostPartMatches loopbackSpellings "::1".toList "0::1".toList = true ∧
      (⟨.kline, "*@::1".toList, 0⟩ : BanExceptionRecord).matches loopbackSpellings
        ["a@0::1".toList] = false) := by
  refine ⟨by decide, ⟨by decide, fun user address hidentity => ?_⟩, by decide⟩
  have hat : '@' ∈ "b@c".toList := by decide
  have hmask : (⟨.kline, "a@b@c".toList, 0⟩ : BanExceptionRecord).mask =
      "a".toList ++ '@' :: "b@c".toList := rfl
  rw [matches_singleton]
  exact matchesIdentity_two hat hmask hidentity

end ScratchIrcd
