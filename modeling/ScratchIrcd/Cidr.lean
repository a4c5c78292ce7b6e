/-
  File:      ScratchIrcd/Cidr.lean
  Subject:   CIDR masks: what ZLINE accepts (`valid_cidr_mask`) and what they match (`cidr_match`).

  Both read the address before the slash with `inet_pton`, IPv4 first, and the number behind it
  with `strtoul`. Of `inet_pton` nothing is assumed but the size of what it returns.
-/
import ScratchIrcd.BanSweep
import ScratchIrcd.Lib.BitPrefix

namespace ScratchIrcd

open CText

variable {block : CidrBlock} {mask : Text}

/-! ## 1. Addresses -/

/-- `AF_INET`, `AF_INET6`. -/
inductive AddressFamily where
  | inet | inet6
  deriving DecidableEq, Repr

/-- Bytes of an address. -/
def AddressFamily.size : AddressFamily → Nat
  | .inet => 4
  | .inet6 => 16

namespace External

/-- `inet_pton` of a family. -/
def inetPton (ext : External) : AddressFamily → Text → Option Text
  | .inet => ext.inetPton4
  | .inet6 => ext.inetPton6

/-- What is documented of `inet_pton`: an address has the bytes of its family. -/
def PtonSized (ext : External) : Prop :=
  ∀ family text address, ext.inetPton family text = some address →
    address.length = family.size ∧ ∀ b ∈ address, b.toNat < 256

end External

/-- The bytes of an address as numbers. -/
def addressBytes (address : Text) : List Nat := address.map Char.toNat

theorem toNat_injective : Function.Injective Char.toNat :=
  fun _ _ h => Char.ext (UInt32.toNat_inj.mp h)

/-- The comparison of `cidr_match` is equality of the first bits. -/
theorem prefixAgrees_iff {network candidate : Text} (hnetwork : ∀ b ∈ network, b.toNat < 256)
    (hcandidate : ∀ b ∈ candidate, b.toNat < 256) (hlen : network.length = candidate.length)
    {bits : Nat} (hbits : bits ≤ 8 * network.length) :
    prefixAgrees bits network candidate = true ↔
      BitPrefix.Agree bits (addressBytes candidate) (addressBytes network) := by
  have hx : ∀ b ∈ addressBytes candidate, b < 256 := by
    intro b hb
    obtain ⟨c, hc, rfl⟩ := List.mem_map.mp hb
    exact hcandidate c hc
  have hy : ∀ b ∈ addressBytes network, b < 256 := by
    intro b hb
    obtain ⟨c, hc, rfl⟩ := List.mem_map.mp hb
    exact hnetwork c hc
  have hsize : (addressBytes candidate).length = (addressBytes network).length := by
    rw [addressBytes, addressBytes, List.length_map, List.length_map, hlen]
  have hfits : bits ≤ 8 * (addressBytes candidate).length := by
    rw [addressBytes, List.length_map, ← hlen]
    exact hbits
  rw [BitPrefix.agree_iff hx hy hsize hfits]
  have htake : (addressBytes candidate).take (bits / 8) = (addressBytes network).take (bits / 8) ↔
      network.take (bits / 8) = candidate.take (bits / 8) := by
    rw [addressBytes, addressBytes, ← List.map_take, ← List.map_take,
      (List.map_injective_iff.mpr toNat_injective).eq_iff, eq_comm]
  unfold prefixAgrees
  rw [Bool.and_eq_true, beq_iff_eq, htake]
  refine and_congr_right fun _ => ?_
  rw [Bool.or_eq_true, beq_iff_eq]
  by_cases hrest : bits % 8 = 0
  · simp only [hrest, true_or]
  · -- a byte is left on both sides
    have hin : bits / 8 < network.length := by omega
    have hin' : bits / 8 < candidate.length := by omega
    refine or_congr_right ?_
    rw [List.drop_eq_getElem_cons hin, List.drop_eq_getElem_cons hin']
    have hget : ∀ {address : Text} (h : bits / 8 < address.length),
        (addressBytes address).getD (bits / 8) 0 = (address[bits / 8]).toNat := by
      intro address h
      rw [addressBytes, List.getD_eq_getElem _ _ (by rwa [List.length_map]), List.getElem_map]
    rw [hget hin, hget hin', beq_iff_eq, eq_comm]
    rfl

/-! ## 2. Masks -/

/-- The network a mask names: family, address and number of bits. -/
structure CidrBlock where
  family : AddressFamily
  network : Text
  bits : Nat
  deriving DecidableEq

/-- The mask is the text of the block: the address before the slash, of the first family that
    reads it, and the number behind it. -/
structure CidrBlock.Reads (ext : External) (block : CidrBlock) (mask : Text) : Prop where
  network : ext.inetPton block.family (mask.takeWhile (· != '/')) = some block.network
  first : block.family = .inet6 → ext.inetPton4 (mask.takeWhile (· != '/')) = none
  bits : parseUint ((mask.dropWhile (· != '/')).tail) = some block.bits

section

variable {ext : External}

/-- What `valid_cidr_mask` accepts. -/
theorem validCidrMask_iff : Network.validCidrMask ext mask = true ↔
    (mask.takeWhile (· != '/')).isEmpty = false ∧
      ((mask.dropWhile (· != '/')).tail).contains '/' = false ∧
      (mask.takeWhile (· != '/')).length ≤ ircIpMax ∧
      ∃ block : CidrBlock, block.Reads ext mask ∧ block.bits ≤ 8 * block.family.size := by
  unfold Network.validCidrMask
  simp only [Bool.and_eq_true, Bool.not_eq_true', decide_eq_true_eq, Option.any_eq_true, and_assoc]
  refine and_congr_right fun _ => and_congr_right fun _ => and_congr_right fun _ => ?_
  constructor
  · rintro ⟨bits, hbits, htest⟩
    cases hnet : ext.inetPton4 (mask.takeWhile (· != '/')) with
    | some network =>
      rw [hnet] at htest
      exact ⟨⟨.inet, network, bits⟩, ⟨hnet, fun h => AddressFamily.noConfusion h, hbits⟩,
        of_decide_eq_true htest⟩
    | none =>
      rw [hnet] at htest
      simp only [Option.isSome_none, Bool.false_eq_true, if_false, Bool.and_eq_true,
        decide_eq_true_eq] at htest
      obtain ⟨network, hnetwork⟩ := Option.isSome_iff_exists.mp htest.1
      exact ⟨⟨.inet6, network, bits⟩, ⟨hnetwork, fun _ => hnet, hbits⟩, htest.2⟩
  · rintro ⟨⟨family, network, bits⟩, hreads, hle⟩
    refine ⟨bits, hreads.bits, ?_⟩
    cases family with
    | inet =>
      have hnet : ext.inetPton4 (mask.takeWhile (· != '/')) = some network := hreads.network
      rw [hnet]
      exact decide_eq_true hle
    | inet6 =>
      have hnet : ext.inetPton6 (mask.takeWhile (· != '/')) = some network := hreads.network
      rw [hreads.first rfl, hnet]
      exact decide_eq_true hle

/-- A mask is the text of one block. -/
theorem CidrBlock.Reads.unique {block' : CidrBlock} (h : block.Reads ext mask)
    (h' : block'.Reads ext mask) : block' = block := by
  obtain ⟨family, network, bits⟩ := block
  obtain ⟨family', network', bits'⟩ := block'
  have hbits : bits' = bits := Option.some.inj (h'.bits.symm.trans h.bits)
  have hfamily : family' = family := by
    cases family <;> cases family'
    · rfl
    · exact absurd (h.network.symm.trans (h'.first rfl)) (Option.some_ne_none _)
    · exact absurd (h'.network.symm.trans (h.first rfl)) (Option.some_ne_none _)
    · rfl
  subst hfamily
  have hnetwork : network' = network := Option.some.inj (h'.network.symm.trans h.network)
  rw [hbits, hnetwork]

/-- A number behind a slash needs the slash. -/
theorem contains_slash_of_parseUint {bits : Nat}
    (h : parseUint ((mask.dropWhile (· != '/')).tail) = some bits) : mask.contains '/' = true := by
  rw [List.contains_iff_mem]
  by_contra hnone
  have hall : mask.dropWhile (· != '/') = [] := by
    refine List.dropWhile_eq_nil_iff.mpr fun x hx => ?_
    rw [bne_iff_ne]
    exact fun heq => hnone (heq ▸ hx)
  rw [hall] at h
  cases h

/-- `cidr_match` of a mask that is the text of a block. -/
theorem cidrMatch_of_reads (hvalid : Network.validCidrMask ext mask = true)
    (hreads : block.Reads ext mask) (address : Text) :
    cidrMatch ext mask address =
      (ext.inetPton block.family address).any (prefixAgrees block.bits block.network) := by
  obtain ⟨hne, hone, hlen, block', hreads', hle⟩ := validCidrMask_iff.mp hvalid
  obtain rfl := hreads.unique hreads'
  have hlen' : decide (45 < (mask.takeWhile (· != '/')).length) = false :=
    decide_eq_false (Nat.not_lt.mpr hlen)
  obtain ⟨family, network, bits⟩ := block'
  unfold cidrMatch
  simp only [contains_slash_of_parseUint hreads.bits, hne, hone, hlen', Bool.not_true, Bool.or_self,
    Bool.false_eq_true, if_false, hreads.bits]
  cases family with
  | inet =>
    have hnet : ext.inetPton4 (mask.takeWhile (· != '/')) = some network := hreads.network
    rw [hnet]
    exact (congrArg (· && _) (decide_eq_true hle)).trans (Bool.true_and _)
  | inet6 =>
    have hnet : ext.inetPton6 (mask.takeWhile (· != '/')) = some network := hreads.network
    rw [hreads.first rfl, hnet]
    exact (congrArg (· && _) (decide_eq_true hle)).trans (Bool.true_and _)

/-- An address is in a block: it is of the family and has the first bits of the network. -/
def CidrBlock.Contains (ext : External) (block : CidrBlock) (address : Text) : Prop :=
  ∃ bytes, ext.inetPton block.family address = some bytes ∧
    BitPrefix.Agree block.bits (addressBytes bytes) (addressBytes block.network)

/-- **An accepted mask matches the addresses of its block.** -/
theorem cidrMatch_iff (hext : ext.PtonSized) (hvalid : Network.validCidrMask ext mask = true)
    (hreads : block.Reads ext mask) (address : Text) :
    cidrMatch ext mask address = true ↔ block.Contains ext address := by
  obtain ⟨-, -, -, block', hreads', hle⟩ := validCidrMask_iff.mp hvalid
  obtain rfl := hreads.unique hreads'
  obtain ⟨hsize, hbytes⟩ := hext _ _ _ hreads.network
  rw [cidrMatch_of_reads hvalid hreads, Option.any_eq_true]
  refine exists_congr fun bytes => and_congr_right fun haddress => ?_
  obtain ⟨hsize', hbytes'⟩ := hext _ _ _ haddress
  exact prefixAgrees_iff hbytes hbytes' (hsize.trans hsize'.symm) (hsize ▸ hle)

/-- Blocks of one family whose networks agree in the bits of the wider one: the narrower is in the
    wider. -/
structure CidrBlock.Within (narrow wide : CidrBlock) : Prop where
  family : narrow.family = wide.family
  bits : wide.bits ≤ narrow.bits
  network : BitPrefix.Agree wide.bits (addressBytes narrow.network) (addressBytes wide.network)

theorem CidrBlock.Within.contains {narrow wide : CidrBlock} (h : narrow.Within wide) {address : Text}
    (haddress : narrow.Contains ext address) : wide.Contains ext address := by
  obtain ⟨bytes, hbytes, hagree⟩ := haddress
  exact ⟨bytes, h.family ▸ hbytes, (hagree.mono h.bits).trans h.network⟩

/-- **CIDR matching is equality of the first bits.** A mask that `valid_cidr_mask` accepts names one
    block of at most the bits of its family, and `cidr_match` is true of the addresses that
    `inet_pton` reads in that family with the same first bits. So two masks of the same network
    match the same addresses, and of a block within another every address is matched by both. -/
theorem cidr_match_exact (ext : External) (hext : ext.PtonSized) (mask : Text)
    (hvalid : Network.validCidrMask ext mask = true) :
    ∃ block : CidrBlock, block.Reads ext mask ∧ block.bits ≤ 8 * block.family.size ∧
      (∀ address, cidrMatch ext mask address = true ↔ block.Contains ext address) ∧
      ∀ mask' block', Network.validCidrMask ext mask' = true → CidrBlock.Reads ext block' mask' →
        (block'.Within block → ∀ address, cidrMatch ext mask' address = true →
          cidrMatch ext mask address = true) ∧
        (block'.Within block → block.Within block' → ∀ address,
          cidrMatch ext mask' address = cidrMatch ext mask address) := by
  obtain ⟨-, -, -, block, hreads, hle⟩ := validCidrMask_iff.mp hvalid
  have hmatch := cidrMatch_iff hext hvalid hreads
  refine ⟨block, hreads, hle, hmatch, fun mask' block' hvalid' hreads' => ?_⟩
  have hmatch' := cidrMatch_iff hext hvalid' hreads'
  refine ⟨fun hwithin address h => ?_, fun hwithin hwithin' address => ?_⟩
  · exact (hmatch address).mpr (hwithin.contains ((hmatch' address).mp h))
  · rw [Bool.eq_iff_iff, hmatch, hmatch']
    exact ⟨hwithin.contains, hwithin'.contains⟩

end

/-- An `inet_pton` that reads one network and one address in it. -/
def tenNetwork : External :=
  { inetPton4 := fun text =>
      if text = "10.0.0.0".toList then some ['\n', '\x00', '\x00', '\x00']
      else if text = "10.9.0.1".toList then some ['\n', '\t', '\x00', '\x01']
      else none }

theorem ptonSized_tenNetwork : tenNetwork.PtonSized := by
  intro family text address h
  cases family with
  | inet6 => cases h
  | inet =>
    simp only [External.inetPton, tenNetwork] at h
    split at h
    · rw [← Option.some.inj h]
      exact ⟨rfl, forall_mem_of_all (by decide)⟩
    · split at h
      · rw [← Option.some.inj h]
        exact ⟨rfl, forall_mem_of_all (by decide)⟩
      · cases h

theorem cidr_match_exact_ten :
    cidrMatch tenNetwork "10.0.0.0/8".toList "10.9.0.1".toList = true ∧
    cidrMatch tenNetwork "10.0.0.0/16".toList "10.9.0.1".toList = false ∧
    ∃ block : CidrBlock, block.Reads tenNetwork "10.0.0.0/8".toList ∧
      block.Contains tenNetwork "10.9.0.1".toList := by
  obtain ⟨block, hreads, -, hmatch, -⟩ :=
    cidr_match_exact tenNetwork ptonSized_tenNetwork "10.0.0.0/8".toList (by decide)
  exact ⟨by decide, by decide, block, hreads, (hmatch _).mp (by decide)⟩

end ScratchIrcd
