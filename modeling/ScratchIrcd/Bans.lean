/-
  File:      ScratchIrcd/Bans.lean
  Subject:   KLINE, ZLINE and GEOBAN rows, ELINE exemptions, and what they match
             (src/ban_db.c, src/geoban_db.c, include/eline_policy.h).

  A row counts while it is active: it has no expiry, or one that is still ahead. Reads of the
  database succeed or fail as a whole (`readable`): rows that the source would refuse to read are
  none that it writes. `inet_pton` is the one of `External`.
-/
import ScratchIrcd.ChannelMode

namespace ScratchIrcd

open CText

/-! ## 1. Rows -/

/-- `BanType`. -/
inductive BanType where
  | kline | zline
  deriving DecidableEq, Repr

/-- `BanExceptionType`: the families an exemption is for. -/
inductive BanExceptionType where
  | kline | zline | connectionLimit | dnsbl | geoban
  deriving DecidableEq, Repr

/-- `GeoBanType`. -/
inductive GeoBanType where
  | country | region | asn | org
  deriving DecidableEq, Repr

/-- A row of `bans`. -/
structure BanRecord where
  type : BanType
  mask : Text
  reason : Text := []
  setBy : Text := []
  expiresAt : Nat := 0
  deriving DecidableEq, Repr

/-- A row of `exceptions`. -/
structure BanExceptionRecord where
  type : BanExceptionType
  mask : Text
  expiresAt : Nat := 0
  deriving DecidableEq, Repr

/-- A row of `geo_bans`. -/
structure GeoBanRecord where
  type : GeoBanType
  value : Text
  reason : Text := []
  expiresAt : Nat := 0
  deriving DecidableEq, Repr

/-- The fields of `ClientGeoIP` that rows are matched against or WHOIS shows. -/
structure ClientGeoIP where
  network : Text := []
  continentCode : Text := []
  countryCode : Text := []
  countryName : Text := []
  regionCode : Text := []
  regionName : Text := []
  city : Text := []
  asn : Nat := 0
  organization : Text := []
  deriving DecidableEq, Repr

/-- bans.db. -/
structure BanTables where
  /-- It can be opened and read. -/
  readable : Bool := true
  bans : List BanRecord := []
  exceptions : List BanExceptionRecord := []
  geoBans : List GeoBanRecord := []

/-- `expires_at=0 OR expires_at>unixepoch()`. -/
def stillActive (now expiresAt : Nat) : Bool := expiresAt = 0 || now < expiresAt

/-! ## 2. Wildcards -/

/-- The loop of `wildcard_match`: `star` holds the pattern after the last `*` and the text to
    retry it from. One unit of fuel is one turn of the loop. -/
def wildcardLoop : Nat → Text → Text → Option (Text × Text) → Bool
  | 0, _, _, _ => false
  | _ + 1, p, [], _ => p.all (· == '*')
  | n + 1, p, t :: ts, star =>
      let retry := match star with
        | some (sp, _ :: rest) => wildcardLoop n sp rest (some (sp, rest))
        | _ => false
      match p with
      | '*' :: p' => wildcardLoop n p' (t :: ts) (some (p', t :: ts))
      | c :: p' =>
          if c == '?' || asciiLower c == asciiLower t then wildcardLoop n p' ts star else retry
      | [] => retry

/-- `wildcard_match`. Every turn shortens the text, the pattern or the text to retry from. -/
def wildcardMatch (pattern text : Text) : Bool :=
  wildcardLoop ((text.length + 1) * (pattern.length + text.length + 2)) pattern text none

/-- The text up to the last `@` and behind it. -/
def splitAtLast (identity : Text) : Option (Text × Text) :=
  if identity.contains '@' then
    some (((identity.reverse.dropWhile (· != '@')).tail).reverse,
      (identity.reverse.takeWhile (· != '@')).reverse)
  else none

section

variable (ext : External)

/-- `numeric_ip_equal` of ban_db.c. -/
def numericIpEqual (left right : Text) : Bool :=
  match ext.inetPton4 left, ext.inetPton4 right with
  | some l, some r => l == r
  | _, _ =>
      match ext.inetPton6 left, ext.inetPton6 right with
      | some l, some r => l == r
      | _, _ => false

/-- `(unsigned char)(0xFF << (8 - remainder))` -/
def byteMask (remainder : Nat) : Nat := (0xFF <<< (8 - remainder)) % 256

/-- The comparison of `cidr_match`: whole bytes, then the high bits of the byte after them. -/
def prefixAgrees (bits : Nat) (network candidate : Text) : Bool :=
  network.take (bits / 8) == candidate.take (bits / 8) &&
    (bits % 8 == 0 ||
      match network.drop (bits / 8), candidate.drop (bits / 8) with
      | a :: _, b :: _ => a.toNat &&& byteMask (bits % 8) == b.toNat &&& byteMask (bits % 8)
      | _, _ => false)

/-- `cidr_match`. -/
def cidrMatch (cidr address : Text) : Bool :=
  let network := cidr.takeWhile (· != '/')
  let rest := (cidr.dropWhile (· != '/')).tail
  if !cidr.contains '/' || network.isEmpty || rest.contains '/' ||
      decide (45 < network.length) then false
  else
    match parseUint rest with
    | none => false
    | some bits =>
        match ext.inetPton4 network with
        | some net =>
            decide (bits ≤ 32) && (ext.inetPton4 address).any (prefixAgrees bits net)
        | none =>
            match ext.inetPton6 network with
            | some net =>
                decide (bits ≤ 128) && (ext.inetPton6 address).any (prefixAgrees bits net)
            | none => false

/-- The two parts of `cidr_identity_match` and `exact_ip_identity_equal`: the user before the last
    `@`, if the mask has one, and the address. -/
def addressIdentityMatch (test : Text → Text → Bool) (pattern identity : Text) : Bool :=
  if ircChannelMaskMax < pattern.length ∨ ircChannelMaskMax < identity.length then false
  else
    match splitAtLast pattern, splitAtLast identity with
    | some (user, address), some (user', address') => wildcardMatch user user' && test address address'
    | some _, none => false
    | none, some (_, address') => test pattern address'
    | none, none => test pattern identity

/-- `cidr_identity_match`. -/
def cidrIdentityMatch (pattern identity : Text) : Bool :=
  pattern.contains '/' && addressIdentityMatch (cidrMatch ext) pattern identity

/-- `exact_ip_identity_equal`. -/
def exactIpIdentityEqual (pattern identity : Text) : Bool :=
  addressIdentityMatch (numericIpEqual ext) pattern identity

def hasWildcard (mask : Text) : Bool := mask.contains '*' || mask.contains '?'

/-- `ban_record_matches`, for one of the two identities. -/
def BanRecord.matchesIdentity (r : BanRecord) (identity : Text) : Bool :=
  if r.type = .zline ∧ r.mask.contains '/' then cidrMatch ext r.mask identity
  else if r.type = .zline ∧ hasWildcard r.mask = false then numericIpEqual ext r.mask identity
  else wildcardMatch r.mask identity

/-- `ban_record_matches`. -/
def BanRecord.matches (r : BanRecord) (identities : List Text) : Bool :=
  identities.any (r.matchesIdentity ext)

/-- `ban_exception_record_matches`, for one of the two identities. -/
def BanExceptionRecord.matchesIdentity (r : BanExceptionRecord) (identity : Text) : Bool :=
  if r.mask.contains '/' then cidrIdentityMatch ext r.mask identity
  else
    (hasWildcard r.mask = false && exactIpIdentityEqual ext r.mask identity) ||
      wildcardMatch r.mask identity

/-- `ban_exception_record_matches`. -/
def BanExceptionRecord.matches (r : BanExceptionRecord) (identities : List Text) : Bool :=
  identities.any (r.matchesIdentity ext)

/-- `ban_db_match`. -/
def BanTables.banMatch (b : BanTables) (now : Nat) (type : BanType) (identities : List Text) :
    Option BanRecord :=
  b.bans.find? fun r => r.type = type && stillActive now r.expiresAt && r.matches ext identities

/-- `ban_exception_db_match(..) == 1`. -/
def BanTables.exceptionMatch (b : BanTables) (now : Nat) (type : BanExceptionType)
    (identities : List Text) : Bool :=
  b.readable && b.exceptions.any fun r =>
    r.type = type && stillActive now r.expiresAt && r.matches ext identities

/-- `eline_policy_match_server` with one identity. -/
def BanTables.elinePolicyMatch (b : BanTables) (now : Nat) (type : BanExceptionType)
    (identity : Text) : Bool :=
  !identity.isEmpty && b.exceptionMatch ext now type [identity]

end

/-! ## 3. GEOBAN -/

/-- One member of a bracket expression, after a backslash was skipped. -/
def classSign : Text → Option (Char × Text)
  | '\\' :: x :: rest => some (asciiLower x, rest)
  | x :: rest => some (asciiLower x, rest)
  | [] => none

/-- The loop of `class_match` up to the closing bracket. -/
def classLoop (c : Char) : Nat → Text → Bool → Option (Bool × Text)
  | 0, _, _ => none
  | _ + 1, [], _ => none
  | _ + 1, ']' :: rest, matched => some (matched, rest)
  | n + 1, p, matched =>
      match classSign p with
      | none => none
      | some (first, '-' :: y :: rest) =>
          if y = ']' then classLoop c n ('-' :: y :: rest) (matched || c == first)
          else
            match classSign (y :: rest) with
            | none => none
            | some (last, rest) => classLoop c n rest (matched || (first ≤ c && c ≤ last))
      | some (first, rest) => classLoop c n rest (matched || c == first)

/-- `class_match`. -/
def classMatch (c : Char) (p : Text) : Option (Bool × Text) :=
  let negate := p.head? = some '!' || p.head? = some '^'
  let p := if negate then p.tail else p
  (classLoop (asciiLower c) (p.length + 1) p false).map fun r => (r.1 != negate, r.2)

/-- `glob_match_ci`. Every call shortens the pattern or the text. -/
def globMatchCi : Nat → Text → Text → Bool
  | 0, _, _ => false
  | _ + 1, [], text => text.isEmpty
  | n + 1, '*' :: p, text =>
      globMatchCi n p text || match text with
        | [] => false
        | _ :: rest => globMatchCi n ('*' :: p) rest
  | _ + 1, _ :: _, [] => false
  | n + 1, '?' :: p, _ :: text => globMatchCi n p text
  | n + 1, '[' :: p, t :: text =>
      match classMatch t p with
      | some (true, p) => globMatchCi n p text
      | _ => false
  | n + 1, '\\' :: x :: p, t :: text => asciiLower x == asciiLower t && globMatchCi n p text
  | n + 1, x :: p, t :: text => asciiLower x == asciiLower t && globMatchCi n p text

/-- `geoban_record_matches`. -/
def GeoBanRecord.matches (r : GeoBanRecord) (geoip : ClientGeoIP) : Bool :=
  match r.type with
  | .country => !geoip.countryCode.isEmpty && strcasecmpEq r.value geoip.countryCode
  | .region => !geoip.regionCode.isEmpty && strcasecmpEq r.value geoip.regionCode
  | .asn => geoip.asn != 0 && r.value == decimal geoip.asn
  | .org =>
      !geoip.organization.isEmpty &&
        globMatchCi (r.value.length + geoip.organization.length + 1) r.value geoip.organization

/-- `geoban_db_match`. -/
def BanTables.geoBanMatch (b : BanTables) (now : Nat) (geoip : ClientGeoIP) : Option GeoBanRecord :=
  b.geoBans.find? fun r => stillActive now r.expiresAt && r.matches geoip

end ScratchIrcd
