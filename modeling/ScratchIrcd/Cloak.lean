/-
  File:      ScratchIrcd/Cloak.lean
  Subject:   Cloaked hosts and user mode +x (src/cloak.c, src/usermode_policy.c).

  HMAC-SHA256 and `inet_pton` are parameters (`External`). Cloaking is presentation only:
  `realIp` and `realHost` never change here.
-/
import ScratchIrcd.State

namespace ScratchIrcd

open CText

/-- One hexadecimal digit, upper case. -/
def hexDigit (n : Nat) : Char :=
  if n < 10 then Char.ofNat ('0'.toNat + n) else Char.ofNat ('A'.toNat + (n - 10))

/-- `%08X` of a 32-bit value. -/
def hex8 (n : Nat) : Text :=
  [28, 24, 20, 16, 12, 8, 4, 0].map fun shift => hexDigit ((n >>> shift) % 16)

/-- The part of a normalized host after the first dot that a letter follows. -/
def hostSuffix : Text → Option Text
  | '.' :: c :: rest => if isAsciiAlpha c then some (c :: rest) else hostSuffix (c :: rest)
  | _ :: rest => hostSuffix rest
  | [] => none

section

variable (config : ServerConfig) (ext : External)

/-- `hmac32`. -/
def hmac32 (label : String) (data : Text) : Option Nat :=
  if config.cloakKey.isEmpty then none else ext.hmac32 config.cloakKey label.toList data

/-- `cloak_ipv4` and `cloak_ipv6`: three tokens over ever shorter prefixes of the address. -/
def cloakAddress (family : String) (labels : List String) (address : Text) (sizes : List Nat) :
    Option Text := do
  let tokens ← (labels.zip sizes).mapM fun (label, size) =>
    hmac32 config ext (family ++ "/" ++ label) (address.take size)
  return tokens.flatMap (fun token => hex8 token ++ ['.']) ++ "IP".toList

/-- `cloak_hostname`: fails when the result does not fit a host field. -/
def cloakHostname (host : Text) : Option Text :=
  if host.isEmpty || decide (ircHostMax < host.length) then none
  else
    let normalized := host.map asciiLower
    match hmac32 config ext "hostname" normalized with
    | none => none
    | some token =>
        let cloak := config.cloakPrefix ++ '-' :: hex8 token ++
          (match hostSuffix normalized with
            | some suffix => '.' :: suffix
            | none => [])
        if cloak.length ≤ ircHostMax then some cloak else none

/-- `cloak_generate`. -/
def cloakGenerate (realIp realHost : Text) : Option Text :=
  if config.cloakPrefix.isEmpty || config.cloakKey.isEmpty then none
  else if !realHost.isEmpty then cloakHostname config ext realHost
  else match ext.inetPton4 realIp with
    | some address => cloakAddress config ext "ipv4" ["full", "24", "16"] address [4, 3, 2]
    | none =>
        match ext.inetPton6 realIp with
        | some address => cloakAddress config ext "ipv6" ["full", "64", "48"] address [16, 8, 6]
        | none => none

end

/-- The host a client has without a cloak: the verified name, else the address. -/
def Client.realIdentity (c : Client) : Text := if c.realHost.isEmpty then c.realIp else c.realHost

/-- `cloak_refresh_display_host`: a vhost stays; a cloak that cannot be made falls back to the
    real host. -/
def Client.refreshDisplayHost (config : ServerConfig) (ext : External) (c : Client) : Client :=
  if ClientMode.vhost ∈ c.modes then c
  else if ClientMode.cloaked ∈ c.modes then
    let host := (cloakGenerate config ext c.realIp c.realHost).getD c.realIdentity
    { c with displayHost := bounded ircHostMax host }
  else { c with displayHost := bounded ircHostMax c.realIdentity }

/-- `usermode_apply_cloak`. -/
def Client.applyCloak (config : ServerConfig) (ext : External) (c : Client) : Client :=
  { c with modes := insert ClientMode.cloaked c.modes }.refreshDisplayHost config ext

/-- `usermode_remove_cloak`, from a `MODE -x` of the client's own. -/
def Client.removeCloak (c : Client) : Client :=
  let c := { c with modes := c.modes.erase .cloaked, history := { c.history with uncloaked := true } }
  if ClientMode.vhost ∈ c.modes then c
  else { c with displayHost := bounded ircHostMax c.realIdentity }

end ScratchIrcd
