/-
  File:      ScratchIrcd/Names.lean
  Subject:   RFC1459 casemapping and the tables keyed by it (src/hash.c, and the checks on
             nicknames and channel names that decide what may become a key).

  Three notions of "the same name" meet in this server: the hash tables and the IRCNOCASE
  collation of the ChanServ database fold with `ircFold`; NickServ's database and
  `strcasecmp` fold ASCII letters only; some columns compare bytes. `asciiLower` refines
  `ircFold` (`nameEq_of_strcasecmpEq`), not the other way round.
-/
import ScratchIrcd.Lib.CText
import ScratchIrcd.Lib.ChainedTable
import Mathlib.Tactic.IntervalCases

namespace ScratchIrcd

open CText

variable {a b : Text}

/-- `irc_fold`: ASCII letters to lower case, and `{}|~` onto `[]\^`. -/
def ircFold (c : Char) : Char :=
  if 'A' ≤ c ∧ c ≤ 'Z' then Char.ofNat (c.toNat + 32)
  else if c = '{' then '['
  else if c = '}' then ']'
  else if c = '|' then '\\'
  else if c = '~' then '^'
  else c

/-- `rfc1459_fold` of channel_policy.c and presence.c: the same classes, with the braces as
    representatives. -/
def rfc1459Fold (c : Char) : Char :=
  if 'A' ≤ c ∧ c ≤ 'Z' then Char.ofNat (c.toNat + 32)
  else if c = '[' then '{'
  else if c = ']' then '}'
  else if c = '\\' then '|'
  else if c = '^' then '~'
  else c

/-- `hash_ci`, in the arithmetic of a 64-bit `unsigned long`. -/
def hashCi (s : Text) : Nat :=
  s.foldl (fun h c => ((h <<< 5 + h) % 2 ^ 64) ^^^ (ircFold c).toNat) 5381

/-- `key_equal_ci`; also equality under the IRCNOCASE collation. -/
def nameEq (a b : Text) : Bool := foldEq ircFold a b

theorem hashCi_eq_foldl_map (s : Text) :
    hashCi s = (s.map ircFold).foldl (fun h c => ((h <<< 5 + h) % 2 ^ 64) ^^^ c.toNat) 5381 := by
  rw [List.foldl_map]
  rfl

theorem hashCi_congr (h : nameEq a b = true) : hashCi a = hashCi b := by
  rw [hashCi_eq_foldl_map, hashCi_eq_foldl_map, foldEq_iff.mp h]

/-- Keys of the server's tables: text, compared and hashed after folding. -/
def ircKeys : Keying Text where
  eqv := nameEq
  hash := hashCi
  refl := foldEq_refl
  symm := foldEq_symm
  trans := foldEq_trans
  hash_congr := hashCi_congr

/-- `HashTable` of hash.h. -/
abbrev HashTable (V : Type) := ChainedTable ircKeys V

@[simp] theorem ircKeys_eqv (a b : Text) : ircKeys.eqv a b = nameEq a b := rfl

@[simp] theorem nameEq_refl (a : Text) : nameEq a a = true := foldEq_refl a

theorem nameEq_symm (h : nameEq a b = true) : nameEq b a = true := foldEq_symm h

theorem nameEq_comm (a b : Text) : nameEq a b = nameEq b a := ircKeys.eqv_comm a b

theorem nameEq_trans {c : Text} (hab : nameEq a b = true) (hbc : nameEq b c = true) :
    nameEq a c = true := foldEq_trans hab hbc

theorem length_eq_of_nameEq (h : nameEq a b = true) : a.length = b.length := by
  have := congrArg List.length (foldEq_iff.mp h)
  simpa using this

/-- Equal names answer every comparison alike, on either side. -/
theorem nameEq_congr (h : nameEq a b = true) (c : Text) : nameEq a c = nameEq b c :=
  ircKeys.eqv_congr h c

theorem nameEq_congr_right (h : nameEq a b = true) (c : Text) : nameEq c a = nameEq c b := by
  rw [nameEq_comm c a, nameEq_comm c b, nameEq_congr h]

theorem ircFold_asciiLower (c : Char) : ircFold c = ircFold (asciiLower c) := by
  unfold asciiLower
  split
  · rename_i h
    have h1 : 65 ≤ c.toNat := h.1
    have h2 : c.toNat ≤ 90 := h.2
    rw [← Char.ofNat_toNat c]
    generalize c.toNat = n at h1 h2
    interval_cases n <;> rfl
  · rfl

/-- Below the letters nothing is folded. -/
theorem eq_of_ircFold_low {c d : Char} (hd : d.toNat < 65) (h : ircFold c = d) : c = d := by
  unfold ircFold at h
  split at h
  · rename_i hc
    have h1 : 65 ≤ c.toNat := hc.1
    have h2 : c.toNat ≤ 90 := hc.2
    subst h
    generalize c.toNat = n at h1 h2 hd
    interval_cases n <;> exact absurd hd (by decide)
  · split_ifs at h
    · subst h; exact absurd hd (by decide)
    · subst h; exact absurd hd (by decide)
    · subst h; exact absurd hd (by decide)
    · subst h; exact absurd hd (by decide)
    · exact h

/-- A text below the letters is equal to itself only. -/
theorem eq_of_nameEq_low (ha : ∀ x ∈ a, x.toNat < 65) (h : nameEq a b = true) : a = b := by
  have hfold : ∀ x ∈ a, ircFold x = x := by
    intro x hx
    have hlow := ha x hx
    unfold ircFold
    split_ifs with h1 h2 h3 h4 h5
    · have : 65 ≤ x.toNat := h1.1
      omega
    all_goals first | rfl | (subst_vars; exact absurd hlow (by decide))
  induction a generalizing b with
  | nil => exact (List.length_eq_zero_iff.mp (length_eq_of_nameEq h).symm).symm
  | cons x a ih =>
    cases b with
    | nil => cases length_eq_of_nameEq h
    | cons y b =>
      have hmaps := foldEq_iff.mp h
      rw [List.map_cons, List.map_cons, List.cons.injEq] at hmaps
      obtain rfl : y = x :=
        eq_of_ircFold_low (ha x List.mem_cons_self) (hmaps.1.symm.trans (hfold x List.mem_cons_self))
      rw [ih (fun z hz => ha z (List.mem_cons_of_mem _ hz)) (foldEq_iff.mpr hmaps.2)
        fun z hz => hfold z (List.mem_cons_of_mem _ hz)]

/-- `IRC_NICK_MAX`, `IRC_USER_MAX`, `IRC_REALNAME_MAX`, `IRC_HOST_MAX`, `IRCD_OPER_NAME_MAX`,
    `IRCD_OPER_HASH_MAX`. -/
def ircNickMax : Nat := 15
def ircUserMax : Nat := 10
def ircRealnameMax : Nat := 127
def ircHostMax : Nat := 63
def ircServerNameMax : Nat := 63
def ircdOperNameMax : Nat := 63
def ircdOperHashMax : Nat := 255

/-- `IRC_CHANNEL_NAME_MAX`, `IRC_CHANNEL_KEY_MAX`, `IRC_CHANNEL_MASK_MAX`. -/
def ircChannelNameMax : Nat := 32
def ircChannelKeyMax : Nat := 63
def ircChannelMaskMax : Nat := 255

/-- `IRC_LINE_CONTENT_MAX`: a line without its CR LF. -/
def ircLineContentMax : Nat := 510

/-- `isalpha` in the C locale. -/
def isAsciiAlpha (c : Char) : Bool := ('a' ≤ c && c ≤ 'z') || ('A' ≤ c && c ≤ 'Z')

/-- The signs a nickname may start with, and may go on with. -/
def nickSigns : Text := ['[', ']', '\\', '\x60', '_', '^', '\x7b', '|', '\x7d']

/-- `valid_nick_char`. -/
def validNickChar (c : Char) : Bool :=
  isAsciiAlpha c || ('0' ≤ c && c ≤ '9') || c == '-' || nickSigns.contains c

/-- `valid_nickname`. -/
def validNickname (nick : Text) : Bool :=
  !nick.isEmpty && decide (nick.length ≤ ircNickMax) &&
    (nick.take 1).all (fun c => isAsciiAlpha c || nickSigns.contains c) && nick.tail.all validNickChar

/-- `strchr(IRC_CHANNEL_PREFIXES, c)` for a non-NUL `c`. -/
def isChannelPrefix (c : Char) : Bool := c == '#' || c == '&'

/-- Does the text start like a channel name? (An empty text does not.) -/
def startsChannel : Text → Bool
  | c :: _ => isChannelPrefix c
  | [] => false

/-- A byte that may stand in a channel name after the first. -/
def channelNameChar (c : Char) : Bool :=
  decide (0x20 < c.toNat) && c != ',' && c != ':' && c.toNat != 0x7f

/-- `channel_name_valid`. -/
def channelNameValid (name : Text) : Bool :=
  startsChannel name && decide (2 ≤ name.length) && decide (name.length ≤ ircChannelNameMax) &&
    name.tail.all channelNameChar

/-- Folding does not change whether a byte may stand in a channel name. -/
theorem channelNameChar_ircFold (c : Char) : channelNameChar (ircFold c) = channelNameChar c := by
  unfold ircFold
  split
  · rename_i hc
    have h1 : 65 ≤ c.toNat := hc.1
    have h2 : c.toNat ≤ 90 := hc.2
    rw [← Char.ofNat_toNat c]
    generalize c.toNat = n at h1 h2
    interval_cases n <;> rfl
  · split_ifs
    · subst_vars; rfl
    · subst_vars; rfl
    · subst_vars; rfl
    · subst_vars; rfl
    · rfl

theorem isChannelPrefix_ircFold (c : Char) : isChannelPrefix (ircFold c) = isChannelPrefix c := by
  rw [Bool.eq_iff_iff]
  simp only [isChannelPrefix, Bool.or_eq_true, beq_iff_eq]
  constructor
  · rintro (h | h)
    · exact .inl (eq_of_ircFold_low (by decide) h)
    · exact .inr (eq_of_ircFold_low (by decide) h)
  · rintro (rfl | rfl)
    · exact .inl rfl
    · exact .inr rfl

/-- A name equal to a valid one is valid. -/
theorem channelNameValid_congr (h : nameEq a b = true) :
    channelNameValid a = channelNameValid b := by
  have folded : ∀ t : Text, channelNameValid (t.map ircFold) = channelNameValid t := by
    intro t
    cases t with
    | nil => rfl
    | cons x t =>
      simp only [channelNameValid, List.map_cons, startsChannel, isChannelPrefix_ircFold,
        List.length_cons, List.length_map, List.tail_cons, List.all_map]
      congr 2
      exact funext channelNameChar_ircFold
  rw [← folded a, ← folded b, foldEq_iff.mp h]

/-- No control character and no blank is in a valid name. -/
theorem lt_of_mem_valid {name : Text} (h : channelNameValid name = true) {x : Char}
    (hx : x ∈ name) : 0x20 < x.toNat := by
  simp only [channelNameValid, Bool.and_eq_true] at h
  obtain ⟨⟨⟨hstart, -⟩, -⟩, hchars⟩ := h
  cases name with
  | nil => cases hx
  | cons y rest =>
    rcases List.mem_cons.mp hx with rfl | hx
    · simp only [startsChannel, isChannelPrefix, Bool.or_eq_true, beq_iff_eq] at hstart
      rcases hstart with rfl | rfl <;> decide
    · have := List.all_eq_true.mp hchars x hx
      simp only [channelNameChar, Bool.and_eq_true, decide_eq_true_eq] at this
      exact this.1.1.1

/-- ASCII-equal names are RFC1459-equal. -/
theorem nameEq_of_strcasecmpEq (h : strcasecmpEq a b = true) :
    nameEq a b = true := foldEq_mono ircFold_asciiLower h

/-- The converse fails on the bracket pairs. -/
example : nameEq "a[".toList "A\x7b".toList = true ∧ strcasecmpEq "a[".toList "A\x7b".toList = false := by
  decide

theorem strcasecmpEq_congr (h : strcasecmpEq a b = true) (x : Text) :
    strcasecmpEq x a = strcasecmpEq x b := by
  unfold strcasecmpEq foldEq
  rw [foldEq_iff.mp h]

/-- What the signs that RFC1459 takes for capitals fold to. -/
def foldedSigns : List Char := ['[', ']', '\\', '^']

theorem asciiLower_eq_ircFold {x : Char} (h : ircFold x ∉ foldedSigns) :
    asciiLower x = ircFold x := by
  unfold ircFold at h ⊢
  unfold asciiLower
  split_ifs at h ⊢
  · rfl
  · exact absurd h (by decide)
  · exact absurd h (by decide)
  · exact absurd h (by decide)
  · exact absurd h (by decide)
  · rfl

/-- On a name without such signs both comparisons agree. -/
theorem strcasecmpEq_of_nameEq (hb : ∀ x ∈ b, ircFold x ∉ foldedSigns) (h : nameEq a b = true) :
    strcasecmpEq a b = true := by
  have hmaps := foldEq_iff.mp h
  have lowered : ∀ t : Text, (∀ x ∈ t.map ircFold, x ∉ foldedSigns) →
      t.map asciiLower = t.map ircFold := by
    intro t ht
    exact List.map_congr_left fun x hx => asciiLower_eq_ircFold (ht _ (List.mem_map_of_mem hx))
  have hfolded : ∀ x ∈ b.map ircFold, x ∉ foldedSigns := by
    intro x hx
    obtain ⟨y, hy, rfl⟩ := List.mem_map.mp hx
    exact hb y hy
  rw [strcasecmpEq, foldEq_iff, lowered a (hmaps ▸ hfolded), lowered b hfolded]
  exact hmaps

end ScratchIrcd
