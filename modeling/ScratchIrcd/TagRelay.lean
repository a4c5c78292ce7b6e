/-
  File:      ScratchIrcd/TagRelay.lean
  Subject:   The message tags of a command (`ircv3_begin_command` of src/ircv3.c and the tag section
             `irc_handle_line` of src/irc.c cuts off).

  Of the tags of a line those that start with `+` are kept for the relay, the last of each key only,
  and the last `label` may open a labeled response. The last of each key is found by a table with
  linear probing (`Lib/ProbeTable`). The framing limit on a line is what keeps the loop below its
  bound on tokens, the table from filling up and the buffer from overflowing.

  * **`client_tags_relayed`** -- from a line that passes the framing, exactly the last `+` tag of each
    key is kept, in order, and the label is that of the last `label` tag if it is a good one.
-/
import Mathlib.Algebra.Order.BigOperators.Group.List
import ScratchIrcd.Input
import ScratchIrcd.Lib.ProbeTable
import ScratchIrcd.State

namespace ScratchIrcd

open CText

variable {rest words : List Text} {token : Text}

/-! ## 1. The code -/

/-- `IRCV3_TAG_TOKEN_MAX`, `IRCV3_TAG_SLOT_COUNT`. -/
def ircv3TagTokenMax : Nat := 2048
def ircv3TagSlotCount : Nat := 4096

/-- `IRCV3_CLIENT_TAG_DATA_MAX`. -/
def ircv3ClientTagDataMax : Nat := ircv3ClientTagSectionMax - 2

/-- `IRCV3_LABEL_MAX`, `IRCV3_LABEL_ENCODED_MAX`. -/
def ircv3LabelMax : Nat := 64
def ircv3LabelEncodedMax : Nat := ircv3LabelMax * 2

/-- What `irc_handle_line` passes on as the tags. -/
def tagSection (line : Text) : Option Text :=
  if line.head? = some '@' ∧ ' ' ∈ line then some (line.take (line.idxOf ' ')).tail else none

/-- The calls of `strtok_r` with at most `max` tokens. -/
def tagTokens : Nat → Text → List Text
  | 0, _ => []
  | max + 1, tags =>
      match strtok (· == ';') tags with
      | none => []
      | some (token, rest) => token :: tagTokens max rest

/-- The bytes before the first `=`. -/
def tagKey (token : Text) : Text := token.takeWhile (· != '=')

/-- What follows the first `=`, if there is one. -/
def tagValue (token : Text) : Option Text :=
  if '=' ∈ token then some (token.dropWhile (· != '=')).tail else none

/-- `decoded_tag_value_length`: a backslash counts with what it escapes, and not at all at the end. -/
def decodedTagValueLength : Text → Nat
  | [] => 0
  | [c] => if c = '\\' then 0 else 1
  | c :: e :: rest => if c = '\\' then decodedTagValueLength rest + 1 else decodedTagValueLength (e :: rest) + 1

/-- `tag_key_hash`. -/
def tagKeyHash (key : Text) : UInt64 :=
  key.foldl (fun hash c => (hash ^^^ c.toNat.toUInt64) * 16777619) 2166136261

/-- The key by its length in `key_lengths`, 16 bits. -/
def storedKey (token : Text) : Text := token.take ((tagKey token).length % 65536)

/-- The slots hold the index of a token. -/
def tagTable (tokens : List Text) : ProbeTable Text Nat where
  size := ircv3TagSlotCount
  home key := (tagKeyHash key).toNat % ircv3TagSlotCount
  home_lt _ := Nat.mod_lt _ (Nat.zero_lt_succ _)
  keyOf index := storedKey (tokens.getD index [])

/-- `tag_slot_for`; `none` stands for a search that does not end. -/
def tagSlotFor (tokens : List Text) (slots : Nat → Option Nat) (index : Nat) : Option Nat :=
  (tagTable tokens).probe slots ((tagTable tokens).keyOf index)

def isClientOnly (token : Text) : Bool := token.head? == some '+'

/-- The label after a `label` token: empty if its value is no good. -/
def labelOf (token : Text) : Text :=
  match tagValue token with
  | some value =>
      if !value.isEmpty && decide (value.length ≤ ircv3LabelEncodedMax) &&
          decide (decodedTagValueLength value ≤ ircv3LabelMax) then value
      else []
  | none => []

/-- The locals `slots` and `label`. -/
structure TagScan where
  slots : Nat → Option Nat := fun _ => none
  label : Text := []

/-- The first loop, from the token at `index` on; `relays` is the capability message-tags. -/
def scanTokens (tokens : List Text) (relays : Bool) : TagScan → Nat → List Text → Option TagScan
  | scan, _, [] => some scan
  | scan, index, token :: rest =>
      let label := if tagKey token = "label".toList then labelOf token else scan.label
      if isClientOnly token && relays then
        (tagSlotFor tokens scan.slots index).bind fun slot =>
          scanTokens tokens relays { slots := Function.update scan.slots slot (some index), label := label }
            (index + 1) rest
      else scanTokens tokens relays { scan with label := label } (index + 1) rest

/-- One token goes to `ircv3_client_tags`, if there is room. -/
def appendToken (out token : Text) : Text :=
  let needed := token.length + (if out.length ≠ 0 then 1 else 0)
  if needed ≤ ircv3ClientTagDataMax - out.length then
    if out.length ≠ 0 then out ++ ';' :: token else token
  else out

/-- The second loop. -/
def relayTokens (tokens : List Text) (relays : Bool) (slots : Nat → Option Nat) :
    Text → Nat → List Text → Option Text
  | out, _, [] => some out
  | out, index, token :: rest =>
      if !isClientOnly token || !relays then relayTokens tokens relays slots out (index + 1) rest
      else (tagSlotFor tokens slots index).bind fun slot =>
        if slots slot ≠ some index then relayTokens tokens relays slots out (index + 1) rest
        else relayTokens tokens relays slots (appendToken out token) (index + 1) rest

/-- What `ircv3_begin_command` leaves: `ircv3_client_tags`, and the label of a labeled response. -/
structure CommandTags where
  clientTags : Text := []
  labeled : Option Text := none

/-- `ircv3_begin_command`; `none` stands for a search that does not end. -/
def ircv3BeginCommand (capabilities : Finset Capability) (tags : Option Text) : Option CommandTags :=
  match tags with
  | none => some {}
  | some tags =>
      let tokens := tagTokens ircv3TagTokenMax tags
      let relays := decide (Capability.messageTags ∈ capabilities)
      (scanTokens tokens relays {} 0 tokens).bind fun scan =>
        (relayTokens tokens relays scan.slots [] 0 tokens).map fun clientTags =>
          { clientTags := clientTags
            labeled :=
              if !scan.label.isEmpty && decide (Capability.labeledResponse ∈ capabilities) &&
                  decide (Capability.batch ∈ capabilities) then some scan.label
              else none }

/-! ## 2. What it is for -/

/-- The tags between the semicolons. -/
def tagWords (tags : Text) : List Text := (tags.splitOn ';').filter (!·.isEmpty)

/-- The tokens that start with `+` and are the last with their key. -/
def lastOfKeys : List Text → List Text
  | [] => []
  | token :: rest =>
      if isClientOnly token = true ∧ ∀ later ∈ rest, tagKey later ≠ tagKey token then token :: lastOfKeys rest
      else lastOfKeys rest

/-- The escapes of tag values. -/
def unescapeTag (c : Char) : Char :=
  if c = ':' then ';' else if c = 's' then ' ' else if c = 'r' then '\r' else if c = 'n' then '\n' else c

def decodeTagValue : Text → Text
  | [] => []
  | [c] => if c = '\\' then [] else [c]
  | c :: e :: rest => if c = '\\' then unescapeTag e :: decodeTagValue rest else c :: decodeTagValue (e :: rest)

/-- A value that can be a label. -/
def GoodLabel (value : Text) : Prop :=
  value ≠ [] ∧ value.length ≤ 128 ∧ (decodeTagValue value).length ≤ 64

instance : DecidablePred GoodLabel := fun _ => inferInstanceAs (Decidable (_ ∧ _ ∧ _))

/-- The value of the last `label` token, if it is good. -/
def lastLabel (tokens : List Text) : Option Text :=
  ((tokens.filter (tagKey · = "label".toList)).getLast?.bind tagValue).filter fun value => decide (GoodLabel value)

theorem length_decodeTagValue (value : Text) : (decodeTagValue value).length = decodedTagValueLength value := by
  induction value using decodeTagValue.induct with
  | case1 | case2 => rfl
  | case3 c hc =>
    unfold decodeTagValue decodedTagValueLength
    rw [if_neg hc, if_neg hc]
    rfl
  | case4 e rest ih =>
    unfold decodeTagValue decodedTagValueLength
    rw [if_pos rfl, if_pos rfl, List.length_cons, ih]
  | case5 c e rest hc ih =>
    unfold decodeTagValue decodedTagValueLength
    rw [if_neg hc, if_neg hc, List.length_cons, ih]

/-! ## 3. The tokens -/

theorem tagWords_semicolon (t : Text) : tagWords (';' :: t) = tagWords t := by
  unfold tagWords
  rw [← List.nil_append (';' :: t), List.splitOn_append_cons_self_of_not_mem List.not_mem_nil]
  rfl

theorem tagWords_word {word : Text} (hne : word ≠ []) (hword : ';' ∉ word) (rest : Text) :
    tagWords (word ++ ';' :: rest) = word :: tagWords rest := by
  unfold tagWords
  rw [List.splitOn_append_cons_self_of_not_mem hword, List.filter_cons_of_pos (by simpa using hne)]

theorem tagWords_single {word : Text} (hne : word ≠ []) (hword : ';' ∉ word) : tagWords word = [word] := by
  unfold tagWords
  rw [List.splitOn_eq_singleton hword, List.filter_cons_of_pos (by simpa using hne), List.filter_nil]

theorem tagWords_dropWhile (t : Text) : tagWords (t.dropWhile (· == ';')) = tagWords t := by
  induction t with
  | nil => rfl
  | cons c t ih =>
    by_cases hc : c = ';'
    · rw [hc, List.dropWhile_cons_of_pos (by decide), ih, tagWords_semicolon]
    · rw [List.dropWhile_cons_of_neg (by simpa using hc)]

/-- A token and the semicolon after it take two bytes, so the bound on tokens is not met. -/
theorem tagTokens_eq {max : Nat} {t : Text} (h : t.length < 2 * max) : tagTokens max t = tagWords t := by
  induction max generalizing t with
  | zero => exact absurd h (Nat.not_lt_zero _)
  | succ max ih =>
    have hlen : (t.dropWhile (· == ';')).length ≤ t.length := (List.dropWhile_sublist _).length_le
    unfold tagTokens strtok
    rw [← tagWords_dropWhile t]
    cases hdrop : t.dropWhile (· == ';') with
    | nil => rfl
    | cons c s =>
      rw [hdrop] at hlen
      dsimp only
      have hc : c ≠ ';' := by
        have hhead := List.head?_dropWhile_not (· == ';') t
        rw [hdrop] at hhead
        simpa using hhead
      set word := (c :: s).takeWhile fun x => !x == ';' with hword
      have hne : word ≠ [] := by
        rw [hword, List.takeWhile_cons_of_pos (by simpa using hc)]
        exact List.cons_ne_nil _ _
      have hmem : ';' ∉ word := fun hin => by simpa using List.mem_takeWhile_imp hin
      have hparts : word ++ (c :: s).dropWhile (fun x => !x == ';') = c :: s := List.takeWhile_append_dropWhile
      have hend := List.head?_dropWhile_not (fun x => !x == ';') (c :: s)
      cases hrest : (c :: s).dropWhile (fun x => !x == ';') with
      | nil =>
        rw [hrest, List.append_nil] at hparts
        have hnone : tagTokens max [] = [] := by
          cases max <;> rfl
        rw [← hparts, tagWords_single hne hmem, List.tail_nil, hnone]
      | cons d rest =>
        rw [hrest] at hparts hend
        obtain rfl : d = ';' := by simpa using hend
        have hshort : rest.length < 2 * max := by
          have hpos := List.length_pos_of_ne_nil hne
          have hsum := congrArg List.length hparts
          simp only [List.length_append, List.length_cons] at hsum hlen
          omega
        rw [← hparts, tagWords_word hne hmem, List.tail_cons, ih hshort]

/-- The bytes of the words with one separator each. -/
def tagWeight (words : List Text) : Nat := (words.map fun word => word.length + 1).sum

def joinTags (words : List Text) : Text := [';'].intercalate words

theorem length_joinTags (h : words ≠ []) : (joinTags words).length + 1 = tagWeight words := by
  unfold joinTags tagWeight
  induction words with
  | nil => exact absurd rfl h
  | cons word words ih =>
    cases words with
    | nil => simp
    | cons next words =>
      rw [List.intercalate_cons_cons, List.map_cons, List.sum_cons, ← ih (List.cons_ne_nil _ _)]
      simp only [List.length_append, List.length_cons, List.length_nil]
      omega

theorem joinTags_concat (h : words ≠ []) (word : Text) :
    joinTags (words ++ [word]) = joinTags words ++ ';' :: word := by
  unfold joinTags
  induction words with
  | nil => exact absurd rfl h
  | cons first words ih =>
    cases words with
    | nil => simp [List.intercalate_cons_cons]
    | cons next words =>
      rw [List.cons_append, List.cons_append, List.intercalate_cons_cons, ← List.cons_append,
        ih (List.cons_ne_nil _ _), List.intercalate_cons_cons]
      simp only [List.append_assoc]

theorem tagWeight_le_of_sublist {words' : List Text} (h : words.Sublist words') :
    tagWeight words ≤ tagWeight words' :=
  (h.map _).sum_le_sum fun _ _ => Nat.zero_le _

theorem tagWeight_tagWords_le (tags : Text) : tagWeight (tagWords tags) ≤ tags.length + 1 := by
  have hall : tagWeight (tags.splitOn ';') = tags.length + 1 := by
    rw [← length_joinTags (List.splitOn_ne_nil _ _), joinTags, List.intercalate_splitOn]
  rw [← hall]
  exact tagWeight_le_of_sublist List.filter_sublist

/-! ## 4. The first loop -/

/-- The key of a client-only token starts with its `+`. -/
theorem isClientOnly_of_key {other : Text} (hkey : tagKey other = tagKey token)
    (h : isClientOnly token = true) : isClientOnly other = true := by
  obtain ⟨tl, rfl⟩ : ∃ tl, token = '+' :: tl := by
    cases token with
    | nil => cases h
    | cons c tl => exact ⟨tl, by rw [Option.some.inj (eq_of_beq h)]⟩
  have hfirst : (tagKey ('+' :: tl)).head? = some '+' := rfl
  rw [← hkey] at hfirst
  cases other with
  | nil => cases hfirst
  | cons c other =>
    unfold tagKey at hfirst
    rw [List.takeWhile_cons] at hfirst
    split at hfirst
    · exact beq_iff_eq.mpr hfirst
    · cases hfirst

/-- The index of the last client-only token of each key, once the tokens from `index` on are in. -/
def latestIndex (m : Text → Option Nat) : Nat → List Text → Text → Option Nat
  | _, [] => m
  | index, token :: rest =>
      latestIndex (if isClientOnly token then Function.update m (tagKey token) (some index) else m) (index + 1) rest

theorem latestIndex_append (m : Text → Option Nat) (index : Nat) (pre rest : List Text) :
    latestIndex m index (pre ++ rest) = latestIndex (latestIndex m index pre) (index + pre.length) rest := by
  induction pre generalizing m index with
  | nil => rfl
  | cons token pre ih =>
    rw [List.cons_append, latestIndex, latestIndex, ih, List.length_cons, Nat.add_assoc, Nat.add_comm 1]

theorem latestIndex_eq {m : Text → Option Nat} {index : Nat} {key : Text}
    (h : ∀ token ∈ rest, tagKey token ≠ key) : latestIndex m index rest key = m key := by
  induction rest generalizing m index with
  | nil => rfl
  | cons token rest ih =>
    rw [latestIndex, ih fun t ht => h t (List.mem_cons_of_mem _ ht)]
    split
    · exact Function.update_of_ne (h token List.mem_cons_self).symm _ _
    · rfl

theorem latestIndex_later (m : Text → Option Nat) (index : Nat) {key : Text}
    (h : ∃ token ∈ rest, tagKey token = key ∧ isClientOnly token = true) :
    ∃ later, index ≤ later ∧ latestIndex m index rest key = some later := by
  induction rest generalizing m index with
  | nil =>
    obtain ⟨token, hmem, -⟩ := h
    cases hmem
  | cons token rest ih =>
    by_cases hrest : ∃ t ∈ rest, tagKey t = key ∧ isClientOnly t = true
    · obtain ⟨later, hle, heq⟩ := ih _ (index + 1) hrest
      exact ⟨later, Nat.le_of_succ_le hle, heq⟩
    · obtain ⟨t, hmem, hkey, hclient⟩ := h
      rcases List.mem_cons.mp hmem with rfl | hmem
      swap
      · exact absurd ⟨t, hmem, hkey, hclient⟩ hrest
      refine ⟨index, Nat.le_refl _, ?_⟩
      rw [latestIndex, if_pos hclient, hkey]
      by_cases hnone : ∀ t ∈ rest, tagKey t ≠ key
      · rw [latestIndex_eq hnone, Function.update_self]
      · -- a token with the key of a client-only one is client-only
        push Not at hnone
        obtain ⟨t', hmem', hkey'⟩ := hnone
        exact absurd ⟨t', hmem', hkey', isClientOnly_of_key (hkey'.trans hkey.symm) hclient⟩ hrest

/-- The label once the tokens are seen. -/
def labelAfter (label : Text) (tokens : List Text) : Text :=
  tokens.foldl (fun label token => if tagKey token = "label".toList then labelOf token else label) label

theorem storedKey_eq (h : token.length < 65536) : storedKey token = tagKey token := by
  have hle : (tagKey token).length ≤ token.length := (List.takeWhile_sublist _).length_le
  unfold storedKey
  rw [Nat.mod_eq_of_lt (Nat.lt_of_le_of_lt hle h)]
  exact List.prefix_iff_eq_take.mp (List.takeWhile_prefix _) |>.symm

section Loops

variable {tokens : List Text} (hshort : ∀ token ∈ tokens, token.length < 65536)

include hshort

theorem keyOf_tagTable {pre : List Text} (h : tokens = pre ++ token :: rest) :
    (tagTable tokens).keyOf pre.length = tagKey token := by
  have hget : tokens.getD pre.length [] = token := by
    simp [h]
  show storedKey (tokens.getD pre.length []) = tagKey token
  rw [hget]
  refine storedKey_eq (hshort token ?_)
  rw [h]
  exact List.mem_append_right _ List.mem_cons_self

/-- After the first loop the table has the last index of each key. -/
theorem exists_scanTokens (pre : List Text) (h : tokens = pre ++ rest) (scan : TagScan)
    {m : Text → Option Nat} (hholds : (tagTable tokens).Holds scan.slots m pre.length)
    (hroom : tokens.length < ircv3TagSlotCount) :
    ∃ slots, scanTokens tokens true scan pre.length rest = some ⟨slots, labelAfter scan.label rest⟩ ∧
      (tagTable tokens).Holds slots (latestIndex m pre.length rest) tokens.length := by
  induction rest generalizing pre scan m with
  | nil =>
    rw [List.append_nil] at h
    exact ⟨scan.slots, rfl, h ▸ hholds⟩
  | cons token rest ih =>
    have hnext : tokens = (pre ++ [token]) ++ rest := by
      rw [h, List.append_assoc, List.singleton_append]
    have hlen : (pre ++ [token]).length = pre.length + 1 := by
      rw [List.length_append, List.length_singleton]
    unfold scanTokens latestIndex
    dsimp only
    rw [Bool.and_true]
    cases hclient : isClientOnly token with
    | true =>
      have hlt : pre.length < (tagTable tokens).size := by
        refine Nat.lt_of_le_of_lt ?_ hroom
        rw [h, List.length_append]
        exact Nat.le_add_right _ _
      obtain ⟨slot, hslot, hholds'⟩ := hholds.insert hlt pre.length
      rw [if_pos rfl, if_pos rfl, tagSlotFor, hslot, Option.bind_some, ← hlen]
      rw [keyOf_tagTable hshort h, ← hlen] at hholds'
      exact ih _ hnext _ hholds'
    | false =>
      rw [if_neg Bool.false_ne_true, if_neg Bool.false_ne_true, ← hlen]
      refine ih _ hnext _ ⟨hholds.placed, hholds.sound, hholds.complete, ?_⟩
      rw [hlen]
      exact Nat.le_succ_of_le hholds.card_le

/-! ## 5. The second loop -/

/-- The search of the second loop comes back to the token itself exactly if no later one has its key. -/
theorem tagSlotFor_scanned {slots : Nat → Option Nat} {count : Nat}
    (hholds : (tagTable tokens).Holds slots (latestIndex (fun _ => none) 0 tokens) count)
    {pre : List Text} (h : tokens = pre ++ token :: rest) (hclient : isClientOnly token = true) :
    ∃ slot, tagSlotFor tokens slots pre.length = some slot ∧
      (slots slot = some pre.length ↔ ∀ later ∈ rest, tagKey later ≠ tagKey token) := by
  have hlatest : latestIndex (fun _ => none) 0 tokens (tagKey token) =
      latestIndex (Function.update (latestIndex (fun _ => none) 0 pre) (tagKey token) (some pre.length))
        (pre.length + 1) rest (tagKey token) := by
    rw [h, latestIndex_append, Nat.zero_add, latestIndex, if_pos hclient]
  have hslotFor : tagSlotFor tokens slots pre.length = (tagTable tokens).probe slots (tagKey token) := by
    rw [tagSlotFor, keyOf_tagTable hshort h]
  rw [hslotFor]
  by_cases hlast : ∀ later ∈ rest, tagKey later ≠ tagKey token
  · rw [latestIndex_eq hlast, Function.update_self] at hlatest
    obtain ⟨slot, hslot, hvalue⟩ := hholds.lookup hlatest
    exact ⟨slot, hslot, iff_of_true hvalue hlast⟩
  · obtain ⟨later, hmem, hkey⟩ : ∃ later ∈ rest, tagKey later = tagKey token := by
      by_contra hnone
      exact hlast fun later hmem hkey => hnone ⟨later, hmem, hkey⟩
    obtain ⟨index, hle, heq⟩ := latestIndex_later
      (Function.update (latestIndex (fun _ => none) 0 pre) (tagKey token) (some pre.length)) (pre.length + 1)
      ⟨later, hmem, hkey, isClientOnly_of_key hkey hclient⟩
    obtain ⟨slot, hslot, hvalue⟩ := hholds.lookup (hlatest.trans heq)
    refine ⟨slot, hslot, iff_of_false (fun hself => ?_) hlast⟩
    have hindex : index = pre.length := Option.some.inj (hvalue.symm.trans hself)
    rw [hindex] at hle
    exact Nat.not_succ_le_self _ hle

end Loops

theorem joinTags_ne_nil (h : words ≠ []) (hwords : ∀ word ∈ words, word ≠ []) :
    (joinTags words).length ≠ 0 := by
  obtain ⟨word, rest, rfl⟩ := List.exists_cons_of_ne_nil h
  have hlen := length_joinTags h
  have hpos := List.length_pos_of_ne_nil (hwords word List.mem_cons_self)
  rw [tagWeight, List.map_cons, List.sum_cons] at hlen
  omega

/-- There is room for a token as long as all of them fit. -/
theorem appendToken_eq {done : List Text} (hdone : ∀ word ∈ done, word ≠ [])
    (hroom : tagWeight (done ++ [token]) ≤ ircv3ClientTagDataMax + 1) :
    appendToken (joinTags done) token = joinTags (done ++ [token]) := by
  unfold appendToken
  dsimp only
  by_cases hnil : done = []
  · subst hnil
    have hfits : token.length + (if (joinTags []).length ≠ 0 then 1 else 0) ≤
        ircv3ClientTagDataMax - (joinTags []).length := by
      simpa [tagWeight, joinTags] using hroom
    rw [if_pos hfits]
    simp [joinTags]
  · have hne := joinTags_ne_nil hnil hdone
    have hlen := length_joinTags hnil
    have hfits : token.length + (if (joinTags done).length ≠ 0 then 1 else 0) ≤
        ircv3ClientTagDataMax - (joinTags done).length := by
      rw [tagWeight, List.map_append, List.sum_append, List.map_singleton, List.sum_singleton] at hroom
      rw [tagWeight] at hlen
      rw [if_pos hne]
      omega
    rw [if_pos hfits, if_pos hne, joinTags_concat hnil]

theorem lastOfKeys_sublist (tokens : List Text) : (lastOfKeys tokens).Sublist tokens := by
  induction tokens with
  | nil => exact List.Sublist.slnil
  | cons token rest ih =>
    unfold lastOfKeys
    split
    · exact ih.cons_cons token
    · exact ih.cons token

/-- The second loop stores the last token of each key, one after the other. -/
theorem relayTokens_eq {tokens : List Text} {slots : Nat → Option Nat}
    (hslot : ∀ pre token rest, tokens = pre ++ token :: rest → isClientOnly token = true → ∃ slot,
      tagSlotFor tokens slots pre.length = some slot ∧ (slots slot = some pre.length ↔ ∀ later ∈
      rest, tagKey later ≠ tagKey token)) (pre done : List Text) (h : tokens = pre ++ rest)
    (hwords : ∀ word ∈ done ++ rest, word ≠ [])
    (hroom : tagWeight (done ++ lastOfKeys rest) ≤ ircv3ClientTagDataMax + 1) :
    relayTokens tokens true slots (joinTags done) pre.length rest = some (joinTags (done ++ lastOfKeys rest)) := by
  induction rest generalizing pre done with
  | nil =>
    unfold relayTokens lastOfKeys
    rw [List.append_nil]
  | cons token rest ih =>
    have hnext : tokens = (pre ++ [token]) ++ rest := by
      rw [h, List.append_assoc, List.singleton_append]
    have hlen : (pre ++ [token]).length = pre.length + 1 := by
      rw [List.length_append, List.length_singleton]
    have hskip : ∀ word ∈ done ++ rest, word ≠ [] := by
      intro word hword
      refine hwords word ?_
      rw [List.mem_append, List.mem_cons]
      exact (List.mem_append.mp hword).imp_right .inr
    unfold relayTokens
    unfold lastOfKeys at hroom ⊢
    cases hclient : isClientOnly token with
    | false =>
      rw [hclient] at hroom
      simp only [Bool.false_eq_true, false_and, if_false, Bool.not_false, Bool.true_or, if_true] at hroom ⊢
      rw [← hlen]
      exact ih _ _ hnext hskip hroom
    | true =>
      obtain ⟨slot, hfound, hself⟩ := hslot pre token rest h hclient
      rw [hclient] at hroom
      simp only [true_and, Bool.not_true, Bool.or_self, Bool.false_eq_true, if_false, hfound, Option.bind_some]
        at hroom ⊢
      by_cases hlast : ∀ later ∈ rest, tagKey later ≠ tagKey token
      · rw [if_pos hlast] at hroom ⊢
        have happend : done ++ token :: lastOfKeys rest = done ++ [token] ++ lastOfKeys rest := by
          rw [List.append_assoc, List.singleton_append]
        rw [happend] at hroom ⊢
        have hdone : ∀ word ∈ done, word ≠ [] := fun word hword => hwords word (List.mem_append_left _ hword)
        rw [if_neg (not_not.mpr (hself.mpr hlast)), ← hlen,
          appendToken_eq hdone ((tagWeight_le_of_sublist (List.sublist_append_left _ _)).trans hroom)]
        refine ih _ _ hnext ?_ hroom
        rw [List.append_assoc, List.singleton_append]
        exact hwords
      · rw [if_neg hlast] at hroom ⊢
        rw [if_pos fun heq => hlast (hself.mp heq), ← hlen]
        exact ih _ _ hnext hskip hroom

/-! ## 6. The label -/

theorem labelOf_eq (token : Text) :
    labelOf token = ((tagValue token).filter fun value => decide (GoodLabel value)).getD [] := by
  unfold labelOf
  cases tagValue token with
  | none => rfl
  | some value =>
    have hgood : (!value.isEmpty && decide (value.length ≤ ircv3LabelEncodedMax) &&
        decide (decodedTagValueLength value ≤ ircv3LabelMax)) = decide (GoodLabel value) := by
      rw [← length_decodeTagValue, Bool.eq_iff_iff]
      simp only [Bool.and_eq_true, Bool.not_eq_true', List.isEmpty_eq_false_iff, decide_eq_true_eq, and_assoc]
      rfl
    dsimp only
    rw [hgood, Option.filter_some]
    cases decide (GoodLabel value) with
    | true | false => rfl

theorem labelAfter_eq (tokens : List Text) : labelAfter [] tokens = (lastLabel tokens).getD [] := by
  induction tokens using List.reverseRecOn with
  | nil => rfl
  | append_singleton tokens token ih =>
    unfold labelAfter lastLabel at ih ⊢
    rw [List.foldl_append, List.foldl_cons, List.foldl_nil, List.filter_append]
    by_cases hkey : tagKey token = "label".toList
    · have hlast : [token].filter (fun t => decide (tagKey t = "label".toList)) = [token] := by simp [hkey]
      rw [if_pos hkey, labelOf_eq, hlast, List.getLast?_concat, Option.bind_some]
    · have hnone : [token].filter (fun t => decide (tagKey t = "label".toList)) = [] :=
        List.filter_cons_of_neg (by rwa [decide_eq_true_eq])
      rw [if_neg hkey, hnone, List.append_nil, ih]

theorem ne_nil_of_lastLabel {tokens : List Text} {value : Text} (h : lastLabel tokens = some value) :
    value ≠ [] := by
  have hgood := (Option.filter_eq_some_iff.mp h).2
  exact (of_decide_eq_true hgood).1

/-! ## 7. A line within the limits -/

theorem length_tagSection {line tags : Text} (hfits : clientInputLineFits line = true)
    (htags : tagSection line = some tags) : tags.length ≤ ircv3ClientTagDataMax := by
  unfold tagSection at htags
  split at htags
  swap
  · cases htags
  rename_i hat
  obtain rfl := Option.some.inj htags
  unfold clientInputLineFits at hfits
  rw [if_neg (not_not.mpr hat.1)] at hfits
  simp only [Bool.and_eq_true, decide_eq_true_eq] at hfits
  rw [List.length_tail, List.length_take]
  unfold ircv3ClientTagDataMax
  omega

/-- **The last value of each key.** For every line that passes the framing, from a client with
message-tags, the stored tags are exactly the tokens that start with `+` and are the last with their
key, in their order and joined by semicolons, none left out for space. The label is the value of the
last `label` token, if that is not empty, of at most 128 bytes encoded and 64 decoded; there is none
otherwise, and none is taken from a client without labeled-response and batch. -/
theorem client_tags_relayed (capabilities : Finset Capability) {line tags : Text}
    (hfits : clientInputLineFits line = true) (htags : tagSection line = some tags)
    (hcap : Capability.messageTags ∈ capabilities) :
    ircv3BeginCommand capabilities (some tags) = some
      { clientTags := joinTags (lastOfKeys (tagWords tags))
        labeled :=
          if Capability.labeledResponse ∈ capabilities ∧ Capability.batch ∈ capabilities then
            lastLabel (tagWords tags)
          else none } := by
  have hlen : tags.length ≤ ircv3ClientTagDataMax := length_tagSection hfits htags
  have htokens : tagTokens ircv3TagTokenMax tags = tagWords tags :=
    tagTokens_eq (Nat.lt_of_le_of_lt hlen (by decide))
  have hweight : tagWeight (tagWords tags) ≤ ircv3ClientTagDataMax + 1 :=
    (tagWeight_tagWords_le tags).trans (Nat.succ_le_succ hlen)
  have hshort : ∀ token ∈ tagWords tags, token.length < 65536 := by
    intro token hmem
    have hone := tagWeight_le_of_sublist (List.singleton_sublist.mpr hmem)
    exact Nat.lt_of_lt_of_le (Nat.lt_of_succ_le (hone.trans hweight)) (by decide)
  have hcount : (tagWords tags).length < ircv3TagSlotCount := by
    have hle : ((tagWords tags).map fun word => word.length + 1).length ≤ tagWeight (tagWords tags) :=
      List.length_le_sum_of_one_le _ fun _ hmem => by
        obtain ⟨word, -, rfl⟩ := List.mem_map.mp hmem
        exact Nat.le_add_left 1 _
    rw [List.length_map] at hle
    exact Nat.lt_of_le_of_lt (hle.trans hweight) (by decide)
  have hwords : ∀ word ∈ [] ++ tagWords tags, word ≠ [] := by
    intro word hmem
    simpa using (List.mem_filter.mp hmem).2
  have hstart : tagWords tags = [] ++ tagWords tags := (List.nil_append _).symm
  obtain ⟨slots, hscan, hholds⟩ := exists_scanTokens hshort [] hstart {} ProbeTable.holds_empty hcount
  have hrelay : relayTokens (tagWords tags) true slots [] 0 (tagWords tags) =
      some (joinTags (lastOfKeys (tagWords tags))) :=
    relayTokens_eq (fun _ _ _ => tagSlotFor_scanned hshort hholds) [] [] hstart hwords
      ((tagWeight_le_of_sublist (lastOfKeys_sublist _)).trans hweight)
  rw [List.length_nil] at hscan
  have hlabel : labelAfter [] (tagWords tags) = (lastLabel (tagWords tags)).getD [] := labelAfter_eq _
  have hbegin : ircv3BeginCommand capabilities (some tags) = some
      { clientTags := joinTags (lastOfKeys (tagWords tags))
        labeled :=
          if !((lastLabel (tagWords tags)).getD []).isEmpty && decide (Capability.labeledResponse ∈ capabilities) &&
              decide (Capability.batch ∈ capabilities) then some ((lastLabel (tagWords tags)).getD [])
          else none } := by
    unfold ircv3BeginCommand
    dsimp only
    rw [htokens, decide_eq_true hcap, hscan, Option.bind_some, hrelay, Option.map_some, hlabel]
  rw [hbegin]
  cases hlast : lastLabel (tagWords tags) with
  | none => simp
  | some value =>
    have hne := ne_nil_of_lastLabel hlast
    simp [hne]

/-- Two values for one key, with a tag of the client that is not for others and a label. -/
def taggedLine : Text := "@+a=1;msgid=5;+b;+a=2;label=x1 TAGMSG #c".toList

theorem client_tags_relayed_tagged :
    ircv3BeginCommand {.messageTags, .labeledResponse, .batch} (tagSection taggedLine) =
      some { clientTags := "+b;+a=2".toList, labeled := some "x1".toList } := by
  have hsection : tagSection taggedLine = some "+a=1;msgid=5;+b;+a=2;label=x1".toList := by decide
  have hrelayed := client_tags_relayed {.messageTags, .labeledResponse, .batch} (by decide) hsection (by decide)
  have hstored : joinTags (lastOfKeys (tagWords "+a=1;msgid=5;+b;+a=2;label=x1".toList)) = "+b;+a=2".toList := by
    decide +kernel
  have hlabel : lastLabel (tagWords "+a=1;msgid=5;+b;+a=2;label=x1".toList) = some "x1".toList := by
    decide +kernel
  rw [hsection, hrelayed, hstored, hlabel]
  rfl

end ScratchIrcd
