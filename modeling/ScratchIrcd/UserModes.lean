/-
  File:      ScratchIrcd/UserModes.lean
  Subject:   What a MODE of a user on itself can do: no layer lets an ordinary client gain or lose
             the modes that carry authority.

  `mode.c` alone would let anyone set +g and +s. It is the layer around it that keeps these
  letters away from it: they are consumed by `handle_special_user_modes`, so the string that
  goes on has none of them, whatever the buffers cut off.
-/
import ScratchIrcd.ModeSpec

namespace ScratchIrcd

open CText

variable {x : Char} {a b : Client} {params target : Text}

/-- The modes a client cannot give itself: `oNhHIWgsrSVztDM`. -/
def guardedModes : Finset ClientMode :=
  {.oper, .netadmin, .helpop, .hideOper, .hideIdle, .whoisNotice, .globals, .serverNotices,
    .registered, .service, .webirc, .secure, .vhost, .privateDeaf, .channelMute}

/-- The letters `handle_special_user_modes` consumes, those of `guardedModes` that `mode.c` would
    set among them. -/
def specialLetter (letter : Char) : Bool := letter == 'x' || (Server.operatorModeBit letter).isSome

namespace Client

/-- The guarded modes are as they were. -/
def SameGuarded (a b : Client) : Prop := ∀ bit ∈ guardedModes, bit ∈ b.modes ↔ bit ∈ a.modes

theorem SameGuarded.refl (a : Client) : a.SameGuarded a := fun _ _ => Iff.rfl

theorem SameGuarded.trans {c : Client} (h₁ : a.SameGuarded b) (h₂ : b.SameGuarded c) :
    a.SameGuarded c := fun bit hbit => (h₂ bit hbit).trans (h₁ bit hbit)

theorem SameGuarded.isOper (h : a.SameGuarded b) : b.isOper = a.isOper := by
  have hoper := h .oper (by decide)
  have hnetadmin := h .netadmin (by decide)
  unfold Client.isOper isOperator
  simp only [hoper, hnetadmin]

theorem sameGuarded_setMode (cl : Client) (bit : ClientMode) (hbit : bit ∉ guardedModes) (on : Bool) :
    cl.SameGuarded (cl.setMode bit on) := by
  intro b hb
  have hne : b ≠ bit := fun heq => hbit (heq ▸ hb)
  unfold setMode
  cases on <;> simp [hne]

theorem sameGuarded_refreshDisplayHost (config : ServerConfig) (ext : External)
    (h : a.SameGuarded b) : a.SameGuarded (b.refreshDisplayHost config ext) := by
  unfold refreshDisplayHost
  split_ifs <;> exact h

theorem sameGuarded_applyCloak (config : ServerConfig) (ext : External) (cl : Client) :
    cl.SameGuarded (cl.applyCloak config ext) :=
  sameGuarded_refreshDisplayHost config ext (cl.sameGuarded_setMode .cloaked (by decide) true)

theorem sameGuarded_removeCloak (cl : Client) : cl.SameGuarded cl.removeCloak := by
  have herased := cl.sameGuarded_setMode .cloaked (by decide) false
  unfold removeCloak
  dsimp only
  split_ifs <;> exact herased

end Client

namespace Server

/-- Of the clients only `c` changed, and not in a guarded mode. -/
structure GuardsModes (c : ClientRef) (s s' : Server) : Prop where
  others : ∀ r, r ≠ c → s'.client r = s.client r
  self : (s.client c).SameGuarded (s'.client c)
  clientsByNick : s'.clientsByNick = s.clientsByNick

namespace GuardsModes

variable {c : ClientRef} {s s' : Server}

theorem refl (s : Server) : GuardsModes c s s := ⟨fun _ _ => rfl, .refl _, rfl⟩

theorem trans {a b d : Server} (h₁ : GuardsModes c a b) (h₂ : GuardsModes c b d) :
    GuardsModes c a d where
  others r hr := (h₂.others r hr).trans (h₁.others r hr)
  self := h₁.self.trans h₂.self
  clientsByNick := h₂.clientsByNick.trans h₁.clientsByNick

theorem deliver (h : GuardsModes c s s') (ds : List (ClientRef × Line)) :
    GuardsModes c s (s'.deliver ds) := ⟨h.others, h.self, h.clientsByNick⟩

theorem updClient (h : GuardsModes c s s') {f : Client → Client}
    (hf : (s'.client c).SameGuarded (f (s'.client c))) : GuardsModes c s (s'.updClient c f) := by
  refine h.trans ⟨fun r hr => updClient_of_ne _ _ _ _ hr, ?_, rfl⟩
  rw [updClient_self]
  exact hf

theorem foldl {α : Type*} {f : Server → α → Server} {P : α → Prop}
    (hf : ∀ (s : Server) x, P x → GuardsModes c s (f s x)) (xs : List α) (hxs : ∀ x ∈ xs, P x)
    (s : Server) : GuardsModes c s (xs.foldl f s) := by
  induction xs generalizing s with
  | nil => exact .refl s
  | cons x xs ih =>
    exact (hf s x (hxs x List.mem_cons_self)).trans
      (ih (fun y hy => hxs y (List.mem_cons_of_mem _ hy)) _)

end GuardsModes

/-! ## 1. mode.c -/

/-- Where `mode.c` lets a client set a guarded mode, the letter is one of those it never sees. -/
theorem settable_guarded {letter : Char} {bit : ClientMode} (hbit : clientModeBit letter = some bit)
    (hself : clientModeSelfSettable letter = true) (hguarded : bit ∈ guardedModes) :
    specialLetter letter = true := by
  have hletters : ∀ l ∈ "BdgipRsTw".toList, ∀ b, clientModeBit l = some b → b ∈ guardedModes →
      specialLetter l = true := forall_mem_of_all (by decide)
  exact hletters letter (List.contains_iff_mem.mp hself) bit hbit hguarded

theorem guardsModes_modeUserLetter (c : ClientRef) (s : Server) (l : Bool × Char)
    (hl : specialLetter l.2 = false) : GuardsModes c s (modeUserLetter c s l) := by
  unfold modeUserLetter
  split
  · exact (GuardsModes.refl s).deliver _
  rename_i bit hbit
  split
  · rename_i hself
    refine (GuardsModes.refl s).updClient (Client.sameGuarded_setMode _ _ (fun hguarded => ?_) _)
    rw [settable_guarded hbit hself hguarded] at hl
    cases hl
  · exact (GuardsModes.refl s).deliver _

theorem mem_letters {letters : Text} (h : x ∈ letters) (adding : Bool) :
    isSign x = true ∨ ∃ on, (on, x) ∈ signedLetters adding letters := by
  induction letters generalizing adding with
  | nil => cases h
  | cons y letters ih =>
    unfold signedLetters
    rcases List.mem_cons.mp h with rfl | h
    · cases hsign : isSign x with
      | true => exact .inl rfl
      | false => exact .inr ⟨adding, List.mem_cons_self⟩
    · split
      · exact ih h _
      · rcases ih h adding with hsign | ⟨on, hon⟩
        · exact .inl hsign
        · exact .inr ⟨on, List.mem_cons_of_mem _ hon⟩

/-- `mode_user` is about the client itself, or refuses. -/
theorem guardsModes_modeUser (s : Server) (c : ClientRef) (target : Text) (modes : Option Text)
    (hmodes : s.findNick target = some c → ∀ x ∈ modes.getD [], specialLetter x = false) :
    GuardsModes c s (s.modeUser c target modes) := by
  unfold modeUser
  split
  · exact (GuardsModes.refl s).deliver _
  rename_i subject hfind
  split
  · exact (GuardsModes.refl s).deliver _
  · rename_i hsubject
    obtain rfl : subject = c := by simpa using hsubject
    refine GuardsModes.deliver ?_ _
    exact .foldl (guardsModes_modeUserLetter subject) _
      (fun l hl => hmodes hfind l.2 (mem_signedLetters hl)) s

/-- What of a user MODE reaches `mode_user`. -/
theorem guardsModes_commandModeCore (s : Server) (c : ClientRef)
    (huser : ∀ target modes, modeWords params = some (target, modes) → startsChannel target =
      false) (hmodes : ∀ target modes, modeWords params = some (target, modes) → s.findNick target
      = some c → ∀ x ∈ (modes.map (·.1)).getD [], specialLetter x = false) :
    GuardsModes c s (s.commandModeCore c (some params)) := by
  unfold commandModeCore
  split
  · exact (GuardsModes.refl s).deliver _
  dsimp only
  split
  · exact .refl s
  rename_i target modes hwords
  rw [huser target modes hwords]
  exact s.guardsModes_modeUser c target _ (hmodes target modes hwords)

/-! ## 2. mode_persist.c -/

theorem mem_appendMode {size : Nat} {buffer : Text} {last : Option Char} {sign letter : Char}
    (h : x ∈ (appendMode size buffer last sign letter).1) : x ∈ buffer ∨ x = sign ∨ x = letter := by
  unfold appendMode at h
  dsimp only at h
  split_ifs at h <;> simp only [List.mem_append, List.mem_singleton] at h <;> tauto

theorem specialLetter_signChar (adding : Bool) : specialLetter (signChar adding) = false := by
  cases adding <;> decide

theorem specialLetter_sign (h : isSign x = true) : specialLetter x = false := by
  unfold isSign at h
  rcases Bool.or_eq_true _ _ ▸ h with h | h
  · rw [eq_of_beq h]
    decide
  · rw [eq_of_beq h]
    decide

/-- A special letter is consumed: a cloak, or a refusal. -/
theorem specialModeLetter_special (c : ClientRef) (st : SpecialModes) {l : Bool × Char}
    (hl : specialLetter l.2 = true) :
    GuardsModes c st.server (specialModeLetter c false st l).server ∧
    (specialModeLetter c false st l).filtered = st.filtered ∧
    (specialModeLetter c false st l).consumed = true := by
  unfold specialModeLetter
  by_cases hx : (l.2 == 'x') = true
  · rw [if_pos hx]
    have hcloak : GuardsModes c st.server (st.server.updClient c fun cl =>
        if l.1 then cl.applyCloak st.server.config st.server.ext else cl.removeCloak) := by
      refine (GuardsModes.refl st.server).updClient ?_
      split
      · exact Client.sameGuarded_applyCloak _ _ _
      · exact Client.sameGuarded_removeCloak _
    exact ⟨hcloak, rfl, rfl⟩
  · rw [if_neg hx]
    unfold specialLetter at hl
    rw [Bool.or_eq_true, or_iff_right hx, Option.isSome_iff_exists] at hl
    obtain ⟨bit, hbit⟩ := hl
    rw [hbit]
    exact ⟨GuardsModes.deliver (.refl st.server) _, rfl, rfl⟩

/-- Another letter goes on. -/
theorem specialModeLetter_plain (c : ClientRef) (st : SpecialModes) {l : Bool × Char}
    (hl : specialLetter l.2 = false) : specialModeLetter c false st l = { st with
      filtered := (appendMode 128 st.filtered st.lastSign (signChar l.1) l.2).1
      lastSign := (appendMode 128 st.filtered st.lastSign (signChar l.1) l.2).2 } := by
  unfold specialLetter at hl
  rw [Bool.or_eq_false_iff, Option.isSome_eq_false_iff, Option.isNone_iff_eq_none] at hl
  unfold specialModeLetter
  rw [if_neg (by simp [hl.1]), hl.2]

/-- For an ordinary client the loop refuses what it consumes, and the rest is not special. -/
theorem specialModes_foldl (c : ClientRef) (ls : List (Bool × Char)) (st : SpecialModes)
    (hst : ∀ x ∈ st.filtered, specialLetter x = false) :
    GuardsModes c st.server (ls.foldl (specialModeLetter c false) st).server ∧
    (∀ x ∈ (ls.foldl (specialModeLetter c false) st).filtered, specialLetter x = false) ∧
    ((ls.foldl (specialModeLetter c false) st).consumed = false →
      st.consumed = false ∧ ∀ l ∈ ls, specialLetter l.2 = false) := by
  induction ls generalizing st with
  | nil => exact ⟨.refl _, hst, fun h => ⟨h, fun _ hl => absurd hl List.not_mem_nil⟩⟩
  | cons l ls ih =>
    rw [List.foldl_cons]
    by_cases hspecial : specialLetter l.2 = true
    · obtain ⟨hstep, hsame, hdone⟩ := specialModeLetter_special c st hspecial
      obtain ⟨hguards, hfiltered, hconsumed⟩ := ih _ (by rw [hsame]; exact hst)
      refine ⟨hstep.trans hguards, hfiltered, fun h => ?_⟩
      exact absurd (hdone.symm.trans (hconsumed h).1) (Bool.false_ne_true ∘ Eq.symm)
    · have hplain : specialLetter l.2 = false := by simpa using hspecial
      rw [specialModeLetter_plain c st hplain]
      have hnext : ∀ x ∈ (appendMode 128 st.filtered st.lastSign (signChar l.1) l.2).1,
          specialLetter x = false := by
        intro x hx
        rcases mem_appendMode hx with hx | rfl | rfl
        · exact hst x hx
        · exact specialLetter_signChar l.1
        · exact hplain
      obtain ⟨hguards, hfiltered, hconsumed⟩ := ih { st with
        filtered := (appendMode 128 st.filtered st.lastSign (signChar l.1) l.2).1
        lastSign := (appendMode 128 st.filtered st.lastSign (signChar l.1) l.2).2 } hnext
      refine ⟨hguards, hfiltered, fun h => ?_⟩
      obtain ⟨hnot, hrest⟩ := hconsumed h
      exact ⟨hnot, List.forall_mem_cons.mpr ⟨hplain, hrest⟩⟩

/-- The letters `handle_special_user_modes` leaves, as `mode.c` reads them. -/
theorem guardsModes_forwarded (s : Server) (c : ClientRef) {filtered : Text} (hne : target ≠ [])
    (hword : ∀ x ∈ target, (x == ' ') = false) (huser : startsChannel target = false)
    (hfiltered : ∀ x ∈ filtered, specialLetter x = false) :
    GuardsModes c s (s.commandModeCore c
      (some (if filtered.isEmpty then target else target ++ ' ' :: filtered))) := by
  split
  · refine s.guardsModes_commandModeCore c (fun t modes h => ?_) (fun t modes h _ x hx => ?_)
    · rw [modeWords_self hne hword] at h
      cases h
      exact huser
    · rw [modeWords_self hne hword] at h
      cases h
      cases hx
  · refine s.guardsModes_commandModeCore c (fun t modes h => ?_) (fun t modes h _ x hx => ?_)
    · rw [modeWords_append hne hword] at h
      cases h
      exact huser
    · rw [modeWords_append hne hword] at h
      cases h
      cases hword' : strtokSpace filtered with
      | none =>
        rw [hword'] at hx
        cases hx
      | some w =>
        rw [hword'] at hx
        exact hfiltered x (mem_of_strtok hword' (.inl hx))

/-- `command_mode` of mode_persist.c, for an ordinary client. -/
theorem guardsModes_commandModePolicy (s : Server) (c : ClientRef)
    (hplain : (s.client c).isOper = false) (huser : ∀ target modes, modeWords params = some
      (target, modes) → startsChannel target = false) :
    GuardsModes c s (s.commandModePolicy c (some params)) := by
  unfold commandModePolicy
  dsimp only
  cases hwords : modeWords params with
  | none =>
    refine s.guardsModes_commandModeCore c huser fun target modes h => ?_
    rw [hwords] at h
    cases h
  | some words =>
    obtain ⟨target, modes⟩ := words
    dsimp only
    have hstarts := huser target modes hwords
    obtain ⟨hne, hword⟩ := word_of_modeWords hwords
    rw [if_neg (by rw [hstarts]; exact Bool.false_ne_true)]
    cases modes with
    | none =>
      refine s.guardsModes_commandModeCore c huser fun t modes h _ x hx => ?_
      rw [hwords] at h
      cases h
      cases hx
    | some modes =>
      obtain ⟨letters, args⟩ := modes
      dsimp only
      obtain ⟨hguards, hfiltered, hconsumed⟩ := specialModes_foldl c (signedLetters true letters)
        { server := s } fun _ hx => absurd hx List.not_mem_nil
      -- either nothing of it was special, or what is left is not
      unfold specialUserModes
      rw [hplain]
      dsimp only
      split
      · rename_i hother
        refine s.guardsModes_commandModeCore c huser fun t modes h hfind => ?_
        rw [hwords] at h
        cases h
        simp [hfind] at hother
      split
      · rename_i hnone
        refine s.guardsModes_commandModeCore c huser fun t modes h _ x hx => ?_
        rw [hwords] at h
        cases h
        have hletters := (hconsumed (by simpa using hnone)).2
        rcases mem_letters hx true with hsign | ⟨on, hon⟩
        · exact specialLetter_sign hsign
        · exact hletters _ hon
      · exact hguards.trans (guardsModes_forwarded _ c hne hword hstarts hfiltered)

/-! ## 3. mode_control.c -/

theorem guardsModes_controlCloak (s : Server) (c : ClientRef) (adding : Bool) :
    GuardsModes c s (s.controlCloak c adding) := by
  unfold controlCloak
  dsimp only
  split
  · split
    · exact (GuardsModes.refl s).deliver _
    · exact (GuardsModes.refl s).updClient (Client.sameGuarded_applyCloak _ _ _)
  · refine (GuardsModes.refl s).updClient (Client.sameGuarded_refreshDisplayHost _ _ ?_)
    exact Client.sameGuarded_setMode _ .cloaked (by decide) false

theorem guardsModes_controlLetter (c : ClientRef) (st : SpecialModes) (l : Bool × Char) :
    GuardsModes c st.server (controlLetter c st l).server := by
  unfold controlLetter
  split
  · exact (GuardsModes.refl st.server).deliver _
  split
  · exact guardsModes_controlCloak _ c _
  · exact .refl _

theorem guardsModes_control_foldl (c : ClientRef) (ls : List (Bool × Char)) (st : SpecialModes) :
    GuardsModes c st.server (ls.foldl (controlLetter c) st).server := by
  induction ls generalizing st with
  | nil => exact .refl _
  | cons l ls ih => exact (guardsModes_controlLetter c st l).trans (ih _)

theorem guardsModes_modeSelf (s : Server) (c : ClientRef) (hplain : (s.client c).isOper = false)
    (hne : target ≠ []) (hword : ∀ x ∈ target, (x == ' ') = false)
    (huser : startsChannel target = false) (letters : Text) (rest : Option Text) :
    GuardsModes c s (s.modeSelf c target letters rest) := by
  have hloop := guardsModes_control_foldl c (signedLetters true letters) { server := s }
  unfold modeSelf
  dsimp only
  generalize (signedLetters true letters).foldl (controlLetter c) { server := s } = st at hloop ⊢
  have hforward : ∀ tail, GuardsModes c s
      (st.server.commandModePolicy c (some (target ++ ' ' :: st.filtered ++ tail))) := by
    intro tail
    refine hloop.trans (guardsModes_commandModePolicy _ c (hloop.self.isOper.trans hplain) ?_)
    intro t modes h
    rw [List.append_assoc, List.cons_append, modeWords_append hne hword] at h
    cases h
    exact huser
  split_ifs
  · exact hloop.deliver _
  · exact (hforward _).deliver _
  · exact hloop
  · exact hforward _

/-- **No MODE makes an operator.** Whatever a client without operator rights writes in a MODE about a
    user, however it spells the target and however long the mode string is: none of its
    modes `oNhHIWgsrSVztDM` changes, and no other client changes at all. -/
theorem commandMode_guards (s : Server) (c : ClientRef) (params : Option Text)
    (hplain : (s.client c).isOper = false)
    (huser : ∀ target rest, params.bind strtokSpace = some (target, rest) →
      startsChannel target = false) :
    (∀ bit ∈ guardedModes,
      bit ∈ ((s.commandMode c params).client c).modes ↔ bit ∈ (s.client c).modes) ∧
    ∀ r, r ≠ c → ((s.commandMode c params).client r).modes = (s.client r).modes ∧
      ((s.commandMode c params).client r).displayHost = (s.client r).displayHost := by
  have hguards : GuardsModes c s (s.commandMode c params) := by
    have hpolicy : GuardsModes c s (s.commandModePolicy c params) := by
      cases params with
      | none =>
        unfold commandModePolicy commandModeCore
        dsimp only
        split <;> exact (GuardsModes.refl s).deliver _
      | some params =>
        refine s.guardsModes_commandModePolicy c hplain fun target modes h => ?_
        unfold modeWords at h
        obtain ⟨⟨tok, rest⟩, htok, heq⟩ := Option.map_eq_some_iff.mp h
        cases heq
        exact huser target rest htok
    unfold commandMode
    split
    · exact hpolicy
    rename_i target rest htok
    split
    · exact hpolicy
    split
    · split
      · exact (GuardsModes.refl s).deliver _
      · exact (GuardsModes.refl s).deliver _
    split
    · exact hpolicy
    split
    · exact (GuardsModes.refl s).deliver _
    · obtain ⟨params, -, htok'⟩ := Option.bind_eq_some_iff.mp htok
      obtain ⟨hne, hword⟩ := strtok_token htok'
      exact s.guardsModes_modeSelf c hplain hne hword (huser target rest htok) _ _
  refine ⟨hguards.self, fun r hr => ?_⟩
  rw [hguards.others r hr]
  exact ⟨rfl, rfl⟩

/-- A registered user `ann`. -/
def annOnly : Server :=
  { Server.initial {} {} {} with
    clients := [0]
    nextClient := 1
    client := fun _ => { id := 1, registered := true, nick := "ann".toList, realIp := "10.0.0.1".toList }
    clientsByNick := (ChainedTable.empty 4093 buckets_pos).set "ann".toList 0 }

theorem commandMode_guards_ann :
    ((annOnly.commandMode 0 (some "ANN +oNswgi-x".toList)).client 0).modes = {.invisible, .wallops} ∧
    ((∀ bit ∈ guardedModes,
      bit ∈ ((annOnly.commandMode 0 (some "ANN +oNswgi-x".toList)).client 0).modes ↔
        bit ∈ (annOnly.client 0).modes) ∧
    ∀ r, r ≠ 0 →
      ((annOnly.commandMode 0 (some "ANN +oNswgi-x".toList)).client r).modes = (annOnly.client r).modes ∧
      ((annOnly.commandMode 0 (some "ANN +oNswgi-x".toList)).client r).displayHost =
        (annOnly.client r).displayHost) := by
  refine ⟨by decide +kernel, commandMode_guards annOnly 0 _ (by decide) fun target rest h => ?_⟩
  obtain ⟨rfl, rfl⟩ : target = "ANN".toList ∧ rest = "+oNswgi-x".toList := by
    have heq : (some ("ANN".toList, "+oNswgi-x".toList) : Option (Text × Text)) = some (target, rest) :=
      (by decide : strtokSpace "ANN +oNswgi-x".toList = some ("ANN".toList, "+oNswgi-x".toList)).symm.trans h
    cases heq
    exact ⟨rfl, rfl⟩
  decide

end Server

end ScratchIrcd
