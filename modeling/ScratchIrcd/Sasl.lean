/-
  File:      ScratchIrcd/Sasl.lean
  Subject:   AUTHENTICATE PLAIN (src/commands/authenticate.c).

  The frames of an exchange are put together in `sasl_buffer`; a frame shorter than 400 bytes, or
  a lone `+`, is the last one. What the buffer decodes to are three fields between NULs, and the
  last two go to `nickserv_identify`. Memory is taken to suffice.

  * **`Server.sasl_plain`** -- an encoding sent in frames does what one call with what was encoded
    does; lines that do not log in change nothing, and leave nothing behind for a later exchange.
-/
import ScratchIrcd.Lib.Base64
import ScratchIrcd.Lib.Runs
import ScratchIrcd.Network
import ScratchIrcd.ServiceAct

namespace ScratchIrcd

open CText

variable {c : ClientRef} {s : Server} {buffer frame password : Text}

/-! ## 1. The payload -/

/-- `IRCD_SASL_FRAME_MAX`, `IRCD_SASL_ENCODED_MAX`, `IRCD_SASL_DECODED_MAX`. -/
def ircdSaslFrameMax : Nat := 400
def ircdSaslEncodedMax : Nat := 800
def ircdSaslDecodedMax : Nat := ircdSaslEncodedMax / 4 * 3

/-- `EVP_DecodeBlock`: three bytes for every four signs, zeros where the padding is. -/
structure DecodeBlock where
  decode : Text → Option Text
  documented : ∀ bytes, Base64.IsBytes bytes →
    decode (Base64.encode bytes) = some (bytes ++ List.replicate (Base64.padding bytes) '\x00')

/-- `plain_fields`: exactly two NULs, none of them at the end or next to the other. -/
def plainFields (decoded : Text) : Option (Text × Text × Text) :=
  let authzid := decoded.takeWhile (· != '\x00')
  match decoded.dropWhile (· != '\x00') with
  | [] => none
  | _ :: rest =>
      let authcid := rest.takeWhile (· != '\x00')
      match rest.dropWhile (· != '\x00') with
      | [] => none
      | _ :: password =>
          if authcid.isEmpty || password.isEmpty || password.contains '\x00' then none
          else some (authzid, authcid, password)

/-- How many `=` there are at the end. -/
def trailingEquals (payload : Text) : Nat := (payload.reverse.takeWhile (· == '=')).length

/-- The part of `sasl_finish_plain` before `nickserv_identify`: its arguments. -/
def saslCredentials (block : DecodeBlock) (payload : Text) : Option (Text × Text) :=
  let padding := trailingEquals payload
  if payload.isEmpty || payload.length % 4 != 0 then none
  else if decide (2 < padding) || (payload.take (payload.length - padding)).contains '=' then none
  else
    (block.decode payload).bind fun decoded =>
      if decoded.isEmpty || decide (decoded.length < padding) then none
      else if ircdSaslDecodedMax + 1 ≤ decoded.length - padding then none
      else
        (plainFields (decoded.take (decoded.length - padding))).bind fun fields =>
          if !fields.1.isEmpty && !strcasecmpEq fields.1 fields.2.1 then none else some fields.2

namespace Server

/-! ## 2. The command -/

/-- The payload goes, the exchange has failed, and the client is told why: `sasl_fail`,
    `sasl_too_long`, and the answer to `*`. -/
def saslRefuse (s : Server) (c : ClientRef) (code : Nat) (text : String) : Server :=
  (s.updClient c fun cl => { cl with saslBuffer := [], saslState := .failed }).replyNumeric c code
    [lit text]

/-- `sasl_fail`. -/
def saslFail (s : Server) (c : ClientRef) : Server :=
  s.saslRefuse c 904 ":SASL authentication failed"

/-- `sasl_too_long`. -/
def saslTooLong (s : Server) (c : ClientRef) : Server :=
  s.saslRefuse c 905 ":SASL message too long"

/-- `sasl_finish_plain` after `nickserv_identify` said yes. -/
def saslComplete (s : Server) (c : ClientRef) (wasIdentified : Bool) : Server :=
  let s := s.updClient c fun cl => { cl with saslBuffer := [] }
  let s := if !wasIdentified && (s.client c).registered then s.accountChanged c else s
  let s := s.updClient c fun cl => { cl with saslState := .complete }
  let cl := s.client c
  let orStar (text : Text) : Text := if text.isEmpty then ['*'] else text
  (s.replyNumeric c 900
    [{ text := orStar cl.nick ++ '!' :: orStar cl.user ++ '@' :: cl.displayHost
       hosts := [(c, cl.displayHost)] },
      (cl.accountName : Text), (":You are now logged in as ".toList ++ cl.accountName : Text)]).replyNumeric c
    903 [lit ":SASL authentication successful"]

/-- `sasl_finish_plain` from its call of `nickserv_identify` on. -/
def saslIdentify (s : Server) (c : ClientRef) (authcid password : Text) : Server :=
  match s.nickservIdentify c authcid password with
  | (false, s') => s'.saslFail c
  | (true, s') => s'.saslComplete c (!(s.client c).accountName.isEmpty)

/-- `sasl_finish_plain`. -/
def saslFinishPlain (block : DecodeBlock) (s : Server) (c : ClientRef) : Server :=
  match saslCredentials block (s.client c).saslBuffer with
  | none => s.saslFail c
  | some (authcid, password) => s.saslIdentify c authcid password

/-- The payload received so far is `buffer`. -/
def saslPayload (s : Server) (c : ClientRef) (buffer : Text) : Server :=
  s.updClient c fun cl => { cl with saslBuffer := buffer }

/-- A frame of an exchange. -/
def saslFrame (block : DecodeBlock) (s : Server) (c : ClientRef) (frame : Text) : Server :=
  let buffer := (s.client c).saslBuffer
  if ircdSaslFrameMax < frame.length then s.saslTooLong c
  else if frame == ['+'] then s.saslFinishPlain block c
  -- `sasl_append_frame`
  else if ircdSaslEncodedMax < buffer.length ∨ ircdSaslEncodedMax - buffer.length < frame.length then
    s.saslTooLong c
  else
    let s := s.saslPayload c (buffer ++ frame)
    if frame.length < ircdSaslFrameMax then s.saslFinishPlain block c else s

/-- An exchange is opened. -/
def saslOpen (s : Server) (c : ClientRef) : Server :=
  (s.updClient c fun cl => { cl with saslBuffer := [], saslState := .plainWaitData }).send c
    ⟨.bare, .raw { text := "AUTHENTICATE +".toList }⟩

/-- `command_authenticate`. -/
def commandAuthenticate (block : DecodeBlock) (s : Server) (c : ClientRef) (params : Option Text) :
    Server :=
  match params.bind strtokRest with
  | none => s
  | some params =>
      let word := params.takeWhile (· != ' ')
      let cl := s.client c
      if cl.saslState = .complete then
        s.replyNumeric c 907 [lit ":You have already authenticated using SASL"]
      else if Capability.sasl ∉ cl.capabilities then s.saslFail c
      else if word == ['*'] then s.saslRefuse c 906 ":SASL authentication aborted"
      else if cl.saslState = .none ∨ cl.saslState = .failed then
        if !isWord word "PLAIN" then s.saslFail c else s.saslOpen c
      else s.saslFrame block c word

/-- Lines of AUTHENTICATE one after the other. -/
def authenticateAll (block : DecodeBlock) (c : ClientRef) (lines : List (Option Text)) (s : Server) :
    Server := Runs.exec (fun s line => s.commandAuthenticate block c line) s lines

end Server

/-- An encoding cut into frames: the last one is shorter than the others, a `+` if nothing is
    left for it. -/
def saslFrames (encoded : Text) : List Text :=
  if encoded.length < ircdSaslFrameMax then [if encoded.isEmpty then ['+'] else encoded]
  else encoded.take ircdSaslFrameMax :: saslFrames (encoded.drop ircdSaslFrameMax)
termination_by encoded.length
decreasing_by
  simp only [List.length_drop, ircdSaslFrameMax] at *
  omega

/-- What a client encodes for PLAIN. -/
def plainMessage (authzid authcid password : Text) : Text :=
  authzid ++ '\x00' :: (authcid ++ '\x00' :: password)

/-! ## 3. What an encoding decodes to -/

theorem takeWhile_append_nul {text : Text} (h : '\x00' ∉ text) (rest : Text) :
    (text ++ '\x00' :: rest).takeWhile (· != '\x00') = text ∧
      (text ++ '\x00' :: rest).dropWhile (· != '\x00') = '\x00' :: rest := by
  have hall : ∀ x ∈ text, (x != '\x00') = true := fun x hx => by
    rw [bne_iff_ne]
    rintro rfl
    exact h hx
  constructor
  · rw [List.takeWhile_append_of_pos hall]
    simp
  · rw [List.dropWhile_append_of_pos hall]
    simp

/-- The fields of a message are found again. -/
theorem plainFields_plainMessage {authzid authcid : Text} (hz : '\x00' ∉ authzid)
    (hc : '\x00' ∉ authcid) (hp : '\x00' ∉ password) (hauthcid : authcid ≠ [])
    (hpassword : password ≠ []) :
    plainFields (plainMessage authzid authcid password) = some (authzid, authcid, password) := by
  obtain ⟨htake₁, hdrop₁⟩ := takeWhile_append_nul hz (authcid ++ '\x00' :: password)
  obtain ⟨htake₂, hdrop₂⟩ := takeWhile_append_nul hc password
  unfold plainFields plainMessage
  simp only [htake₁, hdrop₁, htake₂, hdrop₂]
  simp [hauthcid, hpassword, hp]

theorem trailingEquals_append {body : Text} (h : '=' ∉ body) (n : Nat) :
    trailingEquals (body ++ List.replicate n '=') = n := by
  have hbody : (body.reverse.takeWhile (· == '=')) = [] := by
    rw [List.takeWhile_eq_nil_iff]
    intro hlen heq
    exact h (List.mem_reverse.mp (by rw [← beq_iff_eq.mp heq]; exact List.getElem_mem _))
  unfold trailingEquals
  rw [List.reverse_append, List.reverse_replicate,
    List.takeWhile_append_of_pos (by simp), hbody]
  simp

theorem equals_not_mem_alphabet : '=' ∉ Base64.alphabet := by decide

/-- What `sasl_finish_plain` sees in an encoding: the padding, and no `=` before it. -/
theorem encode_padding (bytes : Text) :
    trailingEquals (Base64.encode bytes) = Base64.padding bytes ∧
      ((Base64.encode bytes).take ((Base64.encode bytes).length - Base64.padding bytes)).contains
        '=' = false := by
  obtain ⟨body, heq, hbody⟩ := Base64.encode_shape bytes
  have hfree : '=' ∉ body := fun h => equals_not_mem_alphabet (hbody _ h)
  rw [heq]
  refine ⟨trailingEquals_append hfree _, ?_⟩
  have hlen : (body ++ List.replicate (Base64.padding bytes) '=').length - Base64.padding bytes =
      body.length := by simp
  rw [hlen, List.take_left]
  simpa using hfree

/-- **The credentials of an encoded message are those of the message.** -/
theorem saslCredentials_encode (block : DecodeBlock) {authzid authcid : Text}
    (hbytes : Base64.IsBytes (plainMessage authzid authcid password)) (hz : '\x00' ∉ authzid)
    (hc : '\x00' ∉ authcid) (hp : '\x00' ∉ password) (hauthcid : authcid ≠ [])
    (hpassword : password ≠ []) (hsame : authzid = [] ∨ strcasecmpEq authzid authcid = true)
    (hlen : (Base64.encode (plainMessage authzid authcid password)).length ≤ ircdSaslEncodedMax) :
    saslCredentials block (Base64.encode (plainMessage authzid authcid password)) =
      some (authcid, password) := by
  have hfields := plainFields_plainMessage hz hc hp hauthcid hpassword
  have hpos : 0 < (plainMessage authzid authcid password).length := by simp [plainMessage]
  generalize plainMessage authzid authcid password = bytes at *
  obtain ⟨htrail, hinner⟩ := encode_padding bytes
  have hsize := Base64.length_encode bytes
  have hpad : Base64.padding bytes ≤ 2 := by unfold Base64.padding; omega
  have hauth : (!authzid.isEmpty && !strcasecmpEq authzid authcid) = false := by
    rcases hsame with rfl | h
    · rfl
    · rw [h]
      simp
  have hne : (Base64.encode bytes).isEmpty = false := by
    rw [List.isEmpty_eq_false_iff, ← List.length_pos_iff]
    omega
  have hmod : ((Base64.encode bytes).length % 4 != 0) = false := by
    rw [hsize, Nat.mul_mod_left]
    rfl
  have hbound : bytes.length ≤ ircdSaslDecodedMax := by
    simp only [ircdSaslEncodedMax, ircdSaslDecodedMax] at *
    omega
  -- The zeros that stand for the padding are cut off again.
  have hcut : (bytes ++ List.replicate (Base64.padding bytes) '\x00').length -
      Base64.padding bytes = bytes.length := by simp
  have hdecoded : ((bytes ++ List.replicate (Base64.padding bytes) '\x00').isEmpty ||
      decide ((bytes ++ List.replicate (Base64.padding bytes) '\x00').length <
        Base64.padding bytes)) = false := by
    have : bytes ≠ [] := List.length_pos_iff.mp hpos
    simp [this]
  unfold saslCredentials
  simp only [htrail, hinner, hne, hmod, block.documented bytes hbytes, Option.bind_some, hdecoded,
    hcut, List.take_left, hfields, hauth]
  have h₁ : decide (2 < Base64.padding bytes) = false := by simpa using hpad
  have h₂ : ¬ ircdSaslDecodedMax + 1 ≤ bytes.length := by omega
  simp [h₁, h₂]

namespace Server

/-! ## 4. The frames put together -/

/-- The client is in an exchange, with this much of the payload. -/
structure SaslWaits (s : Server) (c : ClientRef) (buffer : Text) : Prop where
  capable : Capability.sasl ∈ (s.client c).capabilities
  waits : (s.client c).saslState = .plainWaitData
  buffer : (s.client c).saslBuffer = buffer

section

variable (block : DecodeBlock)

/-- In an exchange a line that is not `*` is a frame. -/
theorem commandAuthenticate_frame (h : s.SaslWaits c buffer) (hne : frame ≠ [])
    (hspace : ' ' ∉ frame) (hstar : frame ≠ ['*']) :
    s.commandAuthenticate block c (some frame) = s.saslFrame block c frame := by
  have hword : frame.takeWhile (· != ' ') = frame := by
    rw [List.takeWhile_eq_self_iff]
    intro x hx
    rw [bne_iff_ne]
    rintro rfl
    exact hspace hx
  unfold commandAuthenticate
  simp [strtokRest, hne, hword, h.capable, h.waits, hstar]

omit block in
theorem saslPayload_self (h : (s.client c).saslBuffer = buffer) : s.saslPayload c buffer = s := by
  subst h
  exact congrArg (fun client => { s with client := client }) (Function.update_eq_self c s.client)

omit block in
theorem saslPayload_saslPayload (s : Server) (c : ClientRef) (buffer buffer' : Text) :
    (s.saslPayload c buffer).saslPayload c buffer' = s.saslPayload c buffer' := by
  unfold saslPayload updClient
  simp only [Function.update_self, Function.update_idem]

/-- A full frame is kept, and the exchange goes on. -/
theorem saslFrame_full (h : s.SaslWaits c buffer) (hlen : frame.length = ircdSaslFrameMax)
    (hfits : buffer.length + frame.length ≤ ircdSaslEncodedMax) :
    s.saslFrame block c frame = s.saslPayload c (buffer ++ frame) := by
  have hplus : (frame == ['+']) = false := by
    rw [beq_eq_false_iff_ne]
    rintro rfl
    cases hlen
  have hroom : ¬ (ircdSaslEncodedMax < buffer.length ∨
      ircdSaslEncodedMax - buffer.length < frame.length) := by omega
  unfold saslFrame
  simp only [h.buffer, hlen, Nat.lt_irrefl, if_false, hplus] at hroom ⊢
  rw [if_neg (by simp), if_neg hroom]

/-- The last frame, a `+` or shorter than the others. -/
theorem saslFrame_last (h : s.SaslWaits c buffer) (hlen : frame.length < ircdSaslFrameMax)
    (hplus : frame ≠ ['+']) (hfits : buffer.length + frame.length ≤ ircdSaslEncodedMax) :
    s.saslFrame block c (if frame.isEmpty then ['+'] else frame) =
      (s.saslPayload c (buffer ++ frame)).saslFinishPlain block c := by
  cases hempty : frame.isEmpty with
  | true =>
    rw [List.isEmpty_iff] at hempty
    subst hempty
    rw [if_pos rfl, List.append_nil, saslPayload_self h.buffer]
    rfl
  | false =>
    have hroom : ¬ (ircdSaslEncodedMax < buffer.length ∨
        ircdSaslEncodedMax - buffer.length < frame.length) := by omega
    rw [if_neg (by simp)]
    unfold saslFrame
    simp only [h.buffer, if_neg (Nat.lt_asymm hlen), beq_iff_eq, if_neg hplus, if_neg hroom,
      if_pos hlen]

/-- **Frames are put together**: the exchange ends with what was cut into them. Induction is
    on the frames; what is carried along is how much of the text the buffer holds already. -/
theorem authenticateAll_saslFrames (c : ClientRef) (encoded : Text) :
    ' ' ∉ encoded → encoded.length % 4 = 0 → ∀ (s : Server) (buffer : Text),
      s.SaslWaits c buffer → buffer.length + encoded.length ≤ ircdSaslEncodedMax →
      authenticateAll block c ((saslFrames encoded).map some) s =
        (s.saslPayload c (buffer ++ encoded)).saslFinishPlain block c := by
  induction encoded using saslFrames.induct with
  | case1 encoded hshort =>
    intro hspace hfour s buffer h hfits
    have hplus : encoded ≠ ['+'] := by
      rintro rfl
      cases hfour
    have hstar : encoded ≠ ['*'] := by
      rintro rfl
      cases hfour
    have hframe : s.commandAuthenticate block c (some (if encoded.isEmpty then ['+'] else encoded)) =
        s.saslFrame block c (if encoded.isEmpty then ['+'] else encoded) := by
      apply commandAuthenticate_frame block h <;> cases encoded <;> simp_all
    rw [saslFrames, if_pos hshort, ← saslFrame_last block h hshort hplus hfits, ← hframe]
    rfl
  | case2 encoded hlong ih =>
    intro hspace hfour s buffer h hfits
    have hlen : (encoded.take ircdSaslFrameMax).length = ircdSaslFrameMax := by
      rw [List.length_take]
      omega
    have hdrop : (encoded.drop ircdSaslFrameMax).length = encoded.length - ircdSaslFrameMax :=
      List.length_drop
    have hmax : ircdSaslFrameMax % 4 = 0 := rfl
    have hframe := commandAuthenticate_frame block h
      (fun hnil => by rw [hnil] at hlen; cases hlen)
      (fun hmem => hspace (List.mem_of_mem_take hmem))
      (fun hstar => by rw [hstar] at hlen; cases hlen)
    rw [saslFrame_full block h hlen (by omega)] at hframe
    have hnext : (s.saslPayload c (buffer ++ encoded.take ircdSaslFrameMax)).SaslWaits c
        (buffer ++ encoded.take ircdSaslFrameMax) :=
      ⟨by simpa [saslPayload] using h.capable, by simpa [saslPayload] using h.waits,
        by simp [saslPayload]⟩
    have hrest := ih (fun hmem => hspace (List.mem_of_mem_drop hmem)) (by omega) _ _ hnext
      (by rw [List.length_append]; omega)
    rw [saslPayload_saslPayload, List.append_assoc, List.take_append_drop] at hrest
    rw [saslFrames, if_neg hlong, ← hrest, ← hframe]
    rfl

/-- AUTHENTICATE PLAIN opens an exchange with no payload. -/
theorem commandAuthenticate_plain (hcap : Capability.sasl ∈ (s.client c).capabilities)
    (hstate : (s.client c).saslState = .none ∨ (s.client c).saslState = .failed) :
    s.commandAuthenticate block c (some "PLAIN".toList) = s.saslOpen c ∧
      (s.saslOpen c).SaslWaits c [] := by
  have hrest : strtokRest "PLAIN".toList = some "PLAIN".toList := by decide
  have hword : "PLAIN".toList.takeWhile (· != ' ') = "PLAIN".toList := by decide
  have hstar : ("PLAIN".toList == ['*']) = false := by decide
  have hplain : (!isWord "PLAIN".toList "PLAIN") = false := by decide
  have hnot : (s.client c).saslState ≠ .complete := by
    rcases hstate with h | h <;> rw [h] <;> exact SaslState.noConfusion
  constructor
  · unfold commandAuthenticate
    generalize "PLAIN".toList = word at hrest hword hstar hplain ⊢
    simp only [Option.bind_some, hrest, hword, if_neg hnot, hcap, hstar, hplain, if_pos hstate]
    rfl
  · unfold saslOpen
    exact ⟨by simp [send, deliver, hcap], by simp [send, deliver], by simp [send, deliver]⟩

end

theorem space_not_mem_encode (bytes : Text) : ' ' ∉ Base64.encode bytes := by
  obtain ⟨body, heq, hbody⟩ := Base64.encode_shape bytes
  rw [heq, List.mem_append]
  rintro (h | h)
  · exact absurd (hbody _ h) (by decide)
  · cases List.eq_of_mem_replicate h

/-! ## 5. Lines that do not log in -/

/-- What a login changes of a client is as it was. -/
def SameLogins (s s' : Server) : Prop :=
  ∀ r, (s'.client r).accountName = (s.client r).accountName ∧
    (s'.client r).modes = (s.client r).modes ∧
    (s'.client r).displayHost = (s.client r).displayHost

/-- What one line of AUTHENTICATE can do to the exchange of its sender. -/
structure SaslStep (s s' : Server) (c : ClientRef) : Prop where
  stays : (s.client c).saslState = .complete → (s'.client c).saslState = .complete
  kept : ((s'.client c).saslState = .complete → (s.client c).saslState = .complete) →
    s.SameLogins s'
  opens : (s.client c).saslState ≠ .plainWaitData → (s'.client c).saslState = .plainWaitData →
    (s'.client c).saslBuffer = []
  closes : (s.client c).saslState = .plainWaitData → (s'.client c).saslState ≠ .plainWaitData →
    (s'.client c).saslBuffer = []

section Step
variable {s s' : Server} {c : ClientRef}

theorem SaslStep.of_client (h : s'.client = s.client) : s.SaslStep s' c where
  stays := by rw [h]; exact fun hc => hc
  kept := by unfold SameLogins; rw [h]; exact fun _ _ => ⟨rfl, rfl, rfl⟩
  opens := by rw [h]; exact fun hn hw => absurd hw hn
  closes := by rw [h]; exact fun hw hn => absurd hw hn

/-- The exchange of the sender is set to `state` with the payload `buffer`, and nothing else
    happens to a client. -/
theorem SaslStep.of_update (state : SaslState) (buffer : Text)
    (h : s'.client = Function.update s.client c
      { s.client c with saslState := state, saslBuffer := buffer })
    (hs : (s.client c).saslState ≠ .complete)
    (hb : (s.client c).saslState = .plainWaitData ∧ state = .plainWaitData ∨ buffer = []) :
    s.SaslStep s' c := by
  have hself : s'.client c = { s.client c with saslState := state, saslBuffer := buffer } := by
    rw [h, Function.update_self]
  refine ⟨fun hc => absurd hc hs, fun _ r => ?_, fun hn hw => ?_, fun hw hn => ?_⟩
  · by_cases hr : r = c
    · rw [hr, hself]
      exact ⟨rfl, rfl, rfl⟩
    · rw [h, Function.update_of_ne hr]
      exact ⟨rfl, rfl, rfl⟩
  · rw [hself] at hw ⊢
    exact hb.resolve_left fun hboth => hn hboth.1
  · rw [hself] at hn ⊢
    exact hb.resolve_left fun hboth => hn hboth.2

/-- A refusal. -/
theorem SaslStep.refuse (hs : (s.client c).saslState ≠ .complete) (code : Nat) (text : String) :
    s.SaslStep (s.saslRefuse c code text) c := .of_update .failed [] rfl hs (.inr rfl)

theorem client_accountChanged (s : Server) (c : ClientRef) :
    (s.accountChanged c).client = s.client := by
  have hsync : ∀ (chs : List ChannelRef) (s : Server),
      (chs.foldl (fun s ch => s.syncMember ch c) s).client = s.client := by
    intro chs
    induction chs with
    | nil => exact fun s => rfl
    | cons ch chs ih => exact fun s => (ih _).trans (s.silent_syncMember ch c).client
  have hnotify : (s.accountNotify c).client = s.client := by
    unfold accountNotify
    split <;> rfl
  exact (hsync _ _).trans hnotify

/-- A success leaves no payload behind, and the account that was set. -/
theorem saslComplete_spec (s : Server) (c : ClientRef) (was : Bool) :
    ((s.saslComplete c was).client c).saslState = .complete ∧
      ((s.saslComplete c was).client c).saslBuffer = [] ∧
      ((s.saslComplete c was).client c).accountName = (s.client c).accountName := by
  have hchanged : ∀ (s : Server) (b : Bool),
      (if b then s.accountChanged c else s).client = s.client := by
    intro s b
    cases b with
    | false => rfl
    | true => exact client_accountChanged s c
  unfold saslComplete
  simp only [replyNumeric, send, deliver, updClient_self, hchanged, and_self]

/-- A failed `nickserv_identify` touches no client. -/
theorem client_nickservIdentify_false {account : Text}
    (h : s.nickservIdentify c account password = (false, s')) : s'.client = s.client := by
  unfold nickservIdentify at h
  dsimp only at h
  split at h
  · cases h
    rfl
  split at h
  · cases h
    rfl
  cases hfound : s.enabledAccount account with
  | mk found s₁ =>
    obtain ⟨d, -, heq⟩ := s.enabledAccount_eq account
    rw [hfound] at h heq
    obtain rfl : s₁ = { s with storage := d } := heq
    cases found with
    | none =>
      cases h
      rfl
    | some a =>
      dsimp only at h
      split at h
      · cases h
        rfl
      split at h
      · cases h
        rfl
      · cases h

/-- What `nickserv_identify` says is how the exchange ends. -/
theorem saslIdentify_spec (s : Server) (c : ClientRef) (authcid password : Text) :
    if (s.nickservIdentify c authcid password).1 then
      ((s.saslIdentify c authcid password).client c).saslState = .complete ∧
        ((s.saslIdentify c authcid password).client c).accountName =
          ((s.nickservIdentify c authcid password).2.client c).accountName
    else ((s.saslIdentify c authcid password).client c).saslState = .failed := by
  unfold saslIdentify
  cases s.nickservIdentify c authcid password with
  | mk ok s₁ =>
    cases ok with
    | false => simp [saslFail, saslRefuse, replyNumeric, send, deliver]
    | true =>
      obtain ⟨hstate, -, hname⟩ := saslComplete_spec s₁ c (!(s.client c).accountName.isEmpty)
      exact ⟨hstate, hname⟩

/-- The end of an exchange, whatever the frame before it added to the payload. -/
theorem saslStep_saslFinishPlain (block : DecodeBlock)
    (h : s'.client = Function.update s.client c { s.client c with saslBuffer := buffer })
    (hs : (s.client c).saslState = .plainWaitData) :
    s.SaslStep (s'.saslFinishPlain block c) c := by
  have hnot : (s.client c).saslState ≠ .complete := by rw [hs]; exact SaslState.noConfusion
  have hrefuse : ∀ s₁ : Server, s₁.client = s'.client → s.SaslStep (s₁.saslFail c) c := by
    intro s₁ h₁
    refine .of_update .failed [] ?_ hnot (.inr rfl)
    change Function.update s₁.client c { s₁.client c with saslState := .failed, saslBuffer := [] } = _
    rw [h₁, h, Function.update_self, Function.update_idem]
  unfold saslFinishPlain
  cases saslCredentials block (s'.client c).saslBuffer with
  | none => exact hrefuse s' rfl
  | some words =>
    unfold saslIdentify
    dsimp only
    cases hid : s'.nickservIdentify c words.1 words.2 with
    | mk ok s₁ =>
      cases ok with
      | false => exact hrefuse s₁ (client_nickservIdentify_false hid)
      | true =>
        obtain ⟨hstate, hbuffer, -⟩ := saslComplete_spec s₁ c (!(s'.client c).accountName.isEmpty)
        exact ⟨fun _ => hstate, fun hback => absurd (hback hstate) hnot, fun hn => absurd hs hn,
          fun _ _ => hbuffer⟩

theorem saslStep_saslFrame (block : DecodeBlock) (frame : Text)
    (hs : (s.client c).saslState = .plainWaitData) :
    s.SaslStep (s.saslFrame block c frame) c := by
  have hnot : (s.client c).saslState ≠ .complete := by rw [hs]; exact SaslState.noConfusion
  unfold saslFrame
  dsimp only
  split
  · exact .refuse hnot _ _
  split
  · exact saslStep_saslFinishPlain block (Function.update_eq_self c s.client).symm hs
  split
  · exact .refuse hnot _ _
  split
  · exact saslStep_saslFinishPlain block rfl hs
  · refine .of_update .plainWaitData ((s.client c).saslBuffer ++ frame) ?_ hnot (.inl ⟨hs, rfl⟩)
    rw [← hs]
    rfl

/-- **One line of AUTHENTICATE.** -/
theorem saslStep_commandAuthenticate (block : DecodeBlock) (s : Server) (c : ClientRef)
    (line : Option Text) : s.SaslStep (s.commandAuthenticate block c line) c := by
  unfold commandAuthenticate
  cases line.bind strtokRest with
  | none => exact .of_client rfl
  | some params =>
    dsimp only
    split
    · exact .of_client rfl
    rename_i hs
    split
    · exact .refuse hs _ _
    split
    · exact .refuse hs _ _
    split
    · split
      · exact .refuse hs _ _
      · exact .of_update .plainWaitData [] rfl hs (.inr rfl)
    · rename_i hwait
      refine saslStep_saslFrame block _ ?_
      cases hstate : (s.client c).saslState <;> simp_all

/-- Lines one after the other: a login once made stays, and without one nothing changes. -/
theorem saslStep_authenticateAll (block : DecodeBlock) (c : ClientRef) (lines : List (Option Text))
    (s : Server) :
    ((s.client c).saslState = .complete →
      ((authenticateAll block c lines s).client c).saslState = .complete) ∧
    ((((authenticateAll block c lines s).client c).saslState = .complete →
      (s.client c).saslState = .complete) → s.SameLogins (authenticateAll block c lines s)) := by
  induction lines generalizing s with
  | nil => exact ⟨fun h => h, fun _ _ => ⟨rfl, rfl, rfl⟩⟩
  | cons line lines ih =>
    have hstep := saslStep_commandAuthenticate block s c line
    obtain ⟨hstays, hkept⟩ := ih (s.commandAuthenticate block c line)
    refine ⟨fun h => hstays (hstep.stays h), fun h r => ?_⟩
    obtain ⟨ha₁, hm₁, hd₁⟩ := hstep.kept (fun hc => h (hstays hc)) r
    obtain ⟨ha₂, hm₂, hd₂⟩ := hkept (fun hc => hstep.stays (h hc)) r
    exact ⟨ha₂.trans ha₁, hm₂.trans hm₁, hd₂.trans hd₁⟩

end Step

/-! ## 6. PLAIN -/

/-- **SASL PLAIN.** A message whose encoding has at most 800 signs, sent in frames after
    AUTHENTICATE PLAIN, ends as one call of `nickserv_identify` with what was encoded does: the
    exchange is complete under the account that call set, or has failed. Any lines that do not log in
    leave account, modes and shown host as they were, and an exchange begins, and ends, with no
    payload. -/
theorem sasl_plain (block : DecodeBlock) (s : Server) (c : ClientRef) :
    (∀ authzid authcid password : Text,
      Capability.sasl ∈ (s.client c).capabilities →
      (s.client c).saslState = .none ∨ (s.client c).saslState = .failed →
      Base64.IsBytes (plainMessage authzid authcid password) →
      '\x00' ∉ authzid → '\x00' ∉ authcid → '\x00' ∉ password → authcid ≠ [] → password ≠ [] →
      authzid = [] ∨ strcasecmpEq authzid authcid = true →
      (Base64.encode (plainMessage authzid authcid password)).length ≤ ircdSaslEncodedMax →
      let encoded := Base64.encode (plainMessage authzid authcid password)
      let received := (s.saslOpen c).saslPayload c encoded
      let after := authenticateAll block c (some "PLAIN".toList :: (saslFrames encoded).map some) s
      after = received.saslIdentify c authcid password ∧
        if (received.nickservIdentify c authcid password).1 then
          (after.client c).saslState = .complete ∧ (after.client c).accountName =
            ((received.nickservIdentify c authcid password).2.client c).accountName
        else (after.client c).saslState = .failed) ∧
    (∀ lines, (((authenticateAll block c lines s).client c).saslState = .complete →
      (s.client c).saslState = .complete) → s.SameLogins (authenticateAll block c lines s)) ∧
    ∀ lines line,
      let before := authenticateAll block c lines s
      let after := before.commandAuthenticate block c line
      ((before.client c).saslState ≠ .plainWaitData → (after.client c).saslState = .plainWaitData →
        (after.client c).saslBuffer = []) ∧
      ((before.client c).saslState = .plainWaitData → (after.client c).saslState ≠ .plainWaitData →
        (after.client c).saslBuffer = []) := by
  refine ⟨?_, fun lines => (saslStep_authenticateAll block c lines s).2, fun lines line => ?_⟩
  · intro authzid authcid password hcap hstate hbytes hz hc hp hauthcid hpassword hsame hlen
      encoded received after
    obtain ⟨hopen, hwaits⟩ := commandAuthenticate_plain block hcap hstate
    have hfour : encoded.length % 4 = 0 := by rw [Base64.length_encode, Nat.mul_mod_left]
    have hframes := authenticateAll_saslFrames block c encoded (space_not_mem_encode _) hfour
      (s.saslOpen c) [] hwaits (by simpa using hlen)
    have hcredentials := saslCredentials_encode block hbytes hz hc hp hauthcid hpassword hsame hlen
    have hafter : after = received.saslIdentify c authcid password := by
      have hbuffer : (received.client c).saslBuffer = encoded := by
        simp only [received, saslPayload, updClient_self]
      have hfinish : received.saslFinishPlain block c = received.saslIdentify c authcid password := by
        unfold saslFinishPlain
        rw [hbuffer, hcredentials]
      rw [← hfinish]
      refine Eq.trans ?_ hframes
      exact congrArg (authenticateAll block c ((saslFrames encoded).map some)) hopen
    exact ⟨hafter, hafter ▸ saslIdentify_spec received c authcid password⟩
  · have hstep := saslStep_commandAuthenticate block (authenticateAll block c lines s) c line
    exact ⟨hstep.opens, hstep.closes⟩

/-- The decoder of the library. -/
def referenceBlock : DecodeBlock := ⟨Base64.decode, fun _ h => Base64.decode_encode h⟩

/-- A connection that asked for `sasl`, and an account. -/
def saslAsked : Server :=
  (Server.initial {} {} { nickserv := [{ name := "alice".toList, passwordHash := "secret".toList }] }
    ).updClient 0 fun cl => { cl with capabilities := {.sasl} }

theorem plainMessage_alice_bytes :
    Base64.IsBytes (plainMessage [] "alice".toList "secret".toList) := fun x hx =>
  of_decide_eq_true (List.all_eq_true.mp
    (by decide : (plainMessage [] "alice".toList "secret".toList).all (·.toNat < 256) = true) x hx)

/-- A login of sixteen signs, and a `*` after PLAIN. -/
theorem sasl_plain_alice :
    let after := authenticateAll referenceBlock 0 (some "PLAIN".toList ::
      (saslFrames (Base64.encode (plainMessage [] "alice".toList "secret".toList))).map some) saslAsked
    (after.client 0).saslState = .complete ∧ (after.client 0).accountName = "alice".toList ∧
      saslAsked.SameLogins (authenticateAll referenceBlock 0
        [some "PLAIN".toList, some "*".toList] saslAsked) := by
  obtain ⟨hlogin, hnone, -⟩ := sasl_plain referenceBlock saslAsked 0
  obtain ⟨-, hends⟩ := hlogin [] "alice".toList "secret".toList (by decide) (.inl (by decide))
    plainMessage_alice_bytes (by decide) (by decide) (by decide) (by decide) (by decide) (.inl rfl)
    (by decide)
  rw [if_pos (by decide +kernel)] at hends
  exact ⟨hends.1, hends.2.trans (by decide +kernel), hnone _ fun h => absurd h (by decide +kernel)⟩

end Server

end ScratchIrcd
