import Mathlib
import Omnivox.Markers.MarkerDispatch

/-!
# Preflight of a prepared attempt

Before an engine is called, the records of an attempt are formatted with the widest
counters: the start of the utterance, and the receipt of the choice without a native
application. The start that is made later is never longer.

The receipt that is made later carries the application that the engine reported, which
the preflight did not count. Both are bounded by the same limit, so a route whose identity
nearly fills the receipt passes the preflight and cannot be told once it has an
application. The records are formatted, for all counters, exactly when the receipt with
its application fits (`preflight_sound_iff`).
-/

set_option autoImplicit false

namespace Omnivox.Markers

open Foundations
open Engines (AcssDimension PhysicalVoiceId PostSynthesisDimension nativeIdentifier)
open Parameters (ApplicationStatus CatalogueIdentity MAX_CONTROL_PAYLOAD_BYTES NativeApplication
  stringsToJson)
open Synthesis (SynthesisMarker)

variable {Parameters : Type}

/-! ## Preflight -/

inductive AudioError where
  | invalidFormat (message : String)
  deriving Repr, DecidableEq

/-- The text of an error. -/
def MarkerProtocolError.toText : MarkerProtocolError → String
  | .payloadTooLarge =>
      s!"marker event exceeds the {MAX_MARKER_EVENT_PAYLOAD_BYTES}-byte limit"
  | .choiceReceiptTooLarge =>
      s!"voice choice receipt exceeds the {MAX_VOICE_CHOICE_RECEIPT_BYTES}-byte limit"
  | .recordTooLarge =>
      s!"version 3 or 4 marker record exceeds the {MAX_V3_MARKER_RECORD_BYTES}-byte line limit"
  | .invalidJson _ => "marker event is not valid JSON"
  | .duplicateMember => "marker event is not valid JSON"
  | .invalidEnvelope message => s!"invalid marker event envelope: {message}"

namespace MarkerDispatchContext

/-- The stand-in records: the exact identity of the route with the widest counters. -/
def standIns (context : MarkerDispatchContext) (text : String) (spanId : Nat)
    (attempt : PreparedVoiceAttempt Parameters) : List MarkerEventEnvelope :=
  let voice := attempt.resolution.realized
  let started := MarkerEvent.utteranceStarted u64Max text voice.engineId (some voice)
    (some attempt.resolution.logicalVoiceId) u32Max u64Max
  let native := if context.supportsNative then some none else none
  let events := if attempt.kind ≠ .legacy then
      [started, (PlaybackVoiceChoice.mk spanId attempt).event u64Max native]
    else [started]
  events.map (context.envelope u64Max)

/-- Check the exact actual-route identity and worst-width counters before invoking
synthesis. This takes no sequence number. -/
def preflightAttempt (context : MarkerDispatchContext) (text : String) (spanId : Nat)
    (attempt : PreparedVoiceAttempt Parameters) : Except AudioError Unit := do
  ensure (carriesChoices context.protocolVersion)
    (.invalidFormat "choice receipt requires a version 3 or 4 dispatch")
  (context.standIns text spanId attempt).forM fun standIn =>
    (formatMarkerEvent standIn).mapError (fun error => .invalidFormat error.toText) >>=
      fun _ => .ok ()

end MarkerDispatchContext

/-! ## Formatting -/

/-- The record is written. -/
def Formats (envelope : MarkerEventEnvelope) : Prop :=
  ∃ line, formatMarkerEvent envelope = .ok line

theorem formats_iff {envelope : MarkerEventEnvelope} :
    Formats envelope ↔ validateEvent envelope = .ok () ∧ SizeAccepted envelope := by
  unfold Formats formatMarkerEvent
  constructor
  · rintro ⟨line, formatted⟩
    obtain ⟨payload, encoded, -⟩ := bind_eq_ok.mp formatted
    obtain ⟨valid, sizes, -⟩ := encodeMarkerEvent_ok.mp encoded
    exact ⟨valid, sizes⟩
  · rintro ⟨valid, sizes⟩
    exact ⟨_, bind_eq_ok.mpr
      ⟨⟨envelope.toJson⟩, encodeMarkerEvent_ok.mpr ⟨valid, sizes, rfl⟩, rfl⟩⟩

/-- **The preflight passes** when every stand-in is written. -/
theorem preflightAttempt_ok {context : MarkerDispatchContext} {text : String} {spanId : Nat}
    {attempt : PreparedVoiceAttempt Parameters} :
    context.preflightAttempt text spanId attempt = .ok () ↔
      carriesChoices context.protocolVersion = true ∧
        ∀ standIn ∈ context.standIns text spanId attempt, Formats standIn := by
  unfold MarkerDispatchContext.preflightAttempt
  rw [seq_eq_ok, ensure_eq_ok, forM_eq_ok]
  refine and_congr Iff.rfl (forall₂_congr fun standIn _ => ?_)
  rw [bind_eq_ok]
  constructor
  · rintro ⟨line, formatted, -⟩
    exact ⟨line, mapError_eq_ok.mp formatted⟩
  · rintro ⟨line, formatted⟩
    exact ⟨line, mapError_eq_ok.mpr formatted, rfl⟩

/-- A shorter record of the same version that holds no receipt is accepted. -/
theorem SizeAccepted.shorter {envelope other : MarkerEventEnvelope}
    (accepted : SizeAccepted envelope) (version : other.protocolVersion = envelope.protocolVersion)
    (shorter : other.toJson.size ≤ envelope.toJson.size)
    (receipt : ∀ choice, other.event = .voiceChoiceApplied choice →
      ∃ held, envelope.event = .voiceChoiceApplied held) : SizeAccepted other where
  payload := le_trans shorter accepted.payload
  line := by
    intro carries
    have bound := accepted.line (version ▸ carries)
    omega
  receipt := by
    intro carries choice own
    obtain ⟨held, own⟩ := receipt choice own
    exact le_trans shorter (accepted.receipt (version ▸ carries) held own)

/-! ## Names of plans -/

theorem repr_length_mono {m n : Nat} (below : m ≤ n) : m.repr.length ≤ n.repr.length := by
  have digits : ∀ k : Nat, k.repr.length = (Nat.toDigits 10 k).length := by
    intro k
    rw [← String.length_toList, Nat.toList_repr]
  rw [digits, digits, Nat.length_toDigits_le_iff (by decide) Nat.length_toDigits_pos]
  exact lt_of_le_of_lt below
    ((Nat.length_toDigits_le_iff (by decide) Nat.length_toDigits_pos).mp le_rfl)

/-- The characters of a plan's name. -/
theorem mem_publicId {number : Nat} {c : Char} (member : c ∈ (publicId number).toList) :
    c.isAlphanum = true ∨ c = '-' := by
  unfold publicId at member
  rw [String.toList_append] at member
  rcases List.mem_append.mp member with front | digits
  · have known : ("native-plan-".toList.all fun c => c.isAlphanum || c == '-') = true := by
      decide
    simpa using List.all_eq_true.mp known c front
  · have digit := Nat.isDigit_of_mem_toDigits (by decide) (by decide)
      (Nat.toList_repr ▸ digits)
    left
    unfold Char.isAlphanum
    rw [digit, Bool.or_true]

theorem unescaped_of_alphanum {c : Char} (plain : c.isAlphanum = true ∨ c = '-') :
    Unescaped c := by
  rcases plain with plain | rfl
  · simp only [Char.isAlphanum, Char.isAlpha, Char.isUpper, Char.isLower, Char.isDigit,
      Bool.or_eq_true, Bool.and_eq_true, decide_eq_true_eq, ge_iff_le,
      UInt32.le_iff_toNat_le] at plain
    have bounds : 48 ≤ c.toNat ∧ c.toNat ≤ 122 ∧ c.toNat ≠ 34 ∧ c.toNat ≠ 92 := by
      have upper : 'A'.val.toNat = 65 ∧ 'Z'.val.toNat = 90 := by decide
      have lower : 'a'.val.toNat = 97 ∧ 'z'.val.toNat = 122 := by decide
      have digit : '0'.val.toNat = 48 ∧ '9'.val.toNat = 57 := by decide
      unfold Char.toNat
      omega
    obtain ⟨low, high, quote, backslash⟩ := bounds
    refine ⟨by omega, by omega, ?_, ?_⟩
    · rintro rfl
      exact quote rfl
    · rintro rfl
      exact backslash rfl
  · exact ⟨by decide, by decide, by decide, by decide⟩

theorem publicId_length (number : Nat) :
    (publicId number).length = 12 + number.repr.length := by
  rw [publicId, String.length_append]
  rfl

/-- **A plan's name is an identifier**, whatever its number. -/
theorem nativeIdentifier_publicId {number : Nat} (inRange : number ≤ u64Max) :
    nativeIdentifier (publicId number) = true := by
  have widest : number.repr.length ≤ 20 :=
    le_trans (repr_length_mono inRange) (by decide)
  have bytes : (publicId number).utf8ByteSize = (publicId number).length :=
    utf8ByteSize_plain fun c member => unescaped_of_alphanum (mem_publicId member)
  have characters : ((publicId number).toList.all fun c =>
      c.isAlphanum || c == '-' || c == '_' || c == '.') = true := by
    rw [List.all_eq_true]
    intro c member
    rcases mem_publicId member with plain | rfl
    · rw [plain]
      rfl
    · rfl
  have length := publicId_length number
  unfold nativeIdentifier Engines.identifierWithin
  rw [characters, String.isEmpty_eq_utf8ByteSize_beq_zero, bytes, length, Bool.and_true,
    Bool.and_eq_true, Bool.not_eq_true', beq_eq_false_iff_ne]
  have limit : Engines.MAX_IDENTIFIER_BYTES = 128 := rfl
  exact ⟨by omega, decide_eq_true (by omega)⟩

theorem quotedSize_publicId (number : Nat) :
    quotedSize (publicId number) = number.repr.length + 14 := by
  rw [quotedSize_plain fun c member => unescaped_of_alphanum (mem_publicId member),
    publicId_length]
  omega

/-! ## Published applications -/

/-- An application under the widest public name. -/
def widest (application : NativeApplication) : NativeApplication :=
  if application.status = .applied then
    { application with planId := some (publicId u64Max) }
  else application

/-- What may be told of an application: as it is, or under a public name. -/
theorem publish_cases {plans after : NativePlanReferences} {application told : NativeApplication}
    (published : plans.publish application = some (after, told)) :
    (application.status ≠ .applied ∧ told = application) ∨
      (application.status = .applied ∧ ∃ number, number ≤ u64Max ∧
        told = { application with planId := some (publicId number) }) := by
  unfold NativePlanReferences.publish at published
  split at published
  · rename_i common
    cases published
    exact Or.inl ⟨common, rfl⟩
  · rename_i applied
    obtain ⟨number, taken, same⟩ := Option.bind_eq_some_iff.mp published
    cases same
    exact Or.inr ⟨not_not.mp applied, number, (MarkerDispatchContext.increment_some taken).2, rfl⟩

theorem application_size (application : NativeApplication) :
    application.toJson.size =
      1 + (quotedSize "status" + application.status.toJson.size + 2 +
        (quotedSize "plan_id" + (Json.nullOr Json.string application.planId).size + 2 +
        (quotedSize "identity" +
          (Json.nullOr CatalogueIdentity.toJson application.identity).size + 2 +
        (quotedSize "masked_parameters" +
          (stringsToJson application.maskedParameters).size + 2 +
        (quotedSize "reason" + (Json.nullOr Json.string application.reason).size + 2))))) := by
  rw [NativeApplication.toJson, size_object]
  simp only [membersSize_cons, membersSize_nil, Nat.add_zero]

/-- **What is told is no longer than the widest name makes it.** -/
theorem publish_size {plans after : NativePlanReferences} {application told : NativeApplication}
    (published : plans.publish application = some (after, told)) :
    told.toJson.size ≤ (widest application).toJson.size := by
  unfold widest
  rcases publish_cases published with ⟨common, rfl⟩ | ⟨applied, number, inRange, rfl⟩
  · rw [if_neg common]
  · rw [if_pos applied, application_size, application_size]
    have names : quotedSize (publicId number) ≤ quotedSize (publicId u64Max) := by
      rw [quotedSize_publicId, quotedSize_publicId]
      exact Nat.add_le_add_right (repr_length_mono inRange) 14
    simp only [Json.nullOr, size_string]
    omega

/-- **A valid application that fits is told as a valid one.** -/
theorem publish_valid {plans after : NativePlanReferences} {application told : NativeApplication}
    (valid : application.validate = .ok ())
    (published : plans.publish application = some (after, told))
    (fits : told.toJson.size ≤ MAX_CONTROL_PAYLOAD_BYTES) :
    told.validate = .ok () := by
  rcases publish_cases published with ⟨common, rfl⟩ | ⟨applied, number, inRange, rfl⟩
  · exact valid
  · unfold NativeApplication.validate at valid ⊢
    rw [seq_eq_ok, seq_eq_ok, seq_eq_ok, ensure_eq_ok, ensure_eq_ok] at valid ⊢
    obtain ⟨masked, identity, status, -⟩ := valid
    refine ⟨masked, identity, ?_, decide_eq_true fits⟩
    unfold NativeApplication.validateStatus at status ⊢
    rw [applied] at status ⊢
    dsimp only at status ⊢
    rw [ensure_eq_ok, Bool.and_eq_true, Bool.and_eq_true] at status ⊢
    exact ⟨⟨nativeIdentifier_publicId inRange, status.1.2⟩, status.2⟩

/-! ## Records and their stand-ins -/

theorem validateEvent_start {envelope : MarkerEventEnvelope} {utteranceId : Nat}
    {text engineId : String} {actualVoice : Option PhysicalVoiceId}
    {logicalVoiceId : Option String} {sampleRate frameCount : Nat}
    (carries : carriesChoices envelope.protocolVersion = true)
    (event : envelope.event = .utteranceStarted utteranceId text engineId actualVoice
      logicalVoiceId sampleRate frameCount) :
    validateEvent envelope = .ok () ↔ envelope.dispatchId ≠ 0 ∧ envelope.sequence ≠ 0 := by
  unfold validateEvent supportsTimelineEvents
  rw [event, seq_eq_ok, ensure_eq_ok, carries]
  simp

theorem validateEvent_choice {envelope : MarkerEventEnvelope} {choice : VoiceChoiceApplied}
    (carries : carriesChoices envelope.protocolVersion = true)
    (event : envelope.event = .voiceChoiceApplied choice) :
    validateEvent envelope = .ok () ↔ (envelope.dispatchId ≠ 0 ∧ envelope.sequence ≠ 0) ∧
      ChoiceAccepted envelope.protocolVersion choice := by
  unfold validateEvent
  rw [event, seq_eq_ok, ensure_eq_ok, carries]
  dsimp only
  rw [validateChoice_ok]
  simp

/-- What is reported of an attempt when its utterance is prepared. -/
structure Reported (attempt : PreparedVoiceAttempt Parameters)
    (actualVoice : Option PhysicalVoiceId) (logicalVoiceId : Option String) : Prop where
  voice : ∀ voice ∈ actualVoice, voice = attempt.resolution.realized
  -- a route of the legacy voice has a name of its own and reports none
  logical : logicalVoiceId = some attempt.resolution.logicalVoiceId ∨
    (logicalVoiceId = none ∧ 4 ≤ quotedSize attempt.resolution.logicalVoiceId)

theorem Reported.voice_size {attempt : PreparedVoiceAttempt Parameters}
    {actualVoice : Option PhysicalVoiceId} {logicalVoiceId : Option String}
    (reported : Reported attempt actualVoice logicalVoiceId) :
    (Json.nullOr voiceToJson actualVoice).size ≤
      (voiceToJson attempt.resolution.realized).size := by
  cases actualVoice with
  | none =>
      have name : quotedSize "engine_id" = 11 := rfl
      rw [Json.nullOr, size_null, voiceToJson, size_object, membersSize_cons]
      dsimp only
      omega
  | some voice =>
      have same := reported.voice voice rfl
      subst same
      exact le_rfl

theorem Reported.logical_size {attempt : PreparedVoiceAttempt Parameters}
    {actualVoice : Option PhysicalVoiceId} {logicalVoiceId : Option String}
    (reported : Reported attempt actualVoice logicalVoiceId) :
    (Json.nullOr Json.string logicalVoiceId).size ≤
      quotedSize attempt.resolution.logicalVoiceId := by
  rcases reported.logical with rfl | ⟨rfl, wide⟩
  · exact le_rfl
  · exact wide

theorem envelope_size (envelope : MarkerEventEnvelope) :
    envelope.toJson.size =
      1 + (quotedSize "protocol_version" + (decimal envelope.protocolVersion).length + 2 +
        (quotedSize "dispatch_id" + (decimal envelope.dispatchId).length + 2 +
        (quotedSize "sequence" + (decimal envelope.sequence).length + 2 +
          membersSize envelope.event.toMembers))) := by
  rw [MarkerEventEnvelope.toJson, size_object]
  simp only [membersSize_cons, size_number]

variable {context : MarkerDispatchContext} {text : String} {spanId : Nat}
  {attempt : PreparedVoiceAttempt Parameters}

/-- The stand-in of the start. -/
def startStandIn (context : MarkerDispatchContext) (text : String)
    (attempt : PreparedVoiceAttempt Parameters) : MarkerEventEnvelope :=
  context.envelope u64Max (.utteranceStarted u64Max text attempt.resolution.realized.engineId
    (some attempt.resolution.realized) (some attempt.resolution.logicalVoiceId) u32Max u64Max)

/-- The stand-in of the receipt, with an absent application. -/
def receiptStandIn (context : MarkerDispatchContext) (spanId : Nat)
    (attempt : PreparedVoiceAttempt Parameters) : MarkerEventEnvelope :=
  context.envelope u64Max ((PlaybackVoiceChoice.mk spanId attempt).event u64Max
    (if context.supportsNative then some none else none))

/-- **What a passed preflight has formatted.** -/
theorem standIns_format (passed : context.preflightAttempt text spanId attempt = .ok ()) :
    carriesChoices context.protocolVersion = true ∧
      Formats (startStandIn context text attempt) ∧
        (attempt.kind ≠ .legacy → Formats (receiptStandIn context spanId attempt)) := by
  obtain ⟨carries, formats⟩ := preflightAttempt_ok.mp passed
  refine ⟨carries, formats _ ?_, fun layered => formats _ ?_⟩
  · unfold MarkerDispatchContext.standIns
    dsimp only
    split
    · exact List.mem_cons_self
    · exact List.mem_cons_self
  · unfold MarkerDispatchContext.standIns
    dsimp only
    rw [if_pos layered]
    exact List.mem_cons_of_mem _ List.mem_cons_self

/-- **A start is formatted when its stand-in is.** -/
theorem start_formats {sequence utteranceId sampleRate frameCount : Nat}
    {actualVoice : Option PhysicalVoiceId} {logicalVoiceId : Option String}
    (carries : carriesChoices context.protocolVersion = true)
    (standIn : Formats (startStandIn context text attempt))
    (reported : Reported attempt actualVoice logicalVoiceId)
    (positive : sequence ≠ 0) (sequenceRange : sequence ≤ u64Max)
    (utteranceRange : utteranceId ≤ u64Max) (rateRange : sampleRate ≤ u32Max)
    (frameRange : frameCount ≤ u64Max) :
    Formats (context.envelope sequence (.utteranceStarted utteranceId text
      attempt.resolution.realized.engineId actualVoice logicalVoiceId sampleRate
      frameCount)) := by
  obtain ⟨valid, sizes⟩ := formats_iff.mp standIn
  have dispatch : context.dispatchId ≠ 0 := ((validateEvent_start carries rfl).mp valid).1
  refine formats_iff.mpr ⟨(validateEvent_start carries rfl).mpr ⟨dispatch, positive⟩,
    sizes.shorter rfl ?_ fun _ own => by cases own⟩
  have voice := reported.voice_size
  have logical := reported.logical_size
  have counter := decimal_length_mono sequenceRange
  have utterance := decimal_length_mono utteranceRange
  have rate := decimal_length_mono rateRange
  have frames := decimal_length_mono frameRange
  rw [envelope_size, envelope_size]
  simp only [startStandIn, MarkerDispatchContext.envelope, MarkerEvent.toMembers,
    membersSize_cons, membersSize_nil, size_number, size_string, Json.nullOr] at *
  omega

/-! ## Receipts -/

/-- The bytes of a receipt without its counters and without its last member. -/
def receiptBase (context : MarkerDispatchContext) (spanId : Nat)
    (attempt : PreparedVoiceAttempt Parameters) : Nat :=
  158 + (decimal context.protocolVersion).length + (decimal context.dispatchId).length +
    (decimal spanId).length + (decimal attempt.registryGeneration).length +
    quotedSize attempt.resolution.logicalVoiceId + attempt.audioIdentity.toJson.size

/-- **The size of a receipt.** -/
theorem receipt_size (sequence utteranceId : Nat)
    (told : Option (Option NativeApplication)) :
    (context.envelope sequence
        ((PlaybackVoiceChoice.mk spanId attempt).event utteranceId told)).toJson.size =
      receiptBase context spanId attempt + (decimal sequence).length +
        (decimal utteranceId).length + membersSize (nativeMember told) := by
  have version : quotedSize "protocol_version" = 18 := rfl
  have dispatch : quotedSize "dispatch_id" = 13 := rfl
  have number : quotedSize "sequence" = 10 := rfl
  have type : quotedSize "type" = 6 := rfl
  have tag : quotedSize "voice_choice_applied" = 22 := rfl
  have utterance : quotedSize "utterance_id" = 14 := rfl
  have span : quotedSize "span_id" = 9 := rfl
  have generation : quotedSize "registry_generation" = 21 := rfl
  have logical : quotedSize "logical_voice_id" = 18 := rfl
  have choice : quotedSize "choice" = 8 := rfl
  rw [envelope_size, version, dispatch, number, receiptBase]
  simp only [MarkerDispatchContext.envelope, PlaybackVoiceChoice.event, MarkerEvent.toMembers,
    VoiceChoiceApplied.toMembers, membersSize_append, membersSize_cons, membersSize_nil,
    size_number, size_string, type, tag, utterance, span, generation, logical, choice]
  omega

theorem nativeMember_size (application : Option NativeApplication) :
    membersSize (nativeMember (some application)) =
      22 + (Json.nullOr NativeApplication.toJson application).size := by
  have name : quotedSize "native_application" = 20 := rfl
  rw [nativeMember, membersSize_cons, membersSize_nil, name]
  dsimp only
  omega

/-- The bytes of the widest receipt with an application. -/
def receiptBytes (dispatchId spanId : Nat) (attempt : PreparedVoiceAttempt Parameters)
    (application : NativeApplication) : Nat :=
  221 + (decimal dispatchId).length + (decimal spanId).length +
    (decimal attempt.registryGeneration).length + quotedSize attempt.resolution.logicalVoiceId +
    attempt.audioIdentity.toJson.size + application.toJson.size

theorem decimal_u64Max : (decimal u64Max).length = 20 := by
  simp [decimal, wordMax]

/-- The widest receipt has this size. -/
theorem receiptBytes_eq (native : context.protocolVersion = NATIVE_VOICE_EVENT_PROTOCOL_VERSION)
    (application : NativeApplication) :
    (context.envelope u64Max ((PlaybackVoiceChoice.mk spanId attempt).event u64Max
        (some (some application)))).toJson.size =
      receiptBytes context.dispatchId spanId attempt application := by
  have version : (decimal context.protocolVersion).length = 1 := by
    rw [native]
    decide
  rw [receipt_size, nativeMember_size, decimal_u64Max, receiptBase, receiptBytes, version,
    Json.nullOr]
  omega

/-- **A receipt is formatted when its stand-in is**, if what it tells is valid and is
nothing longer, or fits. -/
theorem receipt_formats {sequence utteranceId : Nat} {told : Option (Option NativeApplication)}
    (carries : carriesChoices context.protocolVersion = true)
    (standIn : Formats (receiptStandIn context spanId attempt))
    (presence : context.protocolVersion = NATIVE_VOICE_EVENT_PROTOCOL_VERSION ↔
      told.isSome = true)
    (valid : ∀ application ∈ told.join, application.validate = .ok ())
    (positive : sequence ≠ 0) (utterancePositive : utteranceId ≠ 0)
    (fits : (context.envelope sequence
      ((PlaybackVoiceChoice.mk spanId attempt).event utteranceId told)).toJson.size ≤
        MAX_VOICE_CHOICE_RECEIPT_BYTES) :
    Formats (context.envelope sequence
      ((PlaybackVoiceChoice.mk spanId attempt).event utteranceId told)) := by
  obtain ⟨standInValid, -⟩ := formats_iff.mp standIn
  obtain ⟨⟨dispatch, -⟩, accepted⟩ := (validateEvent_choice carries rfl).mp standInValid
  refine formats_iff.mpr ⟨(validateEvent_choice carries rfl).mpr ⟨⟨dispatch, positive⟩, ?_⟩, ?_⟩
  · exact {
      version := carries
      present := presence
      native := fun native => ⟨(accepted.native native).1, valid⟩
      utteranceId := utterancePositive
      spanId := accepted.spanId
      registryGeneration := accepted.registryGeneration
      logicalVoiceId := accepted.logicalVoiceId }
  · have limits : MAX_VOICE_CHOICE_RECEIPT_BYTES = 32768 ∧
        MAX_MARKER_EVENT_PAYLOAD_BYTES = 2097152 ∧ MAX_V3_MARKER_RECORD_BYTES = 524288 ∧
        MARKER_EVENT_PREFIX.utf8ByteSize = 19 := by decide
    obtain ⟨receipt, payload, line, front⟩ := limits
    rw [receipt] at fits
    exact {
      payload := by omega
      line := by intro _; omega
      receipt := by intro _ _ _; omega }

/-- The size of a formatted receipt is within the limit. -/
theorem receipt_fits {envelope : MarkerEventEnvelope} {choice : VoiceChoiceApplied}
    (carries : carriesChoices envelope.protocolVersion = true)
    (event : envelope.event = .voiceChoiceApplied choice) (formatted : Formats envelope) :
    envelope.toJson.size ≤ MAX_VOICE_CHOICE_RECEIPT_BYTES :=
  (formats_iff.mp formatted).2.receipt carries choice event

/-! ## The records of a preparation -/

/-- The choice that a prepared utterance tells. -/
def choiceOf (spanId : Nat) (attempt : PreparedVoiceAttempt Parameters) :
    Option (PlaybackVoiceChoice Parameters) :=
  if attempt.kind = .legacy then none else some ⟨spanId, attempt⟩

/-- The attempt with what the engine reported of its native parameters. -/
def PreparedVoiceAttempt.withApplication (attempt : PreparedVoiceAttempt Parameters)
    (application : Option NativeApplication) : PreparedVoiceAttempt Parameters :=
  { attempt with nativeApplication := application }

/-- However far the dispatch is and whatever else the utterance has, its first records are
formatted. -/
def RecordsFormat (context : MarkerDispatchContext) (text : String) (spanId : Nat)
    (attempt : PreparedVoiceAttempt Parameters) : Prop :=
  ∀ (sequence utteranceId : Nat) (plans : Option NativePlanReferences)
    (actualVoice : Option PhysicalVoiceId) (logicalVoiceId : Option String)
    (sampleRate frameCount : Nat) (markers : List SynthesisMarker)
    (semanticEvents : List PlaybackSemanticEvent)
    (resolutions : List PlaybackTimelineResolution) (degradedAcss : List AcssDimension)
    (degradedEffects : List PostSynthesisDimension) (after : MarkerDispatchContext)
    (prepared : PreparedMarkerPlayback),
    Reported attempt actualVoice logicalVoiceId → sampleRate ≤ u32Max → frameCount ≤ u64Max →
    (context.advanced sequence utteranceId plans).prepareTimelineUtteranceWithChoice text
      attempt.resolution.realized.engineId actualVoice logicalVoiceId sampleRate frameCount
      markers semanticEvents resolutions degradedAcss degradedEffects
      (choiceOf spanId attempt) = some (after, prepared) →
    ∀ record ∈ MarkerDispatchContext.firstRecords prepared, Formats record

/-- The receipt that carries the application fits with the widest counters, if there is
one. -/
def ReceiptFits (context : MarkerDispatchContext) (spanId : Nat)
    (attempt : PreparedVoiceAttempt Parameters) (application : Option NativeApplication) : Prop :=
  attempt.kind = .legacy ∨ context.protocolVersion = VOICE_CHOICE_EVENT_PROTOCOL_VERSION ∨
    ∀ held ∈ application,
      receiptBytes context.dispatchId spanId attempt (widest held) ≤
        MAX_VOICE_CHOICE_RECEIPT_BYTES

/-! ### Soundness -/

/-- What a receipt tells: nothing, an absent application, or a published one. -/
theorem publishApplication_cases {application : Option NativeApplication}
    {plans : Option NativePlanReferences} {told : Option (Option NativeApplication)}
    (published : context.publishApplication application = some (plans, told)) :
    (context.protocolVersion = NATIVE_VOICE_EVENT_PROTOCOL_VERSION ↔ told.isSome = true) ∧
      ((∃ held, application = some held ∧
          ∃ (before after : NativePlanReferences) (shown : NativeApplication),
            before.publish held = some (after, shown) ∧ told = some (some shown)) ∨
        told = if context.supportsNative then some none else none) := by
  have presence := context.native
  unfold MarkerDispatchContext.supportsNative
  unfold MarkerDispatchContext.publishApplication at published
  cases plansHeld : context.nativePlans with
  | none =>
      rw [plansHeld] at published presence
      cases published
      have other : (context.protocolVersion == NATIVE_VOICE_EVENT_PROTOCOL_VERSION) = false := by
        rw [beq_eq_false_iff_ne]
        intro native
        cases presence.mpr native
      rw [other]
      exact ⟨⟨fun native => absurd (presence.mpr native) (by decide),
        fun present => absurd present (by decide)⟩, Or.inr rfl⟩
  | some before =>
      rw [plansHeld] at published presence
      have native := presence.mp rfl
      rw [native]
      cases application with
      | none =>
          cases published
          exact ⟨⟨fun _ => rfl, fun _ => rfl⟩, Or.inr rfl⟩
      | some held =>
          obtain ⟨⟨after, shown⟩, publishedHeld, same⟩ := Option.bind_eq_some_iff.mp published
          cases same
          exact ⟨⟨fun _ => rfl, fun _ => rfl⟩,
            Or.inl ⟨held, rfl, before, after, shown, publishedHeld, rfl⟩⟩

/-- **The receipt of a passed attempt is formatted** where it fits. -/
theorem choice_formats {application : Option NativeApplication} {sequence utteranceId : Nat}
    {plans : Option NativePlanReferences} {told : Option (Option NativeApplication)}
    (passed : context.preflightAttempt text spanId attempt = .ok ())
    (layered : attempt.kind ≠ .legacy)
    (valid : ∀ held ∈ application, held.validate = .ok ())
    (fits : ReceiptFits context spanId attempt application)
    (published : context.publishApplication application = some (plans, told))
    (positive : sequence ≠ 0) (sequenceRange : sequence ≤ u64Max)
    (utterancePositive : utteranceId ≠ 0) (utteranceRange : utteranceId ≤ u64Max) :
    Formats (context.envelope sequence
      ((PlaybackVoiceChoice.mk spanId attempt).event utteranceId told)) := by
  obtain ⟨carries, -, standIn⟩ := standIns_format passed
  obtain ⟨presence, cases⟩ := publishApplication_cases published
  have counter := decimal_length_mono sequenceRange
  have utterance := decimal_length_mono utteranceRange
  rcases cases with ⟨held, rfl, before, after, shown, publishedHeld, rfl⟩ | rfl
  · have native := presence.mpr rfl
    have bound : receiptBytes context.dispatchId spanId attempt (widest held) ≤
        MAX_VOICE_CHOICE_RECEIPT_BYTES := by
      rcases fits with legacy | third | bound
      · exact absurd legacy layered
      · rw [third] at native
        exact absurd native (by decide)
      · exact bound held rfl
    have shorter := publish_size publishedHeld
    have size := @receiptBytes_eq _ context spanId attempt native (widest held)
    rw [receipt_size, nativeMember_size, Json.nullOr] at size
    have small : shown.toJson.size ≤ MAX_CONTROL_PAYLOAD_BYTES := by
      unfold MAX_VOICE_CHOICE_RECEIPT_BYTES at bound
      unfold MAX_CONTROL_PAYLOAD_BYTES
      omega
    refine receipt_formats carries (standIn layered) presence ?_ positive utterancePositive ?_
    · intro told there
      cases there
      exact publish_valid (valid held rfl) publishedHeld small
    · rw [receipt_size, nativeMember_size, Json.nullOr]
      omega
  · have bound := receipt_fits carries rfl (standIn layered)
    refine receipt_formats carries (standIn layered) presence ?_ positive utterancePositive ?_
    · intro told there
      split at there
      · cases there
      · cases there
    · rw [receiptStandIn, receipt_size] at bound
      rw [receipt_size]
      omega

/-- **The first records are formatted** when the receipt fits. -/
theorem records_format {application : Option NativeApplication}
    (passed : context.preflightAttempt text spanId attempt = .ok ())
    (valid : ∀ held ∈ application, held.validate = .ok ())
    (fits : ReceiptFits context spanId attempt application) :
    RecordsFormat context text spanId (attempt.withApplication application) := by
  intro sequence utteranceId plans actualVoice logicalVoiceId sampleRate frameCount markers
    semanticEvents resolutions degradedAcss degradedEffects after prepared reported rate frames
    made record member
  obtain ⟨carries, standIn, -⟩ := standIns_format passed
  obtain ⟨utteranceRoom, sequenceRoom, begins⟩ := MarkerDispatchContext.prepared_records made
  have same : Formats (startStandIn context text (attempt.withApplication application)) := standIn
  have start := start_formats carries same reported (Nat.succ_ne_zero sequence) sequenceRoom
    utteranceRoom rate frames
  unfold choiceOf at begins
  by_cases legacy : attempt.kind = .legacy
  · rw [if_pos (show (attempt.withApplication application).kind = .legacy from legacy)] at begins
    have only : record ∈ [_] := begins ▸ member
    rw [List.mem_singleton] at only
    rw [only]
    exact start
  · rw [if_neg (show (attempt.withApplication application).kind ≠ .legacy from legacy)] at begins
    obtain ⟨room, after, told, published, first⟩ := begins
    rw [first, List.mem_cons, List.mem_singleton] at member
    rcases member with rfl | rfl
    · exact start
    · have further : (context.advanced sequence utteranceId plans).preflightAttempt text spanId
          (attempt.withApplication application) = .ok () := passed
      have wide : ReceiptFits (context.advanced sequence utteranceId plans) spanId
          (attempt.withApplication application) application := fits
      exact choice_formats further legacy valid wide published (Nat.succ_ne_zero _) room
        (Nat.succ_ne_zero _) utteranceRoom

/-- A preparation without markers is made while there are numbers. -/
theorem prepare_plain {choice : PlaybackVoiceChoice Parameters} {engineId : String}
    {actualVoice : Option PhysicalVoiceId} {logicalVoiceId : Option String}
    {sampleRate frameCount : Nat} {plans : Option NativePlanReferences}
    {told : Option (Option NativeApplication)}
    (carries : carriesChoices context.protocolVersion = true)
    (room : context.nextSequence + 2 ≤ u64Max) (utteranceRoom : context.nextUtteranceId < u64Max)
    (published : context.publishApplication choice.attempt.nativeApplication =
      some (plans, told)) :
    ∃ after prepared, context.prepareTimelineUtteranceWithChoice text engineId actualVoice
        logicalVoiceId sampleRate frameCount [] [] [] [] [] (some choice) =
          some (after, prepared) ∧
      context.choiceRecord choice told ∈ MarkerDispatchContext.firstRecords prepared := by
  have first : increment context.nextSequence = some (context.nextSequence + 1) :=
    if_pos (by omega)
  have second : increment (context.nextSequence + 1) = some (context.nextSequence + 2) :=
    if_pos (by omega)
  have utterance : increment context.nextUtteranceId = some (context.nextUtteranceId + 1) :=
    if_pos utteranceRoom
  have assertions : context.Assertions [] [] [] [] (some choice) :=
    ⟨Or.inr carries, Or.inl ⟨rfl, rfl, rfl, rfl⟩⟩
  have none : MarkerDispatchContext.diagnostics (context.nextUtteranceId + 1) [] [] [] ++
      MarkerDispatchContext.pendingEvents (context.nextUtteranceId + 1) [] [] = [] := by
    simp [MarkerDispatchContext.diagnostics, MarkerDispatchContext.pendingEvents]
  unfold MarkerDispatchContext.prepareTimelineUtteranceWithChoice
  rw [if_pos assertions, utterance]
  simp only [Option.bind_eq_bind, Option.bind_some, MarkerDispatchContext.pushEvent, first,
    MarkerDispatchContext.pushChoice, published, second, none, List.foldlM_nil, Option.pure_def]
  exact ⟨_, _, rfl, List.mem_cons_of_mem _ List.mem_cons_self⟩

/-- The last number makes the widest name. -/
theorem publish_widest (application : NativeApplication) :
    ∃ after, (NativePlanReferences.mk (u64Max - 1)).publish application =
      some (after, widest application) := by
  have last : increment (u64Max - 1) = some u64Max := rfl
  unfold NativePlanReferences.publish widest
  by_cases applied : application.status = .applied
  · rw [if_neg (not_not.mpr applied), if_pos applied, last]
    exact ⟨_, rfl⟩
  · rw [if_pos applied, if_neg applied]
    exact ⟨_, rfl⟩

theorem publishApplication_some {plans : NativePlanReferences} {held : NativeApplication}
    (present : context.nativePlans = some plans) :
    context.publishApplication (some held) =
      (plans.publish held).bind fun published =>
        some (some published.1, some (some published.2)) := by
  unfold MarkerDispatchContext.publishApplication
  rw [present]
  rfl

/-- **Only then**: with the last counters the receipt has its widest size. -/
theorem receiptFits_of_format {application : Option NativeApplication}
    (carries : carriesChoices context.protocolVersion = true)
    (formats : RecordsFormat context text spanId (attempt.withApplication application)) :
    ReceiptFits context spanId attempt application := by
  by_cases legacy : attempt.kind = .legacy
  · exact Or.inl legacy
  by_cases third : context.protocolVersion = VOICE_CHOICE_EVENT_PROTOCOL_VERSION
  · exact Or.inr (Or.inl third)
  have native : context.protocolVersion = NATIVE_VOICE_EVENT_PROTOCOL_VERSION := by
    unfold carriesChoices at carries
    simpa [third] using carries
  refine Or.inr (Or.inr fun held there => ?_)
  cases there
  obtain ⟨after, widestPublished⟩ := publish_widest held
  obtain ⟨plans, present⟩ := Option.isSome_iff_exists.mp (context.native.mpr native)
  have published : (context.advanced (u64Max - 2) (u64Max - 1)
      (some ⟨u64Max - 1⟩)).publishApplication (some held) =
        some (some after, some (some (widest held))) := by
    have last : (context.advanced (u64Max - 2) (u64Max - 1) (some ⟨u64Max - 1⟩)).nativePlans =
        some ⟨u64Max - 1⟩ := by
      show context.nativePlans.map _ = _
      rw [present]
      rfl
    rw [publishApplication_some last, widestPublished]
    rfl
  obtain ⟨final, prepared, made, told⟩ := @prepare_plain _
    (context.advanced (u64Max - 2) (u64Max - 1) (some ⟨u64Max - 1⟩)) text
    ⟨spanId, attempt.withApplication (some held)⟩ attempt.resolution.realized.engineId none
    (some attempt.resolution.logicalVoiceId) 0 0 _ _ carries
    (show u64Max - 2 + 2 ≤ u64Max by decide) (show u64Max - 1 < u64Max by decide) published
  have chosen : choiceOf spanId (attempt.withApplication (some held)) =
      some ⟨spanId, attempt.withApplication (some held)⟩ := if_neg legacy
  rw [← chosen] at made
  have formatted := formats (u64Max - 2) (u64Max - 1) (some ⟨u64Max - 1⟩) none
    (some attempt.resolution.logicalVoiceId) 0 0 [] [] [] [] [] final prepared
    ⟨fun _ there => (Option.not_mem_none _ there).elim, Or.inl rfl⟩ (Nat.zero_le _) (Nat.zero_le _) made _ told
  have bound := receipt_fits (by exact carries) rfl formatted
  exact le_of_eq_of_le (receiptBytes_eq native (widest held)).symm bound

/-- **Marker events survive the wire, and the preflight is sound where the receipt fits.**
What is encoded is decoded to the same event. From version 3 on its line is read as one
record, however its bytes arrive. When the preflight of an attempt passes, the records that
a preparation begins with are formatted for all counters exactly if the receipt with the
application fits. -/
theorem preflight_sound_iff (context : MarkerDispatchContext) (text : String) (spanId : Nat)
    (attempt : PreparedVoiceAttempt Parameters) (application : Option NativeApplication) :
    (∀ (envelope : MarkerEventEnvelope) (payload : Payload), envelope.InRange →
      encodeMarkerEvent envelope = .ok payload → decodeMarkerEvent payload = .ok envelope) ∧
    (∀ (envelope : MarkerEventEnvelope) (line : List UInt8) (arrivals : List Server.Arrival),
      carriesChoices envelope.protocolVersion = true → formatMarkerEvent envelope = .ok line →
      Server.streamOf arrivals = line ++ [Server.newline] →
      (Server.Records.new ⟨[], arrivals⟩).readAll MAX_LINE =
        ([line ++ [Server.newline]], Server.endOf arrivals)) ∧
    (carriesChoices context.protocolVersion = true → context.dispatchId ≠ 0 →
      context.preflightAttempt text spanId attempt = .ok () →
      (∀ held ∈ application, held.validate = .ok ()) →
      (RecordsFormat context text spanId (attempt.withApplication application) ↔
        ReceiptFits context spanId attempt application)) := by
  refine ⟨fun envelope payload inRange encoded => decode_encode inRange encoded, ?_, ?_⟩
  · intro envelope line arrivals carries formatted sent
    obtain ⟨payload, encoded, same⟩ := bind_eq_ok.mp formatted
    cases same
    obtain ⟨-, sizes, rfl⟩ := encodeMarkerEvent_ok.mp encoded
    exact readAll_recordLine (sizes.line carries) sent
  · intro carries _ passed valid
    exact ⟨receiptFits_of_format carries, records_format passed valid⟩

/-! ## A voice whose receipt does not fit -/

/-- A dispatch of version 4. -/
def nativeDispatch : MarkerDispatchContext := .withNativeEvents 1 ⟨0⟩

/-- An attempt on a voice of the engine `e`. -/
def attemptOn (voiceId : String) : PreparedVoiceAttempt Unit where
  registryGeneration := 1
  resolution := ⟨"voice", none, ⟨"e", voiceId⟩, .preferred, []⟩
  choiceIndex := none
  choiceId := none
  settings := ⟨"", 1, 1, 1⟩
  acss := ⟨⟨none, none, none, none, none, none⟩, []⟩
  effects := ⟨⟨none, none, none, none, none, none, none⟩, []⟩
  native := .commonOnly "no parameters"
  nativeApplication := none
  kind := .engineLayered

/-- The engine used common settings only. -/
def commonSettings : NativeApplication where
  status := .commonOnly
  planId := none
  identity := none
  maskedParameters := []
  reason := some "no parameters"

theorem commonSettings_valid : commonSettings.validate = .ok () := by
  decide

theorem size_voiceOn (voiceId : String) :
    (voiceToJson ⟨"e", voiceId⟩).size = 29 + quotedSize voiceId := by
  have engine : quotedSize "engine_id" = 11 := rfl
  have voice : quotedSize "voice_id" = 10 := rfl
  have name : quotedSize "e" = 3 := rfl
  rw [voiceToJson, size_object]
  simp only [membersSize_cons, membersSize_nil, size_string, engine, voice, name]
  omega

theorem size_identityOn (voiceId : String) :
    (attemptOn voiceId).audioIdentity.toJson.size = 132 + quotedSize voiceId := by
  have choice : quotedSize "choice_id" = 11 := rfl
  have reason : quotedSize "reason" = 8 := rfl
  have preferred : quotedSize "preferred" = 11 := rfl
  have realized : quotedSize "realized" = 10 := rfl
  have acss : quotedSize "degraded_acss" = 15 := rfl
  have effects : quotedSize "degraded_effects" = 18 := rfl
  rw [AudioChoiceIdentity.toJson, size_object]
  simp only [PreparedVoiceAttempt.audioIdentity, attemptOn, membersSize_cons, membersSize_nil,
    size_voiceOn, Json.nullOr, size_null, reasonToJson, size_object, size_string, acssToJson,
    effectsToJson, List.map_nil, size_array_nil, choice, reason, preferred, realized, acss,
    effects]
  omega

theorem decimal_one : (decimal 1).length = 1 := by decide

theorem size_startOn (voiceId : String) :
    (startStandIn nativeDispatch "" (attemptOn voiceId)).toJson.size ≤
      1000 + quotedSize voiceId := by
  have names : quotedSize "protocol_version" = 18 ∧ quotedSize "dispatch_id" = 13 ∧
      quotedSize "sequence" = 10 ∧ quotedSize "type" = 6 ∧
      quotedSize "utterance_started" = 19 ∧ quotedSize "utterance_id" = 14 ∧
      quotedSize "text" = 6 ∧ quotedSize "" = 2 ∧ quotedSize "engine_id" = 11 ∧
      quotedSize "e" = 3 ∧ quotedSize "actual_voice" = 14 ∧
      quotedSize "logical_voice_id" = 18 ∧ quotedSize "voice" = 7 ∧
      quotedSize "sample_rate" = 13 ∧ quotedSize "frame_count" = 13 := by
    decide
  have rate : (decimal u32Max).length = 10 := by simp [decimal, wordMax]
  rw [envelope_size]
  simp only [startStandIn, nativeDispatch, MarkerDispatchContext.withNativeEvents,
    MarkerDispatchContext.envelope, MarkerEvent.toMembers, attemptOn, membersSize_cons,
    membersSize_nil, size_number, size_string, Json.nullOr, size_voiceOn, decimal_u64Max, rate,
    decimal_one, names, NATIVE_VOICE_EVENT_PROTOCOL_VERSION]
  have version : (decimal 4).length = 1 := by decide
  omega

/-- **The preflight of a long voice passes.** -/
theorem preflight_long {voiceId : String} (short : quotedSize voiceId ≤ 32401) :
    nativeDispatch.preflightAttempt "" 1 (attemptOn voiceId) = .ok () := by
  have limits : MAX_VOICE_CHOICE_RECEIPT_BYTES = 32768 ∧
      MAX_MARKER_EVENT_PAYLOAD_BYTES = 2097152 ∧ MAX_V3_MARKER_RECORD_BYTES = 524288 ∧
      MARKER_EVENT_PREFIX.utf8ByteSize = 19 ∧ MAX_AUDIO_CHOICE_IDENTITY_BYTES = 32768 := by
    decide
  obtain ⟨receiptLimit, payload, line, front, identityLimit⟩ := limits
  have carries : carriesChoices nativeDispatch.protocolVersion = true := rfl
  have wide : u64Max ≠ 0 := by decide
  have start := size_startOn voiceId
  have identity := size_identityOn voiceId
  have receipt : (receiptStandIn nativeDispatch 1 (attemptOn voiceId)).toJson.size =
      367 + quotedSize voiceId := by
    have version : (decimal nativeDispatch.protocolVersion).length = 1 := by decide
    have dispatch : (decimal nativeDispatch.dispatchId).length = 1 := by decide
    have generation : (decimal (attemptOn voiceId).registryGeneration).length = 1 := decimal_one
    have logical : quotedSize (attemptOn voiceId).resolution.logicalVoiceId = 7 := by
      show quotedSize "voice" = 7
      decide
    have native : nativeDispatch.supportsNative = true := rfl
    rw [receiptStandIn, native, if_pos rfl, receipt_size, nativeMember_size, decimal_u64Max,
      receiptBase, version, dispatch, generation, logical, identity, decimal_one, Json.nullOr,
      size_null]
    omega
  refine preflightAttempt_ok.mpr ⟨carries, ?_⟩
  have all : ∀ standIn ∈ [startStandIn nativeDispatch "" (attemptOn voiceId),
      receiptStandIn nativeDispatch 1 (attemptOn voiceId)], Formats standIn := by
    rw [List.forall_mem_cons, List.forall_mem_singleton]
    constructor
    · refine formats_iff.mpr ⟨(validateEvent_start carries rfl).mpr ⟨one_ne_zero, wide⟩, ?_⟩
      exact {
        payload := by omega
        line := by intro _; omega
        receipt := by intro _ _ own; cases own }
    · refine formats_iff.mpr ⟨(validateEvent_choice carries rfl).mpr
        ⟨⟨one_ne_zero, wide⟩, ?_⟩, ?_⟩
      · exact {
          version := carries
          present := ⟨fun _ => rfl, fun _ => rfl⟩
          native := by
            intro _
            refine ⟨?_, fun held there => by cases there⟩
            rw [identityLimit]
            exact le_trans (le_of_eq identity) (by omega)
          utteranceId := wide
          spanId := one_ne_zero
          registryGeneration := one_ne_zero
          logicalVoiceId := ⟨show "voice".utf8ByteSize ≠ 0 by decide,
            show "voice".utf8ByteSize ≤ 128 by decide⟩ }
      · exact {
          payload := by omega
          line := by intro _; omega
          receipt := by intro _ _ _; omega }
  exact all

theorem receiptBytesOn (voiceId : String) (application : NativeApplication) :
    receiptBytes 1 1 (attemptOn voiceId) application =
      363 + quotedSize voiceId + application.toJson.size := by
  have logical : quotedSize "voice" = 7 := rfl
  rw [receiptBytes, size_identityOn]
  simp only [attemptOn, decimal_one, logical]
  omega

/-- The records of an ordinary voice are formatted. -/
theorem preflight_sound_common :
    RecordsFormat nativeDispatch "" 1 ((attemptOn "v").withApplication (some commonSettings)) := by
  have voice : quotedSize "v" = 3 := rfl
  refine ((preflight_sound_iff nativeDispatch "" 1 (attemptOn "v") (some commonSettings)).2.2 rfl
    (by decide) (preflight_long (by omega)) ?_).mpr ?_
  · intro held there
    cases there
    exact commonSettings_valid
  · refine Or.inr (Or.inr fun held there => ?_)
    cases there
    have application : (widest commonSettings).toJson.size ≤ 200 := by decide
    have limit : MAX_VOICE_CHOICE_RECEIPT_BYTES = 32768 := rfl
    show receiptBytes 1 1 (attemptOn "v") (widest commonSettings) ≤ _
    rw [receiptBytesOn, voice, limit]
    omega

/-- A voice with an ID of this length. -/
def voiceOfLength (length : Nat) : String := String.ofList (List.replicate length 'x')

theorem quotedSize_voiceOfLength (length : Nat) :
    quotedSize (voiceOfLength length) = length + 2 := by
  have plain : ∀ c ∈ (voiceOfLength length).toList, Unescaped c := by
    intro c member
    rw [voiceOfLength, String.toList_ofList] at member
    rw [List.eq_of_mem_replicate member]
    exact ⟨by decide, by decide, by decide, by decide⟩
  rw [quotedSize_plain plain, voiceOfLength, String.length_ofList, List.length_replicate]

/-- An identity that leaves no room for an application. -/
theorem long_unsound {length : Nat} (short : length ≤ 32399) (long : 32399 ≤ length) :
    nativeDispatch.preflightAttempt "" 1 (attemptOn (voiceOfLength length)) = .ok () ∧
      commonSettings.validate = .ok () ∧
      ¬ RecordsFormat nativeDispatch "" 1
        ((attemptOn (voiceOfLength length)).withApplication (some commonSettings)) := by
  have voice := quotedSize_voiceOfLength length
  have passed : nativeDispatch.preflightAttempt "" 1 (attemptOn (voiceOfLength length)) = .ok () :=
    preflight_long (by omega)
  have carries : carriesChoices nativeDispatch.protocolVersion = true := rfl
  refine ⟨passed, commonSettings_valid, fun formats => ?_⟩
  rcases receiptFits_of_format carries formats with legacy | third | bound
  · cases legacy
  · exact absurd third (by decide)
  · have application : 5 ≤ (widest commonSettings).toJson.size := by
      have status : quotedSize "status" = 8 := rfl
      rw [application_size, status]
      omega
    have limit : MAX_VOICE_CHOICE_RECEIPT_BYTES = 32768 := rfl
    have fits : receiptBytes 1 1 (attemptOn (voiceOfLength length)) (widest commonSettings) ≤ _ :=
      bound commonSettings rfl
    rw [receiptBytesOn, voice, limit] at fits
    omega

/-- **A passed preflight, and a receipt that is not formatted.** -/
theorem preflight_long_unsound :
    nativeDispatch.preflightAttempt "" 1 (attemptOn (voiceOfLength 32399)) = .ok () ∧
      commonSettings.validate = .ok () ∧
      ¬ RecordsFormat nativeDispatch "" 1
        ((attemptOn (voiceOfLength 32399)).withApplication (some commonSettings)) :=
  long_unsound le_rfl le_rfl

end Omnivox.Markers
