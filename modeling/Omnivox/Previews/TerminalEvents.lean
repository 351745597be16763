import Omnivox.Foundations.Shedding
import Omnivox.Previews.PreviewEvents
import Omnivox.Synthesis.Anchors

/-!
# A preview always gets its terminal event

Before a preview is admitted, the room that is left beside the rate and the disabled engines is
checked against an identity and a message whose characters are all escaped. So the event without
accepted choices fits, whatever the preview ended with (`PreviewForm.fits_nil`), and the loop that
shortens the list of accepted choices stops at the longest part of it that fits
(`PreviewForm.boundedEvent_eq`).

What the client decodes says what the server said (`Reported`), but for that list and the end of
a long message.
-/

set_option autoImplicit false

namespace Omnivox.Previews

open Foundations
open Engines (ResolutionReason)
open Markers (AudioChoiceIdentity Payload acssOfJson_toJson asNumber_of_le asString_string
  duplicateFree_application duplicateFree_identity duplicateFree_nullOr duplicateFree_object
  duplicateFree_strings duplicateFree_voice effectsOfJson_toJson nullableApplication
  nullableString reasonInRange reasonOfJson_toJson validateAudioChoiceIdentity
  voiceOfJson_toJson)
open Parameters (NativeApplication MAX_CONTROL_PAYLOAD_BYTES stringsOfJson_toJson)
open Synthesis (isCharBoundary isCharBoundary_iff)
open String (utf8Len)
open Text (splitAtByte splitAtByte_append)

/-! ## Messages -/

/-- The step back stops at the last boundary. -/
theorem boundaryBelow_eq (text : List Char) (offset : Nat) :
    boundaryBelow text offset =
      Nat.findGreatest (fun position => isCharBoundary text position = true) offset := by
  induction offset with
  | zero => rfl
  | succ offset ih => rw [boundaryBelow, Nat.findGreatest_succ, ih]

theorem eq_nil_of_utf8Len {text : List Char} (empty : utf8Len text = 0) : text = [] := by
  cases text with
  | nil => rfl
  | cons c rest =>
      have positive := Char.utf8Size_pos c
      rw [String.utf8Len_cons] at empty
      omega

/-- **A message keeps its longest prefix of few bytes.** -/
theorem truncateMessage_longest (message : String) :
    LongestPrefix (fun text => utf8Len text ≤ MAX_PREVIEW_MESSAGE_BYTES) message.toList
      (truncateMessage message).toList := by
  have bytes := String.utf8Len_toList (s := message)
  set limit := min message.utf8ByteSize MAX_PREVIEW_MESSAGE_BYTES with cut
  have boundary := Nat.findGreatest_spec
    (P := fun position => isCharBoundary message.toList position = true) (Nat.zero_le limit)
    (isCharBoundary_iff.mpr ⟨[], message.toList, rfl, rfl⟩)
  obtain ⟨before, after, split, length⟩ := isCharBoundary_iff.mp boundary
  have kept : (truncateMessage message).toList = before := by
    rw [truncateMessage, String.toList_ofList, ← cut, boundaryBelow_eq, ← length, split,
      splitAtByte_append]
  have short : utf8Len before ≤ limit := length ▸ Nat.findGreatest_le limit
  rw [kept]
  refine ⟨⟨after, split.symm⟩, short.trans (Nat.min_le_right _ _), ?_⟩
  intro other start small
  obtain ⟨others, whole⟩ := start
  -- where another prefix ends there is a boundary too
  have ends : utf8Len other ≤ utf8Len before := by
    have within : utf8Len other ≤ limit := by
      refine Nat.le_min.mpr ⟨?_, small⟩
      rw [← bytes, ← whole, String.utf8Len_append]
      exact Nat.le_add_right _ _
    rw [length]
    exact Nat.le_findGreatest within (isCharBoundary_iff.mpr ⟨other, others, whole.symm, rfl⟩)
  rcases List.prefix_or_prefix_of_prefix ⟨others, whole⟩ ⟨after, split.symm⟩ with shorter | longer
  · exact shorter.length_le
  · obtain ⟨more, rfl⟩ := longer
    rw [String.utf8Len_append] at ends
    rw [eq_nil_of_utf8Len (by omega : utf8Len more = 0), List.append_nil]

/-! ## The loop -/

section Loop

variable {Accepted Identity : Type} (form : PreviewForm Accepted Identity) (rates : RateText)
  (requestId : Nat) (response : PreviewResponse Accepted Identity)

/-- The event fits in a payload. -/
def PreviewForm.Fits : Prop :=
  (form.envelopeToJson rates ⟨CONTROL_PROTOCOL_VERSION, some requestId, response⟩).size ≤
    MAX_CONTROL_PAYLOAD_BYTES

instance : Decidable (form.Fits rates requestId response) :=
  inferInstanceAs (Decidable (_ ≤ _))

variable {form rates requestId response}

theorem formatControlEvent_of_fits (fits : form.Fits rates requestId response) :
    form.formatControlEvent rates ⟨CONTROL_PROTOCOL_VERSION, some requestId, response⟩ =
      .ok ⟨form.envelopeToJson rates ⟨CONTROL_PROTOCOL_VERSION, some requestId, response⟩⟩ := by
  unfold PreviewForm.formatControlEvent
  rw [seq_eq_ok, ensure_eq_ok]
  exact ⟨decide_eq_true fits, rfl⟩

theorem formatControlEvent_of_not_fits (long : ¬ form.Fits rates requestId response) :
    form.formatControlEvent rates ⟨CONTROL_PROTOCOL_VERSION, some requestId, response⟩ =
      .error .payloadTooLarge := by
  have refused : decide ((form.envelopeToJson rates ⟨CONTROL_PROTOCOL_VERSION, some requestId,
      response⟩).size ≤ MAX_CONTROL_PAYLOAD_BYTES) = false := decide_eq_false long
  unfold PreviewForm.formatControlEvent
  dsimp only
  rw [refused]
  rfl

/-- The response that lists some of the accepted choices, with a short message. -/
def reported (response : PreviewResponse Accepted Identity) (choices : List Accepted) :
    PreviewResponse Accepted Identity :=
  { response with
    acceptedAudio := choices
    acceptedAudioTruncated := response.acceptedAudioTruncated ||
      decide (choices.length < response.acceptedAudio.length)
    message := response.message.map truncateMessage }

/-- One choice less than before. -/
theorem reported_dropLast {count : Nat} (listed : count + 1 ≤ response.acceptedAudio.length) :
    { reported response (response.acceptedAudio.take (count + 1)) with
      acceptedAudio := (response.acceptedAudio.take (count + 1)).dropLast
      acceptedAudioTruncated := true } =
      reported response (response.acceptedAudio.take count) := by
  have fewer : (response.acceptedAudio.take (count + 1)).dropLast =
      response.acceptedAudio.take count := by
    rw [List.dropLast_eq_take, List.length_take, Nat.min_eq_left listed, List.take_take]
    congr 1
    omega
  have dropped : (response.acceptedAudio.take count).length < response.acceptedAudio.length := by
    rw [List.length_take]
    omega
  unfold reported
  rw [fewer, decide_eq_true dropped, Bool.or_true]

/-- The choices that a client may be told. -/
def PreviewForm.Listed (form : PreviewForm Accepted Identity) (rates : RateText) (requestId : Nat)
    (response : PreviewResponse Accepted Identity) (choices : List Accepted) : Prop :=
  choices.length ≤ MAX_ACCEPTED_AUDIO_CHOICES ∧
    form.Fits rates requestId (reported response choices)

instance (choices : List Accepted) : Decidable (form.Listed rates requestId response choices) :=
  inferInstanceAs (Decidable (_ ∧ _))

/-- **The loop stops at the longest list that fits.** -/
theorem formatShortened_eq (nil : form.Fits rates requestId (reported response [])) (left : Nat)
    (listed : left ≤ response.acceptedAudio.length) (few : left ≤ MAX_ACCEPTED_AUDIO_CHOICES) :
    form.formatShortened rates requestId left
        (reported response (response.acceptedAudio.take left)) =
      .ok ⟨form.envelopeToJson rates ⟨CONTROL_PROTOCOL_VERSION, some requestId,
        reported response (response.acceptedAudio.take (Nat.findGreatest (fun count =>
          form.Listed rates requestId response (response.acceptedAudio.take count)) left))⟩⟩ := by
  induction left with
  | zero => exact formatControlEvent_of_fits nil
  | succ left ih =>
      have short : (response.acceptedAudio.take (left + 1)).length ≤
          MAX_ACCEPTED_AUDIO_CHOICES := (List.length_take_le _ _).trans few
      rw [Nat.findGreatest_succ, PreviewForm.formatShortened]
      by_cases fits : form.Fits rates requestId
          (reported response (response.acceptedAudio.take (left + 1)))
      · rw [formatControlEvent_of_fits fits, if_pos ⟨short, fits⟩]
      · rw [formatControlEvent_of_not_fits fits, if_neg fun held => fits held.2]
        dsimp only
        rw [← ih (Nat.le_of_succ_le listed) (Nat.le_of_succ_le few), ← reported_dropLast listed]
        rfl

/-- Few choices and a short message. -/
theorem limited_eq (response : PreviewResponse Accepted Identity) :
    { limitAccepted response with
      message := (limitAccepted response).message.map truncateMessage } =
      reported response (response.acceptedAudio.take
        (min MAX_ACCEPTED_AUDIO_CHOICES response.acceptedAudio.length)) := by
  unfold limitAccepted reported
  rw [List.length_take]
  split
  · rename_i many
    rw [Nat.min_eq_left many.le, Nat.min_eq_left many.le, decide_eq_true many, Bool.or_true]
  · rename_i few
    rw [Nat.min_eq_right (Nat.le_of_not_lt few), List.take_length, Nat.min_self,
      decide_eq_false (Nat.lt_irrefl _), Bool.or_false]

/-- **An event is sent**, with the longest list of choices that fits. -/
theorem PreviewForm.boundedEvent_eq (nil : form.Fits rates requestId (reported response [])) :
    ∃ choices, LongestPrefix (form.Listed rates requestId response) response.acceptedAudio choices ∧
      form.boundedEvent rates response requestId = .ok ⟨form.envelopeToJson rates
        ⟨CONTROL_PROTOCOL_VERSION, some requestId, reported response choices⟩⟩ := by
  have longest : LongestPrefix (form.Listed rates requestId response) response.acceptedAudio _ :=
    longestPrefix_take ⟨Nat.zero_le _, nil⟩ fun _ listed => listed.1
  have length : (limitAccepted response).acceptedAudio.length =
      min MAX_ACCEPTED_AUDIO_CHOICES response.acceptedAudio.length :=
    (congrArg (fun told => told.acceptedAudio.length) (limited_eq response)).trans
      (List.length_take.trans (Nat.min_eq_left (Nat.min_le_right _ _)))
  have sent := formatShortened_eq nil
    (min MAX_ACCEPTED_AUDIO_CHOICES response.acceptedAudio.length) (Nat.min_le_right _ _)
    (Nat.min_le_left _ _)
  refine ⟨_, longest, ?_⟩
  rw [← sent]
  unfold PreviewForm.boundedEvent
  dsimp only
  rw [limited_eq, length]

/-! ## The reserved room -/

theorem size_bool (value : Bool) : (Json.bool value).size ≤ (Json.bool false).size := by
  cases value <;> decide

theorem quotedSize_status (status : PreviewStatus) :
    quotedSize status.name ≤ quotedSize PreviewStatus.cancelled.name := by
  cases status <;> decide

theorem size_nullOr_none {α : Type} (encode : α → Json) : (Json.nullOr encode none).size = 4 := rfl

theorem size_nullOr_some {α : Type} (encode : α → Json) (value : α) :
    (Json.nullOr encode (some value)).size = (encode value).size := rfl

/-- A short message is not longer than its characters, all escaped. -/
theorem size_message (message : Option String) :
    (Json.nullOr Json.string (message.map truncateMessage)).size ≤
      6 * MAX_PREVIEW_MESSAGE_BYTES + 2 := by
  cases message with
  | none =>
      rw [Option.map_none, size_nullOr_none]
      decide
  | some message =>
      have short := (truncateMessage_longest message).holds
      have size := quotedSize_le (truncateMessage message)
      rw [String.utf8Len_toList] at short
      rw [Option.map_some, size_nullOr_some, size_string]
      omega

/-- What the check before the admission says of the stand-in. -/
theorem validateMetadataBudget_ok {baseRate : ℚ} {disabled : List String}
    (budget : form.validateMetadataBudget rates baseRate disabled = .ok ()) :
    (form.envelopeToJson rates ⟨CONTROL_PROTOCOL_VERSION, some u64Max,
        ⟨.cancelled, [], false, none, none, baseRate, disabled⟩⟩).size + form.identityBytes +
      6 * MAX_PREVIEW_MESSAGE_BYTES ≤ MAX_CONTROL_PAYLOAD_BYTES := by
  have large : MAX_CONTROL_PAYLOAD_BYTES < usizeMax := by
    decide
  unfold PreviewForm.validateMetadataBudget at budget
  dsimp only at budget
  rw [ensure_eq_ok, decide_eq_true_eq] at budget
  unfold saturatingAdd at budget
  omega

/-- **The event without accepted choices fits.** -/
theorem PreviewForm.fits_nil
    (budget : form.validateMetadataBudget rates response.baseRate
      response.effectiveDisabledEngineIds = .ok ())
    (identity : ∀ identity ∈ response.lastStarted,
      (form.identityToJson identity).size ≤ form.identityBytes)
    (range : requestId ≤ u64Max) : form.Fits rates requestId (reported response []) := by
  have room := validateMetadataBudget_ok budget
  have digits := decimal_length_mono range
  have status := quotedSize_status response.status
  have flag := size_bool (reported response []).acceptedAudioTruncated
  have message := size_message response.message
  have started : (Json.nullOr form.identityToJson response.lastStarted).size ≤
      form.identityBytes + 4 := by
    cases held : response.lastStarted with
    | none => exact Nat.le_add_left _ _
    | some started => exact (identity started held).trans (Nat.le_add_right _ _)
  unfold PreviewForm.Fits reported
  unfold reported at flag
  unfold PreviewForm.envelopeToJson PreviewForm.toMembers at room ⊢
  dsimp only at room flag ⊢
  simp only [size_object, membersSize_cons, membersSize_nil, List.map_nil, size_nullOr_none,
    size_nullOr_some, size_string, size_number] at room ⊢
  omega

/-! ## Reading what was sent -/

/-- What the response says of choices and its rate is read as it was written. -/
structure PreviewForm.Readable (form : PreviewForm Accepted Identity) (rates : RateText)
    (response : PreviewResponse Accepted Identity) : Prop where
  accepted : ∀ accepted ∈ response.acceptedAudio,
    form.acceptedOfJson (form.acceptedToJson accepted) = .ok accepted
  present : ∀ identity, form.identityToJson identity ≠ .null
  identity : ∀ identity ∈ response.lastStarted,
    form.identityOfJson (form.identityToJson identity) = .ok identity
  rate : rates.read (rates.write response.baseRate) = response.baseRate

/-- A shorter list of choices is read too. -/
theorem PreviewForm.Readable.reported (readable : form.Readable rates response)
    {choices : List Accepted} (start : choices <+: response.acceptedAudio) :
    form.Readable rates (reported response choices) where
  accepted := fun accepted member => readable.accepted accepted (start.subset member)
  present := readable.present
  identity := readable.identity
  rate := readable.rate

theorem previewStatus_ofJson (status : PreviewStatus) :
    PreviewStatus.ofJson (.string status.name) = .ok status := by
  apply Json.oneOf_name
  · cases status <;> decide
  · cases status <;> decide

theorem PreviewForm.ofMembers_toMembers (readable : form.Readable rates response) :
    form.ofMembers rates (form.toMembers rates response) = .ok response := by
  have accepted : Markers.listOfJson form.acceptedOfJson
      (.array (response.acceptedAudio.map form.acceptedToJson)) = .ok response.acceptedAudio :=
    Json.mapM_decode readable.accepted
  have started : Json.nullable form.identityOfJson
      (Json.nullOr form.identityToJson response.lastStarted) = .ok response.lastStarted :=
    Json.nullable_nullOr readable.present readable.identity
  have rate : rates.ofJson (.fraction (rates.write response.baseRate)) =
      .ok response.baseRate := congrArg Except.ok readable.rate
  unfold PreviewForm.ofMembers PreviewForm.toMembers
  simp [ok_bind, Json.denyUnknown_of_known, Json.required_of_found, previewStatus_ofJson, accepted,
    asBool, started, nullableString, rate, stringsOfJson_toJson]

/-- **An envelope is read back.** -/
theorem PreviewForm.envelopeOfJson_toJson (readable : form.Readable rates response)
    (range : requestId ≤ u64Max) :
    form.envelopeOfJson rates
        (form.envelopeToJson rates ⟨CONTROL_PROTOCOL_VERSION, some requestId, response⟩) =
      .ok ⟨CONTROL_PROTOCOL_VERSION, some requestId, response⟩ := by
  have content := form.ofMembers_toMembers readable
  have version : Json.asNumber Markers.u32Max (.number CONTROL_PROTOCOL_VERSION) =
      .ok CONTROL_PROTOCOL_VERSION := asNumber_of_le (by decide)
  have request : Json.nullable (Json.asNumber u64Max) (Json.nullOr Json.number (some requestId)) =
      .ok (some requestId) :=
    Markers.nullableNumber fun number held => Option.some.inj held ▸ range
  unfold PreviewForm.envelopeOfJson PreviewForm.envelopeToJson
  unfold PreviewForm.toMembers at content ⊢
  simp [Json.asObject, ok_bind, Json.required_of_found, Json.optional_of_found, version, request,
    PreviewForm.responseOfMembers, Json.remaining, asString_string, content]

/-- What fits is decoded. -/
theorem PreviewForm.decodeJson_of_fits (readable : form.Readable rates response)
    (range : requestId ≤ u64Max) (fits : form.Fits rates requestId response) :
    form.decodeJson rates
        ⟨form.envelopeToJson rates ⟨CONTROL_PROTOCOL_VERSION, some requestId, response⟩⟩ =
      .ok ⟨CONTROL_PROTOCOL_VERSION, some requestId, response⟩ := by
  have field : (Payload.mk (form.envelopeToJson rates
      ⟨CONTROL_PROTOCOL_VERSION, some requestId, response⟩)).text.length ≤
      MAX_CONTROL_ENCODED_BYTES := by
    rw [Payload.text_length]
    unfold PreviewForm.Fits at fits
    unfold MAX_CONTROL_ENCODED_BYTES
    omega
  unfold PreviewForm.decodeJson
  rw [seq_eq_ok, seq_eq_ok, ensure_eq_ok, ensure_eq_ok, mapError_eq_ok]
  exact ⟨decide_eq_true field, decide_eq_true fits, form.envelopeOfJson_toJson readable range⟩

/-- **What the client is told of a preview**: nothing but the list of accepted choices and the
message is shortened. -/
structure Reported (form : PreviewForm Accepted Identity) (rates : RateText) (requestId : Nat)
    (response told : PreviewResponse Accepted Identity) : Prop where
  status : told.status = response.status
  lastStarted : told.lastStarted = response.lastStarted
  baseRate : told.baseRate = response.baseRate
  disabled : told.effectiveDisabledEngineIds = response.effectiveDisabledEngineIds
  message : Option.Rel (fun whole kept => LongestPrefix
    (fun text => utf8Len text ≤ MAX_PREVIEW_MESSAGE_BYTES) whole.toList kept.toList)
    response.message told.message
  accepted : LongestPrefix (fun choices => choices.length ≤ MAX_ACCEPTED_AUDIO_CHOICES ∧
    form.Fits rates requestId
      { told with
        acceptedAudio := choices
        acceptedAudioTruncated := response.acceptedAudioTruncated ||
          decide (choices.length < response.acceptedAudio.length) })
    response.acceptedAudio told.acceptedAudio
  truncated : told.acceptedAudioTruncated = (response.acceptedAudioTruncated ||
    decide (told.acceptedAudio.length < response.acceptedAudio.length))

theorem reported_of_longest {choices : List Accepted}
    (longest : LongestPrefix (form.Listed rates requestId response) response.acceptedAudio
      choices) :
    Reported form rates requestId response (reported response choices) where
  status := rfl
  lastStarted := rfl
  baseRate := rfl
  disabled := rfl
  message := by
    unfold reported
    cases response.message with
    | none => exact .none
    | some message => exact .some (truncateMessage_longest message)
  accepted := longest
  truncated := rfl

end Loop

/-! ## Version 2 -/

/-- The members of an identity are read in front of others. -/
theorem AcceptedAudioChoice.ofJson_toJson {accepted : AcceptedAudioChoice}
    (inRange : reasonInRange accepted.identity.reason) : ofJson accepted.toJson = .ok accepted := by
  unfold ofJson toJson identityOfMembers identityMembers identityNames
  simp [Json.asObject, ok_bind, Json.denyUnknown_of_known, Json.required_of_found,
    nullableString, reasonOfJson_toJson inRange, voiceOfJson_toJson, acssOfJson_toJson,
    effectsOfJson_toJson, asBool]

/-- A preview that was admitted, whose choices passed their check. The indices of their reasons
are machine numbers. -/
structure VoicePreviewResponseV2.Admitted (rates : RateText) (response : VoicePreviewResponseV2) :
    Prop where
  rate : 0 ≤ response.baseRate ∧ response.baseRate ≤ 2
  budget : validateMetadataBudget rates response.baseRate response.effectiveDisabledEngineIds =
    .ok ()
  accepted : ∀ accepted ∈ response.acceptedAudio,
    validateAudioChoiceIdentity accepted.identity = .ok () ∧
      reasonInRange accepted.identity.reason
  lastStarted : ∀ identity ∈ response.lastStarted,
    validateAudioChoiceIdentity identity = .ok () ∧ reasonInRange identity.reason

/-- **The event of version 2** is sent and decoded. -/
theorem VoicePreviewResponseV2.Admitted.told {rates : RateText} {response : VoicePreviewResponseV2}
    (admitted : Admitted rates response) {requestId : Nat} (range : requestId ≤ u64Max)
    (roundTrip : rates.read (rates.write response.baseRate) = response.baseRate) :
    ∃ payload told, boundedEvent rates response requestId = .ok payload ∧
      decodeResponse rates payload = .ok ⟨CONTROL_PROTOCOL_VERSION, some requestId, told⟩ ∧
      Reported previewV2 rates requestId response told := by
  have readable : previewV2.Readable rates response :=
    { accepted := fun accepted member =>
        AcceptedAudioChoice.ofJson_toJson (admitted.accepted accepted member).2
      present := fun _ same => by cases same
      identity := fun identity member =>
        AudioChoiceIdentity.ofJson_toJson (admitted.lastStarted identity member).2
      rate := roundTrip }
  have small : ∀ identity ∈ response.lastStarted,
      (previewV2.identityToJson identity).size ≤ previewV2.identityBytes := by
    intro identity member
    have checked := (admitted.lastStarted identity member).1
    unfold validateAudioChoiceIdentity at checked
    exact of_decide_eq_true (ensure_eq_ok.mp checked)
  obtain ⟨choices, longest, sent⟩ :=
    PreviewForm.boundedEvent_eq (previewV2.fits_nil admitted.budget small range)
  exact ⟨_, _, sent, previewV2.decodeJson_of_fits (readable.reported longest.start) range
    longest.holds.2, reported_of_longest longest⟩

/-! ## Version 3 -/

/-- The numbers of an identity fit their machine types. -/
structure NativeAudioChoiceIdentity.InRange (identity : NativeAudioChoiceIdentity) : Prop where
  reason : reasonInRange identity.common.reason
  application : ∀ held ∈ identity.nativeApplication, NativeApplication.InRange held

theorem NativeAudioChoiceIdentity.ofJson_toJson {identity : NativeAudioChoiceIdentity}
    (inRange : identity.InRange) : ofJson identity.toJson = .ok identity := by
  unfold ofJson toJson nativeOfMembers nativeMembers identityOfMembers identityMembers
    identityNames
  simp [Json.asObject, ok_bind, Json.denyUnknown_of_known, Json.required_of_found,
    nullableString, reasonOfJson_toJson inRange.reason, voiceOfJson_toJson, acssOfJson_toJson,
    effectsOfJson_toJson, nullableApplication inRange.application]

theorem AcceptedNativeAudioChoice.ofJson_toJson {accepted : AcceptedNativeAudioChoice}
    (inRange : accepted.identity.InRange) : ofJson accepted.toJson = .ok accepted := by
  unfold ofJson toJson nativeOfMembers nativeMembers identityOfMembers identityMembers
    identityNames
  simp [Json.asObject, ok_bind, Json.denyUnknown_of_known, Json.required_of_found,
    nullableString, reasonOfJson_toJson inRange.reason, voiceOfJson_toJson, acssOfJson_toJson,
    effectsOfJson_toJson, nullableApplication inRange.application, asBool]

/-- The members of an identity have no doubles. -/
theorem duplicateFree_nativeMembers (identity : NativeAudioChoiceIdentity) :
    ∀ member ∈ nativeMembers identity, member.2.duplicateFree = true := by
  have common := duplicateFree_identity identity.common
  have application : (Json.nullOr NativeApplication.toJson
      identity.nativeApplication).duplicateFree = true :=
    duplicateFree_nullOr fun held _ => duplicateFree_application held
  unfold nativeMembers
  rw [List.forall_mem_append]
  unfold AudioChoiceIdentity.toJson Json.duplicateFree at common
  rw [Bool.and_eq_true, membersDuplicateFree_iff] at common
  exact ⟨common.2, by simpa using application⟩

theorem duplicateFree_native (identity : NativeAudioChoiceIdentity) :
    identity.toJson.duplicateFree = true :=
  duplicateFree_object (by simp [nativeMembers, identityMembers])
    (duplicateFree_nativeMembers identity)

theorem duplicateFree_acceptedNative (accepted : AcceptedNativeAudioChoice) :
    accepted.toJson.duplicateFree = true :=
  duplicateFree_object (by simp [nativeMembers, identityMembers])
    (List.forall_mem_append.mpr ⟨duplicateFree_nativeMembers accepted.identity, by
      simp [Json.duplicateFree]⟩)

/-- **An event of version 3 names no member twice.** -/
theorem duplicateFree_envelope (rates : RateText)
    (envelope : ControlResponseEnvelope AcceptedNativeAudioChoice NativeAudioChoiceIdentity) :
    (previewV3.envelopeToJson rates envelope).duplicateFree = true := by
  have request : (Json.nullOr Json.number envelope.requestId).duplicateFree = true :=
    duplicateFree_nullOr fun _ _ => rfl
  have accepted : Json.itemsDuplicateFree (envelope.response.acceptedAudio.map
      previewV3.acceptedToJson) = true := by
    rw [itemsDuplicateFree_iff, List.forall_mem_map]
    exact fun accepted _ => duplicateFree_acceptedNative accepted
  have started : (Json.nullOr previewV3.identityToJson
      envelope.response.lastStarted).duplicateFree = true :=
    duplicateFree_nullOr fun held _ => duplicateFree_native held
  have message : (Json.nullOr Json.string envelope.response.message).duplicateFree = true :=
    duplicateFree_nullOr fun _ _ => rfl
  have disabled : (Parameters.stringsToJson
      envelope.response.effectiveDisabledEngineIds).duplicateFree = true :=
    duplicateFree_strings id envelope.response.effectiveDisabledEngineIds
  refine duplicateFree_object (by simp [PreviewForm.toMembers]) ?_
  simp [PreviewForm.toMembers, Json.duplicateFree, request, accepted, started, message, disabled]

structure VoicePreviewResponseV3.Admitted (rates : RateText) (response : VoicePreviewResponseV3) :
    Prop where
  rate : 0 ≤ response.baseRate ∧ response.baseRate ≤ 2
  budget : validateMetadataBudget rates response.baseRate response.effectiveDisabledEngineIds =
    .ok ()
  accepted : ∀ accepted ∈ response.acceptedAudio,
    accepted.identity.validate = .ok () ∧ accepted.identity.InRange
  lastStarted : ∀ identity ∈ response.lastStarted,
    identity.validate = .ok () ∧ identity.InRange

/-- What is sent passes the check of the client. -/
theorem VoicePreviewResponseV3.validate_reported {rates : RateText}
    {response : VoicePreviewResponseV3} (admitted : Admitted rates response)
    {choices : List AcceptedNativeAudioChoice} (start : choices <+: response.acceptedAudio)
    (few : choices.length ≤ MAX_ACCEPTED_AUDIO_CHOICES) :
    validate (reported response choices) = .ok () := by
  have message : (reported response choices).message.all
      (fun message => message.utf8ByteSize ≤ MAX_PREVIEW_MESSAGE_BYTES) = true := by
    unfold reported
    cases response.message with
    | none => rfl
    | some message =>
        have short := (truncateMessage_longest message).holds
        rw [String.utf8Len_toList] at short
        exact decide_eq_true short
  unfold validate
  rw [seq_eq_ok, seq_eq_ok, ensure_eq_ok, forM_eq_ok, forM_eq_ok]
  refine ⟨?_, fun accepted member => (admitted.accepted accepted (start.subset member)).1,
    fun identity member => (admitted.lastStarted identity (Option.mem_toList.mp member)).1⟩
  rw [Bool.and_eq_true, Bool.and_eq_true, Bool.and_eq_true]
  exact ⟨⟨⟨decide_eq_true admitted.rate.1, decide_eq_true admitted.rate.2⟩, decide_eq_true few⟩,
    message⟩

/-- **The event of version 3** is sent and decoded. -/
theorem VoicePreviewResponseV3.Admitted.told {rates : RateText} {response : VoicePreviewResponseV3}
    (admitted : Admitted rates response) {requestId : Nat} (range : requestId ≤ u64Max)
    (roundTrip : rates.read (rates.write response.baseRate) = response.baseRate) :
    ∃ payload told, boundedEvent rates response requestId = .ok payload ∧
      decodeResponse rates payload = .ok ⟨CONTROL_PROTOCOL_VERSION, some requestId, told⟩ ∧
      Reported previewV3 rates requestId response told := by
  have readable : previewV3.Readable rates response :=
    { accepted := fun accepted member =>
        AcceptedNativeAudioChoice.ofJson_toJson (admitted.accepted accepted member).2
      present := fun _ same => by cases same
      identity := fun identity member =>
        NativeAudioChoiceIdentity.ofJson_toJson (admitted.lastStarted identity member).2
      rate := roundTrip }
  have small : ∀ identity ∈ response.lastStarted,
      (previewV3.identityToJson identity).size ≤ previewV3.identityBytes := by
    intro identity member
    have checked := (admitted.lastStarted identity member).1
    unfold NativeAudioChoiceIdentity.validate at checked
    rw [seq_eq_ok, seq_eq_ok, ensure_eq_ok] at checked
    exact of_decide_eq_true checked.2.2
  obtain ⟨choices, longest, sent⟩ :=
    PreviewForm.boundedEvent_eq (previewV3.fits_nil admitted.budget small range)
  refine ⟨_, _, sent, ?_, reported_of_longest longest⟩
  have read := previewV3.decodeJson_of_fits (readable.reported longest.start) range
    longest.holds.2
  have valid := validate_reported admitted longest.start longest.holds.1
  unfold decodeResponse
  rw [read, ok_bind, duplicateFree_envelope, valid]
  rfl

/-! ## The event of a preview -/

/-- **A preview always gets its terminal event.** Whatever it ended with, of whatever length, the
event is sent and the client decodes it. -/
theorem preview_always_told (rates : RateText) (requestId : Nat) (range : requestId ≤ u64Max) :
    (∀ response : VoicePreviewResponseV2, VoicePreviewResponseV2.Admitted rates response →
      rates.read (rates.write response.baseRate) = response.baseRate →
      ∃ payload told, VoicePreviewResponseV2.boundedEvent rates response requestId = .ok payload ∧
        VoicePreviewResponseV2.decodeResponse rates payload =
          .ok ⟨CONTROL_PROTOCOL_VERSION, some requestId, told⟩ ∧
        Reported previewV2 rates requestId response told) ∧
    ∀ response : VoicePreviewResponseV3, VoicePreviewResponseV3.Admitted rates response →
      rates.read (rates.write response.baseRate) = response.baseRate →
      ∃ payload told, VoicePreviewResponseV3.boundedEvent rates response requestId = .ok payload ∧
        VoicePreviewResponseV3.decodeResponse rates payload =
          .ok ⟨CONTROL_PROTOCOL_VERSION, some requestId, told⟩ ∧
        Reported previewV3 rates requestId response told :=
  ⟨fun _ admitted roundTrip => admitted.told range roundTrip,
    fun _ admitted roundTrip => admitted.told range roundTrip⟩

/-- Whole rates, such as `1.0`. -/
def wholeRates : RateText where
  write := fun rate => ⟨rate.num.toNat, [0], none⟩
  read := fun text => text.whole

/-- What is said of one choice. -/
def spokenIdentity : AudioChoiceIdentity :=
  ⟨some "reed", .explicitAlternative 1, ⟨"eloquence", "reed"⟩, [.richness], [.reverb]⟩

def spokenV2 : VoicePreviewResponseV2 :=
  ⟨.completed, [⟨spokenIdentity, true⟩], false, some spokenIdentity, some "done", 1, ["piper"]⟩

def spokenV3 : VoicePreviewResponseV3 :=
  ⟨.failed, [⟨⟨spokenIdentity, none⟩, true⟩], false, some ⟨spokenIdentity, none⟩, some "done", 1,
    ["piper"]⟩

theorem valid_spokenIdentity : validateAudioChoiceIdentity spokenIdentity = .ok () := by
  unfold validateAudioChoiceIdentity
  rw [ensure_eq_ok]
  decide +kernel

theorem inRange_spokenIdentity : reasonInRange spokenIdentity.reason :=
  (by decide : 1 ≤ u64Max)

theorem admitted_spokenV2 : VoicePreviewResponseV2.Admitted wholeRates spokenV2 where
  rate := ⟨zero_le_one, one_le_two⟩
  budget := by
    unfold VoicePreviewResponseV2.validateMetadataBudget PreviewForm.validateMetadataBudget
    dsimp only
    rw [ensure_eq_ok]
    decide +kernel
  accepted := by
    intro accepted member
    rw [List.mem_singleton.mp member]
    exact ⟨valid_spokenIdentity, inRange_spokenIdentity⟩
  lastStarted := by
    intro identity member
    rw [← Option.some.inj member]
    exact ⟨valid_spokenIdentity, inRange_spokenIdentity⟩

theorem valid_spokenNative :
    NativeAudioChoiceIdentity.validate ⟨spokenIdentity, none⟩ = .ok () := by
  unfold NativeAudioChoiceIdentity.validate
  rw [seq_eq_ok, seq_eq_ok, ensure_eq_ok]
  exact ⟨valid_spokenIdentity, rfl, by decide +kernel⟩

theorem inRange_spokenNative : NativeAudioChoiceIdentity.InRange ⟨spokenIdentity, none⟩ :=
  ⟨inRange_spokenIdentity, fun _ absent => by cases absent⟩

theorem admitted_spokenV3 : VoicePreviewResponseV3.Admitted wholeRates spokenV3 where
  rate := ⟨zero_le_one, one_le_two⟩
  budget := by
    unfold VoicePreviewResponseV3.validateMetadataBudget PreviewForm.validateMetadataBudget
    dsimp only
    rw [ensure_eq_ok]
    decide +kernel
  accepted := by
    intro accepted member
    rw [List.mem_singleton.mp member]
    exact ⟨valid_spokenNative, inRange_spokenNative⟩
  lastStarted := by
    intro identity member
    rw [← Option.some.inj member]
    exact ⟨valid_spokenNative, inRange_spokenNative⟩

/-- Two previews of one choice, at the rate `1.0`. -/
theorem preview_always_told_spoken :
    (∃ payload told, VoicePreviewResponseV2.boundedEvent wholeRates spokenV2 7 = .ok payload ∧
      VoicePreviewResponseV2.decodeResponse wholeRates payload = .ok ⟨1, some 7, told⟩ ∧
      Reported previewV2 wholeRates 7 spokenV2 told) ∧
    ∃ payload told, VoicePreviewResponseV3.boundedEvent wholeRates spokenV3 7 = .ok payload ∧
      VoicePreviewResponseV3.decodeResponse wholeRates payload = .ok ⟨1, some 7, told⟩ ∧
      Reported previewV3 wholeRates 7 spokenV3 told :=
  have always := preview_always_told wholeRates 7 (by decide)
  ⟨always.1 spokenV2 admitted_spokenV2 (by simp [wholeRates, spokenV2]),
    always.2 spokenV3 admitted_spokenV3 (by simp [wholeRates, spokenV3])⟩

end Omnivox.Previews
