import Mathlib
import Omnivox.Foundations.Fallible
import Omnivox.Presentation.TimelineDocument
import Omnivox.Presentation.TimelinePart

/-!
# Reassembly of a timeline

The assembler takes the parts of one timeline in their order and keeps the
encoding so far. Whatever is pushed, it holds the fragments of the first parts in
their order and nothing else (`Assembled`), and what it finishes is a document of
the size and identity that every part declared (`multipart_guarantees`).
-/

set_option autoImplicit false

namespace Omnivox.Presentation

open Foundations
open String (utf8Len)

/-- Bounded in-order reconstruction of one timeline transport aggregate. -/
structure MultipartTimelineAssembler where
  protocolVersion : Nat
  generation : Nat
  dispatchId : Nat
  partCount : Nat
  decodedBytes : Nat
  nextPartIndex : Nat
  encodedPayload : List Char
  deriving Repr, DecidableEq

structure PreparedStructuredPresentation (Body : Type) where
  generation : Nat
  timeline : TimelineDocument Body
  letter : Bool
  deriving Repr, DecidableEq

structure PresentationGenerations where
  latest : Nat
  deriving Repr, DecidableEq

namespace PresentationGenerations

/-- A decoded timeline is stale unless it is newer than the committed generation. -/
def prepareDecodedTimeline {Body : Type} (generations : PresentationGenerations)
    (timeline : TimelineDocument Body) :
    Outcome PresentationGenerations String (Option (PreparedStructuredPresentation Body)) :=
  if timeline.generation ≤ generations.latest then (generations, .ok none)
  else (generations,
    .ok (some { letter := false, generation := timeline.generation, timeline := timeline }))

def commit (generations : PresentationGenerations) (generation : Nat) : PresentationGenerations :=
  { generations with latest := max generations.latest generation }

end PresentationGenerations

namespace MultipartTimelineAssembler

/-- The encoded size of the declared document. -/
def expectedEncodedBytes (decodedBytes : Nat) : Nat := divCeil decodedBytes 3 * 4

/-- The part declares what the assembler was started with. -/
def sameHeader (assembler : MultipartTimelineAssembler) (part : PresentationTimelinePart) : Bool :=
  part.protocolVersion == assembler.protocolVersion && part.generation == assembler.generation &&
    part.dispatchId == assembler.dispatchId && part.partCount == assembler.partCount &&
    part.decodedBytes == assembler.decodedBytes

def pushPart (assembler : MultipartTimelineAssembler) (part : PresentationTimelinePart) :
    Outcome MultipartTimelineAssembler String Unit :=
  if !assembler.sameHeader part then
    (assembler, .error "multipart timeline metadata changed between parts")
  else if part.partIndex != assembler.nextPartIndex then
    let received := s!"{assembler.nextPartIndex} but received {part.partIndex}"
    (assembler, .error s!"multipart timeline expected part {received}")
  else if expectedEncodedBytes assembler.decodedBytes <
      utf8Len assembler.encodedPayload + utf8Len part.encodedFragment then
    (assembler, .error "multipart timeline contains more encoded data than declared")
  else
    ({ assembler with
        encodedPayload := assembler.encodedPayload ++ part.encodedFragment
        nextPartIndex := assembler.nextPartIndex + 1 }, .ok ())

def start (arguments : List Char) : Except String MultipartTimelineAssembler := do
  let part ← (decodeAnyTimelinePart arguments).mapError PresentationTimelineError.toString
  ensure (part.partIndex == 0) "multipart timeline must begin with part index 0"
  ensure (expectedEncodedBytes part.decodedBytes ≤ maxTimelineAggregateEncodedBytes)
    "multipart timeline exceeds the encoded aggregate bound"
  let assembler : MultipartTimelineAssembler :=
    { protocolVersion := part.protocolVersion, generation := part.generation
      dispatchId := part.dispatchId, partCount := part.partCount
      decodedBytes := part.decodedBytes, nextPartIndex := 0, encodedPayload := [] }
  let pushed := assembler.pushPart part
  pushed.2
  return pushed.1

def isComplete (assembler : MultipartTimelineAssembler) : Bool :=
  assembler.nextPartIndex == assembler.partCount

def push (assembler : MultipartTimelineAssembler) (arguments : List Char) :
    Outcome MultipartTimelineAssembler String Unit :=
  match (decodeAnyTimelinePart arguments).mapError PresentationTimelineError.toString with
  | .error error => (assembler, .error error)
  | .ok part => assembler.pushPart part

def finish {Body : Type} (codec : TimelineCodec Body) (assembler : MultipartTimelineAssembler)
    (generations : PresentationGenerations) :
    Outcome PresentationGenerations String (Option (PreparedStructuredPresentation Body)) :=
  if !assembler.isComplete then
    let ended := s!"{assembler.nextPartIndex} of {assembler.partCount} parts"
    (generations, .error s!"multipart timeline ended after {ended}")
  else
    match decodeTimelineDocument codec assembler.encodedPayload (some assembler.decodedBytes) with
    | .error error => (generations, .error error.error.toString)
    | .ok timeline =>
        if timeline.protocolVersion != assembler.protocolVersion ||
            timeline.generation != assembler.generation ||
            timeline.dispatchId != assembler.dispatchId then
          (generations, .error
            "multipart timeline header does not match its decoded envelope")
        else generations.prepareDecodedTimeline timeline

end MultipartTimelineAssembler

/-! ## Runs of pushes -/

section Pushes

/-- The part that a push adds. -/
def pushedPart (assembler : MultipartTimelineAssembler) (arguments : List Char) :
    List PresentationTimelinePart :=
  match (assembler.push arguments).2, decodeAnyTimelinePart arguments with
  | .ok (), .ok part => [part]
  | _, _ => []

/-- The assembler after a sequence of pushes, each answered with success or failure. -/
def pushAll (assembler : MultipartTimelineAssembler) (calls : List (List Char)) :
    MultipartTimelineAssembler :=
  calls.foldl (fun assembler arguments => (assembler.push arguments).1) assembler

/-- The parts that a sequence of pushes adds. -/
def pushedParts : MultipartTimelineAssembler → List (List Char) → List PresentationTimelinePart
  | _, [] => []
  | assembler, arguments :: rest =>
      pushedPart assembler arguments ++ pushedParts (assembler.push arguments).1 rest

/-- **What the assembler holds**: the fragments of the parts so far, in their order
from part zero on, all with one header, within the size that they declare. -/
structure Assembled (parts : List PresentationTimelinePart)
    (assembler : MultipartTimelineAssembler) : Prop where
  count : parts.length = assembler.nextPartIndex
  order : ∀ index (part : PresentationTimelinePart), parts[index]? = some part →
    part.partIndex = index
  header : ∀ part ∈ parts, part.protocolVersion = assembler.protocolVersion ∧
    part.generation = assembler.generation ∧ part.dispatchId = assembler.dispatchId ∧
    part.partCount = assembler.partCount ∧ part.decodedBytes = assembler.decodedBytes
  payload : assembler.encodedPayload = parts.flatMap (·.encodedFragment)
  bounded : utf8Len assembler.encodedPayload ≤ 4 * divCeil assembler.decodedBytes 3
  limit : 4 * divCeil assembler.decodedBytes 3 ≤ maxTimelineAggregateEncodedBytes
  accepted : ∀ part ∈ parts, part.Accepted

theorem sameHeader_eq_true {assembler : MultipartTimelineAssembler}
    {part : PresentationTimelinePart} :
    assembler.sameHeader part = true ↔ part.protocolVersion = assembler.protocolVersion ∧
      part.generation = assembler.generation ∧ part.dispatchId = assembler.dispatchId ∧
      part.partCount = assembler.partCount ∧ part.decodedBytes = assembler.decodedBytes := by
  simp only [MultipartTimelineAssembler.sameHeader, Bool.and_eq_true, beq_iff_eq, and_assoc]

/-- **What pushing a part does**: nothing, with an error, or it appends the fragment
of the next part with the same header, where it fits. -/
theorem pushPart_cases (assembler : MultipartTimelineAssembler) (part : PresentationTimelinePart) :
    (∃ error, assembler.pushPart part = (assembler, .error error)) ∨
      assembler.sameHeader part = true ∧ part.partIndex = assembler.nextPartIndex ∧
        utf8Len (assembler.encodedPayload ++ part.encodedFragment) ≤
          4 * divCeil assembler.decodedBytes 3 ∧
        assembler.pushPart part =
          ({ assembler with
              encodedPayload := assembler.encodedPayload ++ part.encodedFragment
              nextPartIndex := assembler.nextPartIndex + 1 }, .ok ()) := by
  unfold MultipartTimelineAssembler.pushPart
  split
  · exact Or.inl ⟨_, rfl⟩
  · rename_i same
    split
    · exact Or.inl ⟨_, rfl⟩
    · rename_i next
      split
      · exact Or.inl ⟨_, rfl⟩
      · rename_i fits
        refine Or.inr ⟨by simpa using same, by simpa using next, ?_, rfl⟩
        rw [String.utf8Len_append]
        unfold MultipartTimelineAssembler.expectedEncodedBytes at fits
        omega

/-- **A push that fails changes nothing**, and one that succeeds pushes the part it
decodes. -/
theorem push_cases (assembler : MultipartTimelineAssembler) (arguments : List Char) :
    (∃ error, assembler.push arguments = (assembler, .error error)) ∨
      ∃ part, decodeAnyTimelinePart arguments = .ok part ∧
        assembler.push arguments = assembler.pushPart part ∧
        (assembler.pushPart part).2 = .ok () := by
  unfold MultipartTimelineAssembler.push
  cases decoded : decodeAnyTimelinePart arguments with
  | error error => exact Or.inl ⟨_, rfl⟩
  | ok part =>
      rcases pushPart_cases assembler part with ⟨error, failed⟩ | ⟨_, _, _, pushed⟩
      · exact Or.inl ⟨error, failed⟩
      · refine Or.inr ⟨part, rfl, rfl, ?_⟩
        rw [pushed]

/-- One more part. -/
theorem Assembled.pushPart {parts : List PresentationTimelinePart}
    {assembler : MultipartTimelineAssembler} (assembled : Assembled parts assembler)
    {part : PresentationTimelinePart} (accepted : part.Accepted)
    (pushed : (assembler.pushPart part).2 = .ok ()) :
    Assembled (parts ++ [part]) (assembler.pushPart part).1 := by
  rcases pushPart_cases assembler part with ⟨error, failed⟩ | ⟨same, next, fits, result⟩
  · rw [failed] at pushed
    cases pushed
  · rw [result]
    refine ⟨?_, ?_, ?_, ?_, fits, assembled.limit, ?_⟩
    · rw [List.length_append, assembled.count]
      rfl
    · intro index other found
      rw [List.getElem?_append] at found
      split at found
      · exact assembled.order index other found
      · rename_i behind
        have last : index = parts.length := by
          obtain ⟨inside, _⟩ := List.getElem?_eq_some_iff.mp found
          rw [List.length_singleton] at inside
          omega
        rw [last, Nat.sub_self] at found
        cases found
        rw [next, last, assembled.count]
    · intro other member
      rcases List.mem_append.mp member with earlier | last
      · exact assembled.header other earlier
      · rw [List.mem_singleton.mp last]
        exact sameHeader_eq_true.mp same
    · rw [List.flatMap_append, ← assembled.payload, List.flatMap_singleton]
    · intro other member
      rcases List.mem_append.mp member with earlier | last
      · exact assembled.accepted other earlier
      · rwa [List.mem_singleton.mp last]

/-- One push, whatever its answer. -/
theorem Assembled.push {parts : List PresentationTimelinePart}
    {assembler : MultipartTimelineAssembler} (assembled : Assembled parts assembler)
    (arguments : List Char) :
    Assembled (parts ++ pushedPart assembler arguments) (assembler.push arguments).1 := by
  unfold pushedPart
  rcases push_cases assembler arguments with ⟨error, failed⟩ | ⟨part, decoded, same, pushed⟩
  · rw [failed, List.append_nil]
    exact assembled
  · rw [same, pushed, decoded]
    exact assembled.pushPart (decodeAnyTimelinePart_accepted decoded) pushed

/-- Every sequence of pushes. -/
theorem Assembled.pushes {parts : List PresentationTimelinePart}
    {assembler : MultipartTimelineAssembler} (assembled : Assembled parts assembler)
    (calls : List (List Char)) :
    Assembled (parts ++ pushedParts assembler calls) (pushAll assembler calls) := by
  induction calls generalizing parts assembler with
  | nil =>
      rw [pushedParts, List.append_nil]
      exact assembled
  | cons arguments rest ih =>
      rw [pushedParts, ← List.append_assoc]
      exact ih (assembled.push arguments)

/-- The first part. -/
theorem start_assembled {arguments : List Char} {assembler : MultipartTimelineAssembler}
    (started : MultipartTimelineAssembler.start arguments = .ok assembler) :
    ∃ part, decodeAnyTimelinePart arguments = .ok part ∧ Assembled [part] assembler := by
  unfold MultipartTimelineAssembler.start at started
  obtain ⟨part, decoded, started⟩ := bind_eq_ok.mp started
  have decoded := mapError_eq_ok.mp decoded
  obtain ⟨_, first, started⟩ := bind_eq_ok.mp started
  obtain ⟨_, bound, started⟩ := bind_eq_ok.mp started
  obtain ⟨_, pushed, started⟩ := bind_eq_ok.mp started
  cases started
  refine ⟨part, decoded, ?_⟩
  have empty : Assembled []
      { protocolVersion := part.protocolVersion, generation := part.generation
        dispatchId := part.dispatchId, partCount := part.partCount
        decodedBytes := part.decodedBytes, nextPartIndex := 0, encodedPayload := [] } := by
    refine ⟨rfl, ?_, ?_, rfl, Nat.zero_le _, ?_, ?_⟩
    · intro index other found
      cases found
    · intro other member
      cases member
    · have within := of_decide_eq_true (ensure_eq_ok.mp bound)
      unfold MultipartTimelineAssembler.expectedEncodedBytes at within
      change 4 * divCeil part.decodedBytes 3 ≤ maxTimelineAggregateEncodedBytes
      omega
    · intro other member
      cases member
  exact empty.pushPart (decodeAnyTimelinePart_accepted decoded) pushed

end Pushes

/-! ## The decoded document -/

section Decoded

variable {Body : Type} {codec : TimelineCodec Body}

/-- The size of what decodes: three bytes for four characters, less the padding. -/
def Base64Sizes (codec : TimelineCodec Body) : Prop :=
  ∀ payload bytes, codec.base64 payload = .ok bytes →
    bytes.length = utf8Len payload / 4 * 3 - paddingCount payload

/-- The bytes are read as the document. -/
def Reads (codec : TimelineCodec Body) (bytes : List UInt8) : TimelineDocument Body → Prop
  | .legacy timeline => codec.legacy.fromSlice bytes = .ok timeline
  | .layered timeline => codec.layered.fromSlice bytes = .ok timeline
  | .native timeline => codec.native.fromSlice bytes = .ok timeline
  | .rich timeline => codec.rich.fromSlice bytes = .ok timeline

theorem unbracePayload_of_base64 {payload : List Char} (base64 : ∀ c ∈ payload, isBase64 c = true) :
    unbracePayload payload = payload := by
  have words : Text.trim payload = payload :=
    Text.trim_of_forall fun c member => isWhitespace_of_isBase64 (base64 c member)
  unfold unbracePayload
  rw [words]
  split
  · rename_i rest
    exact absurd (base64 '{' List.mem_cons_self) (by decide)
  · rfl

theorem decodePayload_eq_ok {payload : List Char} {encodedLimit decodedLimit : Nat}
    {aggregate : Bool} {bytes : List UInt8}
    (decoded : decodePayload codec payload encodedLimit decodedLimit aggregate = .ok bytes) :
    codec.base64 (unbracePayload payload) = .ok bytes := by
  obtain ⟨_, _, decoded⟩ := bind_eq_ok.mp decoded
  obtain ⟨found, answer, decoded⟩ := bind_eq_ok.mp decoded
  obtain ⟨_, _, decoded⟩ := bind_eq_ok.mp decoded
  cases decoded
  exact mapError_eq_ok.mp answer

/-- **Versions 4 to 6**: the size of the bytes is the declared one. -/
theorem decodeVersionedTimeline_size {reader : DocumentReader (VersionedTimeline Body)}
    {sizeText : String} {payload : List Char} {declared : Nat} {timeline : VersionedTimeline Body}
    (decoded : decodeVersionedTimeline codec reader sizeText payload (some declared) =
      .ok timeline) :
    ∃ bytes, codec.base64 (unbracePayload payload) = .ok bytes ∧ bytes.length = declared ∧
      reader.fromSlice bytes = .ok timeline := by
  obtain ⟨found, parsed, decoded⟩ := bind_eq_ok.mp decoded
  obtain ⟨_, _, decoded⟩ := bind_eq_ok.mp decoded
  cases decoded
  have parsed := mapError_eq_ok.mp parsed
  obtain ⟨_, _, parsed⟩ := bind_eq_ok.mp parsed
  obtain ⟨bytes, payloadBytes, parsed⟩ := bind_eq_ok.mp parsed
  obtain ⟨_, size, parsed⟩ := bind_eq_ok.mp parsed
  obtain ⟨_, _, parsed⟩ := bind_eq_ok.mp parsed
  have same : declared = bytes.length := by simpa using ensure_eq_ok.mp size
  exact ⟨bytes, decodePayload_eq_ok payloadBytes, same.symm, mapError_eq_ok.mp parsed⟩

/-- **Version 3**: the size that the payload says is the declared one. -/
theorem decodeMultipartPresentationTimeline_size (sizes : Base64Sizes codec) {payload : List Char}
    {declared : Nat} {timeline : PresentationTimelineEnvelope Body}
    (decoded : decodeMultipartPresentationTimeline codec payload declared = .ok timeline) :
    ∃ bytes, codec.base64 (unbracePayload payload) = .ok bytes ∧ bytes.length = declared ∧
      codec.legacy.fromSlice bytes = .ok timeline := by
  obtain ⟨_, _, decoded⟩ := bind_eq_ok.mp decoded
  obtain ⟨found, limited, decoded⟩ := bind_eq_ok.mp decoded
  obtain ⟨actual, length, decoded⟩ := bind_eq_ok.mp decoded
  obtain ⟨_, same, decoded⟩ := bind_eq_ok.mp decoded
  obtain ⟨_, _, decoded⟩ := bind_eq_ok.mp decoded
  cases decoded
  obtain ⟨document, parsed, limited⟩ := bind_eq_ok.mp limited
  obtain ⟨_, _, limited⟩ := bind_eq_ok.mp limited
  cases limited
  obtain ⟨bytes, payloadBytes, parsed⟩ := bind_eq_ok.mp parsed
  obtain ⟨_, _, length⟩ := bind_eq_ok.mp length
  cases length
  have base64 := decodePayload_eq_ok payloadBytes
  have declaredSize : utf8Len (unbracePayload payload) / 4 * 3 -
      paddingCount (unbracePayload payload) = declared := by
    simpa using invalidIf_eq_ok.mp same
  exact ⟨bytes, base64, (sizes _ _ base64).trans declaredSize, mapError_eq_ok.mp parsed⟩

/-- **Every version.** -/
theorem decodeTimelineDocument_size (sizes : Base64Sizes codec) {payload : List Char}
    {declared : Nat} {timeline : TimelineDocument Body}
    (decoded : decodeTimelineDocument codec payload (some declared) = .ok timeline) :
    ∃ bytes, codec.base64 (unbracePayload payload) = .ok bytes ∧ bytes.length = declared ∧
      Reads codec bytes timeline := by
  obtain ⟨version, _, decoded⟩ := bind_eq_ok.mp decoded
  split at decoded
  · obtain ⟨rich, read, rfl⟩ := map_eq_ok.mp decoded
    exact decodeVersionedTimeline_size read
  · split at decoded
    · obtain ⟨native, read, rfl⟩ := map_eq_ok.mp decoded
      exact decodeVersionedTimeline_size read
    · split at decoded
      · obtain ⟨layered, read, rfl⟩ := map_eq_ok.mp decoded
        exact decodeVersionedTimeline_size read
      · obtain ⟨legacy, read, rfl⟩ := map_eq_ok.mp decoded
        exact decodeMultipartPresentationTimeline_size sizes (mapError_eq_ok.mp read)

/-- **What is finished**: every declared part was pushed, and their fragments decode to
a document of the declared size and identity that is newer than what was committed. -/
structure Finished (codec : TimelineCodec Body) (parts : List PresentationTimelinePart)
    (assembler : MultipartTimelineAssembler) (generations : PresentationGenerations)
    (prepared : PreparedStructuredPresentation Body) : Prop where
  complete : parts.length = assembler.partCount
  document : ∃ bytes, codec.base64 (parts.flatMap (·.encodedFragment)) = .ok bytes ∧
    bytes.length = assembler.decodedBytes ∧ Reads codec bytes prepared.timeline
  version : prepared.timeline.protocolVersion = assembler.protocolVersion
  generation : prepared.timeline.generation = assembler.generation
  dispatchId : prepared.timeline.dispatchId = assembler.dispatchId
  stamped : prepared.generation = assembler.generation
  newer : generations.latest < prepared.generation

/-- The committed generation is what it was. -/
theorem finish_generations (assembler : MultipartTimelineAssembler)
    (generations : PresentationGenerations) :
    (assembler.finish codec generations).1 = generations := by
  unfold MultipartTimelineAssembler.finish
  split
  · rfl
  · split
    · rfl
    · split
      · rfl
      · unfold PresentationGenerations.prepareDecodedTimeline
        split
        · rfl
        · rfl

theorem finish_finished (sizes : Base64Sizes codec) {parts : List PresentationTimelinePart}
    {assembler : MultipartTimelineAssembler} (assembled : Assembled parts assembler)
    {generations : PresentationGenerations} {prepared : PreparedStructuredPresentation Body}
    (finished : (assembler.finish codec generations).2 = .ok (some prepared)) :
    Finished codec parts assembler generations prepared := by
  unfold MultipartTimelineAssembler.finish at finished
  split at finished
  · cases finished
  · rename_i complete
    split at finished
    · cases finished
    · rename_i timeline decoded
      split at finished
      · cases finished
      · rename_i header
        unfold PresentationGenerations.prepareDecodedTimeline at finished
        split at finished
        · cases finished
        · rename_i newer
          cases finished
          obtain ⟨bytes, base64, size, reads⟩ := decodeTimelineDocument_size sizes decoded
          have alphabet : ∀ c ∈ assembler.encodedPayload, isBase64 c = true := by
            intro c member
            rw [assembled.payload] at member
            obtain ⟨part, pushed, inside⟩ := List.mem_flatMap.mp member
            exact (assembled.accepted part pushed).base64 c inside
          rw [unbracePayload_of_base64 alphabet, assembled.payload] at base64
          simp only [Bool.or_eq_true, bne_iff_ne, ne_eq, not_or, not_not] at header
          have all : assembler.nextPartIndex = assembler.partCount := by
            simpa [MultipartTimelineAssembler.isComplete] using complete
          exact ⟨assembled.count.trans all, ⟨bytes, base64, size, reads⟩, header.1.1, header.1.2,
            header.2, header.1.2, Nat.lt_of_not_le newer⟩

/-- **Multipart timelines.** After a first part and any pushes, failed ones included,
the assembler holds the pushed parts in their order with one header, within the
declared size. A push that fails changes nothing. What is finished is complete and
is the declared document, and the committed generation stays. -/
theorem multipart_guarantees (sizes : Base64Sizes codec) {first : List Char}
    {assembler : MultipartTimelineAssembler}
    (started : MultipartTimelineAssembler.start first = .ok assembler) (calls : List (List Char)) :
    (∀ (arguments : List Char) (error : String),
      ((pushAll assembler calls).push arguments).2 = .error error →
        ((pushAll assembler calls).push arguments).1 = pushAll assembler calls) ∧
    ∃ part, decodeAnyTimelinePart first = .ok part ∧
      Assembled (part :: pushedParts assembler calls) (pushAll assembler calls) ∧
      ∀ generations, ((pushAll assembler calls).finish codec generations).1 = generations ∧
        ∀ prepared, ((pushAll assembler calls).finish codec generations).2 = .ok (some prepared) →
          Finished codec (part :: pushedParts assembler calls) (pushAll assembler calls)
            generations prepared := by
  obtain ⟨part, decoded, opened⟩ := start_assembled started
  have assembled := opened.pushes calls
  refine ⟨?_, part, decoded, assembled, ?_⟩
  · intro arguments error failed
    rcases push_cases (pushAll assembler calls) arguments with ⟨_, same⟩ | ⟨_, _, same, pushed⟩
    · rw [same]
    · rw [same, pushed] at failed
      cases failed
  · intro generations
    refine ⟨finish_generations _ generations, ?_⟩
    intro prepared finished
    exact finish_finished sizes assembled finished

end Decoded

/-! ## A greeting in two parts -/

def greetingDocument : List UInt8 :=
  ("\x7b\"protocol_version\":3,\"generation\":7,\"dispatch_id\":19," ++
    "\"delivery_policy\":\"ordered\",\"spans\":[\x7b\"id\":1,\"text\":\"hi\"\x7d]\x7d").toList.map
      fun c => UInt8.ofNat c.toNat

def greetingStart : List Char := "eyJwcm90b2NvbF92".toList

def greetingEnd : List Char :=
  ("ZXJzaW9uIjozLCJnZW5lcmF0aW9uIjo3LCJkaXNwYXRjaF9pZCI6MTksImRlbGl2ZXJ5" ++
    "X3BvbGljeSI6Im9yZGVyZWQiLCJzcGFucyI6W3siaWQiOjEsInRleHQiOiJoaSJ9XX0=").toList

def greetingTimeline : PresentationTimelineEnvelope String :=
  { protocolVersion := 3, generation := 7, dispatchId := 19, deliveryPolicy := some .ordered
    replacementKey := none, body := "hi" }

/-- Decoders that know this document. -/
def greetingCodec : TimelineCodec String where
  base64 payload :=
    if payload = greetingStart ++ greetingEnd then .ok greetingDocument
    else .error "Invalid padding"
  version _ := .ok 3
  duplicateFree _ := .ok ()
  legacy := ⟨fun _ => .ok greetingTimeline, fun _ _ => .ok ()⟩
  layered := ⟨fun _ => .error "missing field", fun _ _ => .ok ()⟩
  native := ⟨fun _ => .error "missing field", fun _ _ => .ok ()⟩
  rich := ⟨fun _ => .error "missing field", fun _ _ => .ok ()⟩

theorem greetingCodec_sizes : Base64Sizes greetingCodec := by
  intro payload bytes decoded
  change (if payload = greetingStart ++ greetingEnd then Except.ok greetingDocument else _) = _
    at decoded
  split at decoded
  · rename_i same
    cases decoded
    rw [same]
    decide +kernel
  · cases decoded

/-- The first part again is refused, and the greeting is finished all the same. -/
theorem multipart_guarantees_greeting :
    ∃ parts, Finished greetingCodec parts
      ⟨3, 7, 19, 2, 113, 2, greetingStart ++ greetingEnd⟩ ⟨6⟩
      ⟨7, .legacy greetingTimeline, false⟩ := by
  have started : MultipartTimelineAssembler.start
      ("3 7 19 0 2 113 ".toList ++ greetingStart) =
        .ok ⟨3, 7, 19, 2, 113, 1, greetingStart⟩ := by decide +kernel
  let calls := ["3 7 19 0 2 113 ".toList ++ greetingStart, "3 7 19 1 2 113 ".toList ++ greetingEnd]
  have pushed : pushAll ⟨3, 7, 19, 2, 113, 1, greetingStart⟩ calls =
      ⟨3, 7, 19, 2, 113, 2, greetingStart ++ greetingEnd⟩ := by decide +kernel
  obtain ⟨_, part, _, _, finished⟩ := multipart_guarantees greetingCodec_sizes started calls
  rw [pushed] at finished
  exact ⟨_, (finished ⟨6⟩).2 _ (by decide +kernel)⟩

end Omnivox.Presentation
