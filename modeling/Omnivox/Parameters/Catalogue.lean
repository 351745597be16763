import Mathlib
import Omnivox.Engines.NativeChoices
import Omnivox.Foundations.Fallible

/-!
# Parameter catalogues

An engine describes its native parameters in pages. A page belongs to one
engine, voice and runtime; the pages of one sequence of queries are assembled,
and the assembly is validated as a whole when its last page arrives.

A page that is refused changes nothing. A page that is taken continues the query
of the assembly, and its parameters are appended (`CatalogueAssembly.push_ok`).
-/

set_option autoImplicit false

namespace Omnivox.Parameters

open Foundations
open Engines (EnumChoice ValueType NativeValue ParameterScope AvailabilityStatus ParameterError
  nativeIdentifier nativeText validPhysicalVoiceId)

def MAX_PARAMETERS : Nat := 512

def MAX_PAGE_PARAMETERS : Nat := 64

def MAX_CONTROL_PAYLOAD_BYTES : Nat := 256 * 1024

/-! ## Descriptors -/

structure ParameterAvailability where
  status : AvailabilityStatus
  reason : Option String
  deriving Repr, DecidableEq

inductive DefaultSource where
  | runtimeReadback
  | qualifiedProfile
  | unknown
  deriving Repr, DecidableEq

structure ParameterDefault where
  source : DefaultSource
  value : Option NativeValue
  resetSupported : Bool
  deriving Repr, DecidableEq

structure ParameterDescriptor where
  id : String
  label : String
  help : String
  group : String
  order : Nat
  unit : Option String
  valueType : ValueType
  scope : ParameterScope
  adjustable : Bool
  availability : ParameterAvailability
  default : ParameterDefault
  sideEffects : List String
  deriving Repr, DecidableEq

inductive CommonInput where
  | rate
  | rateOffset
  | averagePitch
  | pitchRange
  | stress
  | richness
  | volume
  | gain
  | lowPass
  | highPass
  | pan
  | reverb
  | echo
  | chorus
  deriving Repr, DecidableEq

structure CommonMapping where
  commonInputs : List CommonInput
  nativeOutputs : List String
  deriving Repr, DecidableEq

structure CatalogueIdentity where
  schemaId : String
  profileId : String
  catalogueRevision : String
  runtimeGeneration : Nat
  deriving Repr, DecidableEq

/-- Complete assembled catalogue. -/
structure ParameterCatalogue where
  engineId : String
  identity : CatalogueIdentity
  voiceId : Option String
  parameters : List ParameterDescriptor
  mappings : List CommonMapping
  deriving Repr, DecidableEq

/-! ## Validation -/

/-- 64 lower-case hexadecimal digits. -/
def revision (value : String) : Bool :=
  value.utf8ByteSize = 64 && value.toList.all fun c => c.isDigit || ('a' ≤ c && c ≤ 'f')

/-- Printable ASCII without spaces. -/
def token (value : String) : Bool :=
  !value.isEmpty && value.utf8ByteSize ≤ 128 && value.toList.all fun c => '!' ≤ c && c ≤ '~'

def CatalogueIdentity.validate (identity : CatalogueIdentity) : Except ParameterError Unit := do
  ensure (nativeIdentifier identity.schemaId && nativeIdentifier identity.profileId)
    (.invalid "invalid schema/profile ID")
  ensure (identity.runtimeGeneration ≠ 0 && revision identity.catalogueRevision)
    (.invalid "invalid catalogue revision or runtime generation")

/-- Check each side effect, after those seen so far. -/
def validateSideEffects (id : String) : List String → List String → Except ParameterError Unit
  | _, [] => .ok ()
  | seen, effect :: rest => do
      ensure (nativeIdentifier effect && effect ≠ id && !seen.contains effect)
        (.invalid "invalid side effect")
      validateSideEffects id (effect :: seen) rest

namespace ParameterDescriptor

/-- The reason that the availability has exactly when the parameter is not supported. -/
def availabilityAgrees (descriptor : ParameterDescriptor) : Bool :=
  if descriptor.availability.status = .supported then descriptor.availability.reason.isNone
  else descriptor.availability.reason.any (nativeText 1024)

/-- The value that the default has exactly when its source is known. -/
def defaultAgrees (descriptor : ParameterDescriptor) : Bool :=
  match descriptor.default.source with
  | .unknown => descriptor.default.value.isNone
  | _ => descriptor.default.value.any descriptor.valueType.accepts

def validate (descriptor : ParameterDescriptor) : Except ParameterError Unit := do
  ensure (nativeIdentifier descriptor.id && nativeIdentifier descriptor.group)
    (.invalid "invalid parameter/group ID")
  ensure (nativeText 128 descriptor.label && nativeText 1024 descriptor.help)
    (.invalid "invalid label/help")
  ensure (descriptor.unit.all nativeIdentifier) (.invalid "invalid unit")
  descriptor.valueType.validate
  ensure descriptor.availabilityAgrees (.invalid "availability reason disagrees with status")
  ensure descriptor.defaultAgrees (.invalid "default value disagrees with evidence or type")
  ensure (!(descriptor.adjustable && descriptor.scope = .voice) ||
      descriptor.default.resetSupported)
    (.invalid "adjustable voice parameter lacks reset support")
  ensure (descriptor.sideEffects.length ≤ MAX_PARAMETERS) (.invalid "too many side effects")
  validateSideEffects descriptor.id [] descriptor.sideEffects

/-- A value that was read back belongs to a physical voice. -/
def readbackHasVoice (voiceId : Option String) (descriptor : ParameterDescriptor) : Bool :=
  voiceId.isSome || descriptor.default.source ≠ .runtimeReadback

end ParameterDescriptor

namespace CommonMapping

def inputsValid (mapping : CommonMapping) : Bool :=
  !mapping.commonInputs.isEmpty && mapping.commonInputs.length ≤ 14 &&
    mapping.commonInputs.dedup.length = mapping.commonInputs.length

/-- The outputs are parameters of the catalogue. -/
def outputsAmong (ids : List String) (mapping : CommonMapping) : Bool :=
  !mapping.nativeOutputs.isEmpty && mapping.nativeOutputs.length ≤ MAX_PARAMETERS &&
    mapping.nativeOutputs.all ids.contains &&
    mapping.nativeOutputs.dedup.length = mapping.nativeOutputs.length

end CommonMapping

namespace ParameterCatalogue

/-- Check each descriptor, after the parameters seen so far. -/
def validateParameters (voiceId : Option String) :
    List String → List ParameterDescriptor → Except ParameterError Unit
  | _, [] => .ok ()
  | seen, descriptor :: rest => do
      descriptor.validate
      ensure (!seen.contains descriptor.id) (.invalid "duplicate parameter ID")
      ensure (descriptor.readbackHasVoice voiceId)
        (.invalid "voice readback requires physical voice identity")
      validateParameters voiceId (descriptor.id :: seen) rest

def validateMapping (ids : List String) (mapping : CommonMapping) :
    Except ParameterError Unit := do
  ensure mapping.inputsValid (.invalid "invalid common inputs")
  ensure (mapping.outputsAmong ids) (.invalid "invalid native mapping outputs")

def validate (catalogue : ParameterCatalogue) : Except ParameterError Unit := do
  ensure (nativeIdentifier catalogue.engineId) (.invalid "invalid engine ID")
  catalogue.identity.validate
  ensure (catalogue.voiceId.all validPhysicalVoiceId) (.invalid "invalid physical voice ID")
  ensure (catalogue.parameters.length ≤ MAX_PARAMETERS) (.invalid "too many descriptors")
  validateParameters catalogue.voiceId [] catalogue.parameters
  let ids := catalogue.parameters.map ParameterDescriptor.id
  catalogue.parameters.forM fun descriptor =>
    ensure (descriptor.sideEffects.all ids.contains) (.invalid "unknown side effect target")
  ensure (catalogue.mappings.length ≤ MAX_PARAMETERS) (.invalid "too many mappings")
  catalogue.mappings.forM (validateMapping ids)

end ParameterCatalogue

/-! ## Queries and pages -/

inductive HelperProtocolError where
  | invalidField (field : String)
  | json
  deriving Repr, DecidableEq

structure CatalogueQuery where
  engineId : String
  voiceId : Option String
  cursor : Option String
  expectedCatalogueRevision : Option String
  deriving Repr, DecidableEq

def CatalogueQuery.validate (query : CatalogueQuery) : Except HelperProtocolError Unit := do
  ensure (nativeIdentifier query.engineId) (.invalidField "engine_id")
  ensure (query.voiceId.all validPhysicalVoiceId) (.invalidField "voice_id")
  ensure (query.cursor.all token) (.invalidField "cursor")
  ensure (query.expectedCatalogueRevision.all revision &&
      (query.cursor.isNone || query.expectedCatalogueRevision.isSome))
    (.invalidField "expected_catalogue_revision")

structure CataloguePage where
  identity : CatalogueIdentity
  voiceId : Option String
  parameters : List ParameterDescriptor
  mappings : List CommonMapping
  nextCursor : Option String
  deriving Repr, DecidableEq

inductive CatalogueUnavailable where
  | engineUnavailable
  | voiceUnavailable
  | notDescribed
  | unsupportedHelper
  deriving Repr, DecidableEq

inductive CatalogueResult where
  | ready (page : CataloguePage)
  | busy (retryAfterMs : Nat)
  | unavailable (reason : CatalogueUnavailable) (message : String)
  deriving Repr, DecidableEq

/-- The encoded lengths of pages and catalogues. `none` does not encode. -/
structure CatalogueEncoding where
  result : CatalogueResult → Option Nat
  catalogue : ParameterCatalogue → Option Nat

namespace CatalogueResult

/-- `bounded`. -/
def validateBounded (encoding : CatalogueEncoding) (result : CatalogueResult) :
    Except HelperProtocolError Unit := do
  let bytes ← orError .json (encoding.result result)
  ensure (bytes ≤ MAX_CONTROL_PAYLOAD_BYTES) (.invalidField "parameter_payload_bytes")

/-- Check each descriptor of a page, after the parameters seen so far. -/
def validatePageParameters (voiceId : Option String) :
    List String → List ParameterDescriptor → Except HelperProtocolError Unit
  | _, [] => .ok ()
  | seen, descriptor :: rest => do
      descriptor.validate.mapError fun _ => .invalidField "parameter_descriptor"
      ensure (!seen.contains descriptor.id) (.invalidField "duplicate_parameter")
      ensure (descriptor.readbackHasVoice voiceId) (.invalidField "voice_default")
      validatePageParameters voiceId (descriptor.id :: seen) rest

/-- The outputs of a mapping may name another page. -/
def validatePageMapping (mapping : CommonMapping) : Except HelperProtocolError Unit := do
  ensure mapping.inputsValid (.invalidField "common_inputs")
  ensure (!mapping.nativeOutputs.isEmpty && mapping.nativeOutputs.length ≤ MAX_PARAMETERS &&
      mapping.nativeOutputs.all nativeIdentifier &&
      mapping.nativeOutputs.dedup.length = mapping.nativeOutputs.length)
    (.invalidField "native_outputs")

def validatePage (page : CataloguePage) : Except HelperProtocolError Unit := do
  page.identity.validate.mapError fun _ => .invalidField "identity"
  ensure (page.voiceId.all validPhysicalVoiceId) (.invalidField "voice_id")
  ensure (page.parameters.length ≤ MAX_PAGE_PARAMETERS &&
      (page.nextCursor.isNone || !page.parameters.isEmpty))
    (.invalidField "parameters")
  validatePageParameters page.voiceId [] page.parameters
  ensure (page.mappings.length ≤ MAX_PARAMETERS) (.invalidField "mappings")
  page.mappings.forM validatePageMapping
  ensure (page.nextCursor.all token) (.invalidField "next_cursor")

def validate (encoding : CatalogueEncoding) (result : CatalogueResult) :
    Except HelperProtocolError Unit := do
  match result with
  | .ready page => validatePage page
  | .busy retryAfterMs =>
      ensure (1 ≤ retryAfterMs && retryAfterMs ≤ 5000) (.invalidField "retry_after_ms")
  | .unavailable _ message => ensure (nativeText 1024 message) (.invalidField "message")
  result.validateBounded encoding

end CatalogueResult

/-! ## Assembly -/

/-- Assemble pages from one engine, voice and runtime. The query is the next one. -/
structure CatalogueAssembly where
  query : CatalogueQuery
  identity : Option CatalogueIdentity
  mappings : List CommonMapping
  parameters : List ParameterDescriptor
  cursors : List String
  complete : Bool
  deriving Repr, DecidableEq

namespace CatalogueAssembly

def new (query : CatalogueQuery) : Except HelperProtocolError CatalogueAssembly := do
  query.validate
  ensure query.cursor.isNone (.invalidField "initial_cursor")
  return {
    query := query
    identity := none
    mappings := []
    parameters := []
    cursors := []
    complete := false }

def nextQuery (assembly : CatalogueAssembly) : Option CatalogueQuery :=
  if assembly.complete then none else some assembly.query

/-- The catalogue that the last page completes. -/
def completed (query : CatalogueQuery) (page : CataloguePage)
    (accumulated : List ParameterDescriptor) : ParameterCatalogue where
  engineId := query.engineId
  identity := page.identity
  voiceId := page.voiceId
  parameters := accumulated
  mappings := page.mappings

/-- The assembly once a page is taken. -/
def taken (assembly : CatalogueAssembly) (page : CataloguePage) : CatalogueAssembly where
  query := { assembly.query with
    expectedCatalogueRevision := some page.identity.catalogueRevision
    cursor := page.nextCursor }
  identity := some page.identity
  mappings := page.mappings
  parameters := assembly.parameters ++ page.parameters
  cursors := page.nextCursor.toList ++ assembly.cursors
  complete := page.nextCursor.isNone

def push (encoding : CatalogueEncoding) (assembly : CatalogueAssembly) (query : CatalogueQuery)
    (result : CatalogueResult) : Except HelperProtocolError CatalogueAssembly := do
  ensure (!assembly.complete && query = assembly.query) (.invalidField "page_query")
  result.validate encoding
  match result with
  | .ready page =>
      ensure (page.voiceId = query.voiceId &&
          query.expectedCatalogueRevision.all (· = page.identity.catalogueRevision))
        (.invalidField "page_identity")
      ensure (assembly.identity.all fun identity =>
          identity = page.identity && assembly.mappings = page.mappings)
        (.invalidField "page_identity")
      ensure (assembly.parameters.length + page.parameters.length ≤ MAX_PARAMETERS)
        (.invalidField "catalogue_parameters")
      ensure (page.nextCursor.all fun cursor => !assembly.cursors.contains cursor)
        (.invalidField "repeated_cursor")
      let accumulated := assembly.parameters ++ page.parameters
      let unique := (accumulated.map ParameterDescriptor.id).dedup
      ensure (unique.length = accumulated.length) (.invalidField "duplicate_parameter")
      if page.nextCursor.isNone then
        (completed query page accumulated).validate.mapError fun _ =>
          .invalidField "complete_catalogue"
      return assembly.taken page
  | _ => throw (.invalidField "page_status")

def finish (assembly : CatalogueAssembly) : Except HelperProtocolError ParameterCatalogue := do
  ensure assembly.complete (.invalidField "incomplete_catalogue")
  let identity ← orError (.invalidField "identity") assembly.identity
  return {
    engineId := assembly.query.engineId
    identity := identity
    voiceId := assembly.query.voiceId
    parameters := assembly.parameters
    mappings := assembly.mappings }

theorem new_ok {query : CatalogueQuery} {assembly : CatalogueAssembly}
    (created : new query = .ok assembly) :
    query.cursor = none ∧ assembly = ⟨query, none, [], [], [], false⟩ := by
  unfold new at created
  obtain ⟨_, -, created⟩ := bind_eq_ok.mp created
  obtain ⟨_, initial, created⟩ := bind_eq_ok.mp created
  rw [ensure_eq_ok, Option.isNone_iff_eq_none] at initial
  cases created
  exact ⟨initial, rfl⟩

/-- **A page that is taken** is the reply to the next query, and belongs to the same
catalogue as the pages before it. The last page completes a valid catalogue. -/
theorem push_ok {encoding : CatalogueEncoding} {assembly next : CatalogueAssembly}
    {query : CatalogueQuery} {result : CatalogueResult}
    (pushed : push encoding assembly query result = .ok next) :
    query = assembly.query ∧ ∃ page, result = .ready page ∧ page.voiceId = query.voiceId ∧
      next = assembly.taken page ∧
      (page.nextCursor = none → (completed query page next.parameters).validate = .ok ()) := by
  unfold push at pushed
  obtain ⟨_, continues, pushed⟩ := bind_eq_ok.mp pushed
  obtain ⟨_, -, pushed⟩ := bind_eq_ok.mp pushed
  rw [ensure_eq_ok, Bool.and_eq_true, decide_eq_true_eq] at continues
  refine ⟨continues.2, ?_⟩
  cases result with
  | busy retryAfterMs => cases pushed
  | unavailable reason message => cases pushed
  | ready page =>
      obtain ⟨_, voice, pushed⟩ := bind_eq_ok.mp pushed
      obtain ⟨_, -, pushed⟩ := bind_eq_ok.mp pushed
      obtain ⟨_, -, pushed⟩ := bind_eq_ok.mp pushed
      obtain ⟨_, -, pushed⟩ := bind_eq_ok.mp pushed
      obtain ⟨_, -, pushed⟩ := bind_eq_ok.mp pushed
      rw [ensure_eq_ok, Bool.and_eq_true, decide_eq_true_eq] at voice
      refine ⟨page, rfl, voice.1, ?_⟩
      by_cases last : page.nextCursor = none
      · rw [if_pos (Option.isNone_iff_eq_none.mpr last)] at pushed
        obtain ⟨_, valid, pushed⟩ := bind_eq_ok.mp pushed
        cases pushed
        exact ⟨rfl, fun _ => mapError_eq_ok.mp valid⟩
      · rw [if_neg (fun none => last (Option.isNone_iff_eq_none.mp none))] at pushed
        cases pushed
        exact ⟨rfl, fun none => absurd none last⟩

theorem finish_ok {assembly : CatalogueAssembly} {catalogue : ParameterCatalogue}
    (finished : assembly.finish = .ok catalogue) :
    ∃ identity, assembly.identity = some identity ∧ catalogue =
      ⟨assembly.query.engineId, identity, assembly.query.voiceId, assembly.parameters,
        assembly.mappings⟩ := by
  unfold finish at finished
  obtain ⟨_, -, finished⟩ := bind_eq_ok.mp finished
  obtain ⟨identity, known, finished⟩ := bind_eq_ok.mp finished
  cases finished
  exact ⟨identity, orError_eq_ok.mp known, rfl⟩

end CatalogueAssembly

end Omnivox.Parameters
