import Mathlib
import Omnivox.Presentation.TimelineDocument

/-!
# Delivery policies and replacement domains

A replaceable document gives way to a later one of the same replacement domain.
The domain is decided twice: as a predicate on two documents, with one body for
each document version, and as a value made from one document.

On documents that passed validation the two agree
(`domains_eq_iff_sharesReplacementDomain`). Validation is what makes them agree: it
ties each representation to its protocol versions and keeps a key out of version 1.
-/

set_option autoImplicit false

namespace Omnivox.Presentation

open Foundations

variable {Body : Type}

/-! ## Policies and keys -/

/-- The validated effective delivery policy. -/
def PresentationTimelineEnvelope.effectiveDeliveryPolicy
    (timeline : PresentationTimelineEnvelope Body) : PresentationDeliveryPolicy :=
  timeline.deliveryPolicy.getD .replaceable

/-- Whether two adjacent validated envelopes share one replacement domain. -/
def PresentationTimelineEnvelope.sharesReplacementDomain
    (timeline other : PresentationTimelineEnvelope Body) : Bool :=
  if timeline.effectiveDeliveryPolicy != .replaceable ||
      other.effectiveDeliveryPolicy != .replaceable then
    false
  else match timeline.protocolVersion, other.protocolVersion with
    | 1, 1 => true
    | 2, 2 | 3, 3 => timeline.replacementKey == other.replacementKey
    | _, _ => false

/-- The same predicate from version 4 on. -/
def VersionedTimeline.sharesReplacementDomain (timeline other : VersionedTimeline Body) : Bool :=
  timeline.protocolVersion == other.protocolVersion &&
    timeline.deliveryPolicy == .replaceable && other.deliveryPolicy == .replaceable &&
    timeline.replacementKey == other.replacementKey

namespace TimelineDocument

def effectiveDeliveryPolicy : TimelineDocument Body → PresentationDeliveryPolicy
  | .legacy timeline => timeline.effectiveDeliveryPolicy
  | .layered timeline => timeline.deliveryPolicy
  | .native timeline => timeline.deliveryPolicy
  | .rich timeline => timeline.deliveryPolicy

def replacementKey : TimelineDocument Body → Option String
  | .legacy timeline => timeline.replacementKey
  | .layered timeline => timeline.replacementKey
  | .native timeline => timeline.replacementKey
  | .rich timeline => timeline.replacementKey

def sharesReplacementDomain : TimelineDocument Body → TimelineDocument Body → Bool
  | .legacy timeline, .legacy other => timeline.sharesReplacementDomain other
  | .layered timeline, .layered other => timeline.sharesReplacementDomain other
  | .native timeline, .native other => timeline.sharesReplacementDomain other
  | .rich timeline, .rich other => timeline.sharesReplacementDomain other
  | _, _ => false

end TimelineDocument

/-- What a replaceable document replaces: the documents of its version and key. -/
structure ReplacementDomain where
  protocolVersion : Nat
  replacementKey : Option String
  deriving Repr, DecidableEq

def ReplacementDomain.fromTimeline (timeline : TimelineDocument Body) :
    Option ReplacementDomain :=
  if timeline.effectiveDeliveryPolicy == .replaceable then
    some ⟨timeline.protocolVersion, timeline.replacementKey⟩
  else none

/-! ## Validation -/

def maxTimelineIdBytes : Nat := 128

def validateId (value kind : String) : Except PresentationTimelineError Unit :=
  invalidIf (value.isEmpty || maxTimelineIdBytes < value.utf8ByteSize)
    s!"{kind} ID must contain 1 to {maxTimelineIdBytes} UTF-8 bytes"

/-- The checks on the parts of a document that play no part in delivery. -/
structure BodyChecks (Body : Type) where
  /-- The field that documents from version 4 on carry. -/
  registryGeneration : Body → Nat
  /-- The spans and actions of a document of version 1 to 3. -/
  legacy : Nat → Body → Except PresentationTimelineError Unit
  /-- The spans and actions from version 4 on, by transport and version. -/
  mixed : Bool → Nat → Body → Except PresentationTimelineError Unit
  /-- The tone shapes of a version. -/
  shapes : Nat → Body → Except PresentationTimelineError Unit

section Validation

variable (checks : BodyChecks Body)

/-- The delivery fields of a document of version 1 to 3. -/
def PresentationTimelineEnvelope.validateDelivery (timeline : PresentationTimelineEnvelope Body) :
    Except PresentationTimelineError Unit :=
  match timeline.protocolVersion with
  | 1 => invalidIf (timeline.deliveryPolicy.isSome || timeline.replacementKey.isSome)
      "version 1 timelines cannot contain policy-bearing delivery fields"
  | 2 | 3 => match timeline.deliveryPolicy with
    | none => .error (.invalidTimeline
        s!"version {timeline.protocolVersion} timelines require a delivery policy")
    | some .replaceable => match timeline.replacementKey with
      | none => .error (.invalidTimeline "replaceable timelines require a replacement key")
      | some replacementKey => validateId replacementKey "replacement key"
    | some _ => invalidIf timeline.replacementKey.isSome
        "ordered and urgent timelines cannot contain a replacement key"
  | version => .error (.invalidTimeline s!"unsupported protocol version {version}")

/-- Validate all cross-references and resource bounds before playback changes. -/
def validatePresentationTimeline (timeline : PresentationTimelineEnvelope Body) :
    Except PresentationTimelineError Unit := do
  timeline.validateDelivery
  invalidIf (timeline.generation == 0) "generation must be positive"
  invalidIf (timeline.dispatchId == 0) "dispatch ID must be positive"
  checks.legacy timeline.protocolVersion timeline.body

/-- The delivery fields from version 4 on. -/
def VersionedTimeline.validateDelivery (timeline : VersionedTimeline Body) :
    Except PresentationTimelineError Unit :=
  match timeline.deliveryPolicy with
  | .replaceable => do
      let replacementKey ← orError
        (.invalidTimeline "replaceable timeline requires a replacement key") timeline.replacementKey
      validateId replacementKey "replacement key"
  | _ => invalidIf timeline.replacementKey.isSome
      "ordered and urgent timelines forbid replacement keys"

def VersionedTimeline.validateVersion (timeline : VersionedTimeline Body) (aggregate : Bool)
    (version : Nat) : Except PresentationTimelineError Unit := do
  invalidIf (timeline.protocolVersion != version) "unexpected timeline protocol version"
  invalidIf (timeline.generation == 0 || timeline.dispatchId == 0 ||
      checks.registryGeneration timeline.body == 0)
    "timeline and registry generations and dispatch ID must be positive"
  timeline.validateDelivery
  checks.mixed aggregate version timeline.body

def PresentationTimelineV4.validate (timeline : PresentationTimelineV4 Body) (aggregate : Bool) :=
  timeline.validateVersion checks aggregate 4

def PresentationTimelineV5.validate (timeline : PresentationTimelineV5 Body) (aggregate : Bool) :=
  timeline.validateVersion checks aggregate 5

/-- Version 6 and 7 documents are validated as documents of version 5 first. -/
def PresentationTimelineV6.validate (timeline : PresentationTimelineV6 Body) (aggregate : Bool) :
    Except PresentationTimelineError Unit := do
  invalidIf (timeline.protocolVersion != 6 && timeline.protocolVersion != 7)
    "expected timeline version 6 or 7"
  PresentationTimelineV5.validate checks { timeline with protocolVersion := 5 } aggregate
  checks.shapes timeline.protocolVersion timeline.body

/-- The validation that the decoder of a document ends with. -/
def TimelineDocument.validate (aggregate : Bool) :
    TimelineDocument Body → Except PresentationTimelineError Unit
  | .legacy timeline => validatePresentationTimeline checks timeline
  | .layered timeline => PresentationTimelineV4.validate checks timeline aggregate
  | .native timeline => PresentationTimelineV5.validate checks timeline aggregate
  | .rich timeline => PresentationTimelineV6.validate checks timeline aggregate

/-- A document that passed validation on one of its transports. -/
def TimelineDocument.Validated (timeline : TimelineDocument Body) : Prop :=
  ∃ aggregate, timeline.validate checks aggregate = .ok ()

end Validation

/-! ## What validation says about the domain -/

theorem ReplacementDomain.fromTimeline_eq_some {timeline : TimelineDocument Body}
    {domain : ReplacementDomain} :
    fromTimeline timeline = some domain ↔
      timeline.effectiveDeliveryPolicy = .replaceable ∧
        timeline.protocolVersion = domain.protocolVersion ∧
        timeline.replacementKey = domain.replacementKey := by
  obtain ⟨version, key⟩ := domain
  rw [fromTimeline, Option.ite_none_right_eq_some, Option.some.injEq,
    ReplacementDomain.mk.injEq, beq_iff_eq]

/-- The two domains are one. -/
theorem ReplacementDomain.fromTimeline_eq_iff {first second : TimelineDocument Body} :
    (∃ domain, fromTimeline first = some domain ∧ fromTimeline second = some domain) ↔
      first.effectiveDeliveryPolicy = .replaceable ∧
        second.effectiveDeliveryPolicy = .replaceable ∧
        first.protocolVersion = second.protocolVersion ∧
        first.replacementKey = second.replacementKey := by
  constructor
  · rintro ⟨domain, firstDomain, secondDomain⟩
    obtain ⟨firstPolicy, firstVersion, firstKey⟩ := fromTimeline_eq_some.mp firstDomain
    obtain ⟨secondPolicy, secondVersion, secondKey⟩ := fromTimeline_eq_some.mp secondDomain
    exact ⟨firstPolicy, secondPolicy, firstVersion.trans secondVersion.symm,
      firstKey.trans secondKey.symm⟩
  · rintro ⟨firstPolicy, secondPolicy, versions, keys⟩
    exact ⟨⟨first.protocolVersion, first.replacementKey⟩,
      fromTimeline_eq_some.mpr ⟨firstPolicy, rfl, rfl⟩,
      fromTimeline_eq_some.mpr ⟨secondPolicy, versions.symm, keys.symm⟩⟩

theorem PresentationTimelineEnvelope.sharesReplacementDomain_eq_true
    {timeline other : PresentationTimelineEnvelope Body} :
    timeline.sharesReplacementDomain other = true ↔
      timeline.effectiveDeliveryPolicy = .replaceable ∧
        other.effectiveDeliveryPolicy = .replaceable ∧
        (timeline.protocolVersion = 1 ∧ other.protocolVersion = 1 ∨
          (timeline.protocolVersion = 2 ∨ timeline.protocolVersion = 3) ∧
            timeline.protocolVersion = other.protocolVersion ∧
            timeline.replacementKey = other.replacementKey) := by
  unfold sharesReplacementDomain
  by_cases first : timeline.effectiveDeliveryPolicy = .replaceable
  · by_cases second : other.effectiveDeliveryPolicy = .replaceable
    · rw [if_neg (by simp [first, second]), and_iff_right first, and_iff_right second]
      split
      · rename_i one one'
        simp [one, one']
      · rename_i two two'
        simp [two, two']
      · rename_i three three'
        simp [three, three']
      · rename_i ones twos threes
        constructor
        · intro impossible
          cases impossible
        · rintro (⟨one, one'⟩ | ⟨two | three, same, _⟩)
          · exact absurd one' (ones one)
          · exact absurd (same ▸ two) (twos two)
          · exact absurd (same ▸ three) (threes three)
    · simp [second]
  · simp [first]

theorem VersionedTimeline.sharesReplacementDomain_eq_true
    {timeline other : VersionedTimeline Body} :
    timeline.sharesReplacementDomain other = true ↔
      timeline.deliveryPolicy = .replaceable ∧ other.deliveryPolicy = .replaceable ∧
        timeline.protocolVersion = other.protocolVersion ∧
        timeline.replacementKey = other.replacementKey := by
  simp only [sharesReplacementDomain, Bool.and_eq_true, beq_iff_eq]
  tauto

section Agreement

variable {checks : BodyChecks Body}

/-- Validation keeps a key out of version 1 and admits versions 1 to 3 only. -/
theorem PresentationTimelineEnvelope.validated_cases
    {timeline : PresentationTimelineEnvelope Body}
    (valid : validatePresentationTimeline checks timeline = .ok ()) :
    timeline.protocolVersion = 1 ∧ timeline.replacementKey = none ∨
      timeline.protocolVersion = 2 ∨ timeline.protocolVersion = 3 := by
  obtain ⟨⟨⟩, delivery, _⟩ := bind_eq_ok.mp valid
  unfold validateDelivery at delivery
  split at delivery
  · rename_i one
    have absent := invalidIf_eq_ok.mp delivery
    rw [Bool.or_eq_false_iff, Option.isSome_eq_false_iff, Option.isSome_eq_false_iff,
      Option.isNone_iff_eq_none, Option.isNone_iff_eq_none] at absent
    exact Or.inl ⟨one, absent.2⟩
  · rename_i two
    exact Or.inr (Or.inl two)
  · rename_i three
    exact Or.inr (Or.inr three)
  · cases delivery

theorem VersionedTimeline.validated_version {timeline : VersionedTimeline Body}
    {aggregate : Bool} {version : Nat}
    (valid : timeline.validateVersion checks aggregate version = .ok ()) :
    timeline.protocolVersion = version := by
  obtain ⟨⟨⟩, same, _⟩ := bind_eq_ok.mp valid
  have equal := invalidIf_eq_ok.mp same
  rwa [bne_eq_false_iff_eq] at equal

theorem PresentationTimelineV6.validated_version {timeline : PresentationTimelineV6 Body}
    {aggregate : Bool} (valid : PresentationTimelineV6.validate checks timeline aggregate = .ok ()) :
    timeline.protocolVersion = 6 ∨ timeline.protocolVersion = 7 := by
  obtain ⟨⟨⟩, version, _⟩ := bind_eq_ok.mp valid
  have either := invalidIf_eq_ok.mp version
  rw [Bool.and_eq_false_iff, bne_eq_false_iff_eq, bne_eq_false_iff_eq] at either
  exact either

/-- The protocol versions of each representation. -/
def TimelineDocument.representedVersions : TimelineDocument Body → List Nat
  | .legacy _ => [1, 2, 3]
  | .layered _ => [4]
  | .native _ => [5]
  | .rich _ => [6, 7]

theorem TimelineDocument.Validated.version {timeline : TimelineDocument Body}
    (valid : timeline.Validated checks) :
    timeline.protocolVersion ∈ timeline.representedVersions := by
  obtain ⟨aggregate, valid⟩ := valid
  cases timeline with
  | legacy timeline =>
      rcases PresentationTimelineEnvelope.validated_cases valid with ⟨one, _⟩ | two | three <;>
        simp [representedVersions, protocolVersion, *]
  | layered timeline =>
      simp [representedVersions, protocolVersion, VersionedTimeline.validated_version valid]
  | native timeline =>
      simp [representedVersions, protocolVersion, VersionedTimeline.validated_version valid]
  | rich timeline =>
      rcases PresentationTimelineV6.validated_version valid with six | seven <;>
        simp [representedVersions, protocolVersion, *]

/-- A shared domain is that of two replaceable documents. -/
theorem TimelineDocument.replaceable_of_sharesReplacementDomain
    {first second : TimelineDocument Body} (shares : first.sharesReplacementDomain second = true) :
    first.effectiveDeliveryPolicy = .replaceable ∧
      second.effectiveDeliveryPolicy = .replaceable := by
  cases first <;> cases second <;> first
    | cases shares
    | exact ⟨(PresentationTimelineEnvelope.sharesReplacementDomain_eq_true.mp shares).1,
        (PresentationTimelineEnvelope.sharesReplacementDomain_eq_true.mp shares).2.1⟩
    | exact ⟨(VersionedTimeline.sharesReplacementDomain_eq_true.mp shares).1,
        (VersionedTimeline.sharesReplacementDomain_eq_true.mp shares).2.1⟩

/-- Validated documents of one protocol version have one representation. -/
theorem TimelineDocument.Validated.sameRepresentation {first second : TimelineDocument Body}
    (firstValid : first.Validated checks) (secondValid : second.Validated checks)
    (same : first.protocolVersion = second.protocolVersion) :
    (∃ timeline other, first = .legacy timeline ∧ second = .legacy other) ∨
      ∃ timeline other : VersionedTimeline Body,
        first = .layered timeline ∧ second = .layered other ∨
        first = .native timeline ∧ second = .native other ∨
        first = .rich timeline ∧ second = .rich other := by
  have firstVersion := firstValid.version
  have secondVersion := secondValid.version
  rw [← same] at secondVersion
  generalize first.protocolVersion = version at firstVersion secondVersion
  cases first <;> cases second <;> first
    | exact Or.inl ⟨_, _, rfl, rfl⟩
    | exact Or.inr ⟨_, _, Or.inl ⟨rfl, rfl⟩⟩
    | exact Or.inr ⟨_, _, Or.inr (Or.inl ⟨rfl, rfl⟩)⟩
    | exact Or.inr ⟨_, _, Or.inr (Or.inr ⟨rfl, rfl⟩)⟩
    | exfalso
      simp only [representedVersions, List.mem_cons, List.not_mem_nil, or_false]
        at firstVersion secondVersion
      omega

/-- Two legacy documents: in version 1 no key is left to compare. -/
theorem PresentationTimelineEnvelope.shares_iff_of_validated
    {timeline other : PresentationTimelineEnvelope Body}
    (valid : validatePresentationTimeline checks timeline = .ok ())
    (valid' : validatePresentationTimeline checks other = .ok ()) :
    timeline.sharesReplacementDomain other = true ↔
      timeline.effectiveDeliveryPolicy = .replaceable ∧
        other.effectiveDeliveryPolicy = .replaceable ∧
        timeline.protocolVersion = other.protocolVersion ∧
        timeline.replacementKey = other.replacementKey := by
  have version := validated_cases valid
  have version' := validated_cases valid'
  rw [sharesReplacementDomain_eq_true]
  refine and_congr_right fun _ => and_congr_right fun _ => ?_
  constructor
  · rintro (⟨one, one'⟩ | ⟨_, same, keys⟩)
    · have absent : timeline.replacementKey = none := by
        rcases version with ⟨_, absent⟩ | later
        · exact absent
        · omega
      have absent' : other.replacementKey = none := by
        rcases version' with ⟨_, absent⟩ | later
        · exact absent
        · omega
      exact ⟨one.trans one'.symm, absent.trans absent'.symm⟩
    · exact ⟨same, keys⟩
  · rintro ⟨same, keys⟩
    rcases version with ⟨one, _⟩ | later
    · exact Or.inl ⟨one, same ▸ one⟩
    · exact Or.inr ⟨later, same, keys⟩

/-- **The two decisions agree**: validated documents have one domain exactly when they
share it. -/
theorem domains_eq_iff_sharesReplacementDomain {first second : TimelineDocument Body}
    (firstValid : first.Validated checks) (secondValid : second.Validated checks) :
    (∃ domain, ReplacementDomain.fromTimeline first = some domain ∧
        ReplacementDomain.fromTimeline second = some domain) ↔
      first.sharesReplacementDomain second = true := by
  rw [ReplacementDomain.fromTimeline_eq_iff]
  constructor
  · rintro ⟨firstPolicy, secondPolicy, same, keys⟩
    rcases firstValid.sameRepresentation secondValid same with
      ⟨timeline, other, rfl, rfl⟩ |
        ⟨timeline, other, ⟨rfl, rfl⟩ | ⟨rfl, rfl⟩ | ⟨rfl, rfl⟩⟩
    · obtain ⟨_, valid⟩ := firstValid
      obtain ⟨_, valid'⟩ := secondValid
      exact (PresentationTimelineEnvelope.shares_iff_of_validated valid valid').mpr
        ⟨firstPolicy, secondPolicy, same, keys⟩
    all_goals
      exact VersionedTimeline.sharesReplacementDomain_eq_true.mpr
        ⟨firstPolicy, secondPolicy, same, keys⟩
  · intro shares
    cases first <;> cases second <;> first
      | cases shares
      | exact VersionedTimeline.sharesReplacementDomain_eq_true.mp shares
      | obtain ⟨_, valid⟩ := firstValid
        obtain ⟨_, valid'⟩ := secondValid
        exact (PresentationTimelineEnvelope.shares_iff_of_validated valid valid').mp shares

end Agreement

end Omnivox.Presentation
