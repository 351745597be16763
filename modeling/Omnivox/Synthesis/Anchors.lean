import Mathlib
import Omnivox.Foundations.Keyed
import Omnivox.Synthesis.Contracts
import Omnivox.Text.SpacedWords

/-!
# Anchors of a request and of its result

Requested anchors are accepted exactly if they are few, their identifiers are short and
distinct, and each lies on a boundary of the text (`validateRequestedAnchors_eq_ok`).
Resolving completes a result to one anchor for each requested one, in the order of the
request, and keeps what the engine placed itself (`resolveAnchors_anchors`).
-/

set_option autoImplicit false

namespace Omnivox.Synthesis

open Foundations
open Text (IsCharBoundary)
open String (utf8Len)

/-! ## Requested anchors -/

theorem isCharBoundary_iff {text : List Char} {offset : Nat} :
    isCharBoundary text offset = true ↔ IsCharBoundary text offset := by
  induction text generalizing offset with
  | nil =>
      cases offset with
      | zero => exact ⟨fun _ => ⟨[], [], rfl, rfl⟩, fun _ => by unfold isCharBoundary; rfl⟩
      | succ offset =>
          refine ⟨fun absurdity => absurd absurdity Bool.false_ne_true, ?_⟩
          rintro ⟨before, after, split, length⟩
          rw [(List.append_eq_nil_iff.mp split.symm).1] at length
          cases length
  | cons character rest ih =>
      cases offset with
      | zero =>
          exact ⟨fun _ => ⟨[], character :: rest, rfl, rfl⟩, fun _ => by unfold isCharBoundary; rfl⟩
      | succ offset =>
          have unfolded : isCharBoundary (character :: rest) (offset + 1) =
              (decide (character.utf8Size ≤ offset + 1) &&
                isCharBoundary rest (offset + 1 - character.utf8Size)) := rfl
          rw [unfolded, Bool.and_eq_true, decide_eq_true_eq, ih]
          constructor
          · rintro ⟨wide, before, after, split, length⟩
            refine ⟨character :: before, after, congrArg (character :: ·) split, ?_⟩
            rw [String.utf8Len_cons, length]
            omega
          · rintro ⟨before, after, split, length⟩
            cases before with
            | nil => cases length
            | cons first others =>
                obtain ⟨rfl, behind⟩ := List.cons.inj split
                rw [String.utf8Len_cons] at length
                exact ⟨by omega, others, after, behind, by omega⟩

/-- An anchor that a request may have. -/
structure AnchorFits (text : List Char) (anchor : RequestedAnchor) : Prop where
  nonempty : anchor.id.isEmpty = false
  short : anchor.id.utf8ByteSize ≤ MAX_SYNTHESIS_ANCHOR_ID_BYTES
  boundary : IsCharBoundary text anchor.textOffset

theorem validateEachAnchor_eq_ok {text : List Char} {seen : List String}
    {anchors : List RequestedAnchor} {u : Unit} :
    validateEachAnchor text seen anchors = .ok u ↔
      (anchors.map RequestedAnchor.id).Nodup ∧ (∀ anchor ∈ anchors, anchor.id ∉ seen) ∧
        ∀ anchor ∈ anchors, AnchorFits text anchor := by
  induction anchors generalizing seen with
  | nil => exact ⟨fun _ => ⟨List.nodup_nil, fun _ member => (List.not_mem_nil member).elim,
      fun _ member => (List.not_mem_nil member).elim⟩, fun _ => rfl⟩
  | cons anchor rest ih =>
      rw [validateEachAnchor, seq_eq_ok, ensure_eq_ok, seq_eq_ok, ensure_eq_ok, seq_eq_ok,
        ensure_eq_ok, ih, List.map_cons, List.nodup_cons, List.forall_mem_cons,
        List.forall_mem_cons, Bool.and_eq_true, Bool.and_eq_true, decide_eq_true_eq,
        decide_eq_true_eq, Bool.not_eq_true', Bool.not_eq_true', ← Bool.not_eq_true,
        ← Bool.not_eq_true, List.contains_iff_mem, isCharBoundary_iff]
      constructor
      · rintro ⟨⟨nonempty, short⟩, fresh, ⟨-, boundary⟩, distinct, unseen, fit⟩
        refine ⟨⟨?_, distinct⟩, ⟨fresh, fun other member => ?_⟩,
          ⟨Bool.eq_false_iff.mpr nonempty, short, boundary⟩, fit⟩
        · intro again
          obtain ⟨other, member, same⟩ := List.mem_map.mp again
          exact unseen other member (same ▸ List.mem_cons_self)
        · exact fun before => unseen other member (List.mem_cons_of_mem _ before)
      · rintro ⟨⟨once, distinct⟩, ⟨fresh, unseen⟩, fits, fit⟩
        refine ⟨⟨Bool.eq_false_iff.mp fits.nonempty, fits.short⟩, fresh,
          ⟨fits.boundary.le, fits.boundary⟩, distinct, fun other member before => ?_, fit⟩
        rcases List.mem_cons.mp before with same | earlier
        · exact once (same ▸ List.mem_map_of_mem member)
        · exact unseen other member earlier

/-- **Which anchors a request may ask for.** -/
theorem validateRequestedAnchors_eq_ok {anchors : List RequestedAnchor} {text : List Char}
    {u : Unit} :
    validateRequestedAnchors anchors text = .ok u ↔
      anchors.length ≤ MAX_SYNTHESIS_ANCHORS ∧ (anchors.map RequestedAnchor.id).Nodup ∧
        ∀ anchor ∈ anchors, AnchorFits text anchor := by
  rw [validateRequestedAnchors, seq_eq_ok, ensure_eq_ok, decide_eq_true_eq,
    validateEachAnchor_eq_ok]
  exact ⟨fun ⟨few, distinct, _, fit⟩ => ⟨few, distinct, fit⟩,
    fun ⟨few, distinct, fit⟩ => ⟨few, distinct, fun _ _ => List.not_mem_nil, fit⟩⟩

/-- Attach and validate source-text anchors for this request. -/
def SynthesisRequest.withAnchors (request : SynthesisRequest) (anchors : List RequestedAnchor) :
    Except TtsError SynthesisRequest := do
  validateRequestedAnchors anchors request.text
  return { request with anchors := anchors }

/-- Anchors that fit are attached. -/
theorem SynthesisRequest.withAnchors_eq_ok {request : SynthesisRequest}
    {anchors : List RequestedAnchor} (few : anchors.length ≤ MAX_SYNTHESIS_ANCHORS)
    (distinct : (anchors.map RequestedAnchor.id).Nodup)
    (fit : ∀ anchor ∈ anchors, AnchorFits request.text anchor) :
    request.withAnchors anchors = .ok { request with anchors := anchors } := by
  have accepted : validateRequestedAnchors anchors request.text = .ok () :=
    validateRequestedAnchors_eq_ok.mpr ⟨few, distinct, fit⟩
  unfold SynthesisRequest.withAnchors
  rw [accepted]
  rfl

/-! ## Resolved anchors -/

/-- An anchor has a frame within the audio unless it is omitted. -/
structure FrameFits (frameCount : Nat) (anchor : ResolvedAnchor) : Prop where
  omission : anchor.resolution = .omitted ↔ anchor.frameOffset = none
  bound : ∀ offset, anchor.frameOffset = some offset → offset ≤ frameCount

theorem validateOmission_eq_ok {frameCount : Nat} {anchor : ResolvedAnchor} {u : Unit} :
    validateOmission frameCount anchor = .ok u ↔ FrameFits frameCount anchor := by
  obtain ⟨id, frameOffset, resolution⟩ := anchor
  cases frameOffset with
  | none =>
      refine ⟨fun accepted => ?_, fun fits => ?_⟩
      · cases resolution with
        | omitted => exact ⟨⟨fun _ => rfl, fun _ => rfl⟩, fun _ absurdity => by cases absurdity⟩
        | exact => cases accepted
        | wordBoundary => cases accepted
        | spanBoundary => cases accepted
      · have omitted : resolution = .omitted := fits.omission.mpr rfl
        subst omitted
        rfl
  | some offset =>
      refine ⟨fun accepted => ?_, fun fits => ?_⟩
      · have placed : resolution ≠ .omitted ∧ offset ≤ frameCount := by
          cases resolution with
          | omitted => cases accepted
          | exact => exact ⟨by decide, of_decide_eq_true (ensure_eq_ok.mp accepted)⟩
          | wordBoundary => exact ⟨by decide, of_decide_eq_true (ensure_eq_ok.mp accepted)⟩
          | spanBoundary => exact ⟨by decide, of_decide_eq_true (ensure_eq_ok.mp accepted)⟩
        refine ⟨⟨fun omitted => absurd omitted placed.1, fun absurdity => by cases absurdity⟩,
          fun other same => ?_⟩
        obtain rfl : offset = other := Option.some.inj same
        exact placed.2
      · have inside := decide_eq_true (fits.bound offset rfl)
        cases resolution with
        | omitted => exact absurd (fits.omission.mp rfl) (Option.some_ne_none offset)
        | exact => exact ensure_eq_ok.mpr inside
        | wordBoundary => exact ensure_eq_ok.mpr inside
        | spanBoundary => exact ensure_eq_ok.mpr inside

theorem validateEachResolved_eq_ok {requested : List RequestedAnchor} {frameCount : Nat}
    {seen : List String} {resolved : List ResolvedAnchor} {u : Unit} :
    validateEachResolved requested frameCount seen resolved = .ok u ↔
      (resolved.map ResolvedAnchor.id).Nodup ∧ (∀ anchor ∈ resolved, anchor.id ∉ seen) ∧
        (∀ anchor ∈ resolved, anchor.id ∈ requested.map RequestedAnchor.id) ∧
        ∀ anchor ∈ resolved, FrameFits frameCount anchor := by
  have asked : ∀ id : String, (requested.any fun request => request.id == id) = true ↔
      id ∈ requested.map RequestedAnchor.id := by
    intro id
    rw [List.any_eq_true, List.mem_map]
    exact exists_congr fun request => and_congr_right fun _ => beq_iff_eq
  induction resolved generalizing seen with
  | nil => simp [validateEachResolved]
  | cons anchor rest ih =>
      rw [validateEachResolved, seq_eq_ok, ensure_eq_ok, seq_eq_ok, validateOmission_eq_ok]
      rw [show validateEachResolved requested frameCount (anchor.id :: seen) rest = .ok u ↔ _
        from ih]
      rw [List.map_cons, List.nodup_cons, List.forall_mem_cons, List.forall_mem_cons,
        List.forall_mem_cons, Bool.and_eq_true, Bool.not_eq_true', ← Bool.not_eq_true,
        List.contains_iff_mem, asked]
      constructor
      · rintro ⟨⟨fresh, wanted⟩, fits, distinct, unseen, others, fit⟩
        refine ⟨⟨?_, distinct⟩, ⟨fresh, fun other member before => ?_⟩, ⟨wanted, others⟩,
          fits, fit⟩
        · intro again
          obtain ⟨other, member, same⟩ := List.mem_map.mp again
          exact unseen other member (same ▸ List.mem_cons_self)
        · exact unseen other member (List.mem_cons_of_mem _ before)
      · rintro ⟨⟨once, distinct⟩, ⟨fresh, unseen⟩, ⟨wanted, others⟩, fits, fit⟩
        refine ⟨⟨fresh, wanted⟩, fits, distinct, fun other member before => ?_, others, fit⟩
        rcases List.mem_cons.mp before with same | earlier
        · exact once (same ▸ List.mem_map_of_mem member)
        · exact unseen other member earlier

/-- **The anchors that an engine may place itself**: each for another request. -/
structure EngineAnchors (requested : List RequestedAnchor) (frameCount : Nat)
    (anchors : List ResolvedAnchor) : Prop where
  distinct : (anchors.map ResolvedAnchor.id).Nodup
  asked : ∀ anchor ∈ anchors, anchor.id ∈ requested.map RequestedAnchor.id
  fits : ∀ anchor ∈ anchors, FrameFits frameCount anchor

/-- **Which resolved anchors are accepted**: the engine's own, one for each request. -/
theorem validateResolvedAnchors_eq_ok {resolved : List ResolvedAnchor}
    {requested : List RequestedAnchor} {frameCount : Nat} {u : Unit} :
    validateResolvedAnchors resolved requested frameCount = .ok u ↔
      resolved.length = requested.length ∧ EngineAnchors requested frameCount resolved := by
  rw [validateResolvedAnchors, seq_eq_ok, ensure_eq_ok, beq_iff_eq, validateEachResolved_eq_ok]
  exact ⟨fun ⟨count, distinct, _, asked, fits⟩ => ⟨count, distinct, asked, fits⟩,
    fun ⟨count, distinct, asked, fits⟩ =>
      ⟨count, distinct, fun _ _ => List.not_mem_nil, asked, fits⟩⟩

/-! ## Completing a result -/

section Completing

variable {support : AnchorSupport} {markers : List SynthesisMarker} {frameCount : Nat}

/-- The anchor that completes a result belongs to its request. -/
theorem completeAnchor_id (requested : RequestedAnchor) :
    (completeAnchor support markers frameCount requested).id = requested.id := by
  unfold completeAnchor approximateAtWordBoundary
  cases support <;> cases nearestWord requested (wordStarts markers) <;> rfl

theorem completeAnchor_fits (requested : RequestedAnchor) :
    FrameFits frameCount (completeAnchor support markers frameCount requested) := by
  have omitted : FrameFits frameCount ⟨requested.id, none, .omitted⟩ :=
    ⟨⟨fun _ => rfl, fun _ => rfl⟩, fun _ absurdity => by cases absurdity⟩
  have moved : ∀ start : Nat × Nat,
      FrameFits frameCount ⟨requested.id, some (min start.2 frameCount), .wordBoundary⟩ := by
    intro start
    refine ⟨⟨fun absurdity => ?_, fun absurdity => ?_⟩, fun offset same => ?_⟩
    · cases absurdity
    · cases absurdity
    · rw [← Option.some.inj same]
      exact Nat.min_le_right _ _
  unfold completeAnchor approximateAtWordBoundary
  cases support with
  | none => exact omitted
  | wordBoundary =>
      cases nearestWord requested (wordStarts markers) with
      | none => exact omitted
      | some start => exact moved start
  | exact =>
      cases nearestWord requested (wordStarts markers) with
      | none => exact omitted
      | some start => exact moved start

/-- The anchor of a request: the engine's own, or the one that completes the result. -/
def resolvedFor (support : AnchorSupport) (markers : List SynthesisMarker) (frameCount : Nat)
    (own : List ResolvedAnchor) (requested : RequestedAnchor) : ResolvedAnchor :=
  (own.find? fun anchor => anchor.id == requested.id).getD
    (completeAnchor support markers frameCount requested)

variable {own : List ResolvedAnchor} {requested : List RequestedAnchor}

theorem resolvedFor_id (request : RequestedAnchor) :
    (resolvedFor support markers frameCount own request).id = request.id := by
  unfold resolvedFor
  cases found : own.find? fun anchor => anchor.id == request.id with
  | none => exact completeAnchor_id request
  | some anchor =>
      have matched := List.find?_some found
      exact eq_of_beq matched

theorem resolvedFor_fits (fits : ∀ anchor ∈ own, FrameFits frameCount anchor)
    (request : RequestedAnchor) :
    FrameFits frameCount (resolvedFor support markers frameCount own request) := by
  unfold resolvedFor
  cases found : own.find? fun anchor => anchor.id == request.id with
  | none => exact completeAnchor_fits request
  | some anchor => exact fits anchor (List.mem_of_find?_eq_some found)

theorem map_resolvedFor_id (requested : List RequestedAnchor) :
    (requested.map (resolvedFor support markers frameCount own)).map ResolvedAnchor.id =
      requested.map RequestedAnchor.id := by
  rw [List.map_map]
  exact List.map_congr_left fun request _ => resolvedFor_id request

/-- The loop appends an anchor for each request that has none yet. -/
theorem foldl_complete (distinct : (requested.map RequestedAnchor.id).Nodup)
    (anchors : List ResolvedAnchor) :
    requested.foldl (fun (anchors : List ResolvedAnchor) (requested : RequestedAnchor) =>
        if anchors.any fun anchor => anchor.id == requested.id then anchors
        else anchors ++ [completeAnchor support markers frameCount requested]) anchors =
      anchors ++ (requested.filter fun request =>
        !anchors.any fun anchor => anchor.id == request.id).map
          (completeAnchor support markers frameCount) := by
  induction requested generalizing anchors with
  | nil => exact (List.append_nil anchors).symm
  | cons request rest ih =>
      rw [List.map_cons, List.nodup_cons] at distinct
      obtain ⟨once, later⟩ := distinct
      rw [List.foldl_cons, List.filter_cons]
      cases placed : anchors.any fun anchor => anchor.id == request.id with
      | true =>
          rw [if_pos rfl, ih later, Bool.not_true, if_neg Bool.false_ne_true]
      | false =>
          have others : (rest.filter fun other =>
              !(anchors ++ [completeAnchor support markers frameCount request]).any
                fun anchor => anchor.id == other.id) =
              rest.filter fun other => !anchors.any fun anchor => anchor.id == other.id := by
            refine List.filter_congr fun other member => ?_
            have apart : (request.id == other.id) = false := by
              refine beq_eq_false_iff_ne.mpr fun same => once ?_
              rw [same]
              exact List.mem_map_of_mem member
            rw [List.any_append, List.any_cons, List.any_nil, completeAnchor_id, apart,
              Bool.false_or, Bool.or_false]
          rw [if_neg Bool.false_ne_true, ih later, others, Bool.not_false, if_pos rfl,
            List.map_cons, List.append_assoc, List.cons_append, List.nil_append]

/-- The completed anchors are those of the requests, in some order. -/
theorem complete_perm (distinct : (requested.map RequestedAnchor.id).Nodup)
    (engine : EngineAnchors requested frameCount own) :
    (own ++ (requested.filter fun request =>
        !own.any fun anchor => anchor.id == request.id).map
          (completeAnchor support markers frameCount)).Perm
      (requested.map (resolvedFor support markers frameCount own)) := by
  have parts := (List.filter_append_perm
    (fun request : RequestedAnchor => own.any fun anchor => anchor.id == request.id)
    requested).map (resolvedFor support markers frameCount own)
  rw [List.map_append] at parts
  refine List.Perm.trans (List.Perm.append ?_ (List.Perm.of_eq ?_)) parts
  · -- the engine's own anchors are those of the requests that have one
    refine (List.perm_ext_iff_of_nodup (List.Nodup.of_map _ engine.distinct) ?_).mpr ?_
    · refine List.Nodup.of_map ResolvedAnchor.id ?_
      rw [map_resolvedFor_id]
      exact distinct.sublist ((List.filter_sublist).map _)
    · intro anchor
      constructor
      · intro member
        obtain ⟨request, inRequested, same⟩ := List.mem_map.mp (engine.asked anchor member)
        refine List.mem_map.mpr ⟨request, List.mem_filter.mpr ⟨inRequested, ?_⟩, ?_⟩
        · exact List.any_eq_true.mpr ⟨anchor, member, beq_iff_eq.mpr same.symm⟩
        · have found := (find?_key_eq_some (k := request.id) (a := anchor)
            engine.distinct).mpr ⟨member, same.symm⟩
          unfold resolvedFor
          rw [found, Option.getD_some]
      · intro member
        obtain ⟨request, inFiltered, rfl⟩ := List.mem_map.mp member
        obtain ⟨other, inOwn, same⟩ := List.any_eq_true.mp (List.mem_filter.mp inFiltered).2
        have found := (find?_key_eq_some (k := request.id) (a := other)
          engine.distinct).mpr ⟨inOwn, eq_of_beq same⟩
        unfold resolvedFor
        rw [found, Option.getD_some]
        exact inOwn
  · refine List.map_congr_left fun request member => ?_
    have missing : own.find? (fun anchor => anchor.id == request.id) = none := by
      refine List.find?_eq_none.mpr fun anchor inOwn same => ?_
      have none := (List.mem_filter.mp member).2
      rw [List.any_eq_true.mpr ⟨anchor, inOwn, same⟩] at none
      cases none
    unfold resolvedFor
    rw [missing, Option.getD_none]

/-- The requests find their anchors where they are themselves. -/
theorem map_requestedPosition (distinct : (requested.map RequestedAnchor.id).Nodup) :
    (requested.map (resolvedFor support markers frameCount own)).map
      (requestedPosition requested) = List.range requested.length := by
  refine List.ext_getElem (by simp) fun index here there => ?_
  rw [List.length_map, List.length_map] at here
  rw [List.getElem_map, List.getElem_map, List.getElem_range]
  unfold requestedPosition
  have found : (requested.findIdx? fun request => request.id ==
      (resolvedFor support markers frameCount own requested[index]).id) = some index := by
    rw [List.findIdx?_eq_some_iff_getElem]
    refine ⟨here, ?_, fun earlier before same => ?_⟩
    · rw [resolvedFor_id, beq_self_eq_true]
    · rw [resolvedFor_id, beq_iff_eq] at same
      have apart := List.pairwise_iff_getElem.mp (List.pairwise_map.mp distinct) earlier index
        (lt_trans before here) here before
      exact apart same
  rw [found, Option.getD_some]

end Completing

section Resolving

variable {F : Type} {result : SynthesisResult F} {request : SynthesisRequest}

/-- **Resolving** gives each request its anchor, in the order of the requests. -/
theorem resolveAnchors_anchors (support : AnchorSupport)
    (distinct : (request.anchors.map RequestedAnchor.id).Nodup)
    (engine : EngineAnchors request.anchors result.audio.length result.anchors) :
    result.resolveAnchors request support = { result with
      anchors := request.anchors.map
        (resolvedFor support result.markers result.audio.length result.anchors) } := by
  unfold SynthesisResult.resolveAnchors
  simp only
  rw [foldl_complete distinct]
  have positions := @map_requestedPosition support result.markers result.audio.length
    result.anchors request.anchors distinct
  rw [sortBy_eq_of_perm (positions ▸ List.nodup_range) (complete_perm distinct engine)]
  have ranks : (List.range request.anchors.length).Pairwise (· ≤ ·) :=
    List.pairwise_lt_range.imp Nat.le_of_lt
  have sorted := positions ▸ ranks
  exact (List.pairwise_map (f := requestedPosition request.anchors) (R := (· ≤ ·))).mp sorted

/-- The resolved anchors are anchors that the engine could have placed itself. -/
theorem resolveAnchors_engine (support : AnchorSupport)
    (distinct : (request.anchors.map RequestedAnchor.id).Nodup)
    (engine : EngineAnchors request.anchors result.audio.length result.anchors) :
    EngineAnchors request.anchors result.audio.length
      (result.resolveAnchors request support).anchors := by
  rw [resolveAnchors_anchors support distinct engine]
  refine ⟨?_, fun anchor member => ?_, fun anchor member => ?_⟩
  · rw [map_resolvedFor_id]
    exact distinct
  · rw [← @map_resolvedFor_id support result.markers result.audio.length result.anchors]
    exact List.mem_map_of_mem member
  · obtain ⟨requested, -, rfl⟩ := List.mem_map.mp member
    exact resolvedFor_fits engine.fits requested

/-- **Resolving again changes nothing.** -/
theorem resolveAnchors_again (support again : AnchorSupport)
    (distinct : (request.anchors.map RequestedAnchor.id).Nodup)
    (engine : EngineAnchors request.anchors result.audio.length result.anchors) :
    (result.resolveAnchors request support).resolveAnchors request again =
      result.resolveAnchors request support := by
  have once := resolveAnchors_anchors support distinct engine
  have resolved := resolveAnchors_engine support distinct engine
  have audio : (result.resolveAnchors request support).audio = result.audio := rfl
  rw [resolveAnchors_anchors again distinct (audio ▸ resolved)]
  rw [once] at resolved ⊢
  refine congrArg (SynthesisResult.mk _ _ _ _ · _) (List.map_congr_left fun requested member => ?_)
  have found := (find?_key_eq_some (k := requested.id)
    (a := resolvedFor support result.markers result.audio.length result.anchors requested)
    resolved.distinct).mpr ⟨List.mem_map_of_mem member, resolvedFor_id requested⟩
  unfold resolvedFor at found ⊢
  rw [found, Option.getD_some]

end Resolving

end Omnivox.Synthesis
