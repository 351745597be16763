import Mathlib
import Omnivox.Audio.PostSynthesis
import Omnivox.Audio.SilenceTrimmer
import Omnivox.Audio.TimelineRenderer
import Omnivox.Presentation.TextLayout

/-!
# The timeline of synthesized speech

The result of a synthesis is resolved to one anchor for each request, trimmed, adjusted and
passed through the effects. Then each action of its chunk finds its anchor, and the timeline
of the speech is built.

The anchors survive all of it: every action finds one, and no frame lies behind the end of
the audio (`resolveAnchors_complete`).
-/

set_option autoImplicit false

namespace Omnivox.Presentation

open Audio Foundations Synthesis Text Timeline

/-! ## The audio of a result -/

inductive ChannelMode where
  | left
  | right
  | both
  deriving Repr, DecidableEq

/-- Scale all samples by a volume multiplier. -/
def volumeAdjust (volume : ℚ) (buffer : AudioBuffer ℚ) : AudioBuffer ℚ :=
  buffer.map fun frame => clampFrame (frame.1 * volume, frame.2 * volume)

/-- Route audio to left, right, or both channels. -/
def channelRouter (mode : ChannelMode) (buffer : AudioBuffer ℚ) : AudioBuffer ℚ :=
  match mode with
  | .both => buffer
  | .left => buffer.map fun frame => (frame.1, 0)
  | .right => buffer.map fun frame => (0, frame.2)

/-- Map the frames of an anchor. -/
def mapAnchor (report : SilenceTrimReport) (anchor : ResolvedAnchor) : ResolvedAnchor :=
  { anchor with frameOffset := anchor.frameOffset.map report.mapFrameOffset }

/-- Trim a result, move its markers and anchors, and adjust its audio. -/
def processSpeechResult (trimmer : SilenceTrimmer ℚ) (voiceVolume : ℚ) (channelMode : ChannelMode)
    (result : SynthesisResult ℚ) : SynthesisResult ℚ :=
  let (audio, report) := trimmer.processWithReport result.audio
  { result with
    audio := channelRouter channelMode (volumeAdjust voiceVolume audio)
    markers := result.markers.map fun marker =>
      { marker with frameOffset := report.mapFrameOffset marker.frameOffset }
    anchors := result.anchors.map (mapAnchor report) }

/-- Pass the audio of a result through the effects. -/
def processEffectWindow (functions : Transcendentals ℚ) (processor : PostSynthesisProcessor ℚ)
    (effects : PostSynthesisParameters ℚ) (finalWindow : Bool) (result : SynthesisResult ℚ) :
    SynthesisResult ℚ :=
  { result with
    audio :=
      (PostSynthesisProcessor.processWindow functions processor result.audio effects
        finalWindow).2.audio }

/-! ## Preparing the timeline -/

/-- An action of a chunk with its identifier checked and its audio prepared. -/
structure PreparedChunkAction where
  action : TimelineAction
  affinity : AnchorAffinity
  deriving Repr, DecidableEq

section

variable (describe : TimelineError → String)
  (toneFrames : CapitalizationTone → Except AudioError Nat)
  (actionKind : TimelineChunkAction → Except AudioError TimelineActionKind)

def prepareSpeechAction (id : String) (kind : Except AudioError TimelineActionKind)
    (affinity : AnchorAffinity) : Except AudioError PreparedChunkAction := do
  let id ← (TimelineActionId.new id).mapError (timelineFailure describe)
  let kind ← kind
  return ⟨⟨id, kind⟩, affinity⟩

/-- The tones come first, in front of their positions. -/
def prepareSpeechTimelineActions (tones : List CapitalizationTone)
    (actions : List TimelineChunkAction) : Except AudioError (List PreparedChunkAction) := do
  let first ← tones.mapM fun tone =>
    prepareSpeechAction describe tone.id
      ((toneFrames tone).map fun frames => .audio .overlay frames (.finite 1) .dry) .before
  let others ← actions.mapM fun action =>
    prepareSpeechAction describe action.id (actionKind action) action.affinity
  return first ++ others

/-- The anchor of an action. One that is missing is a panic. An omitted anchor is put at the
end of the audio on its side. -/
def resolveAction (result : SynthesisResult ℚ) (prepared : PreparedChunkAction) :
    Option ResolvedTimelineAction :=
  (result.anchors.find? fun anchor => anchor.id == prepared.action.id.value).map fun resolved =>
    ⟨prepared.action, resolved.frameOffset.getD
      (match prepared.affinity with
        | .after => result.audio.length
        | .before => 0)⟩

/-- Build the timeline of a result. A panic is none. -/
def prepareSpeechTimeline (result : SynthesisResult ℚ) (tones : List CapitalizationTone)
    (actions : List TimelineChunkAction) : Option (Except AudioError ScheduledTimeline) :=
  match prepareSpeechTimelineActions describe toneFrames actionKind tones actions with
  | .error error => some (.error error)
  | .ok prepared => (prepared.mapM (resolveAction result)).map fun resolved =>
      (ScheduledTimeline.build result.audio.length resolved).mapError (timelineFailure describe)

end

/-! ## The frames of a processed result -/

/-- The report tells the frames that are left. -/
theorem processWithReport_length (trimmer : SilenceTrimmer ℚ) (buffer : AudioBuffer ℚ) :
    (trimmer.processWithReport buffer).1.length =
      (trimmer.processWithReport buffer).2.outputFrames := by
  unfold SilenceTrimmer.processWithReport
  simp only
  split
  · rename_i empty
    rw [List.isEmpty_iff.mp empty]
    rfl
  · split
    · rfl
    · split
      · simp only [List.length_take, List.length_drop]
        omega
      · rename_i whole
        simp only [gt_iff_lt, Bool.or_eq_true, decide_eq_true_eq, not_or, Nat.not_lt] at whole
        show buffer.length = _ - _
        omega

theorem length_channelRouter (mode : ChannelMode) (buffer : AudioBuffer ℚ) :
    (channelRouter mode buffer).length = buffer.length := by
  cases mode with
  | left => exact List.length_map ..
  | right => exact List.length_map ..
  | both => rfl

theorem length_volumeAdjust (volume : ℚ) (buffer : AudioBuffer ℚ) :
    (volumeAdjust volume buffer).length = buffer.length := List.length_map ..

section

variable {trimmer : SilenceTrimmer ℚ} {voiceVolume : ℚ} {channelMode : ChannelMode}
  {result : SynthesisResult ℚ}

/-- **Trimming moves the anchors into the audio that is left.** -/
theorem processSpeechResult_fits
    (fits : ∀ anchor ∈ result.anchors, FrameFits result.audio.length anchor) :
    ∀ anchor ∈ (processSpeechResult trimmer voiceVolume channelMode result).anchors,
      FrameFits (processSpeechResult trimmer voiceVolume channelMode result).audio.length
        anchor := by
  intro anchor member
  obtain ⟨source, inAnchors, rfl⟩ := List.mem_map.mp member
  have own := fits source inAnchors
  have frames : (processSpeechResult trimmer voiceVolume channelMode result).audio.length =
      (trimmer.processWithReport result.audio).2.outputFrames := by
    unfold processSpeechResult
    simp only
    rw [length_channelRouter, length_volumeAdjust, processWithReport_length]
  rw [frames]
  refine ⟨own.omission.trans ?_, fun offset same => ?_⟩
  · exact Option.map_eq_none_iff.symm
  · obtain ⟨frame, -, rfl⟩ := Option.map_eq_some_iff.mp same
    exact Nat.min_le_right _ _

theorem processSpeechResult_ids :
    (processSpeechResult trimmer voiceVolume channelMode result).anchors.map ResolvedAnchor.id =
      result.anchors.map ResolvedAnchor.id := by
  unfold processSpeechResult
  simp only
  rw [List.map_map]
  rfl

end

/-! ## Actions and anchors -/

section

variable {describe : TimelineError → String}
  {toneFrames : CapitalizationTone → Except AudioError Nat}
  {actionKind : TimelineChunkAction → Except AudioError TimelineActionKind}

theorem prepareSpeechAction_id {id : String} {kind : Except AudioError TimelineActionKind}
    {affinity : AnchorAffinity} {prepared : PreparedChunkAction}
    (done : prepareSpeechAction describe id kind affinity = .ok prepared) :
    prepared.action.id.value = id := by
  obtain ⟨actionId, checked, done⟩ := bind_eq_ok.mp done
  obtain ⟨preparedKind, -, joined⟩ := bind_eq_ok.mp done
  obtain rfl := Except.ok.inj joined
  obtain ⟨valid, -, made⟩ := bind_eq_ok.mp (mapError_eq_ok.mp checked)
  exact (congrArg TimelineActionId.value (Except.ok.inj made)).symm

/-- The prepared actions have the names of the requested anchors. -/
theorem mem_prepareSpeechTimelineActions {tones : List CapitalizationTone}
    {actions : List TimelineChunkAction} {prepared : List PreparedChunkAction}
    (done : prepareSpeechTimelineActions describe toneFrames actionKind tones actions =
      .ok prepared) :
    ∀ action ∈ prepared, action.action.id.value ∈
      (requestedTimelineAnchors tones actions).map RequestedAnchor.id := by
  obtain ⟨first, preparedTones, done⟩ := bind_eq_ok.mp done
  obtain ⟨others, preparedActions, joined⟩ := bind_eq_ok.mp done
  obtain rfl := Except.ok.inj joined
  intro action member
  rw [requestedTimelineAnchors, List.map_append, List.mem_append]
  rcases List.mem_append.mp member with inTones | inActions
  · obtain ⟨tone, inTones, made⟩ := mem_of_mapM_eq_ok preparedTones action inTones
    rw [prepareSpeechAction_id made]
    exact Or.inl (List.mem_map.mpr ⟨_, List.mem_map_of_mem inTones, rfl⟩)
  · obtain ⟨source, inActions, made⟩ := mem_of_mapM_eq_ok preparedActions action inActions
    rw [prepareSpeechAction_id made]
    exact Or.inr (List.mem_map.mpr ⟨_, List.mem_map_of_mem inActions, rfl⟩)

end

section

variable {result : SynthesisResult ℚ} {prepared : List PreparedChunkAction}

/-- **Every action that has an anchor is placed within the audio.** -/
theorem resolveActions_eq_some
    (fits : ∀ anchor ∈ result.anchors, FrameFits result.audio.length anchor)
    (named : ∀ action ∈ prepared,
      action.action.id.value ∈ result.anchors.map ResolvedAnchor.id) :
    ∃ resolved, prepared.mapM (resolveAction result) = some resolved ∧
      ∀ action ∈ resolved, action.sourceFrame ≤ result.audio.length := by
  obtain ⟨resolved, found, sources⟩ := @mapM_eq_some _ _ (resolveAction result) prepared (by
    intro action member
    obtain ⟨anchor, inAnchors, same⟩ := List.mem_map.mp (named action member)
    have some_found : (result.anchors.find? fun anchor =>
        anchor.id == action.action.id.value).isSome = true :=
      List.find?_isSome.mpr ⟨anchor, inAnchors, beq_iff_eq.mpr same⟩
    obtain ⟨first, here⟩ := Option.isSome_iff_exists.mp some_found
    unfold resolveAction
    rw [here]
    exact ⟨_, rfl⟩)
  refine ⟨resolved, found, fun action member => ?_⟩
  obtain ⟨source, -, made⟩ := sources action member
  obtain ⟨anchor, here, rfl⟩ := Option.map_eq_some_iff.mp made
  have own := fits anchor (List.mem_of_find?_eq_some here)
  cases placed : anchor.frameOffset with
  | none =>
      simp only [Option.getD_none]
      cases source.affinity with
      | before => exact Nat.zero_le _
      | after => exact le_rfl
  | some offset =>
      simp only [Option.getD_some]
      exact own.bound offset placed

end

/-! ## The bounds of a timeline -/

/-- A refusal other than that of a frame behind the end. -/
def NotOutOfBounds (error : TimelineError) : Prop :=
  ∀ id sourceFrame frames, error ≠ .sourceFrameOutOfBounds id sourceFrame frames

/-- An action whose frame lies within the audio is not refused for it. -/
theorem scheduleAction_inBounds {primarySourceFrames : Nat} {resolved : ResolvedTimelineAction}
    (inBounds : resolved.sourceFrame ≤ primarySourceFrames) (schedule : Schedule) :
    FailsWith NotOutOfBounds (scheduleAction primarySourceFrames schedule resolved) := by
  have overflow : ∀ first second, FailsWith NotOutOfBounds (addFrames first second) :=
    fun _ _ => FailsWith.orError fun _ _ _ => nofun
  unfold scheduleAction
  refine FailsWith.bind (FailsWith.ensure fun outside => ?_) fun _ =>
    FailsWith.bind ?_ fun _ => FailsWith.bind (overflow _ _) fun outputFrame =>
      FailsWith.bind ?_ fun after => FailsWith.bind ?_ fun endFrame => ?_
  · rw [decide_eq_true inBounds] at outside
    cases outside
  · cases resolved.action.kind with
    | audio mode durationFrames volume effectBus =>
        exact FailsWith.bind (FailsWith.ensure fun _ _ _ _ => nofun)
          fun _ => FailsWith.ensure fun _ _ _ _ => nofun
    | semanticEvent => exact FailsWith.ok ()
    | effectState change => exact FailsWith.ok ()
  · unfold applyEffectChange
    split
    all_goals first
      | exact FailsWith.ok _
      | split
        · exact FailsWith.ok _
        · exact FailsWith.error fun _ _ _ => nofun
  · unfold ScheduledAction.endFrame
    split
    · exact overflow _ _
    · exact FailsWith.ok _
  · unfold Schedule.push
    split
    · exact FailsWith.bind (overflow _ _) fun _ => FailsWith.ok _
    · exact FailsWith.ok _

/-- **Actions within the audio** are never refused for their frames. -/
theorem build_inBounds {primarySourceFrames : Nat} {actions : List ResolvedTimelineAction}
    (inBounds : ∀ action ∈ actions, action.sourceFrame ≤ primarySourceFrames) :
    FailsWith NotOutOfBounds (ScheduledTimeline.build primarySourceFrames actions) := by
  have sorted : ∀ action ∈ sortNumbered ResolvedTimelineAction.sourceFrame actions,
      action.sourceFrame ≤ primarySourceFrames := fun action member => inBounds action
    ((sortNumbered_stable ResolvedTimelineAction.sourceFrame actions).perm.mem_iff.mp member)
  unfold ScheduledTimeline.build
  exact FailsWith.bind (FailsWith.foldlM (fun action member schedule =>
      scheduleAction_inBounds (sorted action member) schedule) _) fun _ =>
    FailsWith.bind (FailsWith.orError fun _ _ _ => nofun) fun _ =>
      FailsWith.ok _

/-! ## From the engine to the timeline -/

/-- An anchor answers a request. -/
structure AnsweredBy (frameCount : Nat) (requested : RequestedAnchor) (anchor : ResolvedAnchor) :
    Prop where
  id : anchor.id = requested.id
  fits : FrameFits frameCount anchor

/-- **What resolving gives**: one anchor for each request in its order, the engine's own among
them, accepted and final. -/
structure AnchorsComplete (request : SynthesisRequest) (result resolved : SynthesisResult ℚ) :
    Prop where
  each : List.Forall₂ (AnsweredBy result.audio.length) request.anchors resolved.anchors
  kept : ∀ anchor ∈ result.anchors, anchor ∈ resolved.anchors
  others : resolved = { result with anchors := resolved.anchors }
  accepted :
    validateResolvedAnchors resolved.anchors request.anchors result.audio.length = .ok ()
  again : ∀ support, resolved.resolveAnchors request support = resolved

/-- **A result whose timeline can be prepared**: no action misses its anchor, and none is
refused for its frame. -/
structure SpeaksTimeline (tones : List CapitalizationTone) (actions : List TimelineChunkAction)
    (result : SynthesisResult ℚ) : Prop where
  found : ∀ describe toneFrames actionKind,
    prepareSpeechTimeline describe toneFrames actionKind result tones actions ≠ none
  inBounds : ∀ describe toneFrames actionKind prepared resolved,
    prepareSpeechTimelineActions describe toneFrames actionKind tones actions = .ok prepared →
      prepared.mapM (resolveAction result) = some resolved →
        FailsWith NotOutOfBounds (ScheduledTimeline.build result.audio.length resolved)

theorem speaksTimeline {tones : List CapitalizationTone} {actions : List TimelineChunkAction}
    {result : SynthesisResult ℚ}
    (fits : ∀ anchor ∈ result.anchors, FrameFits result.audio.length anchor)
    (named : result.anchors.map ResolvedAnchor.id =
      (requestedTimelineAnchors tones actions).map RequestedAnchor.id) :
    SpeaksTimeline tones actions result := by
  have resolves : ∀ describe toneFrames actionKind prepared,
      prepareSpeechTimelineActions describe toneFrames actionKind tones actions = .ok prepared →
        ∃ resolved, prepared.mapM (resolveAction result) = some resolved ∧
          ∀ action ∈ resolved, action.sourceFrame ≤ result.audio.length := by
    intro describe toneFrames actionKind prepared done
    refine resolveActions_eq_some fits fun action member => ?_
    rw [named]
    exact mem_prepareSpeechTimelineActions done action member
  refine ⟨fun describe toneFrames actionKind => ?_, fun describe toneFrames actionKind prepared
    resolved done found => ?_⟩
  · unfold prepareSpeechTimeline
    cases done : prepareSpeechTimelineActions describe toneFrames actionKind tones actions with
    | error error => exact Option.some_ne_none _
    | ok prepared =>
        obtain ⟨resolved, found, -⟩ := resolves describe toneFrames actionKind prepared done
        simp only [found, Option.map_some]
        exact Option.some_ne_none _
  · obtain ⟨others, same, bounds⟩ := resolves describe toneFrames actionKind prepared done
    obtain rfl := Option.some.inj (found.symm.trans same)
    exact build_inBounds bounds

theorem anchorsComplete {request : SynthesisRequest} {result : SynthesisResult ℚ}
    (support : AnchorSupport) (distinct : (request.anchors.map RequestedAnchor.id).Nodup)
    (engine : EngineAnchors request.anchors result.audio.length result.anchors) :
    AnchorsComplete request result (result.resolveAnchors request support) := by
  have complete := resolveAnchors_anchors support distinct engine
  refine ⟨?_, fun anchor member => ?_, ?_, ?_, fun again =>
    resolveAnchors_again support again distinct engine⟩
  · rw [complete]
    simp only
    rw [List.forall₂_map_right_iff, List.forall₂_same]
    exact fun requested _ => ⟨resolvedFor_id requested, resolvedFor_fits engine.fits requested⟩
  · obtain ⟨requested, inRequested, same⟩ := List.mem_map.mp (engine.asked anchor member)
    have found := (find?_key_eq_some (k := requested.id) (a := anchor)
      engine.distinct).mpr ⟨member, same.symm⟩
    rw [complete]
    refine List.mem_map.mpr ⟨requested, inRequested, ?_⟩
    unfold resolvedFor
    rw [found, Option.getD_some]
  · rw [complete]
  · refine validateResolvedAnchors_eq_ok.mpr ⟨?_, resolveAnchors_engine support distinct engine⟩
    rw [complete]
    exact List.length_map ..

/-- **Every request has its anchor, from the engine to the timeline.** A result whose own
anchors answer different requests is completed. However it is then trimmed, adjusted and
passed through the effects, every anchor lies within the audio, every action of the requests
finds its anchor, and none is refused for its frame. -/
theorem resolveAnchors_complete {request : SynthesisRequest} {result : SynthesisResult ℚ}
    (support : AnchorSupport)
    (accepted : validateRequestedAnchors request.anchors request.text = .ok ())
    (engine : EngineAnchors request.anchors result.audio.length result.anchors) :
    AnchorsComplete request result (result.resolveAnchors request support) ∧
      ∀ (trimmer : SilenceTrimmer ℚ) (voiceVolume : ℚ) (channelMode : ChannelMode),
        (∀ anchor ∈ (processSpeechResult trimmer voiceVolume channelMode
            (result.resolveAnchors request support)).anchors,
          FrameFits (processSpeechResult trimmer voiceVolume channelMode
            (result.resolveAnchors request support)).audio.length anchor) ∧
        ∀ (tones : List CapitalizationTone) (actions : List TimelineChunkAction),
          requestedTimelineAnchors tones actions = request.anchors →
            SpeaksTimeline tones actions (processSpeechResult trimmer voiceVolume channelMode
              (result.resolveAnchors request support)) ∧
            ∀ (functions : Transcendentals ℚ) (processor : PostSynthesisProcessor ℚ)
              (effects : PostSynthesisParameters ℚ) (finalWindow : Bool),
              SpeaksTimeline tones actions (processEffectWindow functions processor effects
                finalWindow (processSpeechResult trimmer voiceVolume channelMode
                  (result.resolveAnchors request support))) := by
  obtain ⟨-, distinct, -⟩ := validateRequestedAnchors_eq_ok.mp accepted
  have complete := resolveAnchors_anchors support distinct engine
  have resolved := resolveAnchors_engine support distinct engine
  refine ⟨anchorsComplete support distinct engine, fun trimmer voiceVolume channelMode => ?_⟩
  have fits := @processSpeechResult_fits trimmer voiceVolume channelMode
    (result.resolveAnchors request support) resolved.fits
  refine ⟨fits, fun tones actions asked => ?_⟩
  have named : (processSpeechResult trimmer voiceVolume channelMode
      (result.resolveAnchors request support)).anchors.map ResolvedAnchor.id =
        (requestedTimelineAnchors tones actions).map RequestedAnchor.id := by
    rw [processSpeechResult_ids, complete, asked]
    exact map_resolvedFor_id request.anchors
  refine ⟨speaksTimeline fits named, fun functions processor effects finalWindow => ?_⟩
  refine speaksTimeline (fun anchor member => ?_) named
  have length : (processEffectWindow functions processor effects finalWindow
      (processSpeechResult trimmer voiceVolume channelMode
        (result.resolveAnchors request support))).audio.length =
      (processSpeechResult trimmer voiceVolume channelMode
        (result.resolveAnchors request support)).audio.length :=
    PostSynthesisProcessor.processWindow_length effects finalWindow _
  rw [length]
  exact fits anchor member

/-- Two anchors are asked for. -/
def twoAnchors : SynthesisRequest where
  text := ['a', ' ', 'b']
  settings := ⟨"", 1, 1, 1⟩
  normalizedAcss := ⟨none, none, none, none, none, none⟩
  requestedVoice := none
  logicalVoiceId := none
  anchors := [⟨"ahead", 0, .before⟩, ⟨"behind", 2, .after⟩]

/-- The engine placed the second one. -/
def oneAnchor : SynthesisResult ℚ where
  audio := [(0, 0), (1, 1), (0, 0)]
  engineId := "engine"
  actualVoice := none
  markers := []
  anchors := [⟨"behind", some 2, .exact⟩]
  degradedAcss := []

/-- A request of two anchors is completed from one. -/
theorem resolveAnchors_complete_two :
    AnchorsComplete twoAnchors oneAnchor (oneAnchor.resolveAnchors twoAnchors .wordBoundary) ∧
      SpeaksTimeline [] [⟨"ahead", 0, .before⟩, ⟨"behind", 2, .after⟩]
        (processSpeechResult ⟨1 / 100, 0, 0⟩ 1 .both
          (oneAnchor.resolveAnchors twoAnchors .wordBoundary)) := by
  have engine : EngineAnchors twoAnchors.anchors oneAnchor.audio.length oneAnchor.anchors := by
    refine ⟨by decide, fun anchor member => ?_, fun anchor member => ?_⟩
    · rw [List.mem_singleton.mp member]
      decide
    · rw [List.mem_singleton.mp member]
      refine ⟨⟨nofun, nofun⟩, fun offset same => ?_⟩
      rw [← Option.some.inj same]
      decide
  obtain ⟨complete, processed⟩ :=
    resolveAnchors_complete .wordBoundary (by rfl) engine
  exact ⟨complete, ((processed ⟨1 / 100, 0, 0⟩ 1 .both).2 _ _ rfl).1⟩

end Omnivox.Presentation
