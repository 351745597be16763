import Mathlib
import Omnivox.Audio.StoppedSources

/-!
# Fading out after a cancellation

A consumer takes samples from a source and tokens are cancelled in between. What it sees of each
step is recorded (`Observed`). The law of a fade is stated over such records (`FadeLaw`): samples
in front of the first frame boundary after the cancellation are unchanged, from there on both
samples of a frame have one gain, and gains fall to the end of the fade.

A source obeys the law when each of its steps asks its cancellation for the next gain, or waits
for more samples before a fade began (`Moves`). The gains of a run are then those of one of three
stages (`Stage`).
-/

set_option autoImplicit false

namespace Omnivox.Audio

variable {F State : Type}

/-! ## Gains -/

def smoothFadeGain (fadeFrames frame : Nat) : ℚ :=
  if fadeFrames ≤ 1 then 0
  else
    let remaining : ℚ := ((fadeFrames - 1 - frame : Nat) : ℚ) / ((fadeFrames - 1 : Nat) : ℚ)
    remaining * remaining * (3 - 2 * remaining)

/-- The number that a sample is multiplied with. -/
def Gain.value : Gain → ℚ
  | .unity => 1
  | .smoothFade fadeFrames frame => smoothFadeGain fadeFrames frame

/-- The part of a fade that is left, between zero and one. -/
theorem remaining_mem (fadeFrames frame : Nat) :
    0 ≤ ((fadeFrames - 1 - frame : Nat) : ℚ) / ((fadeFrames - 1 : Nat) : ℚ) ∧
      ((fadeFrames - 1 - frame : Nat) : ℚ) / ((fadeFrames - 1 : Nat) : ℚ) ≤ 1 := by
  have fewer : ((fadeFrames - 1 - frame : Nat) : ℚ) ≤ ((fadeFrames - 1 : Nat) : ℚ) :=
    Nat.cast_le.mpr (Nat.sub_le _ _)
  exact ⟨div_nonneg (Nat.cast_nonneg _) (Nat.cast_nonneg _),
    div_le_one_of_le₀ fewer (Nat.cast_nonneg _)⟩

/-- The curve of a fade rises with what is left. -/
theorem smoothStep_mono {a b : ℚ} (nonneg : 0 ≤ a) (below : a ≤ b) (small : b ≤ 1) :
    a * a * (3 - 2 * a) ≤ b * b * (3 - 2 * b) := by
  have first : a * a ≤ a := mul_le_of_le_one_right nonneg (below.trans small)
  have second : b * b ≤ b := mul_le_of_le_one_right (nonneg.trans below) small
  have square : 0 ≤ (b - a) * (b - a) := mul_self_nonneg _
  -- the difference is the distance times a slope that is not negative
  have slope : 0 ≤ 3 * (a + b) - 2 * (a * a + a * b + b * b) := by linarith
  have product : 0 ≤ (b - a) * (3 * (a + b) - 2 * (a * a + a * b + b * b)) :=
    mul_nonneg (sub_nonneg.mpr below) slope
  linarith

theorem smoothFadeGain_mem (fadeFrames frame : Nat) :
    0 ≤ smoothFadeGain fadeFrames frame ∧ smoothFadeGain fadeFrames frame ≤ 1 := by
  obtain ⟨nonneg, small⟩ := remaining_mem fadeFrames frame
  unfold smoothFadeGain
  split
  · exact ⟨le_rfl, zero_le_one⟩
  · dsimp only
    have low := smoothStep_mono le_rfl nonneg small
    have high := smoothStep_mono nonneg small le_rfl
    constructor
    · linarith
    · linarith

/-- **A fade falls.** -/
theorem smoothFadeGain_anti (fadeFrames : Nat) {frame later : Nat} (ordered : frame ≤ later) :
    smoothFadeGain fadeFrames later ≤ smoothFadeGain fadeFrames frame := by
  unfold smoothFadeGain
  split
  · exact le_rfl
  · have fewer : ((fadeFrames - 1 - later : Nat) : ℚ) ≤ ((fadeFrames - 1 - frame : Nat) : ℚ) :=
      Nat.cast_le.mpr (Nat.sub_le_sub_left ordered _)
    exact smoothStep_mono (remaining_mem fadeFrames later).1
      (div_le_div_of_nonneg_right fewer (Nat.cast_nonneg _)) (remaining_mem fadeFrames frame).2

/-! ## What a consumer sees -/

/-- How a step of a source ends: it returns a sample or none, it starts to wait for its channel,
or a wait ends with samples and it goes on. -/
inductive PollOutcome (F : Type) where
  | sample (value : F × Gain)
  | ended
  | waits
  | received (samples : List F)

/-- One step: whether the cancellation is requested when it is made, whether the fade has begun
after it, its callbacks and its outcome. -/
structure Observed (F : Type) where
  requested : Bool
  begun : Bool
  cues : List PlaybackCue
  outcome : PollOutcome F

def Observed.sample? (observed : Observed F) : Option (F × Gain) :=
  match observed.outcome with
  | .sample value => some value
  | _ => none

/-- The source returned none. -/
def Observed.ends (observed : Observed F) : Bool :=
  match observed.outcome with
  | .ended => true
  | _ => false

def Observed.received (observed : Observed F) : List F :=
  match observed.outcome with
  | .received samples => samples
  | _ => []

/-- The samples that the consumer took. -/
def emitted (trace : List (Observed F)) : List (F × Gain) := trace.filterMap Observed.sample?

def emittedGains (trace : List (Observed F)) : List Gain := (emitted trace).map Prod.snd

/-- The samples taken before the first step that found the cancellation requested. -/
def requestedAt : List (Observed F) → Option Nat
  | [] => none
  | observed :: rest =>
      if observed.requested then some 0
      else (requestedAt rest).map (observed.sample?.toList.length + ·)

/-- The first frame boundary that is not in front of a position. -/
def frameBoundary (position : Nat) : Nat := position + position % CHANNELS

/-- Both samples of a frame have one gain, gains fall, and there are few. -/
structure FadeOut (fadeFrames : Nat) (gains : List ℚ) : Prop where
  short : gains.length ≤ fadeFrames * CHANNELS
  sameFrame : ∀ frame left right, gains[CHANNELS * frame]? = some left →
    gains[CHANNELS * frame + 1]? = some right → left = right
  falling : gains.Pairwise fun earlier later => later ≤ earlier
  within : ∀ gain ∈ gains, 0 ≤ gain ∧ gain ≤ 1

/-- **The law of a fade**, over what the consumer of a source with so many samples saw. -/
structure FadeLaw (fadeFrames : Nat) (samples : List F) (trace : List (Observed F)) : Prop where
  inOrder : (emitted trace).map Prod.fst <+: samples ++ trace.flatMap Observed.received
  unrequested : requestedAt trace = none → ∀ taken ∈ emitted trace, taken.2.value = 1
  silent : requestedAt trace = some 0 → emitted trace = []
  unchanged : ∀ before, requestedAt trace = some before →
    ∀ taken ∈ (emitted trace).take (frameBoundary before), taken.2.value = 1
  fades : ∀ before, requestedAt trace = some before →
    FadeOut fadeFrames (((emitted trace).drop (frameBoundary before)).map fun taken =>
      taken.2.value)
  prompt : ∀ observed ∈ trace, observed.requested = true → observed.outcome ≠ .waits
  quiet : ∀ observed ∈ trace, observed.begun = true → observed.cues = []
  afterwards : ∀ front observed back, trace = front ++ observed :: back →
    observed.requested = true → observed.outcome = .ended → ∀ later ∈ back, later.sample? = none

/-- A source that is cancelled before it ends reports that it is. -/
def ReportsCancelled (trace : List (Observed F)) (told : PlaybackCompletion) : Prop :=
  ∀ ending, trace.find? Observed.ends = some ending → ending.requested = true →
    told = some .cancelled

/-! ### Longer records -/

variable (trace : List (Observed F)) (observed : Observed F)

theorem emitted_concat :
    emitted (trace ++ [observed]) = emitted trace ++ observed.sample?.toList := by
  rw [emitted, List.filterMap_append, emitted, List.filterMap_cons]
  cases observed.sample? <;> rfl

theorem emittedGains_concat :
    emittedGains (trace ++ [observed]) =
      emittedGains trace ++ observed.sample?.toList.map Prod.snd := by
  rw [emittedGains, emitted_concat, List.map_append, emittedGains]

theorem length_emittedGains : (emittedGains trace).length = (emitted trace).length :=
  List.length_map _

/-- The first request stays where it is. -/
theorem requestedAt_concat : requestedAt (trace ++ [observed]) =
    (requestedAt trace).or (if observed.requested then some (emitted trace).length else none) := by
  induction trace with
  | nil =>
      simp only [List.nil_append, requestedAt]
      cases observed.requested <;> rfl
  | cons first rest ih =>
      have length : (emitted (first :: rest)).length =
          first.sample?.toList.length + (emitted rest).length := by
        rw [emitted, List.filterMap_cons]
        cases first.sample? with
        | none => exact (Nat.zero_add _).symm
        | some value => exact Nat.add_comm _ _
      rw [List.cons_append, requestedAt, requestedAt, ih, length]
      split
      · rfl
      · cases requestedAt rest with
        | some before => rfl
        | none =>
            cases observed.requested with
            | true => rfl
            | false => rfl

/-! ## Stages -/

/-- The gains of the first samples of a fade. -/
def fadeGains (fadeFrames taken : Nat) : List Gain :=
  (List.range taken).map fun sample => .smoothFade fadeFrames (sample / CHANNELS)

theorem fadeGains_succ (fadeFrames taken : Nat) :
    fadeGains fadeFrames (taken + 1) =
      fadeGains fadeFrames taken ++ [.smoothFade fadeFrames (taken / CHANNELS)] := by
  rw [fadeGains, List.range_succ, List.map_append, fadeGains]
  rfl

/-- The gains so far, by the state of the cancellation and the position at which it was asked for:
all unity, or unity to a frame boundary and a fade behind it. A fade that ran on without samples
is longer than what was taken of it. -/
inductive Stage (cancellation : PlaybackCancellation) (rest : List F) (gains : List Gain) :
    Option Nat → Prop
  | playing (asked : Option Nat) (state : cancellation.state = .playing)
      (unity : gains = List.replicate gains.length .unity)
      (near : ∀ before ∈ asked, before ≤ gains.length ∧ gains.length ≤ frameBoundary before) :
      Stage cancellation rest gains asked
  | fading (before samplesEmitted taken : Nat) (state : cancellation.state = .fading samplesEmitted)
      (started : before ≠ 0) (within : samplesEmitted < cancellation.fadeSamples)
      (few : taken ≤ samplesEmitted) (all : taken = samplesEmitted ∨ rest = [])
      (fades : gains = List.replicate (frameBoundary before) .unity ++
        fadeGains (cancellation.fadeFrames.getD 0) taken) :
      Stage cancellation rest gains (some before)
  | finished (before taken : Nat) (state : cancellation.state = .finished)
      (few : taken ≤ cancellation.fadeSamples) (silent : before = 0 → taken = 0)
      (fades : gains = List.replicate (frameBoundary before) .unity ++
        fadeGains (cancellation.fadeFrames.getD 0) taken) :
      Stage cancellation rest gains (some before)

section Stages

variable {cancellation : PlaybackCancellation} {rest : List F} {gains : List Gain}
  {asked : Option Nat} {tokens : CancellationTokens}

/-- A request is noted at its first step. -/
def nowAsked (cancellation : PlaybackCancellation) (tokens : CancellationTokens)
    (gains : List Gain) (asked : Option Nat) : Option Nat :=
  asked.or (if cancellation.isRequested tokens then some gains.length else none)

/-- While it plays, a request lies in the frame of the position. -/
theorem near_nowAsked
    (near : ∀ before ∈ asked, before ≤ gains.length ∧ gains.length ≤ frameBoundary before) :
    ∀ before ∈ nowAsked cancellation tokens gains asked,
      before ≤ gains.length ∧ gains.length ≤ frameBoundary before := by
  intro before noted
  unfold nowAsked at noted
  cases asked with
  | some earlier => exact near before noted
  | none =>
      rw [Option.none_or] at noted
      split at noted
      · cases noted
        exact ⟨le_rfl, Nat.le_add_right _ _⟩
      · cases noted

/-- A request that stops a source at a boundary was noted in the last frame. -/
theorem nowAsked_of_stops (requested : cancellation.isRequested tokens = true)
    (boundary : gains.length % CHANNELS = 0)
    (near : ∀ before ∈ asked, before ≤ gains.length ∧ gains.length ≤ frameBoundary before) :
    ∃ before, nowAsked cancellation tokens gains asked = some before ∧
      frameBoundary before = gains.length ∧ (before = 0 ↔ gains.length = 0) := by
  obtain ⟨before, noted⟩ : ∃ before, nowAsked cancellation tokens gains asked = some before := by
    unfold nowAsked
    rw [if_pos requested]
    cases asked with
    | none => exact ⟨_, rfl⟩
    | some earlier => exact ⟨earlier, rfl⟩
  obtain ⟨low, high⟩ := near_nowAsked near before noted
  unfold frameBoundary CHANNELS at *
  exact ⟨before, noted, by omega, by omega⟩

/-- Where a request was noted the next one is not. -/
theorem nowAsked_some {before : Nat} :
    nowAsked cancellation tokens gains (some before) = some before := rfl

/-- **Before a fade began**, more samples may come. -/
theorem Stage.idle (stage : Stage cancellation rest gains asked)
    (unbegun : cancellation.hasBegun = false) (more : List F) :
    Stage cancellation more gains (nowAsked cancellation tokens gains asked) := by
  cases stage with
  | playing _ state unity near => exact .playing _ state unity (near_nowAsked near)
  | fading before samplesEmitted taken state =>
      unfold PlaybackCancellation.hasBegun at unbegun
      rw [state] at unbegun
      cases unbegun
  | finished before taken state =>
      unfold PlaybackCancellation.hasBegun at unbegun
      rw [state] at unbegun
      cases unbegun

/-- The cancellation is not asked. -/
theorem Stage.same (stage : Stage cancellation rest gains asked) :
    Stage cancellation rest gains (nowAsked cancellation tokens gains asked) := by
  cases stage with
  | playing _ state unity near => exact .playing _ state unity (near_nowAsked near)
  | fading before samplesEmitted taken state started within few all fades =>
      exact .fading before samplesEmitted taken state started within few all fades
  | finished before taken state few silent fades =>
      exact .finished before taken state few silent fades

/-- A fade at its next sample. -/
theorem Stage.fade {before samplesEmitted taken : Nat} {more : List F} (started : before ≠ 0)
    (within : samplesEmitted < cancellation.fadeSamples) (few : taken ≤ samplesEmitted + 1)
    (all : taken = samplesEmitted + 1 ∨ more = [])
    (fades : gains = List.replicate (frameBoundary before) .unity ++
      fadeGains (cancellation.fadeFrames.getD 0) taken) :
    Stage (cancellation.fade samplesEmitted).1 more gains (some before) := by
  unfold PlaybackCancellation.fade
  dsimp only
  split
  · exact .finished before taken rfl (few.trans within) (fun silent => absurd silent started) fades
  · rename_i left
    exact .fading before (samplesEmitted + 1) taken rfl started (Nat.lt_of_not_le left) few all
      fades

theorem fade_gain (cancellation : PlaybackCancellation) (samplesEmitted : Nat) :
    (cancellation.fade samplesEmitted).2 =
      some (.smoothFade (cancellation.fadeFrames.getD 0) (samplesEmitted / CHANNELS)) := by
  unfold PlaybackCancellation.fade
  dsimp only
  split <;> rfl

/-- **A sample is taken** with the next gain. -/
theorem Stage.sample {value : F} {more : List F} {gain : Gain}
    (stage : Stage cancellation (value :: more) gains asked)
    (permanent : asked ≠ none → cancellation.isRequested tokens = true)
    (gained : (cancellation.nextGain tokens gains.length).2 = some gain) :
    Stage (cancellation.nextGain tokens gains.length).1 more (gains ++ [gain])
      (nowAsked cancellation tokens gains asked) := by
  unfold PlaybackCancellation.nextGain at gained ⊢
  cases stage with
  | playing _ state unity near =>
      rw [state] at gained ⊢
      dsimp only at gained ⊢
      split at gained
      · rename_i stops
        obtain ⟨before, noted, boundary, first⟩ := nowAsked_of_stops stops.2 stops.1 near
        rw [if_pos stops, noted]
        split at gained
        · cases gained
        · rename_i audible
          rw [if_neg audible]
          obtain ⟨started, fading⟩ := not_or.mp audible
          rw [fade_gain] at gained
          refine Stage.fade (fun zero => started (first.mp zero)) (Nat.pos_of_ne_zero fading)
            (le_rfl : 1 ≤ 0 + 1) (Or.inl rfl) ?_
          rw [boundary, ← unity, ← Option.some.inj gained]
          rfl
      · rename_i goes
        rw [if_neg goes]
        cases gained
        refine .playing _ state ?_ ?_
        · rw [List.length_append, List.length_singleton, List.replicate_succ', ← unity]
        · intro before noted
          have requested : cancellation.isRequested tokens = true := by
            by_contra unrequested
            unfold nowAsked at noted
            rw [if_neg unrequested, Option.or_none] at noted
            exact unrequested (permanent fun none => by cases none.symm.trans noted)
          have inside : gains.length % CHANNELS ≠ 0 := fun boundary => goes ⟨boundary, requested⟩
          obtain ⟨low, high⟩ := near_nowAsked near before noted
          rw [List.length_append, List.length_singleton]
          unfold frameBoundary CHANNELS at *
          omega
  | fading before samplesEmitted taken state started within few all fades =>
      rw [state] at gained ⊢
      dsimp only at gained ⊢
      rw [fade_gain] at gained
      have same : taken = samplesEmitted := by
        rcases all with same | empty
        · exact same
        · cases empty
      subst same
      rw [nowAsked_some]
      refine Stage.fade started within (le_rfl : taken + 1 ≤ taken + 1) (Or.inl rfl) ?_
      rw [fadeGains_succ, ← List.append_assoc, ← fades, ← Option.some.inj gained]
  | finished before taken state =>
      rw [state] at gained
      cases gained

/-- **No sample is taken** where the cancellation lets none through or the source has none. -/
theorem Stage.silent (stage : Stage cancellation rest gains asked)
    (none : (cancellation.nextGain tokens gains.length).2 = none ∨ rest = []) :
    Stage (cancellation.nextGain tokens gains.length).1 rest gains
      (nowAsked cancellation tokens gains asked) := by
  have drained : ∀ samplesEmitted,
      (cancellation.fade samplesEmitted).2 = Option.none ∨ rest = [] → rest = [] := by
    intro samplesEmitted none
    rcases none with none | empty
    · rw [fade_gain] at none
      cases none
    · exact empty
  unfold PlaybackCancellation.nextGain at none ⊢
  cases stage with
  | playing _ state unity near =>
      rw [state] at none ⊢
      dsimp only at none ⊢
      split at none
      · rename_i stops
        obtain ⟨before, noted, boundary, first⟩ := nowAsked_of_stops stops.2 stops.1 near
        have fades : gains = List.replicate (frameBoundary before) .unity ++
            fadeGains (cancellation.fadeFrames.getD 0) 0 := by
          rw [boundary, ← unity]
          exact (List.append_nil _).symm
        rw [if_pos stops, noted]
        split at none
        · rename_i silent
          rw [if_pos silent]
          exact .finished before 0 rfl (Nat.zero_le _) (fun _ => rfl) fades
        · rename_i audible
          rw [if_neg audible]
          obtain ⟨started, fading⟩ := not_or.mp audible
          exact Stage.fade (fun zero => started (first.mp zero)) (Nat.pos_of_ne_zero fading)
            (Nat.zero_le _) (Or.inr (drained 0 none)) fades
      · rename_i goes
        rw [if_neg goes]
        exact .playing _ state unity (near_nowAsked near)
  | fading before samplesEmitted taken state started within few all fades =>
      rw [state] at none ⊢
      dsimp only at none ⊢
      exact Stage.fade started within (few.trans (Nat.le_succ _))
        (Or.inr (drained samplesEmitted none)) fades
  | finished before taken state few silent fades =>
      rw [state]
      exact .finished before taken state few silent fades

end Stages

/-! ## From the stages to the law -/

theorem value_of_mem_replicate {gain : Gain} {length : Nat}
    (member : gain ∈ List.replicate length Gain.unity) : gain.value = 1 := by
  rw [List.eq_of_mem_replicate member]
  rfl

theorem getElem?_fadeValues {fadeFrames taken sample : Nat} {value : ℚ}
    (found : ((fadeGains fadeFrames taken).map Gain.value)[sample]? = some value) :
    value = smoothFadeGain fadeFrames (sample / CHANNELS) := by
  rw [fadeGains, List.map_map, List.getElem?_map] at found
  obtain ⟨index, there, rfl⟩ := Option.map_eq_some_iff.mp found
  obtain ⟨listed, same⟩ := List.getElem?_eq_some_iff.mp there
  rw [List.getElem_range] at same
  rw [← same]
  rfl

/-- **A fade is one**: its frames have one gain each, and they fall. -/
theorem fadeOut_fadeGains {fadeFrames taken : Nat} (few : taken ≤ fadeFrames * CHANNELS) :
    FadeOut fadeFrames ((fadeGains fadeFrames taken).map Gain.value) where
  short := by
    rw [List.length_map, fadeGains, List.length_map, List.length_range]
    exact few
  sameFrame := by
    intro frame left right first second
    rw [getElem?_fadeValues first, getElem?_fadeValues second]
    congr 1
    unfold CHANNELS
    omega
  falling := by
    rw [fadeGains, List.map_map, List.pairwise_map]
    refine List.pairwise_lt_range.imp ?_
    intro earlier later before
    exact smoothFadeGain_anti fadeFrames (Nat.div_le_div_right before.le)
  within := by
    intro gain member
    obtain ⟨fading, listed, rfl⟩ := List.mem_map.mp member
    obtain ⟨sample, -, rfl⟩ := List.mem_map.mp listed
    exact smoothFadeGain_mem _ _

section Values

variable {cancellation : PlaybackCancellation} {rest : List F} {gains : List Gain}

/-- Without a request nothing is changed. -/
theorem Stage.unrequested (stage : Stage cancellation rest gains none) :
    ∀ gain ∈ gains, gain.value = 1 := by
  cases stage with
  | playing _ state unity near =>
      intro gain member
      rw [unity] at member
      exact value_of_mem_replicate member

/-- After a request in front of the first sample there is none. -/
theorem Stage.nothing (stage : Stage cancellation rest gains (some 0)) : gains = [] := by
  cases stage with
  | playing _ state unity near => exact List.length_eq_zero_iff.mp (Nat.le_zero.mp (near 0 rfl).2)
  | fading before samplesEmitted taken state started => exact absurd rfl started
  | finished before taken state few silent fades =>
      rw [silent rfl] at fades
      exact fades

/-- **The gains around a frame boundary**: unity in front of it, a fade behind it. -/
theorem Stage.around {before : Nat} (stage : Stage cancellation rest gains (some before)) :
    (∀ gain ∈ gains.take (frameBoundary before), gain.value = 1) ∧
      FadeOut (cancellation.fadeFrames.getD 0)
        ((gains.drop (frameBoundary before)).map Gain.value) := by
  have split : ∀ taken, taken ≤ cancellation.fadeSamples →
      gains = List.replicate (frameBoundary before) .unity ++
        fadeGains (cancellation.fadeFrames.getD 0) taken →
      (∀ gain ∈ gains.take (frameBoundary before), gain.value = 1) ∧
        FadeOut (cancellation.fadeFrames.getD 0)
          ((gains.drop (frameBoundary before)).map Gain.value) := by
    intro taken few fades
    have length : (List.replicate (frameBoundary before) Gain.unity).length =
        frameBoundary before := List.length_replicate
    rw [fades, List.take_left' length, List.drop_left' length]
    exact ⟨fun gain member => value_of_mem_replicate member, fadeOut_fadeGains few⟩
  cases stage with
  | playing _ state unity near =>
      have early := (near before rfl).2
      rw [List.take_of_length_le early, List.drop_of_length_le early]
      refine ⟨fun gain member => ?_, fadeOut_fadeGains (Nat.zero_le _)⟩
      rw [unity] at member
      exact value_of_mem_replicate member
  | fading before samplesEmitted taken state started within few all fades =>
      exact split taken (few.trans within.le) fades
  | finished before taken state few silent fades => exact split taken few fades

end Values

/-! ## Runs -/

theorem sameTokens_nextGain (cancellation : PlaybackCancellation) (tokens : CancellationTokens)
    (position : Nat) : cancellation.SameTokens (cancellation.nextGain tokens position).1 := by
  have fades : ∀ samplesEmitted, cancellation.SameTokens (cancellation.fade samplesEmitted).1 := by
    intro samplesEmitted
    unfold PlaybackCancellation.fade
    dsimp only
    split <;> exact ⟨rfl, rfl, rfl⟩
  unfold PlaybackCancellation.nextGain
  split
  · exact PlaybackCancellation.SameTokens.refl _
  · exact fades _
  · split
    · split
      · exact ⟨rfl, rfl, rfl⟩
      · exact fades _
    · exact PlaybackCancellation.SameTokens.refl _

/-- At a frame boundary a request is followed at once. -/
theorem hasBegun_of_stops {cancellation : PlaybackCancellation} {tokens : CancellationTokens}
    {position : Nat} (requested : cancellation.isRequested tokens = true)
    (boundary : position % CHANNELS = 0) :
    (cancellation.nextGain tokens position).1.hasBegun = true := by
  have fades : ∀ samplesEmitted, (cancellation.fade samplesEmitted).1.hasBegun = true := by
    intro samplesEmitted
    unfold PlaybackCancellation.fade
    dsimp only
    split <;> rfl
  unfold PlaybackCancellation.nextGain
  split
  · rename_i finished
    unfold PlaybackCancellation.hasBegun
    rw [finished]
    rfl
  · exact fades _
  · rw [if_pos ⟨boundary, requested⟩]
    split
    · rfl
    · exact fades _

/-- A request lasts. -/
theorem isRequested_cancel {cancellation : PlaybackCancellation} {tokens : CancellationTokens}
    (requested : cancellation.isRequested tokens = true) (token : CancellationToken) :
    cancellation.isRequested (tokens.cancel token) = true := by
  have lasts : ∀ own : Option CancellationToken, own.any tokens.isCancelled = true →
      own.any (tokens.cancel token).isCancelled = true := by
    intro own cancelled
    cases own with
    | none => cases cancelled
    | some other =>
        have before : tokens.isCancelled other = true := cancelled
        have after : (tokens.cancel token).isCancelled other = true := by
          rw [CancellationTokens.isCancelled_cancel, before, Bool.or_true]
        exact after
  unfold PlaybackCancellation.isRequested at requested ⊢
  rw [Bool.or_eq_true] at requested ⊢
  exact requested.imp (lasts _) (lasts _)

/-- How a source is consumed, and what its states keep. A finished one stays so, and returns no
sample. -/
structure Consumption (State F : Type) where
  cancellation : State → PlaybackCancellation
  position : State → Nat
  rest : State → List F
  steps : CancellationTokens → State → Observed F → State → Prop
  holds : State → Prop
  finished : CancellationTokens → State → Prop

namespace Consumption

variable (consumption : Consumption State F)

/-- The kinds of steps: the cancellation lets none through, a sample is taken with its gain, none is
left, or the cancellation is not asked because its output is closed or a wait ends. -/
inductive Moves (tokens : CancellationTokens) (state : State) (observed : Observed F)
    (state' : State) : Prop
  | stopped
      (gained : ((consumption.cancellation state).nextGain tokens
        (consumption.position state)).2 = none)
      (outcome : observed.outcome = .ended) (cues : observed.cues = [])
      (asked : consumption.cancellation state' = ((consumption.cancellation state).nextGain tokens
        (consumption.position state)).1)
      (position : consumption.position state' = consumption.position state)
      (rest : consumption.rest state' = consumption.rest state)
  | sample (value : F) (gain : Gain)
      (gained : ((consumption.cancellation state).nextGain tokens
        (consumption.position state)).2 = some gain)
      (left : consumption.rest state = value :: consumption.rest state')
      (outcome : observed.outcome = .sample (value, gain))
      (cues : (consumption.cancellation state').hasBegun = true → observed.cues = [])
      (asked : consumption.cancellation state' = ((consumption.cancellation state).nextGain tokens
        (consumption.position state)).1)
      (position : consumption.position state' = consumption.position state + 1)
  | drained
      (left : consumption.rest state = []) (rest : consumption.rest state' = [])
      (outcome : observed.outcome = .ended ∨ observed.outcome = .waits ∧
        (consumption.cancellation state').hasBegun = false)
      (cues : (consumption.cancellation state').hasBegun = true → observed.cues = [])
      (asked : consumption.cancellation state' = ((consumption.cancellation state).nextGain tokens
        (consumption.position state)).1)
      (position : consumption.position state' = consumption.position state)
  | refilled (samples : List F)
      (left : consumption.rest state = []) (rest : consumption.rest state' = samples)
      (frames : samples.length % CHANNELS = 0)
      (outcome : observed.outcome = .received samples ∨ observed.outcome = .ended ∧ samples = [])
      (unbegun : (consumption.cancellation state).hasBegun = false)
      (same : consumption.cancellation state' = consumption.cancellation state)
      (position : consumption.position state' = consumption.position state)
  | closed
      (outcome : observed.outcome = .ended) (cues : observed.cues = [])
      (same : consumption.cancellation state' = consumption.cancellation state)
      (position : consumption.position state' = consumption.position state)
      (rest : consumption.rest state' = consumption.rest state)

/-- What the steps of a source have to be like. -/
structure Lawful : Prop where
  requested : ∀ {tokens state observed state'},
    consumption.steps tokens state observed state' →
    observed.requested = (consumption.cancellation state).isRequested tokens
  begun : ∀ {tokens state observed state'}, consumption.steps tokens state observed state' →
    observed.begun = (consumption.cancellation state').hasBegun
  moves : ∀ {tokens state observed state'}, consumption.steps tokens state observed state' →
    consumption.holds state → consumption.Moves tokens state observed state'
  keeps : ∀ {tokens state observed state'}, consumption.steps tokens state observed state' →
    consumption.holds state → consumption.holds state'
  finishes : ∀ {tokens state observed state'}, consumption.steps tokens state observed state' →
    consumption.holds state →
    (consumption.position state + (consumption.rest state).length) % CHANNELS = 0 →
    observed.requested = true → observed.outcome = .ended → consumption.finished tokens state'
  stays : ∀ {tokens state observed state'}, consumption.steps tokens state observed state' →
    consumption.finished tokens state →
    consumption.finished tokens state' ∧ observed.sample? = none
  cancel : ∀ {tokens state} token, consumption.finished tokens state →
    consumption.finished (tokens.cancel token) state

/-- A run: steps of the source, and cancellations in between. -/
inductive Run (start : State) (from' : CancellationTokens) :
    List (Observed F) → State → CancellationTokens → Prop
  | start : Run start from' [] start from'
  | cancel {trace : List (Observed F)} {state : State} {tokens : CancellationTokens}
      (before : Run start from' trace state tokens) (token : CancellationToken) :
      Run start from' trace state (tokens.cancel token)
  | step {trace : List (Observed F)} {state state' : State} {tokens : CancellationTokens}
      {observed : Observed F} (before : Run start from' trace state tokens)
      (made : consumption.steps tokens state observed state') :
      Run start from' (trace ++ [observed]) state' tokens

variable {consumption} {tokens : CancellationTokens} {state state' : State}
  {observed : Observed F}

/-- A step asks for the same tokens. -/
theorem Moves.sameTokens (moves : consumption.Moves tokens state observed state') :
    (consumption.cancellation state).SameTokens (consumption.cancellation state') := by
  have asking := sameTokens_nextGain (consumption.cancellation state) tokens
    (consumption.position state)
  cases moves with
  | stopped _ _ _ asked => exact asked ▸ asking
  | sample _ _ _ _ _ _ asked => exact asked ▸ asking
  | drained _ _ _ _ asked => exact asked ▸ asking
  | refilled _ _ _ _ _ _ same => exact same ▸ PlaybackCancellation.SameTokens.refl _
  | closed _ _ same => exact same ▸ PlaybackCancellation.SameTokens.refl _

/-- What a run keeps, of what was seen and the state that it reached. -/
structure Obeys (consumption : Consumption State F) (fadeFrames : Nat) (samples : List F)
    (trace : List (Observed F)) (state : State) (tokens : CancellationTokens) : Prop where
  position : consumption.position state = (emittedGains trace).length
  whole : (consumption.position state + (consumption.rest state).length) % CHANNELS = 0
  inOrder : (emitted trace).map Prod.fst ++ consumption.rest state =
    samples ++ trace.flatMap Observed.received
  permanent : requestedAt trace ≠ none →
    (consumption.cancellation state).isRequested tokens = true
  fadeFrames : (consumption.cancellation state).fadeFrames.getD 0 = fadeFrames
  holds : consumption.holds state
  stage : Stage (consumption.cancellation state) (consumption.rest state) (emittedGains trace)
    (requestedAt trace)
  prompt : ∀ observed ∈ trace, observed.requested = true → observed.outcome ≠ .waits
  quiet : ∀ observed ∈ trace, observed.begun = true → observed.cues = []
  finished : (∃ observed ∈ trace, observed.requested = true ∧ observed.outcome = .ended) →
    consumption.finished tokens state
  afterwards : ∀ front observed back, trace = front ++ observed :: back →
    observed.requested = true → observed.outcome = .ended → ∀ later ∈ back, later.sample? = none

variable {fadeFrames : Nat} {samples : List F} {trace : List (Observed F)}

/-- **What a run keeps is the law.** -/
theorem Obeys.law (obeys : consumption.Obeys fadeFrames samples trace state tokens) :
    FadeLaw fadeFrames samples trace where
  inOrder := ⟨consumption.rest state, obeys.inOrder⟩
  unrequested := by
    intro unrequested taken member
    have stage := obeys.stage
    rw [unrequested] at stage
    exact stage.unrequested taken.2 (List.mem_map_of_mem member)
  silent := by
    intro first
    have stage := obeys.stage
    rw [first] at stage
    exact List.map_eq_nil_iff.mp stage.nothing
  unchanged := by
    intro before noted taken member
    have stage := obeys.stage
    rw [noted] at stage
    have early := stage.around.1
    rw [emittedGains, ← List.map_take, List.forall_mem_map] at early
    exact early taken member
  fades := by
    intro before noted
    have stage := obeys.stage
    rw [noted] at stage
    have late := stage.around.2
    rw [obeys.fadeFrames, emittedGains, ← List.map_drop, List.map_map] at late
    exact late
  prompt := obeys.prompt
  quiet := obeys.quiet
  afterwards := obeys.afterwards

/-- A token that is cancelled in between. -/
theorem Obeys.cancel (lawful : consumption.Lawful)
    (obeys : consumption.Obeys fadeFrames samples trace state tokens) (token : CancellationToken) :
    consumption.Obeys fadeFrames samples trace state (tokens.cancel token) :=
  { obeys with
    permanent := fun noted => isRequested_cancel (obeys.permanent noted) token
    finished := fun ended => lawful.cancel token (obeys.finished ended) }

/-- The position, the samples and the stage after a step. -/
structure Advances (consumption : Consumption State F) (samples : List F)
    (trace : List (Observed F)) (state : State) : Prop where
  position : consumption.position state = (emittedGains trace).length
  whole : (consumption.position state + (consumption.rest state).length) % CHANNELS = 0
  inOrder : (emitted trace).map Prod.fst ++ consumption.rest state =
    samples ++ trace.flatMap Observed.received
  stage : Stage (consumption.cancellation state) (consumption.rest state) (emittedGains trace)
    (requestedAt trace)

/-- A step that returns no sample and receives none. -/
theorem Obeys.advances_still (obeys : consumption.Obeys fadeFrames samples trace state tokens)
    (silent : observed.sample? = none) (dry : observed.received = [])
    (position : consumption.position state' = consumption.position state)
    (rest : consumption.rest state' = consumption.rest state)
    (stage : Stage (consumption.cancellation state') (consumption.rest state) (emittedGains trace)
      (requestedAt (trace ++ [observed]))) :
    consumption.Advances samples (trace ++ [observed]) state' where
  position := by
    rw [position, obeys.position, emittedGains_concat, silent]
    exact congrArg List.length (List.append_nil _).symm
  whole := by
    rw [position, rest]
    exact obeys.whole
  inOrder := by
    rw [emitted_concat, silent, rest, List.flatMap_append, List.flatMap_singleton, dry]
    simpa using obeys.inOrder
  stage := by
    rw [emittedGains_concat, silent, rest]
    simpa using stage

/-- **A step advances**, by its kinds. -/
theorem Obeys.advances (obeys : consumption.Obeys fadeFrames samples trace state tokens)
    (requested : observed.requested = (consumption.cancellation state).isRequested tokens)
    (moves : consumption.Moves tokens state observed state') :
    consumption.Advances samples (trace ++ [observed]) state' := by
  have noted : requestedAt (trace ++ [observed]) =
      nowAsked (consumption.cancellation state) tokens (emittedGains trace)
        (requestedAt trace) := by
    rw [requestedAt_concat, requested, ← length_emittedGains]
    rfl
  have length := obeys.position
  cases moves with
  | stopped gained outcome cues asked position rest =>
      have silent : observed.sample? = none := by rw [Observed.sample?, outcome]
      have dry : observed.received = [] := by rw [Observed.received, outcome]
      refine obeys.advances_still silent dry position rest ?_
      rw [noted, asked, length]
      exact obeys.stage.silent (Or.inl (length ▸ gained))
  | sample value gain gained left outcome cues asked position =>
      have taken : observed.sample? = some (value, gain) := by rw [Observed.sample?, outcome]
      have dry : observed.received = [] := by rw [Observed.received, outcome]
      have gains : emittedGains (trace ++ [observed]) = emittedGains trace ++ [gain] := by
        rw [emittedGains_concat, taken]
        rfl
      have stage := obeys.stage
      rw [left] at stage
      refine ⟨?_, ?_, ?_, ?_⟩
      · rw [position, length, gains, List.length_append, List.length_singleton]
      · have whole := obeys.whole
        rw [left, List.length_cons] at whole
        rw [position, Nat.add_assoc, Nat.add_comm 1]
        exact whole
      · have order := obeys.inOrder
        rw [left] at order
        rw [emitted_concat, taken, List.flatMap_append, List.flatMap_singleton, dry]
        simpa using order
      · rw [noted, asked, length, gains]
        exact stage.sample obeys.permanent (length ▸ gained)
  | drained left rest outcome cues asked position =>
      have silent : observed.sample? = none := by
        rcases outcome with outcome | ⟨outcome, -⟩ <;> rw [Observed.sample?, outcome]
      have dry : observed.received = [] := by
        rcases outcome with outcome | ⟨outcome, -⟩ <;> rw [Observed.received, outcome]
      refine obeys.advances_still silent dry position (rest.trans left.symm) ?_
      rw [noted, asked, length]
      exact obeys.stage.silent (Or.inr left)
  | refilled more left rest frames outcome unbegun same position =>
      have silent : observed.sample? = none := by
        rcases outcome with outcome | ⟨outcome, -⟩ <;> rw [Observed.sample?, outcome]
      have received : observed.received = more := by
        rcases outcome with outcome | ⟨outcome, empty⟩
        · rw [Observed.received, outcome]
        · rw [Observed.received, outcome, empty]
      have whole := obeys.whole
      have order := obeys.inOrder
      rw [left] at whole order
      refine ⟨?_, ?_, ?_, ?_⟩
      · rw [position, length, emittedGains_concat, silent]
        exact congrArg List.length (List.append_nil _).symm
      · rw [position, rest, Nat.add_mod, frames]
        simpa using whole
      · rw [emitted_concat, silent, rest, List.flatMap_append, List.flatMap_singleton, received,
          ← List.append_assoc, ← order]
        simp
      · rw [noted, same, emittedGains_concat, silent, rest]
        simpa using obeys.stage.idle unbegun more
  | closed outcome cues same position rest =>
      have silent : observed.sample? = none := by rw [Observed.sample?, outcome]
      have dry : observed.received = [] := by rw [Observed.received, outcome]
      refine obeys.advances_still silent dry position rest ?_
      rw [noted, same]
      exact obeys.stage.same

/-- A source that is requested to stop does not wait: it is at the end of a frame, where the fade
begins. -/
theorem Obeys.prompt_step (obeys : consumption.Obeys fadeFrames samples trace state tokens)
    (moves : consumption.Moves tokens state observed state')
    (requested : (consumption.cancellation state).isRequested tokens = true) :
    observed.outcome ≠ .waits := by
  intro waits
  cases moves with
  | stopped _ outcome => cases waits.symm.trans outcome
  | sample _ _ _ _ outcome => cases waits.symm.trans outcome
  | refilled _ _ _ _ outcome =>
      rcases outcome with outcome | ⟨outcome, -⟩ <;> cases waits.symm.trans outcome
  | closed outcome => cases waits.symm.trans outcome
  | drained left rest outcome cues asked position =>
      rcases outcome with outcome | ⟨-, unbegun⟩
      · cases waits.symm.trans outcome
      · have boundary := obeys.whole
        rw [left, List.length_nil, Nat.add_zero] at boundary
        rw [asked] at unbegun
        rw [hasBegun_of_stops requested boundary] at unbegun
        cases unbegun

theorem Moves.quiet (moves : consumption.Moves tokens state observed state')
    (begun : (consumption.cancellation state').hasBegun = true) : observed.cues = [] := by
  cases moves with
  | stopped _ _ cues => exact cues
  | sample _ _ _ _ _ cues => exact cues begun
  | drained _ _ _ cues => exact cues begun
  | refilled _ _ _ _ _ unbegun same =>
      rw [same, unbegun] at begun
      cases begun
  | closed _ cues => exact cues

/-- **A step keeps the law.** -/
theorem Obeys.step (lawful : consumption.Lawful)
    (obeys : consumption.Obeys fadeFrames samples trace state tokens)
    (made : consumption.steps tokens state observed state') :
    consumption.Obeys fadeFrames samples (trace ++ [observed]) state' tokens := by
  have requested := lawful.requested made
  have moves := lawful.moves made obeys.holds
  obtain ⟨position, whole, inOrder, stage⟩ := obeys.advances requested moves
  have same := moves.sameTokens
  refine ⟨position, whole, inOrder, ?_, ?_, lawful.keeps made obeys.holds, stage, ?_, ?_, ?_, ?_⟩
  · intro noted
    rw [same.isRequested]
    by_contra unrequested
    rw [requestedAt_concat, requested, if_neg unrequested, Option.or_none] at noted
    exact unrequested (obeys.permanent noted)
  · rw [same.fadeFrames]
    exact obeys.fadeFrames
  · rw [List.forall_mem_append, List.forall_mem_singleton]
    exact ⟨obeys.prompt, fun asked => obeys.prompt_step moves (requested.symm.trans asked)⟩
  · rw [List.forall_mem_append, List.forall_mem_singleton]
    exact ⟨obeys.quiet, fun begun => moves.quiet ((lawful.begun made).symm.trans begun)⟩
  · rintro ⟨ending, member, asked, ended⟩
    rcases List.mem_append.mp member with earlier | last
    · exact (lawful.stays made (obeys.finished ⟨ending, earlier, asked, ended⟩)).1
    · rw [List.mem_singleton.mp last] at asked ended
      exact lawful.finishes made obeys.holds obeys.whole asked ended
  · intro front ending back split asked ended later member
    rcases List.eq_nil_or_concat back with none | ⟨others, last, some⟩
    · rw [none] at member
      cases member
    · rw [some, List.concat_eq_append, ← List.cons_append, ← List.append_assoc] at split
      obtain ⟨before, same⟩ := List.append_inj' split rfl
      rw [some, List.concat_eq_append] at member
      rcases List.mem_append.mp member with earlier | there
      · exact obeys.afterwards front ending others before asked ended later earlier
      · have over' := obeys.finished ⟨ending, before ▸ (by simp), asked, ended⟩
        rw [List.mem_singleton.mp there, ← List.singleton_inj.mp same]
        exact (lawful.stays made over').2

/-- **Every run obeys the law** that its start does. -/
theorem Obeys.run {start : State} {from' : CancellationTokens} (lawful : consumption.Lawful)
    (initial : consumption.Obeys fadeFrames samples [] start from')
    (run : consumption.Run start from' trace state tokens) :
    consumption.Obeys fadeFrames samples trace state tokens := by
  induction run with
  | start => exact initial
  | cancel before token ih => exact ih.cancel lawful token
  | step before made ih => exact ih.step lawful made

/-- What is left of the samples in hand. -/
theorem Obeys.start {start : State} {from' : CancellationTokens}
    (position : consumption.position start = 0)
    (whole : samples.length % CHANNELS = 0) (rest : consumption.rest start = samples)
    (playing : (consumption.cancellation start).state = .playing)
    (fade : (consumption.cancellation start).fadeFrames.getD 0 = fadeFrames)
    (holds : consumption.holds start) :
    consumption.Obeys fadeFrames samples [] start from' where
  position := position
  whole := by
    rw [position, rest, Nat.zero_add]
    exact whole
  inOrder := by
    rw [rest]
    exact (List.append_nil _).symm
  permanent := fun noted => absurd rfl noted
  fadeFrames := fade
  holds := holds
  stage := .playing none playing rfl fun _ absent => by cases absent
  prompt := fun _ absent => absurd absent List.not_mem_nil
  quiet := fun _ absent => absurd absent List.not_mem_nil
  finished := by
    rintro ⟨ending, absent, -⟩
    exact absurd absent List.not_mem_nil
  afterwards := by
    intro front ending back split
    cases front <;> cases split

/-! ## Reports -/

/-- **Every run of a source that tells its ticket reports a cancellation** before its end. -/
theorem Run.reports {start : State} {from' : CancellationTokens} (ticketed : State → Prop)
    (told : State → PlaybackCompletion) (first : ticketed start) (unreported : told start = none)
    (tells : ∀ {tokens state observed state'}, consumption.steps tokens state observed state' →
      ticketed state → ticketed state' ∧ (observed.ends = false → told state' = told state) ∧
        (observed.ends = true → ∃ status, told state' = (told state).report status ∧
          (observed.requested = true → status = .cancelled)))
    (run : consumption.Run start from' trace state tokens) :
    ticketed state ∧ (trace.find? Observed.ends = none → told state = none) ∧
      ReportsCancelled trace (told state) := by
  induction run with
  | start => exact ⟨first, fun _ => unreported, fun _ absent => by cases absent⟩
  | cancel before token ih => exact ih
  | @step trace state state' tokens observed before made ih =>
      obtain ⟨held, silent, reports⟩ := ih
      obtain ⟨kept, goes, ends⟩ := tells made held
      have last : [observed].find? Observed.ends =
          if observed.ends = true then some observed else none := by
        rw [List.find?_cons, List.find?_nil]
        cases observed.ends <;> rfl
      rw [ReportsCancelled, List.find?_append, last]
      refine ⟨kept, ?_, ?_⟩
      · intro none
        obtain ⟨earlier, going⟩ := Option.or_eq_none_iff.mp none
        have unended : observed.ends = false := by
          by_contra ended
          rw [if_pos (Bool.not_eq_false _ ▸ ended)] at going
          cases going
        rw [goes unended]
        exact silent earlier
      · intro ending found asked
        cases earlier : trace.find? Observed.ends with
        | some first =>
            rw [earlier, Option.some_or] at found
            have before := reports ending (earlier.trans found) asked
            cases ended : observed.ends with
            | false => rw [goes ended, before]
            | true =>
                obtain ⟨status, reported, -⟩ := ends ended
                rw [reported, before]
                rfl
        | none =>
            rw [earlier, Option.none_or] at found
            split at found
            · rename_i ended
              cases found
              obtain ⟨status, reported, cancelled⟩ := ends ended
              rw [reported, silent earlier, cancelled asked]
              rfl
            · cases found

end Consumption

end Omnivox.Audio
