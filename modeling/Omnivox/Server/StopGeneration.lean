import Mathlib
import Omnivox.Foundations.Bounded
import Omnivox.Foundations.Fallible

/-!
# The stop generation

One counter tells the synthesis worker which requests are stale. The reader keeps a copy of
its own, which it increments and stores at every interrupt, and stamps requests with the
copy. Once the counter is bound to the audio output, replacing the output increments the
counter as well, and leaves the copy.

A request that is overtaken by an interrupt or a replacement is stale from then on
(`overtaken_requests_are_stale`). But the counter and the copy part at the first
replacement, and the requests and interrupts that come after it do not agree with the
counter: the discipline is kept exactly by the runs that have no interrupt and no request
after a replacement, as long as the counter does not wrap
(`stop_generation_agrees_iff`).
-/

set_option autoImplicit false

namespace Omnivox.Server

open Foundations

/-! ## The counter and its writers -/

/-- An admitted request, and whether an interrupt or a replacement came after it. -/
structure StampedRequest where
  generation : Nat
  overtaken : Bool
  deriving Repr, DecidableEq

/-- Whether the worker discards a request. -/
def stale (generation generationCounter : Nat) (cancelled : Option Bool) : Bool :=
  generationCounter != generation || cancelled.getD false

/-- The shared counter, the reader's copy, and the requests so far. -/
structure GenerationState where
  genCounter : Nat
  currentGen : Nat
  requests : List StampedRequest
  deriving Repr, DecidableEq

/-- What is done to the counter, each in one step: the copy is the reader's alone. -/
inductive GenerationEvent where
  | interrupt
  | interruptOutput
  | submit
  deriving Repr, DecidableEq

/-- Interrupts and replacements overtake the requests before them. -/
def GenerationEvent.overtakes : GenerationEvent → Bool
  | .interrupt | .interruptOutput => true
  | .submit => false

namespace GenerationState

/-- After the counter is bound, before the first command. -/
def bound : GenerationState where
  genCounter := 0
  currentGen := 0
  requests := []

def overtakeRequests (state : GenerationState) : GenerationState :=
  { state with requests := state.requests.map fun request => { request with overtaken := true } }

/-- The reader increments its copy and stores it. -/
def interrupt (state : GenerationState) : GenerationState :=
  let currentGen := wrappingAdd 64 state.currentGen 1
  { state.overtakeRequests with currentGen := currentGen, genCounter := currentGen }

/-- The device owner increments the counter, when it retires an output and again when it
publishes the next one. -/
def interruptOutput (state : GenerationState) : GenerationState :=
  { state.overtakeRequests with genCounter := wrappingAdd 64 state.genCounter 1 }

/-- The reader stamps a request with its copy. -/
def submit (state : GenerationState) : GenerationState :=
  { state with requests := ⟨state.currentGen, false⟩ :: state.requests }

def next (state : GenerationState) : GenerationEvent → GenerationState
  | .interrupt => state.interrupt
  | .interruptOutput => state.interruptOutput
  | .submit => state.submit

/-! ## The discipline -/

/-- A request is stale exactly when it is overtaken. -/
def Agrees (state : GenerationState) : Prop :=
  ∀ request ∈ state.requests,
    stale request.generation state.genCounter none = request.overtaken

/-- An event keeps the discipline: the counter does not decrease, it increases when requests
are overtaken, and afterwards the requests are stale exactly when they are overtaken. -/
structure KeepsDiscipline (state : GenerationState) (event : GenerationEvent) : Prop where
  never_decreases : state.genCounter ≤ (state.next event).genCounter
  increases : event.overtakes = true → state.genCounter < (state.next event).genCounter
  agrees : (state.next event).Agrees

/-! ## Overtaken requests -/

/-- The copy is not ahead of the counter, no request is ahead of the copy, and the counter
is ahead of every request that is overtaken. -/
structure Bounded (state : GenerationState) : Prop where
  currentGen_le : state.currentGen ≤ state.genCounter
  generation_le : ∀ request ∈ state.requests, request.generation ≤ state.currentGen
  generation_lt : ∀ request ∈ state.requests, request.overtaken = true →
    request.generation < state.genCounter

theorem bound_bounded : bound.Bounded where
  currentGen_le := le_rfl
  generation_le _ member := absurd member List.not_mem_nil
  generation_lt _ member := absurd member List.not_mem_nil

theorem next_bounded {state : GenerationState} {event : GenerationEvent} (bounded : state.Bounded)
    (fits : state.genCounter + event.overtakes.toNat < 2 ^ 64) : (state.next event).Bounded := by
  obtain ⟨behind, stamped, overtaken⟩ := bounded
  cases event with
  | interrupt =>
      rw [GenerationEvent.overtakes, Bool.toNat_true] at fits
      have exact : wrappingAdd 64 state.currentGen 1 = state.currentGen + 1 :=
        wrappingAdd_of_lt (by omega)
      refine ⟨le_rfl, ?_, ?_⟩
      · intro request member
        obtain ⟨before, listed, rfl⟩ := List.mem_map.mp member
        have behindCopy := stamped before listed
        simp only [next, interrupt, exact]
        omega
      · intro request member _
        obtain ⟨before, listed, rfl⟩ := List.mem_map.mp member
        have behindCopy := stamped before listed
        simp only [next, interrupt, exact]
        omega
  | interruptOutput =>
      have exact : wrappingAdd 64 state.genCounter 1 = state.genCounter + 1 :=
        wrappingAdd_of_lt fits
      refine ⟨?_, ?_, ?_⟩
      · simp only [next, interruptOutput, exact, overtakeRequests]
        omega
      · intro request member
        obtain ⟨before, listed, rfl⟩ := List.mem_map.mp member
        exact stamped before listed
      · intro request member _
        obtain ⟨before, listed, rfl⟩ := List.mem_map.mp member
        have behindCopy := stamped before listed
        simp only [next, interruptOutput, exact]
        omega
  | submit =>
      refine ⟨behind, List.forall_mem_cons.mpr ⟨le_rfl, stamped⟩, ?_⟩
      refine List.forall_mem_cons.mpr ⟨?_, overtaken⟩
      intro isOvertaken
      cases isOvertaken

/-- An event adds at most one to the counter, and only if it overtakes requests. -/
theorem next_genCounter_le {state : GenerationState} (bounded : state.Bounded)
    (event : GenerationEvent) :
    (state.next event).genCounter ≤ state.genCounter + event.overtakes.toNat := by
  cases event with
  | interrupt =>
      have wrapped : wrappingAdd 64 state.currentGen 1 ≤ state.currentGen + 1 := Nat.mod_le _ _
      exact wrapped.trans (Nat.add_le_add_right bounded.currentGen_le 1)
  | interruptOutput => exact Nat.mod_le _ _
  | submit => exact le_rfl

/-- The state that a list of events leads to. -/
def run (state : GenerationState) (events : List GenerationEvent) : GenerationState :=
  events.foldl next state

/-- How many interrupts and replacements there are. -/
def overtakings : List GenerationEvent → Nat
  | [] => 0
  | event :: rest => event.overtakes.toNat + overtakings rest

/-- Without a wrap a run stays within bounds. -/
theorem run_bounded {state : GenerationState} {events : List GenerationEvent}
    (bounded : state.Bounded) (fits : state.genCounter + overtakings events < 2 ^ 64) :
    (state.run events).Bounded := by
  induction events generalizing state with
  | nil => exact bounded
  | cons event rest ih =>
      have grown := next_genCounter_le bounded event
      rw [overtakings] at fits
      exact ih (next_bounded bounded (by omega)) (by omega)

/-- **An overtaken request is stale at every later time.** -/
theorem overtaken_requests_are_stale {events : List GenerationEvent}
    (few : overtakings events < 2 ^ 64) {request : StampedRequest}
    (member : request ∈ (bound.run events).requests) (overtaken : request.overtaken = true) :
    stale request.generation (bound.run events).genCounter none = true := by
  have bounded : (bound.run events).Bounded :=
    run_bounded bound_bounded (by rw [bound, Nat.zero_add]; exact few)
  have ahead := bounded.generation_lt request member overtaken
  rw [stale, Option.getD_none, Bool.or_false, bne_iff_ne]
  exact ahead.ne'

/-! ## The runs that keep the discipline -/

/-- What an event may do where the discipline has been kept: the counter is not at its end,
and the reader acts only on a copy that agrees with the counter. -/
def InStep (state : GenerationState) : GenerationEvent → Prop
  | .interrupt => state.genCounter = state.currentGen ∧ state.genCounter + 1 < 2 ^ 64
  | .interruptOutput => state.genCounter + 1 < 2 ^ 64
  | .submit => state.genCounter = state.currentGen

/-- A request that is not overtaken carries the counter. -/
def Current (state : GenerationState) : Prop :=
  ∀ request ∈ state.requests, request.overtaken = false →
    request.generation = state.genCounter

/-- Within bounds a request is stale exactly when it is overtaken, if those that are not
carry the counter. -/
theorem agrees_iff {state : GenerationState} (bounded : state.Bounded) :
    state.Agrees ↔ state.Current := by
  refine forall₂_congr fun request member => ?_
  rw [stale, Option.getD_none, Bool.or_false]
  cases overtaken : request.overtaken with
  | false =>
      rw [bne_eq_false_iff_eq]
      exact ⟨fun same _ => same.symm, fun carries => (carries rfl).symm⟩
  | true =>
      rw [bne_iff_ne]
      have ahead := bounded.generation_lt request member overtaken
      exact ⟨fun _ absent => Bool.noConfusion absent, fun _ => ahead.ne'⟩

/-- What holds along a run that keeps the discipline. -/
structure Disciplined (state : GenerationState) : Prop where
  bounded : state.Bounded
  current : state.Current
  genCounter_lt : state.genCounter < 2 ^ 64

theorem bound_disciplined : bound.Disciplined where
  bounded := bound_bounded
  current _ member := absurd member List.not_mem_nil
  genCounter_lt := Nat.two_pow_pos 64

variable {state : GenerationState} {event : GenerationEvent}

/-- Where the discipline is kept, an event adds exactly one, or nothing. -/
theorem InStep.genCounter_eq (inStep : state.InStep event) :
    (state.next event).genCounter = state.genCounter + event.overtakes.toNat := by
  cases event with
  | interrupt =>
      obtain ⟨together, fits⟩ := inStep
      rw [together] at fits ⊢
      exact wrappingAdd_of_lt fits
  | interruptOutput => exact wrappingAdd_of_lt inStep
  | submit => rfl

theorem InStep.disciplined (inStep : state.InStep event) (disciplined : state.Disciplined) :
    (state.next event).Disciplined := by
  have counted := inStep.genCounter_eq
  have fits : state.genCounter + event.overtakes.toNat < 2 ^ 64 := by
    cases event with
    | interrupt => exact inStep.2
    | interruptOutput => exact inStep
    | submit => exact disciplined.genCounter_lt
  refine ⟨next_bounded disciplined.bounded fits, ?_, counted ▸ fits⟩
  cases event with
  | submit =>
      have together : state.genCounter = state.currentGen := inStep
      exact List.forall_mem_cons.mpr ⟨fun _ => together.symm, disciplined.current⟩
  | _ =>
      -- every request is overtaken
      intro request member absent
      obtain ⟨before, listed, rfl⟩ := List.mem_map.mp member
      cases absent

/-- **Step.** An event keeps the discipline exactly when it is in step. -/
theorem keepsDiscipline_iff (disciplined : state.Disciplined) :
    state.KeepsDiscipline event ↔ state.InStep event := by
  obtain ⟨bounded, current, below⟩ := disciplined
  have behind := bounded.currentGen_le
  constructor
  · rintro ⟨-, increases, agrees⟩
    cases event with
    | interrupt =>
        have increased := increases rfl
        by_cases fits : state.currentGen + 1 < 2 ^ 64
        · simp only [next, interrupt, wrappingAdd_of_lt fits] at increased
          have together : state.genCounter = state.currentGen := by omega
          exact ⟨together, together ▸ fits⟩
        · have wrapped : wrappingAdd 64 state.currentGen 1 < state.currentGen :=
            wrappingAdd_lt_self (by omega) (by decide) (Nat.le_of_not_lt fits)
          simp only [next, interrupt] at increased
          omega
    | interruptOutput =>
        by_contra fits
        have wrapped : wrappingAdd 64 state.genCounter 1 < state.genCounter :=
          wrappingAdd_lt_self below (by decide) (Nat.le_of_not_lt fits)
        exact absurd (increases rfl) (Nat.lt_asymm wrapped)
    | submit =>
        have unstale := agrees ⟨state.currentGen, false⟩ List.mem_cons_self
        rw [stale, Option.getD_none, Bool.or_false, bne_eq_false_iff_eq] at unstale
        exact unstale
  · intro inStep
    have counted := inStep.genCounter_eq
    have after := inStep.disciplined ⟨bounded, current, below⟩
    refine ⟨?_, ?_, (agrees_iff after.bounded).mpr after.current⟩
    · omega
    · intro overtakes
      rw [counted, overtakes, Bool.toNat_true]
      exact Nat.lt_succ_self _

/-- No interrupt and no request after a replacement. -/
def ReplacesLast (events : List GenerationEvent) : Prop :=
  events.Pairwise fun earlier later =>
    earlier = .interruptOutput → later = .interruptOutput

/-- Along a run that keeps the discipline, replacements come last, and the reader does
nothing more once its copy is apart from the counter. -/
theorem along_iff {events : List GenerationEvent} (disciplined : state.Disciplined) :
    AdmittedAlong KeepsDiscipline next state events ↔
      (ReplacesLast events ∧ (state.genCounter ≠ state.currentGen →
        ∀ event ∈ events, event = .interruptOutput)) ∧
      state.genCounter + overtakings events < 2 ^ 64 := by
  induction events generalizing state with
  | nil =>
      refine iff_of_true (admittedAlong_nil _ _ _) ⟨⟨List.Pairwise.nil, ?_⟩, ?_⟩
      · intro _ event member
        exact absurd member List.not_mem_nil
      · exact disciplined.genCounter_lt
  | cons event rest ih =>
      rw [admittedAlong_cons, keepsDiscipline_iff disciplined, overtakings, ReplacesLast,
        List.pairwise_cons]
      constructor
      · rintro ⟨inStep, along⟩
        obtain ⟨⟨last, apart⟩, few⟩ := (ih (inStep.disciplined disciplined)).mp along
        rw [inStep.genCounter_eq] at apart few
        cases event with
        | interrupt =>
            refine ⟨⟨⟨fun _ _ same => (nomatch same), last⟩, fun parted => ?_⟩, by omega⟩
            exact absurd inStep.1 parted
        | interruptOutput =>
            have behind := disciplined.bounded.currentGen_le
            have all := apart (by
              simp only [next, interruptOutput, overtakeRequests, GenerationEvent.overtakes,
                Bool.toNat_true]
              omega)
            refine ⟨⟨⟨fun later member _ => all later member, last⟩, fun _ => ?_⟩, by omega⟩
            exact List.forall_mem_cons.mpr ⟨rfl, all⟩
        | submit =>
            refine ⟨⟨⟨fun _ _ same => (nomatch same), last⟩, fun parted => ?_⟩, by omega⟩
            exact absurd inStep parted
      · rintro ⟨⟨⟨replaced, last⟩, apart⟩, few⟩
        have together : event ≠ .interruptOutput → state.genCounter = state.currentGen := by
          intro other
          by_contra parted
          exact other (apart parted event List.mem_cons_self)
        have inStep : state.InStep event := by
          cases event with
          | interrupt =>
              refine ⟨together (nomatch ·), ?_⟩
              simp only [GenerationEvent.overtakes, Bool.toNat_true] at few
              omega
          | interruptOutput =>
              simp only [GenerationEvent.overtakes, Bool.toNat_true] at few
              rw [InStep]
              omega
          | submit => exact together (nomatch ·)
        refine ⟨inStep, (ih (inStep.disciplined disciplined)).mpr ⟨⟨last, ?_⟩, ?_⟩⟩
        · intro parted
          cases event with
          | interruptOutput => exact fun later member => replaced later member rfl
          | interrupt => exact absurd rfl parted
          | submit => exact absurd (together (nomatch ·)) parted
        · rw [inStep.genCounter_eq]
          omega

end GenerationState

open GenerationState

/-- **The runs that keep the discipline**: no interrupt and no request comes after a
replacement of the output, and the counter does not reach its end. -/
theorem stop_generation_agrees_iff (events : List GenerationEvent) :
    AdmittedAlong KeepsDiscipline next bound events ↔
      ReplacesLast events ∧ overtakings events < 2 ^ 64 := by
  rw [along_iff bound_disciplined, bound, Nat.zero_add]
  refine and_congr_left fun _ => and_iff_left fun parted => absurd rfl parted

/-- A request after a replacement is stale as soon as it is admitted. -/
theorem request_after_replacement_is_stale :
    ¬ ∀ events : List GenerationEvent, AdmittedAlong KeepsDiscipline next bound events := by
  intro every
  have kept := every [.interruptOutput, .submit] [.interruptOutput] .submit [] rfl
  have agrees := kept.agrees ⟨0, false⟩ List.mem_cons_self
  exact absurd agrees (by decide)

end Omnivox.Server
