import Mathlib
import Omnivox.Helpers.ConnectionOwnership

/-!
# One process at a time

Every connection of an engine is current, or retiring, or its termination is confirmed, as
long as no launch leaves a process of which it does not know the end
(`HelperEngine.one_process_iff`). So the connector runs only when nothing is owned.
-/

set_option autoImplicit false

namespace Omnivox.Helpers

open Foundations

namespace HelperEngine

variable {D : Type} {engine : HelperEngine D}

/-! ## The record of what was done -/

/-- The connections that were published. -/
def published (engine : HelperEngine D) : List ConnectionId :=
  engine.publications.map fun publication => publication.prepared.connection

/-- What holds of the record: connections are negotiated and published once, with what they
negotiated and in time. The epoch counts the publications until it is saturated. What is
current was published last. -/
structure Recorded (engine : HelperEngine D) : Prop where
  negotiated_lt : ∀ prepared ∈ engine.negotiated, prepared.connection < engine.created
  expired_lt : ∀ connection ∈ engine.expired, connection < engine.created
  negotiated_once : (engine.negotiated.map Prepared.connection).Nodup
  published_once : engine.published.Nodup
  own : ∀ publication ∈ engine.publications, publication.prepared ∈ engine.negotiated
  inTime : ∀ connection ∈ engine.published, connection ∉ engine.expired
  epochs : engine.publications.map Publication.epoch =
    (List.range engine.publications.length).map fun i => min (i + 1) u64Max
  epoch : engine.parameterCacheEpoch = min engine.publications.length u64Max
  current : ∀ connection, engine.connection = some connection →
    ∃ publication, engine.publications.getLast? = some publication ∧
      publication.prepared.connection = connection ∧
      engine.descriptor = some publication.prepared.descriptor ∧
      engine.protocolVersion = publication.prepared.protocolVersion

namespace Recorded

/-- A published connection was created. -/
theorem published_lt (recorded : engine.Recorded) {connection : ConnectionId}
    (member : connection ∈ engine.published) : connection < engine.created := by
  obtain ⟨publication, there, rfl⟩ := List.mem_map.mp member
  exact recorded.negotiated_lt _ (recorded.own publication there)

theorem current_published (recorded : engine.Recorded) {connection : ConnectionId}
    (current : engine.connection = some connection) : connection ∈ engine.published := by
  obtain ⟨publication, last, rfl, _⟩ := recorded.current connection current
  exact List.mem_map.mpr ⟨publication, List.mem_of_getLast? last, rfl⟩

end Recorded

namespace Recorded

/-- One more connection is created. -/
theorem create (recorded : engine.Recorded) :
    Recorded { engine with created := engine.created + 1 } :=
  { recorded with
    negotiated_lt := fun prepared member => Nat.lt_succ_of_lt (recorded.negotiated_lt prepared member)
    expired_lt := fun connection member => Nat.lt_succ_of_lt (recorded.expired_lt connection member) }

/-- A connection is withdrawn. -/
theorem withdraw (recorded : engine.Recorded) : Recorded { engine with connection := none } :=
  { recorded with current := fun connection current => by cases current }

/-- A connection that did not negotiate before does so. -/
theorem negotiate (recorded : engine.Recorded) {prepared : Prepared D}
    (created : prepared.connection < engine.created)
    (new : prepared.connection ∉ engine.negotiated.map Prepared.connection) :
    Recorded { engine with negotiated := prepared :: engine.negotiated } :=
  { recorded with
    negotiated_lt := List.forall_mem_cons.mpr ⟨created, recorded.negotiated_lt⟩
    negotiated_once := List.nodup_cons.mpr ⟨new, recorded.negotiated_once⟩
    own := fun publication member => List.mem_cons_of_mem _ (recorded.own publication member) }

/-- An unpublished connection is late. -/
theorem expire (recorded : engine.Recorded) {prepared : Prepared D}
    (negotiated : prepared ∈ engine.negotiated)
    (unpublished : prepared.connection ∉ engine.published) : Recorded (engine.expire prepared) :=
  { recorded with
    expired_lt := List.forall_mem_cons.mpr
      ⟨recorded.negotiated_lt prepared negotiated, recorded.expired_lt⟩
    inTime := by
      intro connection member late
      rcases List.mem_cons.mp late with rfl | earlier
      · exact unpublished member
      · exact recorded.inTime connection member earlier }

/-- **A publication.** -/
theorem publish (recorded : engine.Recorded) {prepared : Prepared D}
    (negotiated : prepared ∈ engine.negotiated)
    (unpublished : prepared.connection ∉ engine.published)
    (inTime : prepared.connection ∉ engine.expired) :
    Recorded (engine.publishConnection prepared) := by
  have epoch : saturatingAdd u64Max engine.parameterCacheEpoch 1 =
      min (engine.publications.length + 1) u64Max := by
    rw [saturatingAdd, recorded.epoch]
    omega
  have published : (engine.publishConnection prepared).published =
      engine.published ++ [prepared.connection] :=
    List.map_append
  have last : (engine.publishConnection prepared).publications.getLast? =
      some ⟨prepared, saturatingAdd u64Max engine.parameterCacheEpoch 1⟩ :=
    List.getLast?_concat
  refine ⟨recorded.negotiated_lt, recorded.expired_lt, recorded.negotiated_once, ?_, ?_, ?_, ?_, ?_,
    ?_⟩
  · rw [published]
    refine List.nodup_append.mpr ⟨recorded.published_once, List.nodup_singleton _, ?_⟩
    rintro connection member other single rfl
    rw [List.mem_singleton.mp single] at member
    exact unpublished member
  · intro publication member
    rcases List.mem_append.mp member with earlier | single
    · exact recorded.own publication earlier
    · rw [List.mem_singleton.mp single]
      exact negotiated
  · rw [published]
    intro connection member
    rcases List.mem_append.mp member with earlier | single
    · exact recorded.inTime connection earlier
    · rw [List.mem_singleton.mp single]
      exact inTime
  · have publications : (engine.publishConnection prepared).publications = engine.publications ++
        [⟨prepared, saturatingAdd u64Max engine.parameterCacheEpoch 1⟩] := rfl
    rw [publications, List.map_append, recorded.epochs, List.length_append, List.length_singleton,
      List.range_succ, List.map_append, List.map_singleton, List.map_singleton, epoch]
  · have counted : (engine.publishConnection prepared).publications.length =
        engine.publications.length + 1 := List.length_append
    rw [counted]
    exact epoch
  · rintro connection ⟨⟩
    exact ⟨_, last, rfl, rfl, rfl⟩

end Recorded

/-! ## Who owns what -/

/-- A connection that may still be published. -/
structure Candidate (engine : HelperEngine D) (prepared : Prepared D) : Prop where
  vacant : engine.connection = none
  retiring : engine.retiringConnection = some prepared.connection
  negotiated : prepared ∈ engine.negotiated
  unpublished : prepared.connection ∉ engine.published
  inTime : prepared.connection ∉ engine.expired

/-- A connection that is published, and that its installer still holds. -/
structure Handed (engine : HelperEngine D) (prepared : Prepared D) : Prop where
  current : engine.connection = some prepared.connection
  retiring : engine.retiringConnection = some prepared.connection

/-- No connection is on its way from a worker to its caller. -/
structure Quiet (engine : HelperEngine D) : Prop where
  caller : engine.caller = .idle ∨ engine.caller = .waiting
  unsent : ∀ prepared, engine.offer ≠ .sent prepared
  unread : engine.offer ≠ .received

/-- A worker hands its connection over to its caller. -/
inductive HandOver (engine : HelperEngine D) (prepared : Prepared D) : Prop
  | sent (offer : engine.offer = .sent prepared) (caller : engine.caller = .waiting)
      (candidate : engine.Candidate prepared)
  | checks (offer : engine.offer = .received) (caller : engine.caller = .checkBudget prepared)
      (candidate : engine.Candidate prepared)
  | publishes (offer : engine.offer = .received) (caller : engine.caller = .publish prepared)
      (candidate : engine.Candidate prepared)
  | accepts (offer : engine.offer = .received) (caller : engine.caller = .accept)
      (handed : engine.Handed prepared)
  | accepted (offer : engine.offer = .accepted) (caller : engine.caller = .idle)
      (handed : engine.Handed prepared)
  | dropped (offer : engine.offer = .dropped) (caller : engine.caller = .idle)
      (vacant : engine.connection = none)

/-- Not both places hold a connection. -/
def OneOwned (engine : HelperEngine D) : Prop :=
  engine.connection = none ∨ engine.retiringConnection = none

/-- What holds before the sections of an installation. -/
def PhaseKept (engine : HelperEngine D) (installer : Installer) : InstallPhase D → Prop
  | .terminateRetiring => engine.Quiet ∧ engine.OneOwned
  | .takeCurrent => engine.Quiet ∧
      ∀ connection, engine.retiringConnection = some connection → connection ∈ engine.terminated
  | .terminateCurrent => engine.Quiet ∧ engine.connection = none
  | .checkDeadline => engine.Quiet ∧ engine.connection = none ∧ engine.retiringConnection = none
  | .connect => engine.Quiet ∧ engine.connection = none ∧ engine.retiringConnection = none
  | .negotiate connection => engine.Quiet ∧ engine.connection = none ∧
      engine.retiringConnection = some connection ∧ connection < engine.created ∧
      connection ∉ engine.negotiated.map Prepared.connection ∧ connection ∉ engine.published ∧
      connection ∉ engine.expired
  | .compareDescriptor prepared => engine.Quiet ∧ engine.Candidate prepared
  | .checkNegotiated prepared => engine.Quiet ∧ engine.Candidate prepared
  | .publish prepared => engine.Quiet ∧ engine.Candidate prepared
  | .awaitDecision prepared => installer = .worker ∧ engine.HandOver prepared
  | .discard => engine.Quiet ∧ engine.connection = none
  | .keep => engine.Quiet ∧ engine.connection = engine.retiringConnection

def HolderKept (engine : HelperEngine D) : Prop :=
  match engine.holder with
  | .free => engine.Quiet ∧ engine.OneOwned
  | .install installer phase => engine.PhaseKept installer phase
  | .invalidate => engine.Quiet ∧ engine.connection = none

/-- Every connection that was created is current, or retiring, or its termination is
confirmed, and there are no others. -/
structure Holds (created : Nat) (terminated : List ConnectionId)
    (current retiring : Option ConnectionId) : Prop where
  all : ∀ connection < created,
    connection ∈ terminated ∨ current = some connection ∨ retiring = some connection
  terminated_lt : ∀ connection ∈ terminated, connection < created
  current_lt : ∀ connection, current = some connection → connection < created
  retiring_lt : ∀ connection, retiring = some connection → connection < created

def Owned (engine : HelperEngine D) : Prop :=
  Holds engine.created engine.terminated engine.connection engine.retiringConnection

/-- The invariant of an engine. -/
structure Kept (engine : HelperEngine D) : Prop where
  recorded : engine.Recorded
  holder : engine.HolderKept
  worker : ∀ phase, engine.holder = .install .worker phase → engine.worker = .installing
  owned : engine.Owned

/-! ## Sections of an installation -/

theorem Quiet.confirm (quiet : engine.Quiet) (connection : ConnectionId) :
    (engine.confirm connection).Quiet :=
  { quiet with }

/-- Two states with the same connections, in the same places. -/
structure Alike (engine engine' : HelperEngine D) : Prop where
  connection : engine'.connection = engine.connection
  retiring : engine'.retiringConnection = engine.retiringConnection
  created : engine'.created = engine.created
  negotiated : engine'.negotiated = engine.negotiated
  expired : engine'.expired = engine.expired
  publications : engine'.publications = engine.publications
  terminated : ∀ connection ∈ engine.terminated, connection ∈ engine'.terminated

theorem Candidate.of_alike {engine' : HelperEngine D} {prepared : Prepared D}
    (candidate : engine.Candidate prepared) (alike : engine.Alike engine') :
    engine'.Candidate prepared where
  vacant := alike.connection.trans candidate.vacant
  retiring := alike.retiring.trans candidate.retiring
  negotiated := alike.negotiated ▸ candidate.negotiated
  unpublished := by
    rw [published, alike.publications]
    exact candidate.unpublished
  inTime := alike.expired ▸ candidate.inTime

theorem HandOver.of_alike {engine' : HelperEngine D} {prepared : Prepared D}
    (handOver : engine.HandOver prepared) (alike : engine.Alike engine')
    (sameOffer : engine'.offer = engine.offer) (sameCaller : engine'.caller = engine.caller) :
    engine'.HandOver prepared := by
  have handed : engine.Handed prepared → engine'.Handed prepared := fun handed =>
    ⟨alike.connection.trans handed.current, alike.retiring.trans handed.retiring⟩
  cases handOver with
  | sent offer caller candidate =>
      exact .sent (sameOffer.trans offer) (sameCaller.trans caller) (candidate.of_alike alike)
  | checks offer caller candidate =>
      exact .checks (sameOffer.trans offer) (sameCaller.trans caller) (candidate.of_alike alike)
  | publishes offer caller candidate =>
      exact .publishes (sameOffer.trans offer) (sameCaller.trans caller) (candidate.of_alike alike)
  | accepts offer caller there =>
      exact .accepts (sameOffer.trans offer) (sameCaller.trans caller) (handed there)
  | accepted offer caller there =>
      exact .accepted (sameOffer.trans offer) (sameCaller.trans caller) (handed there)
  | dropped offer caller vacant =>
      exact .dropped (sameOffer.trans offer) (sameCaller.trans caller) (alike.connection.trans vacant)

theorem phaseKept_of_alike {engine' : HelperEngine D} {installer : Installer}
    {phase : InstallPhase D} (kept : engine.PhaseKept installer phase)
    (alike : engine.Alike engine') (quiet : engine.Quiet → engine'.Quiet)
    (handOver : ∀ prepared, phase = .awaitDecision prepared → engine.HandOver prepared →
      engine'.HandOver prepared) : engine'.PhaseKept installer phase := by
  have connection := alike.connection
  have retiring := alike.retiring
  cases phase with
  | terminateRetiring =>
      refine ⟨quiet kept.1, ?_⟩
      rw [OneOwned, connection, retiring]
      exact kept.2
  | takeCurrent =>
      refine ⟨quiet kept.1, fun other there => ?_⟩
      exact alike.terminated other (kept.2 other (retiring.symm.trans there))
  | terminateCurrent => exact ⟨quiet kept.1, connection.trans kept.2⟩
  | checkDeadline =>
      exact ⟨quiet kept.1, connection.trans kept.2.1, retiring.trans kept.2.2⟩
  | connect => exact ⟨quiet kept.1, connection.trans kept.2.1, retiring.trans kept.2.2⟩
  | negotiate other =>
      refine ⟨quiet kept.1, connection.trans kept.2.1, retiring.trans kept.2.2.1, ?_⟩
      rw [alike.created, alike.negotiated, published, alike.publications, alike.expired]
      exact kept.2.2.2
  | compareDescriptor prepared => exact ⟨quiet kept.1, kept.2.of_alike alike⟩
  | checkNegotiated prepared => exact ⟨quiet kept.1, kept.2.of_alike alike⟩
  | publish prepared => exact ⟨quiet kept.1, kept.2.of_alike alike⟩
  | awaitDecision prepared => exact ⟨kept.1, handOver prepared rfl kept.2⟩
  | discard => exact ⟨quiet kept.1, connection.trans kept.2⟩
  | keep => exact ⟨quiet kept.1, connection.trans (kept.2.trans retiring.symm)⟩

/-- What holds of the holder stays while the connections do. -/
theorem holderKept_of_alike {engine' : HelperEngine D} (kept : engine.HolderKept)
    (alike : engine.Alike engine') (same : engine'.holder = engine.holder)
    (quiet : engine.Quiet → engine'.Quiet)
    (handOver : ∀ installer prepared, engine.holder = .install installer (.awaitDecision prepared) →
      engine.HandOver prepared → engine'.HandOver prepared) : engine'.HolderKept := by
  unfold HolderKept at kept ⊢
  rw [same]
  split at kept
  · refine ⟨quiet kept.1, ?_⟩
    rw [OneOwned, alike.connection, alike.retiring]
    exact kept.2
  · rename_i installer phase held
    refine phaseKept_of_alike kept alike quiet ?_
    rintro prepared rfl
    exact handOver installer prepared held
  · exact ⟨quiet kept.1, alike.connection.trans kept.2⟩

theorem alike_goTo (engine : HelperEngine D) (installer : Installer) (phase : InstallPhase D) :
    engine.Alike (engine.goTo installer phase) :=
  ⟨rfl, rfl, rfl, rfl, rfl, rfl, fun _ => id⟩

theorem kept_goTo {installer : Installer} {phase : InstallPhase D} (recorded : engine.Recorded)
    (kept : engine.PhaseKept installer phase)
    (worker : installer = .worker → engine.worker = .installing) (owned : engine.Owned) :
    (engine.goTo installer phase).Kept where
  recorded := { recorded with }
  holder := phaseKept_of_alike kept (engine.alike_goTo installer phase)
    (fun quiet => { quiet with }) fun _ _ handOver =>
      handOver.of_alike (engine.alike_goTo installer phase) rfl rfl
  worker phase' held := by
    obtain ⟨rfl, _⟩ := Holder.install.inj held
    exact worker rfl
  owned := owned

theorem kept_unlock (installer : Installer) (recorded : engine.Recorded) (quiet : engine.Quiet)
    (oneOwned : engine.OneOwned) (owned : engine.Owned) : (engine.unlock installer).Kept where
  recorded := { recorded with }
  holder := ⟨{ quiet with }, oneOwned⟩
  worker phase' held := by cases held
  owned := owned

/-- What a termination of the retiring connection comes to. -/
theorem terminateRetiring_cases (engine : HelperEngine D) (installer : Installer)
    (terminated : Bool) (next : HelperEngine D → HelperEngine D) :
    (engine.retiringConnection = none ∧
      engine.terminateRetiring installer terminated next = next engine) ∨
    (∃ connection, engine.retiringConnection = some connection ∧
      engine.terminateRetiring installer terminated next = next (engine.confirm connection)) ∨
    engine.terminateRetiring installer terminated next = engine.unlock installer := by
  unfold terminateRetiring
  split
  · rename_i none
    exact Or.inl ⟨none, rfl⟩
  · rename_i connection retiring
    split
    · exact Or.inr (Or.inl ⟨connection, retiring, rfl⟩)
    · exact Or.inr (Or.inr rfl)

theorem Owned.confirm (owned : engine.Owned) {connection : ConnectionId}
    (created : connection < engine.created) : (engine.confirm connection).Owned :=
  { owned with
    all := by
      intro other made
      rcases owned.all other made with terminated | elsewhere
      · exact Or.inl (List.mem_cons_of_mem _ terminated)
      · exact Or.inr elsewhere
    terminated_lt := List.forall_mem_cons.mpr ⟨created, owned.terminated_lt⟩ }

/-- A connection whose termination is confirmed need not be retiring any more. -/
theorem Owned.release (owned : engine.Owned)
    (terminated : ∀ connection, engine.retiringConnection = some connection →
      connection ∈ engine.terminated ∨ engine.connection = some connection) :
    Owned { engine with retiringConnection := none } :=
  { owned with
    all := by
      intro connection created
      rcases owned.all connection created with gone | current | retiring
      · exact Or.inl gone
      · exact Or.inr (Or.inl current)
      · rcases terminated connection retiring with gone | current
        · exact Or.inl gone
        · exact Or.inr (Or.inl current)
    retiring_lt := fun connection retiring => by cases retiring }

/-- The current connection takes the place of one whose termination is confirmed. -/
theorem Owned.retire (owned : engine.Owned)
    (terminated : ∀ connection, engine.retiringConnection = some connection →
      connection ∈ engine.terminated) :
    Owned { engine with retiringConnection := engine.connection, connection := none } where
  all := by
    intro connection created
    rcases owned.all connection created with gone | current | retiring
    · exact Or.inl gone
    · exact Or.inr (Or.inr current)
    · exact Or.inl (terminated connection retiring)
  terminated_lt := owned.terminated_lt
  current_lt connection current := by cases current
  retiring_lt := owned.current_lt

/-- The retiring connection becomes current as well. -/
theorem Owned.publish (owned : engine.Owned) {prepared : Prepared D}
    (candidate : engine.Candidate prepared) : (engine.publishConnection prepared).Owned where
  all := by
    intro connection created
    rcases owned.all connection created with gone | current | retiring
    · exact Or.inl gone
    · cases candidate.vacant.symm.trans current
    · exact Or.inr (Or.inr retiring)
  terminated_lt := owned.terminated_lt
  current_lt := by
    rintro connection ⟨⟩
    exact owned.retiring_lt _ candidate.retiring
  retiring_lt := owned.retiring_lt

/-- A new connection is retiring until it is published. -/
theorem Owned.create (owned : engine.Owned) (vacant : engine.connection = none)
    (empty : engine.retiringConnection = none) :
    Owned { engine with
      created := engine.created + 1
      retiringConnection := some engine.created } where
  all := by
    intro connection created
    rcases Nat.lt_succ_iff_lt_or_eq.mp created with earlier | rfl
    · rcases owned.all connection earlier with gone | current | retiring
      · exact Or.inl gone
      · cases vacant.symm.trans current
      · cases empty.symm.trans retiring
    · exact Or.inr (Or.inr rfl)
  terminated_lt connection member := Nat.lt_succ_of_lt (owned.terminated_lt connection member)
  current_lt connection current := Nat.lt_succ_of_lt (owned.current_lt connection current)
  retiring_lt := by
    rintro connection ⟨⟩
    exact Nat.lt_succ_self _

theorem mem_terminated_confirm {connection other : ConnectionId}
    (retiring : engine.retiringConnection = some connection)
    (same : engine.retiringConnection = some other) :
    other ∈ (engine.confirm connection).terminated := by
  obtain rfl := Option.some.inj (retiring.symm.trans same)
  exact List.mem_cons_self

/-- A launch whose process is not known to have ended. -/
def Leaks (engine : HelperEngine D) (step : HelperStep D) : Prop :=
  ∃ installer answers, step = .hold answers ∧ engine.holder = .install installer .connect ∧
    answers.connect = .unreaped

/-- **A section of an installation.** -/
theorem kept_installNext [DecidableEq D] {engine' : HelperEngine D} {installer : Installer} {phase : InstallPhase D}
    {answers : Answers D} (kept : engine.Kept) (held : engine.holder = .install installer phase)
    (reaped : phase = .connect → answers.connect ≠ .unreaped)
    (taken : engine.installNext installer answers phase = some engine') : engine'.Kept := by
  have phaseKept := kept.holder
  unfold HolderKept at phaseKept
  rw [held] at phaseKept
  dsimp only at phaseKept
  have worker : installer = .worker → engine.worker = .installing := by
    rintro rfl
    exact kept.worker phase held
  cases phase with
  | terminateRetiring =>
      obtain ⟨quiet, oneOwned⟩ := phaseKept
      obtain rfl := Option.some.inj taken
      rcases engine.terminateRetiring_cases installer answers.terminated fun engine =>
          engine.goTo installer .takeCurrent with ⟨empty, goes⟩ | ⟨connection, retiring, goes⟩ | goes
      · rw [goes]
        refine kept_goTo kept.recorded ⟨quiet, ?_⟩ worker kept.owned
        intro connection retiring
        rw [empty] at retiring
        cases retiring
      · rw [goes]
        refine kept_goTo { kept.recorded with } ⟨quiet.confirm _, ?_⟩ worker (kept.owned.confirm (kept.owned.retiring_lt _ retiring))
        exact fun other same => mem_terminated_confirm retiring same
      · rw [goes]
        exact kept_unlock installer kept.recorded quiet oneOwned kept.owned
  | takeCurrent =>
      obtain ⟨quiet, terminated⟩ := phaseKept
      obtain rfl := Option.some.inj taken
      exact kept_goTo { kept.recorded.withdraw with } ⟨{ quiet with }, rfl⟩ worker
        (kept.owned.retire terminated)
  | terminateCurrent =>
      obtain ⟨quiet, vacant⟩ := phaseKept
      obtain rfl := Option.some.inj taken
      rcases engine.terminateRetiring_cases installer answers.terminated fun engine =>
          { engine with retiringConnection := none }.goTo installer .checkDeadline with
        ⟨empty, goes⟩ | ⟨connection, retiring, goes⟩ | goes
      · rw [goes]
        refine kept_goTo { kept.recorded with } ⟨{ quiet with }, vacant, rfl⟩ worker ?_
        refine kept.owned.release fun connection retiring => ?_
        rw [empty] at retiring
        cases retiring
      · rw [goes]
        refine kept_goTo { kept.recorded with } ⟨{ quiet with }, vacant, rfl⟩ worker ?_
        exact (kept.owned.confirm (kept.owned.retiring_lt _ retiring)).release fun other same =>
          Or.inl (mem_terminated_confirm retiring same)
      · rw [goes]
        exact kept_unlock installer kept.recorded quiet (Or.inl vacant) kept.owned
  | checkDeadline =>
      obtain ⟨quiet, vacant, empty⟩ := phaseKept
      obtain rfl := Option.some.inj taken
      split
      · exact kept_unlock installer kept.recorded quiet (Or.inl vacant) kept.owned
      · exact kept_goTo kept.recorded ⟨quiet, vacant, empty⟩ worker kept.owned
  | connect =>
      obtain ⟨quiet, vacant, empty⟩ := phaseKept
      unfold installNext at taken
      dsimp only at taken
      split at taken
      · obtain rfl := Option.some.inj taken
        exact kept_unlock installer kept.recorded quiet (Or.inl vacant) kept.owned
      · rename_i unreaped
        exact absurd unreaped (reaped rfl)
      · obtain rfl := Option.some.inj taken
        refine kept_goTo { kept.recorded.create with }
          ⟨{ quiet with }, vacant, rfl, Nat.lt_succ_self _, ?_, ?_, ?_⟩ worker
          (kept.owned.create vacant empty)
        · intro member
          obtain ⟨prepared, there, same⟩ := List.mem_map.mp member
          exact absurd same (kept.recorded.negotiated_lt prepared there).ne
        · exact fun member => Nat.lt_irrefl _ (kept.recorded.published_lt member)
        · exact fun member => Nat.lt_irrefl _ (kept.recorded.expired_lt _ member)
  | negotiate connection =>
      obtain ⟨quiet, vacant, retiring, created, unnegotiated, unpublished, inTime⟩ := phaseKept
      unfold installNext at taken
      dsimp only at taken
      split at taken
      · obtain rfl := Option.some.inj taken
        exact kept_goTo kept.recorded ⟨quiet, vacant⟩ worker kept.owned
      · rename_i greeting _
        obtain rfl := Option.some.inj taken
        have negotiated : Recorded { engine with
            negotiated := ⟨connection, greeting.1, greeting.2⟩ :: engine.negotiated } :=
          kept.recorded.negotiate created unnegotiated
        exact kept_goTo negotiated ⟨{ quiet with }, vacant, retiring, List.mem_cons_self,
          unpublished, inTime⟩ worker kept.owned
  | compareDescriptor prepared =>
      obtain ⟨quiet, candidate⟩ := phaseKept
      obtain rfl := Option.some.inj taken
      split
      · exact kept_goTo kept.recorded ⟨quiet, candidate.vacant⟩ worker kept.owned
      · exact kept_goTo kept.recorded ⟨quiet, candidate⟩ worker kept.owned
  | checkNegotiated prepared =>
      obtain ⟨quiet, candidate⟩ := phaseKept
      obtain rfl := Option.some.inj taken
      split
      · exact kept_goTo (kept.recorded.expire candidate.negotiated candidate.unpublished)
          ⟨{ quiet with }, candidate.vacant⟩ worker kept.owned
      · exact kept_goTo kept.recorded ⟨quiet, candidate⟩ worker kept.owned
  | publish prepared =>
      obtain ⟨quiet, candidate⟩ := phaseKept
      cases installer with
      | direct =>
          obtain rfl := Option.some.inj taken
          exact kept_goTo (kept.recorded.publish candidate.negotiated candidate.unpublished
            candidate.inTime) ⟨{ quiet with }, candidate.retiring.symm⟩ worker
            (kept.owned.publish candidate)
      | worker =>
          obtain rfl := Option.some.inj taken
          split
          · rename_i waiting
            exact kept_goTo { kept.recorded with }
              ⟨rfl, .sent rfl waiting { candidate with }⟩ worker kept.owned
          · exact kept_goTo kept.recorded ⟨quiet, candidate.vacant⟩ worker kept.owned
  | awaitDecision prepared =>
      obtain ⟨_, handOver⟩ := phaseKept
      unfold installNext at taken
      dsimp only at taken
      split at taken
      · rename_i decided
        obtain rfl := Option.some.inj taken
        cases handOver with
        | accepted offer caller handed =>
            refine kept_goTo kept.recorded ⟨⟨Or.inl caller, ?_, ?_⟩,
              handed.current.trans handed.retiring.symm⟩ worker kept.owned
            · exact fun _ sent => by cases offer.symm.trans sent
            · exact fun read => by cases offer.symm.trans read
        | sent offer => cases offer.symm.trans decided
        | checks offer => cases offer.symm.trans decided
        | publishes offer => cases offer.symm.trans decided
        | accepts offer => cases offer.symm.trans decided
        | dropped offer => cases offer.symm.trans decided
      · rename_i decided
        obtain rfl := Option.some.inj taken
        cases handOver with
        | dropped offer caller vacant =>
            refine kept_goTo kept.recorded ⟨⟨Or.inl caller, ?_, ?_⟩, vacant⟩ worker kept.owned
            · exact fun _ sent => by cases offer.symm.trans sent
            · exact fun read => by cases offer.symm.trans read
        | sent offer => cases offer.symm.trans decided
        | checks offer => cases offer.symm.trans decided
        | publishes offer => cases offer.symm.trans decided
        | accepts offer => cases offer.symm.trans decided
        | accepted offer => cases offer.symm.trans decided
      · cases taken
  | discard =>
      obtain ⟨quiet, vacant⟩ := phaseKept
      obtain rfl := Option.some.inj taken
      rcases engine.terminateRetiring_cases installer answers.terminated fun engine =>
          { engine with retiringConnection := none }.unlock installer with
        ⟨empty, goes⟩ | ⟨connection, retiring, goes⟩ | goes
      · rw [goes]
        refine kept_unlock installer { kept.recorded with } { quiet with } (Or.inl vacant) ?_
        refine kept.owned.release fun connection retiring => ?_
        rw [empty] at retiring
        cases retiring
      · rw [goes]
        refine kept_unlock installer { kept.recorded with } { quiet with } (Or.inl vacant) ?_
        exact (kept.owned.confirm (kept.owned.retiring_lt _ retiring)).release fun other same =>
          Or.inl (mem_terminated_confirm retiring same)
      · rw [goes]
        exact kept_unlock installer kept.recorded quiet (Or.inl vacant) kept.owned
  | keep =>
      obtain ⟨quiet, same⟩ := phaseKept
      obtain rfl := Option.some.inj taken
      refine kept_unlock installer { kept.recorded with } { quiet with } (Or.inr rfl) ?_
      exact kept.owned.release fun connection retiring => Or.inr (same.trans retiring)

/-! ## Steps -/

/-- Where a worker hands over, if the caller or the offer says so. -/
theorem Kept.handOver (kept : engine.Kept) (busy : ¬ engine.Quiet) :
    ∃ prepared, engine.holder = .install .worker (.awaitDecision prepared) ∧
      engine.HandOver prepared := by
  have holder := kept.holder
  unfold HolderKept at holder
  split at holder
  · exact absurd holder.1 busy
  · rename_i installer phase held
    cases phase with
    | awaitDecision prepared =>
        obtain ⟨rfl, handOver⟩ := holder
        exact ⟨prepared, held, handOver⟩
    | terminateRetiring => exact absurd holder.1 busy
    | takeCurrent => exact absurd holder.1 busy
    | terminateCurrent => exact absurd holder.1 busy
    | checkDeadline => exact absurd holder.1 busy
    | connect => exact absurd holder.1 busy
    | negotiate connection => exact absurd holder.1 busy
    | compareDescriptor prepared => exact absurd holder.1 busy
    | checkNegotiated prepared => exact absurd holder.1 busy
    | publish prepared => exact absurd holder.1 busy
    | discard => exact absurd holder.1 busy
    | keep => exact absurd holder.1 busy
  · exact absurd holder.1 busy

theorem kept_handOver {prepared : Prepared D}
    (held : engine.holder = .install .worker (.awaitDecision prepared))
    (installing : engine.worker = .installing) (recorded : engine.Recorded)
    (handOver : engine.HandOver prepared) (owned : engine.Owned) : engine.Kept where
  recorded := recorded
  holder := by
    unfold HolderKept
    rw [held]
    exact ⟨rfl, handOver⟩
  worker _ _ := installing
  owned := owned

/-- What the caller and the worker do beside an installation that hands nothing over. -/
theorem kept_beside {caller : Caller D} {offer : Offer D} {worker : Worker} (kept : engine.Kept)
    (unawaited : ∀ prepared, engine.holder ≠ .install .worker (.awaitDecision prepared))
    (quiet : Quiet { engine with caller := caller, offer := offer, worker := worker })
    (installing : ∀ phase, engine.holder = .install .worker phase → worker = .installing) :
    Kept { engine with caller := caller, offer := offer, worker := worker } where
  recorded := { kept.recorded with }
  worker := installing
  owned := kept.owned
  holder := by
    refine holderKept_of_alike kept.holder ⟨rfl, rfl, rfl, rfl, rfl, rfl, fun _ => id⟩ rfl
      (fun _ => quiet) ?_
    intro installer prepared held _
    have holder := kept.holder
    unfold HolderKept at holder
    rw [held] at holder
    obtain ⟨rfl, _⟩ := holder
    exact absurd held (unawaited prepared)

/-- A termination that is confirmed beside the installation. -/
theorem Kept.confirm (kept : engine.Kept) {connection : ConnectionId}
    (created : connection < engine.created) : (engine.confirm connection).Kept where
  recorded := { kept.recorded with }
  worker := kept.worker
  owned := kept.owned.confirm created
  holder :=
    have alike : engine.Alike (engine.confirm connection) :=
      ⟨rfl, rfl, rfl, rfl, rfl, rfl, fun _ => List.mem_cons_of_mem _⟩
    holderKept_of_alike kept.holder alike rfl (fun quiet => { quiet with })
      fun _ _ _ handOver => handOver.of_alike alike rfl rfl

/-- **A step.** -/
theorem kept_next [DecidableEq D] {engine' : HelperEngine D} {step : HelperStep D} (kept : engine.Kept)
    (reaped : ¬ engine.Leaks step) (taken : engine.next step = some engine') : engine'.Kept := by
  cases step with
  | install =>
      unfold next at taken
      dsimp only at taken
      split at taken
      · rename_i free
        obtain rfl := Option.some.inj taken
        have holder := kept.holder
        unfold HolderKept at holder
        rw [free] at holder
        exact kept_goTo kept.recorded holder (fun same => by cases same) kept.owned
      · cases taken
  | invalidate connection =>
      unfold next at taken
      dsimp only at taken
      split at taken
      · rename_i free
        obtain rfl := Option.some.inj taken
        have holder := kept.holder
        unfold HolderKept at holder
        rw [free] at holder
        obtain ⟨quiet, oneOwned⟩ := holder
        unfold invalidateConnection
        split
        · rename_i current
          refine ⟨{ kept.recorded.withdraw with }, ⟨{ quiet with }, rfl⟩,
            fun _ held => (by cases held), ?_⟩
          rcases oneOwned with vacant | empty
          · cases vacant.symm.trans current
          · have retired := kept.owned.retire fun other retiring => by cases empty.symm.trans retiring
            rw [current] at retired
            exact retired
        · exact kept
      · cases taken
  | hold answers =>
      unfold next at taken
      dsimp only at taken
      split at taken
      · cases taken
      · rename_i installer phase held
        refine kept_installNext kept held ?_ taken
        rintro rfl unreaped
        exact reaped ⟨installer, answers, rfl, held, unreaped⟩
      · rename_i held
        obtain rfl := Option.some.inj taken
        have holder := kept.holder
        unfold HolderKept at holder
        rw [held] at holder
        obtain ⟨quiet, vacant⟩ := holder
        rcases engine.terminateRetiring_cases .direct answers.terminated fun engine =>
            { engine with retiringConnection := none }.unlock .direct with
          ⟨empty, goes⟩ | ⟨connection, retiring, goes⟩ | goes
        · rw [goes]
          refine kept_unlock .direct { kept.recorded with } { quiet with } (Or.inl vacant) ?_
          refine kept.owned.release fun connection retiring => ?_
          rw [empty] at retiring
          cases retiring
        · rw [goes]
          refine kept_unlock .direct { kept.recorded with } { quiet with } (Or.inl vacant) ?_
          exact (kept.owned.confirm (kept.owned.retiring_lt _ retiring)).release fun other same =>
            Or.inl (mem_terminated_confirm retiring same)
        · rw [goes]
          exact kept_unlock .direct kept.recorded quiet (Or.inl vacant) kept.owned
  | admitCaller =>
      obtain ⟨⟨_, finished⟩, ⟨⟩⟩ := Option.ite_none_right_eq_some.mp taken
      have idle : ∀ phase, engine.holder ≠ .install .worker phase := by
        intro phase held
        cases finished.symm.trans (kept.worker phase held)
      refine kept_beside kept (fun prepared => idle _) ⟨Or.inr rfl, ?_, ?_⟩ ?_
      · exact fun _ sent => by cases sent
      · exact fun read => by cases read
      · exact fun phase held => absurd held (idle phase)
  | workerReturns expired =>
      obtain ⟨⟨starting, _⟩, ⟨⟩⟩ := Option.ite_none_right_eq_some.mp taken
      have idle : ∀ phase, engine.holder ≠ .install .worker phase := by
        intro phase held
        cases starting.symm.trans (kept.worker phase held)
      have quiet : engine.Quiet := by
        by_contra busy
        obtain ⟨prepared, held, _⟩ := kept.handOver busy
        exact idle _ held
      exact kept_beside kept (fun prepared => idle _) { quiet with }
        fun phase held => absurd held (idle phase)
  | workerInstalls =>
      unfold next at taken
      dsimp only at taken
      split at taken
      · rename_i free
        obtain ⟨_, ⟨⟩⟩ := Option.ite_none_right_eq_some.mp taken
        have holder := kept.holder
        unfold HolderKept at holder
        rw [free] at holder
        exact kept_goTo { kept.recorded with } ⟨{ holder.1 with }, holder.2⟩ (fun _ => rfl) kept.owned
      · cases taken
  | callerLeaves =>
      obtain ⟨waiting, ⟨⟩⟩ := Option.ite_none_right_eq_some.mp taken
      by_cases quiet : engine.Quiet
      · have offer : engine.offer.closed = engine.offer := by
          unfold Offer.closed
          split
          · rename_i prepared sent
            exact absurd sent (quiet.unsent prepared)
          · rfl
        rw [offer]
        refine kept_beside kept ?_ ⟨Or.inl rfl, quiet.unsent, quiet.unread⟩ kept.worker
        intro prepared held
        have holder := kept.holder
        unfold HolderKept at holder
        rw [held] at holder
        cases holder.2 with
        | sent offer => exact quiet.unsent prepared offer
        | checks offer => exact quiet.unread offer
        | publishes offer => exact quiet.unread offer
        | accepts offer => exact quiet.unread offer
        | accepted offer idle => cases waiting.symm.trans idle
        | dropped offer idle => cases waiting.symm.trans idle
      · obtain ⟨prepared, held, handOver⟩ := kept.handOver quiet
        have installing := kept.worker _ held
        cases handOver with
        | sent offer caller candidate =>
            rw [offer]
            exact kept_handOver held installing { kept.recorded with }
              (.dropped rfl rfl candidate.vacant) kept.owned
        | checks offer caller => cases waiting.symm.trans caller
        | publishes offer caller => cases waiting.symm.trans caller
        | accepts offer caller => cases waiting.symm.trans caller
        | accepted offer caller => cases waiting.symm.trans caller
        | dropped offer caller => cases waiting.symm.trans caller
  | callerReceives =>
      unfold next at taken
      dsimp only at taken
      split at taken
      · rename_i prepared offered
        obtain ⟨waiting, ⟨⟩⟩ := Option.ite_none_right_eq_some.mp taken
        obtain ⟨handed, held, handOver⟩ := kept.handOver fun quiet => quiet.unsent prepared offered
        have installing := kept.worker _ held
        cases handOver with
        | sent offer caller candidate =>
            obtain rfl := Offer.sent.inj (offered.symm.trans offer)
            exact kept_handOver held installing { kept.recorded with }
              (.checks rfl rfl { candidate with }) kept.owned
        | checks offer caller => cases waiting.symm.trans caller
        | publishes offer caller => cases waiting.symm.trans caller
        | accepts offer caller => cases waiting.symm.trans caller
        | accepted offer caller => cases waiting.symm.trans caller
        | dropped offer caller => cases waiting.symm.trans caller
      · cases taken
  | callerChecks expired =>
      unfold next at taken
      dsimp only at taken
      split at taken
      · rename_i prepared checks
        obtain ⟨handed, held, handOver⟩ := kept.handOver fun quiet => by
          rcases quiet.caller with idle | waiting
          · cases checks.symm.trans idle
          · cases checks.symm.trans waiting
        have installing := kept.worker _ held
        cases handOver with
        | checks offer caller candidate =>
            obtain rfl := Caller.checkBudget.inj (checks.symm.trans caller)
            obtain rfl := Option.some.inj taken
            split
            · have late := kept.recorded.expire candidate.negotiated candidate.unpublished
              exact kept_handOver held installing { late with }
                (.dropped rfl rfl candidate.vacant) kept.owned
            · exact kept_handOver held installing { kept.recorded with }
                (.publishes offer rfl { candidate with }) kept.owned
        | sent offer caller => cases checks.symm.trans caller
        | publishes offer caller => cases checks.symm.trans caller
        | accepts offer caller => cases checks.symm.trans caller
        | accepted offer caller => cases checks.symm.trans caller
        | dropped offer caller => cases checks.symm.trans caller
      · cases taken
  | callerPublishes expired =>
      unfold next at taken
      dsimp only at taken
      split at taken
      · rename_i prepared publishes
        obtain ⟨handed, held, handOver⟩ := kept.handOver fun quiet => by
          rcases quiet.caller with idle | waiting
          · cases publishes.symm.trans idle
          · cases publishes.symm.trans waiting
        have installing := kept.worker _ held
        cases handOver with
        | publishes offer caller candidate =>
            obtain rfl := Caller.publish.inj (publishes.symm.trans caller)
            obtain rfl := Option.some.inj taken
            split
            · have late := kept.recorded.expire candidate.negotiated candidate.unpublished
              exact kept_handOver held installing { late with }
                (.dropped rfl rfl candidate.vacant) kept.owned
            · have publishes := kept.recorded.publish candidate.negotiated candidate.unpublished
                candidate.inTime
              exact kept_handOver held installing { publishes with }
                (.accepts offer rfl ⟨rfl, candidate.retiring⟩) (kept.owned.publish candidate)
        | sent offer caller => cases publishes.symm.trans caller
        | checks offer caller => cases publishes.symm.trans caller
        | accepts offer caller => cases publishes.symm.trans caller
        | accepted offer caller => cases publishes.symm.trans caller
        | dropped offer caller => cases publishes.symm.trans caller
      · cases taken
  | callerAccepts =>
      obtain ⟨accepts, ⟨⟩⟩ := Option.ite_none_right_eq_some.mp taken
      obtain ⟨prepared, held, handOver⟩ := kept.handOver fun quiet => by
        rcases quiet.caller with idle | waiting
        · cases accepts.symm.trans idle
        · cases accepts.symm.trans waiting
      have installing := kept.worker _ held
      cases handOver with
      | accepts offer caller handed =>
          exact kept_handOver held installing { kept.recorded with }
            (.accepted rfl rfl { handed with }) kept.owned
      | sent offer caller => cases accepts.symm.trans caller
      | checks offer caller => cases accepts.symm.trans caller
      | publishes offer caller => cases accepts.symm.trans caller
      | accepted offer caller => cases accepts.symm.trans caller
      | dropped offer caller => cases accepts.symm.trans caller
  | watchdog connection terminated =>
      obtain ⟨created, ⟨⟩⟩ := Option.ite_none_right_eq_some.mp taken
      split
      · exact kept.confirm created
      · exact kept

/-! ## What is promised -/

/-- **One process at a time.** -/
structure OneProcess (engine : HelperEngine D) : Prop where
  /-- The connector runs when everything before is known to have ended. -/
  connects : ∀ installer, engine.holder = .install installer .connect →
    ∀ connection < engine.created, connection ∈ engine.terminated
  /-- What is not published is terminated, or retiring. -/
  retained : ∀ connection < engine.created, connection ∉ engine.published →
    connection ∈ engine.terminated ∨ engine.retiringConnection = some connection
  /-- What is published and not terminated is current, or retiring. -/
  owned : ∀ connection < engine.created, connection ∈ engine.terminated ∨
    engine.connection = some connection ∨ engine.retiringConnection = some connection
  publishedOnce : engine.published.Nodup
  negotiatedOnce : (engine.negotiated.map Prepared.connection).Nodup
  own : ∀ publication ∈ engine.publications, publication.prepared ∈ engine.negotiated
  together : ∀ connection, engine.connection = some connection →
    ∃ publication, engine.publications.getLast? = some publication ∧
      publication.prepared.connection = connection ∧
      engine.descriptor = some publication.prepared.descriptor ∧
      engine.protocolVersion = publication.prepared.protocolVersion
  inTime : ∀ connection ∈ engine.published, connection ∉ engine.expired
  epochs : engine.publications.map Publication.epoch =
    (List.range engine.publications.length).map fun i => min (i + 1) u64Max

/-- A retiring connection whose termination is not confirmed stays, unless it is the current
one. -/
def Retains (before after : HelperEngine D) : Prop :=
  ∀ connection, before.retiringConnection = some connection → connection ∉ after.terminated →
    after.retiringConnection = some connection ∨
      (before.connection = some connection ∧ after.connection = some connection)

theorem Kept.oneProcess (kept : engine.Kept) : engine.OneProcess where
  connects installer held := by
    have holder := kept.holder
    unfold HolderKept at holder
    rw [held] at holder
    obtain ⟨_, vacant, empty⟩ := holder
    intro connection created
    rcases kept.owned.all connection created with gone | current | retiring
    · exact gone
    · cases vacant.symm.trans current
    · cases empty.symm.trans retiring
  retained := by
    intro connection created unpublished
    rcases kept.owned.all connection created with gone | current | retiring
    · exact Or.inl gone
    · exact absurd (kept.recorded.current_published current) unpublished
    · exact Or.inr retiring
  owned := kept.owned.all
  publishedOnce := kept.recorded.published_once
  negotiatedOnce := kept.recorded.negotiated_once
  own := kept.recorded.own
  together := kept.recorded.current
  inTime := kept.recorded.inTime
  epochs := kept.recorded.epochs

theorem retains_same {engine' : HelperEngine D}
    (same : engine'.retiringConnection = engine.retiringConnection) : engine.Retains engine' :=
  fun _ retiring _ => Or.inl (same.trans retiring)

theorem retains_empty {engine' : HelperEngine D} (empty : engine.retiringConnection = none) :
    engine.Retains engine' := by
  intro connection retiring
  cases empty.symm.trans retiring

theorem retains_terminated {engine' : HelperEngine D}
    (terminated : ∀ connection, engine.retiringConnection = some connection →
      connection ∈ engine'.terminated) : engine.Retains engine' :=
  fun connection retiring unconfirmed => absurd (terminated connection retiring) unconfirmed

/-- A termination after which the place of the retiring connection is empty. -/
theorem retains_terminateRetiring (installer : Installer) (terminated : Bool)
    {next : HelperEngine D → HelperEngine D}
    (keeps : ∀ engine, (next engine).terminated = engine.terminated) :
    engine.Retains (engine.terminateRetiring installer terminated next) := by
  rcases engine.terminateRetiring_cases installer terminated next with
    ⟨empty, _⟩ | ⟨connection, retiring, goes⟩ | goes
  · exact retains_empty empty
  · refine retains_terminated fun other same => ?_
    rw [goes, keeps]
    exact mem_terminated_confirm retiring same
  · rw [goes]
    exact retains_same rfl

theorem retains_installNext [DecidableEq D] {engine' : HelperEngine D} {installer : Installer}
    {phase : InstallPhase D} {answers : Answers D} (kept : engine.PhaseKept installer phase)
    (taken : engine.installNext installer answers phase = some engine') :
    engine.Retains engine' := by
  cases phase with
  | terminateRetiring =>
      obtain rfl := Option.some.inj taken
      exact retains_terminateRetiring installer answers.terminated fun _ => rfl
  | takeCurrent =>
      obtain rfl := Option.some.inj taken
      exact retains_terminated kept.2
  | terminateCurrent =>
      obtain rfl := Option.some.inj taken
      exact retains_terminateRetiring installer answers.terminated fun _ => rfl
  | checkDeadline => exact retains_empty kept.2.2
  | connect => exact retains_empty kept.2.2
  | negotiate connection =>
      unfold installNext at taken
      dsimp only at taken
      split at taken
      · obtain rfl := Option.some.inj taken
        exact retains_same rfl
      · obtain rfl := Option.some.inj taken
        exact retains_same rfl
  | compareDescriptor prepared =>
      obtain rfl := Option.some.inj taken
      split
      · exact retains_same rfl
      · exact retains_same rfl
  | checkNegotiated prepared =>
      obtain rfl := Option.some.inj taken
      split
      · exact retains_same rfl
      · exact retains_same rfl
  | publish prepared =>
      cases installer with
      | direct =>
          obtain rfl := Option.some.inj taken
          exact retains_same rfl
      | worker =>
          obtain rfl := Option.some.inj taken
          split
          · exact retains_same rfl
          · exact retains_same rfl
  | awaitDecision prepared =>
      unfold installNext at taken
      dsimp only at taken
      split at taken
      · obtain rfl := Option.some.inj taken
        exact retains_same rfl
      · obtain rfl := Option.some.inj taken
        exact retains_same rfl
      · cases taken
  | discard =>
      obtain rfl := Option.some.inj taken
      exact retains_terminateRetiring installer answers.terminated fun _ => rfl
  | keep =>
      obtain rfl := Option.some.inj taken
      intro connection retiring _
      have current := kept.2.trans retiring
      exact Or.inr ⟨current, current⟩

theorem retains_next [DecidableEq D] {engine' : HelperEngine D} {step : HelperStep D} (kept : engine.Kept)
    (taken : engine.next step = some engine') : engine.Retains engine' := by
  have holder := kept.holder
  unfold HolderKept at holder
  unfold next at taken
  cases step with
  | install =>
      dsimp only at taken
      split at taken
      · obtain rfl := Option.some.inj taken
        exact retains_same rfl
      · cases taken
  | invalidate connection =>
      dsimp only at taken
      split at taken
      · rename_i free
        obtain rfl := Option.some.inj taken
        rw [free] at holder
        unfold invalidateConnection
        split
        · rename_i current
          rcases holder.2 with vacant | empty
          · cases vacant.symm.trans current
          · exact retains_empty empty
        · exact retains_same rfl
      · cases taken
  | hold answers =>
      dsimp only at taken
      split at taken
      · cases taken
      · rename_i installer phase held
        rw [held] at holder
        exact retains_installNext holder taken
      · obtain rfl := Option.some.inj taken
        exact retains_terminateRetiring .direct answers.terminated fun _ => rfl
  | admitCaller =>
      obtain ⟨_, ⟨⟩⟩ := Option.ite_none_right_eq_some.mp taken
      exact retains_same rfl
  | workerReturns expired =>
      obtain ⟨_, ⟨⟩⟩ := Option.ite_none_right_eq_some.mp taken
      exact retains_same rfl
  | workerInstalls =>
      dsimp only at taken
      split at taken
      · obtain ⟨_, ⟨⟩⟩ := Option.ite_none_right_eq_some.mp taken
        exact retains_same rfl
      · cases taken
  | callerLeaves =>
      obtain ⟨_, ⟨⟩⟩ := Option.ite_none_right_eq_some.mp taken
      exact retains_same rfl
  | callerReceives =>
      dsimp only at taken
      split at taken
      · obtain ⟨_, ⟨⟩⟩ := Option.ite_none_right_eq_some.mp taken
        exact retains_same rfl
      · cases taken
  | callerChecks expired =>
      dsimp only at taken
      split at taken
      · obtain rfl := Option.some.inj taken
        split
        · exact retains_same rfl
        · exact retains_same rfl
      · cases taken
  | callerPublishes expired =>
      dsimp only at taken
      split at taken
      · obtain rfl := Option.some.inj taken
        split
        · exact retains_same rfl
        · exact retains_same rfl
      · cases taken
  | callerAccepts =>
      obtain ⟨_, ⟨⟩⟩ := Option.ite_none_right_eq_some.mp taken
      exact retains_same rfl
  | watchdog connection terminated =>
      obtain ⟨_, ⟨⟩⟩ := Option.ite_none_right_eq_some.mp taken
      split
      · exact retains_same rfl
      · exact retains_same rfl

/-- A launch that leaves its process behind: no one owns the connection. -/
theorem not_owned_of_leaks [DecidableEq D] {engine' : HelperEngine D} {step : HelperStep D} (kept : engine.Kept)
    (leaks : engine.Leaks step) (taken : engine.next step = some engine') :
    ¬ engine'.OneProcess := by
  intro sound
  obtain ⟨installer, answers, rfl, held, unreaped⟩ := leaks
  have holder := kept.holder
  unfold HolderKept at holder
  unfold next at taken
  dsimp only at taken
  rw [held] at holder taken
  obtain ⟨_, vacant, empty⟩ := holder
  unfold installNext at taken
  dsimp only at taken
  rw [unreaped] at taken
  obtain rfl := Option.some.inj taken
  rcases sound.owned engine.created (Nat.lt_succ_self _) with gone | current | retiring
  · exact Nat.lt_irrefl _ (kept.owned.terminated_lt _ gone)
  · cases vacant.symm.trans current
  · cases empty.symm.trans retiring

theorem kept_withoutConnection (descriptor : Option D) : (withoutConnection descriptor).Kept where
  recorded :=
    { negotiated_lt := fun _ member => by cases member
      expired_lt := fun _ member => by cases member
      negotiated_once := List.nodup_nil
      published_once := List.nodup_nil
      own := fun _ member => by cases member
      inTime := fun _ member => by cases member
      epochs := rfl
      epoch := rfl
      current := fun _ current => by cases current }
  holder :=
    ⟨⟨Or.inl rfl, fun _ sent => (by cases sent), fun read => (by cases read)⟩, Or.inl rfl⟩
  worker _ held := by cases held
  owned :=
    { all := fun _ created => absurd created (Nat.not_lt_zero _)
      terminated_lt := fun _ member => by cases member
      current_lt := fun _ current => by cases current
      retiring_lt := fun _ retiring => by cases retiring }

/-- **The runs with one process at a time**: what is promised holds after every step if and
only if no launch leaves a process behind whose end is not confirmed. -/
theorem one_process_iff [DecidableEq D] (descriptor : Option D) (steps : List (HelperStep D)) :
    Along next (fun before _ after => OneProcess after ∧ Retains before after)
        (withoutConnection descriptor) steps ↔
      Along next (fun before step _ => ¬ Leaks before step) (withoutConnection descriptor) steps := by
  refine along_iff ?_ ?_ (kept_withoutConnection descriptor) steps
  · intro engine step engine' kept taken
    constructor
    · exact fun promised leaks => not_owned_of_leaks kept leaks taken promised.1
    · exact fun reaped => ⟨(kept_next kept reaped taken).oneProcess, retains_next kept taken⟩
  · exact fun engine step engine' kept taken reaped => kept_next kept reaped taken

/-- What a launch finds out whose process is not known to have ended. -/
def unreapedLaunch : Answers Unit where
  terminated := false
  expired := false
  connect := .unreaped
  negotiated := none

/-- The reader of a new process cannot be started, and the process is not reaped in time. No
one owns its connection, and the next installation launches another process beside it. -/
theorem launch_leaves_process :
    ¬ ∀ (descriptor : Option Unit) (steps : List (HelperStep Unit)),
      Along next (fun before _ after => OneProcess after ∧ Retains before after)
        (withoutConnection descriptor) steps := by
  intro every
  have along := every none [.install, .hold unreapedLaunch, .hold unreapedLaunch,
    .hold unreapedLaunch, .hold unreapedLaunch, .hold unreapedLaunch]
  obtain ⟨_, locked⟩ := along _ rfl
  obtain ⟨_, retired⟩ := locked _ rfl
  obtain ⟨_, withdrawn⟩ := retired _ rfl
  obtain ⟨_, cleared⟩ := withdrawn _ rfl
  obtain ⟨_, inTime⟩ := cleared _ rfl
  obtain ⟨⟨promised, _⟩, _⟩ := inTime _ rfl
  rcases promised.owned 0 Nat.zero_lt_one with gone | current | retiring
  · cases gone
  · cases current
  · cases retiring

end HelperEngine

end Omnivox.Helpers
