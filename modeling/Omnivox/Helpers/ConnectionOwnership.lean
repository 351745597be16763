import Mathlib
import Omnivox.Foundations.Bounded
import Omnivox.Foundations.Runs

/-!
# Who owns a helper connection

A connection stands for the process of a helper. The engine owns the connection that is
current and the one that is retiring. It installs a fresh connection under the lock of the
retirement: the owned ones are terminated first, the new one is retiring until it is
published. An admission caller publishes the connection that its worker hands over, unless
the caller has run out of time.

A step is one section of the holder of the lock, of the admission caller, or of a watchdog.
What the helper process, the connector and the clock do are arguments of the step.
-/

set_option autoImplicit false

namespace Omnivox.Helpers

open Foundations

/-- Connections in the order of their creation. -/
abbrev ConnectionId := Nat

/-- What a successful negotiation hands over. -/
structure Prepared (D : Type) where
  connection : ConnectionId
  descriptor : D
  protocolVersion : Nat
  deriving Repr, DecidableEq

/-- A new process is connected. Or the launch fails, and its process is gone, or its cleanup
is unconfirmed. -/
inductive Connect where
  | connected
  | failed
  | unreaped
  deriving Repr, DecidableEq

/-- An installation publishes its connection itself, or is the worker of an admission, which
has a deadline. -/
inductive Installer where
  | direct
  | worker
  deriving Repr, DecidableEq

/-- The next section of an installation. -/
inductive InstallPhase (D : Type) where
  | terminateRetiring
  | takeCurrent
  | terminateCurrent
  | checkDeadline
  | connect
  | negotiate (connection : ConnectionId)
  | compareDescriptor (prepared : Prepared D)
  | checkNegotiated (prepared : Prepared D)
  | publish (prepared : Prepared D)
  | awaitDecision (prepared : Prepared D)
  | discard
  | keep
  deriving Repr, DecidableEq

/-- The holder of the lock of the retirement. -/
inductive Holder (D : Type) where
  | free
  | install (installer : Installer) (phase : InstallPhase D)
  | invalidate
  deriving Repr, DecidableEq

/-- What became of the connection that a worker hands over. -/
inductive Offer (D : Type) where
  | none
  | sent (prepared : Prepared D)
  | received
  | accepted
  | dropped
  deriving Repr, DecidableEq

/-- The caller drops its end of the channel, with what is in it. -/
def Offer.closed {D : Type} : Offer D → Offer D
  | .sent _ => .dropped
  | offer => offer

/-- The admission caller waits for its worker, holds what it received, or has published it. -/
inductive Caller (D : Type) where
  | idle
  | waiting
  | checkBudget (prepared : Prepared D)
  | publish (prepared : Prepared D)
  | accept
  deriving Repr, DecidableEq

inductive Worker where
  | finished
  | starting
  | installing
  deriving Repr, DecidableEq

/-- A connection as it was published, with the epoch of its publication. -/
structure Publication (D : Type) where
  prepared : Prepared D
  epoch : Nat
  deriving Repr, DecidableEq

/-- The engine, and what was done so far: the connections created, those whose termination is
confirmed, the negotiations, the connections whose deadline was found to be over, and the
publications. -/
structure HelperEngine (D : Type) where
  connection : Option ConnectionId
  retiringConnection : Option ConnectionId
  descriptor : Option D
  descriptorIsDeferred : Bool
  protocolVersion : Nat
  parameterCacheEpoch : Nat
  holder : Holder D
  worker : Worker
  caller : Caller D
  offer : Offer D
  created : Nat
  terminated : List ConnectionId
  negotiated : List (Prepared D)
  expired : List ConnectionId
  publications : List (Publication D)
  deriving Repr, DecidableEq

/-- What a section of an installation finds out. -/
structure Answers (D : Type) where
  terminated : Bool
  expired : Bool
  connect : Connect
  negotiated : Option (D × Nat)
  deriving Repr, DecidableEq

inductive HelperStep (D : Type) where
  | install
  | invalidate (connection : ConnectionId)
  | hold (answers : Answers D)
  | admitCaller
  | workerReturns (expired : Bool)
  | workerInstalls
  | callerLeaves
  | callerReceives
  | callerChecks (expired : Bool)
  | callerPublishes (expired : Bool)
  | callerAccepts
  | watchdog (connection : ConnectionId) (terminated : Bool)
  deriving Repr, DecidableEq

namespace HelperEngine

variable {D : Type}

/-- An engine before its first launch, with a cached descriptor when it is deferred. -/
def withoutConnection (descriptor : Option D) : HelperEngine D where
  connection := none
  retiringConnection := none
  descriptor := descriptor
  descriptorIsDeferred := descriptor.isSome
  protocolVersion := 0
  parameterCacheEpoch := 0
  holder := .free
  worker := .finished
  caller := .idle
  offer := .none
  created := 0
  terminated := []
  negotiated := []
  expired := []
  publications := []

/-- The installation goes on. -/
def goTo (engine : HelperEngine D) (installer : Installer) (phase : InstallPhase D) :
    HelperEngine D :=
  { engine with holder := .install installer phase }

/-- The installation returns. -/
def unlock (engine : HelperEngine D) (installer : Installer) : HelperEngine D :=
  { engine with
    holder := .free
    worker := if installer = .worker then .finished else engine.worker }

def confirm (engine : HelperEngine D) (connection : ConnectionId) : HelperEngine D :=
  { engine with terminated := connection :: engine.terminated }

/-- Publish, under the locks of the descriptor and of the connection. -/
def publishConnection (engine : HelperEngine D) (prepared : Prepared D) : HelperEngine D :=
  let epoch := saturatingAdd u64Max engine.parameterCacheEpoch 1
  { engine with
    connection := some prepared.connection
    descriptor := some prepared.descriptor
    descriptorIsDeferred := false
    protocolVersion := prepared.protocolVersion
    parameterCacheEpoch := epoch
    publications := engine.publications ++ [⟨prepared, epoch⟩] }

/-- The deadline of a connection was found to be over. -/
def expire (engine : HelperEngine D) (prepared : Prepared D) : HelperEngine D :=
  { engine with expired := prepared.connection :: engine.expired }

/-- Terminate what is retiring, if anything is. Success leads on, failure returns with the
connection still retiring. -/
def terminateRetiring (engine : HelperEngine D) (installer : Installer) (terminated : Bool)
    (next : HelperEngine D → HelperEngine D) : HelperEngine D :=
  match engine.retiringConnection with
  | none => next engine
  | some connection =>
      if terminated then next (engine.confirm connection) else engine.unlock installer

/-- One section of an installation. A direct installation has no deadline. -/
def installNext [DecidableEq D] (engine : HelperEngine D) (installer : Installer)
    (answers : Answers D) : InstallPhase D → Option (HelperEngine D)
  | .terminateRetiring => some <| engine.terminateRetiring installer answers.terminated fun engine =>
      engine.goTo installer .takeCurrent
  | .takeCurrent => some <|
      { engine with
        retiringConnection := engine.connection
        connection := none }.goTo installer .terminateCurrent
  | .terminateCurrent => some <| engine.terminateRetiring installer answers.terminated fun engine =>
      { engine with retiringConnection := none }.goTo installer .checkDeadline
  | .checkDeadline => some <|
      if installer = .worker ∧ answers.expired then engine.unlock installer
      else engine.goTo installer .connect
  | .connect =>
      match answers.connect with
      | .failed => some <| engine.unlock installer
      | .unreaped => some <| { engine with created := engine.created + 1 }.unlock installer
      | .connected => some <|
          { engine with
            created := engine.created + 1
            retiringConnection := some engine.created }.goTo installer (.negotiate engine.created)
  | .negotiate connection =>
      match answers.negotiated with
      | none => some <| engine.goTo installer .discard
      | some greeting =>
          let prepared := ⟨connection, greeting.1, greeting.2⟩
          some <| { engine with negotiated := prepared :: engine.negotiated }.goTo installer
            (.compareDescriptor prepared)
  | .compareDescriptor prepared => some <|
      if engine.descriptorIsDeferred ∧ engine.descriptor ≠ some prepared.descriptor then
        engine.goTo installer .discard
      else engine.goTo installer (.checkNegotiated prepared)
  | .checkNegotiated prepared => some <|
      if installer = .worker ∧ answers.expired then
        (engine.expire prepared).goTo installer .discard
      else engine.goTo installer (.publish prepared)
  | .publish prepared =>
      match installer with
      | .direct => some <| (engine.publishConnection prepared).goTo installer .keep
      | .worker => some <|
          if engine.caller = .waiting then
            { engine with offer := .sent prepared }.goTo installer (.awaitDecision prepared)
          else engine.goTo installer .discard
  | .awaitDecision _ =>
      match engine.offer with
      | .accepted => some <| engine.goTo installer .keep
      | .dropped => some <| engine.goTo installer .discard
      | _ => none
  | .discard => some <| engine.terminateRetiring installer answers.terminated fun engine =>
      { engine with retiringConnection := none }.unlock installer
  | .keep => some <| { engine with retiringConnection := none }.unlock installer

/-- An invalidation withdraws the connection, if it is the current one, and terminates it. -/
def invalidateConnection (engine : HelperEngine D) (connection : ConnectionId) : HelperEngine D :=
  if engine.connection = some connection then
    { engine with
      connection := none
      retiringConnection := some connection
      holder := .invalidate }
  else engine

/-- A step is taken where it can be. -/
def next [DecidableEq D] (engine : HelperEngine D) : HelperStep D → Option (HelperEngine D)
  | .install =>
      match engine.holder with
      | .free => some <| engine.goTo .direct .terminateRetiring
      | _ => none
  | .invalidate connection =>
      match engine.holder with
      | .free => some <| engine.invalidateConnection connection
      | _ => none
  | .hold answers =>
      match engine.holder with
      | .free => none
      | .install installer phase => engine.installNext installer answers phase
      | .invalidate => some <| engine.terminateRetiring .direct answers.terminated fun engine =>
          { engine with retiringConnection := none }.unlock .direct
  | .admitCaller =>
      if engine.caller = .idle ∧ engine.worker = .finished then
        some { engine with caller := .waiting, worker := .starting, offer := .none }
      else none
  | .workerReturns expired =>
      if engine.worker = .starting ∧ (expired || engine.connection.isSome) then
        some { engine with worker := .finished }
      else none
  | .workerInstalls =>
      match engine.holder with
      | .free =>
          if engine.worker = .starting then
            some <| { engine with worker := .installing }.goTo .worker .terminateRetiring
          else none
      | _ => none
  | .callerLeaves =>
      if engine.caller = .waiting then
        some { engine with caller := .idle, offer := engine.offer.closed }
      else none
  | .callerReceives =>
      match engine.offer with
      | .sent prepared =>
          if engine.caller = .waiting then
            some { engine with caller := .checkBudget prepared, offer := .received }
          else none
      | _ => none
  | .callerChecks expired =>
      match engine.caller with
      | .checkBudget prepared => some <|
          if expired then { engine.expire prepared with caller := .idle, offer := .dropped }
          else { engine with caller := .publish prepared }
      | _ => none
  | .callerPublishes expired =>
      match engine.caller with
      | .publish prepared => some <|
          if expired then { engine.expire prepared with caller := .idle, offer := .dropped }
          else { engine.publishConnection prepared with caller := .accept }
      | _ => none
  | .callerAccepts =>
      if engine.caller = .accept then
        some { engine with caller := .idle, offer := .accepted }
      else none
  | .watchdog connection terminated =>
      if connection < engine.created then
        some (if terminated then engine.confirm connection else engine)
      else none

end HelperEngine

end Omnivox.Helpers
