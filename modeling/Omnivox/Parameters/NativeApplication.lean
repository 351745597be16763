import Mathlib
import Omnivox.Foundations.Bounded
import Omnivox.Foundations.Json
import Omnivox.Parameters.Catalogue

/-!
# Receipts of native parameters

A helper reports for each synthesis whether it applied its native parameters: an
applied plan with the identity of its catalogue, or the reason why only common
settings were used. The parameters that the plan masks are listed.
-/

set_option autoImplicit false

namespace Omnivox.Parameters

open Foundations
open Engines (nativeIdentifier nativeText MAX_NATIVE_OPERATIONS)

inductive ApplicationStatus where
  | applied
  | commonOnly
  deriving Repr, DecidableEq

structure NativeApplication where
  status : ApplicationStatus
  planId : Option String
  identity : Option CatalogueIdentity
  maskedParameters : List String
  reason : Option String
  deriving Repr, DecidableEq

/-! ## Documents -/

def ApplicationStatus.toJson : ApplicationStatus → Json
  | .applied => .string "applied"
  | .commonOnly => .string "common_only"

def ApplicationStatus.ofJson (document : Json) : Except JsonError ApplicationStatus := do
  match ← document.asString with
  | "applied" => .ok .applied
  | "common_only" => .ok .commonOnly
  | other => .error (.unknownVariant other)

def CatalogueIdentity.toJson (identity : CatalogueIdentity) : Json :=
  .object [
    ("schema_id", .string identity.schemaId),
    ("profile_id", .string identity.profileId),
    ("catalogue_revision", .string identity.catalogueRevision),
    ("runtime_generation", .number identity.runtimeGeneration)]

def CatalogueIdentity.ofJson (document : Json) : Except JsonError CatalogueIdentity := do
  let members ← document.asObject
  Json.denyUnknown ["schema_id", "profile_id", "catalogue_revision", "runtime_generation"] members
  let schemaId ← Json.required "schema_id" Json.asString members
  let profileId ← Json.required "profile_id" Json.asString members
  let catalogueRevision ← Json.required "catalogue_revision" Json.asString members
  let runtimeGeneration ← Json.required "runtime_generation" (Json.asNumber u64Max) members
  return ⟨schemaId, profileId, catalogueRevision, runtimeGeneration⟩

def stringsToJson (values : List String) : Json := .array (values.map .string)

def stringsOfJson (document : Json) : Except JsonError (List String) := do
  let items ← document.asArray
  items.mapM Json.asString

def NativeApplication.toJson (application : NativeApplication) : Json :=
  .object [
    ("status", application.status.toJson),
    ("plan_id", Json.nullOr .string application.planId),
    ("identity", Json.nullOr CatalogueIdentity.toJson application.identity),
    ("masked_parameters", stringsToJson application.maskedParameters),
    ("reason", Json.nullOr .string application.reason)]

def NativeApplication.ofJson (document : Json) : Except JsonError NativeApplication := do
  let members ← document.asObject
  Json.denyUnknown ["status", "plan_id", "identity", "masked_parameters", "reason"] members
  let status ← Json.required "status" ApplicationStatus.ofJson members
  let planId ← Json.required "plan_id" (Json.nullable Json.asString) members
  let identity ← Json.required "identity" (Json.nullable CatalogueIdentity.ofJson) members
  let maskedParameters ← Json.required "masked_parameters" stringsOfJson members
  let reason ← Json.required "reason" (Json.nullable Json.asString) members
  return ⟨status, planId, identity, maskedParameters, reason⟩

/-! ### Reading what was written -/

theorem stringsOfJson_toJson (values : List String) :
    stringsOfJson (stringsToJson values) = .ok values :=
  @Json.mapM_decode _ Json.asString Json.string values fun _ _ => rfl

theorem ApplicationStatus.ofJson_toJson (status : ApplicationStatus) :
    ofJson status.toJson = .ok status := by
  cases status <;> rfl

/-- The generation is a `u64`. -/
def CatalogueIdentity.InRange (identity : CatalogueIdentity) : Prop :=
  identity.runtimeGeneration ≤ u64Max

theorem CatalogueIdentity.ofJson_toJson {identity : CatalogueIdentity}
    (inRange : identity.InRange) : ofJson identity.toJson = .ok identity := by
  have number : Json.asNumber u64Max (.number identity.runtimeGeneration) =
      .ok identity.runtimeGeneration := if_pos inRange
  unfold ofJson toJson
  simp [Json.asObject, ok_bind, Json.denyUnknown_of_known, Json.required_of_found, number,
    Json.asString]

def NativeApplication.InRange (application : NativeApplication) : Prop :=
  ∀ identity ∈ application.identity, identity.InRange

/-- **An application is read back.** -/
theorem NativeApplication.ofJson_toJson {application : NativeApplication}
    (inRange : application.InRange) : ofJson application.toJson = .ok application := by
  have plan : Json.nullable Json.asString (Json.nullOr Json.string application.planId) =
      .ok application.planId :=
    Json.nullable_nullOr (fun _ same => by cases same) fun _ _ => rfl
  have reason : Json.nullable Json.asString (Json.nullOr Json.string application.reason) =
      .ok application.reason :=
    Json.nullable_nullOr (fun _ same => by cases same) fun _ _ => rfl
  have identity : Json.nullable CatalogueIdentity.ofJson
      (Json.nullOr CatalogueIdentity.toJson application.identity) = .ok application.identity :=
    Json.nullable_nullOr (fun _ same => by cases same)
      fun identity held => CatalogueIdentity.ofJson_toJson (inRange identity held)
  unfold ofJson toJson
  simp [Json.asObject, ok_bind, Json.denyUnknown_of_known, Json.required_of_found, plan, reason,
    identity, ApplicationStatus.ofJson_toJson, stringsOfJson_toJson]

/-! ## Validation -/

namespace NativeApplication

/-- Few distinct identifiers. -/
def ids (values : List String) (max : Nat) : Bool :=
  values.length ≤ max && values.all nativeIdentifier && values.dedup.length = values.length

def validateIdentity (identity : Option CatalogueIdentity) : Except HelperProtocolError Unit :=
  match identity with
  | none => .ok ()
  | some identity => identity.validate.mapError fun _ => .invalidField "identity"

/-- An applied plan has a name and an identity, and anything else a reason. -/
def validateStatus (application : NativeApplication) : Except HelperProtocolError Unit :=
  match application.status with
  | .applied =>
      ensure (application.planId.any nativeIdentifier && application.identity.isSome &&
        application.reason.isNone) (.invalidField "native_application")
  | .commonOnly =>
      ensure (application.planId.isNone && application.maskedParameters.isEmpty &&
        application.reason.any (nativeText 1024)) (.invalidField "native_application")

def validate (application : NativeApplication) : Except HelperProtocolError Unit := do
  ensure (ids application.maskedParameters MAX_NATIVE_OPERATIONS)
    (.invalidField "masked_parameters")
  validateIdentity application.identity
  application.validateStatus
  ensure (application.toJson.size ≤ MAX_CONTROL_PAYLOAD_BYTES)
    (.invalidField "parameter_payload_bytes")

end NativeApplication

end Omnivox.Parameters
