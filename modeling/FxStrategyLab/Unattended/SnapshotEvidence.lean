import FxStrategyLab.Contracts
import FxStrategyLab.Library.JsonPrefix

/-!
# The account snapshot evidence

This file embeds `h11_v4_unattended_account_snapshot_evidence_no_post.py` and the decoder of
`h11_v4_unattended_account_snapshot_store_no_post.py`.  A marker and an evidence are values that
have passed the checks of their constructors.

**Results.** `decodeEvidence_fields`: what is written of an evidence is decoded as it.
-/

namespace FxStrategyLab

open Library.Json (FloatText dumps)
open Library (Json)

namespace Snapshot

/-- What the evidence takes from the standard library: the hash, the texts of floats and
`datetime.fromisoformat`, with the offset of an aware time. -/
structure Runtime where
  sha : Sha256
  floats : FloatText
  fromisoformat : String → Option (Instant × Option Int)

variable (runtime : Runtime)

/-- Source `_canonical_digest` of the fields of a payload, in the order of their keys. -/
def Runtime.canonicalDigest (fields : List (String × Json)) : String :=
  String.ofList (runtime.sha.prefixed (plainText (dumps runtime.floats (.object fields))))

/-- Source `_parse_utc`: an aware time in UTC. -/
def Runtime.parseUtc (value : String) : Option Instant :=
  match runtime.fromisoformat value with
  | some (instant, some 0) => some instant
  | _ => none

/-- Source `_SHA256.fullmatch`. -/
def isSha256 (value : String) : Bool :=
  validDigest value.toList

/-- The fields of `V4AccountSnapshotOperationMarkerNoPost`. -/
structure MarkerFields where
  schema : String
  reviewedFilesDigest : String
  generationDigest : String
  cycleBindingDigest : String
  observedAtUtc : String
  validUntilUtc : String
  status : String
  brokerReadPerformed : Bool
  brokerGetCount : Int
  openPositionsCount : Int
  activeOrdersCount : Int
  brokerWrite : Bool
  brokerPostCount : Int
  artifactDigest : String

def markerSchema : String := "H11_V4_ACCOUNT_SNAPSHOT_OPERATION_MARKER_NO_POST_V1"

def markerStatus : String := "ACCOUNT_SNAPSHOT_GET_OPERATION_COMPLETED_NO_POST"

namespace MarkerFields

variable (marker : MarkerFields)

/-- `asdict(marker)` without its digest, in the order of the keys. -/
def payload : List (String × Json) :=
  [("active_orders_count", .integer marker.activeOrdersCount),
    ("broker_get_count", .integer marker.brokerGetCount),
    ("broker_post_count", .integer marker.brokerPostCount),
    ("broker_read_performed", .boolean marker.brokerReadPerformed),
    ("broker_write", .boolean marker.brokerWrite),
    ("cycle_binding_digest", .text marker.cycleBindingDigest),
    ("generation_digest", .text marker.generationDigest),
    ("observed_at_utc", .text marker.observedAtUtc),
    ("open_positions_count", .integer marker.openPositionsCount),
    ("reviewed_files_digest", .text marker.reviewedFilesDigest),
    ("schema", .text marker.schema),
    ("status", .text marker.status),
    ("valid_until_utc", .text marker.validUntilUtc)]

/-- `asdict(marker)`, in the order of the keys. -/
def fields : List (String × Json) :=
  [("active_orders_count", .integer marker.activeOrdersCount),
    ("artifact_digest", .text marker.artifactDigest)] ++ marker.payload.tail

/-- Source `_validate_marker_shape`. -/
def ShapeValid (runtime : Runtime) : Prop :=
  marker.schema = markerSchema ∧ marker.status = markerStatus ∧
    (∀ value ∈ [marker.reviewedFilesDigest, marker.generationDigest, marker.cycleBindingDigest,
      marker.artifactDigest], isSha256 value = true) ∧
    marker.artifactDigest = runtime.canonicalDigest marker.payload ∧
    marker.brokerReadPerformed = true ∧ marker.brokerGetCount = 3 ∧
    0 ≤ marker.openPositionsCount ∧ 0 ≤ marker.activeOrdersCount ∧
    marker.brokerWrite = false ∧ marker.brokerPostCount = 0 ∧
    (runtime.parseUtc marker.observedAtUtc).isSome = true ∧
    (runtime.parseUtc marker.validUntilUtc).isSome = true

instance (runtime : Runtime) : Decidable (marker.ShapeValid runtime) := by
  unfold ShapeValid
  infer_instance

end MarkerFields

/-- The fields of `V4BoundAccountSnapshotEvidenceNoPost`. -/
structure EvidenceFields where
  schema : String
  reviewedFilesDigest : String
  generationDigest : String
  cycleBindingDigest : String
  operationMarker : MarkerFields
  observedAtUtc : String
  validUntilUtc : String
  status : String
  brokerReadPerformed : Bool
  brokerGetCount : Int
  openPositionsCount : Int
  activeOrdersCount : Int
  accountFlat : Bool
  activeOrdersZero : Bool
  rawResponseRetained : Bool
  identifierExposed : Bool
  brokerWrite : Bool
  brokerPostCount : Int
  artifactDigest : String

def evidenceSchema : String := "H11_V4_UNATTENDED_ACCOUNT_SNAPSHOT_EVIDENCE_NO_POST_V1"

def evidenceStatus : String := "ACCOUNT_SNAPSHOT_OBSERVED_READ_ONLY_NO_POST"

namespace EvidenceFields

variable (evidence : EvidenceFields)

/-- `asdict(evidence)` from its marker on, in the order of the keys. -/
def laterFields : List (String × Json) :=
  [("broker_get_count", .integer evidence.brokerGetCount),
    ("broker_post_count", .integer evidence.brokerPostCount),
    ("broker_read_performed", .boolean evidence.brokerReadPerformed),
    ("broker_write", .boolean evidence.brokerWrite),
    ("cycle_binding_digest", .text evidence.cycleBindingDigest),
    ("generation_digest", .text evidence.generationDigest),
    ("identifier_exposed", .boolean evidence.identifierExposed),
    ("observed_at_utc", .text evidence.observedAtUtc),
    ("open_positions_count", .integer evidence.openPositionsCount),
    ("operation_marker", .object evidence.operationMarker.fields),
    ("raw_response_retained", .boolean evidence.rawResponseRetained),
    ("reviewed_files_digest", .text evidence.reviewedFilesDigest),
    ("schema", .text evidence.schema),
    ("status", .text evidence.status),
    ("valid_until_utc", .text evidence.validUntilUtc)]

/-- `asdict(evidence)` without its digest, in the order of the keys. -/
def payload : List (String × Json) :=
  [("account_flat", .boolean evidence.accountFlat),
    ("active_orders_count", .integer evidence.activeOrdersCount),
    ("active_orders_zero", .boolean evidence.activeOrdersZero)] ++ evidence.laterFields

/-- `asdict(evidence)`, in the order of the keys. -/
def fields : List (String × Json) :=
  [("account_flat", .boolean evidence.accountFlat),
    ("active_orders_count", .integer evidence.activeOrdersCount),
    ("active_orders_zero", .boolean evidence.activeOrdersZero),
    ("artifact_digest", .text evidence.artifactDigest)] ++ evidence.laterFields

/-- Source `_validate_shape`. -/
def ShapeValid (runtime : Runtime) : Prop :=
  evidence.schema = evidenceSchema ∧ evidence.status = evidenceStatus ∧
    (∀ value ∈ [evidence.reviewedFilesDigest, evidence.generationDigest,
      evidence.cycleBindingDigest, evidence.artifactDigest], isSha256 value = true) ∧
    evidence.artifactDigest = runtime.canonicalDigest evidence.payload ∧
    evidence.operationMarker.reviewedFilesDigest = evidence.reviewedFilesDigest ∧
    evidence.operationMarker.generationDigest = evidence.generationDigest ∧
    evidence.operationMarker.cycleBindingDigest = evidence.cycleBindingDigest ∧
    evidence.operationMarker.observedAtUtc = evidence.observedAtUtc ∧
    evidence.operationMarker.validUntilUtc = evidence.validUntilUtc ∧
    evidence.operationMarker.brokerReadPerformed = evidence.brokerReadPerformed ∧
    evidence.operationMarker.brokerGetCount = evidence.brokerGetCount ∧
    evidence.operationMarker.openPositionsCount = evidence.openPositionsCount ∧
    evidence.operationMarker.activeOrdersCount = evidence.activeOrdersCount ∧
    evidence.brokerReadPerformed = true ∧ evidence.brokerGetCount = 3 ∧
    0 ≤ evidence.openPositionsCount ∧ 0 ≤ evidence.activeOrdersCount ∧
    evidence.accountFlat = decide (evidence.openPositionsCount = 0) ∧
    evidence.activeOrdersZero = decide (evidence.activeOrdersCount = 0) ∧
    evidence.rawResponseRetained = false ∧ evidence.identifierExposed = false ∧
    evidence.brokerWrite = false ∧ evidence.brokerPostCount = 0 ∧
    (runtime.parseUtc evidence.observedAtUtc).isSome = true ∧
    (runtime.parseUtc evidence.validUntilUtc).isSome = true

instance (runtime : Runtime) : Decidable (evidence.ShapeValid runtime) := by
  unfold ShapeValid
  infer_instance

end EvidenceFields

/-- Source `V4BoundAccountSnapshotEvidenceNoPost`: fields that `__post_init__` accepts, with a
marker that its own accepts. -/
structure BoundEvidence (runtime : Runtime) where
  fields : EvidenceFields
  marker_valid : fields.operationMarker.ShapeValid runtime
  shape_valid : fields.ShapeValid runtime

/-- The digest that `build_account_snapshot_operation_marker_no_post` puts into a marker. -/
def MarkerFields.withArtifactDigest (marker : MarkerFields) : MarkerFields :=
  { marker with artifactDigest := runtime.canonicalDigest marker.payload }

/-- The digest that `build_bound_account_snapshot_evidence_no_post` puts into an evidence. -/
def EvidenceFields.withArtifactDigest (evidence : EvidenceFields) :
    EvidenceFields :=
  { evidence with artifactDigest := runtime.canonicalDigest evidence.payload }

theorem MarkerFields.artifactDigest_eq (marker : MarkerFields) :
    (marker.withArtifactDigest runtime).artifactDigest =
      runtime.canonicalDigest (marker.withArtifactDigest runtime).payload :=
  rfl

theorem EvidenceFields.artifactDigest_eq (evidence : EvidenceFields) :
    (evidence.withArtifactDigest runtime).artifactDigest =
      runtime.canonicalDigest (evidence.withArtifactDigest runtime).payload :=
  rfl

theorem isSha256_canonicalDigest (fields : List (String × Json)) :
    isSha256 (runtime.canonicalDigest fields) = true := by
  simp [isSha256, Runtime.canonicalDigest]

variable (fields : List (String × Json))

def field? (key : String) : Option Json :=
  fields.reverse.lookup key

def SameKeys (expected : List String) : Prop :=
  (∀ key ∈ fields.map Prod.fst, key ∈ expected) ∧ ∀ key ∈ expected, key ∈ fields.map Prod.fst
deriving Decidable

def asText : Json → Option String
  | .text s => some s
  | _ => none

def asInt : Json → Option Int
  | .integer n => some n
  | _ => none

def asBool : Json → Option Bool
  | .boolean b => some b
  | _ => none

def asObject : Json → Option (List (String × Json))
  | .object fields => some fields
  | _ => none

def textField (key : String) : Option String :=
  (field? fields key).bind asText

def intField (key : String) : Option Int :=
  (field? fields key).bind asInt

def boolField (key : String) : Option Bool :=
  (field? fields key).bind asBool

def markerKeys : List String :=
  ["schema", "reviewed_files_digest", "generation_digest", "cycle_binding_digest",
    "observed_at_utc", "valid_until_utc", "status", "broker_read_performed", "broker_get_count",
    "open_positions_count", "active_orders_count", "broker_write", "broker_post_count",
    "artifact_digest"]

def expectedEvidenceKeys : List String :=
  ["schema", "reviewed_files_digest", "generation_digest", "cycle_binding_digest",
    "operation_marker", "observed_at_utc", "valid_until_utc", "status", "broker_read_performed",
    "broker_get_count", "open_positions_count", "active_orders_count", "account_flat",
    "active_orders_zero", "raw_response_retained", "identifier_exposed", "broker_write",
    "broker_post_count", "artifact_digest"]

def readMarker (payload : List (String × Json)) : Option MarkerFields := do
  return {
    schema := ← textField payload "schema"
    reviewedFilesDigest := ← textField payload "reviewed_files_digest"
    generationDigest := ← textField payload "generation_digest"
    cycleBindingDigest := ← textField payload "cycle_binding_digest"
    observedAtUtc := ← textField payload "observed_at_utc"
    validUntilUtc := ← textField payload "valid_until_utc"
    status := ← textField payload "status"
    brokerReadPerformed := ← boolField payload "broker_read_performed"
    brokerGetCount := ← intField payload "broker_get_count"
    openPositionsCount := ← intField payload "open_positions_count"
    activeOrdersCount := ← intField payload "active_orders_count"
    brokerWrite := ← boolField payload "broker_write"
    brokerPostCount := ← intField payload "broker_post_count"
    artifactDigest := ← textField payload "artifact_digest" }

/-- The fields of an evidence with its marker, each of the type that its check asks for. -/
def readEvidence (payload : List (String × Json)) (marker : MarkerFields) :
    Option EvidenceFields := do
  return {
    schema := ← textField payload "schema"
    reviewedFilesDigest := ← textField payload "reviewed_files_digest"
    generationDigest := ← textField payload "generation_digest"
    cycleBindingDigest := ← textField payload "cycle_binding_digest"
    operationMarker := marker
    observedAtUtc := ← textField payload "observed_at_utc"
    validUntilUtc := ← textField payload "valid_until_utc"
    status := ← textField payload "status"
    brokerReadPerformed := ← boolField payload "broker_read_performed"
    brokerGetCount := ← intField payload "broker_get_count"
    openPositionsCount := ← intField payload "open_positions_count"
    activeOrdersCount := ← intField payload "active_orders_count"
    accountFlat := ← boolField payload "account_flat"
    activeOrdersZero := ← boolField payload "active_orders_zero"
    rawResponseRetained := ← boolField payload "raw_response_retained"
    identifierExposed := ← boolField payload "identifier_exposed"
    brokerWrite := ← boolField payload "broker_write"
    brokerPostCount := ← intField payload "broker_post_count"
    artifactDigest := ← textField payload "artifact_digest" }

def construct (fields : EvidenceFields) : Option (BoundEvidence runtime) :=
  if hmarker : fields.operationMarker.ShapeValid runtime then
    if hshape : fields.ShapeValid runtime then some ⟨fields, hmarker, hshape⟩ else none
  else none

def decodeEvidence (payload : List (String × Json)) :
    Option (BoundEvidence runtime) := do
  let markerPayload ← (field? payload "operation_marker").bind asObject
  guard (SameKeys payload expectedEvidenceKeys)
  guard (SameKeys markerPayload markerKeys)
  construct runtime (← readEvidence payload (← readMarker markerPayload))

section RoundTrip

variable {runtime : Runtime}

theorem readMarker_fields (marker : MarkerFields) : readMarker marker.fields = some marker := by
  simp [readMarker, MarkerFields.fields, MarkerFields.payload, textField, intField, boolField,
    field?, List.lookup, asText, asInt, asBool]

theorem readEvidence_fields (evidence : EvidenceFields) :
    readEvidence evidence.fields evidence.operationMarker = some evidence := by
  simp [readEvidence, EvidenceFields.fields, EvidenceFields.laterFields, textField, intField,
    boolField, field?, List.lookup, asText, asInt, asBool]

theorem construct_fields (evidence : BoundEvidence runtime) :
    construct runtime evidence.fields = some evidence := by
  simp [construct, evidence.marker_valid, evidence.shape_valid]

/-- **What is written of an evidence is decoded as it.** -/
theorem decodeEvidence_fields (evidence : BoundEvidence runtime) :
    decodeEvidence runtime evidence.fields.fields = some evidence := by
  have hmarker : field? evidence.fields.fields "operation_marker" =
      some (.object evidence.fields.operationMarker.fields) := by
    simp [field?, EvidenceFields.fields, EvidenceFields.laterFields, List.lookup]
  have hkeys : SameKeys evidence.fields.fields expectedEvidenceKeys := by
    simp [SameKeys, EvidenceFields.fields, EvidenceFields.laterFields, expectedEvidenceKeys]
  have hmarkerKeys : SameKeys evidence.fields.operationMarker.fields markerKeys := by
    simp [SameKeys, MarkerFields.fields, MarkerFields.payload, markerKeys]
  simp [decodeEvidence, hmarker, asObject, hkeys, hmarkerKeys, readMarker_fields,
    readEvidence_fields, construct_fields, guard]

end RoundTrip

end Snapshot
end FxStrategyLab
