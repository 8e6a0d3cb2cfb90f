import FxStrategyLab.Unattended.SnapshotEvidence
import FxStrategyLab.Library.Interleaving

/-!
# The account snapshot store

This file embeds `V4AccountSnapshotStoreNoPost`.  Four files lie in one directory: the started,
the passed and the failed marker are created in place, so that a reader may see the part of a
marker that has been written, and the evidence is linked from a temporary file, so that it is
there as a whole.  A call is a sequence of file operations, each of which may fail, before or
behind its effect; between two of them other calls make theirs, and the call may crash.
-/

namespace FxStrategyLab.Snapshot

open Library (Json CallProgram CallWorld CallEvent CallThread after)
open Library.Json (loads dumps)

def startedSchema : String := "H11_V4_ACCOUNT_SNAPSHOT_PRODUCER_STARTED_V1"
def passedSchema : String := "H11_V4_ACCOUNT_SNAPSHOT_PRODUCER_PASSED_V1"
def failedSchema : String := "H11_V4_ACCOUNT_SNAPSHOT_PRODUCER_FAILED_V1"
def startedStatus : String := "ACCOUNT_SNAPSHOT_PRODUCER_STARTED_NO_RETRY"
def passedStatus : String := "ACCOUNT_SNAPSHOT_PRODUCER_COMPLETED_NO_POST"
def failedStatus : String := "ACCOUNT_SNAPSHOT_PRODUCER_FAILED_NO_RETRY"

variable (runtime : Runtime)

def withDigest (payload : List (String × Json)) : List (String × Json) :=
  ("artifact_digest", .text (runtime.canonicalDigest payload)) :: payload

/-- The payload of the started marker without its digest, in the order of its keys. -/
def startedPayload (reviewedFilesDigest generationDigest cycleBindingDigest : String)
    (startedAtUtc : Json) : List (String × Json) :=
  [("cycle_binding_digest", .text cycleBindingDigest),
    ("generation_digest", .text generationDigest),
    ("reviewed_files_digest", .text reviewedFilesDigest),
    ("schema", .text startedSchema),
    ("started_at_utc", startedAtUtc),
    ("status", .text startedStatus)]

/-- The payload of the passed marker without its digest, in the order of its keys. -/
def passedPayload (reviewedFilesDigest generationDigest cycleBindingDigest startedMarkerDigest
    evidenceDigest : String) (completedAtUtc : Json) : List (String × Json) :=
  [("broker_get_count", .integer 3),
    ("broker_post_count", .integer 0),
    ("broker_write", .boolean false),
    ("completed_at_utc", completedAtUtc),
    ("cycle_binding_digest", .text cycleBindingDigest),
    ("evidence_digest", .text evidenceDigest),
    ("generation_digest", .text generationDigest),
    ("reviewed_files_digest", .text reviewedFilesDigest),
    ("schema", .text passedSchema),
    ("started_marker_digest", .text startedMarkerDigest),
    ("status", .text passedStatus)]

/-- The phases that `record_failure` knows. -/
def failurePhases : List String :=
  ["CREDENTIAL", "CLIENT", "PRIVATE_GET", "CYCLE", "EVIDENCE", "STORE"]

/-- The payload of the failed marker without its digest, in the order of its keys. -/
def failedPayload (reviewedFilesDigest generationDigest cycleBindingDigest startedMarkerDigest
    failedAtUtc failurePhase : String) : List (String × Json) :=
  [("broker_post_count", .integer 0),
    ("broker_write", .boolean false),
    ("cycle_binding_digest", .text cycleBindingDigest),
    ("failed_at_utc", .text failedAtUtc),
    ("failure_phase", .text (if failurePhase ∈ failurePhases then failurePhase else "UNKNOWN")),
    ("generation_digest", .text generationDigest),
    ("reviewed_files_digest", .text reviewedFilesDigest),
    ("schema", .text failedSchema),
    ("started_marker_digest", .text startedMarkerDigest),
    ("status", .text failedStatus)]

def number? : Json → Option ℚ
  | .boolean b => some (if b then 1 else 0)
  | .integer n => some n
  | .float q => some q
  | _ => none

/-- Python's `==` with a scalar. -/
def ScalarEq : Json → Json → Prop
  | .text s, .text t => s = t
  | .null, .null => True
  | v, w => ∃ q, number? v = some q ∧ number? w = some q

instance (v w : Json) : Decidable (ScalarEq v w) := by
  unfold ScalarEq
  split
  · infer_instance
  · infer_instance
  · exact decidable_of_iff (number? v = number? w ∧ (number? v).isSome = true) (by
      cases number? v <;> simp [eq_comm])

/-- A dictionary equals the expected one, which takes the value of one key from it. -/
def DictEq (payload : List (String × Json)) (own : String) (expected : List (String × Json)) :
    Prop :=
  SameKeys payload (expected.map Prod.fst) ∧
    ∀ entry ∈ expected, entry.1 = own ∨
      ∃ v ∈ field? payload entry.1, ScalarEq v entry.2

instance (payload : List (String × Json)) (own : String) (expected : List (String × Json)) :
    Decidable (DictEq payload own expected) := by
  unfold DictEq
  infer_instance

/-- `payload.get(key)`. -/
def getOrNull (payload : List (String × Json)) (key : String) : Json :=
  (field? payload key).getD .null

/-- Source `_validate_started`. -/
def ValidStarted (payload : List (String × Json))
    (reviewedFilesDigest generationDigest cycleBindingDigest : String) (expectedDigest : Json) :
    Prop :=
  let expected := startedPayload reviewedFilesDigest generationDigest cycleBindingDigest
    (getOrNull payload "started_at_utc")
  DictEq payload "started_at_utc" (withDigest runtime expected) ∧
    ∃ digest ∈ asText expectedDigest, ScalarEq (getOrNull payload "artifact_digest") (.text digest)

instance (runtime : Runtime) (payload : List (String × Json))
    (reviewedFilesDigest generationDigest cycleBindingDigest : String) (expectedDigest : Json) :
    Decidable (ValidStarted runtime payload reviewedFilesDigest generationDigest
      cycleBindingDigest expectedDigest) := by
  unfold ValidStarted
  infer_instance

/-- The part of `load_completed` behind the reading of the files. -/
def loadDecision (expectedReviewedFilesDigest expectedGenerationDigest : String)
    (started passed evidencePayload : List (String × Json)) :
    Except String (BoundEvidence runtime) :=
  match decodeEvidence runtime evidencePayload with
  | none => .error "ACCOUNT_SNAPSHOT_PRODUCER_EVIDENCE_INVALID"
  | some evidence =>
      let startedDigest := getOrNull started "artifact_digest"
      if ¬ ValidStarted runtime started expectedReviewedFilesDigest expectedGenerationDigest
          evidence.fields.cycleBindingDigest startedDigest then
        .error "ACCOUNT_SNAPSHOT_PRODUCER_STARTED_INVALID"
      else if ¬ DictEq passed "completed_at_utc" (withDigest runtime (passedPayload
          expectedReviewedFilesDigest expectedGenerationDigest
          evidence.fields.cycleBindingDigest ((asText startedDigest).getD "")
          evidence.fields.artifactDigest (getOrNull passed "completed_at_utc"))) then
        .error "ACCOUNT_SNAPSHOT_PRODUCER_PASSED_INVALID"
      else if evidence.fields.reviewedFilesDigest ≠ expectedReviewedFilesDigest ∨
          evidence.fields.generationDigest ≠ expectedGenerationDigest then
        .error "ACCOUNT_SNAPSHOT_PRODUCER_BINDING_INVALID"
      else .ok evidence

/-- The files of the store, `_FILENAMES`. -/
inductive FileName
  | started
  | passed
  | failed
  | evidence
deriving DecidableEq

/-- A file: the call that created it, by its number, and what has been written of it. -/
structure File where
  creator : Nat
  content : List Char

abbrev Files := FileName → Option File

def Files.put (files : Files) (name : FileName) (file : File) : Files :=
  Function.update files name (some file)

/-- What `_load_json` returns of a file. -/
def readJson (file : Option File) : Option (List (String × Json)) :=
  file.bind fun f => (loads runtime.floats f.content).bind asObject

inductive Call (runtime : Runtime)
  | begin (reviewedFilesDigest generationDigest cycleBindingDigest startedAtUtc : String)
  | complete (evidence : BoundEvidence runtime) (startedMarkerDigest completedAtUtc : String)
  | recordFailure (reviewedFilesDigest generationDigest cycleBindingDigest startedMarkerDigest
      failedAtUtc failurePhase : String)
  | loadCompleted (expectedReviewedFilesDigest expectedGenerationDigest : String)

/-- What a call returns or raises. -/
inductive Result (runtime : Runtime)
  | began (digest : String)
  | completed
  | recorded
  | loaded (evidence : Option (BoundEvidence runtime))
  | raised (error : String)

/-- The next file operation of a call, or its result. -/
inductive Point (runtime : Runtime)
  | openingDirectory
  | readingStarted
  | lookingFailed
  | lookingPassed
  | lookingEvidence
  | staging
  | linking
  | syncingEvidence
  | creating
  | writing (written : Nat)
  | syncing
  | lookingAny (rest : List FileName)
  | lookingFailure
  | lookingFiles (rest : List FileName)
  | loadingStarted
  | loadingPassed (started : List (String × Json))
  | loadingEvidence (started passed : List (String × Json))
  | returned (result : Result runtime)

/-- A call and where it is. -/
structure Running (runtime : Runtime) where
  call : Call runtime
  point : Point runtime

/-- How a file operation goes: it succeeds, it fails before or behind its effect, or, for a
write, some more characters are written. -/
inductive Fate
  | succeeds
  | fails
  | failsBehind
  | writes (count : Nat)

section Store

variable {runtime : Runtime}

namespace Call

/-- The marker that the call creates with `_write_once`. -/
def marker : Call runtime → FileName
  | .begin .. => .started
  | .complete .. => .passed
  | .recordFailure .. => .failed
  | .loadCompleted .. => .evidence

def payloadFor : Call runtime → FileName → List (String × Json)
  | .begin reviewed generation cycle startedAt, _ =>
      withDigest runtime (startedPayload reviewed generation cycle (.text startedAt))
  | .complete evidence _ _, .evidence => evidence.fields.fields
  | .complete evidence digest completedAt, _ =>
      withDigest runtime (passedPayload evidence.fields.reviewedFilesDigest
        evidence.fields.generationDigest evidence.fields.cycleBindingDigest digest
        evidence.fields.artifactDigest (.text completedAt))
  | .recordFailure reviewed generation cycle digest failedAt phase, _ =>
      withDigest runtime (failedPayload reviewed generation cycle digest failedAt phase)
  | .loadCompleted .., _ => []

def textFor (call : Call runtime) (name : FileName) : List Char :=
  dumps runtime.floats (.object (call.payloadFor name)) ++ ['\n']

/-- What the call returns behind its `_write_once`. -/
def success (call : Call runtime) : Result runtime :=
  match call with
  | .begin reviewed generation cycle startedAt =>
      .began (runtime.canonicalDigest
        (startedPayload reviewed generation cycle (.text startedAt)))
  | .complete .. => .completed
  | .recordFailure .. => .recorded
  | .loadCompleted .. => .loaded none

/-- An error of the store: `record_failure` swallows it. -/
def refuse (call : Call runtime) (error : String) : Point runtime :=
  match call with
  | .recordFailure .. => .returned .recorded
  | _ => .returned (.raised error)

end Call

/-- Where a call begins. -/
def enter (call : Call runtime) : Running runtime :=
  ⟨call,
    match call with
    | .begin .. => .openingDirectory
    | .complete .. => .readingStarted
    | .recordFailure .. => .creating
    | .loadCompleted .. => .lookingAny [.started, .passed, .failed, .evidence]⟩

/-- A file operation that succeeds: the point behind it and the files. -/
def act (n : Nat) (call : Call runtime) (point : Point runtime) (files : Files) :
    Point runtime × Files :=
  match point with
  | .openingDirectory => (.creating, files)
  | .readingStarted =>
      match call, readJson runtime (files .started) with
      | .complete evidence digest _, some started =>
          if ValidStarted runtime started evidence.fields.reviewedFilesDigest
              evidence.fields.generationDigest evidence.fields.cycleBindingDigest
              (.text digest) then (.lookingFailed, files)
          else (call.refuse "ACCOUNT_SNAPSHOT_PRODUCER_STARTED_INVALID", files)
      | _, _ => (call.refuse "ACCOUNT_SNAPSHOT_PRODUCER_ARTIFACT_INVALID", files)
  | .lookingFailed =>
      if (files .failed).isSome = true then
        (call.refuse "ACCOUNT_SNAPSHOT_PRODUCER_ALREADY_TERMINAL", files)
      else (.lookingPassed, files)
  | .lookingPassed =>
      if (files .passed).isSome = true then
        (call.refuse "ACCOUNT_SNAPSHOT_PRODUCER_ALREADY_TERMINAL", files)
      else (.lookingEvidence, files)
  | .lookingEvidence =>
      if (files .evidence).isSome = true then
        (call.refuse "ACCOUNT_SNAPSHOT_PRODUCER_ARTIFACT_ALREADY_EXISTS", files)
      else (.staging, files)
  | .staging => (.linking, files)
  | .linking =>
      if (files .evidence).isSome = true then
        (call.refuse "ACCOUNT_SNAPSHOT_PRODUCER_ARTIFACT_WRITE_FAILED", files)
      else (.syncingEvidence, files.put .evidence ⟨n, call.textFor .evidence⟩)
  | .syncingEvidence => (.creating, files)
  | .creating =>
      if (files call.marker).isSome = true then
        (call.refuse "ACCOUNT_SNAPSHOT_PRODUCER_ALREADY_ATTEMPTED", files)
      else (.writing 0, files.put call.marker ⟨n, []⟩)
  | .writing _ => (.syncing, files.put call.marker ⟨n, call.textFor call.marker⟩)
  | .syncing => (.returned call.success, files)
  | .lookingAny [] => (.returned (.loaded none), files)
  | .lookingAny (name :: rest) =>
      if (files name).isSome = true then (.lookingFailure, files) else (.lookingAny rest, files)
  | .lookingFailure =>
      if (files .failed).isSome = true then
        (.returned (.raised "ACCOUNT_SNAPSHOT_PRODUCER_FAILED_NO_RETRY"), files)
      else (.lookingFiles [.started, .passed, .evidence], files)
  | .lookingFiles [] => (.loadingStarted, files)
  | .lookingFiles (name :: rest) =>
      if (files name).isSome = true then (.lookingFiles rest, files)
      else (.returned (.raised "ACCOUNT_SNAPSHOT_PRODUCER_INCOMPLETE_NO_RETRY"), files)
  | .loadingStarted =>
      match readJson runtime (files .started) with
      | some started => (.loadingPassed started, files)
      | none => (.returned (.raised "ACCOUNT_SNAPSHOT_PRODUCER_ARTIFACT_INVALID"), files)
  | .loadingPassed started =>
      match readJson runtime (files .passed) with
      | some passed => (.loadingEvidence started passed, files)
      | none => (.returned (.raised "ACCOUNT_SNAPSHOT_PRODUCER_ARTIFACT_INVALID"), files)
  | .loadingEvidence started passed =>
      match call, readJson runtime (files .evidence) with
      | .loadCompleted reviewed generation, some payload =>
          match loadDecision runtime reviewed generation started passed payload with
          | .ok evidence => (.returned (.loaded (some evidence)), files)
          | .error error => (.returned (.raised error), files)
      | _, _ => (.returned (.raised "ACCOUNT_SNAPSHOT_PRODUCER_ARTIFACT_INVALID"), files)
  | .returned result => (.returned result, files)

/-- What a failing file operation makes of a call. -/
def failure (call : Call runtime) : Point runtime → Point runtime
  | .readingStarted => call.refuse "ACCOUNT_SNAPSHOT_PRODUCER_ARTIFACT_INVALID"
  | .loadingStarted => call.refuse "ACCOUNT_SNAPSHOT_PRODUCER_ARTIFACT_INVALID"
  | .loadingPassed _ => call.refuse "ACCOUNT_SNAPSHOT_PRODUCER_ARTIFACT_INVALID"
  | .loadingEvidence _ _ => call.refuse "ACCOUNT_SNAPSHOT_PRODUCER_ARTIFACT_INVALID"
  | .linking => call.refuse "ACCOUNT_SNAPSHOT_PRODUCER_ARTIFACT_WRITE_FAILED"
  | .syncingEvidence => call.refuse "ACCOUNT_SNAPSHOT_PRODUCER_ARTIFACT_WRITE_FAILED"
  | .creating => call.refuse "ACCOUNT_SNAPSHOT_PRODUCER_MARKER_WRITE_FAILED"
  | .writing _ => call.refuse "ACCOUNT_SNAPSHOT_PRODUCER_MARKER_WRITE_FAILED"
  | .syncing => call.refuse "ACCOUNT_SNAPSHOT_PRODUCER_MARKER_WRITE_FAILED"
  | .returned result => .returned result
  | _ => .returned (.raised "OSError")

/-- A step of a call: its next file operation under a fate. -/
def move (n : Nat) (fate : Fate) (running : Running runtime) (files : Files) :
    Running runtime × Files :=
  match fate, running.point with
  | .succeeds, point => (⟨running.call, (act n running.call point files).1⟩,
      (act n running.call point files).2)
  | .fails, point => (⟨running.call, failure running.call point⟩, files)
  | .failsBehind, point => (⟨running.call, failure running.call point⟩,
      (act n running.call point files).2)
  | .writes count, .writing written =>
      (⟨running.call, .writing (written + count)⟩, files.put running.call.marker
        ⟨n, (running.call.textFor running.call.marker).take (written + count)⟩)
  | .writes _, _ => (running, files)

/-- Source `V4AccountSnapshotStoreNoPost`, by the file operations of its calls; a crash leaves
the files as they are. -/
def store (runtime : Runtime) : CallProgram (Call runtime) (Running runtime) Files Fate where
  enter := enter
  move := move
  crash _ _ files := files

abbrev runFrom (runtime : Runtime) (events : List (CallEvent (Call runtime) Fate)) :
    CallWorld Files (Running runtime) :=
  after (store runtime).step ⟨fun _ => none, []⟩ events

end Store

end FxStrategyLab.Snapshot
