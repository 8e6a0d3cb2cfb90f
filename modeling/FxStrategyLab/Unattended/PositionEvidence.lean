import FxStrategyLab.Session.Cooldown
import FxStrategyLab.Unattended.SnapshotAlone

/-!
# The position evidence and its snapshot

This file embeds `h11_v4_g065_position_reconciliation_no_post.py` and the bridge that writes its
file from an account snapshot.  The bridge accepts a snapshot until its `valid_slackutc` and
writes the time of the copy, not that of the observation; the loader accepts a copy until its
own age limit.  What a load reports is then at most as old as both limits together.

**Results.** `position_evidence_bounded`: how long evidence outlives its snapshot.
-/

namespace FxStrategyLab.Snapshot

open Library (after)

/-- Source `validate_bound_account_snapshot_evidence_no_post`, for the bindings of the evidence
and an aware time. -/
def validateBound (runtime : Runtime) (evidence : BoundEvidence runtime)
    (expectedReviewedFilesDigest expectedGenerationDigest expectedCycleBindingDigest : String)
    (nowUtc : Instant) : Except String Unit :=
  if evidence.fields.reviewedFilesDigest ≠ expectedReviewedFilesDigest ∨
      evidence.fields.generationDigest ≠ expectedGenerationDigest ∨
      evidence.fields.cycleBindingDigest ≠ expectedCycleBindingDigest then
    .error "BOUND_ACCOUNT_SNAPSHOT_BINDING_INVALID"
  else
    match runtime.parseUtc evidence.fields.observedAtUtc,
        runtime.parseUtc evidence.fields.validUntilUtc with
    | some observed, some validUntil =>
        if nowUtc < observed ∨ validUntil < nowUtc ∨ validUntil ≤ observed ∨
            wallSeconds 60 < validUntil - observed then
          .error "BOUND_ACCOUNT_SNAPSHOT_NOT_FRESH"
        else .ok ()
    | _, _ => .error "BOUND_ACCOUNT_SNAPSHOT_CLOCK_INVALID"

/-- Source `G065PositionReconciliationEvidence`. -/
structure PositionReconciliationEvidence where
  positionOpen : Bool
  protectionConfirmed : Bool
  ownershipExact : Bool
  quantityMatches : Bool
  generationBound : Bool
  evidenceAvailable : Bool := false
  evidenceFresh : Bool := false

def unknown : PositionReconciliationEvidence :=
  ⟨false, false, false, false, false, false, false⟩

/-- The file `position-reconciliation.json`, which is replaced as a whole. -/
structure PositionFile where
  generationDigest : String
  observedAtUtc : Instant
  positionOpen : Bool
  protectionConfirmed : Bool
  ownershipExact : Bool
  quantityMatches : Bool
  generationBound : Bool

/-- The snapshot directories and the state roots. -/
structure Evidences (δ ρ : Type) where
  snapshots : δ → Files
  positions : ρ → Option PositionFile

/-- How a write of the position file goes. -/
inductive WriteFate
  | succeeds
  | fails
deriving DecidableEq

def writableDigest (generationDigest : String) : Bool :=
  generationDigest.length == 71 && generationDigest.startsWith "sha256:"

section Bridge

variable {δ ρ : Type} [DecidableEq δ] [DecidableEq ρ] (runtime : Runtime)

/-- A call of the bridge. -/
structure Materialize (δ ρ : Type) where
  stateRoot : ρ
  generationDigest : String
  reviewedFilesDigest : String
  nowUtc : Option Instant
  snapshotStateRoot : δ
  fate : WriteFate

def positionFile {runtime : Runtime} (evidence : BoundEvidence runtime)
    (generationDigest : String) (observed : Instant) : PositionFile where
  generationDigest := generationDigest
  observedAtUtc := observed
  positionOpen := !(evidence.fields.accountFlat && evidence.fields.activeOrdersZero)
  protectionConfirmed := false
  ownershipExact := false
  quantityMatches := false
  generationBound := true

variable (evidences : Evidences δ ρ)

/-- Source `write_g065_position_reconciliation_no_post`, on a file of the bridge. -/
def writePosition (stateRoot : ρ) (file : PositionFile)
    (fate : WriteFate) : Except String Unit × Evidences δ ρ :=
  if writableDigest file.generationDigest = false then
    (.error "G065_POSITION_EVIDENCE_INPUT_INVALID", evidences)
  else if fate = .fails then (.error "G065_POSITION_EVIDENCE_WRITE_FAILED", evidences)
  else (.ok (), { evidences with
    positions := Function.update evidences.positions stateRoot (some file) })

/-- Source `materialize_g065_position_reconciliation_no_post`. -/
def materialize (call : Materialize δ ρ) :
    Except String (Option PositionReconciliationEvidence) × Evidences δ ρ :=
  match call.nowUtc with
  | none => (.ok none, evidences)
  | some now =>
      match loadCompleted runtime (evidences.snapshots call.snapshotStateRoot)
          call.reviewedFilesDigest call.generationDigest with
      | .loaded (some evidence) =>
          match validateBound runtime evidence call.reviewedFilesDigest call.generationDigest
              evidence.fields.cycleBindingDigest now with
          | .error error => (.error error, evidences)
          | .ok () =>
              let file := positionFile evidence call.generationDigest now
              match writePosition evidences call.stateRoot file call.fate with
              | (.error error, later) => (.error error, later)
              | (.ok (), later) => (.ok (some
                  ⟨file.positionOpen, false, false, false, true, true, true⟩), later)
      | .raised error => (.error error, evidences)
      | _ => (.ok none, evidences)

/-- Source `load_g065_position_reconciliation_no_post`. -/
def loadPosition (stateRoot : ρ) (generationDigest : String)
    (nowUtc : Instant) (maximumAgeSeconds : Int) :
    Except String PositionReconciliationEvidence :=
  if maximumAgeSeconds ≤ 0 then .error "G065_POSITION_EVIDENCE_AGE_INVALID"
  else
    match evidences.positions stateRoot with
    | none => .ok unknown
    | some file =>
        if file.generationDigest ≠ generationDigest then .ok unknown
        else if nowUtc - file.observedAtUtc < 0 ∨
            wallSeconds maximumAgeSeconds < nowUtc - file.observedAtUtc then .ok unknown
        else .ok ⟨file.positionOpen, file.protectionConfirmed, file.ownershipExact,
          file.quantityMatches, file.generationBound, true, true⟩

/-- What happens: the files of a snapshot directory become others, or the bridge is called. -/
inductive EvidenceEvent (δ ρ : Type)
  | snapshot (directory : δ) (files : Files)
  | materialize (call : Materialize δ ρ)

/-- One event. -/
def evidenceStep : EvidenceEvent δ ρ → Evidences δ ρ
  | .snapshot directory files =>
      { evidences with snapshots := Function.update evidences.snapshots directory files }
  | .materialize call => (materialize runtime evidences call).2

abbrev evidencesAfter (events : List (EvidenceEvent δ ρ)) : Evidences δ ρ :=
  after (evidenceStep runtime) ⟨fun _ _ => none, fun _ => none⟩ events

/-- A snapshot of a generation was complete at some time of a run: a load returned it. -/
def WasCompleted {runtime : Runtime} (events : List (EvidenceEvent δ ρ))
    (evidence : BoundEvidence runtime) : Prop :=
  ∃ earlier, earlier <+: events ∧ ∃ directory reviewed generation,
    loadCompleted runtime ((evidencesAfter runtime earlier).snapshots directory) reviewed
      generation = .loaded (some evidence)

/-- The snapshot that reported evidence goes back to, with the time until which it may be
reported. -/
def Backed (events : List (EvidenceEvent δ ρ)) (generation : String)
    (positionOpen : Bool) (t slack : Instant) : Prop :=
  ∃ evidence : BoundEvidence runtime, WasCompleted events evidence ∧
    evidence.fields.generationDigest = generation ∧
    positionOpen = !(evidence.fields.accountFlat && evidence.fields.activeOrdersZero) ∧
    ∃ observed validUntil, runtime.parseUtc evidence.fields.observedAtUtc = some observed ∧
      runtime.parseUtc evidence.fields.validUntilUtc = some validUntil ∧
      observed ≤ t ∧ t ≤ validUntil + slack

variable {runtime}

theorem materialize_cases (evidences : Evidences δ ρ) (call : Materialize δ ρ) :
    (materialize runtime evidences call).2 = evidences ∨
      ∃ now evidence, loadCompleted runtime (evidences.snapshots call.snapshotStateRoot)
          call.reviewedFilesDigest call.generationDigest = .loaded (some evidence) ∧
        validateBound runtime evidence call.reviewedFilesDigest call.generationDigest
          evidence.fields.cycleBindingDigest now = .ok () ∧
        (materialize runtime evidences call).2 = { evidences with
          positions := Function.update evidences.positions call.stateRoot
            (some (positionFile evidence call.generationDigest now)) } := by
  unfold materialize
  split
  · exact Or.inl rfl
  · rename_i now _
    split
    · rename_i evidence hload
      split
      · exact Or.inl rfl
      · rename_i hvalid
        simp only [writePosition]
        split_ifs
        · exact Or.inl rfl
        · exact Or.inl rfl
        · exact Or.inr ⟨now, evidence, hload, hvalid, rfl⟩
    · exact Or.inl rfl
    · exact Or.inl rfl

theorem materialize_snapshots (call : Materialize δ ρ) :
    (materialize runtime evidences call).2.snapshots = evidences.snapshots := by
  rcases materialize_cases evidences call with h | ⟨_, _, -, -, h⟩ <;> rw [h]

theorem validateBound_ok {evidence : BoundEvidence runtime} {reviewed generation cycle : String}
    {now : Instant} (h : validateBound runtime evidence reviewed generation cycle now = .ok ()) :
    evidence.fields.generationDigest = generation ∧
      ∃ observed validUntil, runtime.parseUtc evidence.fields.observedAtUtc = some observed ∧
        runtime.parseUtc evidence.fields.validUntilUtc = some validUntil ∧
        observed ≤ now ∧ now ≤ validUntil := by
  unfold validateBound at h
  split_ifs at h with hbound
  push Not at hbound
  split at h
  · rename_i observed validUntil hobserved hvalid
    split_ifs at h with hfresh
    push Not at hfresh
    exact ⟨hbound.2.1, observed, validUntil, hobserved, hvalid, hfresh.1, hfresh.2.1⟩
  · cases h

theorem WasCompleted.append {events : List (EvidenceEvent δ ρ)} {evidence : BoundEvidence runtime}
    (h : WasCompleted events evidence) (later : List (EvidenceEvent δ ρ)) :
    WasCompleted (events ++ later) evidence := by
  obtain ⟨earlier, hearlier, hloaded⟩ := h
  exact ⟨earlier, hearlier.trans (List.prefix_append ..), hloaded⟩

theorem Backed.append {events : List (EvidenceEvent δ ρ)} {generation : String}
    {positionOpen : Bool} {t slack : Instant}
    (h : Backed runtime events generation positionOpen t slack)
    (later : List (EvidenceEvent δ ρ)) :
    Backed runtime (events ++ later) generation positionOpen t slack := by
  obtain ⟨evidence, hcompleted, hrest⟩ := h
  exact ⟨evidence, hcompleted.append later, hrest⟩

theorem positions_backed (events : List (EvidenceEvent δ ρ)) :
    ∀ root file, (evidencesAfter runtime events).positions root = some file →
      Backed runtime events file.generationDigest file.positionOpen
        file.observedAtUtc 0 := by
  induction events using List.reverseRecOn with
  | nil => intro root file h; cases h
  | append_singleton events event ih =>
      intro root file h
      rw [evidencesAfter, Library.after_append, Library.after_cons, Library.after_nil] at h
      cases event with
      | snapshot directory files => exact (ih root file h).append _
      | materialize call =>
          rcases @materialize_cases δ ρ _ _ runtime (evidencesAfter runtime events) call with
            hsame | ⟨now, evidence, hload, hvalid, hwritten⟩
          · rw [evidenceStep, hsame] at h
            exact (ih root file h).append _
          · rw [evidenceStep, hwritten] at h
            by_cases hroot : root = call.stateRoot
            · obtain rfl : positionFile evidence call.generationDigest now = file := by
                simpa [hroot] using h
              obtain ⟨hgeneration, observed, validUntil, hobserved, huntil, hfrom, hto⟩ :=
                validateBound_ok hvalid
              refine ⟨evidence, ?_, hgeneration, rfl, observed, validUntil, hobserved, huntil,
                hfrom, ?_⟩
              · exact ⟨events, List.prefix_append .., _, _, _, hload⟩
              · rw [add_zero]
                exact hto
            · dsimp only at h
              rw [Function.update_of_ne hroot] at h
              exact (ih root file h).append _

/-- **Position evidence outlives its snapshot by no more than the age that its load allows.** -/
theorem position_evidence_bounded (events : List (EvidenceEvent δ ρ)) (stateRoot : ρ)
    (generation : String) (t : Instant) (maximumAgeSeconds : Int)
    (reported : PositionReconciliationEvidence)
    (hload : loadPosition (evidencesAfter runtime events) stateRoot generation t
      maximumAgeSeconds = .ok reported)
    (havailable : reported.evidenceAvailable = true) (hfresh : reported.evidenceFresh = true) :
    Backed runtime events generation reported.positionOpen t
      (wallSeconds maximumAgeSeconds) := by
  unfold loadPosition at hload
  split_ifs at hload
  split at hload
  · obtain rfl := Except.ok.inj hload
    cases havailable
  · rename_i file hfile
    split_ifs at hload with hgeneration hage
    · obtain rfl := Except.ok.inj hload
      cases havailable
    · obtain rfl := Except.ok.inj hload
      cases havailable
    · obtain rfl := Except.ok.inj hload
      push Not at hgeneration hage
      obtain ⟨evidence, hcompleted, hbound, hflat, observed, validUntil, hobserved, huntil,
        hfrom, hto⟩ := positions_backed events stateRoot file hfile
      refine ⟨evidence, hcompleted, hbound.trans hgeneration, hflat, observed, validUntil,
        hobserved, huntil, ?_, ?_⟩
      · linarith [hage.1]
      · linarith [hage.2]

end Bridge

namespace Sample

/-- Two minutes of a day. -/
def runtime : Runtime where
  sha := Sha256.checksum
  floats := Session.Sample.floatText
  fromisoformat text :=
    if text = "2026-08-01T00:00:00+00:00" then some (wallSeconds 1785542400, some 0)
    else if text = "2026-08-01T00:01:00+00:00" then some (wallSeconds 1785542460, some 0)
    else none

def digestOf (c : Char) : String :=
  String.ofList (sha256Prefix ++ List.replicate 64 c)

def marker : MarkerFields where
  schema := markerSchema
  reviewedFilesDigest := digestOf 'a'
  generationDigest := digestOf 'b'
  cycleBindingDigest := digestOf 'c'
  observedAtUtc := "2026-08-01T00:00:00+00:00"
  validUntilUtc := "2026-08-01T00:01:00+00:00"
  status := markerStatus
  brokerReadPerformed := true
  brokerGetCount := 3
  openPositionsCount := 0
  activeOrdersCount := 0
  brokerWrite := false
  brokerPostCount := 0
  artifactDigest := ""

def evidenceFields : EvidenceFields where
  schema := evidenceSchema
  reviewedFilesDigest := digestOf 'a'
  generationDigest := digestOf 'b'
  cycleBindingDigest := digestOf 'c'
  operationMarker := marker.withArtifactDigest runtime
  observedAtUtc := "2026-08-01T00:00:00+00:00"
  validUntilUtc := "2026-08-01T00:01:00+00:00"
  status := evidenceStatus
  brokerReadPerformed := true
  brokerGetCount := 3
  openPositionsCount := 0
  activeOrdersCount := 0
  accountFlat := true
  activeOrdersZero := true
  rawResponseRetained := false
  identifierExposed := false
  brokerWrite := false
  brokerPostCount := 0
  artifactDigest := ""

theorem digests_valid : isSha256 (digestOf 'a') = true ∧ isSha256 (digestOf 'b') = true ∧
    isSha256 (digestOf 'c') = true := by
  decide +kernel

/-- An observation of a flat account at midnight, valid for a minute. -/
def evidence : BoundEvidence runtime where
  fields := evidenceFields.withArtifactDigest runtime
  marker_valid := by
    refine ⟨rfl, rfl, ?_, marker.artifactDigest_eq runtime, rfl, rfl, le_rfl, le_rfl, rfl, rfl,
      by decide, by decide⟩
    simp only [List.forall_mem_cons]
    exact ⟨digests_valid.1, digests_valid.2.1, digests_valid.2.2,
      isSha256_canonicalDigest runtime marker.payload, by simp⟩
  shape_valid := by
    refine ⟨rfl, rfl, ?_, evidenceFields.artifactDigest_eq runtime, rfl, rfl, rfl, rfl, rfl, rfl,
      rfl, rfl, rfl, rfl, rfl, le_rfl, le_rfl, rfl, rfl, rfl, rfl, rfl, rfl, by decide,
      by decide⟩
    simp only [List.forall_mem_cons]
    exact ⟨digests_valid.1, digests_valid.2.1, digests_valid.2.2,
      isSha256_canonicalDigest runtime evidenceFields.payload, by simp⟩

theorem evidence_observed :
    runtime.parseUtc evidence.fields.observedAtUtc = some (wallSeconds 1785542400) := by
  decide +kernel

theorem evidence_validUntil :
    runtime.parseUtc evidence.fields.validUntilUtc = some (wallSeconds 1785542460) := by
  decide +kernel

def copy : Materialize Unit Unit where
  stateRoot := ()
  generationDigest := digestOf 'b'
  reviewedFilesDigest := digestOf 'a'
  nowUtc := some (wallSeconds 1785542460)
  snapshotStateRoot := ()
  fate := .succeeds

/-- The snapshot and its copy. -/
def events : List (EvidenceEvent Unit Unit) :=
  [.snapshot () (producedFiles evidence "2026-08-01T00:00:00+00:00" "2026-08-01T00:00:01+00:00"),
    .materialize copy]

/-- A snapshot directory holds the files it was given. -/
theorem snapshots_given (evidences : Evidences Unit Unit) (files : Files) :
    (evidenceStep runtime evidences (.snapshot () files)).snapshots () = files := by
  unfold evidenceStep
  exact Function.update_self () files evidences.snapshots

/-- These files are given, and then copied. -/
def given (files : Files) : List (EvidenceEvent Unit Unit) :=
  [.snapshot () files, .materialize copy]

theorem events_eq : events =
    given (producedFiles evidence "2026-08-01T00:00:00+00:00" "2026-08-01T00:00:01+00:00") := by
  unfold events given
  rfl

theorem snapshots_kept (files : Files) :
    (evidencesAfter runtime (given files)).snapshots () = files := by
  change (materialize runtime _ copy).2.snapshots () = files
  rw [materialize_snapshots]
  exact snapshots_given _ files

theorem snapshots_of_prefix {files : Files} {earlier : List (EvidenceEvent Unit Unit)}
    (h : earlier <+: given files) (directory : Unit) :
    (evidencesAfter runtime earlier).snapshots directory = (fun _ => none) ∨
      (evidencesAfter runtime earlier).snapshots directory = files := by
  rcases List.prefix_cons_iff.mp h with rfl | ⟨rest, rfl, hrest⟩
  · exact Or.inl rfl
  right
  rcases List.prefix_cons_iff.mp hrest with rfl | ⟨last, rfl, hlast⟩
  · exact snapshots_given _ files
  obtain rfl := List.prefix_nil.mp hlast
  exact snapshots_kept files

theorem eq_of_wasCompleted {completed : BoundEvidence runtime}
    (h : WasCompleted events completed) : completed = evidence := by
  obtain ⟨earlier, hearlier, directory, reviewed, generation, hload⟩ := h
  rw [events_eq] at hearlier
  rcases snapshots_of_prefix hearlier directory with hnone | hproduced
  · rw [hnone] at hload
    simp [loadCompleted] at hload
  · rw [hproduced] at hload
    exact eq_of_loadCompleted_produced hload

theorem writable_digestOf (c : Char) : writableDigest (digestOf c) = true := by
  have hlength : (digestOf c).length = 71 := by
    rw [digestOf, String.length_ofList, List.length_append, List.length_replicate]
    rfl
  have hprefix : "sha256:".toList <+: (digestOf c).toList := by
    have htext : (digestOf c).toList = sha256Prefix ++ List.replicate 64 c :=
      String.toList_ofList
    rw [htext]
    exact List.prefix_append sha256Prefix _
  rw [writableDigest, hlength, String.startsWith_string_iff.mpr hprefix]
  rfl

/-- The copy of the sample snapshot. -/
theorem positions_copied {evidences : Evidences Unit Unit} (h : evidences.snapshots () =
      producedFiles evidence "2026-08-01T00:00:00+00:00" "2026-08-01T00:00:01+00:00") :
    (materialize runtime evidences copy).2.positions () =
      some (positionFile evidence (digestOf 'b') (wallSeconds 1785542460)) := by
  have hload : loadCompleted runtime (evidences.snapshots copy.snapshotStateRoot)
      copy.reviewedFilesDigest copy.generationDigest = .loaded (some evidence) := by
    rw [show copy.snapshotStateRoot = () from rfl, h]
    exact loadCompleted_produced
  have hvalid : validateBound runtime evidence copy.reviewedFilesDigest copy.generationDigest
      evidence.fields.cycleBindingDigest (wallSeconds 1785542460) = .ok () := by
    have hbound : evidence.fields.reviewedFilesDigest = copy.reviewedFilesDigest ∧
        evidence.fields.generationDigest = copy.generationDigest := ⟨rfl, rfl⟩
    unfold validateBound
    rw [if_neg (by simp [hbound])]
    simp only [evidence_observed, evidence_validUntil]
    rw [if_neg (by decide)]
  have hwritable : writableDigest copy.generationDigest = true := writable_digestOf 'b'
  unfold materialize
  simp only [show copy.nowUtc = some (wallSeconds 1785542460) from rfl, hload, hvalid]
  unfold writePosition
  rw [show (positionFile evidence copy.generationDigest
    (wallSeconds 1785542460)).generationDigest = copy.generationDigest from rfl, hwritable,
    if_neg (by decide), if_neg (by decide)]
  exact Function.update_self () _ evidences.positions

theorem positions_given (files : Files) (h : files =
      producedFiles evidence "2026-08-01T00:00:00+00:00" "2026-08-01T00:00:01+00:00") :
    (evidencesAfter runtime (given files)).positions () =
      some (positionFile evidence (digestOf 'b') (wallSeconds 1785542460)) := by
  change (materialize runtime _ copy).2.positions () = _
  exact positions_copied ((snapshots_given _ files).trans h)

theorem positions_after : (evidencesAfter runtime events).positions () =
    some (positionFile evidence (digestOf 'b') (wallSeconds 1785542460)) := by
  rw [events_eq]
  exact positions_given _ rfl

theorem loaded_after : loadPosition (evidencesAfter runtime events) () (digestOf 'b')
    (wallSeconds 1785542520) 60 = .ok ⟨false, false, false, false, true, true, true⟩ := by
  simp only [loadPosition, positions_after, positionFile]
  rw [if_neg (by decide), if_neg (by simp), if_neg (by decide)]
  rfl

end Sample

/-- The copy is reported until a minute behind the end of its snapshot. -/
theorem position_evidence_bounded_sample :
    Backed Sample.runtime Sample.events (Sample.digestOf 'b') false (wallSeconds 1785542520)
      (wallSeconds 60) :=
  position_evidence_bounded Sample.events () (Sample.digestOf 'b') (wallSeconds 1785542520) 60
    ⟨false, false, false, false, true, true, true⟩ Sample.loaded_after rfl rfl

/-- Two minutes behind the observation the copy is still available and fresh, a minute behind
the time until which the snapshot was valid. -/
theorem copy_outlives_snapshot :
    loadPosition (evidencesAfter Sample.runtime Sample.events) () (Sample.digestOf 'b')
        (wallSeconds 1785542520) 60 = .ok ⟨false, false, false, false, true, true, true⟩ ∧
      ¬ Backed Sample.runtime Sample.events (Sample.digestOf 'b') false
        (wallSeconds 1785542520) 0 := by
  refine ⟨Sample.loaded_after, ?_⟩
  rintro ⟨completed, hcompleted, -, -, observed, validUntil, -, huntil, -, hto⟩
  obtain rfl := Sample.eq_of_wasCompleted hcompleted
  obtain rfl := Option.some.inj (Sample.evidence_validUntil.symm.trans huntil)
  exact absurd hto (by decide)

end FxStrategyLab.Snapshot
