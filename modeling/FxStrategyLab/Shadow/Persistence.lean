import FxStrategyLab.Shadow.Contracts

/-!
# Durable state of the E1 shadow engine

This file embeds `persistence.py` of the E1 shadow package: the append-only
journal with its record checks and its reads, and the virtual venue whose one
position is replaced atomically in a file.  Both keep a copy in memory next to
the file, and a write that fails may leave the two apart.

What the environment does to a write is an input of the model: a write may go
through, raise after part of it has reached the file, or be the last thing the
process does.
-/

namespace FxStrategyLab.E1

open Library

/-- Source `E1PersistenceError`. -/
def persistenceError (message : String) : E1Error :=
  { exceptionClass := .persistence, message }

inductive JournalEventType
  | runStarted
  | heartbeatRecorded
  | noActionRecorded
  | intentPrepared
  | virtualExecutionStarted
  | virtualExecutionConfirmed
  | virtualExecutionRejected
  | virtualExecutionUncertain
  | reconcileMatched
  | reconcileMismatch
  | restartAckRecorded
  | killActivated
  | deadmanActivated
  | fakeCriticalAlert
  | halted
  | faultHandled
  | incidentRecorded
  | postmortemRecorded
deriving DecidableEq

namespace JournalEventType

/-- Source `_RESOLVING_EVENTS`. -/
def resolving : JournalEventType → Bool
  | virtualExecutionConfirmed | virtualExecutionRejected => true
  | reconcileMatched | reconcileMismatch => true
  | _ => false

/-- The events of an execution, from the intent to its outcome. -/
def lifecycle : JournalEventType → Bool
  | intentPrepared | virtualExecutionStarted | virtualExecutionConfirmed => true
  | virtualExecutionRejected | virtualExecutionUncertain => true
  | _ => false

def killing : JournalEventType → Bool
  | killActivated | deadmanActivated => true
  | _ => false

end JournalEventType

/-- The arguments of `append`. -/
structure JournalEntry where
  eventType : JournalEventType
  timestamp : Timestamp
  statusLabel : String
  expectedStateDigest : HexDigest
  positionCount : Nat
  reasonCodes : List String := []
  action : Option GateAction := none
  intentId : Option LocalId := none
  intentDigest : Option HexDigest := none
  tokenId : Option LocalId := none
  decisionDigest : Option HexDigest := none
  hypothesis : Option (HypothesisLabel × SafeText × SafeText) := none
  executionOutcome : Option ExecutionOutcome := none
  faultKind : FaultKind := .none
  stateBeforeDigest : Option HexDigest := none
  plannedStateDigest : Option HexDigest := none
  observedStateDigest : Option HexDigest := none
  pnlCategory : PnlCategory := .notApplicable
  virtualLoss : ℚ := 0
  incidentRef : Option String := none
  incidentSeverity : Option String := none
deriving DecidableEq

/-- Source `JournalRecord`, behind its schema version, its wall-clock stamp and its
fixed safety flags.  The label, id and version of a hypothesis stand together. -/
structure JournalRecord extends JournalEntry where
  sequence : Nat
  runId : String
  configHash : HexDigest
deriving DecidableEq

namespace JournalRecord

variable (r : JournalRecord)

def executionComplete : Bool :=
  r.action.isSome && r.intentId.isSome && r.intentDigest.isSome && r.tokenId.isSome &&
    r.stateBeforeDigest.isSome && r.plannedStateDigest.isSome

def labelsSafe : Bool :=
  safeLabel r.statusLabel.toList && r.reasonCodes.all fun reason => safeLabel reason.toList

def lossSound : Bool :=
  decide (0 ≤ r.virtualLoss) && (decide (r.pnlCategory = .loss) || decide (r.virtualLoss = 0))

def faultHandledSound : Bool :=
  r.executionComplete && r.observedStateDigest.isSome && decide (r.faultKind ≠ .none) &&
    r.executionOutcome.isNone && decide (r.statusLabel = "FAULT_HANDLED_WITHOUT_RETRY") &&
    decide (r.reasonCodes = [r.faultKind.value])

def terminalNoAction : Bool :=
  decide (r.eventType = .noActionRecorded) && decide (r.statusLabel = "ENGINE_NO_ACTION_TERMINAL")

/-- The evidence of a terminal no-action record; its two texts are safe by their type. -/
def decisionEvidenceSound : Bool :=
  r.decisionDigest.isSome && r.action.isNone && r.intentId.isNone &&
    decide (r.reasonCodes.length = 1) && r.hypothesis.isSome

def incidentSound : Bool :=
  let refSafe := match r.incidentRef with
    | none => false
    | some ref => safeLabel ref.toList
  match r.eventType with
  | .incidentRecorded =>
      refSafe && (decide (r.incidentSeverity = some "HIGH") ||
        decide (r.incidentSeverity = some "MEDIUM"))
  | .postmortemRecorded => refSafe && r.incidentSeverity.isNone
  | _ => r.incidentRef.isNone && r.incidentSeverity.isNone

/-- Source `JournalRecord.__post_init__`. -/
def check : Except E1Error Unit :=
  if safeLabel r.runId.toList = false then
    .error (persistenceError "journal run/config identity is invalid")
  else if r.labelsSafe = false then
    .error (persistenceError "journal safe labels must be non-empty")
  else if 1 < r.positionCount then
    .error (persistenceError "journal position_count must be zero or one")
  else if r.lossSound = false then
    .error (persistenceError "journal virtual loss contract is invalid")
  else if r.eventType.lifecycle = true ∧ r.executionComplete = false then
    .error (persistenceError "execution lifecycle record is incomplete")
  else if r.eventType.resolving = true ∧ r.intentId.isSome = true ∧
      r.executionComplete = false then
    .error (persistenceError "intent resolution record is incomplete")
  else if r.eventType = .faultHandled ∧ r.faultHandledSound = false then
    .error (persistenceError "fault handled record is incomplete or invalid")
  else if r.terminalNoAction = true ∧ r.decisionEvidenceSound = false then
    .error (persistenceError "terminal no-action decision evidence is incomplete")
  else if r.terminalNoAction = false ∧ (r.decisionDigest.isSome = true ∨
      r.hypothesis.isSome = true) then
    .error (persistenceError "decision evidence fields are event-specific")
  else if r.incidentSound = false then
    .error (persistenceError
      (match r.eventType with
        | .incidentRecorded => "incident record requires safe ref and severity"
        | .postmortemRecorded => "postmortem record requires incident_ref only"
        | _ => "incident fields are event-specific"))
  else .ok ()

/-- What a record that passes its checks has. -/
structure Checked (r : JournalRecord) : Prop where
  run : safeLabel r.runId.toList = true
  labels : r.labelsSafe = true
  count : r.positionCount ≤ 1
  loss : r.lossSound = true
  lifecycle : r.eventType.lifecycle = true → r.executionComplete = true
  resolving : r.eventType.resolving = true → r.intentId.isSome = true →
    r.executionComplete = true
  fault : r.eventType = .faultHandled → r.faultHandledSound = true
  decision : r.terminalNoAction = true → r.decisionEvidenceSound = true
  evidence : r.terminalNoAction = false →
    r.decisionDigest.isSome = false ∧ r.hypothesis.isSome = false
  incident : r.incidentSound = true

theorem check_eq_ok {r : JournalRecord} : r.check = .ok () ↔ r.Checked := by
  constructor
  · intro h
    unfold check at h
    split_ifs at h with h₁ h₂ h₃ h₄ h₅ h₆ h₇ h₈ h₉ h₁₀
    refine ⟨by simpa using h₁, by simpa using h₂, not_lt.mp h₃, by simpa using h₄, ?_, ?_, ?_, ?_,
      ?_, by simpa using h₁₀⟩
    · intro hlife
      by_contra hnot
      exact h₅ ⟨hlife, by simpa using hnot⟩
    · intro hresolving hintent
      by_contra hnot
      exact h₆ ⟨hresolving, hintent, by simpa using hnot⟩
    · intro hfault
      by_contra hnot
      exact h₇ ⟨hfault, by simpa using hnot⟩
    · intro hterminal
      by_contra hnot
      exact h₈ ⟨hterminal, by simpa using hnot⟩
    · intro hterminal
      by_contra hnot
      refine h₉ ⟨hterminal, ?_⟩
      by_contra hnone
      rw [not_or, Bool.not_eq_true, Bool.not_eq_true] at hnone
      exact hnot hnone
  · intro h
    unfold check
    rw [if_neg (by rw [h.run]; nofun), if_neg (by rw [h.labels]; nofun),
      if_neg (not_lt.mpr h.count), if_neg (by rw [h.loss]; nofun), if_neg, if_neg, if_neg, if_neg,
      if_neg, if_neg (by rw [h.incident]; nofun)]
    · rintro ⟨hterminal, hsome⟩
      obtain ⟨hdigest, hhypothesis⟩ := h.evidence hterminal
      rcases hsome with hsome | hsome
      · rw [hdigest] at hsome
        cases hsome
      · rw [hhypothesis] at hsome
        cases hsome
    · rintro ⟨hterminal, hnot⟩
      rw [h.decision hterminal] at hnot
      cases hnot
    · rintro ⟨hfault, hnot⟩
      rw [h.fault hfault] at hnot
      cases hnot
    · rintro ⟨hresolving, hintent, hnot⟩
      rw [h.resolving hresolving hintent] at hnot
      cases hnot
    · rintro ⟨hlife, hnot⟩
      rw [h.lifecycle hlife] at hnot
      cases hnot

end JournalRecord

namespace ShadowIntentJournal

def expectedStateDigest (sha : Sha256) (records : List JournalRecord) : HexDigest :=
  match records.getLast? with
  | none => positionDigest sha none
  | some r => r.expectedStateDigest

variable (records : List JournalRecord)

def killActive : Bool :=
  records.any fun r => r.eventType.killing

def halted : Bool :=
  records.any fun r => decide (r.eventType = .halted)

def lastHeartbeat : Option Timestamp :=
  (records.reverse.find? fun r => decide (r.eventType = .heartbeatRecorded)).map
    fun r => r.timestamp

def lastActivation? : Option JournalRecord :=
  records.reverse.find? fun r => r.eventType.killing

def prepared : List JournalRecord :=
  records.filter fun r => decide (r.eventType = .intentPrepared) && r.intentId.isSome

def resolvedIds : List LocalId :=
  records.filterMap fun r => if r.eventType.resolving then r.intentId else none

/-- The intent of this record is not resolved. -/
def unresolved (r : JournalRecord) : Bool :=
  match r.intentId with
  | none => false
  | some intentId => decide (intentId ∉ resolvedIds records)

def unresolvedIntents : Except E1Error (List JournalRecord) :=
  if ((prepared records).map fun r => r.intentId).Nodup then
    .ok ((prepared records).filter (unresolved records))
  else .error (persistenceError "duplicate intent_id in journal")

structure RiskCounters where
  entriesToday : Nat := 0
  dailyLoss : ℚ := 0
  weeklyLoss : ℚ := 0
  consecutiveLosses : Nat := 0
  lastEntryAt : Option Timestamp := none

def isEffect (r : JournalRecord) : Bool :=
  decide (r.eventType = .virtualExecutionConfirmed) ||
    (decide (r.eventType = .reconcileMatched) &&
      decide (r.statusLabel = ReconcileStatus.recoveredPlannedEffect.value))

def preparedTime? (r : JournalRecord) : Option Timestamp :=
  ((prepared records).reverse.find? fun p => decide (p.intentId = r.intentId)).map
    fun p => p.timestamp

def effectiveTimestamp (r : JournalRecord) : Timestamp :=
  if r.eventType = .reconcileMatched then (preparedTime? records r).getD r.timestamp
  else r.timestamp

/-- One turn of the loop of `risk_counters`. -/
def countRecord (now : Timestamp) (counters : RiskCounters)
    (r : JournalRecord) : RiskCounters :=
  if isEffect r = false then counters
  else
    let eventTime := effectiveTimestamp records r
    match r.action with
    | none => counters
    | some .virtualEntry =>
        { counters with
          entriesToday :=
            if utcDate eventTime = utcDate now then counters.entriesToday + 1
            else counters.entriesToday
          lastEntryAt := some eventTime }
    | some .virtualSettlement =>
        { counters with
          dailyLoss :=
            if utcDate eventTime = utcDate now then counters.dailyLoss + r.virtualLoss
            else counters.dailyLoss
          weeklyLoss :=
            if isoWeek eventTime = isoWeek now then counters.weeklyLoss + r.virtualLoss
            else counters.weeklyLoss
          consecutiveLosses :=
            if r.pnlCategory = .loss then counters.consecutiveLosses + 1 else 0 }

def riskCounters (now : Timestamp) : RiskCounters :=
  records.foldl (countRecord records now) {}

end ShadowIntentJournal

/-- How the text of the journal file ends: with a complete line, with a record whose line
break is missing, or in a way that cannot be decoded. -/
inductive JournalTail
  | terminated
  | unterminated
  | unreadable
deriving DecidableEq

/-- The journal file: the records whose whole text has been written to it, in order, and
how its text ends. -/
structure JournalFile where
  records : List JournalRecord := []
  tail : JournalTail := .terminated

/-- How much of a line has reached the file when a write ends. -/
inductive Written
  | nothing
  | torn
  | unterminated
  | line

namespace JournalFile

def load (file : JournalFile) : Except E1Error (List JournalRecord) :=
  if file.tail = .unreadable then
    .error (persistenceError "journal contains invalid JSON")
  else .ok file.records

/-- Write so much of the line of a record.  Behind a missing line break the new text is
on the line of the old record, and that line can no longer be decoded. -/
def write (file : JournalFile) (written : Written) (r : JournalRecord) : JournalFile :=
  match written with
  | .nothing => file
  | .torn => { file with tail := .unreadable }
  | .unterminated =>
      { records := file.records ++ [r]
        tail := if file.tail = .terminated then .unterminated else .unreadable }
  | .line =>
      { records := file.records ++ [r]
        tail := if file.tail = .terminated then .terminated else .unreadable }

end JournalFile

/-- What happens to one append: it goes through, it raises, or the process dies in it. -/
inductive AppendIncident
  | quiet
  | raises (written : Written)
  | crashes (written : Written)

inductive VenueWriteStep
  | temporaryWrite
  | fsync
  | rename
  | directoryFsync
deriving DecidableEq

def VenueWriteStep.renamed : VenueWriteStep → Bool
  | directoryFsync => true
  | temporaryWrite | fsync | rename => false

/-- What happens to one write of the venue: it goes through, one of its steps raises, or
the process dies before or after the rename. -/
inductive VenueIncident
  | quiet
  | raises (step : VenueWriteStep)
  | crashes (renamed : Bool)
deriving DecidableEq

/-- A change of the stored position: the token it was made under, the position before and
after it, the journal file and the phase at that moment. -/
structure VenueMutation where
  token : ShadowGateToken
  before : Option VirtualPosition
  position : Option VirtualPosition
  journal : List JournalRecord
  phase : EnginePhase

/-- The two files, the memory of the engine on them, the incidents and clock readings that
are to come in the current call, and what was done so far: the changes of the venue and
the texts whose digests gave intent identifiers. -/
structure E1World where
  journalFile : JournalFile := {}
  venueFile : Option VirtualPosition := none
  records : List JournalRecord := []
  position : Option VirtualPosition := none
  phase : EnginePhase := .bootReconcileRequired
  journalPreexisting : Bool := false
  counter : Nat := 0
  issued : List ShadowGateToken := []
  consumed : List LocalId := []
  executed : List LocalId := []
  appendIncidents : List AppendIncident := []
  venueIncidents : List VenueIncident := []
  clockReadings : List Timestamp := []
  mutations : List VenueMutation := []
  mintedTexts : List CanonicalText := []

abbrev E1Process (α : Type) := Process E1World E1Error α

namespace E1World

/-- The position digest of the copy in memory, source `state_digest`. -/
def stateDigest (sha : Sha256) (w : E1World) : HexDigest :=
  positionDigest sha w.position

variable (w : E1World)

def positionCount : Nat :=
  if w.position.isSome then 1 else 0

def expectedDigest (sha : Sha256) (w : E1World) : HexDigest :=
  ShadowIntentJournal.expectedStateDigest sha w.records

def killActive : Bool :=
  ShadowIntentJournal.killActive w.records

def halted : Bool :=
  ShadowIntentJournal.halted w.records

def recordOf (setup : E1Setup) (sha : Sha256) (w : E1World) (entry : JournalEntry) :
    JournalRecord :=
  { entry with
    sequence := w.records.length
    runId := setup.runId
    configHash := setup.policy.configHash sha }

def spendAppend : E1World :=
  { w with appendIncidents := w.appendIncidents.tail }

def writtenTo (written : Written) (r : JournalRecord) : E1World :=
  { w.spendAppend with journalFile := w.journalFile.write written r }

def appended (r : JournalRecord) : E1World :=
  { w.writtenTo .line r with records := w.records ++ [r] }

def spendVenue : E1World :=
  { w with venueIncidents := w.venueIncidents.tail }

def replaced (token : ShadowGateToken) (position : Option VirtualPosition) :
    E1World :=
  { w.spendVenue with
    venueFile := position
    mutations := w.mutations ++
      [{ token, before := w.venueFile, position, journal := w.journalFile.records,
         phase := w.phase }] }

end E1World

def append (setup : E1Setup) (sha : Sha256) (entry : JournalEntry) : E1Process Unit :=
  fun w =>
    match w.journalFile.load with
    | .error e => (.raised e, w.spendAppend)
    | .ok disk =>
        if disk ≠ w.records then
          (.raised (persistenceError "concurrent journal modification detected"),
            w.spendAppend)
        else
          let r := w.recordOf setup sha entry
          match r.check with
          | .error e => (.raised e, w.spendAppend)
          | .ok () =>
              match w.appendIncidents.headD .quiet with
              | .quiet => (.returned (), w.appended r)
              | .raises written =>
                  (.raised (persistenceError "journal append/fsync failed"),
                    w.writtenTo written r)
              | .crashes written => (.killed, w.writtenTo written r)

/-- Source `unresolved_intents`, read in memory. -/
def unresolvedIntents : E1Process (List JournalRecord) := fun w =>
  match ShadowIntentJournal.unresolvedIntents w.records with
  | .error e => (.raised e, w)
  | .ok pending => (.returned pending, w)

def replaceVenue (token : ShadowGateToken) (position : Option VirtualPosition) :
    E1Process Unit := fun w =>
  match w.venueIncidents.headD .quiet with
  | .quiet => (.returned (), { w.replaced token position with position })
  | .raises step =>
      if step.renamed then
        (.raised (persistenceError "persistence parent directory fsync failed"),
          w.replaced token position)
      else
        (.raised (persistenceError "virtual venue state write/fsync failed"), w.spendVenue)
  -- the memory of a dead process is not read again
  | .crashes true => (.killed, { w.replaced token position with position })
  | .crashes false => (.killed, w.spendVenue)

/-- Source `_open_position`, with the body of `_persist`. -/
def openPosition (token : ShadowGateToken) (position : VirtualPosition) : E1Process Unit := do
  let diskPosition ← Process.gets E1World.venueFile
  let memory ← Process.gets E1World.position
  Process.require (diskPosition = memory)
    (persistenceError "concurrent virtual venue modification detected")
  Process.require (diskPosition = none) (persistenceError "virtual venue position limit is one")
  replaceVenue token (some position)

/-- Source `_settle_position_specific`, with the body of `_persist`. -/
def settlePositionSpecific (token : ShadowGateToken) (positionRef : LocalId) :
    E1Process Unit := do
  let diskPosition ← Process.gets E1World.venueFile
  let memory ← Process.gets E1World.position
  Process.require (diskPosition = memory)
    (persistenceError "concurrent virtual venue modification detected")
  Process.require (diskPosition.map VirtualPosition.positionRef = some positionRef)
    (persistenceError "position-specific virtual settlement mismatch")
  replaceVenue token none

end FxStrategyLab.E1
