import FxStrategyLab.Shadow.Engine
import FxStrategyLab.Library.Runs
import FxStrategyLab.Library.History

/-!
# Calls, restarts and runs of the E1 shadow engine

A run is a sequence of calls of one engine object and of restarts, over one
journal file and one venue file.  A call comes with what the environment does to
its writes and with the readings of its token clock.  A process that died takes
no call until a restart has built a new engine on the two files.
-/

namespace FxStrategyLab.E1

open Library

/-- The entry points of an engine object. -/
inductive E1Op
  | bootReconcile (now : Timestamp)
  | reconcileAfterUncertain (now : Timestamp)
  | acknowledgeRestart (now : Timestamp) (operatorAcknowledged : Bool)
  | recordHeartbeat (now : Timestamp)
  | recordIncident (now : Timestamp) (incidentRef severity reasonCode : String)
  | recordPostmortem (now : Timestamp) (incidentRef : String)
  | processDecision (decision : EngineDecision) (market : MarketFrame)
      (protectiveStopPrice : Option ℚ) (fault : FaultInjection)
  | activateKill (now : Timestamp) (reason : KillReason) (market : Option MarketFrame)
      (fault : FaultInjection) (deadman : Bool)
  | checkDeadman (now : Timestamp) (market : Option MarketFrame) (fault : FaultInjection)

/-- What a call returns. -/
inductive E1Reply
  | reconciled (status : ReconcileStatus)
  | cycle (result : E1CycleResult)
deriving DecidableEq

/-- The call as a process. -/
def E1Op.exec (setup : E1Setup) (sha : Sha256) : E1Op → E1Process E1Reply
  | bootReconcile now => E1Reply.reconciled <$> E1.bootReconcile setup sha now
  | reconcileAfterUncertain now =>
      E1Reply.reconciled <$> E1.reconcileAfterUncertain setup sha now
  | acknowledgeRestart now operatorAcknowledged =>
      E1Reply.cycle <$> E1.acknowledgeRestart setup sha now operatorAcknowledged
  | recordHeartbeat now => E1Reply.cycle <$> E1.recordHeartbeat setup sha now
  | recordIncident now incidentRef severity reasonCode =>
      E1Reply.cycle <$> E1.recordIncident setup sha now incidentRef severity reasonCode
  | recordPostmortem now incidentRef =>
      E1Reply.cycle <$> E1.recordPostmortem setup sha now incidentRef
  | processDecision decision market protectiveStopPrice fault =>
      E1Reply.cycle <$> E1.processDecision setup sha decision market protectiveStopPrice fault
  | activateKill now reason market fault deadman =>
      E1Reply.cycle <$> E1.activateKill setup sha now reason market fault deadman
  | checkDeadman now market fault => E1Reply.cycle <$> E1.checkDeadman setup sha now market fault

/-- A call with the incidents of its writes and the readings of its token clock. -/
structure E1Call where
  op : E1Op
  appendIncidents : List AppendIncident := []
  venueIncidents : List VenueIncident := []
  clockReadings : List Timestamp := []

inductive E1Input
  | call (call : E1Call)
  | restart

def E1World.given (w : E1World) (call : E1Call) : E1World :=
  { w with
    appendIncidents := call.appendIncidents
    venueIncidents := call.venueIncidents
    clockReadings := call.clockReadings }

/-- The memory of a new engine object on the two files. -/
def E1World.reloaded (w : E1World) : E1World :=
  { journalFile := w.journalFile
    venueFile := w.venueFile
    records := w.journalFile.records
    position := w.venueFile
    phase := .bootReconcileRequired
    journalPreexisting := !w.journalFile.records.isEmpty
    mutations := w.mutations
    mintedTexts := w.mintedTexts }

/-- The world and whether an engine object is alive in it. -/
structure E1Run where
  world : E1World
  live : Bool

/-- No engine yet, no journal, and some venue file. -/
def newRun (venueFile : Option VirtualPosition) : E1Run where
  world := { venueFile, position := venueFile }
  live := false

section Runs

variable (setup : E1Setup) (sha : Sha256)

def E1Run.execute (r : E1Run) (call : E1Call) : Outcome E1Error E1Reply × E1World :=
  (call.op.exec setup sha).run (r.world.given call)

/-- One input.  A kill of the process ends its engine; a restart needs a journal that can
be loaded. -/
def e1Step (r : E1Run) : E1Input → E1Run
  | .call call =>
      if r.live = true then
        { world := (r.execute setup sha call).2
          live := decide ((r.execute setup sha call).1 ≠ .killed) }
      else r
  | .restart =>
      if r.world.journalFile.tail = .unreadable then { r with live := false }
      else { world := r.world.reloaded, live := true }

end Runs

/-- The identity and the amounts of an execution, as its records keep them. -/
structure Execution.Recorded (x : Execution) (eventType : JournalEventType)
    (r : JournalRecord) : Prop where
  eventType : r.eventType = eventType
  timestamp : r.timestamp = x.time
  action : r.action = some x.token.action
  intentId : r.intentId = some x.token.intentId
  intentDigest : r.intentDigest = some x.token.intentDigest
  tokenId : r.tokenId = some x.token.tokenId
  faultKind : r.faultKind = x.fault.kind
  before : r.stateBeforeDigest = some x.before
  planned : r.plannedStateDigest = some x.planned
  pnlCategory : r.pnlCategory = x.pnlCategory
  virtualLoss : r.virtualLoss = x.virtualLoss

def idSequence (text : CanonicalText) : Option Scalar :=
  (text.find? fun entry => decide (entry.1 = "sequence")).map Prod.snd

/-- The events that neither open, start nor resolve an intent nor activate the kill. -/
def JournalEventType.plain : JournalEventType → Bool
  | intentPrepared | virtualExecutionStarted => false
  | virtualExecutionConfirmed | virtualExecutionRejected => false
  | reconcileMatched | reconcileMismatch => false
  | killActivated | deadmanActivated => false
  | _ => true

/-- What a matched reconciliation compared: the unresolved intent or the expected state
with the digest observed. -/
def MatchedOn (sha : Sha256) (before : List JournalRecord) (observed : HexDigest)
    (status : ReconcileStatus) : Option JournalRecord → Prop
  | none => status = .matchedStableState ∧
      observed = ShadowIntentJournal.expectedStateDigest sha before
  | some source =>
      (status = .recoveredNoEffect ∧ some observed = source.stateBeforeDigest) ∨
        (status = .recoveredPlannedEffect ∧ some observed ≠ source.stateBeforeDigest ∧
          some observed = source.plannedStateDigest)

/-- The preparation of an intent: the first record of its call, or the one behind the
activation of the kill switch. -/
structure Prepares (setup : E1Setup) (sha : Sha256) (start : List JournalRecord)
    (minted : List CanonicalText) (before : List JournalRecord) (x : Execution)
    (text : CanonicalText) : Prop where
  minted : text ∈ minted
  named : x.token.intentId = makeLocalId sha "intent" text
  sequence : idSequence text = some (.integer before.length)
  opening : before = start ∨ ∃ k : JournalRecord, before = start ++ [k] ∧
    k.eventType.killing = true ∧ x.token.action = .virtualSettlement
  pending : ShadowIntentJournal.unresolvedIntents before = .ok []
  alive : ShadowIntentJournal.killActive start = false
  running : ShadowIntentJournal.halted start = false
  capped : x.token.action = .virtualEntry →
    (ShadowIntentJournal.riskCounters before x.time).entriesToday <
      setup.policy.maxEntriesPerDay

/-- What a record of the engine is admitted behind: the records before it, those at the
start of the call, and the identifier texts so far. -/
inductive Admitted (setup : E1Setup) (sha : Sha256) (start : List JournalRecord)
    (minted : List CanonicalText) (before : List JournalRecord) (r : JournalRecord) : Prop
  | plain (eventType : r.eventType.plain = true)
  | kill (eventType : r.eventType.killing = true) (opening : before = start)
      (alive : ShadowIntentJournal.killActive before = false)
      (running : ShadowIntentJournal.halted before = false)
  | prepare (x : Execution) (text : CanonicalText)
      (recorded : x.Recorded .intentPrepared r)
      (prepares : Prepares setup sha start minted before x text)
  | start (x : Execution) (p : JournalRecord) (last : before.getLast? = some p)
      (prepared : x.Recorded .intentPrepared p)
      (recorded : x.Recorded .virtualExecutionStarted r)
  | outcome (x : Execution) (s : JournalRecord) (last : before.getLast? = some s)
      (started : x.Recorded .virtualExecutionStarted s)
      (eventType : r.eventType = .virtualExecutionConfirmed ∨
        r.eventType = .virtualExecutionRejected)
      (recorded : x.Recorded r.eventType r)
  | matched (now : Timestamp) (status : ReconcileStatus) (observed : HexDigest)
      (positionCount : Nat) (source : Option JournalRecord)
      (entry : r.toJournalEntry =
        reconcileEntry .reconcileMatched now status.value [] observed observed positionCount
          source)
      (pending : ShadowIntentJournal.unresolvedIntents before = .ok source.toList)
      (compared : MatchedOn sha before observed status source)
  | mismatch (now : Timestamp) (reason : String) (expected observed : HexDigest)
      (positionCount : Nat) (source : Option JournalRecord)
      (entry : r.toJournalEntry =
        reconcileEntry .reconcileMismatch now ReconcileStatus.mismatchHalted.value [reason]
          expected observed positionCount source)
      (pending : ∀ s, source = some s →
        ShadowIntentJournal.unresolvedIntents before = .ok [s])

/-- What a record says about the venue and the phase in which it is appended. -/
structure Observed (sha : Sha256) (w : E1World) (r : JournalRecord) : Prop where
  prepared : r.eventType = .intentPrepared → r.stateBeforeDigest = some (w.stateDigest sha)
  confirmed : r.eventType = .virtualExecutionConfirmed →
    ∃ m, w.mutations.getLast? = some m ∧ m.journal = w.records
  rejected : r.eventType = .virtualExecutionRejected →
    ∀ m ∈ w.mutations, m.journal.length < w.records.length
  matched : r.eventType = .reconcileMatched → r.observedStateDigest = some (w.stateDigest sha)
  killing : r.eventType.killing = true →
    w.phase ≠ .bootReconcileRequired ∧ w.phase ≠ .restartAckRequired

/-- A step that leaves files, memory and phase alone. -/
structure E1World.QuietTo (w w' : E1World) : Prop where
  journalFile : w'.journalFile = w.journalFile
  venueFile : w'.venueFile = w.venueFile
  records : w'.records = w.records
  position : w'.position = w.position
  phase : w'.phase = w.phase
  journalPreexisting : w'.journalPreexisting = w.journalPreexisting
  mutations : w'.mutations = w.mutations
  mintedTexts : w.mintedTexts <+: w'.mintedTexts
  venueIncidents : w'.venueIncidents <:+ w.venueIncidents
  appendIncidents : w'.appendIncidents <:+ w.appendIncidents

def Enters (w : E1World) : EnginePhase → Prop
  | .bootReconcileRequired => False
  | .restartAckRequired =>
      w.records = w.journalFile.records ∧ w.killActive = false ∧ w.halted = false
  | .readyFlat | .positionOpen | .reconcileRequired | .halted => True

def Effect (token : ShadowGateToken) (before position : Option VirtualPosition) : Prop :=
  (token.action = .virtualEntry ∧ before = none ∧ position.isSome = true) ∨
    (token.action = .virtualSettlement ∧ before.isSome = true ∧ position = none)

/-- What the venue is changed on: the journal ends in the start of this execution, the
copy in memory is current, and nothing was changed since the start was recorded. -/
structure Changes (sha : Sha256) (w : E1World) (x : Execution)
    (position : Option VirtualPosition) : Prop where
  started : ∃ s, w.records.getLast? = some s ∧ x.Recorded .virtualExecutionStarted s
  durable : w.journalFile.records = w.records
  phase : w.phase = .readyFlat ∨ w.phase = .positionOpen
  current : w.venueFile = w.position
  before : x.before = w.stateDigest sha
  fresh : ∀ m ∈ w.mutations, m.journal.length < w.records.length
  effect : Effect x.token w.venueFile position

/-- One step of an engine: a quiet one, a change of phase, one record that is appended or
whose append fails, or one change of the stored position. -/
inductive E1Step (setup : E1Setup) (sha : Sha256) (start : List JournalRecord)
    (w w' : E1World) : Prop
  | quiet (same : w.QuietTo w')
  | enter (phase : EnginePhase) (enters : Enters w phase) (result : w' = { w with phase })
  | append (r : JournalRecord) (loaded : w.journalFile.load = .ok w.records)
      (admitted : Admitted setup sha start w.mintedTexts w.records r)
      (observed : Observed sha w r)
      (result : w' = w.appended r ∨ ∃ written, w' = w.writtenTo written r)
  | change (x : Execution) (position : Option VirtualPosition)
      (changes : Changes sha w x position)
      (result : w' = { w.replaced x.token position with position } ∨
        (w.venueIncidents.head? = some (.raises .directoryFsync) ∧
          w' = w.replaced x.token position))

/-- Sequences of steps, as a bound on the processes of the engine. -/
def e1Frame (setup : E1Setup) (sha : Sha256) (start : List JournalRecord) : Frame E1World where
  rel := Relation.ReflTransGen (E1Step setup sha start)
  refl _ := .refl
  trans h₁ h₂ := h₁.trans h₂

namespace Sample

def hypothesis : FrozenHypothesisSpec where
  hypothesisId := ⟨"H11", by decide +kernel⟩
  version := ⟨"v1", by decide +kernel⟩
  ruleDigest := hashPayload .checksum []

def policy : E1Policy where
  hypothesisRegistry := { specs := [hypothesis], unique := by simp }
  positive := by decide
  nonNegative := by decide +kernel

def setup : E1Setup := { runId := "run-1", policy }

/-- A frame at this second with a spread of a tenth of a pip. -/
def market (second : Int) : MarketFrame where
  evaluationTime := seconds second
  marketDataTime := seconds second
  bid := 150
  ask := 150 + 1 / 1000
  prices := by decide +kernel

def call (op : E1Op) : E1Input := .call { op }

def buy (second : Int) (fault : FaultInjection) : E1Op :=
  .processDecision
    (.hypothesis .buyCandidate hypothesis.hypothesisId hypothesis.version
      (setup.configHash .checksum) ⟨"BUY", by decide +kernel⟩)
    (market second) (some 149) fault

def started : List E1Input :=
  [.restart, call (.bootReconcile 0), call (.recordHeartbeat 0)]

/-- The position that a decision to buy as the third record opens. -/
def heldRef (second : Int) : LocalId :=
  makeLocalId .checksum "vposition"
    [("intent_id", .digest (makeLocalId .checksum "intent"
        (entryIdText setup .checksum .entryBuyCandidate 2 (seconds second)))),
      ("run_id", .text setup.runId)]

/-- A decision to settle the position that was opened at the earlier second. -/
def settle (opened second : Int) (fault : FaultInjection) : E1Op :=
  .processDecision
    (.settlement true (heldRef opened) (setup.configHash .checksum)
      ⟨"EXIT", by decide +kernel⟩)
    (market second) none fault

end Sample

end FxStrategyLab.E1
