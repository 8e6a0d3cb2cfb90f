import FxStrategyLab.Stage1.ReviewReport

/-!
# Daily runs and crashes

A daily run settles the open position, evaluates at most one entry, appends a journal line for
each and then writes the state in place.  A crash can come between any two of these writes and
inside the write of the state.  The state file that a crash cuts is never loaded again, and a
position whose settled line is in the journal but not in the state is settled once more.

**Results.** `journal_state_agree_iff`.
-/

namespace FxStrategyLab.Stage1

open Library
open V3 (H11Stage1Session H11Stage1StopState JstTime)

def entryEvalSlotsJst : List Nat := [10, 16, 22]

def entryEvaluationGate (nowJst : JstTime) (lastEntryEvalBarUtc : Option Instant)
    (latestBarUtc : Instant) : String :=
  if nowJst.hour ∉ entryEvalSlotsJst then "OFF_SCHEDULE_RUN"
  else if lastEntryEvalBarUtc = some latestBarUtc then "BAR_ALREADY_EVALUATED"
  else ""

/-- An open position, with the place of its line in the journal, which the state of the source
does not hold. -/
structure OpenEntry where
  entry : Nat
  position : Stage1OpenPosition

/-- Source `Stage1PersistentState`.  The settled positions behind `closedTrades` are not in the
state of the source. -/
structure Stage1PersistentState where
  stage1StartedAtUtc : JstTime
  stopState : H11Stage1StopState := .active
  killSwitchOn : Bool := false
  stoppedAtUtc : Option JstTime := none
  monthlyLossJpy : Int := 0
  dailyLossJpy : Int := 0
  consecutiveLosses : Int := 0
  tradesToday : Int := 0
  currentDay : Option TradingDay := none
  currentMonth : Option TradingMonth := none
  closedTrades : Nat := 0
  disciplineViolations : List String := []
  openPosition : Option OpenEntry := none
  lastEntryEvalBarUtc : Option Instant := none
  settledTrades : List SettledTrade := []

def dropSubsecond (time : JstTime) : JstTime :=
  { time with microsecond := time.microsecond / 1000000 * 1000000 }

def sessionFromState (state : Stage1PersistentState) : H11Stage1Session :=
  { stopState := state.stopState
    killSwitchOn := state.killSwitchOn
    disciplineViolationLog := state.disciplineViolations
    monthlyLossJpy := state.monthlyLossJpy
    dailyLossJpy := state.dailyLossJpy
    consecutiveLosses := state.consecutiveLosses
    tradesToday := state.tradesToday
    currentDay := state.currentDay
    currentMonth := state.currentMonth
    stoppedAt := state.stoppedAtUtc }

def stateFromSession (state : Stage1PersistentState) (session : H11Stage1Session) :
    Stage1PersistentState :=
  { state with
    stopState := session.stopState
    killSwitchOn := session.killSwitchOn
    disciplineViolations := session.disciplineViolationLog
    monthlyLossJpy := session.monthlyLossJpy
    dailyLossJpy := session.dailyLossJpy
    consecutiveLosses := session.consecutiveLosses
    tradesToday := session.tradesToday
    currentDay := session.currentDay.or state.currentDay
    currentMonth := session.currentMonth.or state.currentMonth
    stoppedAtUtc := session.stoppedAt.map dropSubsecond }

/-- The state file: no file, a state, or the text that a crash in its write left. -/
inductive StateFile
  | absent
  | whole (state : Stage1PersistentState)
  | cut

/-- Source `load_state`; the text of a cut file is no JSON value. -/
def loadState (file : StateFile) (nowUtc : JstTime) : Option Stage1PersistentState :=
  match file with
  | .absent => some { stage1StartedAtUtc := dropSubsecond nowUtc }
  | .whole state => some state
  | .cut => none

/-- Where a run crashes: after some of its journal lines, or in the write of the state. -/
inductive CrashPoint
  | afterAppends (lines : Nat)
  | duringStateWrite

/-- What a run meets: its clock, the clock of its two journal lines, the completed bars, and
its crash. -/
structure RunInput where
  nowJst : JstTime
  settledAtJst : JstTime
  evaluatedAtJst : JstTime
  bars : List H1Bar
  crash : Option CrashPoint

def RunInput.window (input : RunInput) : List H1Bar :=
  input.bars.drop (input.bars.length - 1500)

/-- What a run has in memory: its state, its session and the lines it appended. -/
structure RunMemory where
  state : Stage1PersistentState
  session : H11Stage1Session
  lines : List JournalRecord

def loadedMemory (state : Stage1PersistentState) : RunMemory :=
  { state, session := sessionFromState state, lines := [] }

/-- The settlement of a run of `main`. -/
def settleOpenPosition (input : RunInput) (memory : RunMemory) : RunMemory :=
  match memory.state.openPosition with
  | none => memory
  | some entry =>
      match settlePosition entry.position input.window with
      | none => memory
      | some (route, exitPrice) =>
          let pnl := paperPnlJpy entry.position.direction entry.position.entryPrice exitPrice
          let session := memory.session.recordPaperTradeOutcomeJpy pnl input.nowJst
          let closedTrades := memory.state.closedTrades + 1
          { state :=
              { memory.state with
                openPosition := none
                closedTrades
                settledTrades := memory.state.settledTrades ++
                  [{ entry := entry.entry
                     paperOutcomeJpy := pnl
                     recordedAtJst := input.settledAtJst }] }
            session
            lines := memory.lines ++
              [{ recordedAtJst := input.settledAtJst
                 event := .paperPositionSettled route pnl session.stopState closedTrades
                   entry.entry }] }

section Runs

variable (evaluate : List H1Bar → Option PreviewDecision)

/-- The evaluation of an entry in a run of `main`; the journal had `journalLength` lines before
the run. -/
def evaluateEntry (journalLength : Nat) (input : RunInput) (memory : RunMemory) : RunMemory :=
  match memory.state.openPosition, input.window.getLast? with
  | none, some latest =>
      let latestBarUtc := wholeSeconds latest.timeUtc
      let slotSkipReason :=
        entryEvaluationGate input.nowJst memory.state.lastEntryEvalBarUtc latestBarUtc
      let (session, gateReasons) := memory.session.preTradeGateReasons input.nowJst false
      let line (event : JournalEvent) : JournalRecord :=
        { recordedAtJst := input.evaluatedAtJst, event }
      let evaluated := { memory.state with lastEntryEvalBarUtc := some latestBarUtc }
      if slotSkipReason ≠ "" then
        { state := memory.state
          session
          lines := memory.lines ++ [line (.stage1EntryEvalSkipped slotSkipReason)] }
      else if gateReasons ≠ [] then
        { state := evaluated
          session
          lines := memory.lines ++ [line (.stage1BlockedPreTrade gateReasons)] }
      else
        match buildEntryDecision evaluate input.window with
        | some (.enter reason pUp position) =>
            { state :=
                { evaluated with
                  openPosition :=
                    some { entry := journalLength + memory.lines.length, position } }
              session := { session with tradesToday := session.tradesToday + 1 }
              lines := memory.lines ++
                [line (.paperEntryOpened position.direction reason pUp)] }
        | some (.noEntry reason pUp) =>
            { state := evaluated
              session
              lines := memory.lines ++ [line (.stage1NoEntry reason pUp)] }
        | none => { memory with session }
  | _, _ => memory

def runMemory (state : Stage1PersistentState) (journalLength : Nat) (input : RunInput) :
    RunMemory :=
  let memory :=
    evaluateEntry evaluate journalLength input (settleOpenPosition input (loadedMemory state))
  { memory with state := stateFromSession memory.state memory.session }

/-- The files of Stage 1. -/
structure Files where
  journal : List JournalRecord := []
  stateFile : StateFile := .absent

/-- A run of `main`: with too few bars, and with a state file that it cannot load, it writes
nothing. -/
def runMain (files : Files) (input : RunInput) : Files :=
  if input.bars.length < minBarsForFeatures then files
  else
    match loadState files.stateFile input.nowJst with
    | none => files
    | some state =>
        let memory := runMemory evaluate state files.journal.length input
        match input.crash with
        | none =>
            { journal := files.journal ++ memory.lines, stateFile := .whole memory.state }
        | some (.afterAppends lines) =>
            { files with journal := files.journal ++ memory.lines.take lines }
        | some .duringStateWrite =>
            { journal := files.journal ++ memory.lines, stateFile := .cut }

end Runs

variable (files : Files)

def Files.journalFile : Option (List JournalRecord) :=
  if files.journal = [] then none else some files.journal

/-- The next run can load the state, no entry has two settled lines, and every report counts
the settled positions of the persisted state. -/
def Files.JournalStateAgree : Prop :=
  ∀ now, ∃ state, loadState files.stateFile now = some state ∧
    (∀ entry, ((settledTrades files.journal).map SettledTrade.entry).count entry ≤ 1) ∧
    (∀ summary, summarizeH11Stage1Journal files.journalFile none none = .ok summary →
      summary.settleCount = state.closedTrades) ∧
    ∀ since final summary, summarizeH11Stage1Journal files.journalFile since final = .ok summary →
      summary.settleCount = (tradesIn since final state.settledTrades).length ∧
        summary.periodNetResult = netResult (tradesIn since final state.settledTrades)

/-- A run with this state file settles the open position. -/
def settlementDue (file : StateFile) (input : RunInput) : Bool :=
  match file with
  | .whole state =>
      state.openPosition.any fun entry =>
        (settlePosition entry.position input.window).isSome
  | _ => false

/-- The run does not crash in the write of the state, nor, when it settles a position, after
its settled line. -/
def SparesTheState (input : RunInput) : Prop :=
  input.bars.length < minBarsForFeatures ∨
    match input.crash with
    | none => True
    | some (.afterAppends lines) => lines = 0 ∨ settlementDue files.stateFile input = false
    | some .duringStateWrite => False

instance (files : Files) (input : RunInput) : Decidable (SparesTheState files input) := by
  unfold SparesTheState
  rcases input with ⟨now, settledAt, evaluatedAt, bars, crash⟩
  rcases crash with - | lines | -
  · exact inferInstanceAs (Decidable (_ ∨ True))
  · exact inferInstanceAs (Decidable (_ ∨ (_ ∨ _)))
  · exact inferInstanceAs (Decidable (_ ∨ False))

def JournalRecord.Opens (record : JournalRecord) : Prop :=
  ∃ direction reason pUp, record.event = .paperEntryOpened direction reason pUp

def OpenedAt (journal : List JournalRecord) (entry : Nat) : Prop :=
  ∃ record, journal[entry]? = some record ∧ record.Opens

variable {journal : List JournalRecord}

theorem OpenedAt.append {entry : Nat} (h : OpenedAt journal entry)
    (lines : List JournalRecord) : OpenedAt (journal ++ lines) entry := by
  obtain ⟨record, hrecord, hopens⟩ := h
  refine ⟨record, ?_, hopens⟩
  rw [List.getElem?_append_left (List.getElem?_eq_some_iff.mp hrecord).1]
  exact hrecord

theorem OpenedAt.lt {entry : Nat} (h : OpenedAt journal entry) : entry < journal.length := by
  obtain ⟨record, hrecord, -⟩ := h
  exact (List.getElem?_eq_some_iff.mp hrecord).1

/-- The state against the journal: its settled positions are counted, entered and pairwise
different, the journal settles at least as many, and the same ones if it settles no more. -/
structure Counted (journal : List JournalRecord) (state : Stage1PersistentState) : Prop where
  counted : state.closedTrades = state.settledTrades.length
  behind : state.settledTrades.length ≤ (settledTrades journal).length
  same : state.settledTrades.length = (settledTrades journal).length →
    settledTrades journal = state.settledTrades
  different : (state.settledTrades.map SettledTrade.entry).Nodup
  entered : ∀ trade ∈ state.settledTrades, OpenedAt journal trade.entry
  openEntered : ∀ entry ∈ state.openPosition,
    OpenedAt journal entry.entry ∧ entry.entry ∉ state.settledTrades.map SettledTrade.entry

theorem Counted.append {state : Stage1PersistentState}
    (h : Counted journal state) (lines : List JournalRecord) :
    Counted (journal ++ lines) state where
  counted := h.counted
  behind := by
    have := h.behind
    simp only [settledTrades_append, List.length_append]
    omega
  same := by
    intro hlength
    have hbehind := h.behind
    simp only [settledTrades_append, List.length_append] at hlength ⊢
    have hnone : settledTrades lines = [] := List.length_eq_zero_iff.mp (by omega)
    rw [hnone, List.append_nil]
    exact h.same (by omega)
  different := h.different
  entered := fun trade htrade => (h.entered trade htrade).append lines
  openEntered := fun entry hentry =>
    ⟨(h.openEntered entry hentry).1.append lines, (h.openEntered entry hentry).2⟩

theorem Counted.of_fields {state next : Stage1PersistentState}
    (h : Counted journal state) (hclosed : next.closedTrades = state.closedTrades)
    (htrades : next.settledTrades = state.settledTrades)
    (hopen : next.openPosition = state.openPosition) : Counted journal next where
  counted := by rw [hclosed, htrades, h.counted]
  behind := by rw [htrades]; exact h.behind
  same := by rw [htrades]; exact h.same
  different := by rw [htrades]; exact h.different
  entered := by rw [htrades]; exact h.entered
  openEntered := by rw [hopen, htrades]; exact h.openEntered

/-- **What the settlement of a run does.** It leaves everything, or it closes the open
position with one line for it. -/
theorem settle_cases (input : RunInput) (memory : RunMemory) :
    (memory.state.openPosition.any
        (fun entry => (settlePosition entry.position input.window).isSome) = false ∧
      settleOpenPosition input memory = memory) ∨
    ∃ entry trade line, memory.state.openPosition = some entry ∧
      (settlePosition entry.position input.window).isSome ∧
      trade.entry = entry.entry ∧ line.settled? = some trade ∧
      (settleOpenPosition input memory).state.openPosition = none ∧
      (settleOpenPosition input memory).state.closedTrades = memory.state.closedTrades + 1 ∧
      (settleOpenPosition input memory).state.settledTrades =
        memory.state.settledTrades ++ [trade] ∧
      (settleOpenPosition input memory).lines = memory.lines ++ [line] := by
  cases hopen : memory.state.openPosition with
  | none =>
      left
      simp [settleOpenPosition, hopen]
  | some entry =>
      cases hsettle : settlePosition entry.position input.window with
      | none =>
          left
          simp [settleOpenPosition, hopen, hsettle]
      | some exit =>
          right
          obtain ⟨route, exitPrice⟩ := exit
          let pnl := paperPnlJpy entry.position.direction entry.position.entryPrice exitPrice
          let session := memory.session.recordPaperTradeOutcomeJpy pnl input.nowJst
          refine ⟨entry, ⟨entry.entry, pnl, input.settledAtJst⟩,
            ⟨input.settledAtJst, .paperPositionSettled route pnl session.stopState
              (memory.state.closedTrades + 1) entry.entry⟩,
            rfl, ?_, rfl, rfl, ?_, ?_, ?_, ?_⟩ <;>
          simp [settleOpenPosition, hopen, hsettle, pnl, session]

section Runs

variable (evaluate : List H1Bar → Option PreviewDecision)

/-- **What the evaluation of an entry does.** It settles nothing, and a position that it opens
has its line at the end of the journal. -/
theorem evaluate_cases (journalLength : Nat) (input : RunInput) (memory : RunMemory) :
    let next := evaluateEntry evaluate journalLength input memory
    next.state.closedTrades = memory.state.closedTrades ∧
      next.state.settledTrades = memory.state.settledTrades ∧
      ∃ lines, next.lines = memory.lines ++ lines ∧ settledTrades lines = [] ∧
        (next.state.openPosition = memory.state.openPosition ∨
          ∃ position line, line.Opens ∧ lines = [line] ∧
            next.state.openPosition =
              some ⟨journalLength + memory.lines.length, position⟩) := by
  have hsame : memory.state.closedTrades = memory.state.closedTrades ∧
      memory.state.settledTrades = memory.state.settledTrades ∧
      ∃ lines, memory.lines = memory.lines ++ lines ∧ settledTrades lines = [] ∧
        (memory.state.openPosition = memory.state.openPosition ∨
          ∃ position line, line.Opens ∧ lines = [line] ∧
            memory.state.openPosition =
              some ⟨journalLength + memory.lines.length, position⟩) :=
    ⟨rfl, rfl, [], (List.append_nil _).symm, rfl, Or.inl rfl⟩
  dsimp only
  unfold evaluateEntry
  split
  next latest hopen hlatest =>
    dsimp only
    split_ifs with hskip hblocked
    · exact ⟨rfl, rfl, _, rfl, rfl, Or.inl rfl⟩
    · exact ⟨rfl, rfl, _, rfl, rfl, Or.inl rfl⟩
    · split
      next reason pUp position hdecision =>
        exact ⟨rfl, rfl, _, rfl, rfl, Or.inr ⟨position, _, ⟨_, _, _, rfl⟩, rfl, rfl⟩⟩
      next reason pUp hdecision =>
        exact ⟨rfl, rfl, _, rfl, rfl, Or.inl rfl⟩
      next => exact hsame
  next => exact hsame

def MemoryCounted (journal : List JournalRecord) (memory : RunMemory) : Prop :=
  Counted (journal ++ memory.lines) memory.state

variable {journal : List JournalRecord}

theorem settle_counted {memory : RunMemory} (input : RunInput)
    (h : MemoryCounted journal memory) :
    MemoryCounted journal (settleOpenPosition input memory) := by
  rcases settle_cases input memory with ⟨-, hsame⟩ |
    ⟨entry, trade, line, hopen, -, hentry, hline, hclosed, hcount, htrades, hlines⟩
  · rw [hsame]
    exact h
  have hsettled : settledTrades [line] = [trade] := by
    simp [settledTrades, hline]
  obtain ⟨hopened, hfresh⟩ := h.openEntered entry hopen
  unfold MemoryCounted
  rw [hlines, ← List.append_assoc]
  constructor
  · rw [hcount, htrades, h.counted, List.length_append]
    rfl
  · have hbehind := h.behind
    rw [htrades, settledTrades_append, hsettled]
    simp only [List.length_append]
    omega
  · intro hlength
    rw [htrades, settledTrades_append, hsettled] at *
    simp only [List.length_append, List.length_singleton, Nat.add_right_cancel_iff] at hlength
    rw [h.same hlength]
  · rw [htrades, List.map_append, List.map_singleton, hentry]
    exact List.nodup_append.mpr ⟨h.different, List.nodup_singleton _, fun a ha b hb => by
      rintro rfl
      exact hfresh (List.mem_singleton.mp hb ▸ ha)⟩
  · intro settled hmem
    rw [htrades] at hmem
    rcases List.mem_append.mp hmem with hold | hnew
    · exact (h.entered settled hold).append [line]
    · rw [List.mem_singleton.mp hnew, hentry]
      exact hopened.append [line]
  · intro other hother
    rw [hclosed] at hother
    cases hother

theorem evaluate_counted {memory : RunMemory} (input : RunInput)
    (h : MemoryCounted journal memory) :
    MemoryCounted journal (evaluateEntry evaluate journal.length input memory) := by
  obtain ⟨hcount, htrades, lines, hlines, hnone, hopen⟩ :=
    evaluate_cases evaluate journal.length input memory
  have happended := h.append lines
  unfold MemoryCounted
  rw [hlines, ← List.append_assoc]
  rcases hopen with hopen | ⟨position, line, hopens, hline, hopen⟩
  · exact happended.of_fields hcount htrades hopen
  refine
    { counted := ?_, behind := ?_, same := ?_, different := ?_, entered := ?_, openEntered := ?_ }
  · rw [hcount, htrades]
    exact h.counted
  · rw [htrades]
    exact happended.behind
  · rw [htrades]
    exact happended.same
  · rw [htrades]
    exact h.different
  · rw [htrades]
    exact happended.entered
  · intro entry hentry
    rw [hopen, Option.mem_some_iff] at hentry
    subst hentry
    constructor
    · refine ⟨line, ?_, hopens⟩
      rw [hline, ← List.length_append, List.getElem?_append_right le_rfl, Nat.sub_self]
      rfl
    · intro hmem
      rw [htrades] at hmem
      obtain ⟨trade, htrade, hsame⟩ := List.mem_map.mp hmem
      have hlt := (h.entered trade htrade).lt
      rw [hsame, List.length_append] at hlt
      exact lt_irrefl _ hlt

variable {state : Stage1PersistentState}

theorem run_counted (input : RunInput) (h : Counted journal state) :
    Counted (journal ++ (runMemory evaluate state journal.length input).lines)
      (runMemory evaluate state journal.length input).state := by
  have hstart : MemoryCounted journal (loadedMemory state) := by
    unfold MemoryCounted loadedMemory
    rw [List.append_nil]
    exact h
  have hend := evaluate_counted evaluate input (settle_counted input hstart)
  exact hend.of_fields rfl rfl rfl

theorem runMemory_lines (state : Stage1PersistentState) (journalLength : Nat) (input : RunInput) :
    (runMemory evaluate state journalLength input).lines =
      (evaluateEntry evaluate journalLength input
        (settleOpenPosition input (loadedMemory state))).lines :=
  rfl

theorem runMemory_trades (state : Stage1PersistentState) (journalLength : Nat)
    (input : RunInput) :
    (runMemory evaluate state journalLength input).state.settledTrades =
      (evaluateEntry evaluate journalLength input
        (settleOpenPosition input (loadedMemory state))).state.settledTrades :=
  rfl

/-- **The lines of a run.** They settle what the state gains, nothing if no settlement is due,
and the first of them settles if one is. -/
theorem run_lines (state : Stage1PersistentState) (journalLength : Nat) (input : RunInput) :
    let memory := runMemory evaluate state journalLength input
    memory.state.settledTrades.length =
        state.settledTrades.length + (settledTrades memory.lines).length ∧
      (settlementDue (.whole state) input = false → settledTrades memory.lines = []) ∧
      (settlementDue (.whole state) input = true →
        ∃ trade line lines, memory.lines = line :: lines ∧ line.settled? = some trade) := by
  intro memory
  obtain ⟨-, htrades, lines, hlines, hnone, -⟩ :=
    evaluate_cases evaluate journalLength input (settleOpenPosition input (loadedMemory state))
  rw [← runMemory_lines] at hlines
  rw [← runMemory_trades] at htrades
  rcases settle_cases input (loadedMemory state) with ⟨hdue, hsame⟩ |
    ⟨entry, trade, line, hopen, hsettle, -, hline, -, -, hsettled, hfirst⟩
  · rw [hsame] at hlines htrades
    have hlinesOnly : memory.lines = lines := hlines
    have hquiet : settledTrades memory.lines = [] := by
      rw [hlinesOnly]
      exact hnone
    refine ⟨?_, fun _ => hquiet, fun h => ?_⟩
    · rw [hquiet]
      exact congrArg List.length htrades
    · have hfalse : settlementDue (.whole state) input = false := hdue
      rw [hfalse] at h
      cases h
  · rw [hfirst] at hlines
    have hlinesOnly : memory.lines = line :: lines := hlines
    have hcons : settledTrades (line :: lines) = [trade] := by
      have hrest : settledTrades lines = [] := hnone
      unfold settledTrades at hrest ⊢
      rw [List.filterMap_cons_some hline, hrest]
    refine ⟨?_, fun h => ?_, fun _ => ⟨trade, line, lines, hlinesOnly, hline⟩⟩
    · rw [hlinesOnly, hcons]
      exact (congrArg List.length (htrades.trans hsettled)).trans List.length_append
    · have htrue : settlementDue (.whole state) input = true := by
        have hstate : state.openPosition = some entry := hopen
        rw [settlementDue, hstate, Option.any_some]
        exact hsettle
      rw [htrue] at h
      cases h

/-- The settled positions of the persisted state, if the state can be loaded. -/
def persistedTrades : StateFile → Option (List SettledTrade)
  | .absent => some []
  | .whole state => some state.settledTrades
  | .cut => none

variable (files : Files)

/-- The journal settles no more than the persisted state. -/
def InStep : Prop :=
  ∃ trades, persistedTrades files.stateFile = some trades ∧
    (settledTrades files.journal).length ≤ trades.length

def FilesCounted : Prop :=
  ∀ now state, loadState files.stateFile now = some state → Counted files.journal state

theorem persisted_of_load {file : StateFile} {now : JstTime}
    (h : loadState file now = some state) : persistedTrades file = some state.settledTrades := by
  cases file with
  | absent =>
      cases Option.some.inj h
      rfl
  | whole saved =>
      cases Option.some.inj h
      rfl
  | cut => cases h

theorem due_of_load {file : StateFile} {now : JstTime}
    (h : loadState file now = some state) (input : RunInput) :
    settlementDue (.whole state) input = settlementDue file input := by
  cases file with
  | absent =>
      cases Option.some.inj h
      rfl
  | whole saved =>
      cases Option.some.inj h
      rfl
  | cut => cases h

theorem runMain_counted (input : RunInput) (h : FilesCounted files) :
    FilesCounted (runMain evaluate files input) := by
  unfold runMain
  split_ifs with hbars
  · exact h
  split
  next => exact h
  next state hload =>
    have hstate := h _ _ hload
    dsimp only
    split
    next hcrash =>
      intro now loaded hloaded
      cases Option.some.inj hloaded
      exact run_counted evaluate input hstate
    next lines hcrash =>
      intro now loaded hloaded
      exact (h now loaded hloaded).append _
    next hcrash =>
      intro now loaded hloaded
      cases hloaded

theorem runMain_outOfStep (input : RunInput) (h : ¬ InStep files) :
    ¬ InStep (runMain evaluate files input) := by
  unfold runMain
  split_ifs with hbars
  · exact h
  split
  next => exact h
  next state hload =>
    have hpersisted := persisted_of_load hload
    have hahead : state.settledTrades.length < (settledTrades files.journal).length := by
      by_contra hle
      exact h ⟨_, hpersisted, Nat.le_of_not_lt hle⟩
    obtain ⟨hgain, -, -⟩ := run_lines evaluate state files.journal.length input
    dsimp only at hgain ⊢
    rintro ⟨trades, htrades, hle⟩
    revert htrades hle
    split
    next hcrash =>
      intro htrades hle
      cases Option.some.inj htrades
      rw [settledTrades_append, List.length_append] at hle
      omega
    next lines hcrash =>
      intro htrades hle
      rw [hpersisted] at htrades
      cases Option.some.inj htrades
      rw [settledTrades_append, List.length_append] at hle
      omega
    next hcrash =>
      intro htrades hle
      cases htrades

/-- The first lines of a run settle nothing exactly when there are none or no settlement is
due. -/
theorem take_lines_quiet (state : Stage1PersistentState) (journalLength : Nat)
    (input : RunInput) (lines : Nat) :
    settledTrades ((runMemory evaluate state journalLength input).lines.take lines) = [] ↔
      lines = 0 ∨ settlementDue (.whole state) input = false := by
  obtain ⟨-, hquiet, hfirst⟩ := run_lines evaluate state journalLength input
  cases hdue : settlementDue (.whole state) input with
  | false =>
      refine iff_of_true ?_ (Or.inr rfl)
      have hall := hquiet hdue
      rw [← List.take_append_drop lines
        (runMemory evaluate state journalLength input).lines] at hall
      rw [settledTrades_append] at hall
      exact (List.append_eq_nil_iff.mp hall).1
  | true =>
      obtain ⟨trade, line, rest, hlines, hline⟩ := hfirst hdue
      cases lines with
      | zero => simp
      | succ lines =>
          refine iff_of_false ?_ (by simp)
          rw [hlines, List.take_succ_cons]
          unfold settledTrades
          rw [List.filterMap_cons_some hline]
          exact List.cons_ne_nil _ _

/-- **One run.** Files in step stay in step exactly when the run spares the state. -/
theorem runMain_inStep (input : RunInput) (hcounted : FilesCounted files)
    (h : InStep files) : InStep (runMain evaluate files input) ↔ SparesTheState files input := by
  obtain ⟨trades, htrades, hle⟩ := h
  unfold runMain SparesTheState
  by_cases hbars : input.bars.length < minBarsForFeatures
  · rw [if_pos hbars]
    exact iff_of_true ⟨trades, htrades, hle⟩ (Or.inl hbars)
  rw [if_neg hbars, or_iff_right hbars]
  split
  next hload =>
    cases hfile : files.stateFile <;> rw [hfile] at hload htrades <;> cases hload
    cases htrades
  next state hload =>
    have hstate := hcounted _ _ hload
    rw [persisted_of_load hload] at htrades
    cases Option.some.inj htrades
    have hsame : (settledTrades files.journal).length = state.settledTrades.length :=
      le_antisymm hle hstate.behind
    obtain ⟨hgain, -, -⟩ := run_lines evaluate state files.journal.length input
    dsimp only at hgain ⊢
    cases input.crash with
    | none =>
        refine iff_of_true ⟨_, rfl, ?_⟩ trivial
        rw [settledTrades_append, List.length_append]
        omega
    | some crash =>
        cases crash with
        | afterAppends lines =>
            simp only []
            rw [← due_of_load hload input,
              ← take_lines_quiet evaluate state files.journal.length input lines]
            constructor
            · rintro ⟨kept, hkept, hlength⟩
              rw [persisted_of_load hload] at hkept
              cases Option.some.inj hkept
              rw [settledTrades_append, List.length_append] at hlength
              exact List.length_eq_zero_iff.mp (by omega)
            · intro hquiet
              refine ⟨_, persisted_of_load hload, ?_⟩
              rw [settledTrades_append, hquiet, List.append_nil]
              exact hle
        | duringStateWrite =>
            refine iff_of_false ?_ id
            rintro ⟨kept, hkept, -⟩
            cases hkept

end Runs

theorem journalFile_getD : files.journalFile.getD [] = files.journal := by
  unfold Files.journalFile
  split_ifs with hempty
  · rw [hempty]
    rfl
  · rfl

/-- **What the files say.** Journal and state agree exactly when they are in step. -/
theorem agree_iff_inStep (h : FilesCounted files) : files.JournalStateAgree ↔ InStep files := by
  constructor
  · intro hagree
    obtain ⟨state, hload, -, -, hreport⟩ := hagree { day := 0, microsecond := 0 }
    obtain ⟨summary, hsummary⟩ := summarize_all files.journalFile
    obtain ⟨hcount, -⟩ := report_counts hsummary
    obtain ⟨hstate, -⟩ := hreport none none summary hsummary
    rw [tradesIn_all, journalFile_getD] at hcount
    rw [tradesIn_all] at hstate
    exact ⟨_, persisted_of_load hload, by omega⟩
  · rintro ⟨trades, htrades, hle⟩ now
    have hloaded : ∃ state, loadState files.stateFile now = some state := by
      cases hfile : files.stateFile with
      | absent => exact ⟨_, rfl⟩
      | whole state => exact ⟨_, rfl⟩
      | cut =>
          rw [hfile] at htrades
          cases htrades
    obtain ⟨state, hload⟩ := hloaded
    have hcounted := h now state hload
    rw [persisted_of_load hload] at htrades
    cases Option.some.inj htrades
    have hsame := hcounted.same (le_antisymm hcounted.behind hle)
    refine ⟨state, hload, fun entry => ?_, fun summary hsummary => ?_,
      fun since final summary hsummary => ?_⟩
    · rw [hsame]
      exact List.nodup_iff_count_le_one.mp hcounted.different entry
    · have hcount := (report_counts hsummary).1
      rw [tradesIn_all, journalFile_getD, hsame] at hcount
      rw [hcount, hcounted.counted]
    · have hcounts := report_counts hsummary
      rwa [journalFile_getD, hsame] at hcounts

theorem filesCounted_start : FilesCounted {} := by
  intro now state h
  cases Option.some.inj h
  exact
    { counted := rfl
      behind := le_rfl
      same := fun _ => rfl
      different := List.nodup_nil
      entered := fun trade h => absurd h List.not_mem_nil
      openEntered := fun entry h => by cases h }

/-- **Journal and state across crashes.** After a sequence of daily runs the journal and the
state agree exactly when no run crashed in the write of the state, or between the settled line
of a position and the end of that write. -/
theorem journal_state_agree_iff (evaluate : List H1Bar → Option PreviewDecision)
    (runs : List RunInput) :
    (after (runMain evaluate) {} runs).JournalStateAgree ↔
      MeetsAlong (runMain evaluate) SparesTheState {} runs := by
  have hcounted : FilesCounted (after (runMain evaluate) {} runs) :=
    invariant_after (C := fun _ _ => True) (fun files input h _ => runMain_counted evaluate
      files input h) filesCounted_start (meetsAlong_always fun _ _ => trivial)
  rw [agree_iff_inStep _ hcounted]
  exact after_iff_meetsAlong (fun files input h => runMain_counted evaluate files input h)
    (fun files input hcount hstep => runMain_inStep evaluate files input hcount hstep)
    (fun files input h => runMain_outOfStep evaluate files input h) filesCounted_start
    ⟨[], rfl, le_rfl⟩

def fallingBars (count : Nat) : List H1Bar :=
  (List.range count).map fun (n : Nat) =>
    { timeUtc := wallSeconds (3600 * (n : Int))
      openPrice := 100
      high := 100 + 1 / 20
      low := if n < 703 then 100 - 1 / 20 else 99
      close := if n < 703 then 100 else 99 }

def hourlyRun (hourJst count : Nat) (crash : Option CrashPoint) : RunInput :=
  let now : JstTime := { day := 29, microsecond := hourJst * 3600000000 }
  { nowJst := now, settledAtJst := now, evaluatedAtJst := now, bars := fallingBars count, crash }

/-- A run opens a position, the next one crashes after its settled line, and the third settles
the position again. -/
def cutOffRuns : List RunInput :=
  [hourlyRun 16 703 none, hourlyRun 17 704 (some (.afterAppends 1)), hourlyRun 18 705 none]

/-- The position that the second run settles has two settled lines. -/
theorem settled_twice :
    ¬ (after (runMain fun _ => some (.trade .paperLong "TREND" (3 / 5))) {}
      cutOffRuns).JournalStateAgree := by
  intro h
  obtain ⟨state, -, honce, -⟩ := h { day := 29, microsecond := 0 }
  have htwice : ((settledTrades (after
      (runMain fun _ => some (.trade .paperLong "TREND" (3 / 5))) {}
        cutOffRuns).journal).map SettledTrade.entry).count 0 = 2 := by
    decide +kernel
  exact absurd (honce 0) (by rw [htwice]; decide)

end FxStrategyLab.Stage1
