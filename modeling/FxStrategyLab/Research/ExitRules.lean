import FxStrategyLab.Library.Rounding
import FxStrategyLab.Library.Spacing

/-!
# The simulators of the exit research

The exit research replays one list of signals under several exit rules.  The simulators share
the loop over the signals, which holds one position at a time; they differ in how a position
that a signal opens leaves the market: at a stop, a target or a deadline (A1 and the replay of
production) or at the deadline alone (A0).

**Results.** `simulate_apart`, `simulate_forall`, `scanExit_held` and `scanTime_held`.
-/

namespace FxStrategyLab.Research

open Library.Rounding (round roundHalfEven)

/-- The sides `BUY` and `SELL` of a signal. -/
inductive Side where
  | buy
  | sell
deriving DecidableEq

/-- `1.0 if side == "BUY" else -1.0`. -/
def Side.direction : Side → ℚ
  | .buy => 1
  | .sell => -1

/-- The price modes of `PriceFaces`. -/
inductive PriceMode where
  | legacyBidOnly
  | bidAskM1
deriving DecidableEq

/-- One row of the arrays: `minutes_index`, the price faces and `atr`. -/
structure Bar where
  minute : Int
  bidClose : ℚ
  bidHigh : ℚ
  bidLow : ℚ
  askClose : ℚ
  atr : ℚ
deriving Inhabited

/-- Source `PriceFaces`, with the minutes of its rows, which `_load_frame` sorts and makes
distinct. -/
structure PriceFaces where
  mode : PriceMode
  bars : List Bar
  increasing : bars.Pairwise fun earlier later => earlier.minute < later.minute

/-- A row and the side of its signal. -/
structure Signal where
  row : Nat
  side : Side
deriving DecidableEq

/-- The signals of a price series, as `_signal_rows` gives them. -/
structure SignalRows (faces : PriceFaces) where
  signals : List Signal
  increasing : signals.Pairwise fun earlier later => earlier.row ≤ later.row
  inside : ∀ signal ∈ signals, signal.row < faces.bars.length

structure A1Candidate where
  slR : ℚ
  tpR : ℚ

structure Trade where
  entryRow : Nat
  exitRow : Nat
  side : Side
  rawPips : ℚ
  holdMinutes : Int
  floorClamped : Bool
  capClamped : Bool

def pip : ℚ := 1 / 100

def tickSize : ℚ := 1 / 1000

def commonRFloorPips : ℚ := 3 / (8 / 10)

def commonRCapPips : ℚ := 20 / (12 / 10)

def a1MaxHoldMinutes : Int := 30

namespace PriceFaces

variable (faces : PriceFaces)

/-- `len(faces.bid_close)`. -/
def total : Nat := faces.bars.length

variable (row : Nat)

def bar : Bar := faces.bars.getD row default

/-- `minutes_index[row]`. -/
def minute : Int := (faces.bar row).minute

def entry (direction : ℚ) : ℚ :=
  if faces.mode = .bidAskM1 ∧ 0 < direction then (faces.bar row).askClose
  else (faces.bar row).bidClose

def exitClose (direction : ℚ) : ℚ :=
  if faces.mode = .bidAskM1 ∧ direction < 0 then (faces.bar row).askClose
  else (faces.bar row).bidClose

def exitHigh (direction : ℚ) : ℚ :=
  if faces.mode = .bidAskM1 ∧ direction < 0 then
    (faces.bar row).bidHigh + ((faces.bar row).askClose - (faces.bar row).bidClose)
  else (faces.bar row).bidHigh

def exitLow (direction : ℚ) : ℚ :=
  if faces.mode = .bidAskM1 ∧ direction < 0 then
    (faces.bar row).bidLow + ((faces.bar row).askClose - (faces.bar row).bidClose)
  else (faces.bar row).bidLow

/-- `range(row + 1, total)`. -/
def laterRows : List Nat :=
  List.range' (row + 1) (faces.total - (row + 1))

/-- `direction * (faces.exit_close(row, direction) - entry) / PIP`. -/
def closePips (direction entry : ℚ) (row : Nat) : ℚ :=
  direction * (faces.exitClose row direction - entry) / pip

/-- The low, or for a sell the high, of a bar reaches the stop. -/
def StopHit (direction stop : ℚ) (later : Nat) : Prop :=
  if 0 < direction then faces.exitLow later direction ≤ stop
  else stop ≤ faces.exitHigh later direction
deriving Decidable

/-- The high, or for a sell the low, of a bar reaches the target. -/
def TargetHit (direction target : ℚ) (later : Nat) : Prop :=
  if 0 < direction then target ≤ faces.exitHigh later direction
  else faces.exitLow later direction ≤ target
deriving Decidable

end PriceFaces

def quantize (price : ℚ) : ℚ :=
  round (roundHalfEven (price / tickSize) * tickSize) 6

def commonRPips (atrPriceUnits : ℚ) : ℚ × Bool × Bool :=
  let rawPips := 1 * (atrPriceUnits / pip)
  (min (max rawPips commonRFloorPips) commonRCapPips,
    decide (rawPips < commonRFloorPips), decide (commonRCapPips < rawPips))

section Loops

variable (faces : PriceFaces)

/-- The inner loop of a position with a stop, a target and a deadline. -/
def scanExit (direction entry stop target : ℚ) (deadlineMinute : Int) :
    List Nat → Option (ℚ × Nat)
  | [] => none
  | later :: rest =>
      if deadlineMinute < faces.minute later then
        some (faces.closePips direction entry (later - 1), later - 1)
      else if faces.StopHit direction stop later then
        some (direction * (stop - entry) / pip, later)
      else if faces.TargetHit direction target later then
        some (direction * (target - entry) / pip, later)
      else scanExit direction entry stop target deadlineMinute rest

/-- The inner loop of a position with a deadline alone. -/
def scanTime (deadlineMinute : Int) (exitRow : Nat) : List Nat → Nat
  | [] => exitRow
  | later :: rest =>
      if deadlineMinute < faces.minute later then later - 1
      else scanTime deadlineMinute later rest

/-- The loop over the signals: one that is not behind the last exit is passed over. -/
def simulate (tradeOf : Signal → Option Trade) : Int → List Signal → List Trade
  | _, [] => []
  | busyUntil, signal :: rest =>
      if (signal.row : Int) ≤ busyUntil then simulate tradeOf busyUntil rest
      else match tradeOf signal with
        | none => simulate tradeOf busyUntil rest
        | some trade => trade :: simulate tradeOf trade.exitRow rest

def A1Candidate.levels (candidate : A1Candidate) (signal : Signal) : ℚ × ℚ :=
  let direction := signal.side.direction
  let entry := faces.entry signal.row direction
  let commonR := (commonRPips (faces.bar signal.row).atr).1
  (quantize (entry - direction * (candidate.slR * commonR * pip)),
    quantize (entry + direction * (candidate.tpR * commonR * pip)))

/-- The body of the loop of `_simulate_a1`. -/
def a1Trade (candidate : A1Candidate) (signal : Signal) : Option Trade :=
  let direction := signal.side.direction
  let entry := faces.entry signal.row direction
  let clamped := (commonRPips (faces.bar signal.row).atr).2
  let levels := candidate.levels faces signal
  let deadlineMinute := faces.minute signal.row + a1MaxHoldMinutes
  match scanExit faces direction entry levels.1 levels.2 deadlineMinute
      (faces.laterRows signal.row) with
  | none => none
  | some (exitPips, exitRow) => some
      { entryRow := signal.row
        exitRow := exitRow
        side := signal.side
        rawPips := exitPips
        holdMinutes := faces.minute exitRow - faces.minute signal.row
        floorClamped := clamped.1
        capClamped := clamped.2 }

def simulateA1 (candidate : A1Candidate) (signals : List Signal) : List Trade :=
  simulate (a1Trade faces candidate) (-1) signals

/-- The body of the loop of `_simulate_prod_replay`. -/
def prodReplayTrade (timeoutMinutes : Int) (signal : Signal) : Option Trade :=
  let direction := signal.side.direction
  let entry := faces.entry signal.row direction
  let distance := 15 / 10 * (faces.bar signal.row).atr
  let stop := entry - direction * distance
  let target := entry + direction * distance * (15 / 10)
  let deadlineMinute := faces.minute signal.row + timeoutMinutes
  match scanExit faces direction entry stop target deadlineMinute
      (faces.laterRows signal.row) with
  | none => none
  | some (exitPips, exitRow) => some
      { entryRow := signal.row
        exitRow := exitRow
        side := signal.side
        rawPips := exitPips
        holdMinutes := faces.minute exitRow - faces.minute signal.row
        floorClamped := false
        capClamped := false }

def simulateProdReplay (timeoutMinutes : Int) (signals : List Signal) :
    Except String (List Trade) :=
  if timeoutMinutes ≤ 0 then .error "PROD_REPLAY_TIMEOUT_INVALID"
  else .ok (simulate (prodReplayTrade faces timeoutMinutes) (-1) signals)

/-- The exit row of `_simulate_a0`. -/
def timeExitRow (row : Nat) : Nat :=
  scanTime faces (faces.minute row + a1MaxHoldMinutes) row (faces.laterRows row)

/-- The body of the loop of `_simulate_a0`. -/
def a0Trade (signal : Signal) : Option Trade :=
  let direction := signal.side.direction
  let entry := faces.entry signal.row direction
  let exitRow := timeExitRow faces signal.row
  if exitRow = signal.row then none
  else some
    { entryRow := signal.row
      exitRow := exitRow
      side := signal.side
      rawPips := faces.closePips direction entry exitRow
      holdMinutes := faces.minute exitRow - faces.minute signal.row
      floorClamped := false
      capClamped := false }

def simulateA0 (signals : List Signal) : List Trade :=
  simulate (a0Trade faces) (-1) signals

end Loops

section Series

variable {faces : PriceFaces}

theorem PriceFaces.minute_lt {row later : Nat} (hlt : row < later)
    (hlater : later < faces.total) : faces.minute row < faces.minute later := by
  have hrow : row < faces.bars.length := hlt.trans hlater
  have hlater : later < faces.bars.length := hlater
  have h := (List.pairwise_iff_getElem.mp faces.increasing) row later hrow hlater hlt
  simpa [minute, bar, hrow, hlater] using h

theorem PriceFaces.minute_le {row later : Nat} (hle : row ≤ later)
    (hlater : later < faces.total) : faces.minute row ≤ faces.minute later := by
  rcases Nat.lt_or_eq_of_le hle with hlt | rfl
  · exact (minute_lt hlt hlater).le
  · exact le_rfl

end Series

section Positions

variable {tradeOf : Signal → Option Trade}

theorem simulate_forall {P : Trade → Prop} {signals : List Signal}
    (h : ∀ signal ∈ signals, ∀ trade ∈ tradeOf signal, P trade) (busyUntil : Int) :
    ∀ trade ∈ simulate tradeOf busyUntil signals, P trade := by
  induction signals generalizing busyUntil with
  | nil => simp [simulate]
  | cons signal rest ih =>
      have hrest := ih fun s hs => h s (List.mem_cons_of_mem signal hs)
      unfold simulate
      split_ifs
      · exact hrest busyUntil
      · cases htrade : tradeOf signal with
        | none => exact hrest busyUntil
        | some trade =>
            rintro t (_ | ⟨_, ht⟩)
            · exact h signal List.mem_cons_self trade htrade
            · exact hrest trade.exitRow t ht

/-- A trade opens at the row of its signal and is not closed before it. -/
def Forward (tradeOf : Signal → Option Trade) : Prop :=
  ∀ signal, ∀ trade ∈ tradeOf signal, trade.entryRow = signal.row ∧
    trade.entryRow ≤ trade.exitRow

theorem simulate_behind (h : Forward tradeOf) (signals : List Signal) (busyUntil : Int) :
    ∀ trade ∈ simulate tradeOf busyUntil signals, busyUntil < trade.entryRow := by
  induction signals generalizing busyUntil with
  | nil => simp [simulate]
  | cons signal rest ih =>
      unfold simulate
      split_ifs with hbusy
      · exact ih busyUntil
      · cases htrade : tradeOf signal with
        | none => exact ih busyUntil
        | some trade =>
            obtain ⟨hentry, hexit⟩ := h signal trade htrade
            rintro t (_ | ⟨_, ht⟩)
            · omega
            · have := ih trade.exitRow t ht
              omega

/-- **The trades of the loop never overlap.** -/
theorem simulate_apart (h : Forward tradeOf) (signals : List Signal) (busyUntil : Int) :
    (simulate tradeOf busyUntil signals).Pairwise fun t t' => t.exitRow < t'.entryRow := by
  induction signals generalizing busyUntil with
  | nil => simp [simulate]
  | cons signal rest ih =>
      unfold simulate
      split_ifs
      · exact ih busyUntil
      · cases tradeOf signal with
        | none => exact ih busyUntil
        | some trade =>
            refine List.pairwise_cons.mpr ⟨fun t ht => ?_, ih trade.exitRow⟩
            simpa using simulate_behind h rest trade.exitRow t ht

end Positions

section Exits

variable {faces : PriceFaces}

/-- **A position with a stop, a target and a deadline leaves on a row of the scan, or on the one
before, that is not past the deadline.** -/
theorem scanExit_held {direction entry stop target : ℚ} {deadlineMinute : Int} {first count : Nat}
    (hbefore : faces.minute (first - 1) ≤ deadlineMinute) {exit : ℚ × Nat}
    (h : scanExit faces direction entry stop target deadlineMinute (List.range' first count) =
      some exit) : first - 1 ≤ exit.2 ∧ faces.minute exit.2 ≤ deadlineMinute := by
  induction count generalizing first with
  | zero => simp [scanExit] at h
  | succ count ih =>
      rw [List.range'_succ] at h
      unfold scanExit at h
      split_ifs at h with hpast
      · obtain rfl := Option.some.inj h
        exact ⟨le_rfl, hbefore⟩
      · obtain rfl := Option.some.inj h
        exact ⟨Nat.sub_le _ _, not_lt.mp hpast⟩
      · obtain rfl := Option.some.inj h
        exact ⟨Nat.sub_le _ _, not_lt.mp hpast⟩
      · have hlater : faces.minute (first + 1 - 1) ≤ deadlineMinute := not_lt.mp hpast
        obtain ⟨hrow, hminute⟩ := ih hlater h
        exact ⟨by omega, hminute⟩

/-- **A position with a deadline alone leaves on the last row that is not past the deadline.** -/
theorem scanTime_held {deadlineMinute : Int} {exitRow count : Nat}
    (hbefore : faces.minute exitRow ≤ deadlineMinute) (hinside : exitRow + count < faces.total) :
    let final := scanTime faces deadlineMinute exitRow (List.range' (exitRow + 1) count)
    exitRow ≤ final ∧ final ≤ exitRow + count ∧ faces.minute final ≤ deadlineMinute ∧
      (final < exitRow + count → deadlineMinute < faces.minute (final + 1)) := by
  induction count generalizing exitRow with
  | zero => simp [scanTime, hbefore]
  | succ count ih =>
      rw [List.range'_succ]
      unfold scanTime
      split_ifs with hpast
      · simp [hbefore, hpast]
      · have hlater : faces.minute (exitRow + 1) ≤ deadlineMinute := not_lt.mp hpast
        obtain ⟨hfrom, hto, hminute, hnext⟩ := ih hlater (by omega)
        dsimp only at hfrom hto hminute hnext ⊢
        refine ⟨by omega, by omega, hminute, fun hlt => hnext (by omega)⟩

end Exits

end FxStrategyLab.Research
