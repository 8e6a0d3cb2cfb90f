import FxStrategyLab.Library.Gates
import FxStrategyLab.RiskGate

/-!
# The portfolio controls of the exit policy

This file embeds `evaluate_g019_layer2` of `v4_gmo_g019_exit_policy.py` and the risk gate
asked for one trade after another.  Both are gates over the trades that were accepted
before: the simulation adds up the results of a day and of a month, gains included, and
starts anew in every month, while the live gate adds up losses only and never lifts the
stop of a monthly budget.

**Results.** `layer2_decisions` and `live_decisions` refine the two machines to their
gates, and `layer2_agrees_with_live_iff` says when the two accept the same trades.
-/

namespace FxStrategyLab

open Library

structure V4GmoLayer2Trade where
  tradingDay : TradingDay
  realizedPnlJpy : Int

def g019MaxEntriesPerDay : Nat := 30
def g019DailyLossLimitJpy : Int := 10000
def g019MonthlyLossLimitJpy : Int := 50000
def g019ConsecutiveLossLimit : Nat := 5

/-- The local variables of `evaluate_g019_layer2`. -/
structure Layer2State where
  accepted : Nat := 0
  rejected : Nat := 0
  totalPnl : Int := 0
  monthlyPnl : Int := 0
  dailyLossHalts : Finset TradingDay := ∅
  consecutiveLossHalt : Bool := false
  monthlyHalt : Bool := false
  monthlyHaltObserved : Bool := false
  currentMonth : Option TradingMonth := none
  currentDay : Option TradingDay := none
  dailyCount : Nat := 0
  dailyPnl : Int := 0
  consecutiveLosses : Nat := 0

/-- Source `V4GmoLayer2Result`, without its constant fields. -/
structure V4GmoLayer2Result where
  acceptedTradeCount : Nat
  rejectedTradeCount : Nat
  realizedPnlJpy : Int
  dailyLossHaltCount : Nat
  monthlyLossHalt : Bool
  consecutiveLossHaltCount : Nat

namespace Layer2State

/-- The first two conditionals of the loop: a new month and a new day. -/
def roll (state : Layer2State) (day : TradingDay) : Layer2State :=
  let turned :=
    if state.currentMonth ≠ some (tradingMonth day) then
      { state with
        currentMonth := some (tradingMonth day)
        monthlyPnl := 0
        monthlyHalt := false }
    else state
  if turned.currentDay ≠ some day then
    { turned with currentDay := some day, dailyCount := 0, dailyPnl := 0 }
  else turned

variable (state : Layer2State)

/-- The condition on which a trade is rejected. -/
def blocks (day : TradingDay) : Bool :=
  state.monthlyHalt || decide (g019MaxEntriesPerDay ≤ state.dailyCount) ||
    decide (day ∈ state.dailyLossHalts) || state.consecutiveLossHalt

def count (pnl : Int) : Layer2State :=
  { state with
    accepted := state.accepted + 1
    dailyCount := state.dailyCount + 1
    dailyPnl := state.dailyPnl + pnl
    monthlyPnl := state.monthlyPnl + pnl
    totalPnl := state.totalPnl + pnl
    consecutiveLosses := if pnl < 0 then state.consecutiveLosses + 1 else 0 }

def halt (day : TradingDay) : Layer2State :=
  { state with
    dailyLossHalts :=
      if state.dailyPnl ≤ -g019DailyLossLimitJpy then insert day state.dailyLossHalts
      else state.dailyLossHalts
    consecutiveLossHalt :=
      decide (g019ConsecutiveLossLimit ≤ state.consecutiveLosses) || state.consecutiveLossHalt
    monthlyHalt := decide (state.monthlyPnl ≤ -g019MonthlyLossLimitJpy) || state.monthlyHalt
    monthlyHaltObserved :=
      decide (state.monthlyPnl ≤ -g019MonthlyLossLimitJpy) || state.monthlyHaltObserved }

/-- One turn of the loop, with its decision. -/
def step (trade : V4GmoLayer2Trade) : Layer2State × Bool :=
  let rolled := state.roll trade.tradingDay
  if rolled.blocks trade.tradingDay then ({ rolled with rejected := rolled.rejected + 1 }, false)
  else ((rolled.count trade.realizedPnlJpy).halt trade.tradingDay, true)

end Layer2State

def evaluateG019Layer2 (trades : List V4GmoLayer2Trade) : V4GmoLayer2Result :=
  let state := trades.foldl (fun (state : Layer2State) trade => (state.step trade).1)
    ({} : Layer2State)
  { acceptedTradeCount := state.accepted
    rejectedTradeCount := state.rejected
    realizedPnlJpy := state.totalPnl
    dailyLossHaltCount := state.dailyLossHalts.card
    monthlyLossHalt := state.monthlyHaltObserved
    consecutiveLossHaltCount := if state.consecutiveLossHalt then 1 else 0 }

def layer2Decisions (trades : List V4GmoLayer2Trade) : List Bool :=
  machineDecisions Layer2State.step ({} : Layer2State) trades

/-- Ask the gate for a trade; when it is allowed, record the entry and its result. -/
def liveStep (sha : Sha256) (policy : PhaseBRiskPolicy) (state : PhaseBRiskState)
    (trade : V4GmoLayer2Trade) : Except V4Error (PhaseBRiskState × Bool) := do
  let (rolled, gate) ← evaluateRiskBeforeEntry sha policy state trade.tradingDay
  if gate.allowed then do
    let entered ← recordRiskEntryAttempt sha policy rolled trade.tradingDay
    let closed ← recordClosedResult sha policy entered trade.tradingDay trade.realizedPnlJpy
    return (closed, true)
  else return (rolled, false)

/-- Which trades the live gate accepts, from a new risk state. -/
def liveDecisions (sha : Sha256) (policy : PhaseBRiskPolicy)
    (trades : List V4GmoLayer2Trade) : Except V4Error (List Bool) :=
  raisingDecisions (liveStep sha policy) { policyDigest := policy.digest sha } trades

/-- The limits of the simulation, in a policy. -/
structure G019Limits (policy : PhaseBRiskPolicy) : Prop where
  perTrade : policy.perTradeLossBoundJpy = 5000
  daily : policy.dailyLossLimitJpy = g019DailyLossLimitJpy
  monthly : policy.monthlyLossLimitJpy = g019MonthlyLossLimitJpy
  consecutive : policy.maximumConsecutiveLosses = g019ConsecutiveLossLimit
  entries : policy.maximumEntriesPerDay = g019MaxEntriesPerDay

def tradeRecords (taken : List V4GmoLayer2Trade) : List RiskRecord :=
  taken.flatMap fun trade =>
    [.entry trade.tradingDay, .closed trade.tradingDay trade.realizedPnlJpy]

/-- The result of a day, gains included. -/
def netOn (taken : List V4GmoLayer2Trade) (day : TradingDay) : Int :=
  ((taken.filter fun trade => trade.tradingDay = day).map
    V4GmoLayer2Trade.realizedPnlJpy).sum

/-- The result of a month, gains included. -/
def netIn (taken : List V4GmoLayer2Trade) (month : TradingMonth) : Int :=
  ((taken.filter fun trade => tradingMonth trade.tradingDay = month).map
    V4GmoLayer2Trade.realizedPnlJpy).sum

/-- What both gates ask of the trades accepted before: fewer than five losses in a row
and fewer than thirty entries on the day. -/
def CountsClear (taken : List V4GmoLayer2Trade) (trade : V4GmoLayer2Trade) : Prop :=
  losingRun (tradeRecords taken) < g019ConsecutiveLossLimit ∧
    entriesOn (tradeRecords taken) trade.tradingDay < g019MaxEntriesPerDay
deriving Decidable

/-- The limits on the results of the day and the month, gains included. -/
def NetClear (taken : List V4GmoLayer2Trade) (trade : V4GmoLayer2Trade) : Prop :=
  -g019DailyLossLimitJpy < netOn taken trade.tradingDay ∧
    -g019MonthlyLossLimitJpy < netIn taken (tradingMonth trade.tradingDay)
deriving Decidable

/-- The limits on the losses of the day and of every month so far. -/
def LossesClear (taken : List V4GmoLayer2Trade) (trade : V4GmoLayer2Trade) : Prop :=
  lossesOn (tradeRecords taken) trade.tradingDay < g019DailyLossLimitJpy ∧
    ∀ before ∈ taken,
      lossesIn (tradeRecords taken) (tradingMonth before.tradingDay) < g019MonthlyLossLimitJpy
deriving Decidable

def layer2Allows (taken : List V4GmoLayer2Trade) (trade : V4GmoLayer2Trade) : Bool :=
  decide (CountsClear taken trade ∧ NetClear taken trade)

def liveAllows (taken : List V4GmoLayer2Trade) (trade : V4GmoLayer2Trade) : Bool :=
  decide (CountsClear taken trade ∧ LossesClear taken trade)

variable {taken rest trades : List V4GmoLayer2Trade} {trade : V4GmoLayer2Trade}

theorem layer2Allows_iff :
    layer2Allows taken trade = true ↔ CountsClear taken trade ∧ NetClear taken trade := by
  rw [layer2Allows, decide_eq_true_eq]

theorem liveAllows_iff :
    liveAllows taken trade = true ↔ CountsClear taken trade ∧ LossesClear taken trade := by
  rw [liveAllows, decide_eq_true_eq]

section Measures

variable (taken : List V4GmoLayer2Trade) (trade : V4GmoLayer2Trade)

theorem mem_recordDays {day : TradingDay} :
    day ∈ recordDays (tradeRecords taken) ↔ ∃ before ∈ taken, before.tradingDay = day := by
  simp only [recordDays, tradeRecords, List.mem_filterMap, List.mem_flatMap, List.mem_cons,
    List.not_mem_nil, or_false]
  constructor
  · rintro ⟨record, ⟨before, hbefore, rfl | rfl⟩, hday⟩
    · exact ⟨before, hbefore, Option.some.inj hday⟩
    · exact ⟨before, hbefore, Option.some.inj hday⟩
  · rintro ⟨before, hbefore, rfl⟩
    exact ⟨_, ⟨before, hbefore, Or.inl rfl⟩, rfl⟩

theorem tradeRecords_append :
    tradeRecords (taken ++ [trade]) = tradeRecords taken ++
      [.entry trade.tradingDay] ++ [.closed trade.tradingDay trade.realizedPnlJpy] := by
  simp [tradeRecords]

@[simp]
theorem netOn_append (day : TradingDay) :
    netOn (taken ++ [trade]) day =
      netOn taken day + if trade.tradingDay = day then trade.realizedPnlJpy else 0 := by
  by_cases h : trade.tradingDay = day <;> simp [netOn, List.filter_append, h]

@[simp]
theorem netIn_append (month : TradingMonth) :
    netIn (taken ++ [trade]) month = netIn taken month +
      if tradingMonth trade.tradingDay = month then trade.realizedPnlJpy else 0 := by
  by_cases h : tradingMonth trade.tradingDay = month <;> simp [netIn, List.filter_append, h]

theorem closedLosses_nonneg {history : List RiskRecord} {loss : TradingDay × Int}
    (h : loss ∈ closedLosses history) : 0 ≤ loss.2 := by
  obtain ⟨record, -, hrecord⟩ := List.mem_filterMap.mp h
  cases record with
  | closed day pnl =>
      cases hrecord
      exact lossOf_nonneg pnl
  | entry day => cases hrecord
  | killed => cases hrecord

theorem lossesOn_nonneg (history : List RiskRecord) (day : TradingDay) :
    0 ≤ lossesOn history day := by
  refine List.sum_nonneg ?_
  intro loss hloss
  obtain ⟨entry, hmem, rfl⟩ := List.mem_map.mp hloss
  exact closedLosses_nonneg (List.mem_filter.mp hmem).1

theorem lossesIn_nonneg (history : List RiskRecord) (month : TradingMonth) :
    0 ≤ lossesIn history month := by
  refine List.sum_nonneg ?_
  intro loss hloss
  obtain ⟨entry, hmem, rfl⟩ := List.mem_map.mp hloss
  exact closedLosses_nonneg (List.mem_filter.mp hmem).1

theorem neg_lossesOn_le_netOn (day : TradingDay) :
    -lossesOn (tradeRecords taken) day ≤ netOn taken day := by
  induction taken using List.reverseRecOn with
  | nil => simp [lossesOn, closedLosses, tradeRecords, netOn]
  | append_singleton taken trade ih =>
      rw [tradeRecords_append, lossesOn_closed, lossesOn_entry, netOn_append]
      have hloss : -lossOf trade.realizedPnlJpy ≤ trade.realizedPnlJpy := by
        unfold lossOf
        omega
      split_ifs <;> omega

theorem neg_lossesIn_le_netIn (month : TradingMonth) :
    -lossesIn (tradeRecords taken) month ≤ netIn taken month := by
  induction taken using List.reverseRecOn with
  | nil => simp [lossesIn, closedLosses, tradeRecords, netIn]
  | append_singleton taken trade ih =>
      rw [tradeRecords_append, lossesIn_closed, lossesIn_entry, netIn_append]
      have hloss : -lossOf trade.realizedPnlJpy ≤ trade.realizedPnlJpy := by
        unfold lossOf
        omega
      split_ifs <;> omega

theorem netIn_eq_zero {month : TradingMonth}
    (h : ∀ before ∈ taken, tradingMonth before.tradingDay ≠ month) : netIn taken month = 0 := by
  have hnone : taken.filter (fun trade => tradingMonth trade.tradingDay = month) = [] :=
    List.filter_eq_nil_iff.mpr fun before hbefore => by simpa using h before hbefore
  simp [netIn, hnone]

theorem lossesIn_tradeRecords_eq_zero {month : TradingMonth}
    (h : ∀ before ∈ taken, tradingMonth before.tradingDay ≠ month) :
    lossesIn (tradeRecords taken) month = 0 := by
  refine lossesIn_eq_zero _ _ ?_
  intro d hd heq
  obtain ⟨before, hbefore, rfl⟩ := (mem_recordDays taken).mp hd
  exact h before hbefore heq

theorem netOn_eq_zero {day : TradingDay}
    (h : ∀ before ∈ taken, before.tradingDay ≠ day) : netOn taken day = 0 := by
  have hnone : taken.filter (fun trade => trade.tradingDay = day) = [] :=
    List.filter_eq_nil_iff.mpr fun before hbefore => by simpa using h before hbefore
  simp [netOn, hnone]

theorem layer2Allows_of_liveAllows (h : liveAllows taken trade = true) :
    layer2Allows taken trade = true := by
  rw [liveAllows_iff] at h
  rw [layer2Allows_iff]
  obtain ⟨hcounts, hday, hmonths⟩ := h
  refine ⟨hcounts, ?_, ?_⟩
  · have hnet := neg_lossesOn_le_netOn taken trade.tradingDay
    omega
  · by_cases hmonth : ∃ before ∈ taken,
        tradingMonth before.tradingDay = tradingMonth trade.tradingDay
    · obtain ⟨before, hbefore, heq⟩ := hmonth
      have hlosses := hmonths before hbefore
      have hnet := neg_lossesIn_le_netIn taken (tradingMonth trade.tradingDay)
      rw [heq] at hlosses
      omega
    · push Not at hmonth
      rw [netIn_eq_zero taken hmonth]
      decide

end Measures

/-- The local variables stand for the accepted trades. -/
structure Simulated (state : Layer2State) (taken : List V4GmoLayer2Trade) : Prop where
  days : ∀ before ∈ taken,
    ∃ current, state.currentDay = some current ∧ before.tradingDay ≤ current
  month : state.currentMonth = state.currentDay.map tradingMonth
  dailyCount : ∀ current, state.currentDay = some current →
    state.dailyCount = entriesOn (tradeRecords taken) current
  dailyPnl : ∀ current, state.currentDay = some current →
    state.dailyPnl = netOn taken current
  monthlyPnl : ∀ current, state.currentDay = some current →
    state.monthlyPnl = netIn taken (tradingMonth current)
  consecutive : state.consecutiveLosses = losingRun (tradeRecords taken)
  dailyHalts : ∀ day, day ∈ state.dailyLossHalts ↔
    netOn taken day ≤ -g019DailyLossLimitJpy
  consecutiveHalt : state.consecutiveLossHalt = true ↔
    g019ConsecutiveLossLimit ≤ losingRun (tradeRecords taken)
  monthlyHalt : ∀ current, state.currentDay = some current →
    (state.monthlyHalt = true ↔
      netIn taken (tradingMonth current) ≤ -g019MonthlyLossLimitJpy)

namespace Simulated

variable {state : Layer2State} {taken : List V4GmoLayer2Trade} {day : TradingDay}

theorem initial : Simulated {} [] := by
  refine ⟨?_, rfl, ?_, ?_, ?_, rfl, ?_, ?_, ?_⟩
  · simp
  · simp
  · simp
  · simp
  · intro day
    simp [netOn, g019DailyLossLimitJpy]
  · decide
  · simp

theorem before_of_new (h : Simulated state taken)
    (hday : ∀ current, state.currentDay = some current → current ≤ day)
    (hnew : state.currentDay ≠ some day) : ∀ before ∈ taken, before.tradingDay < day := by
  intro before hbefore
  obtain ⟨current, hcurrent, hle⟩ := h.days before hbefore
  have hne : current ≠ day := by
    intro heq
    exact hnew (heq ▸ hcurrent)
  exact lt_of_le_of_lt hle (lt_of_le_of_ne (hday current hcurrent) hne)

theorem months_before_of_new (h : Simulated state taken)
    (hday : ∀ current, state.currentDay = some current → current ≤ day)
    (hnew : state.currentMonth ≠ some (tradingMonth day)) :
    ∀ before ∈ taken, tradingMonth before.tradingDay ≠ tradingMonth day := by
  intro before hbefore heq
  obtain ⟨current, hcurrent, hle⟩ := h.days before hbefore
  have hmono := tradingMonth_mono hle
  have hmono' := tradingMonth_mono (hday current hcurrent)
  refine hnew ?_
  rw [h.month, hcurrent]
  exact congrArg some (le_antisymm hmono' (heq ▸ hmono))

theorem entriesOn_new (h : ∀ before ∈ taken, before.tradingDay ≠ day) :
    entriesOn (tradeRecords taken) day = 0 := by
  refine entriesOn_eq_zero _ _ ?_
  intro d hd heq
  obtain ⟨before, hbefore, rfl⟩ := (mem_recordDays taken).mp hd
  exact h before hbefore heq

theorem roll (h : Simulated state taken)
    (hday : ∀ current, state.currentDay = some current → current ≤ day) :
    Simulated (state.roll day) taken ∧ (state.roll day).currentDay = some day := by
  by_cases hsame : state.currentDay = some day
  · have hmonth : state.currentMonth = some (tradingMonth day) := by
      rw [h.month, hsame]
      rfl
    have hroll : state.roll day = state := by
      simp [Layer2State.roll, hsame, hmonth]
    rw [hroll]
    exact ⟨h, hsame⟩
  have hbefore := h.before_of_new hday hsame
  have hfresh : ∀ before ∈ taken, before.tradingDay ≠ day := fun before hmem =>
    (hbefore before hmem).ne
  have hcurrent : (state.roll day).currentDay = some day := by
    simp only [Layer2State.roll]
    split_ifs <;> simp_all
  have hcurrentMonth : (state.roll day).currentMonth = some (tradingMonth day) := by
    simp only [Layer2State.roll]
    split_ifs <;> simp_all
  have hdaily : (state.roll day).dailyCount = 0 ∧ (state.roll day).dailyPnl = 0 := by
    simp only [Layer2State.roll]
    split_ifs <;> simp_all
  have hkept : (state.roll day).consecutiveLosses = state.consecutiveLosses ∧
      (state.roll day).dailyLossHalts = state.dailyLossHalts ∧
      (state.roll day).consecutiveLossHalt = state.consecutiveLossHalt := by
    simp only [Layer2State.roll]
    split_ifs <;> exact ⟨rfl, rfl, rfl⟩
  have hmonthly : (state.roll day).monthlyPnl = netIn taken (tradingMonth day) ∧
      ((state.roll day).monthlyHalt = true ↔
        netIn taken (tradingMonth day) ≤ -g019MonthlyLossLimitJpy) := by
    by_cases hmonth : state.currentMonth = some (tradingMonth day)
    · -- the month goes on, with the sums of the day before
      have hold := hmonth
      rw [h.month] at hold
      obtain ⟨current, hcurrentOld, heq⟩ := Option.map_eq_some_iff.mp hold
      have hkeep : (state.roll day).monthlyPnl = state.monthlyPnl ∧
          (state.roll day).monthlyHalt = state.monthlyHalt := by
        simp only [Layer2State.roll, hmonth]
        split_ifs <;> simp_all
      rw [hkeep.1, hkeep.2, ← heq]
      exact ⟨h.monthlyPnl current hcurrentOld, h.monthlyHalt current hcurrentOld⟩
    · have hzero := netIn_eq_zero taken (h.months_before_of_new hday hmonth)
      have hcleared : (state.roll day).monthlyPnl = 0 ∧
          (state.roll day).monthlyHalt = false := by
        simp only [Layer2State.roll, hmonth]
        split_ifs <;> simp_all
      rw [hcleared.1, hcleared.2, hzero]
      exact ⟨rfl, by decide⟩
  refine ⟨⟨?_, ?_, ?_, ?_, ?_, ?_, ?_, ?_, ?_⟩, hcurrent⟩
  · intro before hmem
    exact ⟨day, hcurrent, (hbefore before hmem).le⟩
  · rw [hcurrent, hcurrentMonth]
    rfl
  · intro current hc
    obtain rfl : day = current := Option.some.inj (hcurrent.symm.trans hc)
    rw [hdaily.1, entriesOn_new hfresh]
  · intro current hc
    obtain rfl : day = current := Option.some.inj (hcurrent.symm.trans hc)
    rw [hdaily.2, netOn_eq_zero taken hfresh]
  · intro current hc
    obtain rfl : day = current := Option.some.inj (hcurrent.symm.trans hc)
    exact hmonthly.1
  · rw [hkept.1]
    exact h.consecutive
  · rw [hkept.2.1]
    exact h.dailyHalts
  · rw [hkept.2.2]
    exact h.consecutiveHalt
  · intro current hc
    obtain rfl : day = current := Option.some.inj (hcurrent.symm.trans hc)
    exact hmonthly.2

theorem blocks_eq (h : Simulated state taken) (trade : V4GmoLayer2Trade)
    (hday : state.currentDay = some trade.tradingDay) :
    state.blocks trade.tradingDay = !layer2Allows taken trade := by
  have hcount := h.dailyCount _ hday
  have hhalt := h.monthlyHalt _ hday
  have hdaily := h.dailyHalts trade.tradingDay
  have hconsecutive := h.consecutiveHalt
  rw [Bool.eq_iff_iff]
  have hallows : (!layer2Allows taken trade) = true ↔
      ¬(CountsClear taken trade ∧ NetClear taken trade) := by
    rw [Bool.not_eq_true', ← layer2Allows_iff, Bool.not_eq_true]
  rw [hallows]
  simp only [Layer2State.blocks, CountsClear, NetClear, Bool.or_eq_true,
    decide_eq_true_eq, hhalt, hdaily, hconsecutive, hcount]
  omega

theorem accept (h : Simulated state taken) (trade : V4GmoLayer2Trade)
    (hday : state.currentDay = some trade.tradingDay)
    (hopen : state.blocks trade.tradingDay = false) :
    Simulated ((state.count trade.realizedPnlJpy).halt trade.tradingDay)
      (taken ++ [trade]) := by
  simp only [Layer2State.blocks, Bool.or_eq_false_iff, decide_eq_false_iff_not] at hopen
  obtain ⟨⟨⟨hmonthOpen, -⟩, hdayOpen⟩, hrunOpen⟩ := hopen
  have hlosses : (if trade.realizedPnlJpy < 0 then state.consecutiveLosses + 1 else 0) =
      losingRun (tradeRecords (taken ++ [trade])) := by
    rw [tradeRecords_append, losingRun_closed, losingRun_entry, h.consecutive]
    have hloss : 0 < lossOf trade.realizedPnlJpy ↔ trade.realizedPnlJpy < 0 := by
      unfold lossOf
      omega
    simp only [hloss]
  refine ⟨?_, h.month, ?_, ?_, ?_, hlosses, ?_, ?_, ?_⟩
  · intro before hmem
    rcases List.mem_append.mp hmem with hmem | hmem
    · exact h.days before hmem
    · rw [List.mem_singleton.mp hmem]
      exact ⟨_, hday, le_rfl⟩
  · intro current hc
    obtain rfl : trade.tradingDay = current := Option.some.inj (hday.symm.trans hc)
    rw [tradeRecords_append, entriesOn_closed, entriesOn_entry, if_pos rfl,
      ← h.dailyCount _ hday]
    rfl
  · intro current hc
    obtain rfl : trade.tradingDay = current := Option.some.inj (hday.symm.trans hc)
    rw [netOn_append, if_pos rfl, ← h.dailyPnl _ hday]
    rfl
  · intro current hc
    obtain rfl : trade.tradingDay = current := Option.some.inj (hday.symm.trans hc)
    rw [netIn_append, if_pos rfl, ← h.monthlyPnl _ hday]
    rfl
  · intro day
    have hpnl := h.dailyPnl _ hday
    have hold := h.dailyHalts day
    simp only [Layer2State.halt, Layer2State.count, hpnl, netOn_append]
    by_cases heq : trade.tradingDay = day
    · subst heq
      rw [if_pos rfl]
      split_ifs with hlimit
      · simp [hlimit]
      · simp [hlimit, hdayOpen]
    · rw [if_neg heq, Int.add_zero, ← hold]
      split_ifs
      · simp [Ne.symm heq]
      · rfl
  · rw [← hlosses]
    simp [Layer2State.halt, Layer2State.count, hrunOpen]
  · intro current hc
    obtain rfl : trade.tradingDay = current := Option.some.inj (hday.symm.trans hc)
    rw [netIn_append, if_pos rfl, ← h.monthlyPnl _ hday]
    simp [Layer2State.halt, Layer2State.count, hmonthOpen]

end Simulated

/-- The trades to come are in order and not before those of the past. -/
def Ahead (current : Option TradingDay) (rest : List V4GmoLayer2Trade) : Prop :=
  (rest.map V4GmoLayer2Trade.tradingDay).Pairwise (· ≤ ·) ∧
    ∀ day, current = some day → ∀ trade ∈ rest, day ≤ trade.tradingDay

theorem Ahead.next {current : Option TradingDay} (h : Ahead current (trade :: rest)) :
    Ahead (some trade.tradingDay) rest := by
  obtain ⟨hsorted, -⟩ := h
  rw [List.map_cons, List.pairwise_cons] at hsorted
  refine ⟨hsorted.2, ?_⟩
  intro day hday later hlater
  cases hday
  exact hsorted.1 _ (List.mem_map_of_mem hlater)

theorem Ahead.first {current : Option TradingDay} (h : Ahead current (trade :: rest)) :
    ∀ day, current = some day → day ≤ trade.tradingDay := by
  intro day hday
  exact h.2 day hday trade List.mem_cons_self

/-- **The simulation refines its gate** over chronological trades. -/
theorem layer2_decisions (hsorted : (trades.map V4GmoLayer2Trade.tradingDay).Pairwise (· ≤ ·)) :
    layer2Decisions trades = gateDecisions layer2Allows [] trades := by
  refine machineDecisions_eq_gateDecisions
    (R := fun state taken rest => Simulated state taken ∧ Ahead state.currentDay rest) ?_
    ⟨Simulated.initial, hsorted, by simp⟩
  intro state taken trade rest ⟨hsim, hahead⟩
  obtain ⟨hrolled, hday⟩ := hsim.roll hahead.first
  have hblocks := hrolled.blocks_eq trade hday
  have hnext := hahead.next
  simp only [Layer2State.step]
  cases hallow : layer2Allows taken trade with
  | false =>
      rw [hallow] at hblocks
      simp only [hblocks, Bool.not_false, if_true, takenAfter, Bool.false_eq_true, if_false,
        true_and]
      refine ⟨⟨hrolled.days, hrolled.month, hrolled.dailyCount, hrolled.dailyPnl,
        hrolled.monthlyPnl, hrolled.consecutive, hrolled.dailyHalts, hrolled.consecutiveHalt,
        hrolled.monthlyHalt⟩, ?_⟩
      rw [hday]
      exact hnext
  | true =>
      rw [hallow] at hblocks
      simp only [hblocks, Bool.not_true, Bool.false_eq_true, if_false, takenAfter, if_true,
        true_and]
      refine ⟨hrolled.accept trade hday hblocks, ?_⟩
      change Ahead (state.roll trade.tradingDay).currentDay rest
      rw [hday]
      exact hnext

/-- No month of an accepted trade is at its limit, and the counter is that of the month. -/
def MonthsOpen (state : PhaseBRiskState) (taken : List V4GmoLayer2Trade) : Prop :=
  (∀ before ∈ taken,
      lossesIn (tradeRecords taken) (tradingMonth before.tradingDay) <
        g019MonthlyLossLimitJpy) ∧
    ∀ current, state.currentDayJst = some current →
      state.monthlyLossJpyInternal = lossesIn (tradeRecords taken) (tradingMonth current)

/-- What each stop state says about the accepted trades. -/
def StopFits (state : PhaseBRiskState) (taken : List V4GmoLayer2Trade) : Prop :=
  match state.stopState with
  | .active =>
      MonthsOpen state taken ∧ losingRun (tradeRecords taken) < g019ConsecutiveLossLimit ∧
        ∀ current, state.currentDayJst = some current →
          lossesOn (tradeRecords taken) current < g019DailyLossLimitJpy
  | .stoppedDailyBudget =>
      MonthsOpen state taken ∧ losingRun (tradeRecords taken) < g019ConsecutiveLossLimit ∧
        ∀ current, state.currentDayJst = some current →
          g019DailyLossLimitJpy ≤ lossesOn (tradeRecords taken) current
  | .stoppedConsecutiveLosses => g019ConsecutiveLossLimit ≤ losingRun (tradeRecords taken)
  | .stoppedMonthlyBudget =>
      ∃ before ∈ taken, g019MonthlyLossLimitJpy ≤
        lossesIn (tradeRecords taken) (tradingMonth before.tradingDay)
  | .killed => False

/-- The risk state stands for the accepted trades. -/
structure LiveState (sha : Sha256) (policy : PhaseBRiskPolicy) (state : PhaseBRiskState)
    (taken : List V4GmoLayer2Trade) : Prop where
  counted : Counted policy state (tradeRecords taken)
  valid : validateRiskState sha policy state = .ok ()
  stop : StopFits state taken

section Validity

variable {sha : Sha256} {policy : PhaseBRiskPolicy} {state state' : PhaseBRiskState}

theorem validateRiskState_eq_ok_iff :
    validateRiskState sha policy state = .ok () ↔
      state.policyDigest = policy.digest sha ∧
        (0 ≤ state.dailyLossJpyInternal ∧ 0 ≤ state.monthlyLossJpyInternal ∧
          0 ≤ state.consecutiveLosses ∧ 0 ≤ state.entriesToday ∧
          0 ≤ state.disciplineViolationCount) ∧
        (∀ ref ∈ state.closedResultCycleRefs, IsHex64 ref) ∧
          state.closedResultCycleRefs.Nodup := by
  unfold validateRiskState
  by_cases hdigest : state.policyDigest = policy.digest sha
  · rw [if_neg (not_not.mpr hdigest)]
    split_ifs with hcounters hrefs
    · simp only [reduceCtorEq, false_iff]
      omega
    · simp only [true_iff]
      refine ⟨hdigest, ?_, hrefs⟩
      omega
    · simp only [reduceCtorEq, false_iff]
      exact fun h => hrefs h.2.2
  · rw [if_pos hdigest]
    simp [hdigest]

end Validity

namespace LiveState

variable {sha : Sha256} {policy : PhaseBRiskPolicy} {state : PhaseBRiskState}
  {taken : List V4GmoLayer2Trade} {day : TradingDay}

theorem initial : LiveState sha policy { policyDigest := policy.digest sha } [] := by
  refine ⟨⟨?_, rfl, ?_, ?_, ?_, le_rfl, rfl, ?_, ?_⟩, ?_, ⟨?_, ?_⟩, ?_, ?_⟩
  · simp [recordDays, tradeRecords]
  · simp
  · simp
  · simp
  · simp [tradeRecords]
  · simp [tradeRecords]
  · rw [validateRiskState_eq_ok_iff]
    simp
  · simp
  · simp
  · decide
  · simp

theorem valid_roll (h : validateRiskState sha policy state = .ok ()) :
    validateRiskState sha policy (rollCalendar state day) = .ok () := by
  rw [validateRiskState_eq_ok_iff] at h ⊢
  obtain ⟨hdigest, ⟨hdaily, hmonthly, hrun, hentries, hviolations⟩, hrefs⟩ := h
  simp only [rollCalendar]
  split_ifs <;> simp_all

theorem rollCalendar_stop (hnew : state.currentDayJst ≠ some day) :
    (rollCalendar state day).stopState =
      if state.stopState = .stoppedDailyBudget then .active else state.stopState := by
  simp only [rollCalendar]
  split_ifs <;> simp_all

theorem roll (h : LiveState sha policy state taken) (hday : UpTo state day) :
    LiveState sha policy (rollCalendar state day) taken := by
  refine ⟨h.counted.roll hday, valid_roll h.valid, ?_⟩
  by_cases hsame : state.currentDayJst = some day
  · rw [rollCalendar_same hsame (by rw [h.counted.month, hsame]; rfl)]
    exact h.stop
  have hlosses : lossesOn (tradeRecords taken) day = 0 := by
    have hdaily := (h.counted.roll hday).daily day rollCalendar_day
    rw [(rollCalendar_daily hsame).1] at hdaily
    exact hdaily.symm
  -- a month that is open stays open, or starts with nothing
  have hmonths (hopen : MonthsOpen state taken)
      (hactive : (rollCalendar state day).stopState = .active) :
      MonthsOpen (rollCalendar state day) taken := by
    refine ⟨hopen.1, ?_⟩
    intro current hc
    obtain rfl : day = current := Option.some.inj (rollCalendar_day.symm.trans hc)
    by_cases hmonth : state.currentMonthJst = some (tradingMonth day)
    · have hkeep : (rollCalendar state day).monthlyLossJpyInternal =
          state.monthlyLossJpyInternal := by
        rcases @rollCalendar_monthly state day with hkeep | ⟨hnew, -⟩
        · exact hkeep
        · exact absurd hmonth hnew
      rw [h.counted.month] at hmonth
      obtain ⟨current, hcurrent, heq⟩ := Option.map_eq_some_iff.mp hmonth
      rw [hkeep, ← heq]
      exact hopen.2 current hcurrent
    · have hzero : (rollCalendar state day).monthlyLossJpyInternal = 0 := by
        simp only [rollCalendar, hmonth] at hactive ⊢
        split_ifs at hactive ⊢ <;> simp_all
      have hcounted := (h.counted.roll hday).monthly day rollCalendar_day
      have hnone := lossesIn_nonneg (tradeRecords taken) (tradingMonth day)
      rw [hzero] at hcounted ⊢
      omega
  have hstop := h.stop
  have hrolled := rollCalendar_stop hsame
  have hfresh : ∀ current, (rollCalendar state day).currentDayJst = some current →
      lossesOn (tradeRecords taken) current < g019DailyLossLimitJpy := by
    intro current hc
    obtain rfl : day = current := Option.some.inj (rollCalendar_day.symm.trans hc)
    rw [hlosses]
    decide
  unfold StopFits at hstop ⊢
  cases hstate : state.stopState with
  | active =>
      rw [hstate] at hstop hrolled
      rw [hrolled]
      exact ⟨hmonths hstop.1 hrolled, hstop.2.1, hfresh⟩
  | stoppedDailyBudget =>
      rw [hstate] at hstop hrolled
      rw [hrolled]
      exact ⟨hmonths hstop.1 hrolled, hstop.2.1, hfresh⟩
  | stoppedConsecutiveLosses =>
      rw [hstate] at hstop hrolled
      rw [hrolled]
      exact hstop
  | stoppedMonthlyBudget =>
      rw [hstate] at hstop hrolled
      rw [hrolled]
      exact hstop
  | killed =>
      rw [hstate] at hstop
      exact hstop.elim

/-- On the day of a trade, the gate's answer is that of the trades accepted before. -/
theorem allowed_eq (hlimits : G019Limits policy) (h : LiveState sha policy state taken)
    (trade : V4GmoLayer2Trade) (hday : state.currentDayJst = some trade.tradingDay) :
    (entryBlockedReasons policy state).isEmpty = liveAllows taken trade := by
  have hdaily := h.counted.daily _ hday
  have hentries := h.counted.entries _ hday
  have hrun := h.counted.consecutive
  have hstop := h.stop
  rw [Bool.eq_iff_iff, List.isEmpty_iff, entryBlockedReasons_eq_nil, liveAllows_iff]
  simp only [CountsClear, LossesClear, hlimits.daily,
    hlimits.monthly, hlimits.consecutive, hlimits.entries, hdaily, hentries, hrun,
    Nat.cast_lt]
  unfold StopFits at hstop
  cases hstate : state.stopState with
  | active =>
      rw [hstate] at hstop
      obtain ⟨⟨hmonths, hmonth⟩, hlosing, hlosses⟩ := hstop
      have hmonthOpen : state.monthlyLossJpyInternal < g019MonthlyLossLimitJpy := by
        rw [hmonth _ hday]
        by_cases hnone : ∃ before ∈ taken,
            tradingMonth before.tradingDay = tradingMonth trade.tradingDay
        · obtain ⟨before, hbefore, heq⟩ := hnone
          rw [← heq]
          exact hmonths before hbefore
        · push Not at hnone
          rw [lossesIn_tradeRecords_eq_zero taken hnone]
          decide
      constructor
      · rintro ⟨-, hcount, hday, -, hlosing⟩
        exact ⟨⟨hlosing, hcount⟩, hday, hmonths⟩
      · rintro ⟨⟨hlosing, hcount⟩, hday, -⟩
        exact ⟨rfl, hcount, hday, hmonthOpen, hlosing⟩
  | stoppedDailyBudget =>
      rw [hstate] at hstop
      have hlimit := hstop.2.2 _ hday
      simp only [reduceCtorEq, false_and, false_iff]
      rintro ⟨-, hopen, -⟩
      omega
  | stoppedConsecutiveLosses =>
      rw [hstate] at hstop
      simp only [reduceCtorEq, false_and, false_iff]
      rintro ⟨⟨hopen, -⟩, -⟩
      change g019ConsecutiveLossLimit ≤ _ at hstop
      omega
  | stoppedMonthlyBudget =>
      rw [hstate] at hstop
      obtain ⟨before, hbefore, hlimit⟩ := hstop
      simp only [reduceCtorEq, false_and, false_iff]
      rintro ⟨-, -, hopen⟩
      have hlosses := hopen before hbefore
      omega
  | killed =>
      rw [hstate] at hstop
      exact hstop.elim

theorem stopFits_stopForBudgets (hlimits : G019Limits policy)
    (hrun : state.consecutiveLosses = losingRun (tradeRecords taken))
    (hdaily : ∀ current, state.currentDayJst = some current →
      state.dailyLossJpyInternal = lossesOn (tradeRecords taken) current)
    (hmonth : ∀ current, state.currentDayJst = some current →
      state.monthlyLossJpyInternal = lossesIn (tradeRecords taken) (tradingMonth current))
    (hmonths : ∀ before ∈ taken, tradingMonth before.tradingDay ≠ tradingMonth day →
      lossesIn (tradeRecords taken) (tradingMonth before.tradingDay) <
        g019MonthlyLossLimitJpy)
    (hlast : ∃ before ∈ taken, before.tradingDay = day)
    (hactive : state.stopState = .active) (hday : state.currentDayJst = some day) :
    StopFits (stopForBudgets policy state day) taken := by
  have hopen (hlimit : state.monthlyLossJpyInternal < g019MonthlyLossLimitJpy) :
      ∀ before ∈ taken, lossesIn (tradeRecords taken) (tradingMonth before.tradingDay) <
        g019MonthlyLossLimitJpy := by
    intro before hbefore
    by_cases heq : tradingMonth before.tradingDay = tradingMonth day
    · rw [heq, ← hmonth day hday]
      exact hlimit
    · exact hmonths before hbefore heq
  unfold stopForBudgets
  simp only [hlimits.consecutive, hlimits.monthly, hlimits.daily, hrun, Nat.cast_le]
  split_ifs with hlosing hmonthly hdailyLimit
  · exact hlosing
  · obtain ⟨before, hbefore, rfl⟩ := hlast
    refine ⟨before, hbefore, ?_⟩
    rw [← hmonth _ hday]
    exact hmonthly
  · refine ⟨⟨hopen (not_le.mp hmonthly), hmonth⟩, not_le.mp hlosing, ?_⟩
    intro current hc
    rw [← hdaily current hc]
    exact hdailyLimit
  · unfold StopFits
    rw [hactive]
    refine ⟨⟨hopen (not_le.mp hmonthly), hmonth⟩, not_le.mp hlosing, ?_⟩
    intro current hc
    rw [← hdaily current hc]
    exact not_le.mp hdailyLimit

/-- An allowed trade is entered and closed, and the risk state stands for one trade more. -/
theorem accept (hlimits : G019Limits policy) (h : LiveState sha policy state taken)
    (trade : V4GmoLayer2Trade) (hday : state.currentDayJst = some trade.tradingDay)
    (hbound : -5000 ≤ trade.realizedPnlJpy) (hallowed : liveAllows taken trade = true) :
    ∃ entered closed,
      recordRiskEntryAttempt sha policy state trade.tradingDay = .ok entered ∧
      recordClosedResult sha policy entered trade.tradingDay trade.realizedPnlJpy =
        .ok closed ∧
      closed.currentDayJst = some trade.tradingDay ∧
      LiveState sha policy closed (taken ++ [trade]) := by
  have hmonthEq : state.currentMonthJst = some (tradingMonth trade.tradingDay) := by
    rw [h.counted.month, hday]
    rfl
  have hsame := rollCalendar_same hday hmonthEq
  have hempty := (h.allowed_eq hlimits trade hday).trans hallowed
  have hactive := (entryBlockedReasons_eq_nil.mp (List.isEmpty_iff.mp hempty)).1
  have hstop := h.stop
  unfold StopFits at hstop
  rw [hactive] at hstop
  obtain ⟨⟨hmonths, hmonth⟩, -, -⟩ := hstop
  let entered : PhaseBRiskState := { state with entriesToday := state.entriesToday + 1 }
  have hentered : recordRiskEntryAttempt sha policy state trade.tradingDay = .ok entered := by
    simp only [recordRiskEntryAttempt, evaluateRiskBeforeEntry, h.valid, hsame, hempty]
    rfl
  have hvalid : validateRiskState sha policy entered = .ok () := by
    have hold := h.valid
    rw [validateRiskState_eq_ok_iff] at hold ⊢
    obtain ⟨hdigest, ⟨h1, h2, h3, h4, h5⟩, hrefs⟩ := hold
    exact ⟨hdigest, ⟨h1, h2, h3, Int.add_nonneg h4 (by decide), h5⟩, hrefs⟩
  have hloss : lossOf trade.realizedPnlJpy ≤ policy.perTradeLossBoundJpy := by
    rw [hlimits.perTrade]
    unfold lossOf
    omega
  have hcounted : Counted policy (countResult entered trade.realizedPnlJpy)
      (tradeRecords (taken ++ [trade])) := by
    rw [tradeRecords_append]
    exact (h.counted.entry hday).closed hday hloss
  have hstate : (countResult entered trade.realizedPnlJpy).currentDayJst =
        some trade.tradingDay ∧
      (countResult entered trade.realizedPnlJpy).stopState = .active ∧
      (countResult entered trade.realizedPnlJpy).policyDigest = state.policyDigest ∧
      (countResult entered trade.realizedPnlJpy).disciplineViolationCount =
        state.disciplineViolationCount ∧
      (countResult entered trade.realizedPnlJpy).closedResultCycleRefs =
        state.closedResultCycleRefs ∧
      (countResult entered trade.realizedPnlJpy).monthlyLossJpyInternal =
        state.monthlyLossJpyInternal + lossOf trade.realizedPnlJpy := by
    have hnonneg := lossOf_nonneg trade.realizedPnlJpy
    unfold countResult
    split_ifs with hpos
    · exact ⟨hday, hactive, rfl, rfl, rfl, rfl⟩
    · refine ⟨hday, hactive, rfl, rfl, rfl, ?_⟩
      rw [le_antisymm (not_lt.mp hpos) hnonneg]
      exact (Int.add_zero _).symm
  obtain ⟨hcDay, hcActive, hcDigest, hcViolations, hcRefs, hcMonth⟩ := hstate
  let closed :=
    stopForBudgets policy (countResult entered trade.realizedPnlJpy) trade.tradingDay
  have hclosed : recordClosedResult sha policy entered trade.tradingDay
      trade.realizedPnlJpy = .ok closed := by
    have hroll : rollCalendar entered trade.tradingDay = entered :=
      rollCalendar_same hday hmonthEq
    unfold recordClosedResult
    rw [hvalid, hroll]
    change (if policy.perTradeLossBoundJpy < lossOf trade.realizedPnlJpy then _ else
      (if entered.stopState ≠ .active then Except.ok (countResult entered trade.realizedPnlJpy)
        else .ok closed)) = _
    rw [if_neg (not_lt.mpr hloss), if_neg (not_not.mpr hactive)]
  have hbudget := @stopForBudgets_same policy trade.tradingDay
    (countResult entered trade.realizedPnlJpy)
  refine ⟨entered, closed, hentered, hclosed, hbudget.day.trans hcDay,
    hcounted.of_same hbudget, ?_, ?_⟩
  · have hold := h.valid
    rw [validateRiskState_eq_ok_iff] at hold ⊢
    have hkept : closed.policyDigest = state.policyDigest ∧
        closed.disciplineViolationCount = state.disciplineViolationCount ∧
        closed.closedResultCycleRefs = state.closedResultCycleRefs := by
      have hstops : ∀ s : PhaseBRiskState,
          (stopForBudgets policy s trade.tradingDay).policyDigest = s.policyDigest ∧
            (stopForBudgets policy s trade.tradingDay).disciplineViolationCount =
              s.disciplineViolationCount ∧
            (stopForBudgets policy s trade.tradingDay).closedResultCycleRefs =
              s.closedResultCycleRefs := by
        intro s
        unfold stopForBudgets
        split_ifs <;> exact ⟨rfl, rfl, rfl⟩
      obtain ⟨h1, h2, h3⟩ := hstops (countResult entered trade.realizedPnlJpy)
      exact ⟨h1.trans hcDigest, h2.trans hcViolations, h3.trans hcRefs⟩
    have hfinal := hcounted.of_same hbudget
    have hfinalDay := hbudget.day.trans hcDay
    rw [hkept.1, hkept.2.1, hkept.2.2]
    refine ⟨hold.1, ⟨?_, hfinal.monthly_nonneg, ?_, ?_, hold.2.1.2.2.2.2⟩, hold.2.2⟩
    · rw [hfinal.daily _ hfinalDay]
      exact lossesOn_nonneg _ _
    · rw [hfinal.consecutive]
      exact Int.natCast_nonneg _
    · rw [hfinal.entries _ hfinalDay]
      exact Int.natCast_nonneg _
  · refine stopFits_stopForBudgets hlimits hcounted.consecutive hcounted.daily ?_ ?_
      ⟨trade, by simp, rfl⟩ hcActive hcDay
    · intro current hc
      obtain rfl : trade.tradingDay = current := Option.some.inj (hcDay.symm.trans hc)
      rw [hcMonth, hmonth _ hday, tradeRecords_append, lossesIn_closed, if_pos rfl,
        lossesIn_entry]
    · intro before hbefore hne
      rw [tradeRecords_append, lossesIn_closed, if_neg (Ne.symm hne), lossesIn_entry,
        Int.add_zero]
      rcases List.mem_append.mp hbefore with hbefore | hbefore
      · exact hmonths before hbefore
      · rw [List.mem_singleton.mp hbefore] at hne
        exact absurd rfl hne

end LiveState

/-- **The live gate refines its gate** over chronological trades with bounded losses. -/
theorem live_decisions (sha : Sha256) {policy : PhaseBRiskPolicy} (hlimits : G019Limits policy)
    (hsorted : (trades.map V4GmoLayer2Trade.tradingDay).Pairwise (· ≤ ·))
    (hbound : ∀ trade ∈ trades, -5000 ≤ trade.realizedPnlJpy) :
    liveDecisions sha policy trades = .ok (gateDecisions liveAllows [] trades) := by
  refine raisingDecisions_eq_gateDecisions
    (R := fun state taken rest => LiveState sha policy state taken ∧
      Ahead state.currentDayJst rest ∧ ∀ trade ∈ rest, -5000 ≤ trade.realizedPnlJpy) ?_
    ⟨LiveState.initial, ⟨hsorted, by simp⟩, hbound⟩
  intro state taken trade rest ⟨hlive, hahead, hrest⟩
  have hrolled := hlive.roll hahead.first
  have hallowed := hrolled.allowed_eq hlimits trade rollCalendar_day
  have hnext := hahead.next
  have hlater : ∀ later ∈ rest, -5000 ≤ later.realizedPnlJpy := fun later hmem =>
    hrest later (List.mem_cons_of_mem _ hmem)
  have hgate : evaluateRiskBeforeEntry sha policy state trade.tradingDay =
      .ok (rollCalendar state trade.tradingDay,
        { allowed := liveAllows taken trade
          stopState := (rollCalendar state trade.tradingDay).stopState
          blockedReasons := entryBlockedReasons policy
            (rollCalendar state trade.tradingDay) }) := by
    simp only [evaluateRiskBeforeEntry, hlive.valid, hallowed]
    rfl
  cases hallow : liveAllows taken trade with
  | false =>
      refine ⟨rollCalendar state trade.tradingDay, ?_, hrolled, ?_, hlater⟩
      · rw [liveStep, hgate, hallow]
        rfl
      · rw [rollCalendar_day]
        exact hnext
  | true =>
      obtain ⟨entered, closed, hentered, hclosed, hday, hstands⟩ :=
        hrolled.accept hlimits trade rollCalendar_day (hrest trade List.mem_cons_self) hallow
      refine ⟨closed, ?_, hstands, ?_, hlater⟩
      · rw [liveStep, hgate, hallow]
        change (recordRiskEntryAttempt sha policy (rollCalendar state trade.tradingDay)
          trade.tradingDay >>= _) = _
        rw [hentered]
        change (recordClosedResult sha policy entered trade.tradingDay
          trade.realizedPnlJpy >>= _) = _
        rw [hclosed]
        rfl
      · rw [hday]
        exact hnext

/-- **The simulation and the live gate accept the same trades** exactly when, along the
simulation, no trade is accepted on a day whose losses so far are at the daily limit or
after a month whose losses are at the monthly limit, gains not counted.  The simulation
is the gate on the results of the day and the month, the live runtime the gate on losses. -/
theorem layer2_agrees_with_live_iff (sha : Sha256) (policy : PhaseBRiskPolicy)
    (hlimits : G019Limits policy) (trades : List V4GmoLayer2Trade)
    (hsorted : (trades.map V4GmoLayer2Trade.tradingDay).Pairwise (· ≤ ·))
    (hbound : ∀ trade ∈ trades, -5000 ≤ trade.realizedPnlJpy) :
    layer2Decisions trades = gateDecisions layer2Allows [] trades ∧
      liveDecisions sha policy trades = .ok (gateDecisions liveAllows [] trades) ∧
      (liveDecisions sha policy trades = .ok (layer2Decisions trades) ↔
        FollowsAlong layer2Allows liveAllows [] trades) := by
  have hlayer2 := layer2_decisions hsorted
  have hlive := live_decisions sha hlimits hsorted hbound
  refine ⟨hlayer2, hlive, ?_⟩
  rw [hlive, hlayer2, ← gateDecisions_eq_iff layer2Allows_of_liveAllows]
  constructor
  · intro h
    exact (Except.ok.inj h).symm
  · intro h
    rw [h]

namespace Sample

def g019Policy : PhaseBRiskPolicy where
  policyLabel := "g019"
  perTradeLossBoundJpy := 5000
  dailyLossLimitJpy := 10000
  monthlyLossLimitJpy := 50000
  maximumConsecutiveLosses := 5
  maximumEntriesPerDay := 30
  bound_pos := Sample.riskPolicy.bound_pos
  limits_consistent := by decide
  consecutive_pos := by decide
  entries_bounds := by decide

def mixedTrades : List V4GmoLayer2Trade :=
  [⟨4, -5000⟩, ⟨4, 3000⟩, ⟨4, -5000⟩, ⟨4, 1000⟩]

end Sample

/-- The last trade of the day is accepted by the simulation and not by the live gate. -/
theorem layer2_accepts_beyond_live :
    ¬∀ (policy : PhaseBRiskPolicy), G019Limits policy → ∀ trades : List V4GmoLayer2Trade,
      (trades.map V4GmoLayer2Trade.tradingDay).Pairwise (· ≤ ·) →
      (∀ trade ∈ trades, -5000 ≤ trade.realizedPnlJpy) →
      liveDecisions Sha256.checksum policy trades = .ok (layer2Decisions trades) := by
  intro hagree
  have hmixed := hagree Sample.g019Policy ⟨rfl, rfl, rfl, rfl, rfl⟩ Sample.mixedTrades
    (by decide) (by decide)
  revert hmixed
  decide +kernel

/-- Two days on which the losses stay below the daily limit. -/
theorem layer2_agrees_with_live_two_days :
    liveDecisions Sha256.checksum Sample.g019Policy
      [⟨4, -5000⟩, ⟨4, 3000⟩, ⟨5, -4000⟩, ⟨5, -2000⟩, ⟨5, 1000⟩] =
        .ok (layer2Decisions [⟨4, -5000⟩, ⟨4, 3000⟩, ⟨5, -4000⟩, ⟨5, -2000⟩, ⟨5, 1000⟩]) :=
  (layer2_agrees_with_live_iff Sha256.checksum Sample.g019Policy
    ⟨rfl, rfl, rfl, rfl, rfl⟩ [⟨4, -5000⟩, ⟨4, 3000⟩, ⟨5, -4000⟩, ⟨5, -2000⟩, ⟨5, 1000⟩]
    (by decide) (by decide)).2.2.mpr (by decide +kernel)

end FxStrategyLab
