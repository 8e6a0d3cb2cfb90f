import FxStrategyLab.CandleBacktest.Stages
import FxStrategyLab.Strategies.Mirror
import FxStrategyLab.Strategies.Replay

/-!
# Fast and plain replays

The signals that a fast replay works out ahead have the actions of the plain ones, so both
replays go through the same states but for the texts of signals.  Signals and the entry filter
look at completed bars only, so what a replay has done before a bar is a function of the bars
before it.

**Results.** `signalAt_action`, `replayUpTo_unreasoned`, `replayUpTo_agree` and
`fast_replay_equals_plain`.
-/

namespace FxStrategyLab.Strategies

open CandleBacktest (Candle Side Action StrategyConfig StrategySignal StrategyType
  ZeroDivisionError candlesToFrame pricePnl)
open Library.Columns (Causal reach_id reach_map)
open Library.Series (at? at?_neg AgreeBefore bind_eq_ok foldlM_image)
open Library.Smoothing (diff ewm causal_diff causal_ewm)

def withoutReason (signal : StrategySignal) : StrategySignal :=
  { signal with reason := "" }

def ExitReason.kind : ExitReason → ExitReason
  | opposite _ => opposite ""
  | reason => reason

def PaperPosition.unreasoned (position : PaperPosition) : PaperPosition :=
  { position with entryReason := "" }

def ClosedTrade.unreasoned (trade : ClosedTrade) : ClosedTrade :=
  { trade with entryReason := "", exitReason := trade.exitReason.kind }

def OpenTrade.unreasoned (trade : OpenTrade) : OpenTrade :=
  { trade with entryReason := "" }

def ReplayState.unreasoned (s : ReplayState) : ReplayState :=
  { s with
    position := s.position.map PaperPosition.unreasoned
    trades := s.trades.map ClosedTrade.unreasoned }

/-- What a replay returns and stores, but the texts of signals. -/
def ReplayResult.unreasoned (result : ReplayResult) : ReplayResult :=
  { result with
    trades := result.trades.map ClosedTrade.unreasoned
    openTrade := result.openTrade.map OpenTrade.unreasoned }

/-- The trades that the loop closed at one of the first bars of a frame. -/
def closedBefore (frame : List Candle) (k : Nat) (trades : List ClosedTrade) :
    List ClosedTrade :=
  trades.filter fun trade =>
    trade.exitReason ≠ .dataEnd ∧ trade.closedAt ∈ (frame.take k).map Candle.timestamp

section Signals

variable {K : Type} [Field K] [LinearOrder K] (numbers : Numbers K)

/-- **A signal that is worked out ahead has the action of the plain one.** -/
theorem signalAt_action {frame : List Candle} {config : StrategyConfig} {index : Nat}
    (hindex : index < frame.length) :
    (signalAt numbers true frame config index).action =
      (signalAt numbers false frame config index).action := by
  by_cases htype : config.strategyType = .rsiReversal
  · have hplain : signalAt numbers false frame config index =
        evaluateStrategy numbers (frame.take index) config := by
      simp [signalAt]
    have hlength : (frame.take index).length = index := by
      rw [List.length_take]
      omega
    have hfast : signalAt numbers true frame config index =
        ((precomputeRsiSignals numbers frame config)[index]?).getD
          { action := .hold, reason := "warmup" } := by
      simp [signalAt, htype]
    rw [hplain, hfast]
    simp only [evaluateStrategy, chosenSignal, htype, precomputeRsiSignals,
      List.getElem?_map, List.getElem?_range hindex, Option.map_some, Option.getD_some,
      rsiReversalSignal, hlength]
    by_cases hwarm : index < config.rsiPeriod + 2
    · simp [hwarm]
    · have hcausal := calculateRsi_causal config.rsiPeriod
      have htake : closes (frame.take index) = (closes frame).take index := by
        simp [closes, List.map_take]
      have hcolumn : (calculateRsi (closes (frame.take index)) config.rsiPeriod).length =
          index := by
        rw [hcausal.length_eq, htake, List.length_take]
        simp [closes]
        omega
      have hentry : ∀ back : Nat, 0 < back → back ≤ index →
          at? (calculateRsi (closes (frame.take index)) config.rsiPeriod) (-back) =
            (calculateRsi (closes frame) config.rsiPeriod)[index - back]? := by
        intro back hpos hle
        rw [at?_neg _ hpos (by omega), hcolumn, htake]
        exact hcausal.congr_take (k := index) (by simp) (by omega)
      have hprevious := hentry 2 (by omega) (by omega)
      have hcurrent := hentry 1 (by omega) (by omega)
      push_cast at hprevious hcurrent
      simp only [hwarm, if_false, hprevious, hcurrent]
      cases (calculateRsi (closes frame) config.rsiPeriod)[index - 2]? with
      | none => rfl
      | some previous =>
          cases (calculateRsi (closes frame) config.rsiPeriod)[index - 1]? with
          | none => rfl
          | some current =>
              dsimp only
              split_ifs <;> rfl
  · simp [signalAt, htype]

theorem signalAt_agree {fast : Bool} {frame frame' : List Candle} {config : StrategyConfig}
    {k index : Nat} (hagree : frame.take k = frame'.take k) (hindex : index < k)
    (hinside : index < frame.length) (hinside' : index < frame'.length) :
    signalAt numbers fast frame config index = signalAt numbers fast frame' config index := by
  have htake : frame.take index = frame'.take index := by
    have hshort := congrArg (List.take index) hagree
    rwa [List.take_take, List.take_take, Nat.min_eq_left (by omega)] at hshort
  have hcloses : (closes frame).take k = (closes frame').take k := by
    simp only [closes, ← List.map_take, hagree]
  have hcausal := calculateRsi_causal config.rsiPeriod
  unfold signalAt
  split_ifs
  · simp only [precomputeRsiSignals, List.getElem?_map, List.getElem?_range hinside,
      List.getElem?_range hinside', Option.map_some, Option.getD_some]
    rw [hcausal.congr_take hcloses (show index - 2 < k by omega),
      hcausal.congr_take hcloses (show index - 1 < k by omega)]
  · rw [htake]

/-- **The entry filter never looks ahead.** -/
theorem causal_adxSeries (period : Nat) : Causal fun frame => adxSeries frame period := by
  have hsmooth := causal_ewm (1 / period : ℚ) 0
  have hmap : ∀ f : Candle → ℚ, Causal fun (frame : List Candle) => frame.map f :=
    fun f => (reach_map f).toCausal
  have hcloses : Causal fun (frame : List Candle) => previousCloses frame := by
    refine ⟨fun frame => by simp [previousCloses, closes], fun xs ys => ?_⟩
    simp only [previousCloses, closes, List.map_append, List.length_append]
    rw [List.prefix_iff_eq_take, List.length_take, List.take_take]
    simp only [List.length_cons, List.length_map]
    rw [Nat.min_eq_left (by omega), Nat.min_eq_left (by omega), ← List.cons_append,
      List.take_append_of_le_length (by simp)]
  have hup := causal_diff.comp (hmap Candle.high)
  have hdown := (reach_map (Option.map fun (move : ℚ) => -move)).toCausal.comp
    (causal_diff.comp (hmap Candle.low))
  have hatr := (reach_map zeroUnknown).toCausal.comp (hsmooth.comp
    (reach_id.toCausal.zipWith (fun (row : Candle) previous => some (trueRange row previous))
      hcloses))
  have hplus := (hsmooth.comp (hup.zipWith (fun up down => some (directional up down))
    hdown)).zipWith (lift fun dm range => 100 * dm / range) hatr
  have hminus := (hsmooth.comp (hdown.zipWith (fun down up => some (directional down up))
    hup)).zipWith (lift fun dm range => 100 * dm / range) hatr
  have hspread := hplus.zipWith (lift fun plus minus => 100 * |plus - minus|) hminus
  have htotal := (reach_map zeroUnknown).toCausal.comp
    (hplus.zipWith (lift fun plus minus => plus + minus) hminus)
  have hdx := hspread.zipWith (lift fun distance sum => distance / sum) htotal
  exact hsmooth.comp ((reach_map fun (x : Option ℚ) => some (x.getD 0)).toCausal.comp hdx)

end Signals

theorem touched_reason {row : Candle} {position : PaperPosition} {raw : ℚ} {reason : ExitReason}
    (h : position.touched row = some (raw, reason)) :
    reason = .stopLoss ∨ reason = .takeProfit := by
  unfold PaperPosition.touched at h
  cases hside : position.side with
  | buy =>
      simp only [hside] at h
      split_ifs at h <;> simp at h <;> simp [← h.2]
  | sell =>
      simp only [hside] at h
      split_ifs at h <;> simp at h <;> simp [← h.2]

section Unreasoned

variable (request : ReplayRequest) (signal : StrategySignal) (row : Candle) (s : ReplayState)

theorem closeTrade_unreasoned (position : PaperPosition) (exitPrice : ℚ) (reason : ExitReason)
    (closedAt : Int) :
    closeTrade request position.unreasoned exitPrice reason.kind closedAt s.unreasoned =
      (closeTrade request position exitPrice reason closedAt s).map ReplayState.unreasoned := by
  unfold closeTrade
  cases hgross : pricePnl request.symbol position.side position.entryPrice exitPrice
      position.units with
  | error e => simp [PaperPosition.unreasoned, hgross, bind, Except.bind, Except.map]
  | ok gross =>
      simp [PaperPosition.unreasoned, hgross, bind, Except.bind, Except.map, pure, Except.pure,
        ReplayState.unreasoned, ClosedTrade.unreasoned]

theorem closeOnOpposite_unreasoned :
    closeOnOpposite request (withoutReason signal) row s.unreasoned =
      (closeOnOpposite request signal row s).map ReplayState.unreasoned := by
  unfold closeOnOpposite
  cases hposition : s.position with
  | none => simp [ReplayState.unreasoned, hposition, Except.map]
  | some position =>
      cases hside : signal.action.side with
      | none => simp [ReplayState.unreasoned, withoutReason, hposition, hside, Except.map]
      | some side =>
          have hclose := closeTrade_unreasoned request s position
            (request.exitPrice position.side row.openPrice) (.opposite signal.reason)
            row.timestamp
          have hunreasoned : s.unreasoned.position = some position.unreasoned := by
            simp [ReplayState.unreasoned, hposition]
          have haction : (withoutReason signal).action.side = some side := hside
          have hsame : position.unreasoned.side = position.side ∧
              position.unreasoned.openedAt = position.openedAt := ⟨rfl, rfl⟩
          simp only [hunreasoned, haction, hsame]
          by_cases hallowed : side ≠ position.side ∧
              oppositeExitAllowed request.exitPolicy position.openedAt row.timestamp = true
          · rw [if_pos hallowed, if_pos hallowed]
            exact hclose
          · rw [if_neg hallowed, if_neg hallowed]
            rfl

theorem openPosition_unreasoned (side : Side) (reason : String) :
    openPosition request side "" row s.unreasoned =
      (openPosition request side reason row s).map ReplayState.unreasoned := by
  have hbalance : s.unreasoned.balance = s.balance := rfl
  unfold openPosition
  dsimp only
  rw [hbalance]
  generalize (if side = .buy then row.openPrice + request.friction
    else row.openPrice - request.friction) = entry
  by_cases hentry : entry = 0
  · rw [if_pos hentry, if_pos hentry]
    rfl
  · rw [if_neg hentry, if_neg hentry]
    generalize min (request.execution.fixedUnits.getD 1000)
      (s.balance * request.execution.leverage / entry) = units
    generalize pricePnl request.symbol side entry _ units = risk
    cases risk with
    | error e => rfl
    | ok risk =>
        simp only [bind, Except.bind]
        by_cases hopen : 0 < units ∧ |risk| ≤ s.balance * request.execution.maxLossPercent / 100
        · rw [if_pos hopen, if_pos hopen]
          rfl
        · rw [if_neg hopen, if_neg hopen]
          rfl

theorem openOnSignal_unreasoned (blocked : Bool) :
    openOnSignal request (withoutReason signal) blocked row s.unreasoned =
      (openOnSignal request signal blocked row s).map ReplayState.unreasoned := by
  have haction : (withoutReason signal).action.side = signal.action.side := rfl
  unfold openOnSignal
  rw [haction]
  cases hposition : s.position with
  | some position => simp [ReplayState.unreasoned, hposition, Except.map]
  | none =>
      have hunreasoned : s.unreasoned.position = none := by
        simp [ReplayState.unreasoned, hposition]
      rw [hunreasoned]
      cases signal.action.side with
      | none => rfl
      | some side =>
          by_cases hblocked : blocked = true
          · simp [hblocked, Except.map, ReplayState.unreasoned, hposition]
          · simp only [hblocked, if_false]
            exact openPosition_unreasoned request row s side signal.reason

theorem closeOnTouch_unreasoned :
    closeOnTouch request row s.unreasoned =
      (closeOnTouch request row s).map ReplayState.unreasoned := by
  unfold closeOnTouch
  cases hposition : s.position with
  | none => simp [ReplayState.unreasoned, hposition, Except.map]
  | some position =>
      have hunreasoned : s.unreasoned.position = some position.unreasoned := by
        simp [ReplayState.unreasoned, hposition]
      have htouched : position.unreasoned.touched row = position.touched row := rfl
      simp only [hunreasoned, htouched]
      cases hraw : position.touched row with
      | none => rfl
      | some touch =>
          obtain ⟨raw, reason⟩ := touch
          have hkind : reason.kind = reason := by
            rcases touched_reason hraw with rfl | rfl <;> rfl
          have hclose := closeTrade_unreasoned request s position
            (request.exitPrice position.side raw) reason row.timestamp
          rwa [hkind] at hclose

theorem closeOnTime_unreasoned :
    closeOnTime request row s.unreasoned =
      (closeOnTime request row s).map ReplayState.unreasoned := by
  unfold closeOnTime
  cases hposition : s.position with
  | none => simp [ReplayState.unreasoned, hposition, Except.map]
  | some position =>
      have hunreasoned : s.unreasoned.position = some position.unreasoned := by
        simp [ReplayState.unreasoned, hposition]
      simp only [hunreasoned]
      cases timeStopMinutes request.exitPolicy with
      | none => rfl
      | some minutes =>
          have hclose := closeTrade_unreasoned request s position
            (request.exitPrice position.side row.close) (.timeStop minutes) row.timestamp
          by_cases hheld : wallSeconds (60 * minutes) ≤ row.timestamp - position.openedAt
          · simpa [PaperPosition.unreasoned, hheld, ExitReason.kind] using hclose
          · simp [PaperPosition.unreasoned, hheld, Except.map]

theorem map_bind {f : ReplayState → Except ZeroDivisionError ReplayState}
    {g : ReplayState → Except ZeroDivisionError ReplayState}
    (h : ∀ s, g s.unreasoned = (f s).map ReplayState.unreasoned)
    (x : Except ZeroDivisionError ReplayState) :
    (x.map ReplayState.unreasoned >>= g) = (x >>= f).map ReplayState.unreasoned := by
  cases x with
  | error e => rfl
  | ok s => exact h s

/-- **A turn of the loop does not depend on the texts of signals.** -/
theorem replayBar_unreasoned (blocked : Bool) :
    replayBar request (withoutReason signal) blocked row s.unreasoned =
      (replayBar request signal blocked row s).map ReplayState.unreasoned := by
  unfold replayBar
  have hcount : ({ s.unreasoned with
      signalCounts := s.unreasoned.signalCounts.add (withoutReason signal).action } :
      ReplayState) =
      ({ s with signalCounts := s.signalCounts.add signal.action } : ReplayState).unreasoned := rfl
  dsimp only
  rw [hcount, closeOnOpposite_unreasoned]
  refine map_bind (fun s₁ => ?_) _
  rw [openOnSignal_unreasoned]
  refine map_bind (fun s₂ => ?_) _
  rw [closeOnTouch_unreasoned]
  exact map_bind (fun s₃ => closeOnTime_unreasoned request row s₃) _

theorem finishReplay_unreasoned (frame : List Candle) :
    finishReplay request frame s.unreasoned =
      (finishReplay request frame s).map ReplayResult.unreasoned := by
  unfold finishReplay
  cases hposition : s.position with
  | none =>
      simp [ReplayState.unreasoned, ReplayResult.unreasoned, hposition, Except.map, pure,
        Except.pure]
  | some position =>
      have hunreasoned : s.unreasoned.position = some position.unreasoned := by
        simp [ReplayState.unreasoned, hposition]
      simp only [hunreasoned]
      cases frame.getLast? with
      | none => rfl
      | some last =>
          by_cases hforce : request.forceCloseAtEnd = true
          · have hclose := closeTrade_unreasoned request s position
              (request.exitPrice position.side last.close) .dataEnd last.timestamp
            simp only [hforce, if_true]
            have hside : position.unreasoned.side = position.side := rfl
            rw [hside]
            change closeTrade request position.unreasoned _ .dataEnd _ s.unreasoned = _ at hclose
            rw [hclose]
            cases closeTrade request position (request.exitPrice position.side last.close)
                .dataEnd last.timestamp s <;> rfl
          · simp only [hforce, if_false]
            cases hpnl : pricePnl request.symbol position.side position.entryPrice last.close
                position.units with
            | error e => simp [PaperPosition.unreasoned, hpnl, bind, Except.bind, Except.map]
            | ok unrealized =>
                simp [PaperPosition.unreasoned, hpnl, bind, Except.bind, Except.map, pure,
                  Except.pure, ReplayState.unreasoned, ReplayResult.unreasoned,
                  OpenTrade.unreasoned]

end Unreasoned

def Adds (P : ClosedTrade → Prop) (s s' : ReplayState) : Prop :=
  ∃ more, s'.trades = s.trades ++ more ∧ ∀ trade ∈ more, P trade

section Adds

variable {P : ClosedTrade → Prop} {s s₁ s₂ : ReplayState} {request : ReplayRequest}
  {signal : StrategySignal} {row : Candle}

theorem Adds.of_eq (h : s₁.trades = s.trades) : Adds P s s₁ :=
  ⟨[], by simp [h], by simp⟩

theorem Adds.trans (h : Adds P s s₁) (h' : Adds P s₁ s₂) : Adds P s s₂ := by
  obtain ⟨more, htrades, hmore⟩ := h
  obtain ⟨more', htrades', hmore'⟩ := h'
  refine ⟨more ++ more', by rw [htrades', htrades, List.append_assoc], fun trade htrade => ?_⟩
  rcases List.mem_append.mp htrade with hmem | hmem
  · exact hmore trade hmem
  · exact hmore' trade hmem

theorem adds_closeTrade {position : PaperPosition} {exitPrice : ℚ} {reason : ExitReason}
    {closedAt : Int} (h : closeTrade request position exitPrice reason closedAt s = .ok s₁) :
    Adds (fun trade => trade.closedAt = closedAt ∧ trade.exitReason = reason) s s₁ := by
  obtain ⟨gross, -, h⟩ := bind_eq_ok h
  obtain rfl := Except.ok.inj h
  exact ⟨_, rfl, by simp⟩

def ClosedAt (row : Candle) (trade : ClosedTrade) : Prop :=
  trade.closedAt = row.timestamp ∧ trade.exitReason ≠ .dataEnd

theorem adds_of_closeTrade {position : PaperPosition} {exitPrice : ℚ} {reason : ExitReason}
    (hreason : reason ≠ .dataEnd)
    (h : closeTrade request position exitPrice reason row.timestamp s = .ok s₁) :
    Adds (ClosedAt row) s s₁ := by
  obtain ⟨more, htrades, hmore⟩ := adds_closeTrade h
  refine ⟨more, htrades, fun trade htrade => ⟨(hmore trade htrade).1, ?_⟩⟩
  rw [(hmore trade htrade).2]
  exact hreason

theorem adds_closeOnOpposite (h : closeOnOpposite request signal row s = .ok s₁) :
    Adds (ClosedAt row) s s₁ := by
  unfold closeOnOpposite at h
  split at h
  · split_ifs at h
    · exact adds_of_closeTrade (by simp) h
    · obtain rfl := Except.ok.inj h
      exact .of_eq rfl
  · obtain rfl := Except.ok.inj h
    exact .of_eq rfl

theorem openPosition_trades {side : Side} {reason : String}
    (h : openPosition request side reason row s = .ok s₁) : s₁.trades = s.trades := by
  unfold openPosition at h
  dsimp only at h
  generalize (if side = .buy then row.openPrice + request.friction
    else row.openPrice - request.friction) = entry at h
  by_cases hentry : entry = 0
  · simp [hentry] at h
  · rw [if_neg hentry] at h
    obtain ⟨risk, -, h⟩ := bind_eq_ok h
    split_ifs at h
    all_goals
      obtain rfl := Except.ok.inj h
      rfl

theorem openOnSignal_trades {blocked : Bool}
    (h : openOnSignal request signal blocked row s = .ok s₁) : s₁.trades = s.trades := by
  unfold openOnSignal at h
  split at h
  · split_ifs at h
    · obtain rfl := Except.ok.inj h
      rfl
    · exact openPosition_trades h
  · obtain rfl := Except.ok.inj h
    rfl

theorem adds_closeOnTouch (h : closeOnTouch request row s = .ok s₁) :
    Adds (ClosedAt row) s s₁ := by
  unfold closeOnTouch at h
  cases hposition : s.position with
  | none =>
      simp only [hposition, Except.ok.injEq] at h
      exact .of_eq (by rw [h])
  | some position =>
      simp only [hposition] at h
      cases htouched : position.touched row with
      | none =>
          simp only [htouched, Except.ok.injEq] at h
          exact .of_eq (by rw [h])
      | some touch =>
          obtain ⟨raw, reason⟩ := touch
          simp only [htouched] at h
          refine adds_of_closeTrade ?_ h
          rcases touched_reason htouched with rfl | rfl <;> simp

theorem adds_closeOnTime (h : closeOnTime request row s = .ok s₁) : Adds (ClosedAt row) s s₁ := by
  unfold closeOnTime at h
  split at h
  · split_ifs at h
    · exact adds_of_closeTrade (by simp) h
    · obtain rfl := Except.ok.inj h
      exact .of_eq rfl
  · obtain rfl := Except.ok.inj h
    exact .of_eq rfl

/-- **A turn of the loop closes trades at its bar only.** -/
theorem adds_replayBar {blocked : Bool} (h : replayBar request signal blocked row s = .ok s₁) :
    Adds (ClosedAt row) s s₁ := by
  unfold replayBar at h
  obtain ⟨t₁, hopposite, h⟩ := bind_eq_ok h
  obtain ⟨t₂, hopen, h⟩ := bind_eq_ok h
  obtain ⟨t₃, htouch, htime⟩ := bind_eq_ok h
  have hfirst : Adds (ClosedAt row) s t₁ := by
    obtain ⟨more, htrades, hmore⟩ := adds_closeOnOpposite hopposite
    exact ⟨more, htrades, hmore⟩
  exact ((hfirst.trans (.of_eq (openOnSignal_trades hopen))).trans
    (adds_closeOnTouch htouch)).trans (adds_closeOnTime htime)

theorem adds_finishReplay {frame : List Candle} {result : ReplayResult}
    (h : finishReplay request frame s = .ok result) :
    ∃ more, result.trades = s.trades ++ more ∧
      ∀ trade ∈ more, trade.exitReason = .dataEnd ∧ request.forceCloseAtEnd = true := by
  unfold finishReplay at h
  dsimp only at h
  cases hposition : s.position with
  | none =>
      simp only [hposition] at h
      obtain rfl := Except.ok.inj h
      exact ⟨[], by simp, by simp⟩
  | some position =>
      cases hlast : frame.getLast? with
      | none =>
          simp only [hposition, hlast] at h
          obtain rfl := Except.ok.inj h
          exact ⟨[], by simp, by simp⟩
      | some last =>
          simp only [hposition, hlast] at h
          by_cases hforce : request.forceCloseAtEnd = true
          · rw [if_pos hforce] at h
            obtain ⟨t, hclose, h⟩ := bind_eq_ok h
            obtain rfl := Except.ok.inj h
            obtain ⟨more, htrades, hmore⟩ := adds_closeTrade hclose
            exact ⟨more, htrades, fun trade htrade => ⟨(hmore trade htrade).2, hforce⟩⟩
          · rw [if_neg hforce] at h
            obtain ⟨unrealized, -, h⟩ := bind_eq_ok h
            obtain rfl := Except.ok.inj h
            exact ⟨[], by simp, by simp⟩

end Adds

section Runs

variable {K : Type} [Field K] [LinearOrder K] (numbers : Numbers K) (request : ReplayRequest)

/-- One bar of a replay whose signal has lost its text. -/
def blankIndex (frame : List Candle) (fast : Bool) (s : ReplayState) (index : Nat) :
    Except ZeroDivisionError ReplayState :=
  match frame[index]? with
  | none => .ok s
  | some row =>
      replayBar request (withoutReason (signalAt numbers fast frame request.strategy index))
        (adxBlocksEntry request (adxSeries frame) index) row s

/-- **Fast and plain loops go through the same states but for the texts of signals.** -/
theorem replayUpTo_unreasoned (frame : List Candle) (stop : Nat) :
    (replayUpTo numbers true request frame stop).map ReplayState.unreasoned =
      (replayUpTo numbers false request frame stop).map ReplayState.unreasoned := by
  have himage : ∀ fast, (replayUpTo numbers fast request frame stop).map
      ReplayState.unreasoned =
      (List.range' 2 (stop - 2)).foldlM (blankIndex numbers request frame fast)
        (startReplay request) := by
    intro fast
    refine (foldlM_image (fun s index => ?_) _
      (startReplay request)).symm
    simp only [blankIndex, replayIndex]
    cases frame[index]? with
    | none => rfl
    | some row => exact replayBar_unreasoned request _ row s _
  rw [himage, himage]
  refine Library.Series.foldlM_agree _ fun index _ s => ?_
  simp only [blankIndex]
  cases hrow : frame[index]? with
  | none => rfl
  | some row =>
      have haction : (signalAt numbers true frame request.strategy index).action =
          (signalAt numbers false frame request.strategy index).action :=
        signalAt_action numbers (List.getElem?_eq_some_iff.mp hrow).1
      simp only [withoutReason, haction]

/-- **What a loop has done before a bar is a function of the bars before it.** -/
theorem replayUpTo_agree (fast : Bool) {frame frame' : List Candle} {k : Nat}
    (candles : List Candle) (hagree : frame.take k = frame'.take k) :
    replayUpTo numbers fast request frame k =
      replayUpTo numbers fast { request with candles } frame' k := by
  refine Library.Series.foldlM_agree _ fun index hindex s => ?_
  have hlt : index < k := by
    have hmem := List.mem_range'_1.mp hindex
    omega
  have hrow : frame[index]? = frame'[index]? := by
    have hshort := congrArg (·[index]?) hagree
    simpa [hlt] using hshort
  have hadx : (adxSeries frame)[index - 1]? = (adxSeries frame')[index - 1]? :=
    (causal_adxSeries 14).congr_take hagree (by omega)
  unfold replayIndex
  rw [← hrow]
  cases hsome : frame[index]? with
  | none => rfl
  | some row =>
      have hinside := (List.getElem?_eq_some_iff.mp hsome).1
      have hinside' := (List.getElem?_eq_some_iff.mp (hrow ▸ hsome)).1
      simp only
      rw [signalAt_agree numbers hagree hlt hinside hinside']
      unfold adxBlocksEntry
      rw [hadx]
      rfl

variable {numbers request}

/-- **The trades that a replay closed before a bar are those of the loop up to it.** -/
theorem closedBefore_replay {fast : Bool} {frame : List Candle} {k : Nat} {s : ReplayState}
    {result : ReplayResult} (hframe : CandleBacktest.Increasing frame) (hk : k ≤ frame.length)
    (hrun : replayUpTo numbers fast request frame frame.length = .ok s)
    (hfinish : finishReplay request frame s = .ok result) :
    ∃ before, replayUpTo numbers fast request frame k = .ok before ∧
      closedBefore frame k result.trades = before.trades ∧
      (request.forceCloseAtEnd = false → ∀ trade ∈ result.trades,
        trade.exitReason ≠ .dataEnd) := by
  have hsplit : List.range' 2 (frame.length - 2) =
      List.range' 2 (k - 2) ++ List.range' (2 + (k - 2)) (frame.length - 2 - (k - 2)) := by
    rw [show (2 : Nat) + (k - 2) = 2 + 1 * (k - 2) by omega, List.range'_append]
    congr 1
    omega
  unfold replayUpTo at hrun
  rw [hsplit, List.foldlM_append] at hrun
  obtain ⟨before, hbefore, hlater⟩ := bind_eq_ok hrun
  have hadds : ∀ (indices : List Nat) (t t' : ReplayState),
      indices.foldlM (replayIndex numbers fast request frame) t = .ok t' →
      Adds (fun trade => ∃ index ∈ indices, ∃ row, frame[index]? = some row ∧
        ClosedAt row trade) t t' := by
    intro indices t t' hloop
    refine Library.Series.foldlM_preserves (.of_eq rfl)
      (fun index hindex u u' hinv hstep => hinv.trans ?_) hloop
    unfold replayIndex at hstep
    cases hrow : frame[index]? with
    | none =>
        simp only [hrow, Except.ok.injEq] at hstep
        subst hstep
        exact .of_eq rfl
    | some row =>
        simp only [hrow] at hstep
        obtain ⟨more, htrades, hmore⟩ := adds_replayBar hstep
        exact ⟨more, htrades, fun trade htrade => ⟨index, hindex, row, hrow, hmore trade htrade⟩⟩
  obtain ⟨first, hfirst, hfirstAt⟩ := hadds _ _ _ hbefore
  obtain ⟨later, hlaterTrades, hlaterAt⟩ := hadds _ _ _ hlater
  obtain ⟨last, hlast, hlastAt⟩ := adds_finishReplay hfinish
  have hstart : (startReplay request).trades = [] := rfl
  rw [hstart, List.nil_append] at hfirst
  refine ⟨before, hbefore, ?_, ?_⟩
  · have hkeep : closedBefore frame k first = first := by
      refine List.filter_eq_self.mpr fun trade htrade => ?_
      obtain ⟨index, hindex, row, hrow, hclosed, hreason⟩ := hfirstAt trade htrade
      have hlt : index < k := by
        have hmem := List.mem_range'_1.mp hindex
        omega
      have hmem : row ∈ frame.take k :=
        List.mem_of_getElem? (i := index) (by rw [List.getElem?_take_of_lt hlt, hrow])
      simp only [decide_eq_true_eq]
      exact ⟨hreason, hclosed ▸ List.mem_map_of_mem hmem⟩
    have hdrop : closedBefore frame k later = [] := by
      refine List.filter_eq_nil_iff.mpr fun trade htrade => ?_
      obtain ⟨index, hindex, row, hrow, hclosed, -⟩ := hlaterAt trade htrade
      simp only [decide_eq_true_eq, not_and]
      intro _ hmem
      obtain ⟨row', hrow', htime⟩ := List.mem_map.mp hmem
      obtain ⟨j, hj, hget⟩ := List.mem_iff_getElem.mp hrow'
      rw [List.length_take] at hj
      rw [List.getElem_take] at hget
      have hge := (List.mem_range'_1.mp hindex).1
      have hi := (List.getElem?_eq_some_iff.mp hrow).1
      have hrowGet := (List.getElem?_eq_some_iff.mp hrow).2
      have hlt := (List.pairwise_iff_getElem.mp (List.pairwise_map.mp hframe)) j index (by omega)
        hi (by omega)
      rw [hget, hrowGet, htime, hclosed] at hlt
      exact lt_irrefl _ hlt
    have hend : closedBefore frame k last = [] := by
      refine List.filter_eq_nil_iff.mpr fun trade htrade => ?_
      simp [(hlastAt trade htrade).1]
    have htrades : result.trades = first ++ (later ++ last) := by
      rw [hlast, hlaterTrades, hfirst, List.append_assoc]
    rw [htrades, hfirst]
    unfold closedBefore at hkeep hdrop hend ⊢
    rw [List.filter_append, List.filter_append, hkeep, hdrop, hend]
    simp
  · intro hforce trade htrade
    rw [hlast, hlaterTrades, hfirst] at htrade
    rcases List.mem_append.mp htrade with hmem | hmem
    · rcases List.mem_append.mp hmem with hmem | hmem
      · obtain ⟨-, -, -, -, -, hreason⟩ := hfirstAt trade hmem
        exact hreason
      · obtain ⟨-, -, -, -, -, hreason⟩ := hlaterAt trade hmem
        exact hreason
    · have hforced := (hlastAt trade hmem).2
      simp [hforce] at hforced

end Runs

section Replays

variable {K : Type} [Field K] [LinearOrder K] (numbers : Numbers K)

theorem replay_eq_ok {request : ReplayRequest} {fast : Bool} {result : ReplayResult}
    (h : replayPaperTrades numbers request fast = .ok result) :
    ∃ s, replayUpTo numbers fast request (candlesToFrame request.candles)
        (candlesToFrame request.candles).length = .ok s ∧
      finishReplay request (candlesToFrame request.candles) s = .ok result := by
  unfold replayPaperTrades at h
  split_ifs at h
  dsimp only at h
  cases hrun : replayUpTo numbers fast request (candlesToFrame request.candles)
      (candlesToFrame request.candles).length with
  | error e => simp [hrun, bind, Except.bind, raised] at h
  | ok s =>
      refine ⟨s, rfl, ?_⟩
      cases hfinish : finishReplay request (candlesToFrame request.candles) s with
      | error e => simp [hrun, hfinish, bind, Except.bind, raised] at h
      | ok result' => simpa [hrun, hfinish, bind, Except.bind, raised] using h

/-- **A fast replay returns and stores what the plain one does but for the texts of signals, and
in both the trades closed before a bar are a function of the bars before it.** -/
theorem fast_replay_equals_plain (request : ReplayRequest)
    (hrsi : request.strategy.strategyType = .rsiReversal) :
    (replayPaperTrades numbers request true).map ReplayResult.unreasoned =
      (replayPaperTrades numbers request false).map ReplayResult.unreasoned ∧
    ∀ (candles : List Candle) (fast : Bool) (k : Nat) (result result' : ReplayResult),
      AgreeBefore k (candlesToFrame request.candles) (candlesToFrame candles) →
      replayPaperTrades numbers request fast = .ok result →
      replayPaperTrades numbers { request with candles } fast = .ok result' →
      closedBefore (candlesToFrame request.candles) k result.trades =
          closedBefore (candlesToFrame candles) k result'.trades ∧
        (request.forceCloseAtEnd = false →
          ∀ trade ∈ result.trades, trade.exitReason ≠ .dataEnd) := by
  constructor
  · unfold replayPaperTrades
    split_ifs
    · rfl
    · have hloops := replayUpTo_unreasoned numbers request (candlesToFrame request.candles)
        (candlesToFrame request.candles).length
      have hfinish := finishReplay_unreasoned request
      cases hfast : replayUpTo numbers true request (candlesToFrame request.candles)
          (candlesToFrame request.candles).length with
      | error e =>
          cases hplain : replayUpTo numbers false request (candlesToFrame request.candles)
              (candlesToFrame request.candles).length with
          | error e' => simp [hfast, hplain, bind, Except.bind, raised]
          | ok s' => simp [hfast, hplain, Except.map] at hloops
      | ok s =>
          cases hplain : replayUpTo numbers false request (candlesToFrame request.candles)
              (candlesToFrame request.candles).length with
          | error e' => simp [hfast, hplain, Except.map] at hloops
          | ok s' =>
              have hsame : s.unreasoned = s'.unreasoned := by
                simpa [hfast, hplain, Except.map] using hloops
              have hends := (hfinish s (candlesToFrame request.candles)).symm.trans
                (hsame ▸ hfinish s' (candlesToFrame request.candles))
              simp only [hfast, hplain, bind, Except.bind]
              generalize finishReplay request (candlesToFrame request.candles) s = end₁ at hends
              generalize finishReplay request (candlesToFrame request.candles) s' = end₂ at hends
              cases end₁ <;> cases end₂ <;> simp_all [Except.map, raised]
  · intro candles fast k result result' hagree hresult hresult'
    obtain ⟨s, hrun, hfinish⟩ := replay_eq_ok numbers hresult
    obtain ⟨s', hrun', hfinish'⟩ := replay_eq_ok numbers hresult'
    -- a bar behind the end of one frame is behind the end of the other
    have hlength := congrArg List.length hagree
    rw [List.length_take, List.length_take] at hlength
    have hshort : ∀ (frame : List Candle) (trades : List ClosedTrade),
        closedBefore frame k trades = closedBefore frame (min k frame.length) trades := by
      intro frame trades
      unfold closedBefore
      rw [List.take_eq_take_min]
    obtain ⟨before, hbefore, htrades, hforce⟩ := closedBefore_replay
      (CandleBacktest.candlesToFrame_increasing request.candles) (min_le_right k _) hrun hfinish
    obtain ⟨before', hbefore', htrades', -⟩ := closedBefore_replay
      (CandleBacktest.candlesToFrame_increasing candles) (min_le_right k _) hrun' hfinish'
    refine ⟨?_, hforce⟩
    rw [hshort, hshort (candlesToFrame candles), htrades, htrades']
    have hagree' : (candlesToFrame request.candles).take
        (min k (candlesToFrame request.candles).length) =
        (candlesToFrame candles).take (min k (candlesToFrame request.candles).length) := by
      rw [← List.take_eq_take_min, hagree, hlength, ← List.take_eq_take_min]
    have hstates := replayUpTo_agree numbers request fast candles hagree'
    rw [hbefore, hlength] at hstates
    obtain rfl := Except.ok.inj (hstates.trans hbefore')
    rfl

end Replays

def firstFallReplay : ReplayRequest where
  symbol := "USD_JPY"
  candles := firstFall
  strategy := shortStrength
  execution :=
    { capital_pos := by norm_num
      units_pos := by simp
      percents_bounded := CandleBacktest.default_percents
      distances_pos := CandleBacktest.default_distances
      costs_bounded := by norm_num
      leverage_bounded := CandleBacktest.default_leverage }

/-- Both replays of a first fall. -/
theorem fast_replay_equals_plain_first_fall :
    (replayPaperTrades rationalNumbers firstFallReplay true).map ReplayResult.unreasoned =
      (replayPaperTrades rationalNumbers firstFallReplay false).map ReplayResult.unreasoned :=
  (fast_replay_equals_plain rationalNumbers firstFallReplay rfl).1

end FxStrategyLab.Strategies
