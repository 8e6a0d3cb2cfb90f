import FxStrategyLab.Library.Decide

/-!
# The strategy signal engine

This file embeds `evaluate_strategy_signal` of `gmo_strategy_signal_engine.py`: the gates on
the environment, the position context and the table of trend and momentum.  The names of
future gates and operator inputs, which a decision lists by its category alone, are left
out.
-/

namespace FxStrategyLab.Backtest

inductive AutoPreviewSignal
  | buy
  | sell
  | hold
  | unknownBlocked
deriving DecidableEq

def AutoPreviewSignal.value : AutoPreviewSignal → String
  | buy => "AUTO_PREVIEW_SIGNAL_BUY"
  | sell => "AUTO_PREVIEW_SIGNAL_SELL"
  | hold => "AUTO_PREVIEW_SIGNAL_HOLD"
  | unknownBlocked => "AUTO_PREVIEW_SIGNAL_UNKNOWN_BLOCKED"

inductive TrendSafeLabel
  | uptrend
  | downtrend
  | range
  | trendUnknown
  | trendConflict
deriving DecidableEq

inductive MomentumSafeLabel
  | momentumUp
  | momentumDown
  | momentumFlat
  | momentumUnknown
deriving DecidableEq

inductive VolatilitySafeLabel
  | volatilityNormal
  | volatilityHighBlocked
  | volatilityUnknown
deriving DecidableEq

inductive SpreadSafeLabel
  | spreadWithinLimit
  | spreadOutOfLimit
  | spreadUnknown
deriving DecidableEq

inductive TickerFreshSafeLabel
  | tickerFresh
  | tickerStale
  | tickerUnknown
deriving DecidableEq

inductive MarketSafeLabel
  | marketSafe
  | marketUnsafe
  | marketUnknown
deriving DecidableEq

inductive SessionSafeLabel
  | sessionAllowed
  | sessionBlocked
  | sessionUnknown
deriving DecidableEq

inductive GuardSafeLabel
  | guardPass
  | guardHalt
  | guardUnknown
deriving DecidableEq

inductive PositionContextSafeLabel
  | noPositionContext
  | onePositionContext
  | positionContextUnknown

inductive StrategyDecisionCategory
  | entryPreviewProposed
  | holdNoOrder
  | settlementPreviewContextOnly
  | blockedFailClosed
deriving DecidableEq

def StrategyDecisionCategory.value : StrategyDecisionCategory → String
  | entryPreviewProposed => "ENTRY_PREVIEW_PROPOSED"
  | holdNoOrder => "HOLD_NO_ORDER"
  | settlementPreviewContextOnly => "SETTLEMENT_PREVIEW_CONTEXT_ONLY"
  | blockedFailClosed => "BLOCKED_FAIL_CLOSED"

structure StrategySignalSafeInput where
  trendSafeLabel : TrendSafeLabel := .trendUnknown
  momentumSafeLabel : MomentumSafeLabel := .momentumUnknown
  volatilitySafeLabel : VolatilitySafeLabel := .volatilityUnknown
  spreadSafeLabel : SpreadSafeLabel := .spreadUnknown
  tickerFreshSafeLabel : TickerFreshSafeLabel := .tickerUnknown
  marketSafeLabel : MarketSafeLabel := .marketUnknown
  sessionSafeLabel : SessionSafeLabel := .sessionUnknown
  guardSafeLabel : GuardSafeLabel := .guardUnknown
  positionContextSafeLabel : PositionContextSafeLabel := .positionContextUnknown

structure StrategySignalDecision where
  autoPreviewSignal : AutoPreviewSignal
  strategyDecisionCategory : StrategyDecisionCategory
  rulePathSafeLabel : String
  blockReasonSafeLabel : String := ""

/-- Source `_ENVIRONMENT_GATES`: whether each gate is passed, and its block reason. -/
def environmentGates (signalInput : StrategySignalSafeInput) : List (Bool × String) :=
  [(signalInput.guardSafeLabel = .guardPass, "BLOCK_GUARD_NOT_PASS"),
    (signalInput.marketSafeLabel = .marketSafe, "BLOCK_MARKET_NOT_SAFE"),
    (signalInput.sessionSafeLabel = .sessionAllowed, "BLOCK_SESSION_NOT_ALLOWED"),
    (signalInput.tickerFreshSafeLabel = .tickerFresh, "BLOCK_TICKER_NOT_FRESH"),
    (signalInput.spreadSafeLabel = .spreadWithinLimit, "BLOCK_SPREAD_NOT_WITHIN_LIMIT"),
    (signalInput.volatilitySafeLabel = .volatilityNormal, "BLOCK_VOLATILITY_NOT_NORMAL")]

def trendMomentumRules :
    TrendSafeLabel → MomentumSafeLabel →
      Option (AutoPreviewSignal × StrategyDecisionCategory × String)
  | .uptrend, .momentumUp =>
      some (.buy, .entryPreviewProposed, "RULE_UPTREND_MOMENTUM_ALIGNED_BUY")
  | .uptrend, .momentumFlat =>
      some (.buy, .entryPreviewProposed, "RULE_UPTREND_MOMENTUM_NEUTRAL_BUY")
  | .uptrend, .momentumDown => some (.hold, .holdNoOrder, "RULE_TREND_MOMENTUM_CONFLICT_HOLD")
  | .downtrend, .momentumDown =>
      some (.sell, .entryPreviewProposed, "RULE_DOWNTREND_MOMENTUM_ALIGNED_SELL")
  | .downtrend, .momentumFlat =>
      some (.sell, .entryPreviewProposed, "RULE_DOWNTREND_MOMENTUM_NEUTRAL_SELL")
  | .downtrend, .momentumUp => some (.hold, .holdNoOrder, "RULE_TREND_MOMENTUM_CONFLICT_HOLD")
  | .range, .momentumUp => some (.hold, .holdNoOrder, "RULE_RANGE_HOLD")
  | .range, .momentumDown => some (.hold, .holdNoOrder, "RULE_RANGE_HOLD")
  | .range, .momentumFlat => some (.hold, .holdNoOrder, "RULE_RANGE_HOLD")
  | _, _ => none

def blockedDecision (rulePath blockReason : String) : StrategySignalDecision where
  autoPreviewSignal := .unknownBlocked
  strategyDecisionCategory := .blockedFailClosed
  rulePathSafeLabel := rulePath
  blockReasonSafeLabel := blockReason

/-- The part of `evaluate_strategy_signal` behind the gates. -/
def decideByRule (signalInput : StrategySignalSafeInput) : StrategySignalDecision :=
  match signalInput.positionContextSafeLabel with
  | .positionContextUnknown =>
      blockedDecision "RULE_POSITION_CONTEXT_UNKNOWN_BLOCKED" "BLOCK_POSITION_CONTEXT_UNKNOWN"
  | .onePositionContext =>
      { autoPreviewSignal := .hold
        strategyDecisionCategory := .settlementPreviewContextOnly
        rulePathSafeLabel := "RULE_SETTLEMENT_CONTEXT_ONLY"
        blockReasonSafeLabel := "ENTRY_PREVIEW_BLOCKED_POSITION_ALREADY_OPEN" }
  | .noPositionContext =>
      if signalInput.trendSafeLabel = .trendConflict then
        blockedDecision "RULE_TREND_NOT_DERIVABLE_BLOCKED" "BLOCK_TREND_CONFLICT"
      else if signalInput.trendSafeLabel = .trendUnknown then
        blockedDecision "RULE_TREND_NOT_DERIVABLE_BLOCKED" "BLOCK_TREND_UNKNOWN"
      else if signalInput.momentumSafeLabel = .momentumUnknown then
        blockedDecision "RULE_MOMENTUM_UNKNOWN_BLOCKED" "BLOCK_MOMENTUM_UNKNOWN"
      else
        match trendMomentumRules signalInput.trendSafeLabel signalInput.momentumSafeLabel with
        | none => blockedDecision "RULE_TREND_NOT_DERIVABLE_BLOCKED" "BLOCK_RULE_NOT_MAPPED"
        | some (signal, category, rulePath) =>
            { autoPreviewSignal := signal
              strategyDecisionCategory := category
              rulePathSafeLabel := rulePath }

def evaluateStrategySignal (signalInput : StrategySignalSafeInput) : StrategySignalDecision :=
  match (environmentGates signalInput).find? fun gate => !gate.1 with
  | some (_, blockReason) => blockedDecision "RULE_ENVIRONMENT_GATE_BLOCKED" blockReason
  | none => decideByRule signalInput

end FxStrategyLab.Backtest
