import FxStrategyLab.RiskStop
import FxStrategyLab.Coordinator.MonitorCycle
import FxStrategyLab.Coordinator.StopLoss
import FxStrategyLab.Path.FreshEvidence
import FxStrategyLab.Path.Retry
import FxStrategyLab.Path.CloseOnce
import FxStrategyLab.Engine.DailyEntry
import FxStrategyLab.Engine.Rest
import FxStrategyLab.Engine.Protected
import FxStrategyLab.Engine.Tamper
import FxStrategyLab.Shadow.Kill
import FxStrategyLab.Shadow.Counters
import FxStrategyLab.Shadow.Agreement
import FxStrategyLab.G075.ProcessLock
import FxStrategyLab.Adapter.Flatness
import FxStrategyLab.G075.PrivateReading
import FxStrategyLab.G075.Unprotected
import FxStrategyLab.Layer2
import FxStrategyLab.Path.Cadence
import FxStrategyLab.Backtest.Mirror
import FxStrategyLab.Backtest.Bounds
import FxStrategyLab.CandleBacktest.Accounting
import FxStrategyLab.Redesign.LeadIn
import FxStrategyLab.Redesign.Gate
import FxStrategyLab.V3.GateSound
import FxStrategyLab.V3.StopsAlike
import FxStrategyLab.Session.FillPrice
import FxStrategyLab.Session.RiskCounts
import FxStrategyLab.Paper.Books
import FxStrategyLab.G075.HaltDischarge
import FxStrategyLab.Manual.Resolution
import FxStrategyLab.Redesign.FlagMeaning
import FxStrategyLab.Unattended.HeartbeatChain
import FxStrategyLab.Soak.WallClock
import FxStrategyLab.Manual.Realtime
import FxStrategyLab.Auto.SignalCycles
import FxStrategyLab.Redesign.CostLevels
import FxStrategyLab.H11.History
import FxStrategyLab.Backtest.CsvFiles
import FxStrategyLab.Manual.Independent
import FxStrategyLab.ShadowTrader.VirtualPosition
import FxStrategyLab.Strategies.FastReplay
import FxStrategyLab.Research.LikeWithLike
import FxStrategyLab.Unattended.PositionEvidence
import FxStrategyLab.Stage1.DailyRun
import FxStrategyLab.Evaluation.IndexSound
import FxStrategyLab.Unattended.LauncherHalts
import FxStrategyLab.Coordinator.History
import FxStrategyLab.Shadow.History
