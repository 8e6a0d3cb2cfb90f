import FxStrategyLab.Paper.Sessions
import FxStrategyLab.Library.Runs
import FxStrategyLab.Library.Series

/-!
# The books of paper sessions

A session keeps its books if its balance is the initial balance with what it has realized,
which is the sum over its closed trades, if it has at most one open trade, and none once it
has stopped.  A tick that closes the trade of a session at a balance of exactly zero may open
another one of no units before it stops the session, and then the books are left with an open
trade.

**Results.** `stop_kept` for a stop, `markOpen_sound` and `traded_some` for the two halves of
a tick, and `books_kept_iff` for the runs of the service.
-/

namespace FxStrategyLab.Paper

open CandleBacktest (Side ExecutionConfig StrategySignal endsWithJpy pipSize)
open Library (after MeetsAlong always_iff_meetsAlong meetsAlong_always)
open Library.Series (bind_eq_ok)

def openCount (trades : List PaperTrade) : Nat :=
  trades.countP fun trade => trade.status = .opened

def closedPnl (trades : List PaperTrade) : ℚ :=
  ((trades.filter fun trade => trade.status = .closed).map
    fun trade => trade.realizedPnl.getD 0).sum

def Priced (trades : List PaperTrade) : Prop :=
  ∀ trade ∈ trades, trade.status = .closed → trade.realizedPnl.isSome

structure BooksKept (session : PaperTradeSession) : Prop where
  balance : session.balance = session.initialBalance + session.realizedPnl
  realized : session.realizedPnl = closedPnl session.trades
  priced : Priced session.trades
  oneOpen : openCount session.trades ≤ 1
  stopped : session.status ≠ .running → openCount session.trades = 0

/-- Every session keeps its books, and at most one is running. -/
structure AllKept (sessions : List PaperTradeSession) : Prop where
  each : ∀ session ∈ sessions, BooksKept session
  oneRunning : (sessions.countP fun session => session.status = .running) ≤ 1

def Solvent (session : PaperTradeSession) : Prop :=
  0 < openCount session.trades → 0 < session.balance

/-- What every session keeps as long as none opens a trade on nothing. -/
structure Sound (sessions : List PaperTradeSession) : Prop extends AllKept sessions where
  solvent : ∀ session ∈ sessions, Solvent session

section Trades

variable {trades : List PaperTrade} {trade changed : PaperTrade}

@[simp]
theorem openCount_nil : openCount [] = 0 :=
  rfl

@[simp]
theorem closedPnl_nil : closedPnl [] = 0 :=
  rfl

@[simp]
theorem openCount_cons :
    openCount (trade :: trades) =
      openCount trades + if trade.status = .opened then 1 else 0 := by
  simp [openCount, List.countP_cons]

@[simp]
theorem closedPnl_cons :
    closedPnl (trade :: trades) =
      (if trade.status = .closed then trade.realizedPnl.getD 0 else 0) + closedPnl trades := by
  by_cases h : trade.status = .closed <;> simp [closedPnl, h]

@[simp]
theorem openCount_append (earlier later : List PaperTrade) :
    openCount (earlier ++ later) = openCount earlier + openCount later := by
  simp [openCount]

@[simp]
theorem closedPnl_append (earlier later : List PaperTrade) :
    closedPnl (earlier ++ later) = closedPnl earlier + closedPnl later := by
  simp [closedPnl]

theorem Priced.append {earlier later : List PaperTrade} (he : Priced earlier)
    (hl : Priced later) : Priced (earlier ++ later) := by
  intro trade htrade
  rcases List.mem_append.mp htrade with h | h
  · exact he trade h
  · exact hl trade h

theorem priced_singleton (h : trade.status = .closed → trade.realizedPnl.isSome) :
    Priced [trade] := by
  intro other hother
  rw [List.mem_singleton.mp hother]
  exact h

theorem openCount_eq_zero (h : openTrade trades = none) : openCount trades = 0 := by
  have hnone := List.find?_eq_none.mp h
  exact List.countP_eq_zero.mpr hnone

theorem openTrade_status (h : openTrade trades = some trade) : trade.status = .opened := by
  simpa using List.find?_some h

theorem openCount_updateOpen (changed : PaperTrade) (h : openTrade trades = some trade) :
    openCount (updateOpen (fun _ => changed) trades) + 1 =
      openCount trades + if changed.status = .opened then 1 else 0 := by
  induction trades with
  | nil => simp [openTrade] at h
  | cons first trades ih =>
      by_cases hopen : first.status = .opened
      · simp only [updateOpen, hopen, if_true, openCount_cons]
        omega
      · have hrest : openTrade trades = some trade := by
          simpa [openTrade, hopen] using h
        simp only [updateOpen, hopen, if_false, openCount_cons]
        have := ih hrest
        omega

theorem closedPnl_updateOpen (h : openTrade trades = some trade) :
    closedPnl (updateOpen (fun _ => changed) trades) =
      closedPnl trades +
        if changed.status = .closed then changed.realizedPnl.getD 0 else 0 := by
  induction trades with
  | nil => simp [openTrade] at h
  | cons first trades ih =>
      by_cases hopen : first.status = .opened
      · simp only [updateOpen, hopen, if_true, closedPnl_cons, reduceCtorEq, if_false]
        ring
      · have hrest : openTrade trades = some trade := by
          simpa [openTrade, hopen] using h
        simp only [updateOpen, hopen, if_false, closedPnl_cons, ih hrest]
        ring

theorem mem_updateOpen {other : PaperTrade}
    (h : other ∈ updateOpen (fun _ => changed) trades) : other = changed ∨ other ∈ trades := by
  induction trades with
  | nil => simp [updateOpen] at h
  | cons first trades ih =>
      by_cases hopen : first.status = .opened
      · simp only [updateOpen, hopen, if_true, List.mem_cons] at h
        exact h.imp_right (List.mem_cons_of_mem first)
      · simp only [updateOpen, hopen, if_false, List.mem_cons] at h
        rcases h with rfl | h
        · exact Or.inr List.mem_cons_self
        · exact (ih h).imp_right (List.mem_cons_of_mem first)

theorem Priced.updateOpen (hpriced : Priced trades)
    (h : changed.status = .closed → changed.realizedPnl.isSome) :
    Priced (updateOpen (fun _ => changed) trades) := by
  intro other hother
  rcases mem_updateOpen hother with rfl | hmem
  · exact h
  · exact hpriced other hmem

end Trades

section Stops

variable {session : PaperTradeSession}

/-- The books in the loop of a stop: some rows are closed, the rest are to come. -/
structure Stopping (rest : List PaperTrade) (session : PaperTradeSession) : Prop where
  balance : session.balance = session.initialBalance + session.realizedPnl
  realized : session.realizedPnl = closedPnl session.trades + closedPnl rest
  priced : Priced session.trades
  closed : openCount session.trades = 0

theorem stopTrade_stopping {reason : String} {trade : PaperTrade} {rest : List PaperTrade}
    (h : Stopping (trade :: rest) session) (hpriced : Priced [trade]) :
    Stopping rest (session.stopTrade reason trade) := by
  obtain ⟨hbalance, hrealized, hsome, hclosed⟩ := h
  unfold PaperTradeSession.stopTrade
  split_ifs with hopen
  · constructor
    · simp only [PaperTradeSession.book, hbalance]
      ring
    · simp only [closedPnl_cons, hopen, reduceCtorEq, if_false] at hrealized
      simp only [PaperTradeSession.book, PaperTrade.close, closedPnl_append, closedPnl_cons,
        closedPnl_nil, if_true, Option.getD_some, hrealized]
      ring
    · exact hsome.append (priced_singleton fun _ => rfl)
    · simp [PaperTrade.close, hclosed]
  · constructor
    · exact hbalance
    · rw [hrealized]
      simp only [closedPnl_append, closedPnl_cons, closedPnl_nil]
      ring
    · exact hsome.append hpriced
    · simp [hopen, hclosed]

theorem foldl_stopTrade_stopping (reason : String) {rest : List PaperTrade}
    (h : Stopping rest session) (hpriced : Priced rest) :
    Stopping [] (rest.foldl (PaperTradeSession.stopTrade reason) session) := by
  induction rest generalizing session with
  | nil => exact h
  | cons trade rest ih =>
      have hfirst : Priced [trade] :=
        priced_singleton (hpriced trade List.mem_cons_self)
      exact ih (stopTrade_stopping h hfirst)
        fun other hother => hpriced other (List.mem_cons_of_mem trade hother)

theorem stop_stopping (h : BooksKept session) (reason : String) :
    Stopping [] (session.stop reason) := by
  have hstart : Stopping session.trades { session with trades := [] } :=
    ⟨h.balance, by simpa using h.realized, by simp [Priced], rfl⟩
  obtain ⟨hbalance, hrealized, hpriced, hclosed⟩ :=
    foldl_stopTrade_stopping reason hstart h.priced
  exact ⟨hbalance, hrealized, hpriced, hclosed⟩

theorem Stopping.kept (h : Stopping [] session) : BooksKept session :=
  ⟨h.balance, by simpa using h.realized, h.priced, by simp [h.closed], fun _ => h.closed⟩

theorem Stopping.solvent (h : Stopping [] session) : Solvent session := by
  intro hopen
  rw [h.closed] at hopen
  exact absurd hopen (lt_irrefl 0)

end Stops

section Ticks

variable {session marked : PaperTradeSession} {price : Price} {signal : StrategySignal}

/-- A tick at the price leaves the session without an open trade and without a balance. -/
def Emptied (session : PaperTradeSession) (price : Price) : Prop :=
  match openTrade session.trades with
  | none => session.balance = 0
  | some trade =>
      trade.hits price ∧
        session.balance + (pnlAt session.symbol trade.side trade.entryPrice price trade.units -
          session.config.execution.commissionPerTrade) = 0

/-- The signal enters at the price, where neither the units nor the loss at the stop divide by
zero. -/
def Enters (session : PaperTradeSession) (price : Price) (signal : StrategySignal) : Prop :=
  ∃ side, signal.action.side = some side ∧ session.entryOf side price ≠ 0 ∧
    ¬ (endsWithJpy session.symbol ∧
      session.stopPriceOf side (session.entryOf side price) = 0)

/-- The tick empties the session and has a signal to enter. -/
def OpensOnNothing (session : PaperTradeSession) (tick : Tick) : Prop :=
  Emptied session tick.submitted ∧
    ∃ signal, tick.signal = some signal ∧ Enters session tick.submitted signal

@[simp]
theorem markOpen_symbol : (session.markOpen price).symbol = session.symbol := by
  unfold PaperTradeSession.markOpen
  cases openTrade session.trades with
  | none => rfl
  | some trade =>
      dsimp only
      split_ifs <;> rfl

@[simp]
theorem markOpen_config : (session.markOpen price).config = session.config := by
  unfold PaperTradeSession.markOpen
  cases openTrade session.trades with
  | none => rfl
  | some trade =>
      dsimp only
      split_ifs <;> rfl

@[simp]
theorem markOpen_status : (session.markOpen price).status = session.status := by
  unfold PaperTradeSession.markOpen
  cases openTrade session.trades with
  | none => rfl
  | some trade =>
      dsimp only
      split_ifs <;> rfl

theorem enters_markOpen : Enters (session.markOpen price) price signal ↔
    Enters session price signal := by
  simp [Enters, PaperTradeSession.entryOf, PaperTradeSession.stopPriceOf]

theorem emptied_iff : Emptied session price ↔
    session.heldAt price = none ∧ (session.markOpen price).balance = 0 := by
  unfold Emptied PaperTradeSession.heldAt PaperTradeSession.markOpen
  cases hopen : openTrade session.trades with
  | none => simp
  | some trade =>
      have hhits : (trade.mark session.symbol price).hits price ↔ trade.hits price := Iff.rfl
      simp only [hhits]
      by_cases hits : trade.hits price
      · simp only [hits, if_true, true_and]
        exact Iff.rfl
      · simp [hits]

variable {trade added : PaperTrade}

theorem close_kept (closed : PaperTrade) {realized : ℚ}
    (hkept : BooksKept session) (hopen : openTrade session.trades = some trade) (hstatus : closed.status = .closed)
    (hrealized : closed.realizedPnl = some realized) : let after := { session.book realized with
      trades := updateOpen (fun _ => closed) session.trades }
    BooksKept after ∧ openCount after.trades = 0 := by
  obtain ⟨hbalance, hsum, hpriced, hone, hstopped⟩ := hkept
  have hcount := openCount_updateOpen closed hopen
  simp only [hstatus, reduceCtorEq, if_false] at hcount
  have hzero : openCount (updateOpen (fun _ => closed) session.trades) = 0 := by omega
  refine ⟨⟨?_, ?_, ?_, ?_, ?_⟩, hzero⟩
  · simp only [PaperTradeSession.book, hbalance]
    ring
  · rw [closedPnl_updateOpen hopen]
    simp [PaperTradeSession.book, hstatus, hrealized, hsum]
  · exact hpriced.updateOpen fun _ => by simp [hrealized]
  · exact hzero.le.trans zero_le_one
  · exact fun _ => hzero

theorem hold_kept (held : PaperTrade) (hkept : BooksKept session)
    (hopen : openTrade session.trades = some trade) (hstatus : held.status = .opened) :
    let after := { session with trades := updateOpen (fun _ => held) session.trades }
    BooksKept after ∧ openCount after.trades = openCount session.trades := by
  obtain ⟨hbalance, hsum, hpriced, hone, hstopped⟩ := hkept
  have hcount := openCount_updateOpen held hopen
  simp only [hstatus, if_true, Nat.add_right_cancel_iff] at hcount
  refine ⟨⟨hbalance, ?_, ?_, ?_, ?_⟩, hcount⟩
  · rw [closedPnl_updateOpen hopen]
    simp [hstatus, hsum]
  · refine hpriced.updateOpen fun hclosed => ?_
    rw [hstatus] at hclosed
    cases hclosed
  · exact hcount.trans_le hone
  · intro hnot
    exact hcount.trans (hstopped hnot)

theorem openCount_pos {trades : List PaperTrade}
    (h : openTrade trades = some trade) : 0 < openCount trades := by
  have hmem := List.mem_of_find?_eq_some h
  exact List.countP_pos_iff.mpr ⟨trade, hmem, by simpa using openTrade_status h⟩

/-- What the first half of a tick leaves: the books, and the number of open trades. -/
structure Marked (held : Option PaperTrade) (marked : PaperTradeSession) : Prop where
  kept : BooksKept marked
  running : marked.status = .running
  none_open : held = none → openCount marked.trades = 0
  some_open : held ≠ none → openCount marked.trades = 1 ∧ 0 < marked.balance

variable {held : Option PaperTrade}

theorem Marked.solvent (h : Marked held marked) : Solvent marked := by
  intro hpos
  by_cases hheld : held = none
  · rw [h.none_open hheld] at hpos
    exact absurd hpos (lt_irrefl 0)
  · exact (h.some_open hheld).2

/-- **The first half of a tick.** Marking the open trade, and closing it at its stop or take
price, keeps the books. -/
theorem markOpen_sound (hkept : BooksKept session) (hsolvent : Solvent session)
    (hrunning : session.status = .running) :
    Marked (session.heldAt price) (session.markOpen price) := by
  have hstatus : (session.markOpen price).status = .running := by simpa using hrunning
  unfold PaperTradeSession.heldAt PaperTradeSession.markOpen at *
  cases hopen : openTrade session.trades with
  | none =>
      exact ⟨hkept, hrunning, fun _ => openCount_eq_zero hopen, fun h => absurd rfl h⟩
  | some trade =>
      have hpos := openCount_pos hopen
      have hopened := openTrade_status hopen
      simp only [hopen] at hstatus ⊢
      by_cases hits : (trade.mark session.symbol price).hits price
      · simp only [hits, if_true] at hstatus ⊢
        obtain ⟨hclosed, hzero⟩ := close_kept
          ((trade.mark session.symbol price).close price
            ((trade.mark session.symbol price).unrealizedPnl -
              session.config.execution.commissionPerTrade)
            (if (trade.mark session.symbol price).hitStop price then "損切り到達"
              else "利確到達")) hkept hopen rfl rfl
        exact ⟨hclosed, hstatus, fun _ => hzero, fun h => absurd rfl h⟩
      · simp only [hits, if_false] at hstatus ⊢
        obtain ⟨hheld, hcount⟩ :=
          hold_kept (trade.mark session.symbol price) hkept hopen hopened
        refine ⟨hheld, hstatus, fun h => absurd h (by simp), fun _ => ⟨?_, hsolvent hpos⟩⟩
        have := hkept.oneOpen
        omega

theorem openOn_some (h : marked.openOn held price signal = .ok (some added)) :
    held = none ∧ added.status = .opened ∧ 0 ≤ marked.balance ∧ Enters marked price signal := by
  unfold PaperTradeSession.openOn at h
  split at h
  · rename_i side hside
    obtain ⟨units, hunits, h⟩ := bind_eq_ok h
    obtain ⟨loss, hloss, h⟩ := bind_eq_ok h
    unfold PaperTradeSession.unitsOf at hunits
    unfold pnl at hloss
    split_ifs at hunits hloss h with hentry hzero hbound
    · have hadded := Option.some.inj (Except.ok.inj h)
      have hpercent := marked.config.execution.percents_bounded.2.1
      have hnonneg := (abs_nonneg loss).trans hbound
      refine ⟨rfl, by rw [← hadded], ?_, side, hside, hentry, hzero⟩
      by_contra hneg
      nlinarith
    · cases h
  · cases h

theorem openOn_zero (hbalance : marked.balance = 0) (henters : Enters marked price signal) :
    ∃ added, marked.openOn none price signal = .ok (some added) := by
  obtain ⟨side, hside, hentry, hzero⟩ := henters
  have hunits : marked.unitsOf (marked.entryOf side price) = .ok 0 := by
    have hfixed : 0 ≤ marked.config.execution.fixedUnits.getD 1000 := by
      cases hcase : marked.config.execution.fixedUnits with
      | none => norm_num
      | some units => exact (marked.config.execution.units_pos units (by simp [hcase])).le
    simp [PaperTradeSession.unitsOf, hentry, hbalance, hfixed]
  unfold PaperTradeSession.openOn
  rw [hside]
  simp [hunits, pnl, hzero, pnlAt, hbalance, bind, Except.bind, pure, Except.pure]

def traded (marked : PaperTradeSession) (added : Option PaperTrade) : PaperTradeSession :=
  { marked with trades := marked.trades ++ added.toList }.stopOnRisk

theorem traded_none (h : Marked held marked) :
    BooksKept (traded marked none) ∧ Solvent (traded marked none) := by
  have hcount := h.solvent
  obtain ⟨⟨hbalance, hsum, hpriced, hone, -⟩, hrunning, -, -⟩ := h
  simp only [traded, Option.toList_none, List.append_nil, PaperTradeSession.stopOnRisk]
  split_ifs with hrisk
  · refine ⟨⟨hbalance, hsum, hpriced, hone, fun _ => ?_⟩, hcount⟩
    by_contra hne
    exact absurd (hcount (Nat.pos_of_ne_zero hne)) (not_lt.mpr hrisk)
  · exact ⟨⟨hbalance, hsum, hpriced, hone, fun hnot => absurd hrunning hnot⟩, hcount⟩

theorem traded_some (h : Marked none marked)
    (hopened : added.status = .opened) (hbalance : 0 < marked.balance) :
    BooksKept (traded marked (some added)) ∧ Solvent (traded marked (some added)) := by
  obtain ⟨⟨hsums, hsum, hpriced, -, -⟩, hrunning, hnone, -⟩ := h
  have hzero := hnone rfl
  simp only [traded, Option.toList_some, PaperTradeSession.stopOnRisk,
    not_le.mpr hbalance, if_false]
  refine ⟨⟨hsums, ?_, ?_, ?_, fun hnot => absurd hrunning hnot⟩, fun _ => hbalance⟩
  · simp [hopened, hsum]
  · refine hpriced.append (priced_singleton fun hclosed => ?_)
    rw [hopened] at hclosed
    cases hclosed
  · simp [hopened, hzero]

theorem traded_zero (hopened : added.status = .opened)
    (hbalance : marked.balance = 0) : ¬ BooksKept (traded marked (some added)) := by
  intro h
  have hstopped : (traded marked (some added)).status = .riskStopped := by
    simp [traded, PaperTradeSession.stopOnRisk, hbalance]
  have hcount := h.stopped (by simp [hstopped])
  have htrades : (traded marked (some added)).trades = marked.trades ++ [added] := by
    simp [traded, PaperTradeSession.stopOnRisk, hbalance]
  simp [htrades, hopened] at hcount

end Ticks

section Service

variable {sessions : List PaperTradeSession} {session changed : PaperTradeSession}
  {db : Database} {id : Nat}

/-- Every session of the database keeps its books, for the database session and for every
other reader. -/
structure DatabaseKept (db : Database) : Prop where
  committed : AllKept db.committed
  working : AllKept db.working

/-- The invariant of the runs in which no tick opens a trade on nothing. -/
structure DatabaseSound (db : Database) : Prop where
  committed : Sound db.committed
  working : Sound db.working

/-- No tick opens a trade in a running session that it empties. -/
def Spared (db : Database) : Call → Prop
  | .tick id tick =>
      ∀ session, db.working[id]? = some session → session.status = .running →
        ¬ OpensOnNothing session tick
  | _ => True

def runningCount (sessions : List PaperTradeSession) : Nat :=
  sessions.countP fun session => session.status = .running

theorem runningCount_set (changed : PaperTradeSession) (h : sessions[id]? = some session) :
    runningCount (sessions.set id changed) + (if session.status = .running then 1 else 0) =
      runningCount sessions + if changed.status = .running then 1 else 0 := by
  obtain ⟨hid, hget⟩ := List.getElem?_eq_some_iff.mp h
  have hpos : session.status = .running → 0 < runningCount sessions := by
    intro hrunning
    have hmem : session ∈ sessions := List.mem_of_getElem? h
    exact List.countP_pos_iff.mpr ⟨session, hmem, by simpa using hrunning⟩
  simp only [runningCount, List.countP_set hid, hget, decide_eq_true_eq] at hpos ⊢
  split_ifs at hpos ⊢ <;> simp_all <;> omega

/-- A session that keeps its books and does not start to run may take the place of another. -/
theorem Sound.set (hsound : Sound sessions) (hget : sessions[id]? = some session)
    (hkept : BooksKept changed) (hsolvent : Solvent changed)
    (hstatus : changed.status = .running → session.status = .running) :
    Sound (sessions.set id changed) := by
  refine ⟨⟨?_, ?_⟩, ?_⟩
  · intro other hother
    rcases List.mem_or_eq_of_mem_set hother with hmem | rfl
    · exact hsound.each other hmem
    · exact hkept
  · have hcount := runningCount_set changed hget
    have hone : runningCount sessions ≤ 1 := hsound.oneRunning
    show runningCount (sessions.set id changed) ≤ 1
    by_cases hrunning : changed.status = .running
    · simp only [hrunning, hstatus hrunning, if_true] at hcount
      omega
    · simp only [hrunning, if_false] at hcount
      omega
  · intro other hother
    rcases List.mem_or_eq_of_mem_set hother with hmem | rfl
    · exact hsound.solvent other hmem
    · exact hsolvent

theorem DatabaseSound.kept (h : DatabaseSound db) : DatabaseKept db :=
  ⟨h.committed.toAllKept, h.working.toAllKept⟩

theorem Sound.commit (h : Sound db.working) : DatabaseSound db.commit :=
  ⟨h, h⟩

theorem stopSession_sound (h : DatabaseSound db) (id : Nat) (reason : String) :
    DatabaseSound (stopSession db id reason).1 := by
  unfold stopSession
  cases hget : db.working[id]? with
  | none => exact h
  | some session =>
      have hstopping := stop_stopping (h.working.each session (List.mem_of_getElem? hget)) reason
      have hset : Sound (db.working.set id (session.stop reason)) :=
        h.working.set hget hstopping.kept hstopping.solvent fun hrunning => by cases hrunning
      exact ⟨hset, hset⟩

theorem errorStopSession_sound (h : DatabaseSound db) (id : Nat) (reason : String) :
    DatabaseSound (errorStopSession db id reason) := by
  unfold errorStopSession
  cases hget : db.working[id]? with
  | none => exact h
  | some session =>
      obtain ⟨hbalance, hrealized, hpriced, hclosed⟩ :=
        stop_stopping (h.working.each session (List.mem_of_getElem? hget)) reason
      have hstopping : Stopping []
          { session.stop reason with
            status := .errorStopped, errorMessage := some reason } :=
        ⟨hbalance, hrealized, hpriced, hclosed⟩
      have hset := h.working.set hget hstopping.kept hstopping.solvent
        fun hrunning => by cases hrunning
      exact ⟨hset, hset⟩

theorem stopActive_sound (h : DatabaseSound db) :
    Sound (stopActive db).working ∧ runningCount (stopActive db).working = 0 := by
  unfold stopActive
  cases hfind : db.working.findIdx? fun session => decide (session.status = .running) with
  | none =>
      refine ⟨h.working, List.countP_eq_zero.mpr ?_⟩
      intro session hsession
      have hnot := List.findIdx?_eq_none_iff.mp hfind session hsession
      simpa using hnot
  | some id =>
      refine ⟨(stopSession_sound h id _).working, ?_⟩
      obtain ⟨hid, hrunning, -⟩ := List.findIdx?_eq_some_iff_getElem.mp hfind
      have hget : db.working[id]? = some db.working[id] := List.getElem?_eq_getElem hid
      have hcount := runningCount_set (db.working[id].stop "新しいセッション開始") hget
      have hone : runningCount db.working ≤ 1 := h.working.oneRunning
      simp only [decide_eq_true_eq] at hrunning
      have hstopped : (db.working[id].stop "新しいセッション開始").status = .stopped := rfl
      simp only [hrunning, hstopped, if_true, reduceCtorEq, if_false] at hcount
      simp only [stopSession, hget, Database.put, Database.commit]
      omega

theorem startSession_sound (h : DatabaseSound db) (request : PaperSessionRequest) :
    DatabaseSound (startSession db request) := by
  obtain ⟨hsound, hzero⟩ := stopActive_sound h
  unfold startSession
  apply Sound.commit
  have hnew : Stopping [] (newSession request) :=
    ⟨(add_zero _).symm, by simp [newSession], by simp [Priced, newSession], rfl⟩
  refine ⟨⟨?_, ?_⟩, ?_⟩
  · intro session hsession
    rcases List.mem_append.mp hsession with hmem | hmem
    · exact hsound.each session hmem
    · rw [List.mem_singleton.mp hmem]
      exact hnew.kept
  · show runningCount ((stopActive db).working ++ [newSession request]) ≤ 1
    simp only [runningCount, List.countP_append] at hzero ⊢
    simp [hzero, newSession]
  · intro session hsession
    rcases List.mem_append.mp hsession with hmem | hmem
    · exact hsound.solvent session hmem
    · rw [List.mem_singleton.mp hmem]
      exact hnew.solvent

theorem processTick_sound {tick : Tick} (h : DatabaseSound db)
    (hspared : Spared db (.tick id tick)) : DatabaseSound (processTick db id tick).1 := by
  unfold processTick
  cases hget : db.working[id]? with
  | none => exact h
  | some session =>
      by_cases hrunning : session.status = .running
      · have hmem := List.mem_of_getElem? hget
        have hmarked : Marked (session.heldAt tick.submitted)
            (session.markOpen tick.submitted) :=
          markOpen_sound (h.working.each session hmem) (h.working.solvent session hmem) hrunning
        have hput : ∀ after, BooksKept after → Solvent after →
            Sound (db.working.set id after) := fun after hkept hsolvent =>
          h.working.set hget hkept hsolvent fun _ => hrunning
        have hraised : DatabaseSound (db.put id (session.markOpen tick.submitted)) :=
          ⟨h.committed, hput _ hmarked.kept hmarked.solvent⟩
        simp only [hrunning, ne_eq, not_true, if_false]
        cases hsignal : tick.signal with
        | none => exact hraised
        | some signal =>
            dsimp only
            cases hopens : (session.markOpen tick.submitted).openOn
                (session.heldAt tick.submitted) tick.submitted signal with
            | error error => exact hraised
            | ok added =>
                have hafter : BooksKept (traded (session.markOpen tick.submitted) added) ∧
                    Solvent (traded (session.markOpen tick.submitted) added) := by
                  cases added with
                  | none => exact traded_none hmarked
                  | some added =>
                      obtain ⟨hheld, hopened, hnonneg, henters⟩ := openOn_some hopens
                      have hne : (session.markOpen tick.submitted).balance ≠ 0 := by
                        intro hzero
                        exact hspared session hget hrunning
                          ⟨emptied_iff.mpr ⟨hheld, hzero⟩, signal, hsignal,
                            enters_markOpen.mp henters⟩
                      rw [hheld] at hmarked
                      exact traded_some hmarked hopened (lt_of_le_of_ne hnonneg hne.symm)
                have hset := hput _ hafter.1 hafter.2
                exact ⟨hset, hset⟩
      · simp only [hrunning, ne_eq, not_false_eq_true, if_true]
        exact h

theorem processTick_lost {tick : Tick} (hnot : ¬ Spared db (.tick id tick)) :
    ¬ AllKept (processTick db id tick).1.working := by
  simp only [Spared, not_forall, not_not] at hnot
  obtain ⟨session, hget, hrunning, hempty, signal, hsignal, henters⟩ := hnot
  obtain ⟨hheld, hzero⟩ := emptied_iff.mp hempty
  obtain ⟨added, hadded⟩ := openOn_zero hzero (enters_markOpen.mpr henters)
  have hopened := (openOn_some hadded).2.1
  have hworking : (processTick db id tick).1.working =
      db.working.set id (traded (session.markOpen tick.submitted) (some added)) := by
    simp [processTick, hget, hrunning, hsignal, hheld, hadded, traded, Database.put,
      Database.commit]
  intro hkept
  rw [hworking] at hkept
  obtain ⟨hid, -⟩ := List.getElem?_eq_some_iff.mp hget
  exact traded_zero hopened hzero (hkept.each _ (List.mem_set hid _))

theorem step_sound {call : Call} (h : DatabaseSound db) (hspared : Spared db call) :
    DatabaseSound (step db call) := by
  cases call with
  | start request => exact startSession_sound h request
  | tick id tick => exact processTick_sound h hspared
  | stop id reason => exact stopSession_sound h id reason
  | errorStop id reason => exact errorStopSession_sound h id reason
  | giveUp => exact ⟨h.committed, h.committed⟩

theorem step_lost {call : Call} (hnot : ¬ Spared db call) : ¬ DatabaseKept (step db call) := by
  cases call with
  | tick id tick => exact fun h => processTick_lost hnot h.working
  | start request => exact absurd trivial hnot
  | stop id reason => exact absurd trivial hnot
  | errorStop id reason => exact absurd trivial hnot
  | giveUp => exact absurd trivial hnot

/-- **Books.** From an empty database, every session keeps its books after every call of
exactly the runs in which no tick empties a running session and has a signal to enter. -/
theorem books_kept_iff (calls : List Call) :
    (∀ n, DatabaseKept (after step {} (calls.take n))) ↔ MeetsAlong step Spared {} calls := by
  have hempty : Sound [] := ⟨⟨by simp, by simp⟩, by simp⟩
  have hstart : DatabaseSound {} := ⟨hempty, hempty⟩
  have hany : MeetsAlong step (fun _ _ => True) {} calls :=
    meetsAlong_always fun _ _ => trivial
  exact always_iff_meetsAlong (fun _ h => h.kept) (fun _ _ h _ hspared => step_sound h hspared)
    (fun _ _ _ _ hnot => step_lost hnot) hstart hany

theorem one_unit_pos (units : ℚ) (hunits : units ∈ some (1 : ℚ)) : 0 < units := by
  rw [← Option.some.inj hunits]
  exact one_pos

/-- A session of one unit without friction, whose commission takes nearly all of its
balance. -/
def costlyRequest : PaperSessionRequest where
  symbol := "EUR_USD"
  execution :=
    { initialCapital := 100
      fixedUnits := some 1
      commissionPerTrade := 9999 / 100
      spreadPips := 0
      slippagePips := 0
      capital_pos := by norm_num
      units_pos := one_unit_pos
      percents_bounded := CandleBacktest.default_percents
      distances_pos := CandleBacktest.default_distances
      costs_bounded := by norm_num
      leverage_bounded := CandleBacktest.default_leverage }

def buyingAt (price : Price) : Tick where
  price := some price
  demoPrice := price
  signal := some { action := .buy, reason := "買い" }

/-- The first tick buys, the second one reaches the stop and buys again. -/
def emptyingCalls : List Call :=
  [.start costlyRequest, .tick 0 (buyingAt ⟨1, by norm_num⟩),
    .tick 0 (buyingAt ⟨99 / 100, by norm_num⟩)]

/-- The stop leaves a balance of zero, on which a trade of no units is opened before the
session is stopped. -/
theorem emptied_session_reopens :
    ¬ ∀ calls n, DatabaseKept (after step {} (List.take n calls)) := by
  intro h
  have hkept := h emptyingCalls 3
  have hopen : ∃ session ∈ (after step {} (emptyingCalls.take 3)).working,
      session.status = .riskStopped ∧ session.balance = 0 ∧
        openCount session.trades = 1 := by
    decide +kernel
  obtain ⟨session, hmem, hstatus, -, hcount⟩ := hopen
  have hstopped := (hkept.working.each session hmem).stopped (by simp [hstatus])
  rw [hcount] at hstopped
  exact one_ne_zero hstopped

end Service

end FxStrategyLab.Paper
