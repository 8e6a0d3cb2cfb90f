import FxStrategyLab.Research.ExitRules

/-!
# Exit rules compared with like

Where no bar before the deadline touches the stop or the target of a candidate, its positions
should be those of the time exit.  Both loops open at the same rows: those that the pass of
`Library.Spacing` takes.  A1 closes a position as soon as it sees a bar behind the deadline, A0
one whose exit row is not the entry row; where these differ, so do the trades.

**Results.** `like_with_like_iff`.
-/

namespace FxStrategyLab.Research

open Library.Spacing (Free taken)

section Comparison

variable (faces : PriceFaces)

def deadline (row : Nat) : Int := faces.minute row + a1MaxHoldMinutes

def lastMinute : Int := faces.minute (faces.total - 1)

def Trade.core (trade : Trade) : Nat × Nat × ℚ :=
  (trade.entryRow, trade.exitRow, trade.rawPips)

/-- No bar before the deadline of a signal touches the stop or the target of the candidate. -/
def Untouched (candidate : A1Candidate) (signals : List Signal) : Prop :=
  ∀ signal ∈ signals, ∀ later ∈ faces.laterRows signal.row,
    faces.minute later ≤ deadline faces signal.row →
      ¬ faces.StopHit signal.side.direction (candidate.levels faces signal).1 later ∧
        ¬ faces.TargetHit signal.side.direction (candidate.levels faces signal).2 later

/-- The trades of both simulators are the same, but for deadlines beyond the last bar. -/
def SameTrades (candidate : A1Candidate) (signals : List Signal) : Prop :=
  (simulateA1 faces candidate signals).map Trade.core =
    ((simulateA0 faces signals).filter fun trade =>
      deadline faces trade.entryRow ≤ lastMinute faces).map Trade.core
deriving Decidable

/-- Trades that do not overlap and are not held too long. -/
def OneAtATime (trades : List Trade) : Prop :=
  (trades.Pairwise fun t t' => t.exitRow < t'.entryRow) ∧
    ∀ trade ∈ trades, trade.holdMinutes ≤ a1MaxHoldMinutes

def LikeWithLike (candidate : A1Candidate) (signals : List Signal) : Prop :=
  (Untouched faces candidate signals → SameTrades faces candidate signals) ∧
    OneAtATime (simulateA1 faces candidate signals) ∧ OneAtATime (simulateA0 faces signals)

def keptSignals (signals : List Signal) : List Signal :=
  taken (fun signal => faces.minute signal.row) (a1MaxHoldMinutes + 1) none signals

/-- A bar follows a row before its deadline, and the last bar is not exactly at it. -/
def Paired (row : Nat) : Prop :=
  (row + 1 < faces.total → faces.minute (row + 1) ≤ deadline faces row) ∧
    lastMinute faces ≠ deadline faces row

def timeExit (signal : Signal) : Nat × Nat × ℚ :=
  let direction := signal.side.direction
  (signal.row, timeExitRow faces signal.row,
    faces.closePips direction (faces.entry signal.row direction) (timeExitRow faces signal.row))

end Comparison

section Deadlines

variable {faces : PriceFaces}

theorem minute_le_deadline (row : Nat) : faces.minute row ≤ deadline faces row := by
  simp [deadline, a1MaxHoldMinutes]

variable {row later : Nat}

theorem timeExitRow_held (hrow : row < faces.total) :
    row ≤ timeExitRow faces row ∧ timeExitRow faces row < faces.total ∧
      faces.minute (timeExitRow faces row) ≤ deadline faces row ∧
      (timeExitRow faces row + 1 < faces.total →
        deadline faces row < faces.minute (timeExitRow faces row + 1)) := by
  have hcount : row + (faces.total - (row + 1)) < faces.total := by omega
  obtain ⟨hfrom, hto, hminute, hnext⟩ :=
    scanTime_held (minute_le_deadline row : faces.minute row ≤ deadline faces row) hcount
  exact ⟨hfrom, by unfold timeExitRow PriceFaces.laterRows deadline at *; omega, hminute,
    fun h => hnext (by unfold timeExitRow PriceFaces.laterRows deadline at *; omega)⟩

theorem le_timeExitRow_iff (hle : row ≤ later) (hlater : later < faces.total) :
    later ≤ timeExitRow faces row ↔ faces.minute later ≤ deadline faces row := by
  obtain ⟨-, hinside, hminute, hnext⟩ := timeExitRow_held (lt_of_le_of_lt hle hlater)
  constructor
  · intro h
    exact (PriceFaces.minute_le h hinside).trans hminute
  · intro h
    by_contra hpast
    have hstep : timeExitRow faces row + 1 ≤ later := by omega
    have hlate := hnext (by omega)
    exact absurd (hlate.trans_le (PriceFaces.minute_le hstep hlater)) (not_lt.mpr h)

theorem timeExitRow_eq_iff (hrow : row < faces.total) :
    timeExitRow faces row = row ↔
      (row + 1 < faces.total → deadline faces row < faces.minute (row + 1)) := by
  obtain ⟨hfrom, hinside, -, -⟩ := timeExitRow_held hrow
  constructor
  · intro h hnext
    have := (le_timeExitRow_iff (Nat.le_succ row) hnext).not
    rw [not_le, not_le] at this
    exact this.mp (by omega)
  · intro h
    by_contra hne
    have hlt : row + 1 ≤ timeExitRow faces row := by omega
    have hnext : row + 1 < faces.total := by omega
    exact absurd ((le_timeExitRow_iff (Nat.le_succ row) hnext).mp hlt) (not_le.mpr (h hnext))

theorem exists_past_iff (hrow : row < faces.total) :
    (∃ later ∈ faces.laterRows row, deadline faces row < faces.minute later) ↔
      deadline faces row < lastMinute faces := by
  constructor
  · rintro ⟨later, hmem, hpast⟩
    have hlater : later < faces.total := by
      have := List.mem_range'_1.mp hmem
      omega
    exact hpast.trans_le (PriceFaces.minute_le (by omega) (by omega))
  · intro hpast
    have hne : row ≠ faces.total - 1 := by
      rintro h
      rw [lastMinute, ← h] at hpast
      exact absurd hpast (not_lt.mpr (minute_le_deadline row))
    exact ⟨faces.total - 1, List.mem_range'_1.mpr (by omega), hpast⟩

end Deadlines

section Bodies

variable {faces : PriceFaces}

/-- Where no bar in time touches a level, the scan leaves at the time exit once it sees a bar
past the deadline. -/
theorem scanExit_untouched {direction stop target : ℚ} (entry : ℚ) {deadlineMinute : Int}
    {row count : Nat}
    (hquiet : ∀ later ∈ List.range' (row + 1) count, faces.minute later ≤ deadlineMinute →
      ¬ faces.StopHit direction stop later ∧ ¬ faces.TargetHit direction target later) :
    scanExit faces direction entry stop target deadlineMinute (List.range' (row + 1) count) =
      if ∃ later ∈ List.range' (row + 1) count, deadlineMinute < faces.minute later then
        some (faces.closePips direction entry
            (scanTime faces deadlineMinute row (List.range' (row + 1) count)),
          scanTime faces deadlineMinute row (List.range' (row + 1) count))
      else none := by
  induction count generalizing row with
  | zero => simp [scanExit]
  | succ count ih =>
      simp only [List.range'_succ, List.mem_cons, forall_eq_or_imp, exists_eq_or_imp] at hquiet ⊢
      unfold scanExit scanTime
      by_cases hpast : deadlineMinute < faces.minute (row + 1)
      · simp [hpast]
      · obtain ⟨hstop, htarget⟩ := hquiet.1 (not_lt.mp hpast)
        simp only [hpast, hstop, htarget, if_false, false_or]
        exact ih hquiet.2

variable {signal : Signal}

theorem a1Trade_eq_some {candidate : A1Candidate} {trade : Trade}
    (h : a1Trade faces candidate signal = some trade) :
    trade.entryRow = signal.row ∧ trade.entryRow ≤ trade.exitRow ∧
      trade.holdMinutes ≤ a1MaxHoldMinutes := by
  unfold a1Trade at h
  dsimp only at h
  split at h
  · exact absurd h (by simp)
  · rename_i exitPips exitRow hscan
    obtain ⟨hrow, hminute⟩ := scanExit_held (minute_le_deadline signal.row) hscan
    obtain rfl := Option.some.inj h
    have hheld : faces.minute exitRow ≤ faces.minute signal.row + a1MaxHoldMinutes := hminute
    exact ⟨rfl, hrow, by dsimp only; linarith⟩

theorem a0Trade_eq_some {trade : Trade} (h : a0Trade faces signal = some trade) :
    trade.entryRow = signal.row ∧ trade.entryRow ≤ trade.exitRow ∧
      trade.holdMinutes ≤ a1MaxHoldMinutes := by
  unfold a0Trade at h
  dsimp only at h
  split_ifs at h with hexit
  have hrow : signal.row < faces.total := by
    -- no row is behind one that is not of the series
    by_contra houtside
    have hnone : faces.total - (signal.row + 1) = 0 := by omega
    exact hexit (by simp [timeExitRow, PriceFaces.laterRows, hnone, scanTime])
  obtain ⟨hfrom, -, hminute, -⟩ := timeExitRow_held hrow
  obtain rfl := Option.some.inj h
  simp only [deadline] at hminute
  exact ⟨rfl, hfrom, by dsimp only; linarith⟩

/-- The candidate trades a signal that it does not touch if a bar is past its deadline. -/
theorem a1Trade_core {candidate : A1Candidate} {signals : List Signal}
    (hquiet : Untouched faces candidate signals) (hmem : signal ∈ signals)
    (hrow : signal.row < faces.total) :
    (a1Trade faces candidate signal).map Trade.core =
      if deadline faces signal.row < lastMinute faces then some (timeExit faces signal)
      else none := by
  have hscan : scanExit faces signal.side.direction
      (faces.entry signal.row signal.side.direction) (candidate.levels faces signal).1
      (candidate.levels faces signal).2 (deadline faces signal.row)
      (faces.laterRows signal.row) = _ :=
    scanExit_untouched (faces.entry signal.row signal.side.direction) (hquiet signal hmem)
  have hpast : (∃ later ∈ List.range' (signal.row + 1) (faces.total - (signal.row + 1)),
      deadline faces signal.row < faces.minute later) ↔ _ := exists_past_iff hrow
  have hdeadline : faces.minute signal.row + a1MaxHoldMinutes = deadline faces signal.row := rfl
  simp only [hpast] at hscan
  unfold a1Trade
  simp only [hdeadline, hscan]
  split_ifs
  · rfl
  · rfl

theorem a0Trade_core (signal : Signal) :
    (a0Trade faces signal).map Trade.core =
      if timeExitRow faces signal.row ≠ signal.row then some (timeExit faces signal)
      else none := by
  by_cases h : timeExitRow faces signal.row = signal.row
  · simp [a0Trade, h]
  · simp [a0Trade, h, Trade.core, timeExit]

end Bodies

section Loop

variable {faces : PriceFaces} {tradeOf : Signal → Option Trade}
variable {P : Signal → Prop} [DecidablePred P]

theorem free_iff_exitRow_lt {signal later : Signal} (hle : signal.row ≤ later.row)
    (hlater : later.row < faces.total) :
    Free (a1MaxHoldMinutes + 1) (some (faces.minute signal.row)) (faces.minute later.row) ↔
      (timeExitRow faces signal.row : Int) < later.row := by
  have hexit := (le_timeExitRow_iff hle hlater).not
  rw [not_le, not_le] at hexit
  simp only [Free, Option.mem_some_iff, forall_eq', Nat.cast_lt, hexit, deadline]
  constructor
  · intro h
    linarith
  · intro h
    have := Int.add_one_le_of_lt h
    linarith

/-- A loop that trades the signals of a kind as the time exit does trades those of the kind that
the pass takes, if no signal of another kind holds up one of the kind. -/
theorem simulate_core {signals : List Signal}
    (hsorted : signals.Pairwise fun earlier later => earlier.row ≤ later.row)
    (hinside : ∀ signal ∈ signals, signal.row < faces.total)
    (htrade : ∀ signal ∈ signals, (tradeOf signal).map Trade.core =
      if P signal then some (timeExit faces signal) else none)
    (hskip : ∀ signal ∈ signals, ∀ later ∈ signals, signal.row ≤ later.row → ¬ P signal →
      P later → deadline faces signal.row < faces.minute later.row)
    {last : Option Int} {busyUntil : Int}
    (hsync : ∀ signal ∈ signals, P signal →
      (Free (a1MaxHoldMinutes + 1) last (faces.minute signal.row) ↔ busyUntil < signal.row)) :
    (simulate tradeOf busyUntil signals).map Trade.core =
      ((taken (fun signal => faces.minute signal.row) (a1MaxHoldMinutes + 1) last
        signals).filter P).map (timeExit faces) := by
  induction signals generalizing last busyUntil with
  | nil => simp [simulate, taken]
  | cons signal rest ih =>
      obtain ⟨hfirst, hrest⟩ := List.pairwise_cons.mp hsorted
      simp only [List.forall_mem_cons] at hinside htrade hsync
      have hrecurse := @ih hrest hinside.2 htrade.2 fun s hs t ht =>
        hskip s (List.mem_cons_of_mem signal hs) t (List.mem_cons_of_mem signal ht)
      unfold simulate taken
      by_cases hP : P signal
      · have hbusy := hsync.1 hP
        by_cases hfree : Free (a1MaxHoldMinutes + 1) last (faces.minute signal.row)
        · -- both take the signal, and are then busy until the same row
          have hcore := htrade.1
          rw [if_pos hP] at hcore
          obtain ⟨trade, heq, hcore⟩ := Option.map_eq_some_iff.mp hcore
          have hexit : trade.exitRow = timeExitRow faces signal.row :=
            congrArg (fun core => core.2.1) hcore
          rw [if_pos hfree, if_neg (not_le.mpr (hbusy.mp hfree))]
          simp only [heq, List.filter_cons, hP, decide_true, if_true, List.map_cons, hcore]
          congr 1
          refine hrecurse fun later hlater _ => ?_
          rw [hexit]
          exact free_iff_exitRow_lt (hfirst later hlater) (hinside.2 later hlater)
        · rw [if_neg hfree, if_pos (not_lt.mp (hbusy.not.mp hfree))]
          exact hrecurse hsync.2
      · -- the loop does not trade the signal, and the pass does not keep it in the kind
        have hnone : tradeOf signal = none := by
          have hcore := htrade.1
          rwa [if_neg hP, Option.map_eq_none_iff] at hcore
        simp only [hnone, ite_self]
        by_cases hfree : Free (a1MaxHoldMinutes + 1) last (faces.minute signal.row)
        · rw [if_pos hfree, List.filter_cons_of_neg (by simpa using hP)]
          refine hrecurse fun later hlater hPlater => ?_
          have hle := hfirst later hlater
          have hbehind := hskip signal List.mem_cons_self later
            (List.mem_cons_of_mem signal hlater) hle hP hPlater
          have hfreeLater := hfree.mono (PriceFaces.minute_le hle (hinside.2 later hlater))
          constructor
          · exact fun _ => (hsync.2 later hlater hPlater).mp hfreeLater
          · rintro - earlier hearlier
            obtain rfl := Option.some.inj hearlier
            have := Int.add_one_le_of_lt hbehind
            simp only [deadline] at this
            linarith
        · rw [if_neg hfree]
          exact hrecurse hsync.2

end Loop

section Lists

variable {α : Type*} {β : Type*}

/-- Where a function tells the entries of a list apart, it tells its filters apart. -/
theorem map_filter_eq_iff {f : α → β} {xs : List α}
    (hinj : ∀ x ∈ xs, ∀ y ∈ xs, f x = f y → x = y) {p q : α → Bool} :
    (xs.filter p).map f = (xs.filter q).map f ↔ ∀ x ∈ xs, p x = q x := by
  constructor
  · intro h x hx
    have hmem : ∀ r : α → Bool, f x ∈ (xs.filter r).map f ↔ r x = true := by
      intro r
      simp only [List.mem_map, List.mem_filter]
      constructor
      · rintro ⟨y, ⟨hy, hr⟩, hf⟩
        rwa [← hinj y hy x hx hf]
      · intro hr
        exact ⟨x, ⟨hx, hr⟩, rfl⟩
    exact Bool.eq_iff_iff.mpr ((hmem p).symm.trans (h ▸ hmem q))
  · intro h
    rw [List.filter_congr h]

end Lists

section Settled

variable {faces : PriceFaces}

theorem free_none (signal : Signal) :
    Free (a1MaxHoldMinutes + 1) none (faces.minute signal.row) ↔ (-1 : Int) < signal.row := by
  simp only [Free, Option.not_mem_none, false_imp_iff, implies_true, true_iff]
  omega

theorem simulateA1_core {candidate : A1Candidate} (rows : SignalRows faces)
    (hquiet : Untouched faces candidate rows.signals) :
    (simulateA1 faces candidate rows.signals).map Trade.core =
      ((keptSignals faces rows.signals).filter fun signal =>
        deadline faces signal.row < lastMinute faces).map (timeExit faces) := by
  refine simulate_core rows.increasing rows.inside
    (fun signal hmem => a1Trade_core hquiet hmem (rows.inside signal hmem)) ?_
    fun signal _ _ => free_none signal
  intro signal _ later hlater hle hP hPlater
  have hminute := PriceFaces.minute_le hle (rows.inside later hlater)
  simp only [deadline] at hP hPlater ⊢
  linarith

theorem simulateA0_core (rows : SignalRows faces) :
    (simulateA0 faces rows.signals).map Trade.core =
      ((keptSignals faces rows.signals).filter fun signal =>
        timeExitRow faces signal.row ≠ signal.row).map (timeExit faces) := by
  refine simulate_core rows.increasing rows.inside (fun signal _ => a0Trade_core signal) ?_
    fun signal _ _ => free_none signal
  intro signal hmem later hlater hle hP hPlater
  have hsame : timeExitRow faces signal.row = signal.row := not_not.mp hP
  have hne : signal.row ≠ later.row := by
    intro h
    rw [h] at hsame
    exact hPlater hsame
  have hexit := (le_timeExitRow_iff hle (rows.inside later hlater)).not
  rw [not_le, not_le, hsame] at hexit
  exact hexit.mp (by omega)

theorem timeExit_injective_on_kept (rows : SignalRows faces) :
    ∀ signal ∈ keptSignals faces rows.signals, ∀ other ∈ keptSignals faces rows.signals,
      timeExit faces signal = timeExit faces other → signal = other := by
  have hordered : Library.Spacing.Chronological (fun signal : Signal => faces.minute signal.row)
      rows.signals :=
    rows.increasing.imp_of_mem fun _ hlater hle =>
      PriceFaces.minute_le hle (rows.inside _ hlater)
  have hspaced : (keptSignals faces rows.signals).Pairwise _ :=
    Library.Spacing.taken_spaced hordered
  intro signal hsignal other hother heq
  by_contra hne
  have hrow : signal.row = other.row := congrArg Prod.fst heq
  have hsymm : Std.Symm (Library.Spacing.Apart (fun signal : Signal => faces.minute signal.row)
      (a1MaxHoldMinutes + 1)) := ⟨fun x y h => by rwa [Library.Spacing.Apart, abs_sub_comm]⟩
  have hapart := hspaced.forall hsignal hother hne
  rw [Library.Spacing.Apart, hrow, sub_self, abs_zero] at hapart
  exact absurd hapart (by decide)

theorem paired_iff {row : Nat} (hrow : row < faces.total) :
    Paired faces row ↔ (deadline faces row < lastMinute faces ↔
      timeExitRow faces row ≠ row ∧ deadline faces row ≤ lastMinute faces) := by
  have hexit := timeExitRow_eq_iff hrow
  have hnext : row + 1 < faces.total → faces.minute (row + 1) ≤ lastMinute faces :=
    fun h => PriceFaces.minute_le (by omega) (by omega)
  have hlast : ¬ row + 1 < faces.total → lastMinute faces < deadline faces row := by
    intro h
    have hlastRow : faces.total - 1 = row := by omega
    simp [lastMinute, hlastRow, deadline, a1MaxHoldMinutes]
  rw [Ne, hexit, Paired]
  by_cases h : row + 1 < faces.total
  · have := hnext h
    simp only [h, true_imp_iff]
    omega
  · have := hlast h
    simp [h, this.ne, this.le]

/-- **Where the candidate is not touched, the trades are the same exactly if every signal that
the pass takes is paired.** -/
theorem sameTrades_iff {candidate : A1Candidate} (rows : SignalRows faces)
    (hquiet : Untouched faces candidate rows.signals) :
    SameTrades faces candidate rows.signals ↔
      ∀ signal ∈ keptSignals faces rows.signals, Paired faces signal.row := by
  have hfilter : ((simulateA0 faces rows.signals).filter fun trade =>
        deadline faces trade.entryRow ≤ lastMinute faces).map Trade.core =
      ((keptSignals faces rows.signals).filter fun signal =>
        timeExitRow faces signal.row ≠ signal.row ∧
          deadline faces signal.row ≤ lastMinute faces).map (timeExit faces) := by
    calc
      _ = ((simulateA0 faces rows.signals).map Trade.core).filter fun core =>
            deadline faces core.1 ≤ lastMinute faces := by
        rw [List.filter_map]
        rfl
      _ = _ := by
        rw [simulateA0_core, List.filter_map, List.filter_filter]
        congr 1
        refine List.filter_congr fun signal _ => ?_
        rw [Bool.eq_iff_iff]
        simp only [Function.comp_apply, Bool.and_eq_true, decide_eq_true_iff]
        exact and_comm
  have hinside : ∀ signal ∈ keptSignals faces rows.signals, signal.row < faces.total :=
    fun signal h => rows.inside signal
      ((Library.Spacing.taken_sublist _ _ none rows.signals).subset h)
  rw [SameTrades, simulateA1_core rows hquiet, hfilter,
    map_filter_eq_iff (timeExit_injective_on_kept rows)]
  refine forall₂_congr fun signal hmem => ?_
  rw [paired_iff (hinside signal hmem), decide_eq_decide]

end Settled

theorem simulateA1_oneAtATime (faces : PriceFaces) (candidate : A1Candidate)
    (signals : List Signal) : OneAtATime (simulateA1 faces candidate signals) := by
  constructor
  · refine simulate_apart (fun signal trade htrade => ?_) signals (-1)
    obtain ⟨hentry, hexit, -⟩ := a1Trade_eq_some htrade
    exact ⟨hentry, hexit⟩
  · refine simulate_forall (fun signal _ trade htrade => ?_) (-1)
    exact (a1Trade_eq_some htrade).2.2

theorem simulateA0_oneAtATime (faces : PriceFaces) (signals : List Signal) :
    OneAtATime (simulateA0 faces signals) := by
  constructor
  · refine simulate_apart (fun signal trade htrade => ?_) signals (-1)
    obtain ⟨hentry, hexit, -⟩ := a0Trade_eq_some htrade
    exact ⟨hentry, hexit⟩
  · refine simulate_forall (fun signal _ trade htrade => ?_) (-1)
    exact (a0Trade_eq_some htrade).2.2

/-- **Exit research compares like with like exactly where every signal that the pass takes is
paired.** -/
theorem like_with_like_iff (faces : PriceFaces) (candidate : A1Candidate)
    (rows : SignalRows faces) :
    LikeWithLike faces candidate rows.signals ↔
      (Untouched faces candidate rows.signals →
        ∀ signal ∈ keptSignals faces rows.signals, Paired faces signal.row) := by
  constructor
  · rintro ⟨hsame, -, -⟩ hquiet
    exact (sameTrades_iff rows hquiet).mp (hsame hquiet)
  · intro h
    exact ⟨fun hquiet => (sameTrades_iff rows hquiet).mpr (h hquiet),
      simulateA1_oneAtATime faces candidate rows.signals,
      simulateA0_oneAtATime faces rows.signals⟩

def missingHour : PriceFaces where
  mode := .legacyBidOnly
  bars := [0, 60].map fun minute =>
    { minute := minute, bidClose := 150, bidHigh := 150, bidLow := 150, askClose := 150,
      atr := 1 / 10 }
  increasing := by decide

/-- A candidate closes a position before a gap on its entry row, where the time exit opens
none. -/
theorem gap_not_compared_with_like : ¬ LikeWithLike missingHour ⟨1, 3 / 2⟩ [⟨0, .buy⟩] := by
  rintro ⟨hsame, -, -⟩
  have hquiet : Untouched missingHour ⟨1, 3 / 2⟩ [⟨0, .buy⟩] := by
    intro signal hsignal later hlater hintime
    obtain rfl := List.mem_singleton.mp hsignal
    obtain rfl : later = 1 := by
      simpa [PriceFaces.laterRows, PriceFaces.total, missingHour] using hlater
    exact absurd hintime (by decide)
  exact absurd (hsame hquiet) (by decide +kernel)

end FxStrategyLab.Research
