import FxStrategyLab.Engine.Safety

/-!
# Market entries and the day of their cycle

`create_cycle` refuses a second cycle on the JST day of a cycle that has a MARKET
attempt.  The day it compares is the one on which that cycle was created, while
the attempt may have been made later, by a resume or behind midnight.  Two
entries fall on one day only there: as long as no cycle is created on the day of an
attempt whose own cycle is of a former day, and time does not go back, the days of
all MARKET attempts are distinct.
-/

namespace FxStrategyLab

open Library

def V4GmoActionAttempt.marketEntry? (attempt : V4GmoActionAttempt) :
    Option (Digest × Instant) :=
  if attempt.action = .marketEntry then some (attempt.cycleRef, attempt.attemptedAtUtc)
  else none

namespace V4GmoStateStore

def marketEntries (store : V4GmoStateStore) : List (Digest × Instant) :=
  store.attempts.rows.filterMap V4GmoActionAttempt.marketEntry?

def marketEntryDays (store : V4GmoStateStore) : List TradingDay :=
  store.marketEntries.map fun entry => v4GmoTradingDayJst entry.2

/-- The MARKET attempts made on the JST day of this instant belong to cycles that were
created on that day. -/
def EntryDaysMatch (store : V4GmoStateStore) (nowUtc : Instant) : Prop :=
  ∀ entry ∈ store.marketEntries,
    v4GmoTradingDayJst entry.2 = v4GmoTradingDayJst nowUtc →
      ∀ row ∈ store.cycles.rows, row.cycleRef = entry.1 →
        row.entryDayJst = v4GmoTradingDayJst nowUtc
deriving Decidable

end V4GmoStateStore

instance {C : V4GmoStateStore → Instant → Prop} [∀ store nowUtc, Decidable (C store nowUtc)]
    (w : EngineWorld) (op : EngineOp) : Decidable (CreatesUnder C w op) :=
  inferInstanceAs (Decidable (_ → _))

section DailyEntry

variable {sha : Sha256}

theorem v4GmoTradingDayJst_mono {t t' : Instant} (h : t ≤ t') :
    v4GmoTradingDayJst t ≤ v4GmoTradingDayJst t' :=
  Int.ediv_le_ediv (by decide) (Int.add_le_add_right h _)

namespace V4GmoStateStore

variable {store store' : V4GmoStateStore} {cycleRef : Digest}

theorem marketEntries_recordActionOutcome {action : V4GmoAction} {outcome : V4GmoSyntheticOutcome}
    (h : recordActionOutcome sha cycleRef action outcome store = .ok store') :
    store'.marketEntries = store.marketEntries := by
  unfold marketEntries
  rw [(recordActionOutcome_ok h).2, List.filterMap_map]
  refine List.filterMap_congr fun attempt _ => ?_
  simp only [Function.comp_apply]
  split <;> rfl

theorem marketEntries_recordActionAttempt {action : V4GmoAction}
    {target : V4GmoCycleState} {nowUtc : Instant}
    (h : recordActionAttempt sha cycleRef action target nowUtc store = .ok store') :
    store'.marketEntries =
      store.marketEntries ++
        if action = .marketEntry then [(cycleRef, nowUtc)] else [] := by
  obtain ⟨row, -, -, -, -, hrows, -⟩ := recordActionAttempt_ok h
  unfold marketEntries
  rw [hrows, List.filterMap_append]
  by_cases haction : action = .marketEntry <;>
    simp [V4GmoActionAttempt.marketEntry?, haction]

def OneActive (store : V4GmoStateStore) : Prop :=
  ∀ row ∈ store.cycles.rows, ∀ row' ∈ store.cycles.rows,
    row.state.active = true → row'.state.active = true → row.cycleRef = row'.cycleRef

theorem oneActive_createCycle {signal : FormalSignal} {policy : V4GmoExecutionPolicy}
    {nowUtc : Instant} (h : createCycle sha cycleRef signal policy nowUtc store = .ok store') :
    store'.OneActive := by
  obtain ⟨hcount, -, -, -, hrows, -⟩ := createCycle_ok h
  have hnone : ∀ row ∈ store.cycles.rows, ¬row.state.active = true :=
    List.countP_eq_zero.mp hcount
  intro row hrow row' hrow' hactive hactive'
  rw [hrows, List.mem_append, List.mem_singleton] at hrow hrow'
  rcases hrow with hrow | rfl
  · exact absurd hactive (hnone row hrow)
  · rcases hrow' with hrow' | rfl
    · exact absurd hactive' (hnone row' hrow')
    · rfl

theorem active_of_allowed {state target : V4GmoCycleState}
    (h : target ∈ state.allowedTargets) (htarget : target.active = true) :
    state.active = true := by
  cases state <;> simp_all [V4GmoCycleState.allowedTargets, V4GmoCycleState.active]

theorem OneActive.updateCycle (hI : store.OneActive)
    {f : V4GmoStoredCycle → V4GmoStoredCycle} {hf : KeepsKeys f} {row : V4GmoStoredCycle}
    (hrow : store.cycle? cycleRef = some row) (hstate : (f row).state ∈ row.state.allowedTargets)
    (hcycles : store'.cycles = (store.updateCycle cycleRef f hf).cycles) : store'.OneActive := by
  have hkey : (f row).cycleRef = row.cycleRef := hf row V4GmoStoredCycle.cycleRef
    (by simp [storedCycleKeys])
  -- every row of the new table has a row of the old one, of its reference, that was
  -- active if it is
  have hback : ∀ r ∈ store'.cycles.rows, ∃ r₀ ∈ store.cycles.rows,
      r₀.cycleRef = r.cycleRef ∧ (r.state.active = true → r₀.state.active = true) := by
    intro r hr
    rw [hcycles, mem_updateCycle] at hr
    rcases hr with ⟨hr, -⟩ | ⟨row', hrow', rfl⟩
    · exact ⟨r, hr, rfl, id⟩
    · obtain rfl : row = row' := Option.some.inj (hrow.symm.trans hrow')
      exact ⟨row, (cycle?_eq_some.mp hrow).1, hkey.symm, active_of_allowed hstate⟩
  intro r hr r' hr' hactive hactive'
  obtain ⟨r₀, hr₀, href, hback₀⟩ := hback r hr
  obtain ⟨r₁, hr₁, href', hback₁⟩ := hback r' hr'
  rw [← href, ← href']
  exact hI r₀ hr₀ r₁ hr₁ (hback₀ hactive) (hback₁ hactive')

end V4GmoStateStore

/-- The days of the entries are distinct, and a cycle that still waits for its entry was
created after the days of all of them. -/
structure DailyEntry (w : EngineWorld) : Prop where
  days : w.store.marketEntryDays.Nodup
  seen : ∀ entry ∈ w.store.marketEntries, entry.2 ∈ w.times
  known : ∀ entry ∈ w.store.marketEntries, ∃ row ∈ w.store.cycles.rows,
    row.cycleRef = entry.1
  created : ∀ row ∈ w.store.cycles.rows,
    ∃ t ∈ w.times, row.entryDayJst = v4GmoTradingDayJst t
  waiting : ∀ row ∈ w.store.cycles.rows, row.state = .entryIntentPersisted →
    ∀ entry ∈ w.store.marketEntries, v4GmoTradingDayJst entry.2 < row.entryDayJst
  oneActive : w.store.OneActive

theorem marketAttemptOfEntryDay_of_mem {store : V4GmoStateStore} {day : TradingDay}
    {entry : Digest × Instant} (hentry : entry ∈ store.marketEntries)
    {row : V4GmoStoredCycle} (hrow : row ∈ store.cycles.rows)
    (href : row.cycleRef = entry.1) (hday : row.entryDayJst = day) :
    store.marketAttemptOfEntryDay day = true := by
  obtain ⟨attempt, hattempt, hmarket⟩ := List.mem_filterMap.mp hentry
  unfold V4GmoActionAttempt.marketEntry? at hmarket
  split at hmarket
  case isFalse => cases hmarket
  case isTrue haction =>
    cases hmarket
    unfold V4GmoStateStore.marketAttemptOfEntryDay
    refine List.any_eq_true.mpr ⟨attempt, hattempt, ?_⟩
    rw [Bool.and_eq_true, decide_eq_true_eq]
    exact ⟨haction, List.any_eq_true.mpr ⟨row, hrow, decide_eq_true ⟨href, hday⟩⟩⟩

theorem le_latest {times : List Instant} (hsorted : times.Pairwise (· ≤ ·))
    {latest t : Instant} (hlatest : times.getLast? = some latest) (ht : t ∈ times) :
    t ≤ latest := by
  obtain ⟨before, rfl⟩ := List.getLast?_eq_some_iff.mp hlatest
  rw [List.pairwise_append] at hsorted
  rcases List.mem_append.mp ht with ht | ht
  · exact hsorted.2.2 t ht latest (by simp)
  · exact (List.mem_singleton.mp ht).le

namespace DailyEntry

variable {w w' : EngineWorld}

variable {cycleRef : Digest}

theorem create (hI : DailyEntry w) (hsorted : w.times.Pairwise (· ≤ ·))
    {signal : FormalSignal} {policy : V4GmoExecutionPolicy} {nowUtc : Instant}
    (hcommitted : V4GmoStateStore.createCycle sha cycleRef signal policy nowUtc w.store =
      .ok w'.store)
    (htimes : w'.times = w.times) (hlatest : w.times.getLast? = some nowUtc)
    (hmatch : w.store.EntryDaysMatch nowUtc) : DailyEntry w' := by
  obtain ⟨hcount, -, hguard, -, hrows, hattempts⟩ :=
    V4GmoStateStore.createCycle_ok hcommitted
  have hentries : w'.store.marketEntries = w.store.marketEntries := by
    unfold V4GmoStateStore.marketEntries
    rw [hattempts]
  have hlater : ∀ entry ∈ w.store.marketEntries,
      v4GmoTradingDayJst entry.2 < v4GmoTradingDayJst nowUtc := by
    intro entry hentry
    have hle := v4GmoTradingDayJst_mono (le_latest hsorted hlatest (hI.seen entry hentry))
    refine lt_of_le_of_ne hle fun hday => ?_
    obtain ⟨row, hrow, href⟩ := hI.known entry hentry
    have hfound := marketAttemptOfEntryDay_of_mem hentry hrow href
      (hmatch entry hentry hday row hrow href)
    rw [hguard] at hfound
    cases hfound
  have hnone : ∀ row ∈ w.store.cycles.rows, ¬row.state.active = true :=
    List.countP_eq_zero.mp hcount
  refine ⟨?_, ?_, ?_, ?_, ?_, V4GmoStateStore.oneActive_createCycle hcommitted⟩
  · unfold V4GmoStateStore.marketEntryDays
    rw [hentries]
    exact hI.days
  · rw [hentries, htimes]
    exact hI.seen
  · rw [hentries, hrows]
    intro entry hentry
    obtain ⟨row, hrow, href⟩ := hI.known entry hentry
    exact ⟨row, List.mem_append_left _ hrow, href⟩
  · rw [hrows, htimes]
    intro row hrow
    rcases List.mem_append.mp hrow with hrow | hrow
    · exact hI.created row hrow
    · rw [List.mem_singleton.mp hrow]
      exact ⟨nowUtc, List.mem_of_getLast? hlatest, rfl⟩
  · rw [hrows, hentries]
    intro row hrow hwaiting
    rcases List.mem_append.mp hrow with hrow | hrow
    · exact absurd (by rw [hwaiting]; rfl) (hnone row hrow)
    · rw [List.mem_singleton.mp hrow]
      exact hlater

/-- What a change of one cycle keeps, when it neither enters anew nor adds an attempt. -/
theorem update (hI : DailyEntry w)
    {f : V4GmoStoredCycle → V4GmoStoredCycle} {hf : V4GmoStateStore.KeepsKeys f}
    {row : V4GmoStoredCycle} (hrow : w.store.cycle? cycleRef = some row)
    (hstate : (f row).state ∈ row.state.allowedTargets)
    (hday : (f row).entryDayJst = row.entryDayJst)
    (hcycles : w'.store.cycles = (w.store.updateCycle cycleRef f hf).cycles)
    (hentries : w'.store.marketEntries = w.store.marketEntries)
    (htimes : w'.times = w.times) : DailyEntry w' := by
  have hmem : ∀ r ∈ w'.store.cycles.rows, (r ∈ w.store.cycles.rows ∧ r.cycleRef ≠ cycleRef) ∨
      r = f row := by
    intro r hr
    rw [hcycles, V4GmoStateStore.mem_updateCycle] at hr
    rcases hr with hr | ⟨row', hrow', rfl⟩
    · exact Or.inl hr
    · rw [Option.some.inj (hrow.symm.trans hrow')]
      exact Or.inr rfl
  have hkey : (f row).cycleRef = row.cycleRef := hf row V4GmoStoredCycle.cycleRef
    (by simp [storedCycleKeys])
  have hold := V4GmoStateStore.cycle?_eq_some.mp hrow
  refine ⟨?_, ?_, ?_, ?_, ?_, hI.oneActive.updateCycle hrow hstate hcycles⟩
  · unfold V4GmoStateStore.marketEntryDays
    rw [hentries]
    exact hI.days
  · rw [hentries, htimes]
    exact hI.seen
  · rw [hentries]
    intro entry hentry
    obtain ⟨r, hr, href⟩ := hI.known entry hentry
    by_cases hsame : r.cycleRef = cycleRef
    · refine ⟨f row, ?_, ?_⟩
      · rw [hcycles, V4GmoStateStore.mem_updateCycle]
        exact Or.inr ⟨row, hrow, rfl⟩
      · rw [hkey, hold.2, ← hsame, href]
    · refine ⟨r, ?_, href⟩
      rw [hcycles, V4GmoStateStore.mem_updateCycle]
      exact Or.inl ⟨hr, hsame⟩
  · rw [htimes]
    intro r hr
    rcases hmem r hr with ⟨hr, -⟩ | rfl
    · exact hI.created r hr
    · rw [hday]
      exact hI.created row hold.1
  · rw [hentries]
    intro r hr hwaiting
    rcases hmem r hr with ⟨hr, -⟩ | rfl
    · exact hI.waiting r hr hwaiting
    · rw [hwaiting] at hstate
      exact absurd hstate (by cases row.state <;> decide)

theorem attempt (hI : DailyEntry w) (hsorted : w.times.Pairwise (· ≤ ·))
    {action : V4GmoAction} {target : V4GmoCycleState} {nowUtc : Instant} (hcommitted :
      V4GmoStateStore.recordActionAttempt sha cycleRef action target nowUtc w.store =
        .ok w'.store)
    (htimes : w'.times = w.times)
    (hlatest : action = .marketEntry → w.times.getLast? = some nowUtc) : DailyEntry w' := by
  have hentries := V4GmoStateStore.marketEntries_recordActionAttempt hcommitted
  obtain ⟨row, hrow, htarget, hallowed, -, -, hcycles⟩ :=
    V4GmoStateStore.recordActionAttempt_ok hcommitted
  by_cases haction : action = .marketEntry
  case neg =>
    rw [if_neg haction, List.append_nil] at hentries
    exact hI.update hrow hallowed rfl hcycles hentries htimes
  case pos =>
  subst haction
  rw [if_pos rfl] at hentries
  cases htarget
  have hlast := hlatest rfl
  have hold := V4GmoStateStore.cycle?_eq_some.mp hrow
  -- only a cycle that waits for its entry may attempt one
  have hwaiting : row.state = .entryIntentPersisted := by
    revert hallowed
    cases row.state <;> simp [V4GmoCycleState.allowedTargets]
  have hnow : row.entryDayJst ≤ v4GmoTradingDayJst nowUtc := by
    obtain ⟨t, ht, hday⟩ := hI.created row hold.1
    rw [hday]
    exact v4GmoTradingDayJst_mono (le_latest hsorted hlast ht)
  have hbefore : ∀ entry ∈ w.store.marketEntries,
      v4GmoTradingDayJst entry.2 < v4GmoTradingDayJst nowUtc :=
    fun entry hentry => lt_of_lt_of_le (hI.waiting row hold.1 hwaiting entry hentry) hnow
  -- without the new entry, everything else is kept by the change of the cycle
  have hrest : DailyEntry { w' with store := { w'.store with attempts := w.store.attempts } } :=
    hI.update hrow hallowed rfl hcycles rfl htimes
  refine ⟨?_, ?_, ?_, hrest.created, ?_, hrest.oneActive⟩
  · unfold V4GmoStateStore.marketEntryDays
    rw [hentries, List.map_append]
    refine List.Nodup.append hI.days (List.nodup_singleton _) ?_
    rw [List.map_singleton, List.disjoint_singleton]
    intro hmem
    obtain ⟨entry, hentry, hday⟩ := List.mem_map.mp hmem
    exact absurd hday (hbefore entry hentry).ne
  · rw [hentries, htimes]
    intro entry hentry
    rcases List.mem_append.mp hentry with hentry | hentry
    · exact hI.seen entry hentry
    · rw [List.mem_singleton.mp hentry]
      exact List.mem_of_getLast? hlast
  · rw [hentries]
    intro entry hentry
    rcases List.mem_append.mp hentry with hentry | hentry
    · exact hrest.known entry hentry
    · rw [List.mem_singleton.mp hentry, hcycles]
      refine ⟨_, V4GmoStateStore.mem_updateCycle.mpr (Or.inr ⟨row, hrow, rfl⟩), hold.2⟩
  · intro r hr hwaits
    -- another waiting cycle would be active beside the one that attempts
    rw [hcycles, V4GmoStateStore.mem_updateCycle] at hr
    rcases hr with ⟨hr, hother⟩ | ⟨row', -, rfl⟩
    · have hsame := hI.oneActive r hr row hold.1 (by rw [hwaits]; rfl) (by rw [hwaiting]; rfl)
      exact absurd (hsame.trans hold.2) hother
    · cases hwaits

theorem of_same (hI : DailyEntry w) (hcycles : w'.store.cycles = w.store.cycles)
    (hentries : w'.store.marketEntries = w.store.marketEntries)
    (htimes : w.times <+: w'.times) : DailyEntry w' := by
  refine ⟨?_, ?_, ?_, ?_, ?_, ?_⟩
  · unfold V4GmoStateStore.marketEntryDays
    rw [hentries]
    exact hI.days
  · rw [hentries]
    exact fun entry hentry => htimes.subset (hI.seen entry hentry)
  · rw [hentries, hcycles]
    exact hI.known
  · rw [hcycles]
    intro row hrow
    obtain ⟨t, ht, hday⟩ := hI.created row hrow
    exact ⟨t, htimes.subset ht, hday⟩
  · rw [hcycles, hentries]
    exact hI.waiting
  · unfold V4GmoStateStore.OneActive
    rw [hcycles]
    exact hI.oneActive

/-- **Step lemma.** While time does not go back, every engine step whose creations meet
the condition keeps the invariant. -/
theorem step (h : EngineStep sha V4GmoStateStore.EntryDaysMatch w w')
    (hI : w.times.Pairwise (· ≤ ·) → DailyEntry w) :
    w'.times.Pairwise (· ≤ ·) → DailyEntry w' := by
  intro hsorted'
  cases h with
  | quiet hstore _ htimes =>
      have hw := hI (hsorted'.sublist htimes.sublist)
      exact hw.of_same (by rw [hstore]) (by rw [hstore]) htimes
  | create cycleRef signal policy nowUtc _ _ hcommitted _ htimes hlatest hmatch =>
      have hsorted : w.times.Pairwise (· ≤ ·) := htimes ▸ hsorted'
      exact (hI hsorted).create hsorted hcommitted htimes hlatest hmatch
  | attempt cycleRef action target nowUtc hcommitted _ htimes hlatest =>
      have hsorted : w.times.Pairwise (· ≤ ·) := htimes ▸ hsorted'
      exact (hI hsorted).attempt hsorted hcommitted htimes hlatest
  | outcome cycleRef action outcome hcommitted _ htimes =>
      have hw := hI (htimes ▸ hsorted')
      exact hw.of_same (V4GmoStateStore.recordActionOutcome_ok hcommitted).1
        (V4GmoStateStore.marketEntries_recordActionOutcome hcommitted) (htimes ▸ List.prefix_rfl)
  | move cycleRef move nowUtc hcommitted _ htimes =>
      have hw := hI (htimes ▸ hsorted')
      obtain ⟨row, hrow, hallowed, hattempts, hcycles⟩ :=
        V4GmoStateStore.transition_ok hcommitted
      refine hw.update hrow hallowed rfl hcycles ?_ htimes
      unfold V4GmoStateStore.marketEntries
      rw [hattempts]
  | globalHalt halt hstore _ htimes =>
      have hw := hI (htimes ▸ hsorted')
      exact hw.of_same (by rw [hstore]) (by rw [hstore]; rfl) (htimes ▸ List.prefix_rfl)

end DailyEntry

/-- **One entry a day, up to the day of its cycle.** In every run whose times do not go
back and in which no cycle is created on the JST day of an attempt whose own cycle is of
another day, the MARKET attempts fall on distinct JST days. -/
theorem one_entry_per_day_while_days_match (sha : Sha256) (ops : List EngineOp)
    (htimes : (after (engineStep sha) {} ops).times.Pairwise (· ≤ ·))
    (hmatch : MeetsAlong (engineStep sha) (CreatesUnder V4GmoStateStore.EntryDaysMatch)
      {} ops) : (after (engineStep sha) {} ops).store.marketEntryDays.Nodup := by
  have hstart : ({} : EngineWorld).times.Pairwise (· ≤ ·) → DailyEntry {} := by
    intro _
    refine ⟨List.nodup_nil, ?_, ?_, ?_, ?_, ?_⟩
    all_goals
      intro x hx
      cases hx
  exact (engine_invariant (fun _ _ => DailyEntry.step) hstart hmatch htimes).days

namespace Sample

def entriesOfTwoDays : List EngineOp :=
  [runSignal 0 (acceptingBroker [.flat]) none,
    runSignal 86400 (acceptingBroker [.flat]) none]

/-- Thirteen hours and 59 minutes into the session it is one minute before midnight. -/
def beforeMidnight : Int := 50340

/-- A cycle that dies before its entry, is resumed behind midnight, enters and closes
there, and a second cycle of the new day. -/
def entryBehindMidnight : List EngineOp :=
  [runSignal beforeMidnight .refusing (some 1),
    resumeAt beforeMidnight (beforeMidnight + 120) (acceptingBroker [.flat, .flat]),
    runSignal (beforeMidnight + 1200) (acceptingBroker [.flat]) none]

end Sample

theorem one_entry_per_day_on_two_days :
    (after (engineStep Sha256.checksum) {} Sample.entriesOfTwoDays).store.marketEntryDays
        = [4, 5] ∧
      (after (engineStep Sha256.checksum) {} Sample.entriesOfTwoDays).store.marketEntryDays.Nodup :=
  ⟨by decide +kernel,
    one_entry_per_day_while_days_match Sha256.checksum Sample.entriesOfTwoDays
      (by decide +kernel) (by decide +kernel)⟩

/-- An entry made behind midnight lets a second one through on the same day. -/
theorem two_entries_on_one_day :
    (after (engineStep Sha256.checksum) {} Sample.entryBehindMidnight).times.Pairwise (· ≤ ·) ∧
      ¬(after (engineStep Sha256.checksum) {}
          Sample.entryBehindMidnight).store.marketEntryDays.Nodup := by
  decide +kernel

end DailyEntry

end FxStrategyLab
