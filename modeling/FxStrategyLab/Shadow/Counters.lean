import FxStrategyLab.Shadow.Pending
import FxStrategyLab.Shadow.Reconcile

/-!
# The risk counters of the E1 shadow engine count the real effects

Every change of the venue stands on a prepared intent.  The journal tells of it
later, by a confirmation or by a reconciliation that found the planned effect.
As long as no reconciliation found a mismatch, the records that tell of effects
match the changes one by one, up to the change of the one intent that is still
unresolved; so the counters that are read off the records are sums over the
changes, and the daily cap on entries is a cap on positions that were opened.
-/

namespace FxStrategyLab.E1

open Library ShadowIntentJournal

section Counters

variable {setup : E1Setup} {sha : Sha256} {start : List JournalRecord}
  {minted : List CanonicalText} {l : List JournalRecord} {r p : JournalRecord}

def VenueMutation.intent? (m : VenueMutation) : Option JournalRecord :=
  m.journal.dropLast.getLast?

/-- The number of positions opened by intents that were prepared on this UTC date. -/
def opensOn (day : Int) (ms : List VenueMutation) : Nat :=
  ms.countP fun m => decide (m.token.action = .virtualEntry ∧
    m.intent?.map (fun p => utcDate p.timestamp) = some day)

/-- The virtual loss of a settlement whose intent was prepared at such a time. -/
def VenueMutation.lossIf (m : VenueMutation) (same : Timestamp → Bool) : ℚ :=
  match m.intent? with
  | none => 0
  | some p =>
      if m.token.action = .virtualSettlement ∧ same p.timestamp = true then p.virtualLoss else 0

/-- The virtual losses of the settlements whose intents were prepared at such times. -/
def lossesWhere (same : Timestamp → Bool) (ms : List VenueMutation) : ℚ :=
  (ms.map fun m => m.lossIf same).sum

/-- The record tells of this change: it carries the intent of the change with its amounts,
and as a confirmation also the time of the intent. -/
def EffectOf (r : JournalRecord) (m : VenueMutation) : Prop :=
  ∃ p, m.intent? = some p ∧ r.intentId = p.intentId ∧ r.action = p.action ∧
    r.pnlCategory = p.pnlCategory ∧ r.virtualLoss = p.virtualLoss ∧
      (r.eventType ≠ .reconcileMatched → r.timestamp = p.timestamp)

theorem E1World.Sound.intent {w : E1World} (h : w.Sound setup sha) {m : VenueMutation}
    (hm : m ∈ w.mutations) : ∃ p, m.intent? = some p ∧ p ∈ prepared w.journalFile.records ∧
      p.intentId = some m.token.intentId ∧ p.action = some m.token.action := by
  obtain ⟨start, before, p, s, x, text, hprepared⟩ := h.preparedBy hm
  refine ⟨p, ?_, ?_, ?_, ?_⟩
  · unfold VenueMutation.intent?
    rw [hprepared.journal]
    simp
  · refine recorded_mem_prepared hprepared.prepared ?_
    refine ((h.changed m hm).2.trans h.memory).subset ?_
    rw [hprepared.journal]
    simp
  · rw [hprepared.prepared.intentId, hprepared.token]
  · rw [hprepared.prepared.action, hprepared.token]

theorem foldl_countRecord_filter (records : List JournalRecord) (now : Timestamp)
    (l : List JournalRecord) (c : RiskCounters) :
    l.foldl (countRecord records now) c =
      (l.filter isEffect).foldl (countRecord records now) c := by
  induction l generalizing c with
  | nil => rfl
  | cons r l ih =>
      rw [List.foldl_cons, List.filter_cons]
      by_cases heffect : isEffect r = true
      · rw [if_pos heffect, List.foldl_cons]
        exact ih _
      · rw [if_neg heffect]
        have hskip : countRecord records now c r = c := by
          unfold countRecord
          rw [if_pos (Bool.eq_false_iff.mpr heffect)]
        rw [hskip]
        exact ih c

theorem effectiveTimestamp_eq (honce : PreparedOnce l) (hp : p ∈ prepared l)
    (hid : r.intentId = p.intentId)
    (htime : r.eventType ≠ .reconcileMatched → r.timestamp = p.timestamp) :
    effectiveTimestamp l r = p.timestamp := by
  unfold effectiveTimestamp
  split
  case isFalse hmatched => exact htime hmatched
  · unfold preparedTime?
    have hfind : (prepared l).reverse.find? (fun q => decide (q.intentId = r.intentId)) =
        some p := by
      cases hfound : (prepared l).reverse.find? (fun q => decide (q.intentId = r.intentId)) with
      | none =>
          have hnot := List.find?_eq_none.mp hfound p (List.mem_reverse.mpr hp)
          simp [hid] at hnot
      | some q =>
          have hq : q ∈ prepared l := List.mem_reverse.mp (List.mem_of_find?_eq_some hfound)
          have hqid : q.intentId = r.intentId := by simpa using List.find?_some hfound
          exact congrArg some (honce.eq hq hp (hqid.trans hid))
    rw [hfind]
    rfl

theorem countRecord_effect {m : VenueMutation} {now : Timestamp} {c : RiskCounters}
    (honce : PreparedOnce l) (heffect : isEffect r = true) (hof : EffectOf r m)
    (hm : ∃ p, m.intent? = some p ∧ p ∈ prepared l ∧ p.action = some m.token.action) :
    (countRecord l now c r).entriesToday = c.entriesToday + opensOn (utcDate now) [m] ∧
      (countRecord l now c r).dailyLoss =
        c.dailyLoss + m.lossIf (fun t => decide (utcDate t = utcDate now)) ∧
      (countRecord l now c r).weeklyLoss =
        c.weeklyLoss + m.lossIf (fun t => decide (isoWeek t = isoWeek now)) := by
  obtain ⟨p, hintent, hid, haction, -, hloss, htime⟩ := hof
  obtain ⟨q, hq, hprepared, htoken⟩ := hm
  obtain rfl : p = q := Option.some.inj (hintent.symm.trans hq)
  have hat : effectiveTimestamp l r = p.timestamp :=
    effectiveTimestamp_eq honce hprepared hid htime
  have hnot : ¬isEffect r = false := by rw [heffect]; nofun
  unfold countRecord opensOn VenueMutation.lossIf
  rw [if_neg hnot, haction, htoken, hat, hintent]
  cases hkind : m.token.action with
  | virtualEntry =>
      by_cases hday : utcDate p.timestamp = utcDate now <;> simp [hkind, hintent, hday]
  | virtualSettlement =>
      by_cases hday : utcDate p.timestamp = utcDate now <;>
        by_cases hweek : isoWeek p.timestamp = isoWeek now <;>
          simp [hkind, hday, hweek, hloss]

/-- **The counters of a journal whose effects match these changes.** -/
theorem riskCounters_eq {ms : List VenueMutation} (honce : PreparedOnce l)
    (hmatch : List.Forall₂ EffectOf (l.filter isEffect) ms)
    (hms : ∀ m ∈ ms, ∃ p, m.intent? = some p ∧ p ∈ prepared l ∧ p.action = some m.token.action)
    (now : Timestamp) :
    (riskCounters l now).entriesToday = opensOn (utcDate now) ms ∧
      (riskCounters l now).dailyLoss =
        lossesWhere (fun t => decide (utcDate t = utcDate now)) ms ∧
      (riskCounters l now).weeklyLoss =
        lossesWhere (fun t => decide (isoWeek t = isoWeek now)) ms := by
  -- the induction carries the counters of the records so far
  have hfold : ∀ (es : List JournalRecord) (c : RiskCounters), (∀ e ∈ es, isEffect e = true) →
      List.Forall₂ EffectOf es ms →
      (es.foldl (countRecord l now) c).entriesToday =
          c.entriesToday + opensOn (utcDate now) ms ∧
        (es.foldl (countRecord l now) c).dailyLoss =
          c.dailyLoss + lossesWhere (fun t => decide (utcDate t = utcDate now)) ms ∧
        (es.foldl (countRecord l now) c).weeklyLoss =
          c.weeklyLoss + lossesWhere (fun t => decide (isoWeek t = isoWeek now)) ms := by
    intro es c hes hpairs
    clear hmatch
    induction hpairs generalizing c with
    | nil => simp [opensOn, lossesWhere]
    | @cons e m es ms hof _ ih =>
        obtain ⟨hentries, hdaily, hweekly⟩ :=
          @countRecord_effect _ _ _ now c honce (hes e List.mem_cons_self) hof
            (hms m List.mem_cons_self)
        obtain ⟨ihentries, ihdaily, ihweekly⟩ :=
          ih (fun m' hm' => hms m' (List.mem_cons_of_mem _ hm')) (countRecord l now c e)
            fun e' he' => hes e' (List.mem_cons_of_mem _ he')
        rw [List.foldl_cons]
        refine ⟨?_, ?_, ?_⟩
        · rw [ihentries, hentries]
          simp only [opensOn, List.countP_cons, List.countP_nil]
          omega
        · rw [ihdaily, hdaily]
          simp only [lossesWhere, List.map_cons, List.sum_cons]
          exact add_assoc _ _ _
        · rw [ihweekly, hweekly]
          simp only [lossesWhere, List.map_cons, List.sum_cons]
          exact add_assoc _ _ _
  unfold riskCounters
  rw [foldl_countRecord_filter]
  simpa using hfold (l.filter isEffect) {} (fun e he => (List.mem_filter.mp he).2) hmatch

/-- The changes beyond the settled ones: none while no intent is unresolved or while the
unresolved one has not changed the venue, and otherwise the change of that intent. -/
inductive Live (setup : E1Setup) (sha : Sha256) (l : List JournalRecord)
    (settled ms : List VenueMutation) (venueFile : Option VirtualPosition) : Prop
  | none (pending : pendingOf l = []) (all : ms = settled)
  | waiting (p : JournalRecord) (pending : pendingOf l = [p]) (all : ms = settled)
      (before : p.stateBeforeDigest = some (positionDigest sha venueFile))
      (room : p.action = some .virtualEntry →
        opensOn (utcDate p.timestamp) ms < setup.policy.maxEntriesPerDay)
  | changed (p : JournalRecord) (m : VenueMutation) (pending : pendingOf l = [p])
      (all : ms = settled ++ [m]) (intent : m.intent? = some p)
      (before : p.stateBeforeDigest = some (positionDigest sha m.before))
      (position : m.position = venueFile)

/-- The records that tell of effects match the settled changes, and no date has more opens
than the cap. -/
structure Tally (setup : E1Setup) (sha : Sha256) (l : List JournalRecord)
    (ms : List VenueMutation) (venueFile : Option VirtualPosition) : Prop where
  settled : ∃ settled, List.Forall₂ EffectOf (l.filter isEffect) settled ∧
    Live setup sha l settled ms venueFile
  capped : ∀ day, opensOn day ms ≤ setup.policy.maxEntriesPerDay

def ChangesTell (sha : Sha256) (ms : List VenueMutation) : Prop :=
  ∀ m ∈ ms, positionDigest sha m.before ≠ positionDigest sha m.position
deriving Decidable

namespace Tally

variable {ms settled : List VenueMutation} {venueFile : Option VirtualPosition} {m : VenueMutation}

theorem resolved_of_settled (hmatch : List.Forall₂ EffectOf (l.filter isEffect) settled)
    (hm : m ∈ settled) (hintent : m.intent? = some p) : p ∉ pendingOf l := by
  intro hpending
  obtain ⟨e, he, hof⟩ : ∃ e ∈ l.filter isEffect, EffectOf e m := by
    clear hpending hintent
    generalize l.filter isEffect = es at hmatch
    induction hmatch with
    | nil => cases hm
    | @cons e m' es ms' hof _ ih =>
        rcases List.mem_cons.mp hm with rfl | hm
        · exact ⟨e, List.mem_cons_self, hof⟩
        · obtain ⟨e', he', hof'⟩ := ih hm
          exact ⟨e', List.mem_cons_of_mem _ he', hof'⟩
  obtain ⟨q, hq, hid, -⟩ := hof
  obtain rfl : p = q := Option.some.inj (hintent.symm.trans hq)
  obtain ⟨-, intentId, hsome, hnot⟩ := mem_pendingOf_iff.mp hpending
  obtain ⟨hmem, heffect⟩ := List.mem_filter.mp he
  have hresolving : e.eventType.resolving = true := by
    unfold isEffect at heffect
    cases htype : e.eventType <;> simp_all [JournalEventType.resolving]
  refine hnot (List.mem_filterMap.mpr ⟨e, hmem, ?_⟩)
  rw [if_pos hresolving, hid, hsome]

theorem other (h : Tally setup sha l ms venueFile) (heffect : isEffect r = false)
    (hpending : pendingOf (l ++ [r]) = pendingOf l) :
    Tally setup sha (l ++ [r]) ms venueFile := by
  obtain ⟨⟨settled, hmatch, hlive⟩, hcapped⟩ := h
  refine ⟨⟨settled, ?_, ?_⟩, hcapped⟩
  · rw [List.filter_append, List.filter_cons_of_neg (by rw [heffect]; nofun), List.filter_nil,
      List.append_nil]
    exact hmatch
  · cases hlive with
    | none hnone hall => exact .none (hpending.trans hnone) hall
    | waiting p hp hall hbefore hroom => exact .waiting p (hpending.trans hp) hall hbefore hroom
    | changed p m hp hall hintent hbefore hposition =>
        exact .changed p m (hpending.trans hp) hall hintent hbefore hposition

theorem resolvedWithout (h : Tally setup sha l ms venueFile) (heffect : isEffect r = false)
    (hpending : pendingOf l = [p]) (hresolved : pendingOf (l ++ [r]) = [])
    (hnone : ∀ m ∈ ms, m.intent? = some p →
      p.stateBeforeDigest = some (positionDigest sha m.before) → m.position = venueFile → False) :
    Tally setup sha (l ++ [r]) ms venueFile := by
  obtain ⟨⟨settled, hmatch, hlive⟩, hcapped⟩ := h
  refine ⟨⟨settled, ?_, .none hresolved ?_⟩, hcapped⟩
  · rw [List.filter_append, List.filter_cons_of_neg (by rw [heffect]; nofun), List.filter_nil,
      List.append_nil]
    exact hmatch
  · cases hlive with
    | none _ hall => exact hall
    | waiting q _ hall _ _ => exact hall
    | changed q m hq hall hintent hbefore hposition =>
        obtain rfl : q = p := by simpa [hq] using hpending
        exact (hnone m (by simp [hall]) hintent hbefore hposition).elim

theorem resolvedWith (h : Tally setup sha l ms venueFile) (heffect : isEffect r = true)
    (hpending : pendingOf l = [p]) (hresolved : pendingOf (l ++ [r]) = [])
    (hchanged : p.stateBeforeDigest = some (positionDigest sha venueFile) →
      ∃ m ∈ ms, m.intent? = some p)
    (hof : ∀ m, m.intent? = some p → EffectOf r m) : Tally setup sha (l ++ [r]) ms venueFile := by
  obtain ⟨⟨settled, hmatch, hlive⟩, hcapped⟩ := h
  have hp : p ∈ pendingOf l := by
    rw [hpending]
    exact List.mem_singleton_self p
  cases hlive with
  | none hnone hall =>
      rw [hnone] at hpending
      cases hpending
  | waiting q hq hall hbefore _ =>
      -- a change of this intent would be a settled one
      obtain rfl : q = p := by simpa [hq] using hpending
      obtain ⟨m, hm, hintent⟩ := hchanged hbefore
      exact absurd hp (resolved_of_settled hmatch (hall ▸ hm) hintent)
  | changed q m hq hall hintent _ _ =>
      obtain rfl : q = p := by simpa [hq] using hpending
      refine ⟨⟨settled ++ [m], ?_, .none hresolved hall⟩, hcapped⟩
      rw [List.filter_append, List.filter_cons_of_pos heffect, List.filter_nil]
      exact List.rel_append hmatch (.cons (hof m hintent) .nil)

variable {w : E1World}

theorem not_changed_before {early : List JournalRecord} {s : JournalRecord}
    (hsound : w.Sound setup sha) (hdistinct : DistinctIds sha w.mintedTexts)
    (hrecords : w.records = early ++ [p] ++ [s])
    (hgrown : Grown (Behind setup sha w.mintedTexts) w.records)
    (hp : p ∈ prepared w.records) (hm : m ∈ w.mutations) (hintent : m.intent? = some p) :
    w.records.length ≤ m.journal.length := by
  by_contra hlt
  obtain ⟨start, before, q, t, x, text, hprepared⟩ := hsound.preparedBy hm
  have hqp : q = p := by
    unfold VenueMutation.intent? at hintent
    rw [hprepared.journal] at hintent
    simpa [List.dropLast_append] using hintent
  have hprefix : before ++ [q] <+: w.records := by
    refine List.IsPrefix.trans ⟨[t], ?_⟩ (hsound.changed m hm).2
    rw [hprepared.journal, List.append_assoc]
    rfl
  have hearly : early <+: w.records := by
    rw [hrecords, List.append_assoc]
    exact List.prefix_append _ _
  -- the same preparation stands in the records before itself
  have hin : before ++ [q] <+: early := by
    refine prefix_of_length_lt hprefix hearly ?_
    rw [hprepared.journal, hrecords] at hlt
    simp only [List.length_append, List.length_cons, List.length_nil] at hlt
    omega
  obtain ⟨-, htype, hsome⟩ := mem_prepared_iff.mp hp
  obtain ⟨intentId, hid⟩ := Option.isSome_iff_exists.mp hsome
  rw [hrecords] at hgrown
  have hfresh := intent_fresh hdistinct (grown_append_singleton.mp hgrown).1 htype hid
  have hmem : p ∈ early := hin.subset (by simp [hqp])
  exact hfresh.1 p (mem_prepared_iff.mpr ⟨hmem, htype, hsome⟩) hid

/-- **A record that the engine appends keeps the match**, unless it finds a mismatch. -/
theorem append (hsound : w.Sound setup sha) (hcopy : w.position = w.venueFile)
    (hfile : w.journalFile.records = w.records) (hdistinct : DistinctIds sha w.mintedTexts)
    (htell : ChangesTell sha w.mutations)
    (hr : Admitted setup sha start w.mintedTexts w.records r) (hobserved : Observed sha w r)
    (hfree : r.eventType ≠ .reconcileMismatch)
    (h : Tally setup sha w.records w.mutations w.venueFile) :
    Tally setup sha (w.records ++ [r]) w.mutations w.venueFile := by
  have hgrown : Grown (Behind setup sha w.mintedTexts) w.records := hfile ▸ hsound.grown
  have hgrown' : Grown (Behind setup sha w.mintedTexts) (w.records ++ [r]) :=
    grown_append_singleton.mpr ⟨hgrown, start, hr⟩
  cases hr with
  | plain htype =>
      refine h.other ?_ (pendingOf_append_other ?_ (Or.inl ?_)) <;>
        cases hkind : r.eventType <;>
          simp_all [JournalEventType.plain, isEffect, JournalEventType.resolving]
  | kill htype =>
      refine h.other ?_ (pendingOf_append_other ?_ (Or.inl ?_)) <;>
        cases hkind : r.eventType <;>
          simp_all [JournalEventType.killing, isEffect, JournalEventType.resolving]
  | start x q _ _ hrecorded =>
      refine h.other ?_ (pendingOf_append_other ?_ (Or.inl ?_)) <;>
        simp [hrecorded.eventType, isEffect, JournalEventType.resolving]
  | mismatch now reason expected observed count source hentry =>
      exact absurd (eventType_of_entry hentry) hfree
  | prepare x text hrecorded hprepares =>
      obtain ⟨⟨settled, hmatch, hlive⟩, hcapped⟩ := h
      obtain ⟨honce, hnone⟩ := unresolvedIntents_eq_ok.mp hprepares.pending
      have hall : w.mutations = settled := by
        cases hlive with
        | none _ hall => exact hall
        | waiting q hq => rw [hnone] at hq; cases hq
        | changed q m hq => rw [hnone] at hq; cases hq
      have hnot : isEffect r = false := by simp [isEffect, hrecorded.eventType]
      refine ⟨⟨settled, ?_, .waiting r ?_ hall ?_ fun haction => ?_⟩, hcapped⟩
      · rw [List.filter_append, List.filter_cons_of_neg (by rw [hnot]; decide), List.filter_nil,
          List.append_nil]
        exact hmatch
      · exact pendingOf_prepared hdistinct hgrown' hrecorded.eventType
      · rw [hobserved.prepared hrecorded.eventType, ← hcopy]
        rfl
      · -- the cap was checked on the counters of these records
        have hentry : x.token.action = .virtualEntry :=
          Option.some.inj (hrecorded.action.symm.trans haction)
        have hcounters := riskCounters_eq honce (hall ▸ hmatch)
          (fun m hm => by
            obtain ⟨q, hq, hmem, -, hact⟩ := hsound.intent hm
            exact ⟨q, hq, hfile ▸ hmem, hact⟩) x.time
        rw [hrecorded.timestamp, ← hcounters.1]
        exact hprepares.capped hentry
  | outcome x s hlast hs htype hrecorded =>
      obtain ⟨before, hbefore⟩ := List.getLast?_eq_some_iff.mp hlast
      obtain ⟨early, q, y, rfl, hq, hy, hpending⟩ :=
        pendingOf_started hdistinct (hbefore ▸ hgrown) hs.eventType
      rw [← hbefore] at hpending
      have hxq : x.Recorded .intentPrepared q := hs.same hy hq
      have hqmem : q ∈ prepared w.records :=
        recorded_mem_prepared hxq (by rw [hbefore]; simp)
      have hresolved : pendingOf (w.records ++ [r]) = [] := by
        refine pendingOf_append_resolving hpending ?_ ?_
          (hrecorded.intentId.trans hxq.intentId.symm)
        · rcases htype with htype | htype <;> rw [htype] <;> decide
        · rcases htype with htype | htype <;> rw [htype] <;> rfl
      rcases htype with htype | htype
      · -- a confirmation: the last change was made on these very records
        refine h.resolvedWith (by simp [isEffect, htype]) hpending hresolved (fun _ => ?_)
          fun m hintent => ⟨q, hintent, hrecorded.intentId.trans hxq.intentId.symm,
            hrecorded.action.trans hxq.action.symm,
            hrecorded.pnlCategory.trans hxq.pnlCategory.symm,
            hrecorded.virtualLoss.trans hxq.virtualLoss.symm,
            fun _ => hrecorded.timestamp.trans hxq.timestamp.symm⟩
        obtain ⟨m, hm, hjournal⟩ := hobserved.confirmed htype
        refine ⟨m, List.mem_of_getLast? hm, ?_⟩
        unfold VenueMutation.intent?
        rw [hjournal, hbefore]
        simp
      · -- a rejection: nothing was changed on these records
        refine h.resolvedWithout (by simp [isEffect, htype]) hpending hresolved
          fun m hm hintent _ _ => ?_
        have hlength := not_changed_before hsound hdistinct hbefore hgrown hqmem hm hintent
        have hshort := hobserved.rejected htype m hm
        omega
  | matched now status observed count source hentry hpending hcompared =>
      have htype : r.eventType = .reconcileMatched := eventType_of_entry hentry
      have hstatus : r.statusLabel = status.value :=
        congrArg (fun entry : JournalEntry => entry.statusLabel) hentry
      have hobs : observed = positionDigest sha w.venueFile := by
        have hfield : r.observedStateDigest = some observed :=
          congrArg (fun entry : JournalEntry => entry.observedStateDigest) hentry
        have hsame := hfield.symm.trans (hobserved.matched htype)
        rw [← hcopy]
        exact Option.some.inj hsame
      obtain ⟨-, hpending⟩ := unresolvedIntents_eq_ok.mp hpending
      cases source with
      | none =>
          obtain ⟨rfl, -⟩ := hcompared
          refine h.other ?_ (pendingOf_append_other (by rw [htype]; decide)
            (Or.inr (intentId_of_reconcile hentry)))
          simp [isEffect, htype, hstatus, ReconcileStatus.value]
      | some q =>
          have hid : r.intentId = q.intentId := intentId_of_reconcile hentry
          have hresolved : pendingOf (w.records ++ [r]) = [] :=
            pendingOf_append_resolving hpending (by rw [htype]; decide) (by rw [htype]; rfl) hid
          rcases hcompared with ⟨rfl, hbefore⟩ | ⟨rfl, hbefore, -⟩
          · -- no effect: a change of this intent would show in the digest
            refine h.resolvedWithout ?_ hpending hresolved fun m hm _ hdigest hposition => ?_
            · simp [isEffect, htype, hstatus, ReconcileStatus.value]
            · refine htell m hm ?_
              rw [hposition, ← hobs]
              exact Option.some.inj (hdigest.symm.trans hbefore.symm)
          · obtain ⟨haction, hcategory, hloss⟩ := amounts_of_reconcile hentry
            refine h.resolvedWith ?_ hpending hresolved (fun hdigest => ?_)
              fun m hintent => ⟨q, hintent, hid, haction, hcategory, hloss,
                fun hnot => absurd htype hnot⟩
            · simp [isEffect, htype, hstatus]
            · exact absurd (hobs ▸ hdigest.symm) hbefore

theorem opensOn_append (day : Int) (ms : List VenueMutation) (m : VenueMutation) :
    opensOn day (ms ++ [m]) = opensOn day ms + opensOn day [m] :=
  List.countP_append

/-- **A change of the venue keeps the match**: it is the one of the unresolved intent. -/
theorem change {x : Execution} {position : Option VirtualPosition}
    (hsound : w.Sound setup sha) (hdistinct : DistinctIds sha w.mintedTexts)
    (hchanges : Changes sha w x position)
    (h : Tally setup sha w.journalFile.records w.mutations w.venueFile) :
    Tally setup sha w.journalFile.records
      (w.mutations ++
        [{ token := x.token, before := w.venueFile, position,
           journal := w.journalFile.records, phase := w.phase }]) position := by
  have hfile : w.journalFile.records = w.records := hchanges.durable
  have hgrown : Grown (Behind setup sha w.mintedTexts) w.records := hfile ▸ hsound.grown
  obtain ⟨s, hlast, hs⟩ := hchanges.started
  obtain ⟨before, hbefore⟩ := List.getLast?_eq_some_iff.mp hlast
  obtain ⟨early, q, y, rfl, hq, hy, hpending⟩ :=
    pendingOf_started hdistinct (hbefore ▸ hgrown) hs.eventType
  rw [← hbefore] at hpending
  have hxq : x.Recorded .intentPrepared q := hs.same hy hq
  have hqmem : q ∈ prepared w.records := recorded_mem_prepared hxq (by rw [hbefore]; simp)
  rw [hfile] at h ⊢
  obtain ⟨⟨settled, hmatch, hlive⟩, hcapped⟩ := h
  have hintent : VenueMutation.intent?
      { token := x.token, before := w.venueFile, position, journal := w.records,
        phase := w.phase } = some q := by
    unfold VenueMutation.intent?
    rw [hbefore]
    simp
  cases hlive with
  | none hnone hall =>
      rw [hnone] at hpending
      cases hpending
  | changed q' m hq' hall hm _ _ =>
      obtain rfl : q' = q := by simpa [hq'] using hpending
      have hmem : m ∈ w.mutations := by simp [hall]
      have hlength := not_changed_before hsound hdistinct hbefore hgrown hqmem hmem hm
      have hshort := hchanges.fresh m hmem
      omega
  | waiting q' hq' hall hdigest hroom =>
      obtain rfl : q' = q := by simpa [hq'] using hpending
      refine ⟨⟨settled, hmatch, .changed q' _ hq' (by rw [hall]) hintent hdigest rfl⟩,
        fun day => ?_⟩
      rw [opensOn_append]
      have hone := hcapped day
      by_cases hcounts : x.token.action = .virtualEntry ∧ utcDate q'.timestamp = day
      · obtain ⟨haction, rfl⟩ := hcounts
        have hless := hroom (hxq.action.trans (congrArg some haction))
        have hsingle : opensOn (utcDate q'.timestamp)
            [{ token := x.token, before := w.venueFile, position, journal := w.records,
               phase := w.phase }] ≤ 1 := List.countP_le_length
        omega
      · have hzero : opensOn day
            [{ token := x.token, before := w.venueFile, position, journal := w.records,
               phase := w.phase }] = 0 := by
          unfold opensOn
          rw [List.countP_singleton, if_neg]
          rw [decide_eq_true_eq, hintent]
          simpa using hcounts
        omega

end Tally

def MismatchFree (l : List JournalRecord) : Prop :=
  ∀ r ∈ l, r.eventType ≠ .reconcileMismatch
deriving Decidable

/-- While identifiers and digests tell intents and positions apart and no mismatch was
found, the effects of the journal match the changes. -/
def E1World.Tallies (setup : E1Setup) (sha : Sha256) (w : E1World) : Prop :=
  DistinctIds sha w.mintedTexts → ChangesTell sha w.mutations →
    MismatchFree w.journalFile.records →
      Tally setup sha w.journalFile.records w.mutations w.venueFile

namespace E1World.Tallies

variable {w w' : E1World}

theorem of_same (h : w.Tallies setup sha) (hfile : w'.journalFile = w.journalFile)
    (hvenue : w'.venueFile = w.venueFile) (hmutations : w'.mutations = w.mutations)
    (hminted : w.mintedTexts <+: w'.mintedTexts) : w'.Tallies setup sha := by
  intro hdistinct htell hfree
  rw [hmutations] at htell
  rw [hfile] at hfree
  rw [hfile, hvenue, hmutations]
  exact h (fun a ha b hb => hdistinct a (hminted.subset ha) b (hminted.subset hb)) htell hfree

/-- **Step lemma.** Every step keeps the match. -/
theorem step (hstep : E1Step setup sha start w w') (hsound : w.Sound setup sha)
    (hsynced : w.Synced) (h : w.Tallies setup sha) : w'.Tallies setup sha := by
  cases hstep with
  | quiet hsame =>
      exact h.of_same hsame.journalFile hsame.venueFile hsame.mutations hsame.mintedTexts
  | enter phase _ hresult =>
      subst hresult
      exact h.of_same rfl rfl rfl List.prefix_rfl
  | append r hloaded hadmitted hobserved hresult =>
      have hfile : w.journalFile.records = w.records := (load_ok hloaded).2
      have hgrows : w'.journalFile.records = w.journalFile.records ∨
          w'.journalFile.records = w.records ++ [r] := by
        rcases hresult with rfl | ⟨written, rfl⟩
        · exact Or.inr (congrArg (· ++ [r]) hfile)
        · rw [← hfile]
          exact write_records _ written r
      have hrest : w'.venueFile = w.venueFile ∧ w'.mutations = w.mutations ∧
          w'.mintedTexts = w.mintedTexts := by
        rcases hresult with rfl | ⟨written, rfl⟩ <;> exact ⟨rfl, rfl, rfl⟩
      obtain ⟨hvenue, hmutations, hminted⟩ := hrest
      intro hdistinct htell hfree
      rw [hminted] at hdistinct
      rw [hmutations] at htell
      rw [hvenue, hmutations]
      rcases hgrows with hgrows | hgrows
      · rw [hgrows] at hfree ⊢
        exact h hdistinct htell hfree
      · rw [hgrows] at hfree ⊢
        have hbefore : MismatchFree w.journalFile.records := fun q hq =>
          hfree q (List.mem_append_left _ (hfile ▸ hq))
        exact Tally.append hsound hsynced.position hfile hdistinct htell hadmitted hobserved
          (hfree r (by simp)) (hfile ▸ h hdistinct htell hbefore)
  | change x position hchanges hresult =>
      rcases hresult with rfl | ⟨hlate, -⟩
      · intro hdistinct htell hfree
        refine Tally.change hsound hdistinct hchanges (h hdistinct ?_ hfree)
        exact fun m hm => htell m (List.mem_append_left _ hm)
      · exact absurd (List.mem_of_head? hlate) hsynced.incidents

end E1World.Tallies

/-- The match holds after every run whose venue writes do not fail behind the rename. -/
theorem tallies_after (setup : E1Setup) (sha : Sha256) (venueFile : Option VirtualPosition)
    {inputs : List E1Input} (hinputs : ∀ i ∈ inputs, i.FailsBeforeRename) :
    (after (e1Step setup sha) (newRun venueFile) inputs).world.Tallies setup sha := by
  have hall := @e1_invariant setup sha
    (fun w => (w.Sound setup sha ∧ w.Synced) ∧ w.Tallies setup sha)
    (fun _ i => i.FailsBeforeRename)
    (fun w h => h.1.1.changesBehind)
    (fun start w w' hstep h =>
      ⟨⟨h.1.1.step hstep, h.1.2.step hstep⟩, h.2.step hstep h.1.1 h.1.2⟩)
    (fun r call h hcall =>
      ⟨⟨h.1.1.of_same rfl rfl rfl List.prefix_rfl, h.1.2.position, hcall⟩,
        h.2.of_same rfl rfl rfl List.prefix_rfl⟩)
    (fun w _ h => ⟨⟨h.1.1.reloaded, .reloaded w⟩, h.2.of_same rfl rfl rfl List.prefix_rfl⟩)
    (newRun venueFile) ⟨⟨sound_new venueFile, synced_new venueFile⟩,
      fun _ _ _ => ⟨⟨[], .nil, .none rfl rfl⟩, fun _ => Nat.zero_le _⟩⟩
    inputs (meetsAlong_of_mem hinputs)
  exact hall.2

/-- **The risk counters count exactly the real effects**, each once, and no UTC date has
more opens than the daily cap. -/
theorem risk_counters_count_real_effects (setup : E1Setup) (sha : Sha256)
    (venueFile : Option VirtualPosition) (inputs : List E1Input)
    (hinputs : ∀ i ∈ inputs, i.FailsBeforeRename) (hdistinct : DistinctIds sha
      (after (e1Step setup sha) (newRun venueFile) inputs).world.mintedTexts)
    (htell : ChangesTell sha
      (after (e1Step setup sha) (newRun venueFile) inputs).world.mutations)
    (hpending : ShadowIntentJournal.unresolvedIntents
      (after (e1Step setup sha) (newRun venueFile) inputs).world.journalFile.records = .ok [])
    (hfree : MismatchFree
      (after (e1Step setup sha) (newRun venueFile) inputs).world.journalFile.records) :
    let w := (after (e1Step setup sha) (newRun venueFile) inputs).world
    (w.journalFile.records.filter isEffect).length = w.mutations.length ∧
      (∀ now, (riskCounters w.journalFile.records now).entriesToday =
            opensOn (utcDate now) w.mutations ∧
          (riskCounters w.journalFile.records now).dailyLoss =
            lossesWhere (fun t => decide (utcDate t = utcDate now)) w.mutations ∧
          (riskCounters w.journalFile.records now).weeklyLoss =
            lossesWhere (fun t => decide (isoWeek t = isoWeek now)) w.mutations) ∧
        ∀ day, opensOn day w.mutations ≤ setup.policy.maxEntriesPerDay := by
  intro w
  have hsound : w.Sound setup sha := sound_after setup sha venueFile inputs
  have htally : Tally setup sha w.journalFile.records w.mutations w.venueFile :=
    tallies_after setup sha venueFile hinputs hdistinct htell hfree
  obtain ⟨honce, hnone⟩ := unresolvedIntents_eq_ok.mp hpending
  obtain ⟨⟨settled, hmatch, hlive⟩, hcapped⟩ := htally
  have hall : w.mutations = settled := by
    cases hlive with
    | none _ hall => exact hall
    | waiting p hp => exact nomatch hp.symm.trans hnone
    | changed p m hp => exact nomatch hp.symm.trans hnone
  rw [← hall] at hmatch
  refine ⟨hmatch.length_eq, fun now => riskCounters_eq honce hmatch (fun m hm => ?_) now, hcapped⟩
  obtain ⟨p, hp, hmem, -, haction⟩ := hsound.intent hm
  exact ⟨p, hp, hmem, haction⟩

end Counters

open Sample in
/-- An entry and its settlement at a loss of a tenth of a pip. -/
theorem sample_counters_real : let w := (after (e1Step setup .checksum) (newRun none)
      (started ++ [call (buy 10 {}), call (settle 10 100 {})])).world
    opensOn (utcDate (seconds 200)) w.mutations = 1 ∧
      lossesWhere (fun t => decide (utcDate t = utcDate (seconds 200))) w.mutations = 1 / 1000 ∧
        (riskCounters w.journalFile.records (seconds 200)).entriesToday =
          opensOn (utcDate (seconds 200)) w.mutations := by
  intro w
  have hrun : (DistinctIds .checksum w.mintedTexts ∧ ChangesTell .checksum w.mutations ∧
      ShadowIntentJournal.unresolvedIntents w.journalFile.records = .ok [] ∧
        MismatchFree w.journalFile.records) ∧
      opensOn (utcDate (seconds 200)) w.mutations = 1 ∧
        lossesWhere (fun t => decide (utcDate t = utcDate (seconds 200))) w.mutations =
          1 / 1000 := by
    decide +kernel
  obtain ⟨⟨hdistinct, htell, hpending, hfree⟩, hopens, hloss⟩ := hrun
  exact ⟨hopens, hloss, ((risk_counters_count_real_effects setup .checksum none
    (started ++ [call (buy 10 {}), call (settle 10 100 {})]) (by decide) hdistinct htell hpending
      hfree).2.1 (seconds 200)).1⟩

end FxStrategyLab.E1
