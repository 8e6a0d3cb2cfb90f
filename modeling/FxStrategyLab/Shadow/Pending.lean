import FxStrategyLab.Shadow.Effects

/-!
# The unresolved intent of an E1 journal

While the identifiers of a run are distinct, no intent of its journal is
prepared twice and none is resolved that was not prepared.  The list of
unresolved intents then follows the records one by one: a preparation adds its
intent, a resolving record takes its intent away, and every other record leaves
the list alone.
-/

namespace FxStrategyLab.E1

open Library ShadowIntentJournal

section Pending

variable {setup : E1Setup} {sha : Sha256} {minted : List CanonicalText}
  {l before : List JournalRecord} {r p s : JournalRecord}

theorem prepared_append (l later : List JournalRecord) :
    prepared (l ++ later) = prepared l ++ prepared later :=
  List.filter_append _ _

theorem resolvedIds_append (l later : List JournalRecord) :
    resolvedIds (l ++ later) = resolvedIds l ++ resolvedIds later :=
  List.filterMap_append

def pendingOf (l : List JournalRecord) : List JournalRecord :=
  (prepared l).filter (unresolved l)

def PreparedOnce (l : List JournalRecord) : Prop :=
  ((prepared l).map fun r => r.intentId).Nodup

theorem unresolvedIntents_eq_ok {pending : List JournalRecord} :
    ShadowIntentJournal.unresolvedIntents l = .ok pending ↔ PreparedOnce l ∧ pendingOf l = pending := by
  unfold ShadowIntentJournal.unresolvedIntents PreparedOnce
  by_cases honce : ((prepared l).map fun r => r.intentId).Nodup
  · rw [if_pos honce]
    constructor
    · intro h
      exact ⟨honce, Except.ok.inj h⟩
    · rintro ⟨-, h⟩
      exact congrArg Except.ok h
  · rw [if_neg honce]
    constructor
    · nofun
    · rintro ⟨h, -⟩
      exact absurd h honce

theorem mem_prepared_iff : p ∈ prepared l ↔
    p ∈ l ∧ p.eventType = .intentPrepared ∧ p.intentId.isSome = true := by
  simp [prepared]

theorem mem_pendingOf_iff : p ∈ pendingOf l ↔
    p ∈ prepared l ∧ ∃ intentId, p.intentId = some intentId ∧ intentId ∉ resolvedIds l := by
  unfold pendingOf unresolved
  rw [List.mem_filter]
  cases p.intentId <;> simp

/-- A record that neither prepares nor resolves leaves the unresolved intents alone. -/
theorem pendingOf_append_other (hprepared : r.eventType ≠ .intentPrepared)
    (hresolving : r.eventType.resolving = false ∨ r.intentId = none) :
    pendingOf (l ++ [r]) = pendingOf l := by
  have hsame : prepared (l ++ [r]) = prepared l := by
    rw [prepared_append]
    simp [prepared, hprepared]
  have hids : resolvedIds (l ++ [r]) = resolvedIds l := by
    rw [resolvedIds_append]
    rcases hresolving with h | h <;> simp [resolvedIds, h]
  unfold pendingOf unresolved
  rw [hsame, hids]

theorem pendingOf_append_prepared {intentId : LocalId} (htype : r.eventType = .intentPrepared)
    (hintent : r.intentId = some intentId) (hnew : intentId ∉ resolvedIds l) :
    pendingOf (l ++ [r]) = pendingOf l ++ [r] := by
  have hids : resolvedIds (l ++ [r]) = resolvedIds l := by
    rw [resolvedIds_append]
    simp [resolvedIds, htype, JournalEventType.resolving]
  have hprepared : prepared (l ++ [r]) = prepared l ++ [r] := by
    rw [prepared_append]
    simp [prepared, htype, hintent]
  have hunresolved : unresolved (l ++ [r]) = unresolved l := by
    funext q
    unfold unresolved
    rw [hids]
  unfold pendingOf
  rw [hprepared, hunresolved, List.filter_append]
  simp [unresolved, hintent, hnew]

theorem pendingOf_append_resolving (hpending : pendingOf l = [p])
    (hprepared : r.eventType ≠ .intentPrepared) (hresolving : r.eventType.resolving = true)
    (hintent : r.intentId = p.intentId) : pendingOf (l ++ [r]) = [] := by
  have hp : p ∈ pendingOf l := by
    rw [hpending]
    exact List.mem_singleton_self p
  obtain ⟨-, intentId, hid, -⟩ := mem_pendingOf_iff.mp hp
  refine List.eq_nil_iff_forall_not_mem.mpr fun q hq => ?_
  obtain ⟨hq, id, hqid, hnot⟩ := mem_pendingOf_iff.mp hq
  have hids : resolvedIds (l ++ [r]) = resolvedIds l ++ [intentId] := by
    rw [resolvedIds_append]
    simp [resolvedIds, hresolving, hintent, hid]
  rw [hids, List.mem_append, not_or] at hnot
  have hsame : prepared (l ++ [r]) = prepared l := by
    rw [prepared_append]
    simp [prepared, hprepared]
  rw [hsame] at hq
  have hq' : q ∈ pendingOf l := mem_pendingOf_iff.mpr ⟨hq, id, hqid, hnot.1⟩
  rw [hpending, List.mem_singleton] at hq'
  subst hq'
  exact hnot.2 (by simpa using Option.some.inj (hqid.symm.trans hid))

theorem intent_of_prepared (hgrown : Grown (Behind setup sha minted) l) (hp : p ∈ prepared l) :
    ∃ text ∈ minted, p.intentId = some (makeLocalId sha "intent" text) ∧
      ∃ n < l.length, idSequence text = some (.integer n) := by
  obtain ⟨hmem, htype, -⟩ := mem_prepared_iff.mp hp
  obtain ⟨early, late, rfl⟩ := List.append_of_mem hmem
  obtain ⟨start, hadmitted⟩ := hgrown early p late rfl
  obtain ⟨x, text, hrecorded, hprepares⟩ := hadmitted.prepared htype
  refine ⟨text, hprepares.minted, ?_, early.length, by simp, hprepares.sequence⟩
  rw [hrecorded.intentId, hprepares.named]

/-- **While identifiers are distinct, no intent is prepared twice.** -/
theorem preparedOnce_of_distinct (hdistinct : DistinctIds sha minted)
    (hgrown : Grown (Behind setup sha minted) l) : PreparedOnce l := by
  induction l using List.reverseRecOn with
  | nil => exact List.nodup_nil
  | append_singleton l r ih =>
      obtain ⟨hl, start, hr⟩ := grown_append_singleton.mp hgrown
      unfold PreparedOnce
      rw [prepared_append]
      by_cases htype : r.eventType = .intentPrepared
      · obtain ⟨x, text, hrecorded, hprepares⟩ := hr.prepared htype
        have hsingle : prepared [r] = [r] := by
          simp [prepared, htype, hrecorded.intentId]
        rw [hsingle, List.map_append, List.nodup_append]
        refine ⟨ih hl, List.nodup_singleton _, ?_⟩
        intro a ha b hb
        obtain ⟨q, hq, rfl⟩ := List.mem_map.mp ha
        obtain rfl := List.mem_singleton.mp hb
        intro hequal
        change q.intentId = r.intentId at hequal
        obtain ⟨text', htext', hid, n, hn, hsequence⟩ := intent_of_prepared hl hq
        rw [hid, hrecorded.intentId, hprepares.named] at hequal
        obtain rfl := hdistinct text' htext' text hprepares.minted (Option.some.inj hequal)
        have hlength : n = l.length := by
          simpa using hsequence.symm.trans hprepares.sequence
        omega
      · have hnone : prepared [r] = [] := by simp [prepared, htype]
        rw [hnone, List.append_nil]
        exact ih hl

theorem PreparedOnce.eq (h : PreparedOnce l) {q : JournalRecord} (hp : p ∈ prepared l)
    (hq : q ∈ prepared l) (hid : p.intentId = q.intentId) : p = q :=
  List.inj_on_of_nodup_map h hp hq hid

theorem started_behind (hgrown : Grown (Behind setup sha minted) (before ++ [s]))
    (hs : s.eventType = .virtualExecutionStarted) :
    ∃ (early : List JournalRecord) (p : JournalRecord) (x : Execution), before = early ++ [p] ∧ x.Recorded .intentPrepared p ∧
      x.Recorded .virtualExecutionStarted s := by
  obtain ⟨-, start, hadmitted⟩ := grown_append_singleton.mp hgrown
  obtain ⟨x, p, hlast, hp, hrecorded⟩ := hadmitted.started hs
  obtain ⟨early, rfl⟩ := List.getLast?_eq_some_iff.mp hlast
  exact ⟨early, p, x, rfl, hp, hrecorded⟩

theorem recorded_mem_prepared {x : Execution} (hp : x.Recorded .intentPrepared p)
    (hmem : p ∈ l) : p ∈ prepared l :=
  mem_prepared_iff.mpr ⟨hmem, hp.eventType, by rw [hp.intentId]; rfl⟩

theorem intentId_of_reconcile {eventType : JournalEventType} {now : Timestamp} {status : String}
    {reasons : List String} {expected observed : HexDigest} {count : Nat}
    {source : Option JournalRecord} (h : r.toJournalEntry =
      reconcileEntry eventType now status reasons expected observed count source) :
    r.intentId = source.bind fun s => s.intentId :=
  congrArg (fun entry : JournalEntry => entry.intentId) h

theorem amounts_of_reconcile {eventType : JournalEventType} {now : Timestamp} {status : String}
    {reasons : List String} {expected observed : HexDigest} {count : Nat}
    {source : Option JournalRecord} (h : r.toJournalEntry =
      reconcileEntry eventType now status reasons expected observed count source) :
    r.action = (source.bind fun s => s.action) ∧
      r.pnlCategory = (source.map fun s => s.pnlCategory).getD .notApplicable ∧
        r.virtualLoss = (source.map fun s => s.virtualLoss).getD 0 :=
  ⟨congrArg (fun entry : JournalEntry => entry.action) h,
    congrArg (fun entry : JournalEntry => entry.pnlCategory) h,
    congrArg (fun entry : JournalEntry => entry.virtualLoss) h⟩

theorem resolved_prepared (hgrown : Grown (Behind setup sha minted) l) {intentId : LocalId}
    (hid : intentId ∈ resolvedIds l) : ∃ p ∈ prepared l, p.intentId = some intentId := by
  obtain ⟨r, hr, hsome⟩ := List.mem_filterMap.mp hid
  have hresolving : r.eventType.resolving = true := by
    by_contra h
    rw [if_neg h] at hsome
    cases hsome
  rw [if_pos hresolving] at hsome
  obtain ⟨early, late, rfl⟩ := List.append_of_mem hr
  have hsource : ∀ q, ShadowIntentJournal.unresolvedIntents early = .ok [q] → q ∈ prepared early := fun q h => by
    have hq : q ∈ pendingOf early := by
      rw [(unresolvedIntents_eq_ok.mp h).2]
      exact List.mem_singleton_self q
    exact (mem_pendingOf_iff.mp hq).1
  have hlift : ∀ q, q ∈ prepared early → q ∈ prepared (early ++ r :: late) := fun q hq => by
    rw [prepared_append]
    exact List.mem_append_left _ hq
  have hearly : Grown (Behind setup sha minted) early := hgrown.of_prefix (List.prefix_append _ _)
  obtain ⟨start, hadmitted⟩ := hgrown early r late rfl
  cases hadmitted with
  | plain h => cases htype : r.eventType <;> simp_all [JournalEventType.plain,
      JournalEventType.resolving]
  | kill h => cases htype : r.eventType <;> simp_all [JournalEventType.killing,
      JournalEventType.resolving]
  | prepare x text hrecorded =>
      rw [hrecorded.eventType] at hresolving
      cases hresolving
  | start x p _ _ hrecorded =>
      rw [hrecorded.eventType] at hresolving
      cases hresolving
  | outcome x s hlast hs _ hrecorded =>
      obtain ⟨most, rfl⟩ := List.getLast?_eq_some_iff.mp hlast
      obtain ⟨rest, p, y, rfl, hp, hstarted⟩ := started_behind hearly hs.eventType
      refine ⟨p, hlift p (recorded_mem_prepared hp (by simp)), ?_⟩
      rw [hp.intentId, ← hstarted.intentId, hs.intentId, ← hrecorded.intentId, hsome]
  | matched now status observed count source hentry hpending hcompared =>
      cases source with
      | none =>
          have hnone := intentId_of_reconcile hentry
          rw [hnone] at hsome
          cases hsome
      | some q =>
          have hq := intentId_of_reconcile hentry
          exact ⟨q, hlift q (hsource q hpending), hq.symm.trans hsome⟩
  | mismatch now reason expected observed count source hentry hpending =>
      cases source with
      | none =>
          have hnone := intentId_of_reconcile hentry
          rw [hnone] at hsome
          cases hsome
      | some q =>
          have hq := intentId_of_reconcile hentry
          exact ⟨q, hlift q (hsource q (hpending q rfl)), hq.symm.trans hsome⟩

theorem intent_fresh (hdistinct : DistinctIds sha minted)
    (hgrown : Grown (Behind setup sha minted) (before ++ [r]))
    (htype : r.eventType = .intentPrepared) {intentId : LocalId}
    (hintent : r.intentId = some intentId) :
    (∀ q ∈ prepared before, q.intentId ≠ some intentId) ∧ intentId ∉ resolvedIds before := by
  have honce := preparedOnce_of_distinct hdistinct hgrown
  have hnew : ∀ q ∈ prepared before, q.intentId ≠ some intentId := by
    intro q hq hid
    unfold PreparedOnce at honce
    rw [prepared_append, List.map_append, List.nodup_append] at honce
    have hr : r.intentId ∈ (prepared [r]).map fun r => r.intentId := by
      simp [prepared, htype, hintent]
    exact honce.2.2 q.intentId (List.mem_map.mpr ⟨q, hq, rfl⟩) _ hr (hid.trans hintent.symm)
  refine ⟨hnew, fun hresolved => ?_⟩
  obtain ⟨q, hq, hid⟩ := resolved_prepared (grown_append_singleton.mp hgrown).1 hresolved
  exact hnew q hq hid

theorem pendingOf_prepared (hdistinct : DistinctIds sha minted)
    (hgrown : Grown (Behind setup sha minted) (before ++ [r]))
    (htype : r.eventType = .intentPrepared) : pendingOf (before ++ [r]) = [r] := by
  obtain ⟨-, start, hadmitted⟩ := grown_append_singleton.mp hgrown
  obtain ⟨x, text, hrecorded, hprepares⟩ := hadmitted.prepared htype
  obtain ⟨-, hnew⟩ := intent_fresh hdistinct hgrown htype hrecorded.intentId
  rw [pendingOf_append_prepared htype hrecorded.intentId hnew,
    (unresolvedIntents_eq_ok.mp hprepares.pending).2, List.nil_append]

/-- **Behind the start of an execution its intent is the unresolved one.** -/
theorem pendingOf_started (hdistinct : DistinctIds sha minted)
    (hgrown : Grown (Behind setup sha minted) (before ++ [s]))
    (hs : s.eventType = .virtualExecutionStarted) :
    ∃ (early : List JournalRecord) (p : JournalRecord) (x : Execution), before = early ++ [p] ∧ x.Recorded .intentPrepared p ∧
      x.Recorded .virtualExecutionStarted s ∧ pendingOf (before ++ [s]) = [p] := by
  obtain ⟨early, p, x, rfl, hp, hrecorded⟩ := started_behind hgrown hs
  refine ⟨early, p, x, rfl, hp, hrecorded, ?_⟩
  rw [pendingOf_append_other (by rw [hs]; nofun) (Or.inl (by rw [hs]; rfl))]
  exact pendingOf_prepared hdistinct (grown_append_singleton.mp hgrown).1 hp.eventType

end Pending

end FxStrategyLab.E1
