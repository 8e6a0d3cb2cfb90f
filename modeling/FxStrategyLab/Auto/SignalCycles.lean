import FxStrategyLab.Contracts
import FxStrategyLab.Library.Isoformat
import FxStrategyLab.Library.Runs
import FxStrategyLab.Library.Series
import FxStrategyLab.Library.Table
import FxStrategyLab.Session.Risk

/-!
# Signals and their cycles

The state store keeps one cycle for each fingerprint.  A fingerprint is the digest of a text,
and the text writes the probability and the instants as they were spelled: `0.5` and `0.50` are
one probability with two fingerprints.

**Results.** `payload_eq_iff` for the texts of two signals, `cyclesOf_run` for the cycles of a
run, and `one_signal_one_cycle_iff`.
-/

namespace FxStrategyLab.Auto

open Library (Table after)
open Library.Isoformat (AwareDatetime isoformat)
open Library.Numerals (fixedPoint fixedPoint_injective)
open Session (nonBlank)

/-- A finite `Decimal`: a sign, a coefficient and an exponent. -/
structure PyDecimal where
  negative : Bool
  coefficient : Nat
  exponent : Int
deriving DecidableEq

variable (d : PyDecimal)

def PyDecimal.places : Nat :=
  (-d.exponent).toNat

def PyDecimal.digits : Nat :=
  d.coefficient * 10 ^ d.exponent.toNat

def PyDecimal.value : ℚ :=
  (if d.negative then -1 else 1) * d.digits / 10 ^ d.places

/-- Python's `format(d, "f")`. -/
def PyDecimal.formatF : List Char :=
  fixedPoint d.negative d.digits d.places

/-- Source `FormalSignal`, as it is spelled; the fields carry the constructor's checks. -/
structure SpelledSignal where
  strategyVersion : String
  signalConfigHash : String
  horizon : FormalHorizon
  observedAtUtc : AwareDatetime
  validUntilUtc : AwareDatetime
  decision : SignalDecision
  probabilityUp : PyDecimal
  named : nonBlank strategyVersion = true ∧ nonBlank signalConfigHash = true
  validity_after : observedAtUtc.instant < validUntilUtc.instant
  probability_bounds : 0 ≤ probabilityUp.value ∧ probabilityUp.value ≤ 1
deriving DecidableEq

def SpelledSignal.signal (spelled : SpelledSignal) : FormalSignal where
  strategyVersion := spelled.strategyVersion
  signalConfigHash := spelled.signalConfigHash
  horizon := spelled.horizon
  observedAtUtc := spelled.observedAtUtc.instant
  validUntilUtc := spelled.validUntilUtc.instant
  decision := spelled.decision
  probabilityUp := spelled.probabilityUp.value
  validity_after := spelled.validity_after
  probability_bounds := spelled.probability_bounds

def SpelledSignal.payload (spelled : SpelledSignal) : CanonicalText :=
  [("decision", .text spelled.decision.value),
    ("horizon", .text spelled.horizon.value),
    ("observed_at_utc", .digest (isoformat spelled.observedAtUtc)),
    ("probability_up", .digest spelled.probabilityUp.formatF),
    ("signal_config_hash", .text spelled.signalConfigHash),
    ("strategy_version", .text spelled.strategyVersion),
    ("valid_until_utc", .digest (isoformat spelled.validUntilUtc))]

def SpelledSignal.fingerprint (sha : Sha256) (spelled : SpelledSignal) : Digest :=
  sha.hexdigest spelled.payload

/-- Source `PhaseAExecutionPolicy`, up to the fields its constructor freezes. -/
structure PhaseAExecutionPolicy where
  strategyVersion : String
  signalConfigHash : String
  selectedHorizon : FormalHorizon
  named : nonBlank strategyVersion = true ∧ nonBlank signalConfigHash = true

def PhaseAExecutionPolicy.accepts (policy : PhaseAExecutionPolicy) (spelled : SpelledSignal) :
    Bool :=
  spelled.strategyVersion = policy.strategyVersion ∧
    spelled.signalConfigHash = policy.signalConfigHash ∧
    spelled.horizon = policy.selectedHorizon

inductive AutoCycleState
  | off
  | bootReconciling
  | armed
  | waitingSignal
  | intentPersisted
  | protectedEntryPending
  | positionProtected
  | exitPending
  | flatReconciled
  | haltedOperatorReviewRequired
deriving DecidableEq

def AutoCycleState.value : AutoCycleState → String
  | off => "OFF"
  | bootReconciling => "BOOT_RECONCILING"
  | armed => "ARMED"
  | waitingSignal => "WAITING_SIGNAL"
  | intentPersisted => "INTENT_PERSISTED"
  | protectedEntryPending => "PROTECTED_ENTRY_PENDING"
  | positionProtected => "POSITION_PROTECTED"
  | exitPending => "EXIT_PENDING"
  | flatReconciled => "FLAT_RECONCILED"
  | haltedOperatorReviewRequired => "HALTED_OPERATOR_REVIEW_REQUIRED"

def allowedTransitions : AutoCycleState → List AutoCycleState
  | .off => [.bootReconciling]
  | .bootReconciling => [.armed, .haltedOperatorReviewRequired]
  | .armed => [.waitingSignal, .haltedOperatorReviewRequired]
  | .waitingSignal => [.intentPersisted, .haltedOperatorReviewRequired]
  | .intentPersisted => [.protectedEntryPending, .haltedOperatorReviewRequired]
  | .protectedEntryPending => [.positionProtected, .haltedOperatorReviewRequired]
  | .positionProtected => [.exitPending, .haltedOperatorReviewRequired]
  | .exitPending => [.flatReconciled, .haltedOperatorReviewRequired]
  | .flatReconciled => [.waitingSignal, .off, .haltedOperatorReviewRequired]
  | .haltedOperatorReviewRequired => []

def activeStates : List AutoCycleState :=
  [.intentPersisted, .protectedEntryPending, .positionProtected, .exitPending]

structure StoredCycle where
  intentId : Digest
  signalFingerprint : Digest
  state : AutoCycleState
  attemptCount : Nat
  exitAttemptCount : Nat
  entryDayJst : Option Int
  createdAtUtc : AwareDatetime
  updatedAtUtc : AwareDatetime
  haltReason : Option String

/-- A row of `safe_events`. -/
structure SafeEvent where
  sequence : Nat
  intentId : Digest
  eventCategory : String
  state : AutoCycleState
  previousDigest : Digest
  digest : Digest

/-- The tables of `H11AutoStateStore`. -/
structure StateStore where
  cycles : Table StoredCycle Digest [StoredCycle.intentId, StoredCycle.signalFingerprint]
  safeEvents : List SafeEvent

/-- The refusals of the store and of the contracts that it asks. -/
inductive StoreError
  | signalMismatch
  | activeCycle
  | haltLatched
  | duplicateIntent
  | cycleNotFound
  | secondAttempt
  | secondExitAttempt
  | transitionRefused (current target : AutoCycleState)
  | haltReasonRequired

def StoreError.message : StoreError → String
  | signalMismatch => "signal does not match the frozen execution policy"
  | activeCycle => "an active cycle already exists"
  | haltLatched => "operator review halt is latched"
  | duplicateIntent => "duplicate signal intent refused"
  | cycleNotFound => "cycle not found"
  | secondAttempt => "second attempt refused"
  | secondExitAttempt => "second exit attempt refused"
  | transitionRefused current target =>
      "transition refused: " ++ current.value ++ " -> " ++ target.value
  | haltReasonRequired => "halt reason is required"

def requireTransition (current target : AutoCycleState) : Except StoreError Unit :=
  if target ∈ allowedTransitions current then .ok ()
  else .error (.transitionRefused current target)

def jstDay (now : AwareDatetime) : Int :=
  (now.instant + wallSeconds (9 * 3600)) / wallSeconds 86400

section Store

variable (sha : Sha256)

def intentText (spelled : SpelledSignal) (policy : PhaseAExecutionPolicy) : List Char :=
  "H11_AUTO_PARALLEL_V1|".toList ++ (spelled.fingerprint sha ++ '|' ::
    (policy.strategyVersion.toList ++ '|' :: (policy.signalConfigHash.toList ++ '|' ::
      (policy.selectedHorizon.value.toList ++ '|' :: spelled.decision.value.toList))))

def buildIntentId (spelled : SpelledSignal) (policy : PhaseAExecutionPolicy) :
    Except StoreError Digest :=
  if policy.accepts spelled then .ok (sha.hexdigest (plainText (intentText sha spelled policy)))
  else .error .signalMismatch

variable (store : StateStore)

def StateStore.appendEvent (intentId : Digest) (eventCategory : String)
    (state : AutoCycleState) : StateStore :=
  let last := store.safeEvents.getLast?
  let sequence := (last.map SafeEvent.sequence).getD 0 + 1
  let previousDigest := (last.map SafeEvent.digest).getD "GENESIS".toList
  let digest := sha.hexdigest
    [("event_category", .text eventCategory),
      ("intent_id", .digest intentId),
      ("previous_digest", .digest previousDigest),
      ("sequence", .integer sequence),
      ("state_safe_label", .text state.value)]
  { store with
    safeEvents := store.safeEvents ++
      [{ sequence, intentId, eventCategory, state, previousDigest, digest }] }

def StateStore.createIntent (spelled : SpelledSignal)
    (policy : PhaseAExecutionPolicy) (now : AwareDatetime) : Except StoreError StateStore := do
  let intentId ← buildIntentId sha spelled policy
  if store.cycles.rows.any fun cycle => cycle.state ∈ activeStates then .error .activeCycle
  else if store.cycles.rows.any fun cycle => cycle.state = .haltedOperatorReviewRequired then
    .error .haltLatched
  else
    match store.cycles.insert?
      { intentId
        signalFingerprint := spelled.fingerprint sha
        state := .intentPersisted
        attemptCount := 0
        exitAttemptCount := 0
        entryDayJst := none
        createdAtUtc := now
        updatedAtUtc := now
        haltReason := none } with
    | none => .error .duplicateIntent
    | some cycles =>
        .ok ({ store with cycles }.appendEvent sha intentId "INTENT_PERSISTED" .intentPersisted)

def StateStore.cycleRow (intentId : Digest) :
    Except StoreError StoredCycle :=
  match store.cycles.rows.find? fun cycle => cycle.intentId = intentId with
  | none => .error .cycleNotFound
  | some cycle => .ok cycle

structure CycleChange where
  state : AutoCycleState
  attemptCount : Nat
  exitAttemptCount : Nat
  entryDayJst : Option Int
  updatedAtUtc : AwareDatetime
  haltReason : Option String

/-- Write the changed columns of a cycle. -/
def StateStore.change (intentId : Digest) (changed : CycleChange) :
    StateStore :=
  { store with
    cycles := store.cycles.updateWhere (fun cycle => cycle.intentId = intentId)
      (fun cycle =>
        { cycle with
          state := changed.state
          attemptCount := changed.attemptCount
          exitAttemptCount := changed.exitAttemptCount
          entryDayJst := changed.entryDayJst
          updatedAtUtc := changed.updatedAtUtc
          haltReason := changed.haltReason })
      (by simp) }

def StateStore.recordAttemptStarted (intentId : Digest)
    (now : AwareDatetime) : Except StoreError StateStore := do
  let row ← store.cycleRow intentId
  if row.attemptCount ≠ 0 then .error .secondAttempt
  else do
    requireTransition row.state .protectedEntryPending
    let changed : CycleChange :=
      { state := .protectedEntryPending
        attemptCount := 1
        exitAttemptCount := row.exitAttemptCount
        entryDayJst := some (jstDay now)
        updatedAtUtc := now
        haltReason := row.haltReason }
    return (store.change intentId changed).appendEvent sha intentId
      "ENTRY_ATTEMPT_STARTED_SYNTHETIC" .protectedEntryPending

def StateStore.transition (intentId : Digest) (target : AutoCycleState)
    (eventCategory : String) (now : AwareDatetime) (haltReason : Option String) :
    Except StoreError StateStore := do
  let row ← store.cycleRow intentId
  requireTransition row.state target
  if target = .haltedOperatorReviewRequired ∧ haltReason.getD "" = "" then
    .error .haltReasonRequired
  else
    let changed : CycleChange :=
      { state := target
        attemptCount := row.attemptCount
        exitAttemptCount := row.exitAttemptCount
        entryDayJst := row.entryDayJst
        updatedAtUtc := now
        haltReason }
    return (store.change intentId changed).appendEvent sha intentId eventCategory target

def StateStore.recordExitAttemptStarted (intentId : Digest)
    (now : AwareDatetime) : Except StoreError StateStore := do
  let row ← store.cycleRow intentId
  if row.exitAttemptCount ≠ 0 then .error .secondExitAttempt
  else do
    requireTransition row.state .exitPending
    let changed : CycleChange :=
      { state := .exitPending
        attemptCount := row.attemptCount
        exitAttemptCount := 1
        entryDayJst := row.entryDayJst
        updatedAtUtc := now
        haltReason := row.haltReason }
    return (store.change intentId changed).appendEvent sha intentId
      "EXIT_ATTEMPT_STARTED_SYNTHETIC" .exitPending

inductive StoreCall
  | createIntent (spelled : SpelledSignal) (policy : PhaseAExecutionPolicy) (now : AwareDatetime)
  | recordAttemptStarted (intentId : Digest) (now : AwareDatetime)
  | transition (intentId : Digest) (target : AutoCycleState) (eventCategory : String)
      (now : AwareDatetime) (haltReason : Option String)
  | recordExitAttemptStarted (intentId : Digest) (now : AwareDatetime)

def StateStore.call : StoreCall → Except StoreError StateStore
  | .createIntent spelled policy now => store.createIntent sha spelled policy now
  | .recordAttemptStarted intentId now => store.recordAttemptStarted sha intentId now
  | .transition intentId target eventCategory now haltReason =>
      store.transition sha intentId target eventCategory now haltReason
  | .recordExitAttemptStarted intentId now => store.recordExitAttemptStarted sha intentId now

def storeStep (call : StoreCall) : StateStore :=
  (store.call sha call).toOption.getD store

def newStore : StateStore where
  cycles := Table.empty
  safeEvents := []

/-- The intent that a call creates. -/
def acceptedBy : StoreCall → List (SpelledSignal × PhaseAExecutionPolicy)
  | .createIntent spelled policy now =>
      if (store.createIntent sha spelled policy now).isOk then [(spelled, policy)] else []
  | _ => []

def acceptedIntents :
    StateStore → List StoreCall → List (SpelledSignal × PhaseAExecutionPolicy)
  | _, [] => []
  | store, call :: calls =>
      acceptedBy sha store call ++ acceptedIntents (storeStep sha store call) calls

def acceptedSignals (calls : List StoreCall) : List SpelledSignal :=
  (acceptedIntents sha store calls).map Prod.fst

def namedSignals (calls : List StoreCall) : List SpelledSignal :=
  calls.filterMap fun call =>
    match call with
    | .createIntent spelled _ _ => some spelled
    | _ => none

def hashedTexts (calls : List StoreCall) : List CanonicalText :=
  calls.flatMap fun call =>
    match call with
    | .createIntent spelled policy _ =>
        [spelled.payload, plainText (intentText sha spelled policy)]
    | _ => []

/-- No two of the hashed texts have one digest. -/
def NoCollisions (calls : List StoreCall) : Prop :=
  ∀ first ∈ hashedTexts sha calls, ∀ second ∈ hashedTexts sha calls,
    sha.hexdigest first = sha.hexdigest second → first = second
deriving Decidable

/-- Fingerprints are equal exactly when the signals are, a new store accepts no signal twice,
and it refuses none as a duplicate that it has not accepted. -/
structure OneSignalOneCycle (calls : List StoreCall) : Prop where
  fingerprints : ∀ first ∈ namedSignals calls, ∀ second ∈ namedSignals calls,
    (first.fingerprint sha = second.fingerprint sha ↔ first.signal = second.signal)
  never_twice : (acceptedSignals sha newStore calls).Pairwise fun earlier later =>
    earlier.signal ≠ later.signal
  never_new : ∀ before spelled policy now later,
    calls = before ++ .createIntent spelled policy now :: later →
      (after (storeStep sha) newStore before).createIntent sha spelled policy now =
        .error .duplicateIntent →
      ∃ earlier ∈ acceptedSignals sha newStore before, earlier.signal = spelled.signal

end Store

/-- Two signals are spelled alike: the same local times and offsets, and probabilities with the
same sign and the same number of places. -/
structure SpelledAlike (first second : SpelledSignal) : Prop where
  observed : first.observedAtUtc = second.observedAtUtc
  valid : first.validUntilUtc = second.validUntilUtc
  sign : first.probabilityUp.negative = second.probabilityUp.negative
  places : first.probabilityUp.places = second.probabilityUp.places

theorem spelledAlike_iff {first second : SpelledSignal} :
    SpelledAlike first second ↔
      first.observedAtUtc = second.observedAtUtc ∧ first.validUntilUtc = second.validUntilUtc ∧
        first.probabilityUp.negative = second.probabilityUp.negative ∧
        first.probabilityUp.places = second.probabilityUp.places :=
  ⟨fun h => ⟨h.observed, h.valid, h.sign, h.places⟩,
    fun ⟨hobserved, hvalid, hsign, hplaces⟩ => ⟨hobserved, hvalid, hsign, hplaces⟩⟩

instance (first second : SpelledSignal) : Decidable (SpelledAlike first second) :=
  decidable_of_iff _ spelledAlike_iff.symm

section Texts

variable {first second : SpelledSignal}

theorem PyDecimal.digits_eq {d e : PyDecimal} (hsign : d.negative = e.negative)
    (hplaces : d.places = e.places) (hvalue : d.value = e.value) : d.digits = e.digits := by
  have hpow : (10 : ℚ) ^ e.places ≠ 0 := by positivity
  have hsigned : (if e.negative then (-1 : ℚ) else 1) ≠ 0 := by
    split_ifs <;> norm_num
  unfold PyDecimal.value at hvalue
  rw [hsign, hplaces, div_left_inj' hpow, mul_right_inj' hsigned] at hvalue
  exact_mod_cast hvalue

theorem decision_value_injective : Function.Injective SignalDecision.value := by
  intro d e h
  cases d <;> cases e <;> first | rfl | exact absurd h (by decide)

theorem horizon_value_injective : Function.Injective FormalHorizon.value := by
  intro d e h
  cases d <;> cases e <;> first | rfl | exact absurd h (by decide)

/-- **Two signals have one payload exactly when they are equal and spelled alike.** -/
theorem payload_eq_iff :
    first.payload = second.payload ↔
      first.signal = second.signal ∧ SpelledAlike first second := by
  constructor
  · intro h
    simp only [SpelledSignal.payload, List.cons.injEq, Prod.mk.injEq, Scalar.text.injEq,
      Scalar.digest.injEq, true_and, and_true] at h
    obtain ⟨hdecision, hhorizon, hobserved, hprobability, hhash, hversion, hvalid⟩ := h
    have hobserved := Library.Isoformat.isoformat_injective hobserved
    have hvalid := Library.Isoformat.isoformat_injective hvalid
    obtain ⟨hsign, hdigits, hplaces⟩ := fixedPoint_injective hprobability
    have hvalue : first.probabilityUp.value = second.probabilityUp.value := by
      unfold PyDecimal.value
      rw [hsign, hdigits, hplaces]
    refine ⟨?_, hobserved, hvalid, hsign, hplaces⟩
    simp only [SpelledSignal.signal, FormalSignal.mk.injEq]
    exact ⟨hversion, hhash, horizon_value_injective hhorizon, by rw [hobserved], by rw [hvalid],
      decision_value_injective hdecision, hvalue⟩
  · rintro ⟨hsignal, halike⟩
    simp only [SpelledSignal.signal, FormalSignal.mk.injEq] at hsignal
    obtain ⟨hversion, hhash, hhorizon, -, -, hdecision, hvalue⟩ := hsignal
    have hdigits := PyDecimal.digits_eq halike.sign halike.places hvalue
    simp only [SpelledSignal.payload, PyDecimal.formatF, hversion, hhash, hhorizon, hdecision,
      hdigits, halike.observed, halike.valid, halike.sign, halike.places]

theorem fingerprint_of_intentText {sha : Sha256} {policy policy' : PhaseAExecutionPolicy}
    (h : intentText sha first policy = intentText sha second policy') :
    first.fingerprint sha = second.fingerprint sha := by
  have hrest := List.append_cancel_left h
  have hlength : (first.fingerprint sha).length = (second.fingerprint sha).length :=
    (sha.hexdigest_hex _).1.trans (sha.hexdigest_hex _).1.symm
  exact (List.append_inj hrest hlength).1

end Texts

section Runs

variable {sha : Sha256} {store store' : StateStore} {calls : List StoreCall}

variable {policy : PhaseAExecutionPolicy} {spelled : SpelledSignal}

theorem buildIntentId_eq_ok
    {intentId : Digest} (h : buildIntentId sha spelled policy = .ok intentId) :
    intentId = sha.hexdigest (plainText (intentText sha spelled policy)) := by
  unfold buildIntentId at h
  split_ifs at h
  exact (Except.ok.inj h).symm

theorem createIntent_eq_ok
    {now : AwareDatetime} (h : store.createIntent sha spelled policy now = .ok store') :
    ∃ cycle : StoredCycle,
      cycle.intentId = sha.hexdigest (plainText (intentText sha spelled policy)) ∧
      cycle.signalFingerprint = spelled.fingerprint sha ∧
      store'.cycles.rows = store.cycles.rows ++ [cycle] := by
  unfold StateStore.createIntent at h
  obtain ⟨intentId, hintent, h⟩ := Library.Series.bind_eq_ok h
  split_ifs at h
  split at h
  · cases h
  · rename_i cycles hinsert
    obtain rfl := Except.ok.inj h
    exact ⟨_, buildIntentId_eq_ok hintent, rfl, (Table.insert?_eq_some.mp hinsert).2⟩

theorem createIntent_duplicate {now : AwareDatetime}
    (h : store.createIntent sha spelled policy now = .error .duplicateIntent) :
    ∃ cycle ∈ store.cycles.rows,
      cycle.intentId = sha.hexdigest (plainText (intentText sha spelled policy)) ∨
        cycle.signalFingerprint = spelled.fingerprint sha := by
  unfold StateStore.createIntent at h
  cases hintent : buildIntentId sha spelled policy with
  | error e =>
      rw [hintent] at h
      obtain rfl : e = .duplicateIntent := Except.error.inj h
      unfold buildIntentId at hintent
      split_ifs at hintent
      cases hintent
  | ok intentId =>
      rw [hintent] at h
      simp only [bind, Except.bind] at h
      split_ifs at h with hactive hhalted
      · cases h
      · cases h
      · split at h
        · rename_i hinsert
          have htaken := fun hfresh =>
            Option.isSome_iff_ne_none.mp (Table.insert?_isSome.mpr hfresh) hinsert
          simp only [Table.Fresh, List.forall_mem_cons, List.mem_map, not_exists, not_and,
            List.not_mem_nil, false_implies, implies_true, and_true] at htaken
          rw [buildIntentId_eq_ok hintent] at htaken
          by_contra hnone
          push Not at hnone
          exact htaken ⟨fun cycle hcycle => (hnone cycle hcycle).1,
            fun cycle hcycle => (hnone cycle hcycle).2⟩
        · cases h

def StateStore.keys (store : StateStore) : List (Digest × Digest) :=
  store.cycles.rows.map fun cycle => (cycle.intentId, cycle.signalFingerprint)

def intentKeys (sha : Sha256) (intent : SpelledSignal × PhaseAExecutionPolicy) :
    Digest × Digest :=
  (sha.hexdigest (plainText (intentText sha intent.1 intent.2)), intent.1.fingerprint sha)

theorem change_keys (store : StateStore) (intentId : Digest) (changed : CycleChange) :
    (store.change intentId changed).keys = store.keys := by
  simp only [StateStore.keys, StateStore.change, Table.rows_updateWhere, List.map_map]
  refine List.map_congr_left fun cycle _ => ?_
  simp only [Function.comp_apply]
  split_ifs <;> rfl

/-- **Step lemma.** A call adds the keys of the intent that it creates, and no others. -/
theorem storeStep_keys (store : StateStore) (call : StoreCall) :
    (storeStep sha store call).keys =
      store.keys ++ (acceptedBy sha store call).map (intentKeys sha) := by
  cases hcall : store.call sha call with
  | error e =>
      have hsame : storeStep sha store call = store := by
        simp [storeStep, hcall, Except.toOption]
      have hnone : acceptedBy sha store call = [] := by
        cases call with
        | createIntent spelled policy now =>
            have hrefused : store.createIntent sha spelled policy now = .error e := hcall
            simp [acceptedBy, hrefused, Except.isOk, Except.toBool]
        | _ => rfl
      rw [hsame, hnone, List.map_nil, List.append_nil]
  | ok store' =>
      have hnext : storeStep sha store call = store' := by
        simp [storeStep, hcall, Except.toOption]
      rw [hnext]
      cases call with
      | createIntent spelled policy now =>
          have hcreated : store.createIntent sha spelled policy now = .ok store' := hcall
          obtain ⟨cycle, hintent, hfingerprint, hrows⟩ := createIntent_eq_ok hcreated
          simp [StateStore.keys, acceptedBy, hcreated, Except.isOk, Except.toBool, intentKeys,
            hrows, hintent, hfingerprint]
      | recordAttemptStarted intentId now =>
          obtain ⟨row, -, h⟩ := Library.Series.bind_eq_ok hcall
          split_ifs at h
          obtain ⟨-, -, h⟩ := Library.Series.bind_eq_ok h
          obtain rfl := Except.ok.inj h
          exact (change_keys store intentId _).trans (List.append_nil _).symm
      | transition intentId target eventCategory now haltReason =>
          obtain ⟨row, -, h⟩ := Library.Series.bind_eq_ok hcall
          obtain ⟨-, -, h⟩ := Library.Series.bind_eq_ok h
          split_ifs at h
          obtain rfl := Except.ok.inj h
          exact (change_keys store intentId _).trans (List.append_nil _).symm
      | recordExitAttemptStarted intentId now =>
          obtain ⟨row, -, h⟩ := Library.Series.bind_eq_ok hcall
          split_ifs at h
          obtain ⟨-, -, h⟩ := Library.Series.bind_eq_ok h
          obtain rfl := Except.ok.inj h
          exact (change_keys store intentId _).trans (List.append_nil _).symm

/-- **Run lemma.** The cycles of a run are those of the intents that it created. -/
theorem cyclesOf_run (store : StateStore) (calls : List StoreCall) :
    (after (storeStep sha) store calls).keys =
      store.keys ++ (acceptedIntents sha store calls).map (intentKeys sha) := by
  induction calls generalizing store with
  | nil => simp [acceptedIntents]
  | cons call calls ih =>
      rw [Library.after_cons, ih, storeStep_keys, acceptedIntents, List.map_append,
        List.append_assoc]

theorem named_of_accepted {intent : SpelledSignal × PhaseAExecutionPolicy}
    (h : intent ∈ acceptedIntents sha store calls) :
    ∃ now, .createIntent intent.1 intent.2 now ∈ calls := by
  induction calls generalizing store with
  | nil => simp [acceptedIntents] at h
  | cons call calls ih =>
      rcases List.mem_append.mp h with hcall | hlater
      · cases call with
        | createIntent spelled policy now =>
            simp only [acceptedBy] at hcall
            split_ifs at hcall
            · obtain rfl := List.mem_singleton.mp hcall
              exact ⟨now, List.mem_cons_self⟩
            · cases hcall
        | _ => cases hcall
      · obtain ⟨now, hmem⟩ := ih hlater
        exact ⟨now, List.mem_cons_of_mem _ hmem⟩

end Runs

section Claim

variable {sha : Sha256} {calls : List StoreCall}

variable {spelled first second : SpelledSignal}

theorem payload_hashed {policy : PhaseAExecutionPolicy}
    {now : AwareDatetime} (h : .createIntent spelled policy now ∈ calls) :
    spelled.payload ∈ hashedTexts sha calls ∧
      plainText (intentText sha spelled policy) ∈ hashedTexts sha calls := by
  constructor
  · exact List.mem_flatMap.mpr ⟨_, h, List.mem_cons_self⟩
  · exact List.mem_flatMap.mpr ⟨_, h, List.mem_cons_of_mem _ List.mem_cons_self⟩

theorem mem_namedSignals :
    spelled ∈ namedSignals calls ↔ ∃ policy now, .createIntent spelled policy now ∈ calls := by
  unfold namedSignals
  rw [List.mem_filterMap]
  constructor
  · rintro ⟨call, hcall, hsome⟩
    cases call with
    | createIntent named policy now =>
        obtain rfl := Option.some.inj hsome
        exact ⟨policy, now, hcall⟩
    | _ => cases hsome
  · rintro ⟨policy, now, hcall⟩
    exact ⟨_, hcall, rfl⟩

/-- Without collisions, signals have one fingerprint exactly when they have one payload. -/
theorem fingerprint_eq_iff (hsha : NoCollisions sha calls)
    (hfirst : first ∈ namedSignals calls) (hsecond : second ∈ namedSignals calls) :
    first.fingerprint sha = second.fingerprint sha ↔ first.payload = second.payload := by
  obtain ⟨policy, now, hfirst⟩ := mem_namedSignals.mp hfirst
  obtain ⟨policy', now', hsecond⟩ := mem_namedSignals.mp hsecond
  constructor
  · exact hsha _ (payload_hashed hfirst).1 _ (payload_hashed hsecond).1
  · exact fun h => congrArg sha.hexdigest h

theorem accepted_of_duplicate (hsha : NoCollisions sha calls) {before later : List StoreCall}
    {policy : PhaseAExecutionPolicy} {now : AwareDatetime}
    (hcalls : calls = before ++ .createIntent spelled policy now :: later)
    (h : (after (storeStep sha) newStore before).createIntent sha spelled policy now =
      .error .duplicateIntent) :
    ∃ earlier ∈ acceptedSignals sha newStore before, earlier ∈ namedSignals calls ∧
      earlier.fingerprint sha = spelled.fingerprint sha := by
  obtain ⟨cycle, hcycle, htaken⟩ := createIntent_duplicate h
  have hkeys : (cycle.intentId, cycle.signalFingerprint) ∈
      (after (storeStep sha) newStore before).keys :=
    List.mem_map_of_mem hcycle
  rw [cyclesOf_run] at hkeys
  obtain ⟨intent, hintent, hkey⟩ := List.mem_map.mp hkeys
  obtain ⟨hid, hfingerprint⟩ := Prod.mk.inj hkey
  obtain ⟨now', hasked⟩ := named_of_accepted hintent
  have hasked : .createIntent intent.1 intent.2 now' ∈ calls :=
    hcalls ▸ List.mem_append_left _ hasked
  refine ⟨intent.1, List.mem_map_of_mem hintent, mem_namedSignals.mpr ⟨_, _, hasked⟩, ?_⟩
  rcases htaken with hsameId | hsame
  · -- the ids are digests of texts that carry the fingerprints
    have hnew : .createIntent spelled policy now ∈ calls := by
      rw [hcalls]
      exact List.mem_append_right _ List.mem_cons_self
    have htext := hsha _ (payload_hashed hasked).2 _ (payload_hashed hnew).2
      (hid.trans hsameId)
    simp only [plainText, List.cons.injEq, Prod.mk.injEq, Scalar.digest.injEq, true_and,
      and_true] at htext
    exact fingerprint_of_intentText htext
  · exact hfingerprint.trans hsame

theorem accepted_fingerprints_nodup :
    ((acceptedSignals sha newStore calls).map (SpelledSignal.fingerprint sha)).Nodup := by
  have hunique := (after (storeStep sha) newStore calls).cycles.unique
    StoredCycle.signalFingerprint (by simp)
  have hkeys := congrArg (List.map Prod.snd) (@cyclesOf_run sha newStore calls)
  simp only [StateStore.keys, newStore, Table.rows_empty, List.map_nil, List.nil_append,
    List.map_map] at hkeys
  unfold acceptedSignals
  rw [List.map_map]
  have hsame : (acceptedIntents sha newStore calls).map
      (SpelledSignal.fingerprint sha ∘ Prod.fst) =
      (after (storeStep sha) newStore calls).cycles.rows.map StoredCycle.signalFingerprint :=
    hkeys.symm
  rw [hsame]
  exact hunique

/-- **A signal has one fingerprint and one cycle exactly when it is always spelled alike.** -/
theorem one_signal_one_cycle_iff (sha : Sha256) (calls : List StoreCall)
    (hsha : NoCollisions sha calls) :
    OneSignalOneCycle sha calls ↔
      ∀ first ∈ namedSignals calls, ∀ second ∈ namedSignals calls,
        first.signal = second.signal → SpelledAlike first second := by
  constructor
  · intro h first hfirst second hsecond hsame
    have hdigest := (h.fingerprints first hfirst second hsecond).mpr hsame
    exact (payload_eq_iff.mp ((fingerprint_eq_iff hsha hfirst hsecond).mp hdigest)).2
  · intro halike
    have hprints : ∀ first ∈ namedSignals calls, ∀ second ∈ namedSignals calls,
        (first.fingerprint sha = second.fingerprint sha ↔ first.signal = second.signal) := by
      intro first hfirst second hsecond
      rw [fingerprint_eq_iff hsha hfirst hsecond, payload_eq_iff]
      exact ⟨And.left, fun hsame => ⟨hsame, halike first hfirst second hsecond hsame⟩⟩
    have hnamed : ∀ spelled ∈ acceptedSignals sha newStore calls,
        spelled ∈ namedSignals calls := by
      intro spelled hspelled
      obtain ⟨intent, hintent, rfl⟩ := List.mem_map.mp hspelled
      obtain ⟨now, hasked⟩ := named_of_accepted hintent
      exact mem_namedSignals.mpr ⟨_, _, hasked⟩
    refine ⟨hprints, ?_, ?_⟩
    · have hdistinct := List.pairwise_map.mp (@accepted_fingerprints_nodup sha calls)
      refine List.Pairwise.imp_of_mem ?_ hdistinct
      intro earlier later hearlier hlater hne hsame
      exact hne ((hprints earlier (hnamed _ hearlier) later (hnamed _ hlater)).mpr hsame)
    · intro before spelled policy now later hcalls hrefused
      obtain ⟨earlier, haccepted, hearlier, hsame⟩ :=
        accepted_of_duplicate hsha hcalls hrefused
      have hspelled : spelled ∈ namedSignals calls := by
        refine mem_namedSignals.mpr ⟨policy, now, ?_⟩
        rw [hcalls]
        exact List.mem_append_right _ List.mem_cons_self
      exact ⟨earlier, haccepted, (hprints earlier hearlier spelled hspelled).mp hsame⟩

end Claim

namespace Sample

def utc (hour minute : Nat) (h : hour < 24 ∧ minute < 60) : AwareDatetime where
  year := 2026
  month := 7
  day := 13
  hour := hour
  minute := minute
  second := 0
  microsecond := 0
  utcoffset := 0
  year_bounds := by decide
  month_bounds := by decide
  day_bounds := by decide
  time_bounds := ⟨h.1, h.2, by decide, by decide⟩
  offset_bounds := by decide

/-- A signal of ten o'clock, with a probability between zero and one. -/
def spelled (probabilityUp : PyDecimal)
    (h : 0 ≤ probabilityUp.value ∧ probabilityUp.value ≤ 1) : SpelledSignal where
  strategyVersion := "V1"
  signalConfigHash := "C1"
  horizon := .minutes10
  observedAtUtc := utc 10 0 (by decide)
  validUntilUtc := utc 10 5 (by decide)
  decision := .buy
  probabilityUp := probabilityUp
  named := by decide +kernel
  validity_after := by decide +kernel
  probability_bounds := h

/-- The probability `0.6`. -/
def shortSpelling : SpelledSignal :=
  spelled ⟨false, 6, -1⟩ (by decide +kernel)

/-- The probability `0.60`. -/
def longSpelling : SpelledSignal :=
  spelled ⟨false, 60, -2⟩ (by decide +kernel)

def policy : PhaseAExecutionPolicy where
  strategyVersion := "V1"
  signalConfigHash := "C1"
  selectedHorizon := .minutes10
  named := by decide +kernel

def intentId (signal : SpelledSignal) : Digest :=
  (intentKeys Sha256.checksum (signal, policy)).1

/-- The signal is created and its cycle runs to its end; then the other spelling comes. -/
def bothSpellings : List StoreCall :=
  [.createIntent shortSpelling policy (utc 10 1 (by decide)),
    .recordAttemptStarted (intentId shortSpelling) (utc 10 1 (by decide)),
    .transition (intentId shortSpelling) .positionProtected "ENTRY_FILLED" (utc 10 2 (by decide))
      none,
    .recordExitAttemptStarted (intentId shortSpelling) (utc 10 3 (by decide)),
    .transition (intentId shortSpelling) .flatReconciled "EXIT_FILLED" (utc 10 4 (by decide)) none,
    .createIntent longSpelling policy (utc 10 4 (by decide))]

end Sample

/-- A signal that is created twice with one spelling has one cycle. -/
theorem repeated_signal_has_one_cycle :
    OneSignalOneCycle Sha256.checksum
      [.createIntent Sample.shortSpelling Sample.policy (Sample.utc 10 1 (by decide)),
        .createIntent Sample.shortSpelling Sample.policy (Sample.utc 10 2 (by decide))] :=
  (one_signal_one_cycle_iff Sha256.checksum _ (by decide +kernel)).mpr (by decide +kernel)

/-- Two spellings of one signal have two cycles. -/
theorem two_spellings_have_two_cycles :
    NoCollisions Sha256.checksum Sample.bothSpellings ∧
      acceptedSignals Sha256.checksum newStore Sample.bothSpellings =
        [Sample.shortSpelling, Sample.longSpelling] ∧
      ¬ OneSignalOneCycle Sha256.checksum Sample.bothSpellings := by
  have haccepted : acceptedSignals Sha256.checksum newStore Sample.bothSpellings =
      [Sample.shortSpelling, Sample.longSpelling] := by
    decide +kernel
  refine ⟨?_, haccepted, fun h => ?_⟩
  · decide +kernel
  · have hdistinct := h.never_twice
    rw [haccepted] at hdistinct
    exact List.rel_of_pairwise_cons hdistinct (List.mem_singleton_self _) (by decide +kernel)

end FxStrategyLab.Auto
