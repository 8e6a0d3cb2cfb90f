import FxStrategyLab.G075.ActOnce

/-!
# Accepted actions that are left open

An entry that the port accepted is protected in the same call, and an accepted
cancellation is followed by the closing of the position.  Where the second action does
not end as it should, the persistent halt is to keep every later tick from acting.
The dispatchers write the halt on some of the ways in which it can fail: an unknown
result halts, and so does a known result other than `PROTECTED`; a retryable failure
of the second action and a marker already on file raise and leave no halt, and nothing
is written when the closing of the position has a known result other than `FLAT`.

**Results.** `open_actions_halt_iff` says for every run which ticks leave the halt
behind an open action.
-/

namespace FxStrategyLab.G075

open Library

def LifecycleKind.confirmed : LifecycleKind → ActionOutcome
  | entry => .protectedKnown
  | exit => .flatKnown

/-- The first action of a lifecycle of this kind was accepted and the second one did not
end as it should. -/
def LeftOpen (attempts : List PortAttempt) (kind : LifecycleKind) : Prop :=
  (∃ a ∈ attempts, a.scope.action = kind.first ∧ a.reply = .outcome .acceptedKnown) ∧
    ¬∃ a ∈ attempts, a.scope.action = kind.second ∧ a.reply = .outcome kind.confirmed
deriving Decidable

def newAttempts (w w' : Resident) : List PortAttempt :=
  w'.attempts.drop w.attempts.length

variable (sha : Sha256)

def HaltsOpenActions (w : Resident) (input : TickInput) : Prop :=
  let ended := tickRun sha w input []
  ended.1 ≠ .killed → ∀ kind, LeftOpen (newAttempts w ended.2) kind →
    StateRoot.present ended.2.root .persistentHalt = true ∧
      ∀ later, (after (residentStep sha) ended.2 later).attempts = ended.2.attempts

def TickInput.actsOn (input : TickInput) (root : StateRoot) : Option Evidence :=
  if StateRoot.present root .persistentHalt = true ∨ input.scanClear = false then none
  else
    match input.loaded sha root with
    | .error _ => none
    | .ok (some e) => if e.state = .stale then input.newEvidence sha root else some e
    | .ok none => input.newEvidence sha root

def TickInput.begins (input : TickInput) (root : StateRoot) :
    Option Lifecycle :=
  (input.actsOn sha root).bind fun evidence =>
    (tickPlan input { halted := false, evidence := some evidence }
      (capabilityValid sha input.generationDigest input.reviewedFilesDigest input.scanClear
        root)).begun

/-- The replies to a second action behind which no halt is written although the
lifecycle is open. -/
def LifecycleKind.unhalted : LifecycleKind → PortReply → Prop
  | entry, reply => reply = .preDispatch
  | exit, reply => reply = .preDispatch ∨ reply = .outcome .acceptedKnown ∨
      reply = .outcome .protectedKnown

instance (kind : LifecycleKind) (reply : PortReply) : Decidable (kind.unhalted reply) := by
  cases kind <;> unfold LifecycleKind.unhalted <;> infer_instance

/-- The port accepts the first action of the lifecycle, whose marker is free, and the
second one finds its marker taken or meets such a reply. -/
def Lifecycle.EndsOpen (lifecycle : Lifecycle) (input : TickInput)
    (root : StateRoot) : Prop :=
  let first := lifecycle.scope sha input.nowUtc lifecycle.kind.first
  let second := lifecycle.scope sha input.nowUtc lifecycle.kind.second
  StateRoot.present root (.actionStarted first.scopeDigest) = false ∧
    input.port first = .outcome .acceptedKnown ∧
    (StateRoot.present root (.actionStarted second.scopeDigest) = true ∨
      second.scopeDigest = first.scopeDigest ∨ lifecycle.kind.unhalted (input.port second))
deriving Decidable

def NotLeftUnhalted (w : Resident) (input : TickInput) : Prop :=
  ∀ lifecycle ∈ input.begins sha w.root, ¬lifecycle.EndsOpen sha input w.root
deriving Decidable

section Halted

variable {sha : Sha256} {w : Resident}

theorem tick_halted (sha : Sha256) (input : TickInput) (w : Resident)
    (h : StateRoot.present w.root .persistentHalt = true) :
    ((tick sha input).run w).2.attempts = w.attempts ∧
      StateRoot.present ((tick sha input).run w).2.root .persistentHalt = true := by
  have hobserve : (observe sha input).run w.root =
      (.returned { halted := true, evidence := none }, w.root) := by
    unfold observe
    rw [Process.run_gets_bind, if_pos h]
    rfl
  refine tick_ends (Q := fun w' : Resident => w'.attempts = w.attempts ∧
    StateRoot.present w'.root .persistentHalt = true) ?_ (fun observed root hreturned => ?_)
    fun w' hw' => ?_
  · rw [hobserve]
    exact ⟨rfl, h⟩
  · rw [hobserve] at hreturned
    cases hreturned
    rw [execute_quiet]
    · exact ⟨rfl, h⟩
    · cases hbegun : (tickPlan input { halted := true, evidence := none } (capabilityValid sha
          input.generationDigest input.reviewedFilesDigest input.scanClear w.root)).begun with
      | none => rfl
      | some lifecycle => cases (tickPlan_begun hbegun).1
  · exact ⟨hw'.1, recordTick_grows w'.root _ hw'.2⟩

/-- **Behind a halt** no tick invokes the port. -/
theorem halted_run (h : StateRoot.present w.root .persistentHalt = true)
    (ticks : List (TickInput × List WriteFate)) :
    (after (residentStep sha) w ticks).attempts = w.attempts := by
  induction ticks generalizing w with
  | nil => rfl
  | cons tick ticks ih =>
      have hfound : StateRoot.present { w.root with fates := tick.2 } .persistentHalt = true := h
      obtain ⟨hattempts, hhalt⟩ := tick_halted sha tick.1
        { w with root := { w.root with fates := tick.2 } } hfound
      rw [after_cons]
      exact (ih hhalt).trans hattempts

end Halted

def ResultsStarted (root : StateRoot) : Prop :=
  ∀ digest, StateRoot.present root (.actionResult digest) = true →
    StateRoot.present root (.actionStarted digest) = true

theorem ResultsStarted.mono {root root' : StateRoot} (h : ResultsStarted root)
    (hgrows : Disk.grows.rel root root')
    (hresults : ∀ digest, root'.files (.actionResult digest) = root.files (.actionResult digest)) :
    ResultsStarted root' := by
  intro digest hresult
  rw [StateRoot.present, hresults digest] at hresult
  exact hgrows _ (h digest hresult)

/-- How an attempt ends by the reply of the port, when its marker was free and no write
fails. -/
def ReplyEnds (before after : StateRoot) (o : Outcome G075Exception ActionOutcome) :
    PortReply → Prop
  | .outcome .unknown | .raises _ | .otherValue =>
      (∃ e, o = .raised e) ∧ StateRoot.present after .persistentHalt = true
  | .outcome known =>
      o = .returned known ∧ after.files .persistentHalt = before.files .persistentHalt
  | .preDispatch =>
      (∃ e, o = .raised e) ∧ after.files .persistentHalt = before.files .persistentHalt
  | .dies => o = .killed

/-- What an attempt leaves when its marker was free and no write fails; `new` is what it
adds to the invocations of the port. -/
structure FreeEnds (reply : PortReply) (scope : ActionScope) (new : List PortAttempt)
    (w w' : Resident) (o : Outcome G075Exception ActionOutcome) : Prop where
  attempts : w'.attempts = w.attempts ++ new
  fates : w'.root.fates = []
  others : ∀ digest, digest ≠ scope.scopeDigest →
    w'.root.files (.actionStarted digest) = w.root.files (.actionStarted digest) ∧
      w'.root.files (.actionResult digest) = w.root.files (.actionResult digest)
  marked : reply ≠ .preDispatch →
    StateRoot.present w'.root (.actionStarted scope.scopeDigest) = true
  ends : ReplyEnds w.root w'.root o reply

section Forward

variable {sha : Sha256} {port : ActionScope → PortReply} {scope : ActionScope}
variable {w : Resident} {reply : PortReply}

theorem dispatchScope_taken
    (htaken : StateRoot.present w.root (.actionStarted scope.scopeDigest) = true) :
    (dispatchScope port scope).run w = (.raised alreadyExists, w) := by
  have hcreate : (exclusiveJson (.actionStarted scope.scopeDigest) .marker).run w.root =
      (.raised alreadyExists, w.root) :=
    Disk.createExclusive_taken htaken
  unfold dispatchScope
  rw [Process.run_bind, run_onRoot, hcreate]

theorem actionUnknown_run (hfates : w.root.fates = [])
    (hresult : w.root.files (.actionResult scope.scopeDigest) = none) :
    ∃ e root, (actionUnknown scope).run w = (.raised e, { w with root }) ∧ root.fates = [] ∧
      StateRoot.present root .persistentHalt = true ∧
      ∀ file, file ≠ .persistentHalt → file ≠ .actionResult scope.scopeDigest →
        root.files file = w.root.files file := by
  obtain ⟨root, hhalt, hnone, hpresent, hkept⟩ := engageHalt_of_noFates
    (w.root.set (.actionResult scope.scopeDigest) (some .marker)) hfates
  refine ⟨g075Error "G075_ACTION_RESULT_UNKNOWN_NO_RETRY", root, ?_, hnone, hpresent,
    fun file hne hresult => ?_⟩
  · unfold actionUnknown
    rw [Process.run_bind, run_onRoot, exclusiveJson, Disk.createExclusive_free hresult hfates]
    dsimp only
    rw [Process.run_bind, run_onRoot, hhalt]
    rfl
  · rw [hkept file hne, Disk.set_other _ _ hresult]

theorem actionReplied_known {o : ActionOutcome} (ho : o ≠ .unknown) (hfates : w.root.fates = [])
    (hresult : w.root.files (.actionResult scope.scopeDigest) = none) :
    (actionReplied scope (.outcome o)).run w =
      (.returned o,
        { w with root := w.root.set (.actionResult scope.scopeDigest) (some .marker) }) := by
  cases o with
  | unknown => exact absurd rfl ho
  | acceptedKnown | protectedKnown | flatKnown =>
      unfold actionReplied
      rw [Process.run_bind, run_onRoot, exclusiveJson, Disk.createExclusive_free hresult hfates]
      rfl

theorem actionReplied_unknown (hreplied : actionReplied scope reply = actionUnknown scope)
    (hends : ∀ o root root', (∃ e, o = .raised e) ∧
      StateRoot.present root' .persistentHalt = true → ReplyEnds root root' o reply)
    (hfates : w.root.fates = [])
    (hresult : w.root.files (.actionResult scope.scopeDigest) = none)
    (hmarked : StateRoot.present w.root (.actionStarted scope.scopeDigest) = true) :
    ∃ o w', (actionReplied scope reply).run w = (o, w') ∧ FreeEnds reply scope [] w w' o := by
  obtain ⟨e, root, hend, hnone, hhalt, hkept⟩ := actionUnknown_run hfates hresult
  refine ⟨.raised e, { w with root }, by rw [hreplied, hend], ?_⟩
  constructor
  · exact (List.append_nil _).symm
  · exact hnone
  · intro digest hdigest
    exact ⟨hkept _ (by simp) (by simp), hkept _ (by simp) (by simpa using hdigest)⟩
  · intro _
    rw [StateRoot.present, hkept _ (by simp) (by simp)]
    exact hmarked
  · exact hends _ _ _ ⟨⟨e, rfl⟩, hhalt⟩

theorem actionReplied_free (reply : PortReply) (hfates : w.root.fates = [])
    (hresult : w.root.files (.actionResult scope.scopeDigest) = none)
    (hmarked : StateRoot.present w.root (.actionStarted scope.scopeDigest) = true) :
    ∃ o w', (actionReplied scope reply).run w = (o, w') ∧ FreeEnds reply scope [] w w' o := by
  have hknown : ∀ o, o ≠ .unknown → (∀ root root', root'.files .persistentHalt =
      root.files .persistentHalt → ReplyEnds root root' (.returned o) (.outcome o)) →
      ∃ o' w', (actionReplied scope (.outcome o)).run w = (o', w') ∧
        FreeEnds (.outcome o) scope [] w w' o' := by
    intro o ho hends
    refine ⟨_, _, actionReplied_known ho hfates hresult, ?_⟩
    constructor
    · exact (List.append_nil _).symm
    · exact hfates
    · intro digest hdigest
      exact ⟨Disk.set_other _ _ (by simp), Disk.set_other _ _ (by simpa using hdigest)⟩
    · intro _
      dsimp only
      rw [StateRoot.present, Disk.set_other _ _ (by simp)]
      exact hmarked
    · exact hends _ _ (Disk.set_other _ _ (by simp))
  cases reply with
  | raises e => exact actionReplied_unknown rfl (fun _ _ _ h => h) hfates hresult hmarked
  | otherValue => exact actionReplied_unknown rfl (fun _ _ _ h => h) hfates hresult hmarked
  | outcome o =>
      cases o with
      | unknown => exact actionReplied_unknown rfl (fun _ _ _ h => h) hfates hresult hmarked
      | acceptedKnown => exact hknown .acceptedKnown (by simp) fun _ _ h => ⟨rfl, h⟩
      | protectedKnown => exact hknown .protectedKnown (by simp) fun _ _ h => ⟨rfl, h⟩
      | flatKnown => exact hknown .flatKnown (by simp) fun _ _ h => ⟨rfl, h⟩
  | dies =>
      refine ⟨.killed, w, rfl, (List.append_nil _).symm, hfates, fun _ _ => ⟨rfl, rfl⟩,
        fun _ => hmarked, rfl⟩
  | preDispatch =>
      have hremove : (Disk.remove osError (.actionStarted scope.scopeDigest) :
          RootProcess Unit).run w.root =
          (.returned (), w.root.set (.actionStarted scope.scopeDigest) none) :=
        Disk.remove_of_noFates hfates
      refine ⟨.raised (g075Error "G075_ACTION_PRE_DISPATCH_FAILED_RETRYABLE"),
        { w with root := w.root.set (.actionStarted scope.scopeDigest) none }, ?_, ?_⟩
      · unfold actionReplied
        rw [Process.run_bind, run_onRoot, hremove]
        rfl
      · constructor
        · exact (List.append_nil _).symm
        · exact hfates
        · intro digest hdigest
          exact ⟨Disk.set_other _ _ (by simpa using hdigest), Disk.set_other _ _ (by simp)⟩
        · exact fun h => absurd rfl h
        · exact ⟨⟨_, rfl⟩, Disk.set_other _ _ (by simp)⟩

theorem ReplyEnds.congr {root root₁ root' : StateRoot} {o : Outcome G075Exception ActionOutcome}
    (h : ReplyEnds root₁ root' o reply)
    (hhalt : root₁.files .persistentHalt = root.files .persistentHalt) :
    ReplyEnds root root' o reply := by
  unfold ReplyEnds at h ⊢
  rw [← hhalt]
  exact h

/-- **An attempt whose marker is free**, when no write fails. -/
theorem dispatchScope_free (port : ActionScope → PortReply) (hfates : w.root.fates = [])
    (hresults : ResultsStarted w.root)
    (hfree : StateRoot.present w.root (.actionStarted scope.scopeDigest) = false) :
    ∃ o w', (dispatchScope port scope).run w = (o, w') ∧
      FreeEnds (port scope) scope [{ scope, reply := port scope }] w w' o := by
  have hnone : w.root.files (.actionStarted scope.scopeDigest) = none := by
    simpa [StateRoot.present] using hfree
  have hresult : w.root.files (.actionResult scope.scopeDigest) = none := by
    by_contra hpresent
    have hstarted := hresults scope.scopeDigest (Option.isSome_iff_ne_none.mpr hpresent)
    rw [hfree] at hstarted
    cases hstarted
  have hcreate : (exclusiveJson (.actionStarted scope.scopeDigest) .marker).run w.root =
      (.returned (), w.root.set (.actionStarted scope.scopeDigest) (some .marker)) :=
    Disk.createExclusive_free hnone hfates
  -- the resident behind the invocation of the port
  let w₁ : Resident :=
    { root := w.root.set (.actionStarted scope.scopeDigest) (some .marker)
      attempts := w.attempts ++ [{ scope, reply := port scope }] }
  have hrun : (dispatchScope port scope).run w = (actionReplied scope (port scope)).run w₁ := by
    unfold dispatchScope
    rw [Process.run_bind, run_onRoot, hcreate]
    rfl
  have hothers : ∀ file, file ≠ .actionStarted scope.scopeDigest →
      w₁.root.files file = w.root.files file :=
    fun file hfile => Disk.set_other _ _ hfile
  obtain ⟨o, w', hend, hfreeEnds⟩ := actionReplied_free (w := w₁) (port scope) hfates
    ((hothers _ (by simp)).trans hresult) (by simp [w₁, StateRoot.present])
  refine ⟨o, w', hrun.trans hend, ?_⟩
  constructor
  · rw [hfreeEnds.attempts, List.append_nil]
  · exact hfreeEnds.fates
  · intro digest hdigest
    obtain ⟨hstarted, hresults⟩ := hfreeEnds.others digest hdigest
    exact ⟨hstarted.trans (hothers _ (by simpa using hdigest)),
      hresults.trans (hothers _ (by simp))⟩
  · exact hfreeEnds.marked
  · exact hfreeEnds.ends.congr (hothers _ (by simp))

theorem FreeEnds.resultsStarted {reply : PortReply} {new : List PortAttempt} {w' : Resident}
    {o : Outcome G075Exception ActionOutcome} (h : FreeEnds reply scope new w w' o)
    (hgrows : Disk.grows.rel w.root w'.root) (hresults : ResultsStarted w.root)
    (hreply : reply ≠ .preDispatch) : ResultsStarted w'.root := by
  intro digest hresult
  by_cases hdigest : digest = scope.scopeDigest
  · rw [hdigest]
    exact h.marked hreply
  · rw [StateRoot.present, (h.others digest hdigest).2] at hresult
    exact hgrows _ (hresults digest hresult)

end Forward

section Lifecycles

variable {sha : Sha256} {lifecycle : Lifecycle} {input : TickInput} {w : Resident}

theorem leftOpen_singleton {scope : ActionScope} {reply : PortReply} {kind kind' : LifecycleKind}
    (hscope : scope.action = kind.first) :
    LeftOpen [{ scope, reply }] kind' ↔ kind' = kind ∧ reply = .outcome .acceptedKnown := by
  cases kind <;> cases kind' <;>
    simp [LeftOpen, hscope, LifecycleKind.first, LifecycleKind.second]

/-- A lifecycle whose two actions were tried is open when the second one does not
confirm. -/
theorem leftOpen_pair {first second : ActionScope} {reply : PortReply}
    {kind kind' : LifecycleKind} (hfirst : first.action = kind.first)
    (hsecond : second.action = kind.second) :
    LeftOpen [{ scope := first, reply := .outcome .acceptedKnown }, { scope := second, reply }]
      kind' ↔ kind' = kind ∧ reply ≠ .outcome kind.confirmed := by
  cases kind <;> cases kind' <;>
    simp [LeftOpen, hfirst, hsecond, LifecycleKind.first, LifecycleKind.second,
      LifecycleKind.confirmed]

/-- Behind a run that was not killed every open lifecycle has the halt on file. -/
def HaltedIfOpen (o : Outcome G075Exception Unit) (new : List PortAttempt)
    (root : StateRoot) : Prop :=
  o ≠ .killed → ∀ kind, LeftOpen new kind → StateRoot.present root .persistentHalt = true

/-- What follows the second action. -/
def LifecycleKind.continued (kind : LifecycleKind) :
    Outcome G075Exception ActionOutcome × Resident → Outcome G075Exception Unit × Resident
  | (.returned a, w) => (kind.finish a).run w
  | (.raised e, w) => (.raised e, w)
  | (.killed, w) => (.killed, w)

theorem LifecycleKind.run_continued (kind : LifecycleKind) (x : ResidentProcess ActionOutcome)
    (w : Resident) : (x >>= kind.finish).run w = kind.continued (x.run w) := by
  rw [Process.run_bind]
  rcases x.run w with ⟨o, w'⟩
  cases o <;> rfl

/-- The end of a lifecycle whose first action was accepted and whose second one met this
reply. -/
structure ContinuedEnds (kind : LifecycleKind) (first second : ActionScope) (reply : PortReply)
    (w : Resident) (ended : Outcome G075Exception Unit × Resident) : Prop where
  attempts : ended.2.attempts = w.attempts
  fates : ended.2.root.fates = []
  halted : HaltedIfOpen ended.1 [{ scope := first, reply := .outcome .acceptedKnown },
    { scope := second, reply }] ended.2.root ↔ ¬kind.unhalted reply

section Continued

variable {kind : LifecycleKind} {first second : ActionScope} {reply : PortReply}
variable {ended : Outcome G075Exception Unit × Resident}

theorem ContinuedEnds.unhalted (hfirst : first.action = kind.first)
    (hsecond : second.action = kind.second) (hattempts : ended.2.attempts = w.attempts)
    (hfates : ended.2.root.fates = []) (hkilled : ended.1 ≠ .killed)
    (hreply : reply ≠ .outcome kind.confirmed) (hleft : kind.unhalted reply)
    (hnone : ended.2.root.files .persistentHalt = none) :
    ContinuedEnds kind first second reply w ended where
  attempts := hattempts
  fates := hfates
  halted := by
    refine iff_of_false (fun h => ?_) (not_not_intro hleft)
    have hpresent := h hkilled kind ((leftOpen_pair hfirst hsecond).mpr ⟨rfl, hreply⟩)
    rw [StateRoot.present, hnone] at hpresent
    cases hpresent

theorem ContinuedEnds.settled (hfirst : first.action = kind.first)
    (hsecond : second.action = kind.second) (hattempts : ended.2.attempts = w.attempts)
    (hfates : ended.2.root.fates = []) (hleft : ¬kind.unhalted reply)
    (hsettled : ended.1 = .killed ∨ reply = .outcome kind.confirmed ∨
      StateRoot.present ended.2.root .persistentHalt = true) :
    ContinuedEnds kind first second reply w ended where
  attempts := hattempts
  fates := hfates
  halted := by
    refine iff_of_true (fun hkilled kind' hopen => ?_) hleft
    rcases hsettled with hdead | hconfirmed | hpresent
    · exact absurd hdead hkilled
    · exact absurd hconfirmed ((leftOpen_pair hfirst hsecond).mp hopen).2
    · exact hpresent

theorem finish_known (hfirst : first.action = kind.first) (hsecond : second.action = kind.second)
    {a : ActionOutcome} (ha : a ≠ .unknown) (hfates : w.root.fates = [])
    (hnone : w.root.files .persistentHalt = none) :
    ContinuedEnds kind first second (.outcome a) w ((kind.finish a).run w) := by
  cases kind with
  | exit =>
      by_cases hflat : a = .flatKnown
      · subst hflat
        exact .settled hfirst hsecond rfl hfates (by simp [LifecycleKind.unhalted])
          (Or.inr (Or.inl rfl))
      · have hrun : (LifecycleKind.exit.finish a).run w =
            (.raised (g075Error "G075_EXIT_NOT_FLAT"), w) := by
          simp [LifecycleKind.finish, Process.run_require, hflat]
        rw [hrun]
        refine .unhalted hfirst hsecond rfl hfates (by simp)
          (by simpa [LifecycleKind.confirmed] using hflat) ?_ hnone
        cases a with
        | unknown => exact absurd rfl ha
        | flatKnown => exact absurd rfl hflat
        | acceptedKnown | protectedKnown => simp [LifecycleKind.unhalted]
  | entry =>
      by_cases hprotected : a = .protectedKnown
      · subst hprotected
        exact .settled hfirst hsecond rfl hfates (by simp [LifecycleKind.unhalted])
          (Or.inr (Or.inl rfl))
      · obtain ⟨root, hengaged, hnofates, hpresent, _⟩ := engageHalt_of_noFates w.root hfates
        have hrun : (LifecycleKind.entry.finish a).run w =
            (.raised (g075Error "G075_PROTECTION_NOT_CONFIRMED"), { w with root }) := by
          simp only [LifecycleKind.finish, protectionFinish, if_neg hprotected]
          rw [Process.run_bind, run_onRoot, hengaged]
          rfl
        rw [hrun]
        exact .settled hfirst hsecond rfl hnofates (by simp [LifecycleKind.unhalted])
          (Or.inr (Or.inr hpresent))

/-- **What follows the second action**, by the reply to it. -/
theorem continued_ends (kind : LifecycleKind) (hfirst : first.action = kind.first)
    (hsecond : second.action = kind.second) {w w' : Resident}
    {o : Outcome G075Exception ActionOutcome} (hends : ReplyEnds w.root w'.root o reply)
    (hhalt : w.root.files .persistentHalt = none) (hfates : w'.root.fates = []) :
    ContinuedEnds kind first second reply w' (kind.continued (o, w')) := by
  have hunknown : (∃ e, o = .raised e) ∧ StateRoot.present w'.root .persistentHalt = true →
      ¬kind.unhalted reply →
      ContinuedEnds kind first second reply w' (kind.continued (o, w')) := by
    rintro ⟨⟨e, rfl⟩, hpresent⟩ hleft
    exact .settled hfirst hsecond rfl hfates hleft (Or.inr (Or.inr hpresent))
  have hknown : ∀ a, a ≠ .unknown → reply = .outcome a →
      o = .returned a ∧ w'.root.files .persistentHalt = w.root.files .persistentHalt →
      ContinuedEnds kind first second reply w' (kind.continued (o, w')) := by
    rintro a ha rfl ⟨rfl, hsame⟩
    exact finish_known hfirst hsecond ha hfates (hsame.trans hhalt)
  cases reply with
  | raises e => exact hunknown hends (by cases kind <;> simp [LifecycleKind.unhalted])
  | otherValue => exact hunknown hends (by cases kind <;> simp [LifecycleKind.unhalted])
  | dies =>
      cases hends
      exact .settled hfirst hsecond rfl hfates
        (by cases kind <;> simp [LifecycleKind.unhalted]) (Or.inl rfl)
  | preDispatch =>
      obtain ⟨⟨e, rfl⟩, hsame⟩ := hends
      exact .unhalted hfirst hsecond rfl hfates (by simp [LifecycleKind.continued]) (by simp)
        (by cases kind <;> simp [LifecycleKind.unhalted]) (hsame.trans hhalt)
  | outcome a =>
      cases a with
      | unknown => exact hunknown hends (by cases kind <;> simp [LifecycleKind.unhalted])
      | acceptedKnown => exact hknown .acceptedKnown (by simp) rfl hends
      | protectedKnown => exact hknown .protectedKnown (by simp) rfl hends
      | flatKnown => exact hknown .flatKnown (by simp) rfl hends

end Continued

theorem Lifecycle.attempt_admitted (h : lifecycle.Admitted) (port : ActionScope → PortReply)
    (nowUtc : Instant) (action : Action) (w : Resident) :
    (lifecycle.attempt sha port nowUtc action).run w =
      (dispatchScope port (lifecycle.scope sha nowUtc action)).run w :=
  attemptOnce_admitted h w

/-- The end of a lifecycle when no write fails: what it adds to the invocations, and
whether it is halted if it is open. -/
structure LifecycleEnds (sha : Sha256) (lifecycle : Lifecycle) (input : TickInput)
    (w : Resident) (ended : Outcome G075Exception Unit × Resident)
    (new : List PortAttempt) : Prop where
  attempts : ended.2.attempts = w.attempts ++ new
  fates : ended.2.root.fates = []
  halted : HaltedIfOpen ended.1 new ended.2.root ↔ ¬lifecycle.EndsOpen sha input w.root

theorem Lifecycle.second_ends {w₁ : Resident} (hadmitted : lifecycle.Admitted)
    (hfree : StateRoot.present w.root (.actionStarted
      (lifecycle.scope sha input.nowUtc lifecycle.kind.first).scopeDigest) = false)
    (haccepted : input.port (lifecycle.scope sha input.nowUtc lifecycle.kind.first) =
      .outcome .acceptedKnown)
    (hhalt : w.root.files .persistentHalt = none) (hresults : ResultsStarted w₁.root)
    (hends : FreeEnds (.outcome .acceptedKnown)
      (lifecycle.scope sha input.nowUtc lifecycle.kind.first)
      [{ scope := lifecycle.scope sha input.nowUtc lifecycle.kind.first
         reply := .outcome .acceptedKnown }] w w₁ (.returned .acceptedKnown)) :
    ∃ new, LifecycleEnds sha lifecycle input w
      ((lifecycle.attempt sha input.port input.nowUtc lifecycle.kind.second >>=
        lifecycle.kind.finish).run w₁) new := by
  set first := lifecycle.scope sha input.nowUtc lifecycle.kind.first
  set second := lifecycle.scope sha input.nowUtc lifecycle.kind.second
  have hopen : lifecycle.EndsOpen sha input w.root ↔
      StateRoot.present w.root (.actionStarted second.scopeDigest) = true ∨
        second.scopeDigest = first.scopeDigest ∨
        lifecycle.kind.unhalted (input.port second) :=
    ⟨fun h => h.2.2, fun h => ⟨hfree, haccepted, h⟩⟩
  have hsame : w₁.root.files .persistentHalt = none := hends.ends.2.trans hhalt
  rw [lifecycle.kind.run_continued, lifecycle.attempt_admitted hadmitted]
  cases htaken : StateRoot.present w₁.root (.actionStarted second.scopeDigest) with
  | true =>
      rw [dispatchScope_taken htaken]
      refine ⟨_, hends.attempts, hends.fates,
        iff_of_false (fun h => ?_) (not_not_intro (hopen.mpr ?_))⟩
      · have hpresent := h (by simp [LifecycleKind.continued]) lifecycle.kind
          ((leftOpen_singleton rfl).mpr ⟨rfl, rfl⟩)
        rw [StateRoot.present] at hpresent
        exact absurd hpresent (by simp [LifecycleKind.continued, hsame])
      · by_cases heq : second.scopeDigest = first.scopeDigest
        · exact Or.inr (Or.inl heq)
        · rw [StateRoot.present, (hends.others _ heq).1] at htaken
          exact Or.inl htaken
  | false =>
      obtain ⟨o, w₂, hrun, hends₂⟩ :=
        dispatchScope_free input.port hends.fates hresults htaken
      have hcontinued : ContinuedEnds lifecycle.kind first second (input.port second) w₂
          (lifecycle.kind.continued (o, w₂)) :=
        continued_ends lifecycle.kind rfl rfl hends₂.ends hsame hends₂.fates
      rw [hrun]
      refine ⟨[{ scope := first, reply := .outcome .acceptedKnown },
        { scope := second, reply := input.port second }], ?_, hcontinued.fates,
        hcontinued.halted.trans (not_congr ⟨fun h => hopen.mpr (Or.inr (Or.inr h)),
          fun h => ?_⟩)⟩
      · rw [hcontinued.attempts, hends₂.attempts, hends.attempts, List.append_assoc]
        rfl
      · -- the marker of the second action is free and is not that of the first
        have hne : second.scopeDigest ≠ first.scopeDigest := by
          intro heq
          rw [heq, hends.marked (by simp)] at htaken
          cases htaken
        rcases hopen.mp h with hpresent | heq | hleft
        · rw [StateRoot.present, (hends.others _ hne).1] at htaken
          exact absurd hpresent (by rw [StateRoot.present, htaken]; simp)
        · exact absurd heq hne
        · exact hleft

/-- **A lifecycle leaves the halt behind open actions** exactly when it does not end
open. -/
theorem Lifecycle.process_ends (hadmitted : lifecycle.Admitted) (hfates : w.root.fates = [])
    (hresults : ResultsStarted w.root) (hhalt : w.root.files .persistentHalt = none) :
    ∃ new, LifecycleEnds sha lifecycle input w
      ((lifecycle.process sha input.port input.nowUtc).run w) new := by
  rw [Lifecycle.process_eq, Process.run_bind, lifecycle.attempt_admitted hadmitted]
  set first := lifecycle.scope sha input.nowUtc lifecycle.kind.first with hfirst
  cases htaken : StateRoot.present w.root (.actionStarted first.scopeDigest) with
  | true =>
      rw [dispatchScope_taken htaken]
      refine ⟨[], (List.append_nil _).symm, hfates, iff_of_true (fun _ kind hleft => ?_) ?_⟩
      · obtain ⟨⟨a, ha, _⟩, _⟩ := hleft
        cases ha
      · intro hopen
        have hfree := hopen.1
        rw [← hfirst, htaken] at hfree
        cases hfree
  | false =>
      obtain ⟨o, w₁, hrun, hends⟩ := dispatchScope_free input.port hfates hresults htaken
      rw [hrun]
      by_cases haccepted : input.port first = .outcome .acceptedKnown
      · have hended := hends.ends
        rw [haccepted] at hends hended
        obtain ⟨rfl, _⟩ := hended
        dsimp only
        rw [Process.run_require_bind rfl]
        exact lifecycle.second_ends hadmitted htaken haccepted hhalt
          (hends.resultsStarted (dispatchScope_ends hrun).grows hresults (by simp)) hends
      · -- the first action was not accepted: nothing follows it and the lifecycle is not open
        have hended : ∀ ended : Outcome G075Exception Unit × Resident, ended.2 = w₁ →
            LifecycleEnds sha lifecycle input w ended
              [{ scope := first, reply := input.port first }] := by
          intro ended hended
          refine ⟨by rw [hended]; exact hends.attempts, by rw [hended]; exact hends.fates,
            iff_of_true (fun _ kind hleft => ?_) (fun h => haccepted h.2.1)⟩
          exact absurd ((leftOpen_singleton rfl).mp hleft).2 haccepted
        refine ⟨_, hended _ ?_⟩
        cases o with
        | raised e => rfl
        | killed => rfl
        | returned a =>
            have hne : a ≠ .acceptedKnown := by
              rintro rfl
              rcases (dispatchScope_ends hrun).invoked with ⟨_, hnever⟩ | ⟨_, hreturned⟩
              · exact hnever _ rfl
              · exact haccepted (hreturned _ rfl)
            dsimp only
            rw [Process.run_require_bind_not hne]

end Lifecycles

section Ticks

variable {sha : Sha256} {input : TickInput} {w : Resident}

def capabilityFiles : List StateFile :=
  [.switchCapability, .releaseCapability, .transactionOutcome, .operation60Result,
    .persistentHalt]

variable {root root' : StateRoot}

theorem capabilityValid_congr {generationDigest reviewedFilesDigest : Digest} {scanClear : Bool}
    (h : ∀ file ∈ capabilityFiles, root'.files file = root.files file) :
    capabilityValid sha generationDigest reviewedFilesDigest scanClear root' =
      capabilityValid sha generationDigest reviewedFilesDigest scanClear root := by
  simp only [capabilityFiles, List.mem_cons, List.not_mem_nil, or_false, forall_eq_or_imp,
    forall_eq] at h
  obtain ⟨hswitch, hrelease, houtcome, hoperation, hhalt⟩ := h
  simp only [capabilityValid, StateRoot.readJson, StateRoot.present, hswitch, hrelease,
    houtcome, hoperation, hhalt]

/-- An observation without failing writes: its evidence is the one the tick acts on, and
neither the halt nor a marker nor the capability changes. -/
theorem observe_acts {e : Evidence} (hfates : root.fates = [])
    (h : input.actsOn sha root = some e) :
    ∃ root', (observe sha input).run root =
        (.returned { halted := false, evidence := some e }, root') ∧
      root'.fates = [] ∧ root.files .persistentHalt = none ∧
      ∀ file, ¬file.OfCycle input.cycleId ∨ file = .persistentHalt →
        root'.files file = root.files file := by
  unfold TickInput.actsOn at h
  split_ifs at h with hidle
  simp only [not_or, Bool.not_eq_true, Bool.not_eq_false] at hidle
  obtain ⟨hhalt, hscan⟩ := hidle
  have hnone : root.files .persistentHalt = none := by
    simpa [StateRoot.present] using hhalt
  have hrun : ∀ loaded, input.loaded sha root = .ok loaded →
      (observe sha input).run root = (reconcileWhenDue sha input loaded).run root := by
    intro loaded hloaded
    unfold observe
    rw [Process.run_gets_bind, if_neg (by simp [hhalt]), if_neg (by simp [hscan]), hloaded]
  have hfresh : input.loaded sha root = .ok (some e) → e.state ≠ .stale →
      (observe sha input).run root =
        (.returned { halted := false, evidence := some e }, root) := by
    intro hloaded hstate
    rw [hrun _ hloaded]
    unfold reconcileWhenDue
    cases input.reconciler with
    | none => rfl
    | some reconciler =>
        dsimp only
        rw [if_neg (by simp [hstate])]
        rfl
  have hnew : ∀ loaded, input.loaded sha root = .ok loaded →
      loaded.all (fun e => decide (e.state = .stale)) = true →
      input.newEvidence sha root = some e →
      ∃ root', (observe sha input).run root =
          (.returned { halted := false, evidence := some e }, root') ∧
        root'.fates = [] ∧ root.files .persistentHalt = none ∧
        ∀ file, ¬file.OfCycle input.cycleId ∨ file = .persistentHalt →
          root'.files file = root.files file := by
    intro loaded hloaded hdue hevidence
    unfold TickInput.newEvidence at hevidence
    split at hevidence
    case h_2 => cases hevidence
    case h_1 snapshot hreconciler =>
      simp only [Option.ite_none_right_eq_some, Option.some.injEq] at hevidence
      obtain ⟨⟨hvalid, hcycle, hdigests, hstate⟩, rfl⟩ := hevidence
      obtain ⟨root', hcleared, _, hnofates, hsame⟩ := runReconciliationCycleOnce_cleared sha
        input.nowUtc hfates hvalid hcycle hdigests.1 hdigests.2 hstate
      refine ⟨root', ?_, hnofates, hnone, fun file hfile => ?_⟩
      · rw [hrun _ hloaded]
        unfold reconcileWhenDue
        rw [hreconciler]
        dsimp only
        rw [if_pos hdue, Process.run_attempt, Process.run_bind, hcleared]
        rfl
      · rcases hfile with hother | rfl
        · exact (runReconciliationCycleOnce_keepsFile hother).rel hcleared
        · exact hsame
  split at h
  case h_1 => cases h
  case h_2 loaded hloaded =>
    split at h
    case isTrue hstale => exact hnew _ hloaded (by simpa using hstale) h
    case isFalse hstate =>
      cases h
      exact ⟨root, hfresh hloaded hstate, hfates, hnone, fun _ _ => rfl⟩
  case h_3 hloaded => exact hnew _ hloaded rfl h

theorem observe_idle {observed : Observation} {capability : Bool} {lifecycle : Lifecycle}
    (hrun : (observe sha input).run root = (.returned observed, root'))
    (h : input.actsOn sha root = none) :
    (tickPlan input observed capability).begun ≠ some lifecycle := by
  intro hbegun
  obtain ⟨hclear, hevidence⟩ := tickPlan_begun hbegun
  rcases observe_returned hrun hclear hevidence with
    ⟨hstored, rfl, rfl⟩ | ⟨hidle, ⟨loaded, hloaded, hdue⟩, hnew, _⟩
  · have hstate : lifecycle.evidence.state ≠ .stale := by
      intro hstale
      have hreport : (tickPlan input { halted := false, evidence := some lifecycle.evidence }
          capability).begun = none := by
        unfold tickPlan
        split
        · rfl
        · simp only [hstale, or_true, if_true]
          rfl
      rw [hreport] at hbegun
      cases hbegun
    unfold TickInput.stored at hstored
    split_ifs at hstored with hidle
    unfold TickInput.actsOn at h
    rw [if_neg hidle] at h
    split at hstored
    case h_2 => cases hstored
    case h_1 hloaded =>
      subst hstored
      rw [hloaded] at h
      simp [hstate] at h
  · unfold TickInput.actsOn at h
    rw [if_neg hidle, hloaded] at h
    cases loaded with
    | none => simp [hnew] at h
    | some e =>
        have hstale : e.state = .stale := by simpa using hdue
        simp [hstale, hnew] at h

theorem recordTick_run (hfates : root.fates = []) : (recordTick.run root).1 ≠ .killed := by
  have hstep : ∀ file (root : StateRoot), root.fates = [] →
      (atomicJson file .marker).run root = (.returned (), root.set file (some .marker)) :=
    fun file root h => Disk.replace_of_noFates h
  have hstatus := hstep .runtimeStatus root hfates
  have hheartbeat := hstep .heartbeat (root.set .runtimeStatus (some .marker)) hfates
  have hdead := hstep .deadMan
    ((root.set .runtimeStatus (some .marker)).set .heartbeat (some .marker)) hfates
  have hchain := hstep .heartbeatChain (((root.set .runtimeStatus (some .marker)).set .heartbeat
    (some .marker)).set .deadMan (some .marker)) hfates
  unfold recordTick
  rw [Process.run_bind_returned hstatus, Process.run_bind_returned hheartbeat,
    Process.run_bind_returned hdead, Process.run_gets_bind]
  by_cases hreadable : (((root.set .runtimeStatus (some .marker)).set .heartbeat
      (some .marker)).set .deadMan (some .marker)).files .heartbeatChain ≠ some .unreadable
  · rw [Process.run_require_bind hreadable, hchain]
    simp
  · rw [Process.run_require_bind_not hreadable]
    simp

theorem tick_run {observed : Observation}
    (hobserve : (observe sha input).run w.root = (.returned observed, root)) :
    (tick sha input).run w =
      (execute sha input (tickPlan input observed (capabilityValid sha input.generationDigest
        input.reviewedFilesDigest input.scanClear root)) >>= fun status =>
          onRoot recordTick >>= fun _ => pure status).run { w with root } := by
  have hfirst : (onRoot (observe sha input)).run w = (.returned observed, { w with root }) := by
    rw [run_onRoot, hobserve]
  unfold tick
  rw [Process.run_bind_returned hfirst, Process.run_gets_bind]

/-- The files at the end of a tick change neither the invocations nor the halt, and
nothing is killed in them. -/
theorem record_ends {x : ResidentProcess TickStatus} {w : Resident}
    (hfates : (x.run w).2.root.fates = []) :
    let ended := (x >>= fun status => onRoot recordTick >>= fun _ => pure status).run w
    ended.2.attempts = (x.run w).2.attempts ∧
      ended.2.root.files .persistentHalt = (x.run w).2.root.files .persistentHalt ∧
      (ended.1 = .killed ↔ (x.run w).1 = .killed) := by
  intro ended
  have hended : ended = (x >>= fun status => onRoot recordTick >>= fun _ => pure status).run w :=
    rfl
  rw [hended, Process.run_bind]
  rcases hx : x.run w with ⟨o, w'⟩
  rw [hx] at hfates
  cases o with
  | raised e => exact ⟨rfl, rfl, Iff.rfl⟩
  | killed => exact ⟨rfl, rfl, Iff.rfl⟩
  | returned status =>
      dsimp only
      have hrecord := recordTick_run hfates
      have hkept : (recordTick.run w'.root).2.files .persistentHalt =
          w'.root.files .persistentHalt :=
        recordTick_keepsFile (by simp [StateFile.OfRecord]) w'.root
      rw [Process.run_bind, run_onRoot]
      rcases hrun : recordTick.run w'.root with ⟨o, root⟩
      rw [hrun] at hrecord hkept
      cases o with
      | returned u => exact ⟨rfl, hkept, by simp⟩
      | raised e => exact ⟨rfl, hkept, by simp⟩
      | killed => exact absurd rfl hrecord

theorem newAttempts_append {w w' : Resident} {new : List PortAttempt}
    (h : w'.attempts = w.attempts ++ new) : newAttempts w w' = new := by
  rw [newAttempts, h, List.drop_left]

theorem haltsOpenActions_quiet
    (h : (tickRun sha w input []).2.attempts = w.attempts) : HaltsOpenActions sha w input := by
  intro _ kind hopen
  have hnone : newAttempts w (tickRun sha w input []).2 = [] :=
    newAttempts_append (h.trans (List.append_nil _).symm)
  obtain ⟨⟨a, ha, _⟩, _⟩ := hopen
  rw [hnone] at ha
  cases ha

/-- The results are next to their markers behind an observation without failing writes. -/
theorem ResultsStarted.congr (h : ResultsStarted root)
    (hmarkers : ∀ digest, root'.files (.actionStarted digest) = root.files (.actionStarted digest))
    (hresults : ∀ digest, root'.files (.actionResult digest) = root.files (.actionResult digest)) :
    ResultsStarted root' := by
  intro digest hresult
  rw [StateRoot.present, hresults digest] at hresult
  rw [StateRoot.present, hmarkers digest]
  exact h digest hresult

/-- **Step lemma.** A tick none of whose writes fails leaves the halt behind every open
action exactly when the lifecycle that it begins does not end open. -/
theorem haltsOpenActions_iff (hresults : ResultsStarted w.root) :
    HaltsOpenActions sha w input ↔ NotLeftUnhalted sha w input := by
  set w₀ : Resident := { w with root := { w.root with fates := [] } } with hw₀
  have hrun : tickRun sha w input [] = (tick sha input).run w₀ := rfl
  have hquiet : ∀ {observed root}, (observe sha input).run w₀.root = (.returned observed, root) →
      (tickPlan input observed (capabilityValid sha input.generationDigest
        input.reviewedFilesDigest input.scanClear root)).begun = none →
      (tickRun sha w input []).2.attempts = w.attempts := by
    intro observed root hobserve hbegun
    refine tick_ends (Q := fun w' : Resident => w'.attempts = w.attempts) rfl
      (fun observed' root' hobserve' => ?_) fun _ h => h
    rw [hobserve] at hobserve'
    cases hobserve'
    rw [execute_quiet hbegun]
  cases hacts : input.actsOn sha w.root with
  | none =>
      -- no evidence to act on: no lifecycle, no invocation
      refine iff_of_true ?_ fun lifecycle hlifecycle => ?_
      · refine haltsOpenActions_quiet ?_
        refine tick_ends (Q := fun w' : Resident => w'.attempts = w.attempts) rfl
          (fun observed root hobserve => ?_) fun _ h => h
        have hbegun : (tickPlan input observed (capabilityValid sha input.generationDigest
            input.reviewedFilesDigest input.scanClear root)).begun = none := by
          by_contra hne
          obtain ⟨lifecycle, hsome⟩ := Option.ne_none_iff_exists'.mp hne
          exact observe_idle hobserve hacts hsome
        rw [execute_quiet hbegun]
      · rw [Option.mem_def, TickInput.begins, hacts] at hlifecycle
        cases hlifecycle
  | some evidence =>
      have hacts₀ : input.actsOn sha w₀.root = some evidence := hacts
      obtain ⟨root, hobserve, hfates, hhalt, hkept⟩ := observe_acts rfl hacts₀
      have hcapability : capabilityValid sha input.generationDigest input.reviewedFilesDigest
          input.scanClear root = capabilityValid sha input.generationDigest
            input.reviewedFilesDigest input.scanClear w.root := by
        refine capabilityValid_congr fun file hfile => hkept file ?_
        simp only [capabilityFiles, List.mem_cons, List.not_mem_nil, or_false] at hfile
        rcases hfile with rfl | rfl | rfl | rfl | rfl <;> simp [StateFile.OfCycle]
      have hmarkers : ∀ digest, root.files (.actionStarted digest) =
          w.root.files (.actionStarted digest) :=
        fun digest => hkept _ (Or.inl (by simp [StateFile.OfCycle]))
      have hbegins : input.begins sha w.root = (tickPlan input
          { halted := false, evidence := some evidence } (capabilityValid sha
            input.generationDigest input.reviewedFilesDigest input.scanClear root)).begun := by
        rw [TickInput.begins, hacts, hcapability]
        rfl
      cases hbegun : (tickPlan input { halted := false, evidence := some evidence }
          (capabilityValid sha input.generationDigest input.reviewedFilesDigest
            input.scanClear root)).begun with
      | none =>
          refine iff_of_true (haltsOpenActions_quiet (hquiet hobserve hbegun))
            fun lifecycle hlifecycle => ?_
          rw [Option.mem_def, hbegins, hbegun] at hlifecycle
          cases hlifecycle
      | some lifecycle =>
          obtain ⟨hadmitted, hend⟩ := @execute_begun sha _ _ _ hbegun { w₀ with root }
          have hroot : ResultsStarted root := hresults.congr hmarkers
            fun digest => hkept _ (Or.inl (by simp [StateFile.OfCycle]))
          have hnone : root.files .persistentHalt = none :=
            (hkept _ (Or.inr rfl)).trans hhalt
          obtain ⟨new, hattempts, hnofates, hhalted⟩ := @Lifecycle.process_ends sha
            lifecycle input { w₀ with root } hadmitted hfates hroot hnone
          have hcondition : NotLeftUnhalted sha w input ↔
              ¬lifecycle.EndsOpen sha input { w₀ with root }.root := by
            have hsame : lifecycle.EndsOpen sha input root ↔
                lifecycle.EndsOpen sha input w.root := by
              simp only [Lifecycle.EndsOpen, StateRoot.present, hmarkers]
            rw [NotLeftUnhalted, hbegins, hbegun]
            simp only [Option.mem_def, Option.some.injEq, forall_eq', hsame]
          rw [hcondition, ← hhalted]
          -- the tick ends as the lifecycle does
          have htick := tick_run hobserve
          have hexecuted : ((execute sha input (tickPlan input
              { halted := false, evidence := some evidence } (capabilityValid sha
                input.generationDigest input.reviewedFilesDigest input.scanClear root))).run
              { w₀ with root }).2.root.fates = [] := by
            rw [hend.1]
            exact hnofates
          obtain ⟨hsameAttempts, hsameHalt, hkilled⟩ := record_ends hexecuted
          rw [hend.1] at hsameAttempts hsameHalt
          rw [hend.2] at hkilled
          have hpresent : ∀ root root' : StateRoot,
              root.files .persistentHalt = root'.files .persistentHalt →
              (StateRoot.present root .persistentHalt = true ↔
                StateRoot.present root' .persistentHalt = true) := by
            intro root root' h
            rw [StateRoot.present, StateRoot.present, h]
          have hnew : newAttempts w (tickRun sha w input []).2 = new := by
            refine newAttempts_append ?_
            rw [hrun, htick, hsameAttempts, hattempts]
          unfold HaltsOpenActions HaltedIfOpen
          dsimp only
          rw [hnew, hrun, htick]
          constructor
          · intro h hne kind hopen
            exact (hpresent _ _ hsameHalt).mp (h (fun hk => hne (hkilled.mp hk)) kind hopen).1
          · intro h hne kind hopen
            have hhalt := (hpresent _ _ hsameHalt).mpr
              (h (fun hk => hne (hkilled.mpr hk)) kind hopen)
            exact ⟨hhalt, fun later => halted_run hhalt later⟩

theorem actionReplied_preDispatch_keepsFile {scope : ActionScope} (digest : Digest) :
    Within ((Disk.keepsFile (.actionResult digest)).through Resident.root)
      (actionReplied scope .preDispatch) :=
  (onRoot_within (Disk.remove_keepsFile (by simp))).bind fun _ => Within.raise _

theorem dispatchScope_resultsStarted {port : ActionScope → PortReply} {scope : ActionScope} :
    Within ((Frame.keeps ResultsStarted).through Resident.root) (dispatchScope port scope) := by
  intro w hresults
  have hgrows := (dispatchScope_ends (Prod.eta ((dispatchScope port scope).run w)).symm).grows
  unfold dispatchScope at hgrows ⊢
  rw [Process.run_bind, run_onRoot] at hgrows ⊢
  rcases hcreate : (exclusiveJson (.actionStarted scope.scopeDigest) .marker).run w.root with
    ⟨created, root⟩
  have hcreated : ∀ digest, root.files (.actionResult digest) =
      w.root.files (.actionResult digest) :=
    fun digest => (exclusiveJson_keepsFile (by simp)).rel hcreate
  rw [hcreate] at hgrows
  cases created with
  | raised e => exact hresults.mono hgrows hcreated
  | killed => exact hresults.mono hgrows hcreated
  | returned u =>
      dsimp only at hgrows ⊢
      rcases hreplied : (actionReplied scope (port scope)).run
        { root, attempts := w.attempts ++ [{ scope, reply := port scope }] } with ⟨o, w'⟩
      change Disk.grows.rel w.root ((actionReplied scope (port scope)).run
        { root, attempts := w.attempts ++ [{ scope, reply := port scope }] }).2.root at hgrows
      change ResultsStarted ((actionReplied scope (port scope)).run
        { root, attempts := w.attempts ++ [{ scope, reply := port scope }] }).2.root
      rw [hreplied] at hgrows ⊢
      by_cases hretry : port scope = .preDispatch
      · refine hresults.mono hgrows fun digest => ?_
        rw [hretry] at hreplied
        exact ((actionReplied_preDispatch_keepsFile digest).rel hreplied).trans
          (hcreated digest)
      · intro digest hresult
        by_cases hdigest : digest = scope.scopeDigest
        · -- its own marker is on file since it was created
          rw [hdigest]
          have hmarked : StateRoot.present root (.actionStarted scope.scopeDigest) = true := by
            simp [StateRoot.present, (Disk.createExclusive_returned hcreate).2]
          exact (actionReplied_grows hretry).rel hreplied _ hmarked
        · have hother : w'.root.files (.actionResult digest) = root.files (.actionResult digest) :=
            (actionReplied_keepsFile (by simp) (by simp) (by simpa using hdigest)).rel hreplied
          rw [StateRoot.present, hother, hcreated digest] at hresult
          exact hgrows _ (hresults digest hresult)

theorem Lifecycle.process_within {F : Frame Resident} {lifecycle : Lifecycle}
    {port : ActionScope → PortReply} {nowUtc : Instant}
    (hdispatch : ∀ scope, Within F (dispatchScope port scope))
    (hfinish : ∀ o, Within F (lifecycle.kind.finish o)) :
    Within F (lifecycle.process sha port nowUtc) := by
  have hattempt : ∀ action, Within F (lifecycle.attempt sha port nowUtc action) :=
    fun action => (Within.require _ _).bind fun _ => (Within.require _ _).bind fun _ =>
      hdispatch _
  rw [Lifecycle.process_eq]
  exact (hattempt _).bind fun _ => (Within.require _ _).bind fun _ => (hattempt _).bind hfinish

theorem tick_resultsStarted (hresults : ResultsStarted w.root) :
    ResultsStarted ((tick sha input).run w).2.root := by
  have hobserve : ResultsStarted ((observe sha input).run w.root).2 :=
    hresults.mono (observe_within (fun _ => runReconciliationCycleOnce_grows) w.root)
      fun digest => observe_within (F := Disk.keepsFile (.actionResult digest))
        (fun _ => runReconciliationCycleOnce_keepsFile (by simp [StateFile.OfCycle])) w.root
  refine tick_ends (Q := fun w : Resident => ResultsStarted w.root) hobserve
    (fun observed root hreturned => ?_) fun w hw => ?_
  · rw [hreturned] at hobserve
    cases hbegun : (tickPlan input observed (capabilityValid sha input.generationDigest
        input.reviewedFilesDigest input.scanClear root)).begun with
    | none =>
        rw [execute_quiet hbegun]
        exact hobserve
    | some lifecycle =>
        rw [(execute_begun hbegun _).2.1]
        have hfinish : ∀ o, Within ((Frame.keeps ResultsStarted).through Resident.root)
            (lifecycle.kind.finish o) := by
          intro o w hw
          exact hw.mono (lifecycle.kind.finish_grows o w) fun digest =>
            LifecycleKind.finish_keepsFile (by simp) lifecycle.kind o w
        exact Lifecycle.process_within (fun _ => dispatchScope_resultsStarted) hfinish
          { w with root } hobserve
  · exact hw.mono (recordTick_grows w.root)
      fun digest => recordTick_keepsFile (by simp [StateFile.OfRecord]) w.root

/-- **Open actions and the halt.** In every run over a state root with no result without
its marker, whatever befalls the writes of its ticks, the ticks none of whose writes fails
leave the halt behind every open action, so that no later tick acts, exactly when no
lifecycle that they begin ends open. -/
theorem open_actions_halt_iff (sha : Sha256) (w : Resident) (hroot : ResultsStarted w.root)
    (ticks : List (TickInput × List WriteFate)) :
    MeetsAlong (residentStep sha) (fun w tick => tick.2 = [] → HaltsOpenActions sha w tick.1)
        w ticks ↔
      MeetsAlong (residentStep sha) (fun w tick => tick.2 = [] → NotLeftUnhalted sha w tick.1)
        w ticks :=
  meetsAlong_iff_of_invariant (I := fun w : Resident => ResultsStarted w.root)
    (fun w tick h => tick_resultsStarted (w := { w with root := { w.root with fates := tick.2 } })
      h)
    (fun _ _ h => imp_congr_right fun _ => haltsOpenActions_iff h) hroot

end Ticks

namespace Sample

def unprotectingPort (scope : ActionScope) : PortReply :=
  if scope.action = .entry then .outcome .acceptedKnown else .preDispatch

theorem armedRoot_resultsStarted : ResultsStarted armedRoot := by
  have hnone : ∀ digest, armedRoot.files (.actionResult digest) = none := fun _ => rfl
  intro digest hresult
  rw [StateRoot.present, hnone] at hresult
  cases hresult

/-- A protection that the port confirms leaves nothing open. -/
theorem confirmed_protection_closed :
    MeetsAlong (residentStep .checksum)
      (fun w tick => tick.2 = [] → HaltsOpenActions .checksum w tick.1) { root := armedRoot }
      [(tickAt 0 ['c', '1'] acceptingPort, []), (tickAt 61 ['c', '2'] acceptingPort, [])] :=
  (open_actions_halt_iff .checksum { root := armedRoot } armedRoot_resultsStarted _).mpr
    (by decide +kernel)

/-- The entry is accepted and its protection fails before it is dispatched: the status of
the tick says that it is halted, but no halt is on file, and the next tick enters again. -/
theorem unprotectedTick_ends :
    let ended := tickRun .checksum { root := armedRoot } (tickAt 0 ['c', '1'] unprotectingPort) []
    ended.1 = .returned (entryFailedStatus (.ofSnapshot .checksum generation generation
        ['c', '1'] 0 flatSnapshot)) ∧
      LeftOpen (newAttempts { root := armedRoot } ended.2) .entry ∧
      StateRoot.present ended.2.root .persistentHalt = false ∧
      LeftOpen (newAttempts ended.2 (tickRun .checksum ended.2
        (tickAt 61 ['c', '2'] unprotectingPort) []).2) .entry := by
  decide +kernel

/-- An accepted entry that is left unprotected without a halt. -/
theorem unprotected_entry_unhalted :
    ResultsStarted armedRoot ∧
      ¬HaltsOpenActions .checksum { root := armedRoot }
        (tickAt 0 ['c', '1'] unprotectingPort) := by
  refine ⟨armedRoot_resultsStarted, fun hhalts => ?_⟩
  obtain ⟨hreturned, hopen, hnone, _⟩ := unprotectedTick_ends
  have hhalt := (hhalts (fun hkilled => by rw [hreturned] at hkilled; cases hkilled) .entry
    hopen).1
  rw [hnone] at hhalt
  cases hhalt

end Sample

end FxStrategyLab.G075
