import FxStrategyLab.Library.Runs

/-!
# The process lock of the resident supervisor

This file embeds `G075ProcessLock` of `h11_v4_g075_runtime.py` as a step
function over any number of processes.  One step is one operation on the
filesystem (or the probe of a pid) with the computation behind it; `phase` says
which operation a process performs next.

A file is told from a later file of the same name by its inode: the descriptor
of an exclusive create keeps writing to the file it made, also when the name has
been taken away from it.

**Results.**
* `lock_taken_twice`: a takeover can remove the lock of a living process.
* `lock_excludes`: without such a removal at most one living process holds it.
-/

namespace FxStrategyLab.G075

/-- The file `process.lock`; `pid` is absent between the exclusive create and
the write. -/
structure LockFile where
  inode : Nat
  pid : Option Nat

/-- The operation that a process performs next inside `acquire` or `release`. -/
inductive LockPhase
  | idle
  | pathExists
  | isFile
  | readText
  | pidAlive (pid : Nat)
  | removeStale (pid : Nat)
  | createExclusive
  | writePid (inode : Nat)
  | releaseIsFile
  | releaseRemove
deriving DecidableEq

structure LockProcess where
  alive : Bool
  acquired : Bool
  phase : LockPhase

/-- The lock file and the processes, by pid. -/
structure LockWorld where
  path : Option LockFile
  nextInode : Nat
  process : Nat → LockProcess

/-- What may happen next: a process calls a method, performs its next operation
or dies. -/
inductive LockEvent
  | acquire (pid : Nat)
  | release (pid : Nat)
  | advance (pid : Nat)
  | die (pid : Nat)

namespace LockWorld

variable (w : LockWorld)

def pidAlive (pid : Nat) : Bool :=
  (w.process pid).alive && decide (0 < pid)

def goto (pid : Nat) (phase : LockPhase) : LockWorld :=
  { w with process := Function.update w.process pid { w.process pid with phase } }

/-- The method ends with this value of `acquired`. -/
def finish (pid : Nat) (acquired : Bool) : LockWorld :=
  { w with
    process := Function.update w.process pid
      { w.process pid with acquired, phase := .idle } }

/-- The method raises: `acquired` stays as it is. -/
def raises (pid : Nat) : LockWorld :=
  w.goto pid .idle

/-- One operation of `G075ProcessLock.acquire` or `G075ProcessLock.release`. -/
def operation (pid : Nat) : LockWorld :=
  match (w.process pid).phase with
  | .idle => w
  | .pathExists =>
      match w.path with
      | some _ => w.goto pid .isFile
      | none => w.goto pid .createExclusive
  | .isFile =>
      match w.path with
      | some _ => w.goto pid .readText
      | none => w.raises pid
  | .readText =>
      match w.path with
      | some { pid := some owner, .. } => w.goto pid (.pidAlive owner)
      -- an empty or missing file is `G075_PROCESS_LOCK_INVALID`
      | _ => w.raises pid
  | .pidAlive owner =>
      if w.pidAlive owner then w.raises pid
      else w.goto pid (.removeStale owner)
  | .removeStale _ =>
      match w.path with
      | some _ => { w with path := none }.goto pid .createExclusive
      | none => w.raises pid
  | .createExclusive =>
      match w.path with
      | some _ => w.raises pid
      | none =>
          { w with path := some ⟨w.nextInode, none⟩, nextInode := w.nextInode + 1 }.goto pid
            (.writePid w.nextInode)
  | .writePid inode =>
      -- the descriptor writes to the file it created, wherever the name points
      { w with
        path := w.path.map fun (file : LockFile) =>
          if file.inode = inode then { file with pid := some pid } else file }.finish pid true
  | .releaseIsFile =>
      match w.path with
      | some _ => w.goto pid .releaseRemove
      | none => w.finish pid false
  | .releaseRemove =>
      match w.path with
      | some _ => { w with path := none }.finish pid false
      | none => w.raises pid

def enter (pid : Nat) (entered : LockWorld) : LockWorld :=
  if (w.process pid).alive = true ∧ (w.process pid).phase = .idle then entered else w

/-- One event. -/
def step : LockEvent → LockWorld
  | .acquire pid => w.enter pid (w.goto pid .pathExists)
  | .release pid =>
      w.enter pid
        (if (w.process pid).acquired then w.goto pid .releaseIsFile else w.finish pid false)
  | .advance pid => if (w.process pid).alive then w.operation pid else w
  | .die pid =>
      { w with process := Function.update w.process pid { w.process pid with alive := false } }

/-- No process has begun and a lock file, if any, was left by a dead pid. -/
structure Initial (w : LockWorld) : Prop where
  begun : ∀ p, (w.process p).acquired = false ∧ (w.process p).phase = .idle
  positive : ∀ p, (w.process p).alive = true → 0 < p
  stale : ∀ file, w.path = some file → ∀ pid, file.pid = some pid →
    (w.process pid).alive = false

/-- The process is alive and has `acquired == True`. -/
def Holds (p : Nat) : Prop :=
  (w.process p).alive = true ∧ (w.process p).acquired = true

/-- At most one living process has `acquired == True`. -/
def Exclusive : Prop :=
  ∀ p q, w.Holds p → w.Holds q → p = q

/-- The event is no takeover that removes another file than the one it read: when
a living process removes a stale lock, the name is free or still has the dead pid
that the process read. -/
def RemovesWhatItRead : LockEvent → Prop
  | .advance p =>
      match (w.process p).phase, w.path with
      | .removeStale owner, some file => (w.process p).alive = true → file.pid = some owner
      | _, _ => True
  | _ => True

instance (w : LockWorld) (event : LockEvent) : Decidable (w.RemovesWhatItRead event) := by
  unfold RemovesWhatItRead
  split
  · split <;> infer_instance
  · infer_instance

section Frame

variable {w : LockWorld} {p q : Nat}

@[simp]
theorem goto_path (phase : LockPhase) : (w.goto p phase).path = w.path :=
  rfl

@[simp]
theorem finish_path (acquired : Bool) : (w.finish p acquired).path = w.path :=
  rfl

@[simp]
theorem goto_same (phase : LockPhase) : (w.goto p phase).process p = { w.process p with phase } :=
  Function.update_self ..

@[simp]
theorem finish_same (acquired : Bool) :
    (w.finish p acquired).process p = { w.process p with acquired, phase := .idle } :=
  Function.update_self ..

theorem goto_other (phase : LockPhase) (h : q ≠ p) : (w.goto p phase).process q = w.process q :=
  Function.update_of_ne h ..

theorem finish_other (acquired : Bool) (h : q ≠ p) :
    (w.finish p acquired).process q = w.process q :=
  Function.update_of_ne h ..

end Frame

/-- What the phases of the living processes say about the lock file. -/
structure Guarded (w : LockWorld) : Prop where
  positive : ∀ p, (w.process p).alive = true → 0 < p
  holder : ∀ p, w.Holds p → ∃ inode, w.path = some ⟨inode, some p⟩
  creator : ∀ p inode, (w.process p).alive = true → (w.process p).phase = .writePid inode →
    w.path = some ⟨inode, none⟩
  oneCreator : ∀ p q i j, (w.process p).alive = true → (w.process q).alive = true →
    (w.process p).phase = .writePid i → (w.process q).phase = .writePid j → p = q
  stale : ∀ p owner, (w.process p).alive = true → (w.process p).phase = .removeStale owner →
    (w.process owner).alive = false
  releasing : ∀ p, (w.process p).alive = true →
    (w.process p).phase = .releaseIsFile ∨ (w.process p).phase = .releaseRemove →
    (w.process p).acquired = true

theorem Guarded.exclusive {w : LockWorld} (h : w.Guarded) : w.Exclusive := by
  intro p q hp hq
  obtain ⟨i, hi⟩ := h.holder p hp
  obtain ⟨j, hj⟩ := h.holder q hq
  rw [hi] at hj
  simp at hj
  exact hj.2

theorem Initial.guarded {w : LockWorld} (h : w.Initial) : w.Guarded := by
  constructor
  · exact h.positive
  · intro p hp
    have hnot := (h.begun p).1
    rw [hp.2] at hnot
    simp at hnot
  · intro p inode _ hphase
    rw [(h.begun p).2] at hphase
    simp at hphase
  · intro p q i j _ _ hphase
    rw [(h.begun p).2] at hphase
    simp at hphase
  · intro p owner _ hphase
    rw [(h.begun p).2] at hphase
    simp at hphase
  · intro p _ hphase
    rw [(h.begun p).2] at hphase
    simp at hphase

section Steps

variable {w : LockWorld} {p : Nat}

theorem Guarded.goto (h : w.Guarded) {phase : LockPhase}
    (hwrite : ∀ inode, phase ≠ .writePid inode)
    (hstale : ∀ owner, phase = .removeStale owner → (w.process owner).alive = false)
    (hrelease : phase = .releaseIsFile ∨ phase = .releaseRemove →
      (w.process p).acquired = true) : (w.goto p phase).Guarded := by
  have halive : ∀ q, ((w.goto p phase).process q).alive = (w.process q).alive := by
    intro q
    by_cases hq : q = p
    · subst hq
      simp
    · rw [goto_other phase hq]
  have hacquired : ∀ q, ((w.goto p phase).process q).acquired = (w.process q).acquired := by
    intro q
    by_cases hq : q = p
    · subst hq
      simp
    · rw [goto_other phase hq]
  have hphase : ∀ q, ((w.goto p phase).process q).phase = (w.process q).phase ∨
      q = p ∧ ((w.goto p phase).process q).phase = phase := by
    intro q
    by_cases hq : q = p
    · right
      subst hq
      simp
    · left
      rw [goto_other phase hq]
  have hcreator : ∀ q i, ((w.goto p phase).process q).phase = .writePid i →
      (w.process q).phase = .writePid i := by
    intro q i hi
    rcases hphase q with hsame | ⟨_, hnew⟩
    · rw [← hsame]
      exact hi
    · exact absurd (hnew.symm.trans hi) (hwrite i)
  constructor
  · intro q hq
    exact h.positive q (halive q ▸ hq)
  · intro q hq
    exact h.holder q ⟨halive q ▸ hq.1, hacquired q ▸ hq.2⟩
  · intro q i hq hi
    exact h.creator q i (halive q ▸ hq) (hcreator q i hi)
  · intro q r i j hq hr hi hj
    exact h.oneCreator q r i j (halive q ▸ hq) (halive r ▸ hr) (hcreator q i hi)
      (hcreator r j hj)
  · intro q owner hq howner
    rw [halive owner]
    rcases hphase q with hsame | ⟨_, hnew⟩
    · exact h.stale q owner (halive q ▸ hq) (hsame ▸ howner)
    · exact hstale owner (hnew.symm.trans howner)
  · intro q hq hreleasing
    rw [hacquired q]
    rcases hphase q with hsame | ⟨rfl, hnew⟩
    · exact h.releasing q (halive q ▸ hq) (hsame ▸ hreleasing)
    · exact hrelease (hnew ▸ hreleasing)

theorem Guarded.raises (h : w.Guarded) : (w.raises p).Guarded :=
  h.goto (by simp) (by simp) (by simp)

theorem Guarded.finish_false (h : w.Guarded) : (w.finish p false).Guarded := by
  have halive : ∀ q, ((w.finish p false).process q).alive = (w.process q).alive := by
    intro q
    by_cases hq : q = p
    · subst hq
      simp
    · rw [finish_other false hq]
  have hbusy : ∀ q, ((w.finish p false).process q).phase ≠ .idle ∨
      ((w.finish p false).process q).acquired = true →
      (w.finish p false).process q = w.process q := by
    intro q hq
    by_cases hp : q = p
    · subst hp
      simp at hq
    · exact finish_other false hp
  constructor
  · intro q hq
    exact h.positive q (halive q ▸ hq)
  · intro q hq
    have hsame := hbusy q (Or.inr hq.2)
    exact h.holder q ⟨hsame ▸ hq.1, hsame ▸ hq.2⟩
  · intro q i hq hi
    have hsame := hbusy q (Or.inl (by simp [hi]))
    exact h.creator q i (halive q ▸ hq) (hsame ▸ hi)
  · intro q r i j hq hr hi hj
    have hsameq := hbusy q (Or.inl (by simp [hi]))
    have hsamer := hbusy r (Or.inl (by simp [hj]))
    exact h.oneCreator q r i j (halive q ▸ hq) (halive r ▸ hr) (hsameq ▸ hi) (hsamer ▸ hj)
  · intro q owner hq howner
    have hsame := hbusy q (Or.inl (by simp [howner]))
    rw [halive owner]
    exact h.stale q owner (halive q ▸ hq) (hsame ▸ howner)
  · intro q hq hreleasing
    have hsame := hbusy q (Or.inl (by rcases hreleasing with hr | hr <;> simp [hr]))
    rw [hsame]
    exact h.releasing q (halive q ▸ hq) (hsame ▸ hreleasing)

theorem Guarded.unlink (h : w.Guarded) (hheld : ∀ q, ¬w.Holds q)
    (hcreator : ∀ q i, (w.process q).alive = true → (w.process q).phase ≠ .writePid i) :
    ({ w with path := none } : LockWorld).Guarded := by
  constructor
  · exact h.positive
  · intro q hq
    exact absurd hq (hheld q)
  · intro q i hq hi
    exact absurd hi (hcreator q i hq)
  · exact h.oneCreator
  · exact h.stale
  · exact h.releasing

theorem Guarded.of_free (h : w.Guarded) (hfree : w.path = none) :
    (∀ q, ¬w.Holds q) ∧
      ∀ q i, (w.process q).alive = true → (w.process q).phase ≠ .writePid i := by
  constructor
  · intro q hq
    obtain ⟨i, hi⟩ := h.holder q hq
    rw [hfree] at hi
    simp at hi
  · intro q i hq hi
    have hpath := h.creator q i hq hi
    rw [hfree] at hpath
    simp at hpath

theorem Guarded.removeStale (h : w.Guarded) {owner : Nat} {file : LockFile}
    (halive : (w.process p).alive = true) (hphase : (w.process p).phase = .removeStale owner)
    (hpath : w.path = some file) (hread : file.pid = some owner) :
    (({ w with path := none } : LockWorld).goto p .createExclusive).Guarded := by
  have hdead := h.stale p owner halive hphase
  refine Guarded.goto (h.unlink ?_ ?_) (by simp) (by simp) (by simp)
  · intro q hq
    obtain ⟨i, hi⟩ := h.holder q hq
    rw [hpath] at hi
    -- the file names the dead owner, so it is not the file of a living holder
    simp at hi
    rw [hi] at hread
    simp at hread
    rw [← hread, hq.1] at hdead
    simp at hdead
  · intro q i hq hi
    have hempty := h.creator q i hq hi
    rw [hpath] at hempty
    simp at hempty
    rw [hempty] at hread
    simp at hread

theorem Guarded.createExclusive (h : w.Guarded) (hfree : w.path = none) :
    (({ w with
        path := some ⟨w.nextInode, none⟩, nextInode := w.nextInode + 1 } : LockWorld).goto p
      (.writePid w.nextInode)).Guarded := by
  obtain ⟨hheld, hcreator⟩ := h.of_free hfree
  -- the process that created the file is the only one that writes
  have hwriter : ∀ q i, ((({ w with
        path := some ⟨w.nextInode, none⟩, nextInode := w.nextInode + 1 } : LockWorld).goto p
      (.writePid w.nextInode)).process q).alive = true →
      ((({ w with
        path := some ⟨w.nextInode, none⟩, nextInode := w.nextInode + 1 } : LockWorld).goto p
      (.writePid w.nextInode)).process q).phase = .writePid i → q = p ∧ i = w.nextInode := by
    intro q i hq hi
    by_cases hp : q = p
    · subst hp
      simp at hi
      exact ⟨rfl, hi.symm⟩
    · rw [goto_other _ hp] at hq hi
      exact absurd hi (hcreator q i hq)
  constructor
  · intro q hq
    by_cases hp : q = p
    · subst hp
      simp at hq
      exact h.positive q hq
    · rw [goto_other _ hp] at hq
      exact h.positive q hq
  · intro q hq
    refine absurd ?_ (hheld q)
    by_cases hp : q = p
    · subst hp
      simpa [Holds] using hq
    · unfold Holds at hq ⊢
      rw [goto_other _ hp] at hq
      exact hq
  · intro q i hq hi
    obtain ⟨_, rfl⟩ := hwriter q i hq hi
    rfl
  · intro q r i j hq hr hi hj
    rw [(hwriter q i hq hi).1, (hwriter r j hr hj).1]
  · intro q owner hq howner
    have hold : (w.process owner).alive = false := by
      by_cases hp : q = p
      · subst hp
        simp at howner
      · rw [goto_other _ hp] at hq howner
        exact h.stale q owner hq howner
    by_cases ho : owner = p
    · subst ho
      simpa using hold
    · rw [goto_other _ ho]
      exact hold
  · intro q hq hreleasing
    by_cases hp : q = p
    · subst hp
      simp at hreleasing
    · rw [goto_other _ hp] at hq hreleasing ⊢
      exact h.releasing q hq hreleasing

theorem Guarded.writePid (h : w.Guarded) {inode : Nat} (halive : (w.process p).alive = true)
    (hphase : (w.process p).phase = .writePid inode) :
    (({ w with
        path := w.path.map fun (file : LockFile) =>
          if file.inode = inode then { file with pid := some p } else file } : LockWorld).finish
      p true).Guarded := by
  have hpath := h.creator p inode halive hphase
  have hnew : (w.path.map fun (file : LockFile) =>
      if file.inode = inode then { file with pid := some p } else file) =
      some ⟨inode, some p⟩ := by
    simp [hpath]
  rw [hnew]
  -- the empty file was that of `p`, so no other process held or wrote it
  have hheld : ∀ q, ¬w.Holds q := by
    intro q hq
    obtain ⟨i, hi⟩ := h.holder q hq
    rw [hpath] at hi
    simp at hi
  constructor
  · intro q hq
    by_cases hp : q = p
    · subst hp
      exact h.positive q halive
    · rw [finish_other _ hp] at hq
      exact h.positive q hq
  · intro q hq
    by_cases hp : q = p
    · subst hp
      exact ⟨inode, rfl⟩
    · unfold Holds at hq
      rw [finish_other _ hp] at hq
      exact absurd hq (hheld q)
  · intro q i hq hi
    by_cases hp : q = p
    · subst hp
      simp at hi
    · rw [finish_other _ hp] at hq hi
      exact absurd (h.oneCreator q p i inode hq halive hi hphase) hp
  · intro q r i j hq hr hi hj
    by_cases hp : q = p
    · subst hp
      simp at hi
    · rw [finish_other _ hp] at hq hi
      exact absurd (h.oneCreator q p i inode hq halive hi hphase) hp
  · intro q owner hq howner
    have hold : (w.process owner).alive = false := by
      by_cases hp : q = p
      · subst hp
        simp at howner
      · rw [finish_other _ hp] at hq howner
        exact h.stale q owner hq howner
    by_cases ho : owner = p
    · subst ho
      simpa using hold
    · rw [finish_other _ ho]
      exact hold
  · intro q hq hreleasing
    by_cases hp : q = p
    · subst hp
      simp at hreleasing
    · rw [finish_other _ hp] at hq hreleasing ⊢
      exact h.releasing q hq hreleasing

theorem Guarded.releaseRemove (h : w.Guarded) (halive : (w.process p).alive = true)
    (hphase : (w.process p).phase = .releaseRemove) :
    (({ w with path := none } : LockWorld).finish p false).Guarded := by
  have hacquired := h.releasing p halive (Or.inr hphase)
  have hown := h.holder p ⟨halive, hacquired⟩
  show ({ w.finish p false with path := none } : LockWorld).Guarded
  refine h.finish_false.unlink ?_ ?_
  · intro q hq
    by_cases hp : q = p
    · subst hp
      simp [Holds] at hq
    · unfold Holds at hq
      rw [finish_other _ hp] at hq
      exact hp (h.exclusive q p hq ⟨halive, hacquired⟩)
  · intro q i hq hi
    by_cases hp : q = p
    · subst hp
      simp at hi
    · rw [finish_other _ hp] at hq hi
      obtain ⟨j, hj⟩ := hown
      have hempty := h.creator q i hq hi
      rw [hj] at hempty
      simp at hempty

theorem Guarded.die (h : w.Guarded) :
    ({ w with
      process := Function.update w.process p
        { w.process p with alive := false } } : LockWorld).Guarded := by
  have hsame : ∀ q, (Function.update w.process p { w.process p with alive := false } q).alive =
      true → Function.update w.process p { w.process p with alive := false } q =
        w.process q := by
    intro q hq
    by_cases hp : q = p
    · subst hp
      simp at hq
    · exact Function.update_of_ne hp ..
  constructor
  · intro q hq
    exact h.positive q (hsame q hq ▸ hq)
  · intro q hq
    exact h.holder q ⟨hsame q hq.1 ▸ hq.1, hsame q hq.1 ▸ hq.2⟩
  · intro q i hq hi
    exact h.creator q i (hsame q hq ▸ hq) (hsame q hq ▸ hi)
  · intro q r i j hq hr hi hj
    exact h.oneCreator q r i j (hsame q hq ▸ hq) (hsame r hr ▸ hr) (hsame q hq ▸ hi)
      (hsame r hr ▸ hj)
  · intro q owner hq howner
    have hdead := h.stale q owner (hsame q hq ▸ hq) (hsame q hq ▸ howner)
    by_cases ho : owner = p
    · subst ho
      simp
    · simpa [Function.update_of_ne ho] using hdead
  · intro q hq hreleasing
    have hold := h.releasing q (hsame q hq ▸ hq) (hsame q hq ▸ hreleasing)
    rw [← hsame q hq] at hold
    exact hold

theorem Guarded.operation (h : w.Guarded) (halive : (w.process p).alive = true)
    (hread : w.RemovesWhatItRead (.advance p)) : (w.operation p).Guarded := by
  unfold LockWorld.operation
  cases hphase : (w.process p).phase with
  | idle => exact h
  | pathExists =>
      cases hpath : w.path with
      | none => exact h.goto (by simp) (by simp) (by simp)
      | some file => exact h.goto (by simp) (by simp) (by simp)
  | isFile =>
      cases hpath : w.path with
      | none => exact h.raises
      | some file => exact h.goto (by simp) (by simp) (by simp)
  | readText =>
      cases hpath : w.path with
      | none => exact h.raises
      | some file =>
          obtain ⟨inode, pid⟩ := file
          cases pid with
          | none => exact h.raises
          | some owner => exact h.goto (by simp) (by simp) (by simp)
  | pidAlive owner =>
      by_cases howner : w.pidAlive owner = true
      · simp only [howner, if_true]
        exact h.raises
      · simp only [howner, if_false, Bool.false_eq_true]
        refine h.goto (by simp) ?_ (by simp)
        intro other hother
        simp only [LockPhase.removeStale.injEq] at hother
        subst hother
        by_contra hliving
        have hliving : (w.process owner).alive = true := by simpa using hliving
        simp [LockWorld.pidAlive, hliving, h.positive owner hliving] at howner
  | removeStale owner =>
      cases hpath : w.path with
      | none => exact h.raises
      | some file =>
          simp only [RemovesWhatItRead, hphase, hpath] at hread
          exact h.removeStale halive hphase hpath (hread halive)
  | createExclusive =>
      cases hpath : w.path with
      | none => exact h.createExclusive hpath
      | some file => exact h.raises
  | writePid inode => exact h.writePid halive hphase
  | releaseIsFile =>
      cases hpath : w.path with
      | none => exact h.finish_false
      | some file =>
          exact h.goto (by simp) (by simp) fun _ => h.releasing p halive (Or.inl hphase)
  | releaseRemove =>
      cases hpath : w.path with
      | none => exact h.raises
      | some file => exact h.releaseRemove halive hphase

/-- **Step.** An event that removes no file but the one it read keeps the
invariant. -/
theorem Guarded.step (h : w.Guarded) (event : LockEvent) (hread : w.RemovesWhatItRead event) :
    (w.step event).Guarded := by
  cases event with
  | acquire p =>
      simp only [LockWorld.step, enter]
      split
      · exact h.goto (by simp) (by simp) (by simp)
      · exact h
  | release p =>
      simp only [LockWorld.step, enter]
      split
      · split
        · exact h.goto (by simp) (by simp) fun _ => by assumption
        · exact h.finish_false
      · exact h
  | advance p =>
      simp only [LockWorld.step]
      split
      · exact h.operation (by assumption) hread
      · exact h
  | die p => exact h.die

end Steps

/-- **The lock excludes.** From a free name or the lock of a dead pid, in every
interleaving in which no takeover removes another file than the one it read, at
most one living process holds the lock. -/
theorem lock_excludes {w : LockWorld} (hw : w.Initial) {events : List LockEvent}
    (hread : Library.MeetsAlong step RemovesWhatItRead w events) :
    (Library.after step w events).Exclusive :=
  (Library.invariant_after (fun _ event hguarded hevent => hguarded.step event hevent)
    hw.guarded hread).exclusive

section Sample

/-- Two living processes and the lock file that pid 7 left when it died. -/
def staleLeft : LockWorld where
  path := some ⟨0, some 7⟩
  nextInode := 1
  process p := { alive := p == 1 || p == 2, acquired := false, phase := .idle }

theorem staleLeft_initial : staleLeft.Initial := by
  constructor
  · intro p
    exact ⟨rfl, rfl⟩
  · intro p hp
    simp [staleLeft] at hp
    omega
  · intro file hfile pid hpid
    simp [staleLeft] at hfile
    subst hfile
    simp at hpid
    subst hpid
    rfl

/-- One process takes the stale lock over, releases it and the other acquires it. -/
def takenInTurn : List LockEvent :=
  .acquire 1 :: List.replicate 7 (.advance 1) ++ .release 1 :: List.replicate 2 (.advance 1) ++
    .acquire 2 :: List.replicate 3 (.advance 2)

/-- The other process takes the lock over between the check of the dead pid and
the removal. -/
def takenTwice : List LockEvent :=
  .acquire 1 :: List.replicate 4 (.advance 1) ++ .acquire 2 :: List.replicate 7 (.advance 2) ++
    List.replicate 3 (.advance 1)

/-- The takeovers of `takenInTurn` remove what they read, and the second process
holds the lock alone. -/
theorem lock_excludes_in_turn :
    (Library.after step staleLeft takenInTurn).Holds 2 ∧
      (Library.after step staleLeft takenInTurn).Exclusive :=
  ⟨⟨by decide, by decide⟩, lock_excludes staleLeft_initial (by decide)⟩

/-- Two living processes hold the lock at once. -/
theorem lock_taken_twice :
    staleLeft.Initial ∧ ¬(Library.after step staleLeft takenTwice).Exclusive := by
  refine ⟨staleLeft_initial, fun hexclusive => ?_⟩
  have hsame : (1 : Nat) = 2 :=
    hexclusive 1 2 ⟨by decide, by decide⟩ ⟨by decide, by decide⟩
  simp at hsame

end Sample

end LockWorld
end FxStrategyLab.G075
