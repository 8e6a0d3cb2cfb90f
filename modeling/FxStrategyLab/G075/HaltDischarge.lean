import FxStrategyLab.Library.Files
import FxStrategyLab.Session.Risk

/-!
# The discharge of a halt

This file embeds `discharge_halt` of `h11_v4_halt_discharge.py` and the scan
`require_g075_no_unresolved_halt` of `h11_v4_g075_runtime.py`.  A file is found by its
generation and its name, and a JSON object stands by its canonical text.  Each change of a
file meets its fate; the write of the archive is three changes, since it empties the file,
writes a part of the text and completes it.

**Results.** `discharge_refused` and `discharge_accepted` give the two courses of a call, and
`halt_kept_iff` says when a call loses no halt: a failure behind the rename must not come
before the archive is complete.
-/

namespace FxStrategyLab.HaltDischarge

open Library
open Session (nonBlank)

/-- The place of a file: the digest of its generation root and its name. -/
structure HaltPath where
  generation : Digest
  name : List Char
deriving DecidableEq

inductive FileContent
  /-- a JSON object, fields in key order -/
  | object (fields : CanonicalText)
  /-- the text of a JSON object, cut short -/
  | cut (fields : CanonicalText)
  /-- a text that is no JSON object -/
  | unreadable
deriving DecidableEq

/-- What a name stands for. -/
inductive Entry
  | file (content : FileContent)
  | symlink
  | directory
deriving DecidableEq

abbrev Files := List (HaltPath × Entry)

namespace Files

def entry (files : Files) (path : HaltPath) : Option Entry :=
  files.lookup path

def erase (files : Files) (path : HaltPath) : Files :=
  files.filter fun item => item.1 ≠ path

def set (files : Files) (path : HaltPath) (content : FileContent) : Files :=
  (path, .file content) :: files.erase path

end Files

/-- A repository, with the fates of the changes to come. -/
structure Repository where
  files : Files
  fates : List WriteFate := []

/-- What a call raises. -/
inductive DischargeError
  | label (text : String)
  | osError
  | overflow

abbrev Operation := Process Repository DischargeError

/-- Change the files, unless the fate of the change prevents it. -/
def act (change : Files → Files) : Operation Unit :=
  fun repository =>
    let changed := change repository.files
    match repository.fates with
    | [] => (.returned (), { repository with files := changed })
    | .succeeds :: fates => (.returned (), ⟨changed, fates⟩)
    | .fails :: fates => (.raised .osError, ⟨repository.files, fates⟩)
    | .failsBehind :: fates => (.raised .osError, ⟨changed, fates⟩)
    | .crashes :: fates => (.killed, ⟨repository.files, fates⟩)
    | .crashesBehind :: fates => (.killed, ⟨changed, fates⟩)

/-- The clock of a call: whether it has a timezone, its `strftime`, and the text of its UTC
time, whose computation may overflow. -/
structure Clock where
  aware : Bool
  stamp : List Char
  isoformat : Option String

/-- The arguments of `discharge_halt`. -/
structure DischargeCall where
  generationDigest : Digest
  haltFileName : List Char
  resolution : CanonicalText
  now : Clock

/-- Source `V4_HALT_DISCHARGE_REQUIRED_RESOLUTION_KEYS`. -/
def requiredResolutionKeys : List String :=
  ["operator", "reason", "broker_state_confirmation", "halt_content_sha256"]

def haltSuffix : List Char :=
  "-persistent-halt.json".toList

/-- A full match of `_HALT_FILE_NAME`. -/
def isHaltFileName (name : List Char) : Bool :=
  decide (name.take 1 = ['g']) && decide (((name.drop 1).take 3).length = 3) &&
    ((name.drop 1).take 3).all Char.isDigit && decide (name.drop 4 = haltSuffix)

def filledText (resolution : CanonicalText) (key : String) : Option String :=
  match resolution.lookup key with
  | some (.text value) => if nonBlank value then some value else none
  | _ => none

namespace DischargeCall

variable (call : DischargeCall)

def haltPath : HaltPath :=
  { generation := call.generationDigest, name := call.haltFileName }

/-- The archive of a name that `_HALT_FILE_NAME` matches. -/
def archivePath : HaltPath where
  generation := call.generationDigest
  name := call.haltFileName.take 4 ++ "-halt-discharged.".toList ++ call.now.stamp ++
    ".json".toList

def recordedResolution : CanonicalText :=
  ["broker_state_confirmation", "halt_content_sha256", "operator", "reason"].map fun key =>
    ("resolution." ++ key, (call.resolution.lookup key).getD .null)

/-- What the digest of the archive is over. -/
def dischargeFields (original : CanonicalText) (isoformat : String) :
    CanonicalText :=
  ("discharged_at_utc", .text isoformat) ::
    (original.map fun field => ("original." ++ field.1, field.2)) ++ call.recordedResolution

def payload (sha : Sha256) (call : DischargeCall) (original : CanonicalText)
    (isoformat : String) : CanonicalText :=
  ("archive_sha256", .digest (sha.prefixed (call.dischargeFields original isoformat))) ::
    call.dischargeFields original isoformat ++
      [("schema", .text "H11_V4_HALT_DISCHARGE_ARCHIVE_V1")]

end DischargeCall

/-- Source `V4HaltDischargeError`. -/
def dischargeError (label : String) : DischargeError :=
  .label ("V4_HALT_DISCHARGE_" ++ label)

def writeText (path : HaltPath) (fields : CanonicalText) : Operation Unit := do
  -- opening the file empties it
  act fun files => files.set path (.cut fields)
  act fun files => files.set path (.cut fields)
  act fun files => files.set path (.object fields)

def replace (source target : HaltPath) (content : FileContent) : Operation Unit :=
  act fun files => (files.erase source).set target content

/-- The halt file of a call, as `discharge_halt` reads it. -/
def readHalt (call : DischargeCall) : Operation CanonicalText := do
  match ← Process.gets fun repository => repository.files.entry call.haltPath with
  | some (.file (.object original)) => pure original
  | some (.file _) => Process.raise (dischargeError "TARGET_INVALID")
  | _ => Process.raise (dischargeError "TARGET_MISSING")

/-- The part of `discharge_halt` that changes files. -/
def archive (sha : Sha256) (call : DischargeCall) (original : CanonicalText) :
    Operation HaltPath := do
  replace call.haltPath call.archivePath (.object original)
  match call.now.isoformat with
  | none => Process.raise .overflow
  | some isoformat =>
      writeText call.archivePath (call.payload sha original isoformat)
      return call.archivePath

/-- The checks of `discharge_halt`, which end with the payload of the halt. -/
def checkedHalt (sha : Sha256) (call : DischargeCall) : Operation CanonicalText := do
  Process.require (call.now.aware = true) (dischargeError "CLOCK_INVALID")
  Process.require (isHaltFileName call.haltFileName = true) (dischargeError "TARGET_INVALID")
  Process.require (∀ key ∈ requiredResolutionKeys, (filledText call.resolution key).isSome)
    (dischargeError "RESOLUTION_INCOMPLETE")
  Process.require (validDigest call.generationDigest = true)
    (.label "V4_RUNTIME_GENERATION_DIGEST_INVALID")
  let original ← readHalt call
  let actual := sha.prefixed original
  Process.require
    (((filledText call.resolution "halt_content_sha256").any fun confirmed =>
      validDigest confirmed.toList && decide (confirmed.toList = actual)) = true)
    (dischargeError "SHA256_MISMATCH")
  let present ← Process.gets fun repository => repository.files.entry call.archivePath
  Process.require (present = none) (dischargeError "ARCHIVE_EXISTS_NO_RETRY")
  return original

def dischargeHalt (sha : Sha256) (call : DischargeCall) : Operation HaltPath := do
  let original ← checkedHalt sha call
  archive sha call original

/-- The glob `g0*-persistent-halt.json`. -/
def matchesScan (name : List Char) : Bool :=
  decide (name.take 2 = "g0".toList) && haltSuffix.isSuffixOf (name.drop 2)

def haltFound (files : Files) (generation : Digest) : Bool :=
  files.any fun item => decide (item.1.generation = generation) && matchesScan item.1.name

/-- Source `require_g075_no_unresolved_halt`: its label, if it refuses. -/
def requireNoUnresolvedHalt (files : Files) : Except String Unit :=
  if files.any fun item => matchesScan item.1.name then .error "G075_UNRESOLVED_HALT_PRESENT"
  else .ok ()

section Entries

variable {files : Files} {path other : HaltPath} {content : FileContent}

@[simp]
theorem entry_set : (files.set path content).entry path = some (.file content) := by
  simp [Files.entry, Files.set, List.lookup]

theorem entry_erase : (files.erase path).entry path = none := by
  simp only [Files.entry, List.lookup_eq_none_iff]
  intro item hitem
  have hne := of_decide_eq_true (List.mem_filter.mp hitem).2
  simpa using fun h => hne h.symm

theorem entry_erase_ne (h : other ≠ path) :
    (files.erase path).entry other = files.entry other := by
  induction files with
  | nil => rfl
  | cons item files ih =>
      obtain ⟨place, held⟩ := item
      simp only [Files.entry, Files.erase, ne_eq, decide_not] at ih ⊢
      by_cases hplace : place = path
      · have hother : (other == place) = false := by simp [hplace, h]
        rw [List.filter_cons_of_neg (by simp [hplace]), List.lookup_cons, hother, ih]
      · by_cases heq : other = place
        · simp [List.filter_cons, hplace, List.lookup_cons, heq]
        · have hne : (other == place) = false := by simp [heq]
          simp [List.filter_cons, hplace, List.lookup_cons, hne, ih]

theorem entry_set_ne (h : other ≠ path) :
    (files.set path content).entry other = files.entry other := by
  have hne : (other == path) = false := by simp [h]
  have hset : (files.set path content).entry other = (files.erase path).entry other := by
    simp [Files.entry, Files.set, List.lookup_cons, hne]
  rw [hset, entry_erase_ne h]

theorem haltFound_iff {generation : Digest} : haltFound files generation = true ↔
    ∃ name, matchesScan name = true ∧ (files.entry ⟨generation, name⟩).isSome := by
  simp only [haltFound, List.any_eq_true, Bool.and_eq_true, decide_eq_true_eq]
  constructor
  · rintro ⟨⟨⟨root, name⟩, held⟩, hmem, rfl, hname⟩
    refine ⟨name, hname, ?_⟩
    by_contra hnone
    rw [Option.not_isSome_iff_eq_none, Files.entry, List.lookup_eq_none_iff] at hnone
    simpa using hnone _ hmem
  · rintro ⟨name, hname, hentry⟩
    obtain ⟨held, hheld⟩ := Option.isSome_iff_exists.mp hentry
    obtain ⟨before, after, hsplit, -⟩ := List.lookup_eq_some_iff.mp hheld
    exact ⟨(⟨generation, name⟩, held), by rw [hsplit]; simp, rfl, hname⟩

end Entries

section Courses

variable {sha : Sha256} {call : DischargeCall} {repository : Repository}
  {original : CanonicalText}

/-- The checks that a call passes before it changes a file. -/
structure Accepted (sha : Sha256) (call : DischargeCall) (files : Files)
    (original : CanonicalText) : Prop where
  clock : call.now.aware = true
  name : isHaltFileName call.haltFileName = true
  resolution : ∀ key ∈ requiredResolutionKeys, (filledText call.resolution key).isSome
  generation : validDigest call.generationDigest = true
  halt : files.entry call.haltPath = some (.file (.object original))
  confirmed : ((filledText call.resolution "halt_content_sha256").any fun confirmed =>
    validDigest confirmed.toList && decide (confirmed.toList = sha.prefixed original)) = true
  fresh : files.entry call.archivePath = none

theorem readHalt_within {F : Frame Repository} : Within F (readHalt call) := by
  refine (Within.gets _).bind fun held => ?_
  split
  · exact Within.pure _
  · exact Within.raise _
  · exact Within.raise _

theorem readHalt_returned {after : Repository} :
    (readHalt call).run repository = (.returned original, after) ↔
      repository.files.entry call.haltPath = some (.file (.object original)) ∧
        repository = after := by
  unfold readHalt
  rw [Process.run_gets_bind]
  split
  · rename_i fields hentry
    rw [hentry]
    simp
  · rename_i content hcontent hentry
    rw [hentry]
    simpa using fun h : content = .object original => absurd h (hcontent original)
  · rename_i hother hnone
    simpa using fun h : repository.files.entry call.haltPath = some (.file (.object original)) =>
      absurd h (hother original)

theorem checkedHalt_within {F : Frame Repository} : Within F (checkedHalt sha call) := by
  refine Within.require_bind fun _ => Within.require_bind fun _ => Within.require_bind fun _ =>
    Within.require_bind fun _ => readHalt_within.bind fun original => ?_
  exact Within.require_bind fun _ => (Within.gets _).bind fun present =>
    Within.require_bind fun _ => Within.pure _

theorem checkedHalt_returned {after : Repository} :
    (checkedHalt sha call).run repository = (.returned original, after) ↔
      Accepted sha call repository.files original ∧ repository = after := by
  unfold checkedHalt
  rw [Process.run_require_bind_eq_returned, Process.run_require_bind_eq_returned,
    Process.run_require_bind_eq_returned, Process.run_require_bind_eq_returned,
    Process.run_bind_eq_returned]
  constructor
  · rintro ⟨hclock, hname, hresolution, hgeneration, held, middle, hread, hrest⟩
    obtain ⟨hhalt, rfl⟩ := readHalt_returned.mp hread
    obtain ⟨hconfirmed, hrest⟩ := Process.run_require_bind_eq_returned.mp hrest
    rw [Process.run_gets_bind] at hrest
    obtain ⟨hfresh, hend⟩ := Process.run_require_bind_eq_returned.mp hrest
    cases hend
    exact ⟨⟨hclock, hname, hresolution, hgeneration, hhalt, hconfirmed, hfresh⟩, rfl⟩
  · rintro ⟨⟨hclock, hname, hresolution, hgeneration, hhalt, hconfirmed, hfresh⟩, rfl⟩
    refine ⟨hclock, hname, hresolution, hgeneration, original, repository,
      readHalt_returned.mpr ⟨hhalt, rfl⟩, ?_⟩
    rw [Process.run_require_bind hconfirmed, Process.run_gets_bind,
      Process.run_require_bind hfresh]
    rfl

theorem discharge_refused (h : ∀ original, ¬ Accepted sha call repository.files original) :
    ((dischargeHalt sha call).run repository).2 = repository := by
  unfold dischargeHalt
  have hreturned : ∀ original after,
      (checkedHalt sha call).run repository ≠ (.returned original, after) :=
    fun original after heq => h original (checkedHalt_returned.mp heq).1
  rw [Process.run_bind_not_returned hreturned]
  exact @checkedHalt_within sha call (Frame.fixes id) repository

theorem discharge_accepted (h : Accepted sha call repository.files original) :
    (dischargeHalt sha call).run repository = (archive sha call original).run repository :=
  Process.run_bind_returned (checkedHalt_returned.mpr ⟨h, rfl⟩) _

def fateAt (fates : List WriteFate) (n : Nat) : WriteFate :=
  fates.getD n .succeeds

def TakesEffect (fate : WriteFate) : Prop :=
  fate = .succeeds ∨ fate = .failsBehind ∨ fate = .crashesBehind
deriving Decidable

/-- The call completes the archive: nothing befalls it between the rename and the end of the
write. -/
def CompletesArchive (call : DischargeCall) (fates : List WriteFate) : Prop :=
  fateAt fates 0 = .succeeds ∧ call.now.isoformat.isSome ∧ fateAt fates 1 = .succeeds ∧
    fateAt fates 2 = .succeeds ∧ TakesEffect (fateAt fates 3)
deriving Decidable

theorem fateAt_tail (fates : List WriteFate) (n : Nat) :
    fateAt fates.tail n = fateAt fates (n + 1) := by
  cases fates <;> simp [fateAt]

theorem act_succeeds {change : Files → Files} (h : fateAt repository.fates 0 = .succeeds) :
    (act change).run repository =
      (.returned (), ⟨change repository.files, repository.fates.tail⟩) := by
  obtain ⟨files, fates⟩ := repository
  cases fates with
  | nil => rfl
  | cons fate fates =>
      have hfate : fate = .succeeds := h
      rw [hfate]
      rfl

theorem act_ends {change : Files → Files} (h : fateAt repository.fates 0 ≠ .succeeds)
    {α : Type} (next : Unit → Operation α) :
    ((act change >>= next).run repository).2.files =
      if TakesEffect (fateAt repository.fates 0) then change repository.files
      else repository.files := by
  obtain ⟨files, fates⟩ := repository
  cases fates with
  | nil => exact absurd rfl h
  | cons fate fates =>
      cases fate with
      | succeeds => exact absurd rfl h
      | fails => rfl
      | failsBehind => rfl
      | crashes => rfl
      | crashesBehind => rfl

theorem act_last (change : Files → Files) :
    ((act change).run repository).2.files =
      if TakesEffect (fateAt repository.fates 0) then change repository.files
      else repository.files := by
  obtain ⟨files, fates⟩ := repository
  cases fates with
  | nil => rfl
  | cons fate fates => cases fate <;> rfl

/-- The halt has been moved to its archive, which holds a content. -/
structure Moved (call : DischargeCall) (before after : Files) (content : FileContent) :
    Prop where
  halt : after.entry call.haltPath = none
  archive : after.entry call.archivePath = some (.file content)
  other : ∀ path, path ≠ call.haltPath → path ≠ call.archivePath →
    after.entry path = before.entry path

theorem Accepted.paths_ne {files : Files} (h : Accepted sha call files original) :
    call.haltPath ≠ call.archivePath := by
  intro heq
  have hfresh := h.fresh
  rw [← heq, h.halt] at hfresh
  cases hfresh

theorem moved_replace {files : Files} (hne : call.haltPath ≠ call.archivePath)
    (content : FileContent) :
    Moved call files ((files.erase call.haltPath).set call.archivePath content) content where
  halt := by rw [entry_set_ne hne, entry_erase]
  archive := entry_set
  other path hhalt harchive := by rw [entry_set_ne harchive, entry_erase_ne hhalt]

theorem Moved.set {before after : Files} {content : FileContent}
    (h : Moved call before after content) (hne : call.haltPath ≠ call.archivePath)
    (written : FileContent) : Moved call before (after.set call.archivePath written) written where
  halt := by rw [entry_set_ne hne, h.halt]
  archive := entry_set
  other path hhalt harchive := by rw [entry_set_ne harchive, h.other path hhalt harchive]

theorem writeText_moved {fields : CanonicalText} {content : FileContent} {before : Files}
    (hmoved : Moved call before repository.files content)
    (hne : call.haltPath ≠ call.archivePath) :
    ∃ written,
      Moved call before ((writeText call.archivePath fields).run repository).2.files written ∧
        (if fateAt repository.fates 0 = .succeeds ∧ fateAt repository.fates 1 = .succeeds ∧
            TakesEffect (fateAt repository.fates 2)
          then written = .object fields else written = content ∨ written = .cut fields) := by
  unfold writeText
  by_cases hopened : fateAt repository.fates 0 = .succeeds
  swap
  · rw [act_ends hopened]
    simp only [hopened, false_and, if_false]
    split_ifs
    · exact ⟨_, hmoved.set hne _, Or.inr rfl⟩
    · exact ⟨_, hmoved, Or.inl rfl⟩
  rw [Process.run_bind_returned (act_succeeds hopened)]
  have hcut := hmoved.set hne (.cut fields)
  by_cases hpart : fateAt repository.fates 1 = .succeeds
  swap
  · have hpart' : fateAt repository.fates.tail 0 ≠ .succeeds := by
      rwa [fateAt_tail]
    rw [act_ends hpart']
    simp only [hpart, false_and, and_false, if_false]
    split_ifs
    · exact ⟨_, hcut.set hne _, Or.inr rfl⟩
    · exact ⟨_, hcut, Or.inr rfl⟩
  have hpart' : fateAt repository.fates.tail 0 = .succeeds := by
    rwa [fateAt_tail]
  rw [Process.run_bind_returned (act_succeeds hpart'), act_last]
  have hlast : fateAt repository.fates.tail.tail 0 = fateAt repository.fates 2 := by
    rw [fateAt_tail, fateAt_tail]
  simp only [hopened, hpart, hlast, true_and]
  split_ifs
  · exact ⟨_, (hcut.set hne _).set hne _, rfl⟩
  · exact ⟨_, hcut.set hne _, Or.inr rfl⟩

/-- **The changes of a call.** Unless the rename has no effect, the halt is moved, and the
archive holds the record if the call completes it. -/
theorem archive_moved {files : Files} (hne : call.haltPath ≠ call.archivePath)
    (hfiles : repository.files = files) :
    let after := ((archive sha call original).run repository).2.files
    if TakesEffect (fateAt repository.fates 0) then
      ∃ content, Moved call files after content ∧
        (if CompletesArchive call repository.fates then
          ∃ isoformat, content = .object (call.payload sha original isoformat)
        else content = .object original ∨ ∃ fields, content = .cut fields)
    else after = files := by
  subst hfiles
  unfold archive replace
  by_cases hrenamed : fateAt repository.fates 0 = .succeeds
  swap
  · have hnot : ¬ CompletesArchive call repository.fates := fun h => hrenamed h.1
    dsimp only
    rw [act_ends hrenamed]
    simp only [hnot, if_false]
    split_ifs with heffect
    · exact ⟨_, moved_replace hne _, Or.inl rfl⟩
    · rfl
  have heffect : TakesEffect (fateAt repository.fates 0) := Or.inl hrenamed
  dsimp only
  rw [Process.run_bind_returned (act_succeeds hrenamed), if_pos heffect]
  have hmoved := @moved_replace call repository.files hne (.object original)
  cases hiso : call.now.isoformat with
  | none =>
      have hnot : ¬ CompletesArchive call repository.fates := fun h => by
        simpa [hiso] using h.2.1
      simp only [hnot, if_false]
      exact ⟨_, hmoved, Or.inl rfl⟩
  | some isoformat =>
      obtain ⟨written, hwritten, hcontent⟩ :=
        @writeText_moved call
          ⟨(repository.files.erase call.haltPath).set call.archivePath (.object original),
            repository.fates.tail⟩ (call.payload sha original isoformat) _ _ hmoved hne
      simp only [fateAt_tail] at hcontent
      refine ⟨written, ?_, ?_⟩
      · dsimp only
        rw [Process.run_bind_pure]
        exact hwritten
      · simp only [CompletesArchive, hrenamed, hiso, Option.isSome_some, true_and]
        split_ifs at hcontent ⊢
        · exact ⟨isoformat, hcontent⟩
        · exact hcontent.imp_right fun h => ⟨_, h⟩

/-- The archive holds the payload of a halt with the resolution and the digests. -/
def Archived (sha : Sha256) (call : DischargeCall) (original : CanonicalText)
    (files : Files) : Prop :=
  ∃ isoformat, files.entry call.archivePath =
    some (.file (.object (call.payload sha original isoformat)))

/-- A call loses no halt: the halt file still holds what it held, or the archive holds the
complete record; and the scan of a generation stops finding a halt only with this record. -/
structure HaltKept (sha : Sha256) (call : DischargeCall) (before after : Files) : Prop where
  file : ∀ content, before.entry call.haltPath = some (.file content) →
    after.entry call.haltPath = some (.file content) ∨
      ∃ original, content = .object original ∧ Archived sha call original after
  scan : ∀ generation, haltFound before generation = true →
    haltFound after generation = false → generation = call.generationDigest ∧
      ∃ original, before.entry call.haltPath = some (.file (.object original)) ∧
        Archived sha call original after

theorem HaltKept.refl {files : Files} : HaltKept sha call files files where
  file _ h := Or.inl h
  scan _ hbefore hafter := by
    rw [hbefore] at hafter
    cases hafter

theorem payload_ne (isoformat : String) : call.payload sha original isoformat ≠ original := by
  intro h
  have hlength := congrArg List.length h
  simp [DischargeCall.payload, DischargeCall.dischargeFields,
    DischargeCall.recordedResolution] at hlength
  omega

/-- **No halt is lost** by exactly the calls that are refused, whose rename has no effect, or
that complete the archive. -/
theorem halt_kept_iff (sha : Sha256) (call : DischargeCall) (repository : Repository) :
    HaltKept sha call repository.files
        ((dischargeHalt sha call).run repository).2.files ↔
      ((∃ original, Accepted sha call repository.files original) →
        TakesEffect (fateAt repository.fates 0) → CompletesArchive call repository.fates) := by
  by_cases haccepted : ∃ original, Accepted sha call repository.files original
  swap
  · rw [discharge_refused fun original h => haccepted ⟨original, h⟩]
    exact iff_of_true HaltKept.refl fun h => absurd h haccepted
  obtain ⟨original, hchecks⟩ := haccepted
  rw [discharge_accepted hchecks]
  have hmoved := @archive_moved sha call repository original _ hchecks.paths_ne rfl
  by_cases heffect : TakesEffect (fateAt repository.fates 0)
  swap
  · simp only [heffect, if_false] at hmoved
    rw [hmoved]
    exact iff_of_true HaltKept.refl fun _ h => absurd h heffect
  simp only [heffect, if_true] at hmoved
  obtain ⟨content, hmoved, hcontent⟩ := hmoved
  have hcondition : ((∃ original, Accepted sha call repository.files original) →
      TakesEffect (fateAt repository.fates 0) → CompletesArchive call repository.fates) ↔
      CompletesArchive call repository.fates :=
    ⟨fun h => h ⟨original, hchecks⟩ heffect, fun h _ _ => h⟩
  rw [hcondition]
  by_cases hcomplete : CompletesArchive call repository.fates
  · simp only [hcomplete, if_true] at hcontent
    obtain ⟨isoformat, rfl⟩ := hcontent
    have harchived : Archived sha call original
        ((archive sha call original).run repository).2.files := ⟨isoformat, hmoved.archive⟩
    refine iff_of_true ⟨?_, ?_⟩ hcomplete
    · intro held hheld
      rw [hchecks.halt] at hheld
      cases hheld
      exact Or.inr ⟨original, rfl, harchived⟩
    · intro generation hbefore hafter
      refine ⟨?_, original, hchecks.halt, harchived⟩
      obtain ⟨name, hname, hentry⟩ := haltFound_iff.mp hbefore
      by_contra hother
      have hhalt : (⟨generation, name⟩ : HaltPath) ≠ call.haltPath :=
        fun h => hother (congrArg HaltPath.generation h)
      have harchive : (⟨generation, name⟩ : HaltPath) ≠ call.archivePath :=
        fun h => hother (congrArg HaltPath.generation h)
      rw [← hmoved.other _ hhalt harchive] at hentry
      rw [haltFound_iff.mpr ⟨name, hname, hentry⟩] at hafter
      cases hafter
  · simp only [hcomplete, if_false] at hcontent
    refine iff_of_false (fun hkept => ?_) hcomplete
    rcases hkept.file _ hchecks.halt with hhalt | ⟨held, hheld, isoformat, harchive⟩
    · rw [hmoved.halt] at hhalt
      cases hhalt
    · cases hheld
      rw [hmoved.archive] at harchive
      rcases hcontent with rfl | ⟨fields, rfl⟩
      · exact payload_ne isoformat (FileContent.object.inj
          (Entry.file.inj (Option.some.inj harchive))).symm
      · cases harchive

def sampleHalt : CanonicalText :=
  [("actual_post_count", .integer 0), ("broker_write", .boolean false),
    ("reason", .text "G074_INITIAL_TRANSACTION_UNKNOWN"), ("status", .text "HALTED")]

def sampleCall : DischargeCall where
  generationDigest := Sha256.checksum.prefixed []
  haltFileName := "g074-persistent-halt.json".toList
  resolution :=
    [("operator", .text "operator-1"), ("reason", .text "flat confirmed by operator"),
      ("broker_state_confirmation", .text "openPositions=0 and activeOrders=0"),
      ("halt_content_sha256", .text (String.ofList (Sha256.checksum.prefixed sampleHalt)))]
  now :=
    { aware := true
      stamp := "20260806T010203Z".toList
      isoformat := some "2026-08-06T01:02:03+00:00" }

/-- The file is there, cut short. -/
def isCut : Option Entry → Bool
  | some (.file (.cut _)) => true
  | _ => false

/-- The sample halt on a disk that is full when the archive has been opened. -/
def fullDisk : Repository where
  files := [(sampleCall.haltPath, .file (.object sampleHalt))]
  fates := [.succeeds, .succeeds, .fails]

/-- The write of the archive fails behind the rename: the halt is gone, its archive is cut
short, and the scan lets the generation start. -/
theorem full_disk_loses_halt :
    ¬ ∀ sha call repository, HaltKept sha call repository.files
      ((dischargeHalt sha call).run repository).2.files := by
  intro h
  have hkept := h Sha256.checksum sampleCall fullDisk
  have hgone : let after := ((dischargeHalt Sha256.checksum sampleCall).run fullDisk).2.files
      fullDisk.files.entry sampleCall.haltPath = some (.file (.object sampleHalt)) ∧
        after.entry sampleCall.haltPath = none ∧
        isCut (after.entry sampleCall.archivePath) = true ∧
        requireNoUnresolvedHalt after = .ok () := by
    decide +kernel
  obtain ⟨hbefore, hnone, hcut, -⟩ := hgone
  rcases hkept.file _ hbefore with hhalt | ⟨original, -, isoformat, harchive⟩
  · rw [hnone] at hhalt
    cases hhalt
  · rw [harchive] at hcut
    cases hcut

end Courses

end FxStrategyLab.HaltDischarge
