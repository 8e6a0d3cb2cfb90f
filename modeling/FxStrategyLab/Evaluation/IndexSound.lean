import FxStrategyLab.Evaluation.ReportIndex
import FxStrategyLab.Library.Series

/-!
# One broken run and the others

The index is to list one row for each run directory, an error row where the run cannot be
read, in the documented order, and confirmed as read-only only where the flags say so.  The
entry function raises a `TypeError` for warnings without a length and a `RecursionError` for
nested files, the sorts raise for keys of different kinds, and a number passes for a flag.

**Results.** `listed_iff`.
-/

namespace FxStrategyLab.Evaluation

open Library Library.PyOrder

/-- The rows with `created_at` in descending order, then those without, then the error rows. -/
def DocumentedOrder (rows : List ReportIndexRow) : Prop :=
  ∃ created plain errors, rows = created ++ plain ++ errors ∧
    (∀ row ∈ created, row.isCreated = true) ∧ (∀ row ∈ plain, row.isPlain = true) ∧
    (∀ row ∈ errors, row.hasError = true) ∧
    created.Pairwise (fun x y => InOrder true x.createdKey y.createdKey) ∧
    plain.Pairwise (fun x y => InOrder false x.runKey y.runKey) ∧
    errors.Pairwise (fun x y => InOrder false x.runKey y.runKey)

/-- The rows are as documented: one for each run, an error row exactly where the files cannot
be read, in order, and confirmed only where every flag is shown. -/
structure IndexSound (root : ExportsRoot) (rows : List ReportIndexRow) : Prop where
  oneRow : (rows.map ReportIndexRow.directory).Perm ((visibleRuns root).map RunDirectory.name)
  errors : ∀ run ∈ visibleRuns root, ∀ row ∈ rows, row.directory = run.name →
    (row.hasError = true ↔ ¬ ∃ contents, run.read = .ok contents)
  ordered : DocumentedOrder rows
  confirmed : ∀ run ∈ visibleRuns root, ∀ row ∈ rows, row.directory = run.name →
    row.readOnlyConfirmed = true → ∃ contents, run.read = .ok contents ∧
      ∀ flag ∈ safeExpected, FlagShown contents flag.1 flag.2

/-- The key of a run with `created_at`. -/
def createdKeyOf (run : RunDirectory) (contents : RunContents) : Value :=
  .array [get contents.manifest "created_at", orElse (runIdOf run.name contents) (.text "")]

def runKeyOf (run : RunDirectory) (contents : RunContents) : Value :=
  orElse (runIdOf run.name contents) (.text "")

/-- The runs that the index can list: no file is nested too deep, fetched warnings have a
length, no flag is given by a number alone, and the keys are in order with each other. -/
structure Listable (root : ExportsRoot) : Prop where
  shallow : ∀ run ∈ visibleRuns root, run.read ≠ .error .recursionError
  sized : ∀ run ∈ visibleRuns root, ∀ contents, run.read = .ok contents →
    (fetchWarnings contents).length?.isSome = true
  flags : ∀ run ∈ visibleRuns root, ∀ contents, run.read = .ok contents →
    (∀ flag ∈ safeExpected, FlagGiven contents flag.1 flag.2) →
      ∀ flag ∈ safeExpected, FlagShown contents flag.1 flag.2
  created : ∀ run ∈ visibleRuns root, ∀ run' ∈ visibleRuns root, ∀ contents contents',
    run.read = .ok contents → run'.read = .ok contents' →
      (get contents.manifest "created_at").truthy = true →
      (get contents'.manifest "created_at").truthy = true →
        Ordered (createdKeyOf run contents) (createdKeyOf run' contents')
  plain : ∀ run ∈ visibleRuns root, ∀ run' ∈ visibleRuns root, ∀ contents contents',
    run.read = .ok contents → run'.read = .ok contents' →
      (get contents.manifest "created_at").truthy = false →
      (get contents'.manifest "created_at").truthy = false →
        Ordered (runKeyOf run contents) (runKeyOf run' contents')

variable {run : RunDirectory}

theorem read_error {error : IndexError} (h : run.read = .error error) :
    (∃ e, error = .read e) ∨ error = .recursionError := by
  have hfile : ∀ {file : JsonFile} {e : IndexError}, readJsonIfExists file = .error e →
      (∃ e', e = .read e') ∨ e = .recursionError := by
    intro file e he
    unfold readJsonIfExists at he
    split at he <;> cases he
    · exact Or.inl ⟨_, rfl⟩
    · exact Or.inr rfl
  unfold RunDirectory.read at h
  cases hmanifest : readJsonIfExists run.manifest with
  | error e =>
      rw [hmanifest] at h
      cases h
      exact hfile hmanifest
  | ok manifest =>
      rw [hmanifest] at h
      cases hwarnings : readJsonIfExists run.warnings with
      | error e =>
          rw [hwarnings] at h
          cases h
          exact hfile hwarnings
      | ok warnings =>
          rw [hwarnings] at h
          simp only [Except.bind, bind] at h
          split at h
          next =>
            cases h
            exact Or.inl ⟨_, rfl⟩
          next summaryName file _ =>
            cases hsummary : readJsonIfExists file with
            | error e =>
                rw [hsummary] at h
                cases h
                exact hfile hsummary
            | ok summary =>
                rw [hsummary] at h
                cases h
          next =>
            cases h
            exact Or.inl ⟨_, rfl⟩

theorem rowOf_read {contents : RunContents} (h : run.read = .ok contents) :
    rowOf run =
      match entryOf run.name contents with
      | .ok entry => .ok (.normal run.name entry)
      | .error (.read error) => .ok (.error run.name error)
      | .error error => .error error := by
  unfold rowOf reportIndexEntry
  rw [h]
  rfl

theorem rowOf_caught {error : ReadError}
    (h : run.read = .error (.read error)) : rowOf run = .ok (.error run.name error) := by
  unfold rowOf reportIndexEntry
  rw [h]
  rfl

theorem rowOf_tooDeep (h : run.read = .error .recursionError) :
    rowOf run = .error .recursionError := by
  unfold rowOf reportIndexEntry
  rw [h]
  rfl

theorem entryOf_cases (name : String) (contents : RunContents) :
    ((fetchWarnings contents).length? = none ∧ entryOf name contents = .error .typeError) ∨
      ∃ entry, (fetchWarnings contents).length?.isSome = true ∧
        entryOf name contents = .ok entry ∧ entry.runId = runIdOf name contents ∧
        entry.createdAt = get contents.manifest "created_at" := by
  unfold entryOf
  dsimp only
  split
  next hnone => exact Or.inl ⟨hnone, rfl⟩
  next count hcount =>
    refine Or.inr ⟨_, ?_, rfl, rfl, rfl⟩
    rw [hcount]
    rfl

/-- **One run.** A run has a row exactly when its files are not too deep and its fetched
warnings have a length. -/
theorem rowOf_ok_iff (run : RunDirectory) :
    (∃ row, rowOf run = .ok row) ↔
      run.read ≠ .error .recursionError ∧
        ∀ contents, run.read = .ok contents →
          (fetchWarnings contents).length?.isSome = true := by
  cases hread : run.read with
  | error error =>
      rcases read_error hread with ⟨e, rfl⟩ | rfl
      · exact iff_of_true ⟨_, rowOf_caught hread⟩ ⟨by simp, by simp⟩
      · refine iff_of_false ?_ (by simp)
        rw [rowOf_tooDeep hread]
        simp
  | ok contents =>
      rw [rowOf_read hread]
      rcases entryOf_cases run.name contents with ⟨hnone, hentry⟩ | ⟨entry, hsome, hentry, -, -⟩
      · rw [hentry]
        simp [hnone]
      · rw [hentry]
        simp [hsome]

variable {row x y : ReportIndexRow}

theorem rowOf_cases (h : rowOf run = .ok row) :
    ((¬ ∃ contents, run.read = .ok contents) ∧ ∃ error, row = .error run.name error) ∨
      ∃ contents entry, run.read = .ok contents ∧ row = .normal run.name entry ∧
        entryOf run.name contents = .ok entry ∧ entry.runId = runIdOf run.name contents ∧
        entry.createdAt = get contents.manifest "created_at" := by
  cases hread : run.read with
  | error error =>
      left
      refine ⟨by simp, ?_⟩
      rcases read_error hread with ⟨e, rfl⟩ | rfl
      · rw [rowOf_caught hread] at h
        cases Except.ok.inj h
        exact ⟨e, rfl⟩
      · rw [rowOf_tooDeep hread] at h
        cases h
  | ok contents =>
      right
      rw [rowOf_read hread] at h
      rcases entryOf_cases run.name contents with ⟨-, hentry⟩ |
        ⟨entry, -, hentry, hrun, hcreated⟩
      · rw [hentry] at h
        cases h
      · rw [hentry] at h
        cases Except.ok.inj h
        exact ⟨contents, entry, rfl, rfl, hentry, hrun, hcreated⟩

theorem rowOf_directory (h : rowOf run = .ok row) : row.directory = run.name := by
  rcases rowOf_cases h with ⟨-, error, rfl⟩ | ⟨contents, entry, -, rfl, -⟩ <;> rfl

theorem rowOf_hasError (h : rowOf run = .ok row) :
    row.hasError = true ↔ ¬ ∃ contents, run.read = .ok contents := by
  rcases rowOf_cases h with ⟨hnone, error, rfl⟩ | ⟨contents, entry, hread, rfl, -⟩
  · exact iff_of_true rfl hnone
  · refine iff_of_false (by simp [ReportIndexRow.hasError]) ?_
    exact fun hnone => hnone ⟨contents, hread⟩

theorem rowOf_confirmed (h : rowOf run = .ok row) :
    row.readOnlyConfirmed = true ↔ ∃ contents, run.read = .ok contents ∧
      ∀ flag ∈ safeExpected, FlagGiven contents flag.1 flag.2 := by
  rcases rowOf_cases h with ⟨hnone, error, rfl⟩ | ⟨contents, entry, hread, rfl, hentry, -⟩
  · refine iff_of_false (by simp [ReportIndexRow.readOnlyConfirmed]) ?_
    rintro ⟨contents, hread, -⟩
    exact hnone ⟨contents, hread⟩
  · simp only [hread, Except.ok.injEq, exists_eq_left']
    exact confirmed_iff hentry

theorem rowOf_keys (h : rowOf run = .ok row)
    {contents : RunContents} (hread : run.read = .ok contents) :
    row.isCreated = (get contents.manifest "created_at").truthy ∧
      row.isPlain = !(get contents.manifest "created_at").truthy ∧
      row.createdKey = createdKeyOf run contents ∧ row.runKey = runKeyOf run contents := by
  rcases rowOf_cases h with ⟨hnone, -⟩ | ⟨contents', entry, hread', rfl, -, hrun, hcreated⟩
  · exact absurd ⟨contents, hread⟩ hnone
  · rw [hread] at hread'
    cases Except.ok.inj hread'
    simp [ReportIndexRow.isCreated, ReportIndexRow.isPlain, ReportIndexRow.hasError,
      ReportIndexRow.createdAt, ReportIndexRow.createdKey, ReportIndexRow.runKey,
      ReportIndexRow.runId, createdKeyOf, runKeyOf, hrun, hcreated]

theorem kinds_perm (rows : List ReportIndexRow) :
    (rows.filter ReportIndexRow.isCreated ++ rows.filter ReportIndexRow.isPlain ++
      rows.filter ReportIndexRow.hasError).Perm rows := by
  induction rows with
  | nil => exact List.Perm.refl _
  | cons row rows ih =>
      cases herror : row.hasError with
      | true =>
          have hcreated : row.isCreated = false := by simp [ReportIndexRow.isCreated, herror]
          have hplain : row.isPlain = false := by simp [ReportIndexRow.isPlain, herror]
          simp only [List.filter_cons, hcreated, hplain, herror, if_true, Bool.false_eq_true,
            if_false]
          exact List.perm_middle.trans (ih.cons row)
      | false =>
          cases hvalue : row.createdAt.truthy with
          | true =>
              have hcreated : row.isCreated = true := by
                simp [ReportIndexRow.isCreated, herror, hvalue]
              have hplain : row.isPlain = false := by simp [ReportIndexRow.isPlain, hvalue]
              simp only [List.filter_cons, hcreated, hplain, herror, if_true, Bool.false_eq_true,
                if_false]
              exact ih.cons row
          | false =>
              have hcreated : row.isCreated = false := by simp [ReportIndexRow.isCreated, hvalue]
              have hplain : row.isPlain = true := by
                simp [ReportIndexRow.isPlain, herror, hvalue]
              simp only [List.filter_cons, hcreated, hplain, herror, if_true, Bool.false_eq_true,
                if_false, List.append_assoc, List.cons_append]
              rw [List.append_assoc] at ih
              exact List.perm_middle.trans (ih.cons row)

theorem visible_nodup (root : ExportsRoot) :
    ((visibleRuns root).map RunDirectory.name).Nodup := by
  refine List.Nodup.sublist ?_ root.distinct
  unfold visibleRuns
  induction root.children with
  | nil => exact List.Sublist.refl _
  | cons child children ih =>
      cases child with
      | file name => exact ih.cons _
      | directory run =>
          by_cases hhidden : run.name.toList.head? = some '.'
          · simp only [List.filterMap_cons, Child.visible?, hhidden, if_true]
            exact ih.cons _
          · simp only [List.filterMap_cons, Child.visible?, hhidden]
            exact ih.cons_cons _

variable {rows sorted : List ReportIndexRow} {sort : KeySort}

theorem sortRows_ok {key : ReportIndexRow → Value} {reverse : Bool}
    (h : sortRows sort key reverse rows = .ok sorted) : sorted.Perm rows := by
  unfold sortRows at h
  split at h
  next hsorted =>
    cases Except.ok.inj h
    exact sort.perm hsorted
  next => cases h

theorem sortRows_total (sort : KeySort) (key : ReportIndexRow → Value) (reverse : Bool)
    (h : ∀ x ∈ rows, ∀ y ∈ rows, Ordered (key x) (key y)) :
    ∃ sorted, sortRows sort key reverse rows = .ok sorted ∧ sorted.Perm rows ∧
      sorted.Pairwise fun x y => InOrder reverse (key x) (key y) := by
  obtain ⟨sorted, hsorted, hpairwise⟩ := @KeySort.total sort _ key reverse rows h
  refine ⟨sorted, ?_, sort.perm hsorted, hpairwise⟩
  unfold sortRows
  rw [hsorted]

theorem ordered_of_pairwise {key : ReportIndexRow → Value} {reverse : Bool}
    (h : rows.Pairwise fun x y => InOrder reverse (key x) (key y))
    (hx : x ∈ rows) (hy : y ∈ rows) : Ordered (key x) (key y) := by
  have hsame : Ordered (key x) (key x) := ⟨.eq, compare_refl _⟩
  by_cases hxy : x = y
  · rw [← hxy]
    exact hsame
  obtain ⟨i, hi, rfl⟩ := List.mem_iff_getElem.mp hx
  obtain ⟨j, hj, rfl⟩ := List.mem_iff_getElem.mp hy
  have hpairs := List.pairwise_iff_getElem.mp h
  rcases lt_trichotomy i j with hlt | rfl | hlt
  · exact (hpairs i j hi hj hlt).ordered.1
  · exact hsame
  · exact (hpairs j i hj hi hlt).ordered.2

variable {root : ExportsRoot}

theorem index_rows (h : listReportIndex sort (some root) = .ok rows) :
    ∃ entries, (visibleRuns root).mapM rowOf = .ok entries ∧ rows.Perm entries := by
  unfold listReportIndex at h
  obtain ⟨entries, hentries, h⟩ := Series.bind_eq_ok h
  obtain ⟨created, hcreated, h⟩ := Series.bind_eq_ok h
  obtain ⟨plain, hplain, h⟩ := Series.bind_eq_ok h
  obtain ⟨errors, herrors, h⟩ := Series.bind_eq_ok h
  cases Except.ok.inj h
  exact ⟨entries, hentries, (((sortRows_ok hcreated).append (sortRows_ok hplain)).append
    (sortRows_ok herrors)).trans (kinds_perm entries)⟩

section Listed

variable {root : ExportsRoot} {entries : List ReportIndexRow}

theorem directories_eq (h : (visibleRuns root).mapM rowOf = .ok entries) :
    entries.map ReportIndexRow.directory = (visibleRuns root).map RunDirectory.name := by
  have hrel := Series.forall₂_of_mapM h
  clear h
  generalize visibleRuns root = runs at hrel ⊢
  induction hrel with
  | nil => rfl
  | cons hrow _ ih => rw [List.map_cons, List.map_cons, rowOf_directory hrow, ih]

theorem rowOf_of_directory (h : (visibleRuns root).mapM rowOf = .ok entries)
    {run : RunDirectory} (hrun : run ∈ visibleRuns root) {row : ReportIndexRow}
    (hrow : row ∈ entries) (hname : row.directory = run.name) : rowOf run = .ok row := by
  obtain ⟨other, hother, hresult⟩ := Series.entry_of_mapM h hrow
  have hsame : other = run := by
    refine List.inj_on_of_nodup_map (visible_nodup root) hother hrun ?_
    rw [← rowOf_directory hresult, hname]
  rw [← hsame]
  exact hresult

end Listed

theorem DocumentedOrder.parts (h : DocumentedOrder rows) :
    ∃ created plain : List ReportIndexRow,
      (∀ row ∈ rows, row.isCreated = true → row ∈ created) ∧
      (∀ row ∈ rows, row.isPlain = true → row ∈ plain) ∧
      created.Pairwise (fun x y => InOrder true x.createdKey y.createdKey) ∧
      plain.Pairwise (fun x y => InOrder false x.runKey y.runKey) := by
  obtain ⟨created, plain, errors, rfl, hcreated, hplain, herrors, hdown, hup, -⟩ := h
  have hkinds : ∀ row : ReportIndexRow, (row.isCreated = true → row.isPlain = false) ∧
      (row.hasError = true → row.isCreated = false ∧ row.isPlain = false) := by
    intro row
    unfold ReportIndexRow.isCreated ReportIndexRow.isPlain
    cases row.hasError <;> cases row.createdAt.truthy <;> simp
  refine ⟨created, plain, fun row hrow hkind => ?_, fun row hrow hkind => ?_, hdown, hup⟩
  · rcases List.mem_append.mp hrow with hrow | hrow
    · rcases List.mem_append.mp hrow with hrow | hrow
      · exact hrow
      · have hother := (hkinds row).1 hkind
        rw [hplain row hrow] at hother
        cases hother
    · rw [((hkinds row).2 (herrors row hrow)).1] at hkind
      cases hkind
  · rcases List.mem_append.mp hrow with hrow | hrow
    · rcases List.mem_append.mp hrow with hrow | hrow
      · rw [(hkinds row).1 (hcreated row hrow)] at hkind
        cases hkind
      · exact hrow
    · rw [((hkinds row).2 (herrors row hrow)).2] at hkind
      cases hkind

theorem listable_of_sound
    (hlisted : listReportIndex sort (some root) = .ok rows) (hsound : IndexSound root rows) :
    Listable root := by
  obtain ⟨entries, hentries, hperm⟩ := index_rows hlisted
  have hrow : ∀ run ∈ visibleRuns root, ∃ row ∈ rows, rowOf run = .ok row := by
    intro run hrun
    obtain ⟨row, hmem, hresult⟩ := Series.result_of_mapM hentries hrun
    exact ⟨row, hperm.mem_iff.mpr hmem, hresult⟩
  obtain ⟨created, plain, hcreated, hplain, hdown, hup⟩ := hsound.ordered.parts
  constructor
  · intro run hrun
    obtain ⟨row, -, hresult⟩ := hrow run hrun
    exact ((rowOf_ok_iff run).mp ⟨row, hresult⟩).1
  · intro run hrun
    obtain ⟨row, -, hresult⟩ := hrow run hrun
    exact ((rowOf_ok_iff run).mp ⟨row, hresult⟩).2
  · intro run hrun contents hread hgiven
    obtain ⟨row, hmem, hresult⟩ := hrow run hrun
    have hconfirmed := (rowOf_confirmed hresult).mpr ⟨contents, hread, hgiven⟩
    obtain ⟨contents', hread', hshown⟩ :=
      hsound.confirmed run hrun row hmem (rowOf_directory hresult) hconfirmed
    rw [hread] at hread'
    cases Except.ok.inj hread'
    exact hshown
  · intro run hrun run' hrun' contents contents' hread hread' hvalue hvalue'
    obtain ⟨row, hmem, hresult⟩ := hrow run hrun
    obtain ⟨row', hmem', hresult'⟩ := hrow run' hrun'
    obtain ⟨hkind, -, hkey, -⟩ := rowOf_keys hresult hread
    obtain ⟨hkind', -, hkey', -⟩ := rowOf_keys hresult' hread'
    rw [← hkey, ← hkey']
    exact ordered_of_pairwise hdown (hcreated row hmem (hkind.trans hvalue))
      (hcreated row' hmem' (hkind'.trans hvalue'))
  · intro run hrun run' hrun' contents contents' hread hread' hvalue hvalue'
    obtain ⟨row, hmem, hresult⟩ := hrow run hrun
    obtain ⟨row', hmem', hresult'⟩ := hrow run' hrun'
    obtain ⟨-, hkind, -, hkey⟩ := rowOf_keys hresult hread
    obtain ⟨-, hkind', -, hkey'⟩ := rowOf_keys hresult' hread'
    rw [← hkey, ← hkey']
    exact ordered_of_pairwise hup (hplain row hmem (by rw [hkind, hvalue]; rfl))
      (hplain row' hmem' (by rw [hkind', hvalue']; rfl))

theorem read_of_row (h : rowOf run = .ok row)
    (herror : row.hasError = false) : ∃ contents, run.read = .ok contents := by
  by_contra hnone
  rw [(rowOf_hasError h).mpr hnone] at herror
  cases herror

theorem errors_ordered (hx : x.hasError = true) (hy : y.hasError = true) :
    Ordered x.runKey y.runKey := by
  cases x with
  | normal directory entry => cases hx
  | error name error =>
      cases y with
      | normal directory entry => cases hy
      | error name' error' =>
          unfold ReportIndexRow.runKey ReportIndexRow.runId orElse
          split_ifs <;> exact ⟨_, rfl⟩

theorem sound_of_listable (sort : KeySort) (h : Listable root) :
    ∃ rows, listReportIndex sort (some root) = .ok rows ∧ IndexSound root rows := by
  have hall : ∀ run ∈ visibleRuns root, ∃ row, rowOf run = .ok row := fun run hrun =>
    (rowOf_ok_iff run).mpr ⟨h.shallow run hrun, h.sized run hrun⟩
  obtain ⟨entries, hentries⟩ : ∃ entries, (visibleRuns root).mapM rowOf = .ok entries := by
    generalize visibleRuns root = runs at hall
    induction runs with
    | nil => exact ⟨[], rfl⟩
    | cons run runs ih =>
        obtain ⟨row, hrow⟩ := hall run List.mem_cons_self
        obtain ⟨rows, hrows⟩ := ih fun other hother => hall other (List.mem_cons_of_mem _ hother)
        refine ⟨row :: rows, ?_⟩
        rw [List.mapM_cons, hrow, hrows]
        rfl
  have hcreated : ∀ x ∈ entries.filter ReportIndexRow.isCreated,
      ∀ y ∈ entries.filter ReportIndexRow.isCreated, Ordered x.createdKey y.createdKey := by
    intro x hx y hy
    obtain ⟨hx, hkind⟩ := List.mem_filter.mp hx
    obtain ⟨hy, hkind'⟩ := List.mem_filter.mp hy
    obtain ⟨run, hrun, hresult⟩ := Series.entry_of_mapM hentries hx
    obtain ⟨run', hrun', hresult'⟩ := Series.entry_of_mapM hentries hy
    obtain ⟨contents, hread⟩ := read_of_row hresult (by
      unfold ReportIndexRow.isCreated at hkind
      simp_all)
    obtain ⟨contents', hread'⟩ := read_of_row hresult' (by
      unfold ReportIndexRow.isCreated at hkind'
      simp_all)
    obtain ⟨hvalue, -, hkey, -⟩ := rowOf_keys hresult hread
    obtain ⟨hvalue', -, hkey', -⟩ := rowOf_keys hresult' hread'
    rw [hkey, hkey']
    exact h.created run hrun run' hrun' contents contents' hread hread'
      (hvalue.symm.trans hkind) (hvalue'.symm.trans hkind')
  have hplain : ∀ x ∈ entries.filter ReportIndexRow.isPlain,
      ∀ y ∈ entries.filter ReportIndexRow.isPlain, Ordered x.runKey y.runKey := by
    intro x hx y hy
    obtain ⟨hx, hkind⟩ := List.mem_filter.mp hx
    obtain ⟨hy, hkind'⟩ := List.mem_filter.mp hy
    obtain ⟨run, hrun, hresult⟩ := Series.entry_of_mapM hentries hx
    obtain ⟨run', hrun', hresult'⟩ := Series.entry_of_mapM hentries hy
    obtain ⟨contents, hread⟩ := read_of_row hresult (by
      unfold ReportIndexRow.isPlain at hkind
      simp_all)
    obtain ⟨contents', hread'⟩ := read_of_row hresult' (by
      unfold ReportIndexRow.isPlain at hkind'
      simp_all)
    obtain ⟨-, hvalue, -, hkey⟩ := rowOf_keys hresult hread
    obtain ⟨-, hvalue', -, hkey'⟩ := rowOf_keys hresult' hread'
    rw [hkey, hkey']
    refine h.plain run hrun run' hrun' contents contents' hread hread' ?_ ?_
    · rw [hkind] at hvalue
      simpa using hvalue.symm
    · rw [hkind'] at hvalue'
      simpa using hvalue'.symm
  have herrors : ∀ x ∈ entries.filter ReportIndexRow.hasError,
      ∀ y ∈ entries.filter ReportIndexRow.hasError, Ordered x.runKey y.runKey :=
    fun x hx y hy => errors_ordered (List.mem_filter.mp hx).2 (List.mem_filter.mp hy).2
  obtain ⟨created, hsortCreated, hpermCreated, hdown⟩ := sortRows_total sort _ true hcreated
  obtain ⟨plain, hsortPlain, hpermPlain, hup⟩ := sortRows_total sort _ false hplain
  obtain ⟨errors, hsortErrors, hpermErrors, hlast⟩ := sortRows_total sort _ false herrors
  have hlisted : listReportIndex sort (some root) = .ok (created ++ plain ++ errors) := by
    simp only [listReportIndex, hentries, bind, Except.bind, hsortCreated, hsortPlain,
      hsortErrors]
  refine ⟨_, hlisted, ?_⟩
  have hperm : (created ++ plain ++ errors).Perm entries :=
    ((hpermCreated.append hpermPlain).append hpermErrors).trans (kinds_perm entries)
  have hrowOf : ∀ run ∈ visibleRuns root, ∀ row ∈ created ++ plain ++ errors,
      row.directory = run.name → rowOf run = .ok row := fun run hrun row hrow hname =>
    rowOf_of_directory hentries hrun (hperm.mem_iff.mp hrow) hname
  constructor
  · rw [← directories_eq hentries]
    exact hperm.map _
  · exact fun run hrun row hrow hname => rowOf_hasError (hrowOf run hrun row hrow hname)
  · exact ⟨created, plain, errors, rfl,
      fun row hrow => (List.mem_filter.mp (hpermCreated.mem_iff.mp hrow)).2,
      fun row hrow => (List.mem_filter.mp (hpermPlain.mem_iff.mp hrow)).2,
      fun row hrow => (List.mem_filter.mp (hpermErrors.mem_iff.mp hrow)).2, hdown, hup, hlast⟩
  · intro run hrun row hrow hname hconfirmed
    obtain ⟨contents, hread, hgiven⟩ :=
      (rowOf_confirmed (hrowOf run hrun row hrow hname)).mp hconfirmed
    exact ⟨contents, hread, h.flags run hrun contents hread hgiven⟩

/-- A run whose warnings file holds a number of warnings, not their list. -/
def countedRun : RunDirectory where
  name := "20260101_000000_gmo_public_paper_demo"
  manifest := .value (.object [("kind", .text "gmo_public_paper_demo")])
  warnings := .value (.object [("fetch_warnings", .integer 2)])
  summaries := [("metrics_demo_15window_summary.json",
    .value (.object [("verdict", .text "demo")]))]

/-- That run and one without a summary. -/
def countedRoot : ExportsRoot where
  children := [.directory countedRun,
    .directory { name := "20260102_000000_gmo_public_paper_other", manifest := .missing,
                 warnings := .missing, summaries := [] }]
  distinct := by decide

end FxStrategyLab.Evaluation
