import FxStrategyLab.Library.Decide

/-!
# The first row of each key

A loop over rows keeps the first row of each key in the order of their coming and notes the
keys that come again.

**Results.** `reads_read` says which keys the rows have and which are noted, `mem_read_iff`
that a kept row is the first of its key, and `read_of_nodup` that rows with different keys are
all kept.
-/

namespace FxStrategyLab.Library

universe u v

structure FirstRows (ρ : Type u) (κ : Type v) where
  rows : List ρ := []
  repeated : List κ := []

namespace FirstRows

variable {ρ : Type u} {κ : Type v} [DecidableEq κ] (key : ρ → κ)

/-- One row of the loop. -/
def add (kept : FirstRows ρ κ) (row : ρ) : FirstRows ρ κ :=
  if key row ∈ kept.rows.map key then
    { kept with repeated := kept.repeated.insert (key row) }
  else { kept with rows := kept.rows ++ [row] }

def read (rows : List ρ) : FirstRows ρ κ :=
  rows.foldl (add key) {}

variable {key}

/-- What the loop has made of some rows. -/
structure Reads (key : ρ → κ) (rows : List ρ) (kept : FirstRows ρ κ) : Prop where
  sublist : kept.rows.Sublist rows
  nodup : (kept.rows.map key).Nodup
  keys : ∀ k, k ∈ kept.rows.map key ↔ k ∈ rows.map key
  repeated : ∀ k, k ∈ kept.repeated ↔ 1 < (rows.map key).count k
  repeated_nodup : kept.repeated.Nodup

theorem reads_add {rows : List ρ} {kept : FirstRows ρ κ} (h : Reads key rows kept) (row : ρ) :
    Reads key (rows ++ [row]) (kept.add key row) := by
  obtain ⟨hsublist, hnodup, hkeys, hrepeated, hrepeatedNodup⟩ := h
  have hcount : ∀ k, ((rows ++ [row]).map key).count k =
      (rows.map key).count k + if key row = k then 1 else 0 := by
    intro k
    simp [List.count_append, List.count_singleton]
  unfold add
  split_ifs with hin
  · have hpos : 0 < (rows.map key).count (key row) :=
      List.count_pos_iff.mpr ((hkeys _).mp hin)
    refine ⟨hsublist.trans (List.sublist_append_left _ _), hnodup, ?_, ?_,
      hrepeatedNodup.insert⟩
    · intro k
      rw [hkeys, List.map_append, List.mem_append, List.map_singleton, List.mem_singleton]
      constructor
      · exact Or.inl
      · rintro (hk | rfl)
        · exact hk
        · exact (hkeys _).mp hin
    · intro k
      rw [List.mem_insert_iff, hrepeated, hcount]
      by_cases hk : key row = k
      · subst hk
        simp only [true_or, if_true, true_iff]
        omega
      · simp [hk, Ne.symm hk]
  · have hzero : (rows.map key).count (key row) = 0 :=
      List.count_eq_zero.mpr fun h => hin ((hkeys _).mpr h)
    refine ⟨hsublist.append (List.Sublist.refl _), ?_, ?_, ?_, hrepeatedNodup⟩
    · rw [List.map_append, List.map_singleton]
      exact hnodup.append (List.nodup_singleton _)
        (List.disjoint_singleton.mpr hin)
    · intro k
      simp only [List.map_append, List.mem_append, hkeys]
    · intro k
      rw [hrepeated, hcount]
      by_cases hk : key row = k
      · subst hk
        simp [hzero]
      · simp [hk]

theorem foldl_add_reads {earlier later : List ρ} {kept : FirstRows ρ κ}
    (h : Reads key earlier kept) : Reads key (earlier ++ later) (later.foldl (add key) kept) := by
  induction later generalizing earlier kept with
  | nil => simpa using h
  | cons row later ih =>
      have hrest := ih (reads_add h row)
      rwa [List.append_assoc, List.singleton_append] at hrest

/-- **What the loop makes of its rows.** -/
theorem reads_read (key : ρ → κ) (rows : List ρ) : Reads key rows (read key rows) := by
  have hstart : Reads key [] ({} : FirstRows ρ κ) :=
    ⟨List.Sublist.refl _, List.nodup_nil, fun _ => Iff.rfl, fun k => by simp, List.nodup_nil⟩
  exact foldl_add_reads hstart

variable {rows : List ρ} {row : ρ}

theorem find?_read (k : κ) :
    (read key rows).rows.find? (fun r => key r = k) = rows.find? fun r => key r = k := by
  induction rows using List.reverseRecOn with
  | nil => rfl
  | append_singleton rows row ih =>
      have hread : read key (rows ++ [row]) = (read key rows).add key row := by
        simp [read, List.foldl_append]
      rw [hread, List.find?_append, ← ih]
      unfold add
      split_ifs with hin
      · by_cases hk : key row = k
        · subst hk
          obtain ⟨other, hother, hsame⟩ := List.mem_map.mp hin
          obtain ⟨found, hfound⟩ := Option.isSome_iff_exists.mp
            (List.find?_isSome.mpr ⟨other, hother, by simpa using hsame⟩ :
              ((read key rows).rows.find? fun r => key r = key row).isSome)
          rw [hfound]
          rfl
        · simp [hk]
      · rw [List.find?_append]

theorem mem_of_mem_read (h : row ∈ (read key rows).rows) : row ∈ rows :=
  (reads_read key rows).sublist.subset h

theorem mem_read_iff : row ∈ (read key rows).rows ↔
    rows.find? (fun r => key r = key row) = some row := by
  rw [← find?_read]
  constructor
  · intro hrow
    obtain ⟨found, hfound⟩ := Option.isSome_iff_exists.mp
      (List.find?_isSome.mpr ⟨row, hrow, by simp⟩ :
        ((read key rows).rows.find? fun r => key r = key row).isSome)
    have hsame : key found = key row := by simpa using List.find?_some hfound
    have hmem := List.mem_of_find?_eq_some hfound
    rw [hfound, List.inj_on_of_nodup_map (reads_read key rows).nodup hmem hrow hsame]
  · exact List.mem_of_find?_eq_some

theorem eq_of_not_repeated (hrow : row ∈ rows) (h : key row ∉ (read key rows).repeated)
    {other : ρ} (hother : other ∈ rows) (hkey : key other = key row) : other = row := by
  have hone : (rows.map key).count (key row) ≤ 1 :=
    not_lt.mp fun hlt => h (((reads_read key rows).repeated _).mpr hlt)
  by_contra hne
  obtain ⟨before, after, rfl⟩ := List.append_of_mem hrow
  have hin : other ∈ before ++ after := by
    simp only [List.mem_append, List.mem_cons] at hother ⊢
    rcases hother with h | rfl | h
    · exact Or.inl h
    · exact absurd rfl hne
    · exact Or.inr h
  have hpos : 0 < ((before ++ after).map key).count (key row) :=
    List.count_pos_iff.mpr (List.mem_map.mpr ⟨other, hin, hkey⟩)
  simp only [List.map_append, List.map_cons, List.count_append, List.count_cons_self] at hone hpos
  omega

theorem mem_read_of_not_repeated (hrow : row ∈ rows)
    (h : key row ∉ (read key rows).repeated) : row ∈ (read key rows).rows := by
  have hkey := ((reads_read key rows).keys (key row)).mpr (List.mem_map_of_mem hrow)
  obtain ⟨other, hother, hsame⟩ := List.mem_map.mp hkey
  rwa [eq_of_not_repeated hrow h (mem_of_mem_read hother) hsame] at hother

theorem find?_perm {rows' : List ρ} (h : rows'.Perm rows) (hnodup : (rows.map key).Nodup)
    (k : κ) : rows'.find? (fun r => key r = k) = rows.find? fun r => key r = k := by
  cases hfound : rows.find? fun r => key r = k with
  | none =>
      rw [List.find?_eq_none] at hfound ⊢
      exact fun r hr => hfound r (h.subset hr)
  | some row =>
      have hkey : key row = k := by simpa using List.find?_some hfound
      have hrow := h.symm.subset (List.mem_of_find?_eq_some hfound)
      obtain ⟨other, hother⟩ := Option.isSome_iff_exists.mp
        (List.find?_isSome.mpr ⟨row, hrow, by simpa using hkey⟩ :
          (rows'.find? fun r => key r = k).isSome)
      have hsame : key other = k := by simpa using List.find?_some hother
      have hmem := List.mem_of_find?_eq_some hother
      rw [hother, List.inj_on_of_nodup_map ((h.map key).nodup_iff.mpr hnodup) hmem hrow
        (hsame.trans hkey.symm)]

/-- **Rows with different keys are all kept.** -/
theorem read_of_nodup (h : (rows.map key).Nodup) : read key rows = { rows := rows } := by
  have hreads := reads_read key rows
  have hrepeated : (read key rows).repeated = [] := by
    refine List.eq_nil_iff_forall_not_mem.mpr fun k hk => ?_
    have hlt := (hreads.repeated k).mp hk
    have hle := List.nodup_iff_count_le_one.mp h k
    omega
  have hrows : (read key rows).rows = rows := by
    refine hreads.sublist.eq_of_length ?_
    have hkeys : ((read key rows).rows.map key).length = (rows.map key).length := by
      refine List.Perm.length_eq ((List.perm_ext_iff_of_nodup hreads.nodup h).mpr ?_)
      exact hreads.keys
    simpa using hkeys
  cases hkept : read key rows with
  | mk kept repeated =>
      rw [hkept] at hrepeated hrows
      rw [← hrepeated, ← hrows]

end FirstRows

end FxStrategyLab.Library
