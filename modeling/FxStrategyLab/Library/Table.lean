import FxStrategyLab.Library.Decide

/-!
# Tables with unique keys

A table is a list of rows in insertion order together with a proof that each
of its key columns holds no value twice: the primary key and the `UNIQUE`
columns of a relational table.  Insertion fails on a duplicate key and every
other operation keeps the proof, so a table with a repeated key cannot be
built.
-/

namespace FxStrategyLab.Library

universe u v

/-- A table whose key columns are the functions in `keys`. -/
structure Table (ρ : Type u) (κ : Type v) (keys : List (ρ → κ)) where
  rows : List ρ
  unique : ∀ key ∈ keys, (rows.map key).Nodup

namespace Table

variable {ρ : Type u} {κ : Type v} {keys : List (ρ → κ)}

variable {t t' : Table ρ κ keys}

@[ext]
theorem ext (h : t.rows = t'.rows) : t = t' := by
  cases t
  cases t'
  cases h
  rfl

instance [DecidableEq ρ] : DecidableEq (Table ρ κ keys) :=
  fun t t' => decidable_of_iff (t.rows = t'.rows) ⟨ext, fun h => h ▸ rfl⟩

/-- The table without rows. -/
def empty : Table ρ κ keys where
  rows := []
  unique _ _ := List.nodup_nil

@[simp]
theorem rows_empty : (empty : Table ρ κ keys).rows = [] :=
  rfl

def Fresh (t : Table ρ κ keys) (r : ρ) : Prop :=
  ∀ key ∈ keys, key r ∉ t.rows.map key

instance [DecidableEq κ] (t : Table ρ κ keys) (r : ρ) : Decidable (t.Fresh r) :=
  inferInstanceAs (Decidable (∀ key ∈ keys, key r ∉ t.rows.map key))

/-- Append a row, or fail because one of its keys is taken. -/
def insert? [DecidableEq κ] (t : Table ρ κ keys) (r : ρ) : Option (Table ρ κ keys) :=
  if h : t.Fresh r then
    some
      { rows := t.rows ++ [r]
        unique := by
          intro key hkey
          rw [List.map_append]
          refine List.Nodup.append (t.unique key hkey) (List.nodup_singleton _) ?_
          simpa [List.disjoint_singleton] using h key hkey }
  else none

def insertOrIgnore [DecidableEq κ] (t : Table ρ κ keys) (r : ρ) : Table ρ κ keys :=
  (t.insert? r).getD t

/-- Change the rows that meet a condition, without touching their keys. -/
def updateWhere (t : Table ρ κ keys) (p : ρ → Bool) (f : ρ → ρ)
    (hf : ∀ r, ∀ key ∈ keys, key (f r) = key r) : Table ρ κ keys where
  rows := t.rows.map fun r => if p r then f r else r
  unique := by
    intro key hkey
    have hmap :
        (t.rows.map fun r => if p r then f r else r).map key = t.rows.map key := by
      rw [List.map_map]
      refine List.map_congr_left fun r _ => ?_
      by_cases hp : p r = true
      · simpa [hp] using hf r key hkey
      · simp [hp]
    rw [hmap]
    exact t.unique key hkey

def deleteWhere (t : Table ρ κ keys) (p : ρ → Bool) : Table ρ κ keys where
  rows := t.rows.filter fun r => !p r
  unique := by
    intro key hkey
    exact (t.unique key hkey).sublist ((List.filter_sublist).map key)

variable {r r' : ρ}

theorem insert?_eq_some [DecidableEq κ] :
    t.insert? r = some t' ↔ t.Fresh r ∧ t'.rows = t.rows ++ [r] := by
  unfold insert?
  split
  case isTrue h =>
    constructor
    · intro h'
      cases h'
      exact ⟨h, rfl⟩
    · rintro ⟨-, h'⟩
      exact congrArg some (ext h'.symm)
  case isFalse h =>
    simp [h]

theorem insert?_isSome [DecidableEq κ] : (t.insert? r).isSome ↔ t.Fresh r := by
  unfold insert?
  split <;> simp_all

theorem rows_insertOrIgnore [DecidableEq κ] (t : Table ρ κ keys) (r : ρ) :
    (t.insertOrIgnore r).rows = if t.Fresh r then t.rows ++ [r] else t.rows := by
  unfold insertOrIgnore insert?
  split <;> rfl

theorem mem_insertOrIgnore [DecidableEq κ]
    (h : r' ∈ (t.insertOrIgnore r).rows) : r' ∈ t.rows ∨ r' = r := by
  rw [rows_insertOrIgnore] at h
  split at h
  · simpa using h
  · exact Or.inl h

@[simp]
theorem rows_updateWhere (t : Table ρ κ keys) (p : ρ → Bool) (f : ρ → ρ)
    (hf : ∀ r, ∀ key ∈ keys, key (f r) = key r) :
    (t.updateWhere p f hf).rows = t.rows.map fun r => if p r then f r else r :=
  rfl

@[simp]
theorem rows_deleteWhere (t : Table ρ κ keys) (p : ρ → Bool) :
    (t.deleteWhere p).rows = t.rows.filter fun r => !p r :=
  rfl

theorem eq_of_key_eq (t : Table ρ κ keys) {key : ρ → κ} (hkey : key ∈ keys)
    {r r' : ρ} (hr : r ∈ t.rows) (hr' : r' ∈ t.rows) (h : key r = key r') : r = r' :=
  List.inj_on_of_nodup_map (t.unique key hkey) hr hr' h

theorem find?_key_eq_some [DecidableEq κ] (t : Table ρ κ keys) {key : ρ → κ}
    (hkey : key ∈ keys) {k : κ} :
    t.rows.find? (fun r => key r = k) = some r ↔ r ∈ t.rows ∧ key r = k := by
  constructor
  · intro h
    exact ⟨List.mem_of_find?_eq_some h, by simpa using List.find?_some h⟩
  · rintro ⟨hr, hk⟩
    rcases hfind : t.rows.find? (fun r => key r = k) with _ | r'
    · have := List.find?_eq_none.mp hfind r hr
      simp [hk] at this
    · have hr' := List.mem_of_find?_eq_some hfind
      have hk' : key r' = k := by simpa using List.find?_some hfind
      rw [t.eq_of_key_eq hkey hr hr' (hk.trans hk'.symm)]

section OneKey

variable [DecidableEq κ] {key : ρ → κ}

end OneKey

end Table

end FxStrategyLab.Library
