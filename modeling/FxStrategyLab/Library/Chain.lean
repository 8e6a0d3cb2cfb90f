import FxStrategyLab.Library.Decide

/-!
# Hash-linked chains

A chain is a list of links that are numbered in order, name the digest of the link
before them, and carry a digest that is recomputed from their content and that of the
link before.  A chain commits to nothing behind its end, so that each prefix of a chain
is one.  What the numbers alone refute is everything else: a chain that is left when
links are taken out of a chain is a prefix of it.
-/

namespace FxStrategyLab.Library

universe u v

/-- How the links of a chain are read and its digests recomputed. -/
structure Linking (α : Type u) (δ : Type v) where
  sequence : α → Nat
  previous : α → δ
  digest : α → δ
  recompute : α → δ → δ

namespace Linking

variable {α : Type u} {δ : Type v} {c : Linking α δ} {n : Nat} {p : δ} {k l : List α}

/-- The list is a chain that starts at a number behind a digest. -/
def Valid (c : Linking α δ) : Nat → δ → List α → Prop
  | _, _, [] => True
  | n, p, a :: l =>
      c.sequence a = n ∧ c.previous a = p ∧ c.digest a = c.recompute a p ∧
        c.Valid (n + 1) (c.digest a) l

instance decidableValid [DecidableEq δ] (c : Linking α δ) :
    (n : Nat) → (p : δ) → (l : List α) → Decidable (c.Valid n p l)
  | _, _, [] => isTrue trivial
  | n, p, a :: l =>
      haveI := decidableValid c (n + 1) (c.digest a) l
      inferInstanceAs (Decidable (c.sequence a = n ∧ c.previous a = p ∧
        c.digest a = c.recompute a p ∧ c.Valid (n + 1) (c.digest a) l))

def lastDigest (c : Linking α δ) (p : δ) (l : List α) : δ :=
  (l.getLast?.map c.digest).getD p

@[simp]
theorem lastDigest_nil : c.lastDigest p [] = p :=
  rfl

@[simp]
theorem lastDigest_cons (a : α) : c.lastDigest p (a :: l) = c.lastDigest (c.digest a) l := by
  unfold lastDigest
  rw [List.getLast?_cons]
  cases l.getLast? <;> rfl

def nextSequence (c : Linking α δ) (n : Nat) (l : List α) : Nat :=
  (l.getLast?.map fun a => c.sequence a + 1).getD n

theorem Valid.nextSequence_eq (h : c.Valid n p l) : c.nextSequence n l = n + l.length := by
  induction l generalizing n p with
  | nil => rfl
  | cons a l ih =>
      have hrest := ih h.2.2.2
      have hnext : c.nextSequence n (a :: l) = c.nextSequence (n + 1) l := by
        unfold nextSequence
        rw [List.getLast?_cons]
        cases hlast : l.getLast? with
        | none => simp [h.1]
        | some b => simp
      rw [hnext, hrest, List.length_cons]
      omega

/-- A link continues a chain exactly when it carries the next number, names the last
digest and recomputes to its own. -/
theorem valid_append_singleton {a : α} :
    c.Valid n p (l ++ [a]) ↔
      c.Valid n p l ∧ c.sequence a = n + l.length ∧ c.previous a = c.lastDigest p l ∧
        c.digest a = c.recompute a (c.lastDigest p l) := by
  induction l generalizing n p with
  | nil => simp [Valid]
  | cons b l ih =>
      have hlength : n + 1 + l.length = n + (b :: l).length := by
        rw [List.length_cons]
        omega
      rw [List.cons_append, lastDigest_cons, ← hlength]
      simp only [Valid, ih, and_assoc]

theorem Valid.le_sequence (h : c.Valid n p l) {a : α} (ha : a ∈ l) : n ≤ c.sequence a := by
  induction l generalizing n p with
  | nil => cases ha
  | cons b l ih =>
      rcases List.mem_cons.mp ha with rfl | ha
      · exact h.1.ge
      · exact Nat.le_of_succ_le (ih h.2.2.2 ha)

/-- **What remains of a chain is a prefix**, if it is a chain from the same start. -/
theorem Valid.prefix_of_sublist (hl : c.Valid n p l) (hk : c.Valid n p k)
    (h : k.Sublist l) : k <+: l := by
  induction l generalizing n p k with
  | nil => rw [List.sublist_nil.mp h]
  | cons a l ih =>
      cases h with
      | cons _ h =>
          cases k with
          | nil => exact List.nil_prefix
          | cons b k =>
              -- the first link that is left carries a later number than the start
              have hlater := hl.2.2.2.le_sequence (h.subset List.mem_cons_self)
              have hfirst := hk.1
              omega
      | cons_cons _ h => exact (List.cons_prefix_cons).mpr ⟨rfl, ih hl.2.2.2 hk.2.2.2 h⟩

end Linking

end FxStrategyLab.Library
