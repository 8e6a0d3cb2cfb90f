import FxStrategyLab.Library.Decide

/-!
# Runs of a step function

A system is given by a function that takes a state and an input to the next
state.  A run is a list of inputs; `after` is the state it leads to, and
`MeetsAlong C` says that every input is taken in a state that meets the
condition `C`.  The rules below are the two inductions that every safety
argument uses: an invariant that each step keeps holds after every run, and a
relation that each step meets holds from the start of a run to its end.
-/

namespace FxStrategyLab.Library

universe u v

section Runs

variable {σ : Type u} {ι : Type v}

def after (step : σ → ι → σ) (s : σ) (inputs : List ι) : σ :=
  inputs.foldl step s

/-- Each input of the run is taken in a state that meets the condition. -/
def MeetsAlong (step : σ → ι → σ) (C : σ → ι → Prop) : σ → List ι → Prop
  | _, [] => True
  | s, i :: inputs => C s i ∧ MeetsAlong step C (step s i) inputs

variable {step : σ → ι → σ} {C D : σ → ι → Prop}

@[simp]
theorem after_nil (s : σ) : after step s [] = s :=
  rfl

@[simp]
theorem after_cons (s : σ) (i : ι) (inputs : List ι) :
    after step s (i :: inputs) = after step (step s i) inputs :=
  rfl

theorem after_append (s : σ) (before later : List ι) :
    after step s (before ++ later) = after step (after step s before) later :=
  List.foldl_append

@[simp]
theorem meetsAlong_nil (s : σ) : MeetsAlong step C s [] :=
  trivial

@[simp]
theorem meetsAlong_cons (s : σ) (i : ι) (inputs : List ι) :
    MeetsAlong step C s (i :: inputs) ↔
      C s i ∧ MeetsAlong step C (step s i) inputs :=
  Iff.rfl

theorem meetsAlong_append (s : σ) (before later : List ι) :
    MeetsAlong step C s (before ++ later) ↔
      MeetsAlong step C s before ∧
        MeetsAlong step C (after step s before) later := by
  induction before generalizing s with
  | nil => simp
  | cons i before ih => simp [ih, and_assoc]

variable {inputs : List ι} {s : σ}

theorem meetsAlong_of_mem {Q : ι → Prop}
    (h : ∀ i ∈ inputs, Q i) : MeetsAlong step (fun _ i => Q i) s inputs := by
  induction inputs generalizing s with
  | nil => trivial
  | cons i inputs ih =>
      exact ⟨h i List.mem_cons_self, ih fun j hj => h j (List.mem_cons_of_mem _ hj)⟩

theorem MeetsAlong.and (hC : MeetsAlong step C s inputs)
    (hD : MeetsAlong step D s inputs) : MeetsAlong step (fun s i => C s i ∧ D s i) s inputs := by
  induction inputs generalizing s with
  | nil => trivial
  | cons i inputs ih => exact ⟨⟨hC.1, hD.1⟩, ih hC.2 hD.2⟩

theorem meetsAlong_always (h : ∀ s i, C s i) : MeetsAlong step C s inputs := by
  induction inputs generalizing s with
  | nil => trivial
  | cons i inputs ih => exact ⟨h s i, ih⟩

theorem meetsAlong_congr (h : ∀ s i, C s i ↔ D s i) :
    MeetsAlong step C s inputs ↔ MeetsAlong step D s inputs := by
  induction inputs generalizing s with
  | nil => exact Iff.rfl
  | cons i inputs ih => exact and_congr (h s i) ih

/-- Whether a run meets a decidable condition can be computed. -/
instance decidableMeetsAlong [∀ s i, Decidable (C s i)] :
    (s : σ) → (inputs : List ι) → Decidable (MeetsAlong step C s inputs)
  | _, [] => isTrue trivial
  | s, i :: inputs =>
      haveI := decidableMeetsAlong (step s i) inputs
      inferInstanceAs (Decidable (C s i ∧ MeetsAlong step C (step s i) inputs))

variable {I P : σ → Prop}

/-- **Invariant rule.** What holds at the start and is kept by every step that
meets the condition holds after every run that meets it. -/
theorem invariant_after (hstep : ∀ s i, I s → C s i → I (step s i))
    (hs : I s) (hC : MeetsAlong step C s inputs) : I (after step s inputs) := by
  induction inputs generalizing s with
  | nil => exact hs
  | cons i inputs ih => exact ih (hstep s i hs hC.1) hC.2

/-- **Safety rule.** If an invariant and the condition make every step meet
`D`, then every step of the run does. -/
theorem meetsAlong_of_invariant (hstep : ∀ s i, I s → C s i → I (step s i))
    (hD : ∀ s i, I s → C s i → D s i) (hs : I s) (hC : MeetsAlong step C s inputs) :
    MeetsAlong step D s inputs := by
  induction inputs generalizing s with
  | nil => trivial
  | cons i inputs ih =>
      exact ⟨hD s i hs hC.1, ih (hstep s i hs hC.1) hC.2⟩

theorem meetsAlong_iff_of_invariant (hstep : ∀ s i, I s → I (step s i))
    (hiff : ∀ s i, I s → (C s i ↔ D s i)) (hs : I s) :
    MeetsAlong step C s inputs ↔ MeetsAlong step D s inputs :=
  ⟨meetsAlong_of_invariant (fun s i h _ => hstep s i h) (fun s i h => (hiff s i h).mp) hs,
    meetsAlong_of_invariant (fun s i h _ => hstep s i h) (fun s i h => (hiff s i h).mpr) hs⟩

theorem lost_after (hlost : ∀ s i, ¬ P s → ¬ P (step s i))
    (hs : ¬ P s) (inputs : List ι) : ¬ P (after step s inputs) := by
  induction inputs generalizing s with
  | nil => exact hs
  | cons i inputs ih => exact ih (hlost s i hs)

/-- **Exactness rule.** A property that each step keeps exactly under the condition, and
that is lost for good, holds after exactly the runs that meet the condition. -/
theorem after_iff_meetsAlong (hstep : ∀ s i, I s → I (step s i))
    (hkept : ∀ s i, I s → P s → (P (step s i) ↔ C s i))
    (hlost : ∀ s i, ¬ P s → ¬ P (step s i)) {s : σ} (hs : I s) (hP : P s)
    {inputs : List ι} : P (after step s inputs) ↔ MeetsAlong step C s inputs := by
  induction inputs generalizing s with
  | nil => exact iff_of_true hP trivial
  | cons i inputs ih =>
      by_cases hC : C s i
      · have hP' := (hkept s i hs hP).mpr hC
        exact (ih (hstep s i hs) hP').trans (and_iff_right hC).symm
      · have hP' : ¬ P (step s i) := fun h => hC ((hkept s i hs hP).mp h)
        exact iff_of_false (lost_after hlost hP' inputs) fun h => hC h.1

/-- **Exactness rule for prefixes.** Let the inputs of a run be admissible.  If an
invariant gives a property, is kept by the steps that meet the condition, and every other
step loses the property at once, then the property holds after every prefix of exactly the
runs that meet the condition. -/
theorem always_iff_meetsAlong {A : σ → ι → Prop} (hP : ∀ s, I s → P s)
    (hstep : ∀ s i, I s → A s i → C s i → I (step s i))
    (hlost : ∀ s i, I s → A s i → ¬ C s i → ¬ P (step s i)) (hs : I s)
    (hA : MeetsAlong step A s inputs) :
    (∀ n, P (after step s (inputs.take n))) ↔ MeetsAlong step C s inputs := by
  induction inputs generalizing s with
  | nil => simpa using hP s hs
  | cons i inputs ih =>
      by_cases hC : C s i
      · have hrest := ih (hstep s i hs hA.1 hC) hA.2
        constructor
        · intro h
          exact ⟨hC, hrest.mp fun n => h (n + 1)⟩
        · rintro ⟨-, h⟩ n
          cases n with
          | zero => exact hP s hs
          | succ n => exact hrest.mpr h n
      · refine iff_of_false (fun h => ?_) fun h => hC h.1
        exact hlost s i hs hA.1 hC (h 1)

end Runs

end FxStrategyLab.Library
