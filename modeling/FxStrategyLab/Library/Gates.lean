import FxStrategyLab.Library.Decide

/-!
# Gates over what they have let through

A gate decides on each of a list of things, knowing what it has let through before.
A machine that decides one thing after another implements a gate when some relation
between its state and what it has let through makes its decisions those of the gate.

Two gates of which one lets through no more than the other decide alike on a list
exactly when the narrower one also lets through whatever the wider one does on the way.
-/

namespace FxStrategyLab.Library

universe u v

section Gates

variable {σ : Type u} {τ : Type v}

def takenAfter (allowed : Bool) (taken : List τ) (t : τ) : List τ :=
  if allowed then taken ++ [t] else taken

def gateDecisions (allows : List τ → τ → Bool) : List τ → List τ → List Bool
  | _, [] => []
  | taken, t :: rest =>
      allows taken t :: gateDecisions allows (takenAfter (allows taken t) taken t) rest

def machineDecisions (step : σ → τ → σ × Bool) : σ → List τ → List Bool
  | _, [] => []
  | s, t :: rest => (step s t).2 :: machineDecisions step (step s t).1 rest

def raisingDecisions {ε : Type} (step : σ → τ → Except ε (σ × Bool)) :
    σ → List τ → Except ε (List Bool)
  | _, [] => .ok []
  | s, t :: rest =>
      match step s t with
      | .error e => .error e
      | .ok (s', allowed) => (raisingDecisions step s' rest).map (allowed :: ·)

/-- Along the run of the first gate, the second one lets through what the first does. -/
def FollowsAlong (allows allows' : List τ → τ → Bool) : List τ → List τ → Prop
  | _, [] => True
  | taken, t :: rest =>
      (allows taken t = true → allows' taken t = true) ∧
        FollowsAlong allows allows' (takenAfter (allows taken t) taken t) rest

instance decidableFollowsAlong (allows allows' : List τ → τ → Bool) :
    (taken rest : List τ) → Decidable (FollowsAlong allows allows' taken rest)
  | _, [] => isTrue trivial
  | taken, t :: rest =>
      haveI := decidableFollowsAlong allows allows' (takenAfter (allows taken t) taken t) rest
      inferInstanceAs (Decidable (_ ∧ FollowsAlong allows allows' _ rest))

variable {allows allows' : List τ → τ → Bool}

/-- **Refinement of a gate.** A relation between the state, what was let through and what
is still to come makes the decisions of the machine those of the gate. -/
theorem machineDecisions_eq_gateDecisions {step : σ → τ → σ × Bool}
    {R : σ → List τ → List τ → Prop}
    (hstep : ∀ s taken t rest, R s taken (t :: rest) → (step s t).2 = allows taken t ∧
      R (step s t).1 (takenAfter (allows taken t) taken t) rest)
    {s : σ} {taken ts : List τ} (h : R s taken ts) :
    machineDecisions step s ts = gateDecisions allows taken ts := by
  induction ts generalizing s taken with
  | nil => rfl
  | cons t rest ih =>
      obtain ⟨hdecision, hrest⟩ := hstep s taken t rest h
      rw [machineDecisions, gateDecisions, hdecision, ih hrest]

theorem raisingDecisions_eq_gateDecisions {ε : Type} {step : σ → τ → Except ε (σ × Bool)}
    {R : σ → List τ → List τ → Prop}
    (hstep : ∀ s taken t rest, R s taken (t :: rest) → ∃ s', step s t = .ok (s', allows taken t) ∧
      R s' (takenAfter (allows taken t) taken t) rest)
    {s : σ} {taken ts : List τ} (h : R s taken ts) :
    raisingDecisions step s ts = .ok (gateDecisions allows taken ts) := by
  induction ts generalizing s taken with
  | nil => rfl
  | cons t rest ih =>
      obtain ⟨s', hdecision, hrest⟩ := hstep s taken t rest h
      rw [raisingDecisions, hdecision]
      dsimp only
      rw [ih hrest]
      rfl

/-- **Agreement of two gates**, one of which lets through no more than the other. -/
theorem gateDecisions_eq_iff
    (hle : ∀ taken t, allows' taken t = true → allows taken t = true) (taken ts : List τ) :
    gateDecisions allows taken ts = gateDecisions allows' taken ts ↔
      FollowsAlong allows allows' taken ts := by
  induction ts generalizing taken with
  | nil => simp [gateDecisions, FollowsAlong]
  | cons t rest ih =>
      rw [gateDecisions, gateDecisions, FollowsAlong, List.cons.injEq]
      have hdecision : allows taken t = allows' taken t ↔
          (allows taken t = true → allows' taken t = true) := by
        have h := hle taken t
        cases ha : allows taken t <;> cases hb : allows' taken t <;> simp [ha, hb] at h ⊢
      rw [hdecision]
      refine and_congr_right fun hfollows => ?_
      rw [← hdecision.mpr hfollows]
      exact ih _

end Gates

end FxStrategyLab.Library
