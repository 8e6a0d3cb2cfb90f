import FxStrategyLab.Library.Decide

/-!
# Calls with exceptions

A call changes a state and ends in a value or an exception; the state it has reached stays in
both cases.  `attempt` is a `try` with one `except` clause and `ensuring` a `finally`.

**Results.** The rules of `Keeps`: what each call keeps, every composition of them keeps.
-/

namespace FxStrategyLab.Library
namespace Calls

variable {ε σ α β : Type}

def stateAfter (call : EStateM ε σ α) (s : σ) : σ :=
  match call s with
  | .ok _ s' => s'
  | .error _ s' => s'

/-- A call from outside: its value or its exception is given. -/
def outcome (result : Except ε α) : EStateM ε σ α :=
  match result with
  | .ok a => pure a
  | .error e => throw e

/-- A `try` whose clause catches some exceptions. -/
def attempt (body : EStateM ε σ α) (caught : ε → Bool) (handler : ε → EStateM ε σ α) :
    EStateM ε σ α := fun s =>
  match body s with
  | .ok a s' => .ok a s'
  | .error e s' => if caught e then handler e s' else .error e s'

/-- A `try` with a last part that runs in every case; an exception of the last part replaces
that of the body. -/
def ensuring (body : EStateM ε σ α) (last : EStateM ε σ Unit) : EStateM ε σ α := fun s =>
  match body s with
  | .ok a s' =>
      match last s' with
      | .ok _ s'' => .ok a s''
      | .error e s'' => .error e s''
  | .error e s' =>
      match last s' with
      | .ok _ s'' => .error e s''
      | .error e' s'' => .error e' s''

def onlyIf (c : Bool) (call : EStateM ε σ Unit) : EStateM ε σ Unit :=
  if c then call else pure ()

def Keeps (P : σ → Prop) (call : EStateM ε σ α) : Prop :=
  ∀ s, P s → P (stateAfter call s)

variable {P : σ → Prop}

theorem keeps_pure (a : α) : Keeps P (pure a : EStateM ε σ α) :=
  fun _ h => h

theorem keeps_throw (e : ε) : Keeps P (throw e : EStateM ε σ α) :=
  fun _ h => h

theorem keeps_outcome (result : Except ε α) : Keeps P (outcome result : EStateM ε σ α) := by
  cases result with
  | ok a => exact keeps_pure a
  | error e => exact keeps_throw e

theorem keeps_modify {f : σ → σ} (h : ∀ s, P s → P (f s)) :
    Keeps P (modify f : EStateM ε σ Unit) :=
  fun s hs => h s hs

variable {call body other : EStateM ε σ α}

theorem keeps_bind {next : α → EStateM ε σ β} (hcall : Keeps P call)
    (hnext : ∀ a, Keeps P (next a)) : Keeps P (call >>= next) := by
  intro s hs
  have hs' := hcall s hs
  unfold stateAfter at hs' ⊢
  cases hresult : call s with
  | ok a s' =>
      rw [hresult] at hs'
      have hbind : (call >>= next) s = next a s' := by
        simp [bind, EStateM.bind, hresult]
      rw [hbind]
      exact hnext a s' hs'
  | error e s' =>
      rw [hresult] at hs'
      have hbind : (call >>= next) s = .error e s' := by
        simp [bind, EStateM.bind, hresult]
      rw [hbind]
      exact hs'

theorem keeps_attempt {caught : ε → Bool}
    {handler : ε → EStateM ε σ α} (hbody : Keeps P body) (hhandler : ∀ e, Keeps P (handler e)) :
    Keeps P (attempt body caught handler) := by
  intro s hs
  have hs' := hbody s hs
  unfold stateAfter attempt at *
  cases hresult : body s with
  | ok a s' =>
      rw [hresult] at hs'
      exact hs'
  | error e s' =>
      rw [hresult] at hs'
      simp only []
      split_ifs
      · exact hhandler e s' hs'
      · exact hs'

theorem keeps_ensuring {last : EStateM ε σ Unit} (hbody : Keeps P body)
    (hlast : Keeps P last) : Keeps P (ensuring body last) := by
  intro s hs
  have hs' := hbody s hs
  unfold stateAfter ensuring at *
  cases hresult : body s with
  | ok a s' =>
      rw [hresult] at hs'
      have hs'' := hlast s' hs'
      unfold stateAfter at hs''
      cases hend : last s' <;> rw [hend] at hs'' <;> simpa only [hend] using hs''
  | error e s' =>
      rw [hresult] at hs'
      have hs'' := hlast s' hs'
      unfold stateAfter at hs''
      cases hend : last s' <;> rw [hend] at hs'' <;> simpa only [hend] using hs''

theorem keeps_ite {c : Prop} [Decidable c] (hcall : Keeps P call)
    (hother : Keeps P other) : Keeps P (if c then call else other) := by
  split_ifs
  · exact hcall
  · exact hother

theorem keeps_onlyIf {c : Bool} {call : EStateM ε σ Unit} (hcall : Keeps P call) :
    Keeps P (onlyIf c call) :=
  keeps_ite hcall (keeps_pure ())

end Calls
end FxStrategyLab.Library
