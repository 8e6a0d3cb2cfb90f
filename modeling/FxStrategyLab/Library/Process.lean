import FxStrategyLab.Library.Decide

/-!
# Stateful processes that may raise or be killed

A process acts on a state and ends in one of three ways: it returns a value,
it raises an exception, or it is killed.  The state reached so far is kept in
every case, since what has been committed stays committed.  An exception can
be caught; a kill cannot, and no handler runs after it.

The module gives the monad, its handlers, the lens that runs a process on a
part of a larger state, and five families of rules:

* `Within F` bounds the effect of a process by a preorder on states, however the
  process ends, and `WithinAt F` does so for the run from one state;
* `Returns` says that a run returns, with a postcondition;
* `Survives` gives a postcondition for the returned and one for the raised end of a run,
  and says nothing about a run that is killed;
* `RaisesOnly P` says what exceptions a process raises;
* `OnReturn F` bounds only the runs that return.
-/

namespace FxStrategyLab.Library

universe u v w

/-- How a process ends. -/
inductive Outcome (ε : Type u) (α : Type v)
  | returned (a : α)
  | raised (e : ε)
  | killed
deriving DecidableEq

/-- The same end with another result. -/
def Outcome.map {ε : Type u} {α : Type v} {β : Type w} (f : α → β) :
    Outcome ε α → Outcome ε β
  | .returned a => .returned (f a)
  | .raised e => .raised e
  | .killed => .killed

/-- A process on states `σ` with exceptions `ε` and results `α`. -/
def Process (σ ε α : Type) := σ → Outcome ε α × σ

namespace Process

variable {σ τ ε α β : Type}

def run (x : Process σ ε α) (s : σ) : Outcome ε α × σ := x s

protected def pure (a : α) : Process σ ε α := fun s => (.returned a, s)

/-- Sequential composition; exceptions and kills skip the continuation. -/
protected def bind (x : Process σ ε α) (f : α → Process σ ε β) : Process σ ε β :=
  fun s =>
    match x s with
    | (.returned a, s') => f a s'
    | (.raised e, s') => (.raised e, s')
    | (.killed, s') => (.killed, s')

instance : Monad (Process σ ε) where
  pure := Process.pure
  bind := Process.bind

def raise (e : ε) : Process σ ε α := fun s => (.raised e, s)

def kill : Process σ ε α := fun s => (.killed, s)

def gets (f : σ → α) : Process σ ε α := fun s => (.returned (f s), s)

def modify (f : σ → σ) : Process σ ε Unit := fun s => (.returned (), f s)

/-- Raise `e` unless the condition holds. -/
def require (c : Prop) [Decidable c] (e : ε) : Process σ ε Unit :=
  if c then Process.pure () else raise e

/-- Run a handler when an exception was raised; a kill runs no handler. -/
def attempt (x : Process σ ε α) (handler : ε → Process σ ε α) : Process σ ε α :=
  fun s =>
    match x s with
    | (.returned a, s') => (.returned a, s')
    | (.raised e, s') => handler e s'
    | (.killed, s') => (.killed, s')

/-- Run `x` on the part of the state that `get` reads and `set` replaces. -/
def zoom (get : τ → σ) (set : σ → τ → τ) (x : Process σ ε α) : Process τ ε α :=
  fun t =>
    match x (get t) with
    | (o, s') => (o, set s' t)

@[simp]
theorem run_pure (a : α) (s : σ) : (pure a : Process σ ε α).run s = (.returned a, s) :=
  rfl

@[simp]
theorem run_raise (e : ε) (s : σ) : (raise e : Process σ ε α).run s = (.raised e, s) :=
  rfl

@[simp]
theorem run_kill (s : σ) : (kill : Process σ ε α).run s = (.killed, s) :=
  rfl

@[simp]
theorem run_gets (f : σ → α) (s : σ) : (gets f : Process σ ε α).run s = (.returned (f s), s) :=
  rfl

@[simp]
theorem run_modify (f : σ → σ) (s : σ) :
    (modify f : Process σ ε Unit).run s = (.returned (), f s) :=
  rfl

theorem run_require (c : Prop) [Decidable c] (e : ε) (s : σ) :
    (require c e : Process σ ε Unit).run s =
      if c then (.returned (), s) else (.raised e, s) := by
  unfold require
  split <;> rfl

theorem run_bind (x : Process σ ε α) (f : α → Process σ ε β) (s : σ) :
    (x >>= f).run s =
      match x.run s with
      | (.returned a, s') => (f a).run s'
      | (.raised e, s') => (.raised e, s')
      | (.killed, s') => (.killed, s') :=
  rfl

theorem run_attempt (x : Process σ ε α) (handler : ε → Process σ ε α) (s : σ) :
    (attempt x handler).run s =
      match x.run s with
      | (.returned a, s') => (.returned a, s')
      | (.raised e, s') => (handler e).run s'
      | (.killed, s') => (.killed, s') :=
  rfl

@[simp]
theorem run_zoom (get : τ → σ) (set : σ → τ → τ) (x : Process σ ε α) (t : τ) :
    (zoom get set x).run t = ((x.run (get t)).1, set (x.run (get t)).2 t) :=
  rfl

theorem run_bind_pure (x : Process σ ε α) (f : α → β) (s : σ) :
    (x >>= fun a => pure (f a)).run s = ((x.run s).1.map f, (x.run s).2) := by
  rw [run_bind]
  rcases x.run s with ⟨o, s'⟩
  cases o <;> rfl

variable {x : Process σ ε α} {s s' t : σ}

theorem run_bind_returned {a : α} (h : x.run s = (.returned a, s')) (f : α → Process σ ε β) :
    (x >>= f).run s = (f a).run s' := by
  rw [run_bind, h]

theorem run_bind_raised {e : ε} (h : x.run s = (.raised e, s')) (f : α → Process σ ε β) :
    (x >>= f).run s = (.raised e, s') := by
  rw [run_bind, h]

theorem run_bind_not_returned (h : ∀ a t, x.run s ≠ (.returned a, t)) (f : α → Process σ ε β) :
    ((x >>= f).run s).2 = (x.run s).2 := by
  rw [run_bind]
  rcases hx : x.run s with ⟨o, s'⟩
  cases o with
  | returned a => exact absurd hx (h a s')
  | raised e => rfl
  | killed => rfl

/-- What holds of the end of a composition: its first part returned and the rest ended
there, or the first part did not return. -/
theorem run_bind_ends {f : α → Process σ ε β} {Q : σ → Prop}
    (hreturned : ∀ a t, x.run s = (.returned a, t) → Q ((f a).run t).2)
    (hother : Q (x.run s).2) : Q ((x >>= f).run s).2 := by
  rw [run_bind]
  rcases hx : x.run s with ⟨o, t⟩
  rw [hx] at hother
  cases o with
  | returned a => exact hreturned a t hx
  | raised e => exact hother
  | killed => exact hother

theorem run_bind_eq_returned {f : α → Process σ ε β} {b : β} :
    (x >>= f).run s = (.returned b, t) ↔
      ∃ a s', x.run s = (.returned a, s') ∧ (f a).run s' = (.returned b, t) := by
  rw [run_bind]
  rcases hx : x.run s with ⟨o, s'⟩
  cases o with
  | returned a => simp
  | raised e => simp
  | killed => simp

variable {c : Prop}

/-- A guarded composition returns exactly when the guard holds and the rest
returns. -/
theorem run_require_bind_eq_returned [Decidable c] {e : ε} {f : Unit → Process σ ε β} {b : β} :
    (require c e >>= f).run s = (.returned b, t) ↔
      c ∧ (f ()).run s = (.returned b, t) := by
  rw [run_bind, run_require]
  by_cases hc : c <;> simp [hc]

theorem run_require_bind [Decidable c] (hc : c) (e : ε) (f : Unit → Process σ ε β) (s : σ) :
    (require c e >>= f).run s = (f ()).run s := by
  rw [run_bind, run_require, if_pos hc]

theorem run_require_bind_not [Decidable c] (hc : ¬c) (e : ε) (f : Unit → Process σ ε β) (s : σ) :
    (require c e >>= f).run s = (.raised e, s) := by
  rw [run_bind, run_require, if_neg hc]

theorem run_gets_bind (g : σ → α) (f : α → Process σ ε β) (s : σ) :
    (gets g >>= f).run s = (f (g s)).run s :=
  rfl

instance : LawfulMonad (Process σ ε) :=
  LawfulMonad.mk' _
    (by
      intro α x
      funext s
      change Process.bind x _ s = x s
      unfold Process.bind
      rcases x s with ⟨o, s'⟩
      cases o <;> rfl)
    (by
      intros
      rfl)
    (by
      intro α β γ x f g
      funext s
      change Process.bind (Process.bind x f) g s =
        Process.bind x (fun a => Process.bind (f a) g) s
      unfold Process.bind
      rcases x s with ⟨o, s'⟩
      cases o <;> rfl)

theorem run_map_eq_returned {f : α → β} {b : β} :
    (f <$> x).run s = (.returned b, t) ↔ ∃ a, x.run s = (.returned a, t) ∧ f a = b := by
  rw [map_eq_pure_bind, run_bind_eq_returned]
  constructor
  · rintro ⟨a, s', hx, h⟩
    cases h
    exact ⟨a, hx, rfl⟩
  · rintro ⟨a, hx, rfl⟩
    exact ⟨a, t, hx, rfl⟩

end Process

/-- A preorder on states that bounds what a process may do to its state. -/
structure Frame (σ : Type) where
  rel : σ → σ → Prop
  refl : ∀ s, rel s s
  trans : ∀ {s t u}, rel s t → rel t u → rel s u

namespace Frame

variable {σ τ : Type}

def keeps (I : σ → Prop) : Frame σ where
  rel s t := I s → I t
  refl _ h := h
  trans h₁ h₂ h := h₂ (h₁ h)

/-- The frame that leaves a part of the state as it is. -/
def fixes {γ : Type} (f : σ → γ) : Frame σ where
  rel s t := f t = f s
  refl _ := rfl
  trans h₁ h₂ := h₂.trans h₁

/-- Two bounds at once. -/
def both (F G : Frame σ) : Frame σ where
  rel s t := F.rel s t ∧ G.rel s t
  refl s := ⟨F.refl s, G.refl s⟩
  trans h₁ h₂ := ⟨F.trans h₁.1 h₂.1, G.trans h₁.2 h₂.2⟩

/-- A bound on one part of the state, read through `get`. -/
def through (F : Frame σ) (get : τ → σ) : Frame τ where
  rel s t := F.rel (get s) (get t)
  refl s := F.refl (get s)
  trans h₁ h₂ := F.trans h₁ h₂

end Frame

/-- Every run of `x`, however it ends, stays within the frame. -/
def Within {σ ε α : Type} (F : Frame σ) (x : Process σ ε α) : Prop :=
  ∀ s, F.rel s (x.run s).2

namespace Within

variable {σ τ ε α β : Type} {F G : Frame σ}

theorem pure (a : α) : Within F (pure a : Process σ ε α) :=
  fun s => F.refl s

variable {x y : Process σ ε α}

theorem rel (hx : Within F x) {s t : σ} {o : Outcome ε α} (h : x.run s = (o, t)) : F.rel s t := by
  simpa only [h] using hx s

theorem raise (e : ε) : Within F (Process.raise e : Process σ ε α) :=
  fun s => F.refl s

theorem gets (f : σ → α) : Within F (Process.gets f : Process σ ε α) :=
  fun s => F.refl s

theorem modify {f : σ → σ} (h : ∀ s, F.rel s (f s)) :
    Within F (Process.modify f : Process σ ε Unit) :=
  h

theorem require (c : Prop) [Decidable c] (e : ε) :
    Within F (Process.require c e : Process σ ε Unit) := by
  intro s
  rw [Process.run_require]
  split <;> exact F.refl s

variable {c P : Prop}

theorem require_bind [Decidable c] {e : ε} {f : Unit → Process σ ε β}
    (hf : c → Within F (f ())) : Within F (Process.require c e >>= f) := by
  intro s
  rw [Process.run_bind, Process.run_require]
  by_cases hc : c
  · simpa [hc] using hf hc s
  · simpa [hc] using F.refl s

variable {f : α → Process σ ε β}

theorem bind (hx : Within F x) (hf : ∀ a, Within F (f a)) : Within F (x >>= f) := by
  intro s
  have h := hx s
  rw [Process.run_bind]
  rcases hr : x.run s with ⟨o, s'⟩
  rw [hr] at h
  cases o with
  | returned a => exact F.trans h (hf a s')
  | raised e => exact h
  | killed => exact h

theorem bind_returned {R : α → Prop}
    (hx : Within F x) (hR : ∀ s a t, x.run s = (.returned a, t) → R a)
    (hf : ∀ a, R a → Within F (f a)) : Within F (x >>= f) := by
  intro s
  exact Process.run_bind_ends (Q := F.rel s)
    (fun a t hr => F.trans (by simpa only [hr] using hx s) (hf a (hR s a t hr) t)) (hx s)

theorem attempt {handler : ε → Process σ ε α} (hx : Within F x) (hh : ∀ e, Within F (handler e)) :
    Within F (x.attempt handler) := by
  intro s
  have h := hx s
  rw [Process.run_attempt]
  rcases hr : x.run s with ⟨o, s'⟩
  rw [hr] at h
  cases o with
  | returned a => exact h
  | raised e => exact F.trans h (hh e s')
  | killed => exact h

theorem both (hF : Within F x) (hG : Within G x) : Within (F.both G) x :=
  fun s => ⟨hF s, hG s⟩

theorem ite [Decidable c] (hx : Within F x)
    (hy : Within F y) : Within F (if c then x else y) := by
  split
  · exact hx
  · exact hy

/-- A composition stays within the frame unless something holds that only a
returned first part can bring about. -/
theorem unless_bind {s : σ} (hx : Within F x)
    (hf : ∀ a s', x.run s = (.returned a, s') → P ∨ F.rel s' ((f a).run s').2) :
    P ∨ F.rel s ((x >>= f).run s).2 := by
  have h := hx s
  rw [Process.run_bind]
  rcases hr : x.run s with ⟨o, s'⟩
  rw [hr] at h
  cases o with
  | returned a => exact (hf a s' hr).imp_right (F.trans h)
  | raised e => exact Or.inr h
  | killed => exact Or.inr h

theorem unless_then {s : σ} (hx : P ∨ F.rel s (x.run s).2) (hf : ∀ a, Within F (f a)) :
    P ∨ F.rel s ((x >>= f).run s).2 := by
  refine hx.imp_right fun h => ?_
  rw [Process.run_bind]
  rcases hr : x.run s with ⟨o, s'⟩
  rw [hr] at h
  cases o with
  | returned a => exact F.trans h (hf a s')
  | raised e => exact h
  | killed => exact h

theorem zoom {get : τ → σ} {set : σ → τ → τ} (hget : ∀ s t, get (set s t) = s) (hx : Within F x) :
    Within (F.through get) (x.zoom get set) := by
  intro t
  show F.rel (get t) (get ((x.zoom get set).run t).2)
  rw [Process.run_zoom, hget]
  exact hx (get t)

end Within

/-- The run of `x` from this state stays within the frame. -/
def WithinAt {σ ε α : Type} (F : Frame σ) (x : Process σ ε α) (s : σ) : Prop :=
  F.rel s (x.run s).2

namespace WithinAt

variable {σ ε α β : Type} {F : Frame σ}

variable {x y : Process σ ε α} {s : σ}

theorem bind {f : α → Process σ ε β} (hx : WithinAt F x s)
    (hf : ∀ a t, x.run s = (.returned a, t) → WithinAt F (f a) t) : WithinAt F (x >>= f) s := by
  unfold WithinAt at hx ⊢
  rw [Process.run_bind]
  rcases hr : x.run s with ⟨o, t⟩
  rw [hr] at hx
  cases o with
  | returned a => exact F.trans hx (hf a t hr)
  | raised e => exact hx
  | killed => exact hx

theorem gets_bind {g : σ → α} {f : α → Process σ ε β}
    (hf : WithinAt F (f (g s)) s) : WithinAt F (Process.gets g >>= f) s :=
  hf

theorem map {f : α → β} (hx : WithinAt F x s) : WithinAt F (f <$> x) s := by
  rw [map_eq_pure_bind]
  exact hx.bind fun _ t _ => F.refl t

theorem require_bind {c : Prop} [Decidable c] {e : ε} {f : Unit → Process σ ε β}
    (hf : c → WithinAt F (f ()) s) : WithinAt F (Process.require c e >>= f) s := by
  unfold WithinAt
  by_cases hc : c
  · rw [Process.run_require_bind hc]
    exact hf hc
  · rw [Process.run_require_bind_not hc]
    exact F.refl s

theorem attempt {handler : ε → Process σ ε α} (hx : WithinAt F x s)
    (hh : ∀ e t, x.run s = (.raised e, t) → WithinAt F (handler e) t) :
    WithinAt F (x.attempt handler) s := by
  unfold WithinAt at hx ⊢
  rw [Process.run_attempt]
  rcases hr : x.run s with ⟨o, t⟩
  rw [hr] at hx
  cases o with
  | returned a => exact hx
  | raised e => exact F.trans hx (hh e t hr)
  | killed => exact hx

theorem ite {c : Prop} [Decidable c] (hx : c → WithinAt F x s) (hy : ¬c → WithinAt F y s) :
    WithinAt F (if c then x else y) s := by
  split
  case isTrue h => exact hx h
  case isFalse h => exact hy h

end WithinAt

/-- The run of `x` from this state returns, and the value and the state it ends in
meet the postcondition. -/
def Returns {σ ε α : Type} (x : Process σ ε α) (s : σ) (Q : α → σ → Prop) : Prop :=
  ∃ a t, x.run s = (.returned a, t) ∧ Q a t

namespace Returns

variable {σ ε α β : Type} {P Q : α → σ → Prop} {R : β → σ → Prop}

variable {s : σ}

theorem pure {a : α} (h : Q a s) : Returns (pure a : Process σ ε α) s Q :=
  ⟨a, s, rfl, h⟩

theorem gets {f : σ → α} (h : Q (f s) s) : Returns (Process.gets f : Process σ ε α) s Q :=
  ⟨f s, s, rfl, h⟩

theorem mono {x : Process σ ε α} {s : σ} (hx : Returns x s P)
    (h : ∀ a t, P a t → Q a t) : Returns x s Q := by
  obtain ⟨a, t, hrun, hP⟩ := hx
  exact ⟨a, t, hrun, h a t hP⟩

theorem bind {x : Process σ ε α} {f : α → Process σ ε β}
    (hx : Returns x s P) (hf : ∀ a t, P a t → Returns (f a) t R) : Returns (x >>= f) s R := by
  obtain ⟨a, t, hrun, hP⟩ := hx
  obtain ⟨b, u, hrest, hR⟩ := hf a t hP
  exact ⟨b, u, (Process.run_bind_returned hrun f).trans hrest, hR⟩

theorem gets_bind {g : σ → α} {f : α → Process σ ε β}
    (hf : Returns (f (g s)) s R) : Returns (Process.gets g >>= f) s R :=
  hf

theorem ite {c : Prop} [Decidable c] {x y : Process σ ε α}
    (hx : c → Returns x s Q) (hy : ¬c → Returns y s Q) : Returns (if c then x else y) s Q := by
  split
  case isTrue h => exact hx h
  case isFalse h => exact hy h

end Returns

/-- Unless the run of `x` from this state is killed, its end meets one of the two
postconditions. -/
def Survives {σ ε α : Type} (x : Process σ ε α) (s : σ) (Q : α → σ → Prop)
    (E : ε → σ → Prop) : Prop :=
  match x.run s with
  | (.returned a, t) => Q a t
  | (.raised e, t) => E e t
  | (.killed, _) => True

namespace Survives

variable {σ ε α β : Type} {P Q : α → σ → Prop} {R : β → σ → Prop} {E G : ε → σ → Prop}

variable {x y : Process σ ε α} {s t : σ}

theorem of_run {a : α} (h : x.run s = (.returned a, t)) (hQ : Q a t) : Survives x s Q E := by
  unfold Survives
  rw [h]
  exact hQ

variable {e : ε}

theorem of_raised (h : x.run s = (.raised e, t)) (hE : E e t) : Survives x s Q E := by
  unfold Survives
  rw [h]
  exact hE

theorem of_killed (h : x.run s = (.killed, t)) : Survives x s Q E := by
  unfold Survives
  rw [h]
  trivial

theorem pure {a : α} (h : Q a s) : Survives (pure a : Process σ ε α) s Q E :=
  h

theorem raise (h : E e s) : Survives (Process.raise e : Process σ ε α) s Q E :=
  h

theorem mono {x : Process σ ε α} {s : σ} (hx : Survives x s P G)
    (hQ : ∀ a t, P a t → Q a t) (hE : ∀ e t, G e t → E e t) : Survives x s Q E := by
  unfold Survives at hx ⊢
  rcases hr : x.run s with ⟨o, t⟩
  rw [hr] at hx
  cases o with
  | returned a => exact hQ a t hx
  | raised e => exact hE e t hx
  | killed => trivial

theorem bind {f : α → Process σ ε β} (hx : Survives x s P E)
    (hf : ∀ a t, P a t → Survives (f a) t R E) : Survives (x >>= f) s R E := by
  unfold Survives at hx ⊢
  rw [Process.run_bind]
  rcases hr : x.run s with ⟨o, t⟩
  rw [hr] at hx
  cases o with
  | returned a => exact hf a t hx
  | raised e => exact hx
  | killed => trivial

theorem gets_bind {g : σ → α} {f : α → Process σ ε β}
    (hf : Survives (f (g s)) s R E) : Survives (Process.gets g >>= f) s R E :=
  hf

theorem modify_bind {g : σ → σ} {f : Unit → Process σ ε β}
    (hf : Survives (f ()) (g s) R E) : Survives (Process.modify g >>= f) s R E :=
  hf

variable {c : Prop}

theorem require_bind [Decidable c] {f : Unit → Process σ ε β}
    (hf : c → Survives (f ()) s R E) (he : ¬c → E e s) :
    Survives (Process.require c e >>= f) s R E := by
  unfold Survives
  by_cases hc : c
  · rw [Process.run_require_bind hc]
    exact hf hc
  · rw [Process.run_require_bind_not hc]
    exact he hc

theorem require [Decidable c] {Q : Unit → σ → Prop} (hc : c → Q () s)
    (he : ¬c → E e s) : Survives (Process.require c e : Process σ ε Unit) s Q E := by
  unfold Survives
  rw [Process.run_require]
  by_cases h : c
  · rw [if_pos h]
    exact hc h
  · rw [if_neg h]
    exact he h

theorem attempt {handler : ε → Process σ ε α}
    (hx : Survives x s Q G) (hh : ∀ e t, G e t → Survives (handler e) t Q E) :
    Survives (x.attempt handler) s Q E := by
  unfold Survives at hx ⊢
  rw [Process.run_attempt]
  rcases hr : x.run s with ⟨o, t⟩
  rw [hr] at hx
  cases o with
  | returned a => exact hx
  | raised e => exact hh e t hx
  | killed => trivial

theorem ite [Decidable c] (hx : c → Survives x s Q E) (hy : ¬c → Survives y s Q E) :
    Survives (if c then x else y) s Q E := by
  split
  case isTrue h => exact hx h
  case isFalse h => exact hy h

theorem map {f : α → β}
    (hx : Survives x s (fun a t => R (f a) t) E) : Survives (f <$> x) s R E := by
  rw [map_eq_pure_bind]
  exact hx.bind fun _ _ h => h

theorem of_withinAt {F : Frame σ} (h : WithinAt F x s) :
    Survives x s (fun _ t => F.rel s t) fun _ t => F.rel s t := by
  unfold WithinAt at h
  unfold Survives
  rcases hr : x.run s with ⟨o, t⟩
  rw [hr] at h
  cases o with
  | returned a => exact h
  | raised e => exact h
  | killed => trivial

end Survives

/-- Every exception that `x` raises has the property. -/
def RaisesOnly {σ ε α : Type} (P : ε → Prop) (x : Process σ ε α) : Prop :=
  ∀ s e t, x.run s = (.raised e, t) → P e

namespace RaisesOnly

variable {σ ε α β : Type} {P : ε → Prop}

theorem pure (a : α) : RaisesOnly P (pure a : Process σ ε α) :=
  fun _ _ _ h => nomatch h

theorem raise {e : ε} (he : P e) : RaisesOnly P (Process.raise e : Process σ ε α) := by
  intro s e' t h
  cases h
  exact he

theorem gets (f : σ → α) : RaisesOnly P (Process.gets f : Process σ ε α) :=
  fun _ _ _ h => nomatch h

theorem modify (f : σ → σ) : RaisesOnly P (Process.modify f : Process σ ε Unit) :=
  fun _ _ _ h => nomatch h

theorem require {c : Prop} [Decidable c] {e : ε} (he : P e) :
    RaisesOnly P (Process.require c e : Process σ ε Unit) := by
  unfold Process.require
  split
  · exact pure ()
  · exact raise he

theorem bind {x : Process σ ε α} {f : α → Process σ ε β} (hx : RaisesOnly P x)
    (hf : ∀ a, RaisesOnly P (f a)) : RaisesOnly P (x >>= f) := by
  intro s e t h
  rw [Process.run_bind] at h
  rcases hr : x.run s with ⟨o, s'⟩
  rw [hr] at h
  cases o with
  | returned a => exact hf a s' e t h
  | raised e' =>
      cases h
      exact hx _ _ _ hr
  | killed => cases h

end RaisesOnly

/-- Every run of `x` that returns stays within the frame. -/
def OnReturn {σ ε α : Type} (F : Frame σ) (x : Process σ ε α) : Prop :=
  ∀ s a s', x.run s = (.returned a, s') → F.rel s s'

namespace OnReturn

variable {σ τ ε α β : Type} {F : Frame σ}

variable {x y : Process σ ε α}

theorem of_within (h : Within F x) : OnReturn F x := by
  intro s a s' hrun
  have hs := h s
  rwa [hrun] at hs

theorem bind {f : α → Process σ ε β}
    (hx : OnReturn F x) (hf : ∀ a, OnReturn F (f a)) : OnReturn F (x >>= f) := by
  intro s b t hrun
  obtain ⟨a, s', hrun, hrest⟩ := Process.run_bind_eq_returned.mp hrun
  exact F.trans (hx s a s' hrun) (hf a s' b t hrest)

theorem ite {c : Prop} [Decidable c] (hx : OnReturn F x)
    (hy : OnReturn F y) : OnReturn F (if c then x else y) := by
  split
  · exact hx
  · exact hy

end OnReturn

end FxStrategyLab.Library
