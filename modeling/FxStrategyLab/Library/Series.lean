import FxStrategyLab.Library.Decide

/-!
# Series and what is read of them

Two series agree before a position when they have the same entries up to it.  What reads
only entries before the position, by index, by slice or in a loop over indices, is the same
on both.  Indices and slices are Python's: a negative one counts from the end of the series,
so it reads entries that the agreement says nothing about.
-/

namespace FxStrategyLab.Library
namespace Series

section Reads

variable {α β : Type}

/-- The position that an index stands for: a negative one counts from the end. -/
def position (length : Nat) (index : Int) : Option Nat :=
  if 0 ≤ index then some index.toNat
  else if 0 ≤ index + length then some (index + length).toNat
  else none

def at? (xs : List α) (index : Int) : Option α :=
  (position xs.length index).bind fun i => xs[i]?

def bound (length : Nat) (index : Int) : Nat :=
  min (if 0 ≤ index then index else index + length).toNat length

def slice (xs : List α) (start stop : Int) : List α :=
  (xs.take (bound xs.length stop)).drop (bound xs.length start)

/-- Python's `range(start, stop)`. -/
def indices (start stop : Int) : List Int :=
  (List.range (stop - start).toNat).map fun (i : Nat) => start + (i : Int)

/-- Two series agree on their first `k` entries. -/
def AgreeBefore (k : Nat) (xs ys : List α) : Prop :=
  xs.take k = ys.take k

instance [DecidableEq α] (k : Nat) (xs ys : List α) : Decidable (AgreeBefore k xs ys) :=
  inferInstanceAs (Decidable (xs.take k = ys.take k))

variable {k : Nat} {xs ys : List α}

theorem at?_natCast (xs : List α) (i : Nat) : at? xs i = xs[i]? := by
  simp [at?, position]

variable {i start stop : Int}

theorem at?_of_nonneg (h : 0 ≤ i) : at? xs i = xs[i.toNat]? := by
  simp [at?, position, h]

theorem at?_neg (xs : List α) {back : Nat} (hpos : 0 < back) (hle : back ≤ xs.length) :
    at? xs (-back) = xs[xs.length - back]? := by
  unfold at? position
  rw [if_neg (by omega), if_pos (by omega)]
  simp only [Option.bind_some]
  congr 1
  omega

theorem mem_indices : i ∈ indices start stop ↔ start ≤ i ∧ i < stop := by
  unfold indices
  simp only [List.mem_map, List.mem_range]
  constructor
  · rintro ⟨j, hj, rfl⟩
    omega
  · rintro ⟨hstart, hstop⟩
    exact ⟨(i - start).toNat, by omega, by omega⟩

theorem indices_split {start middle stop : Int} (hstart : start ≤ middle)
    (hstop : middle ≤ stop) : indices start stop = indices start middle ++ indices middle stop := by
  unfold indices
  have hcount : (stop - start).toNat = (middle - start).toNat + (stop - middle).toNat := by
    omega
  rw [hcount, List.range_add, List.map_append, List.map_map]
  congr 1
  refine List.map_congr_left fun i hi => ?_
  simp only [Function.comp_apply]
  omega

theorem slice_nil (start stop : Int) : slice ([] : List α) start stop = [] := by
  simp [slice]

theorem slice_eq_nil (xs : List α) (hstop : 0 ≤ stop)
    (h : stop ≤ start) : slice xs start stop = [] := by
  refine List.drop_eq_nil_of_le ?_
  have hstart : 0 ≤ start := hstop.trans h
  simp only [List.length_take, bound, if_pos hstop, if_pos hstart]
  omega

theorem slice_natCast (xs : List α) {start stop : Nat} (h : stop ≤ xs.length) :
    slice xs start stop = (xs.take stop).drop start := by
  have hbound : bound xs.length start = min start xs.length := by simp [bound]
  have hstop : bound xs.length stop = stop := by simp [bound, h]
  unfold slice
  rw [hstop, hbound]
  rcases le_total start xs.length with hle | hle
  · rw [min_eq_left hle]
  · rw [min_eq_right hle, List.drop_eq_nil_of_le (by simp), List.drop_eq_nil_of_le (by simp; omega)]

namespace AgreeBefore

theorem mono {j : Nat} (h : AgreeBefore k xs ys) (hle : j ≤ k) : AgreeBefore j xs ys := by
  have htake := congrArg (List.take j) h
  rwa [List.take_take, List.take_take, min_eq_left hle] at htake

theorem map (h : AgreeBefore k xs ys) (f : α → β) : AgreeBefore k (xs.map f) (ys.map f) := by
  have hmap := congrArg (List.map f) h
  rwa [List.map_take, List.map_take] at hmap

theorem getElem? {i : Nat} (h : AgreeBefore k xs ys) (hi : i < k) : xs[i]? = ys[i]? := by
  rw [← List.getElem?_take_of_lt hi, h, List.getElem?_take_of_lt hi]

theorem at? {i : Int} (h : AgreeBefore k xs ys) (hnonneg : 0 ≤ i) (hi : i < k) :
    at? xs i = at? ys i := by
  rw [at?_of_nonneg hnonneg, at?_of_nonneg hnonneg]
  exact h.getElem? (by omega)

theorem min_length (h : AgreeBefore k xs ys) : min k xs.length = min k ys.length := by
  simpa using congrArg List.length h

theorem slice {start stop : Int} (h : AgreeBefore k xs ys) (hstart : 0 ≤ start)
    (hstop : 0 ≤ stop) (hk : stop ≤ k) : slice xs start stop = slice ys start stop := by
  have htake : ∀ zs : List α, zs.take (bound zs.length stop) = zs.take stop.toNat := by
    intro zs
    simp only [bound, if_pos hstop]
    rw [← List.take_eq_take_min]
  have hdrop : ∀ zs : List α, (zs.take stop.toNat).drop (bound zs.length start) =
      (zs.take stop.toNat).drop start.toNat := by
    intro zs
    simp only [bound, if_pos hstart]
    rcases le_total start.toNat zs.length with hle | hle
    · rw [min_eq_left hle]
    · rw [min_eq_right hle, List.drop_eq_nil_of_le (by simp),
        List.drop_eq_nil_of_le (by simp; omega)]
  unfold Series.slice
  rw [htake, htake, hdrop, hdrop, h.mono (by omega : stop.toNat ≤ k)]

end AgreeBefore

/-- A series is a part of another one: its entries stand there from a position on. -/
def PartAt (start : Nat) (ys xs : List α) : Prop :=
  ys <+: xs.drop start

namespace PartAt

variable {start : Nat}

theorem map (h : PartAt start ys xs) (f : α → β) : PartAt start (ys.map f) (xs.map f) := by
  unfold PartAt
  rw [← List.map_drop]
  exact List.IsPrefix.map f h

theorem length_le (h : PartAt start ys xs) : ys.length ≤ xs.length - start := by
  simpa using List.IsPrefix.length_le h

theorem getElem? {i : Nat} (h : PartAt start ys xs) (hi : i < ys.length) :
    ys[i]? = xs[start + i]? := by
  obtain ⟨rest, hrest⟩ := h
  rw [← List.getElem?_drop, ← hrest, List.getElem?_append_left hi]

theorem at? {i : Int} (h : PartAt start ys xs) (hnonneg : 0 ≤ i) (hi : i < ys.length) :
    at? ys i = at? xs (start + i) := by
  rw [at?_of_nonneg hnonneg, at?_of_nonneg (by omega), h.getElem? (by omega)]
  congr 1
  omega

theorem take {i : Nat} (h : PartAt start ys xs) (hi : i ≤ ys.length) :
    ys.take i = (xs.drop start).take i := by
  obtain ⟨rest, hrest⟩ := h
  rw [← hrest, List.take_append_of_le_length hi]

theorem slice {first last : Nat} (h : PartAt start ys xs) (hlast : last ≤ ys.length) :
    slice ys first last = slice xs (start + first : Nat) (start + last : Nat) := by
  have hlength := h.length_le
  by_cases hempty : ys.length = 0
  · have hnone : last = 0 := by omega
    subst hnone
    rw [slice_eq_nil _ (by omega) (by omega), slice_eq_nil _ (by omega) (by omega)]
  · have hcount : start + last - start = last := by omega
    have htake : (xs.take (start + last)).drop start = (xs.drop start).take last := by
      rw [List.drop_take, hcount]
    rw [slice_natCast _ hlast, slice_natCast _ (by omega), h.take hlast, ← List.drop_drop, htake]

theorem of_slice (xs : List α) (start : Nat) (stop : Int) :
    PartAt start (Series.slice xs start stop) xs := by
  unfold PartAt Series.slice
  have hbound : bound xs.length start = min start xs.length := by simp [bound]
  rw [hbound]
  rcases le_total start xs.length with hle | hle
  · rw [min_eq_left hle, List.drop_take]
    exact List.take_prefix _ _
  · rw [min_eq_right hle, List.drop_eq_nil_of_le (by simp)]
    exact List.nil_prefix

end PartAt

variable {σ ε : Type}

variable {f g : α → Except ε β}

theorem bind_eq_ok {x : Except ε α} {b : β} (h : (x >>= f) = .ok b) :
    ∃ a, x = .ok a ∧ f a = .ok b := by
  cases x with
  | error e => cases h
  | ok a => exact ⟨a, rfl, h⟩

theorem foldlM_agree {f g : σ → α → Except ε σ} {xs : List α} (s : σ)
    (h : ∀ x ∈ xs, ∀ s, f s x = g s x) : xs.foldlM f s = xs.foldlM g s := by
  induction xs generalizing s with
  | nil => rfl
  | cons x xs ih =>
      rw [List.foldlM_cons, List.foldlM_cons, h x List.mem_cons_self]
      exact bind_congr fun s' => ih s' fun y hy => h y (List.mem_cons_of_mem _ hy)

theorem foldlM_step_ok {f : σ → α → Except ε σ} {xs : List α} {s s' : σ} {x : α}
    (hrun : xs.foldlM f s = .ok s') (hx : x ∈ xs) : ∃ t t', f t x = .ok t' := by
  induction xs generalizing s with
  | nil => cases hx
  | cons y ys ih =>
      rw [List.foldlM_cons] at hrun
      obtain ⟨s₁, hfirst, hrest⟩ := bind_eq_ok hrun
      rcases List.mem_cons.mp hx with rfl | hmem
      · exact ⟨s, s₁, hfirst⟩
      · exact ih hrest hmem

theorem foldlM_total {f : σ → α → Except ε σ} {xs : List α} (s : σ)
    (hstep : ∀ x ∈ xs, ∀ s, ∃ s', f s x = .ok s') : ∃ s', xs.foldlM f s = .ok s' := by
  induction xs generalizing s with
  | nil => exact ⟨s, rfl⟩
  | cons x xs ih =>
      obtain ⟨s₁, hfirst⟩ := hstep x List.mem_cons_self s
      obtain ⟨s', hrest⟩ := ih s₁ fun y hy => hstep y (List.mem_cons_of_mem _ hy)
      exact ⟨s', by rw [List.foldlM_cons, hfirst]; exact hrest⟩

theorem foldlM_preserves {f : σ → α → Except ε σ} {Inv : σ → Prop} {xs : List α} {s s' : σ}
    (hstart : Inv s) (hstep : ∀ x ∈ xs, ∀ s s', Inv s → f s x = .ok s' → Inv s')
    (hrun : xs.foldlM f s = .ok s') : Inv s' := by
  induction xs generalizing s with
  | nil =>
      cases hrun
      exact hstart
  | cons x xs ih =>
      rw [List.foldlM_cons] at hrun
      obtain ⟨s₁, hfirst, hrest⟩ := bind_eq_ok hrun
      exact ih (hstep x List.mem_cons_self s s₁ hstart hfirst)
        (fun y hy => hstep y (List.mem_cons_of_mem _ hy)) hrest

variable {τ γ δ : Type}

/-- **Simulation rule.** Two loops over the same entries stay related when each entry keeps
them so. -/
theorem foldlM_simulates {f : σ → α → Except ε σ} {g : τ → α → Except ε τ}
    {R : σ → τ → Prop} {xs : List α} {s s' : σ} {t : τ}
    (hstep : ∀ x ∈ xs, ∀ s t s', R s t → f s x = .ok s' → ∃ t', g t x = .ok t' ∧ R s' t')
    (hrelated : R s t) (hrun : xs.foldlM f s = .ok s') :
    ∃ t', xs.foldlM g t = .ok t' ∧ R s' t' := by
  induction xs generalizing s t with
  | nil =>
      obtain rfl := Except.ok.inj hrun
      exact ⟨t, rfl, hrelated⟩
  | cons x xs ih =>
      rw [List.foldlM_cons] at hrun
      obtain ⟨s₁, hfirst, hrest⟩ := bind_eq_ok hrun
      obtain ⟨t₁, hfirst', hrelated₁⟩ := hstep x List.mem_cons_self s t s₁ hrelated hfirst
      obtain ⟨t', hrest', hrelated'⟩ :=
        ih (fun y hy => hstep y (List.mem_cons_of_mem _ hy)) hrelated₁ hrest
      refine ⟨t', ?_, hrelated'⟩
      rw [List.foldlM_cons, hfirst']
      exact hrest'

theorem foldlM_image {f : σ → α → Except ε σ} {g : τ → α → Except ε τ}
    {image : τ → σ} (hstep : ∀ t x, f (image t) x = (g t x).map image) (xs : List α) (t : τ) :
    xs.foldlM f (image t) = (xs.foldlM g t).map image := by
  induction xs generalizing t with
  | nil => rfl
  | cons x xs ih =>
      rw [List.foldlM_cons, List.foldlM_cons, hstep t x]
      cases g t x with
      | error e => rfl
      | ok t' => exact ih t'

theorem mapM_eq_some_iff {f : α → Option β} {xs : List α} {ys : List β} :
    xs.mapM f = some ys ↔ xs.map f = ys.map some := by
  induction xs generalizing ys with
  | nil => cases ys <;> simp
  | cons x xs ih =>
      rw [List.mapM_cons, List.map_cons]
      cases ys with
      | nil => cases f x <;> cases xs.mapM f <;> simp
      | cons y ys =>
          rw [List.map_cons, List.cons.injEq, ← ih]
          cases f x <;> cases xs.mapM f <;> simp

/-- Results of entries that are images come in a list that is the image of a list. -/
theorem mapM_image {f : α → Except ε γ} {image : β → γ}
    {xs : List α} (h : ∀ x ∈ xs, f x = (g x).map image) :
    xs.mapM f = (xs.mapM g).map (List.map image) := by
  induction xs with
  | nil => rfl
  | cons x xs ih =>
      rw [List.mapM_cons, List.mapM_cons, h x List.mem_cons_self,
        ih fun y hy => h y (List.mem_cons_of_mem _ hy)]
      cases g x with
      | error e => rfl
      | ok y =>
          cases xs.mapM g with
          | error e => rfl
          | ok ys => rfl

/-- Two loops that end are in the same state where their steps lead to the same one. -/
theorem foldlM_same {f g : σ → α → Except ε σ} {Inv : σ → Prop} {xs : List α} {s s₁ s₂ : σ}
    (hstart : Inv s) (hstep : ∀ x ∈ xs, ∀ s s₁ s₂, Inv s → f s x = .ok s₁ → g s x = .ok s₂ →
      s₁ = s₂ ∧ Inv s₁)
    (hrun₁ : xs.foldlM f s = .ok s₁) (hrun₂ : xs.foldlM g s = .ok s₂) : s₁ = s₂ ∧ Inv s₁ := by
  induction xs generalizing s with
  | nil =>
      cases hrun₁
      cases hrun₂
      exact ⟨rfl, hstart⟩
  | cons x xs ih =>
      rw [List.foldlM_cons] at hrun₁ hrun₂
      obtain ⟨t₁, hfirst₁, hrest₁⟩ := bind_eq_ok hrun₁
      obtain ⟨t₂, hfirst₂, hrest₂⟩ := bind_eq_ok hrun₂
      obtain ⟨rfl, hinv⟩ := hstep x List.mem_cons_self s t₁ t₂ hstart hfirst₁ hfirst₂
      exact ih hinv (fun y hy => hstep y (List.mem_cons_of_mem _ hy)) hrest₁ hrest₂

theorem mapM_eq_ok {g : α → β} {xs : List α}
    (h : ∀ x ∈ xs, f x = .ok (g x)) : xs.mapM f = .ok (xs.map g) := by
  induction xs with
  | nil => rfl
  | cons x xs ih =>
      rw [List.mapM_cons, h x List.mem_cons_self, ih fun y hy => h y (List.mem_cons_of_mem _ hy)]
      rfl

theorem forall₂_of_mapM {xs : List α} {ys : List β}
    (h : xs.mapM f = .ok ys) : List.Forall₂ (fun x y => f x = .ok y) xs ys := by
  induction xs generalizing ys with
  | nil =>
      cases h
      exact .nil
  | cons x xs ih =>
      rw [List.mapM_cons] at h
      obtain ⟨y, hfirst, h⟩ := bind_eq_ok h
      obtain ⟨rest, hrest, h⟩ := bind_eq_ok h
      obtain rfl := Except.ok.inj h
      exact .cons hfirst (ih hrest)

theorem result_of_mapM {xs : List α} {ys : List β} (h : xs.mapM f = .ok ys)
    {x : α} (hx : x ∈ xs) : ∃ y ∈ ys, f x = .ok y := by
  have hrel := forall₂_of_mapM h
  clear h
  induction hrel with
  | nil => cases hx
  | @cons _ y _ _ hfirst _ ih =>
      rcases List.mem_cons.mp hx with rfl | hmem
      · exact ⟨y, List.mem_cons_self, hfirst⟩
      · obtain ⟨y', hy', hresult⟩ := ih hmem
        exact ⟨y', List.mem_cons_of_mem _ hy', hresult⟩

theorem entry_of_mapM {xs : List α} {ys : List β} (h : xs.mapM f = .ok ys)
    {y : β} (hy : y ∈ ys) : ∃ x ∈ xs, f x = .ok y := by
  have hrel := forall₂_of_mapM h
  clear h
  induction hrel with
  | nil => cases hy
  | @cons x _ _ _ hfirst _ ih =>
      rcases List.mem_cons.mp hy with rfl | hmem
      · exact ⟨x, List.mem_cons_self, hfirst⟩
      · obtain ⟨x', hx', hresult⟩ := ih hmem
        exact ⟨x', List.mem_cons_of_mem _ hx', hresult⟩

theorem mapM_agree {xs : List α} (h : ∀ x ∈ xs, f x = g x) : xs.mapM f = xs.mapM g := by
  induction xs with
  | nil => rfl
  | cons x xs ih =>
      rw [List.mapM_cons, List.mapM_cons, h x List.mem_cons_self,
        ih fun y hy => h y (List.mem_cons_of_mem _ hy)]

variable {R : α → β → Prop}

theorem related_entry {xs : List α} {ys : List β}
    (h : List.Forall₂ R xs ys) {i : Nat} {x : α} (hx : xs[i]? = some x) :
    ∃ y, ys[i]? = some y ∧ R x y := by
  induction h generalizing i with
  | nil => simp at hx
  | @cons _ y _ _ hfirst _ ih =>
      cases i with
      | zero =>
          obtain rfl := Option.some.inj hx
          exact ⟨y, rfl, hfirst⟩
      | succ i => simpa using ih (i := i) (by simpa using hx)

theorem forall_iff_of_related {P : α → Prop} {Q : β → Prop} {xs : List α}
    {ys : List β} (h : List.Forall₂ R xs ys) (hiff : ∀ x y, R x y → (P x ↔ Q y)) :
    (∀ x ∈ xs, P x) ↔ ∀ y ∈ ys, Q y := by
  induction h with
  | nil => simp
  | cons hfirst _ ih => simp [hiff _ _ hfirst, ih]

theorem forall₂_iff_of_related {S : γ → δ → Prop}
    {P : α → γ → Prop} {Q : β → δ → Prop} {xs : List α} {ys : List β} {us : List γ} {vs : List δ}
    (hR : List.Forall₂ R xs ys) (hS : List.Forall₂ S us vs)
    (hiff : ∀ x y u v, R x y → S u v → (P x u ↔ Q y v)) :
    List.Forall₂ P xs us ↔ List.Forall₂ Q ys vs := by
  induction hR generalizing us vs with
  | nil => cases hS <;> simp
  | cons hfirst _ ih =>
      cases hS with
      | nil => simp
      | cons hfirst' hrest' => simp [hiff _ _ _ _ hfirst hfirst', ih hrest']

/-- A property of the state at each index, kept by every step, holds behind the loop. -/
theorem foldlM_invariant {f : σ → Nat → Except ε σ} {Inv : Nat → σ → Prop} {start count : Nat}
    {s s' : σ} (hstart : Inv start s)
    (hstep : ∀ i s s', start ≤ i → i < start + count → Inv i s → f s i = .ok s' →
      Inv (i + 1) s')
    (hrun : (List.range' start count).foldlM f s = .ok s') : Inv (start + count) s' := by
  induction count generalizing start s with
  | zero =>
      cases hrun
      exact hstart
  | succ count ih =>
      rw [List.range'_succ, List.foldlM_cons] at hrun
      cases hfirst : f s start with
      | error e =>
          rw [hfirst] at hrun
          cases hrun
      | ok s₁ =>
          rw [hfirst] at hrun
          have hnext := hstep start s s₁ le_rfl (by omega) hstart hfirst
          have hlater := ih hnext (fun i s s' hi hlt => hstep i s s' (by omega) (by omega)) hrun
          rwa [Nat.add_right_comm, Nat.add_assoc] at hlater

end Reads

end Series
end FxStrategyLab.Library
