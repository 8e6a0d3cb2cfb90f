import FxStrategyLab.Library.Doubles

/-!
# Values as Python orders them

The values of JSON texts under Python's truth, length and comparisons.  Numbers of every kind
compare with each other, texts and arrays with their own kind, an object only with an equal
one; every other comparison raises.  What is no number compares with numbers, but is neither
below nor above them; a reader has one such value, so it is the same as itself.

**Results.**

* `compare_swap`, `compare_then`: where values are in order, the order is total and
  transitive.
* `insertionSort`: a sort that meets the laws of `KeySort`.
-/

namespace FxStrategyLab.Library
namespace PyOrder

open Doubles (Double)

/-- A value; an object holds each key once, and its fields by the order of the keys. -/
inductive Value
  | null
  | boolean (b : Bool)
  | integer (n : Int)
  | float (x : Double)
  | text (s : String)
  | array (items : List Value)
  | object (fields : List (String × Value))

namespace Value

def number? : Value → Option Double
  | .boolean b => some (.finite (if b then 1 else 0))
  | .integer n => some (.finite n)
  | .float x => some x
  | _ => none

/-- Python's truth of a value. -/
def truthy : Value → Bool
  | .null => false
  | .boolean b => b
  | .integer n => n ≠ 0
  | .float x => x ≠ .finite 0
  | .text s => s ≠ ""
  | .array items => !items.isEmpty
  | .object fields => !fields.isEmpty

/-- Python's `len`, which raises on the other values. -/
def length? : Value → Option Nat
  | .text s => some s.length
  | .array items => some items.length
  | .object fields => some fields.length
  | _ => none

/-- A value is `None`. -/
def isNull : Value → Bool
  | .null => true
  | _ => false

end Value

/-- What a comparison says: an order, nothing, or it raises. -/
inductive Comparison
  | ordered (o : Ordering)
  | unordered
  | raises
deriving DecidableEq

def compareDoubles : Double → Double → Comparison
  | .nan, .nan => .ordered .eq
  | .nan, _ => .unordered
  | _, .nan => .unordered
  | .finite x, .finite y => .ordered (Ord.compare x y)
  | .infinite negative, .infinite negative' => .ordered (Ord.compare negative' negative)
  | .infinite negative, .finite _ => .ordered (if negative then .lt else .gt)
  | .finite _, .infinite negative => .ordered (if negative then .gt else .lt)

def compareNumber (x : Double) (b : Value) : Comparison :=
  match b.number? with
  | some y => compareDoubles x y
  | none => .raises

mutual

def compare : Value → Value → Comparison
  | .null, b =>
      match b with
      | .null => .ordered .eq
      | _ => .raises
  | .boolean x, b => compareNumber (.finite (if x then 1 else 0)) b
  | .integer n, b => compareNumber (.finite n) b
  | .float x, b => compareNumber x b
  | .text s, b =>
      match b with
      | .text t => .ordered (Ord.compare s t)
      | _ => .raises
  | .array items, b =>
      match b with
      | .array others => compareItems items others
      | _ => .raises
  | .object fields, b =>
      match b with
      | .object others => compareFields fields others
      | _ => .raises

/-- The comparison of arrays: that of their first items that differ, or of their lengths. -/
def compareItems : List Value → List Value → Comparison
  | [], others =>
      match others with
      | [] => .ordered .eq
      | _ :: _ => .ordered .lt
  | item :: items, others =>
      match others with
      | [] => .ordered .gt
      | other :: others =>
          match compare item other with
          | .ordered .eq => compareItems items others
          | comparison => comparison

def compareFields : List (String × Value) → List (String × Value) → Comparison
  | [], others =>
      match others with
      | [] => .ordered .eq
      | _ :: _ => .raises
  | (key, value) :: fields, others =>
      match others with
      | [] => .raises
      | (key', value') :: others =>
          if key = key' ∧ compare value value' = .ordered .eq then compareFields fields others
          else .raises

end

/-- Python's `==`. -/
def Value.equal (a b : Value) : Bool :=
  match a, b with
  | .float .nan, _ => false
  | _, .float .nan => false
  | _, _ => compare a b = .ordered .eq

def Ordered (a b : Value) : Prop :=
  ∃ o, compare a b = .ordered o

def InOrder (reverse : Bool) (a b : Value) : Prop :=
  ∃ o, compare a b = .ordered o ∧ (if reverse then o.isGE else o.isLE) = true

def Comparison.swap : Comparison → Comparison
  | .ordered o => .ordered o.swap
  | .unordered => .unordered
  | .raises => .raises

theorem linear_swap {α : Type} [LinearOrder α] (x y : α) :
    Ord.compare y x = (Ord.compare x y).swap := by
  rcases lt_trichotomy x y with h | h | h
  · rw [compare_lt_iff_lt.mpr h, compare_gt_iff_gt.mpr h]
    rfl
  · rw [compare_eq_iff_eq.mpr h, compare_eq_iff_eq.mpr h.symm]
    rfl
  · rw [compare_gt_iff_gt.mpr h, compare_lt_iff_lt.mpr h]
    rfl

theorem linear_then {α : Type} [LinearOrder α] {x y z : α} (hxy : (Ord.compare x y).isLE)
    (hyz : (Ord.compare y z).isLE) :
    Ord.compare x z = (Ord.compare x y).then (Ord.compare y z) := by
  have hxy' : x ≤ y := compare_le_iff_le.mp (Ordering.isLE_iff_ne_gt.mp hxy)
  have hyz' : y ≤ z := compare_le_iff_le.mp (Ordering.isLE_iff_ne_gt.mp hyz)
  rcases hxy'.lt_or_eq with h | h
  · rw [compare_lt_iff_lt.mpr h, compare_lt_iff_lt.mpr (lt_of_lt_of_le h hyz')]
    rfl
  · subst h
    rw [compare_eq_iff_eq.mpr rfl]
    rfl

theorem compareDoubles_swap (x y : Double) : compareDoubles y x = (compareDoubles x y).swap := by
  cases x with
  | nan => cases y <;> rfl
  | infinite negative =>
      cases y with
      | nan => rfl
      | infinite negative' => cases negative <;> cases negative' <;> rfl
      | finite y => cases negative <;> rfl
  | finite x =>
      cases y with
      | nan => rfl
      | infinite negative => cases negative <;> rfl
      | finite y => exact congrArg Comparison.ordered (linear_swap x y)

variable {x y z : Double} {o p : Ordering}

theorem compareDoubles_then
    (hxy : compareDoubles x y = .ordered o) (hyz : compareDoubles y z = .ordered p)
    (ho : o.isLE) (hp : p.isLE) : compareDoubles x z = .ordered (o.then p) := by
  cases x with
  | nan =>
      cases y <;> simp only [compareDoubles] at hxy <;> cases hxy
      cases z <;> simp only [compareDoubles] at hyz <;> cases hyz
      rfl
  | infinite negative =>
      cases y with
      | nan => cases hxy
      | infinite negative' =>
          cases z with
          | nan => cases hyz
          | infinite negative'' =>
              cases hxy
              cases hyz
              revert ho hp
              cases negative <;> cases negative' <;> cases negative'' <;> decide
          | finite z =>
              cases negative <;> cases negative' <;> cases hxy <;> cases hyz <;> rfl
      | finite y =>
          cases negative <;> cases hxy
          · cases ho
          cases z with
          | nan => cases hyz
          | infinite negative' => cases negative' <;> cases hyz <;> first | rfl | cases hp
          | finite z => rfl
  | finite x =>
      cases y with
      | nan => cases hxy
      | infinite negative =>
          cases negative <;> cases hxy
          · cases z with
            | nan => cases hyz
            | infinite negative' => cases negative' <;> cases hyz <;> first | rfl | cases hp
            | finite z =>
                cases hyz
                cases hp
          · cases ho
      | finite y =>
          cases hxy
          cases z with
          | nan => cases hyz
          | infinite negative =>
              cases hyz
              cases negative with
              | true => cases hp
              | false =>
                  cases hcompare : Ord.compare x y <;> rw [hcompare] at ho <;>
                    first | rfl | cases ho
          | finite z =>
              cases hyz
              exact congrArg Comparison.ordered (linear_then ho hp)

theorem compareDoubles_refl (x : Double) : compareDoubles x x = .ordered .eq := by
  cases x with
  | nan => rfl
  | infinite negative => cases negative <;> rfl
  | finite x => exact congrArg Comparison.ordered (compare_eq_iff_eq.mpr rfl)

mutual

theorem compare_refl : ∀ a : Value, compare a a = .ordered .eq
  | .null => rfl
  | .boolean x => compareDoubles_refl (.finite (if x then 1 else 0))
  | .integer n => compareDoubles_refl (.finite n)
  | .float x => compareDoubles_refl x
  | .text _ => congrArg Comparison.ordered (compare_eq_iff_eq.mpr rfl)
  | .array items => compareItems_refl items
  | .object fields => compareFields_refl fields

theorem compareItems_refl : ∀ items : List Value, compareItems items items = .ordered .eq
  | [] => rfl
  | item :: items => by
      simp only [compareItems, compare_refl item]
      exact compareItems_refl items

theorem compareFields_refl : ∀ fields : List (String × Value),
    compareFields fields fields = .ordered .eq
  | [] => rfl
  | (key, value) :: fields => by
      simp only [compareFields, compare_refl value]
      exact compareFields_refl fields

end

variable {a b c : Value}

theorem compare_of_number (h : a.number? = some x) (b : Value) :
    compare a b = compareNumber x b := by
  cases a <;> cases h <;> rfl

theorem number_of_ordered (h : a.number? = some x) (hordered : compare a b = .ordered o) :
    ∃ y, b.number? = some y ∧ compareDoubles x y = .ordered o := by
  rw [compare_of_number h, compareNumber] at hordered
  cases hb : b.number? with
  | none =>
      rw [hb] at hordered
      cases hordered
  | some y =>
      rw [hb] at hordered
      exact ⟨y, rfl, hordered⟩

theorem number_swap (h : a.number? = some x) (b : Value) : compare b a = (compare a b).swap := by
  cases hb : b.number? with
  | some y =>
      rw [compare_of_number h, compare_of_number hb, compareNumber, compareNumber, h, hb]
      exact compareDoubles_swap x y
  | none => cases a <;> cases h <;> cases b <;> first | rfl | cases hb

theorem number_then (h : a.number? = some x)
    (hab : compare a b = .ordered o) (hbc : compare b c = .ordered p) (ho : o.isLE)
    (hp : p.isLE) : compare a c = .ordered (o.then p) := by
  obtain ⟨y, hy, hxy⟩ := number_of_ordered h hab
  obtain ⟨z, hz, hyz⟩ := number_of_ordered hy hbc
  rw [compare_of_number h, compareNumber, hz]
  exact compareDoubles_then hxy hyz ho hp

mutual

/-- **Both directions.** A comparison the other way says the opposite. -/
theorem compare_swap : ∀ a b : Value, compare b a = (compare a b).swap
  | .null, b => by cases b <;> rfl
  | .boolean x, b => number_swap rfl b
  | .integer n, b => number_swap rfl b
  | .float x, b => number_swap rfl b
  | .text s, b => by
      cases b with
      | text t => exact congrArg Comparison.ordered (linear_swap s t)
      | _ => rfl
  | .array items, b => by
      cases b with
      | array others => exact compareItems_swap items others
      | _ => rfl
  | .object fields, b => by
      cases b with
      | object others => exact compareFields_swap fields others
      | _ => rfl

theorem compareItems_swap : ∀ items others : List Value,
    compareItems others items = (compareItems items others).swap
  | [], others => by cases others <;> rfl
  | item :: items, others => by
      cases others with
      | nil => rfl
      | cons other others =>
          simp only [compareItems, compare_swap item other]
          cases compare item other with
          | ordered o =>
              cases o with
              | eq => exact compareItems_swap items others
              | lt => rfl
              | gt => rfl
          | unordered => rfl
          | raises => rfl

theorem compareFields_swap : ∀ fields others : List (String × Value),
    compareFields others fields = (compareFields fields others).swap
  | [], others => by cases others <;> rfl
  | (key, value) :: fields, others => by
      cases others with
      | nil => rfl
      | cons other others =>
          obtain ⟨key', value'⟩ := other
          have hsame : (key' = key ∧ compare value' value = .ordered .eq) ↔
              (key = key' ∧ compare value value' = .ordered .eq) := by
            rw [compare_swap value value', eq_comm]
            refine and_congr_right fun _ => ?_
            cases compare value value' with
            | ordered o => cases o <;> simp [Comparison.swap]
            | unordered => simp [Comparison.swap]
            | raises => simp [Comparison.swap]
          simp only [compareFields]
          by_cases h : key = key' ∧ compare value value' = .ordered .eq
          · rw [if_pos h, if_pos (hsame.mpr h)]
            exact compareFields_swap fields others
          · rw [if_neg h, if_neg (fun h' => h (hsame.mp h'))]
            rfl

end

mutual

/-- **Composition.** A step up and another one compose. -/
theorem compare_then : ∀ (a b c : Value) {o p : Ordering}, compare a b = .ordered o →
    compare b c = .ordered p → o.isLE → p.isLE → compare a c = .ordered (o.then p)
  | .null, b, c, o, p, hab, hbc, ho, hp => by
      cases b <;> cases hab
      exact hbc
  | .boolean x, b, c, o, p, hab, hbc, ho, hp => number_then rfl hab hbc ho hp
  | .integer n, b, c, o, p, hab, hbc, ho, hp => number_then rfl hab hbc ho hp
  | .float x, b, c, o, p, hab, hbc, ho, hp => number_then rfl hab hbc ho hp
  | .text s, b, c, o, p, hab, hbc, ho, hp => by
      cases b with
      | text t =>
          cases c with
          | text u =>
              cases hab
              cases hbc
              exact congrArg Comparison.ordered (linear_then ho hp)
          | _ => cases hbc
      | _ => cases hab
  | .array items, b, c, o, p, hab, hbc, ho, hp => by
      cases b with
      | array others =>
          cases c with
          | array thirds => exact compareItems_then items others thirds hab hbc ho hp
          | _ => cases hbc
      | _ => cases hab
  | .object fields, b, c, o, p, hab, hbc, ho, hp => by
      cases b with
      | object others =>
          cases c with
          | object thirds => exact compareFields_then fields others thirds hab hbc
          | _ => cases hbc
      | _ => cases hab

theorem compareItems_then : ∀ (items others thirds : List Value) {o p : Ordering},
    compareItems items others = .ordered o → compareItems others thirds = .ordered p →
    o.isLE → p.isLE → compareItems items thirds = .ordered (o.then p)
  | [], others, thirds, o, p, hab, hbc, ho, hp => by
      cases others with
      | nil =>
          cases hab
          exact hbc
      | cons other others =>
          cases hab
          cases thirds with
          | nil =>
              cases hbc
              cases hp
          | cons third thirds => rfl
  | item :: items, others, thirds, o, p, hab, hbc, ho, hp => by
      cases others with
      | nil =>
          cases hab
          cases ho
      | cons other others =>
          cases thirds with
          | nil =>
              cases hbc
              cases hp
          | cons third thirds =>
              simp only [compareItems] at hab hbc ⊢
              cases hfirst : compare item other with
              | ordered q =>
                  rw [hfirst] at hab
                  cases hsecond : compare other third with
                  | ordered r =>
                      rw [hsecond] at hbc
                      cases q with
                      | gt =>
                          cases hab
                          cases ho
                      | lt =>
                          cases hab
                          cases r with
                          | gt =>
                              cases hbc
                              cases hp
                          | lt =>
                              rw [compare_then item other third hfirst hsecond rfl rfl]
                              rfl
                          | eq =>
                              rw [compare_then item other third hfirst hsecond rfl rfl]
                              rfl
                      | eq =>
                          cases r with
                          | gt =>
                              cases hbc
                              cases hp
                          | lt =>
                              rw [compare_then item other third hfirst hsecond rfl rfl]
                              cases hbc
                              cases o with
                              | gt => cases ho
                              | lt => rfl
                              | eq => rfl
                          | eq =>
                              rw [compare_then item other third hfirst hsecond rfl rfl]
                              exact compareItems_then items others thirds hab hbc ho hp
                  | unordered =>
                      rw [hsecond] at hbc
                      cases hbc
                  | raises =>
                      rw [hsecond] at hbc
                      cases hbc
              | unordered =>
                  rw [hfirst] at hab
                  cases hab
              | raises =>
                  rw [hfirst] at hab
                  cases hab

theorem compareFields_then : ∀ (fields others thirds : List (String × Value))
    {o p : Ordering}, compareFields fields others = .ordered o →
    compareFields others thirds = .ordered p →
    compareFields fields thirds = .ordered (o.then p)
  | [], others, thirds, o, p, hab, hbc => by
      cases others with
      | nil =>
          cases hab
          exact hbc
      | cons other others => cases hab
  | (key, value) :: fields, others, thirds, o, p, hab, hbc => by
      cases others with
      | nil => cases hab
      | cons other others =>
          obtain ⟨key', value'⟩ := other
          cases thirds with
          | nil => cases hbc
          | cons third thirds =>
              obtain ⟨key'', value''⟩ := third
              simp only [compareFields] at hab hbc ⊢
              split_ifs at hab hbc with hfirst hsecond
              have hvalues := compare_then value value' value'' hfirst.2 hsecond.2 rfl rfl
              rw [if_pos ⟨hfirst.1.trans hsecond.1, hvalues⟩]
              exact compareFields_then fields others thirds hab hbc

end

theorem compare_eq_iff (h : compare a b = .ordered .eq) (c : Value) :
    compare a c = .ordered .eq ↔ compare c b = .ordered .eq := by
  have hback : compare b a = .ordered .eq := by
    rw [compare_swap a b, h]
    rfl
  constructor
  · intro hac
    have hca : compare c a = .ordered .eq := by
      rw [compare_swap a c, hac]
      rfl
    exact compare_then c a b hca h rfl rfl
  · intro hcb
    have hbc : compare b c = .ordered .eq := by
      rw [compare_swap c b, hcb]
      rfl
    exact compare_then a b c h hbc rfl rfl

def Value.isNan : Value → Bool
  | .float .nan => true
  | _ => false

theorem equal_iff (a b : Value) :
    a.equal b = true ↔ a.isNan = false ∧ b.isNan = false ∧ compare a b = .ordered .eq := by
  have hnumber : ∀ v w : Value, v.isNan = false → w.isNan = false →
      v.equal w = decide (compare v w = .ordered .eq) := by
    intro v w hv hw
    unfold Value.equal
    split
    next => cases hv
    next => cases hw
    next => rfl
  cases ha : a.isNan with
  | true =>
      have hunequal : a.equal b = false := by
        unfold Value.isNan at ha
        split at ha
        next => rfl
        next => cases ha
      simp [hunequal]
  | false =>
      cases hb : b.isNan with
      | true =>
          have hunequal : a.equal b = false := by
            unfold Value.isNan at hb
            split at hb
            next =>
              unfold Value.equal
              split <;> first | rfl | contradiction
            next => cases hb
          simp [hunequal]
      | false => simp [hnumber a b ha hb]

theorem equal_congr (h : a.equal b = true) (c : Value) : a.equal c = true ↔ c.equal b = true := by
  rw [equal_iff] at h
  rw [equal_iff, equal_iff, compare_eq_iff h.2.2]
  simp [h.1, h.2.1]

/-- A sort of rows by a key, as Python's `sort` documents it: it raises where a comparison
does, and where the keys are ordered, it returns the rows in their order. -/
structure KeySort where
  run : {α : Type} → (α → Value) → Bool → List α → Option (List α)
  perm : ∀ {α : Type} {key : α → Value} {reverse : Bool} {rows sorted : List α},
    run key reverse rows = some sorted → sorted.Perm rows
  total : ∀ {α : Type} {key : α → Value} {reverse : Bool} {rows : List α},
    (∀ x ∈ rows, ∀ y ∈ rows, Ordered (key x) (key y)) →
      ∃ sorted, run key reverse rows = some sorted ∧
        sorted.Pairwise fun x y => InOrder reverse (key x) (key y)

theorem InOrder.ordered {reverse : Bool} (h : InOrder reverse a b) :
    Ordered a b ∧ Ordered b a := by
  obtain ⟨o, ho, -⟩ := h
  refine ⟨⟨o, ho⟩, o.swap, ?_⟩
  rw [compare_swap a b, ho]
  rfl

theorem InOrder.trans {reverse : Bool} (hab : InOrder reverse a b)
    (hbc : InOrder reverse b c) : InOrder reverse a c := by
  obtain ⟨o, ho, hle⟩ := hab
  obtain ⟨p, hp, hle'⟩ := hbc
  cases reverse with
  | false =>
      refine ⟨o.then p, compare_then a b c ho hp hle hle', ?_⟩
      cases o <;> first | exact hle' | rfl | cases hle
  | true =>
      have hback : compare c a = .ordered (p.swap.then o.swap) := by
        refine compare_then c b a ?_ ?_ ?_ ?_
        · rw [compare_swap b c, hp]
          rfl
        · rw [compare_swap a b, ho]
          rfl
        · cases p <;> first | rfl | cases hle'
        · cases o <;> first | rfl | cases hle
      refine ⟨(p.swap.then o.swap).swap, ?_, ?_⟩
      · rw [compare_swap c a, hback]
        rfl
      · revert hle hle'
        cases p <;> cases o <;> decide

theorem InOrder.total {a b : Value} (reverse : Bool) (h : Ordered a b) :
    InOrder reverse a b ∨ InOrder reverse b a := by
  obtain ⟨o, ho⟩ := h
  have hback : compare b a = .ordered o.swap := by
    rw [compare_swap a b, ho]
    rfl
  cases reverse <;> cases o <;>
    first
      | exact Or.inl ⟨_, ho, rfl⟩
      | exact Or.inr ⟨_, hback, rfl⟩

section Insertion

variable {α : Type} (key : α → Value) (reverse : Bool)

def inFront (x y : α) : Option Bool :=
  match compare (key x) (key y) with
  | .ordered o => some (if reverse then o.isGE else o.isLE)
  | .unordered => some false
  | .raises => none

def insertRow (x : α) : List α → Option (List α)
  | [] => some [x]
  | y :: rows => do
      if ← inFront key reverse x y then some (x :: y :: rows)
      else some (y :: (← insertRow x rows))

def insertRows : List α → Option (List α)
  | [] => some []
  | x :: rows => do insertRow key reverse x (← insertRows rows)

variable {key reverse}

variable {rows inserted sorted : List α}

theorem insertRow_perm {x : α}
    (h : insertRow key reverse x rows = some inserted) : inserted.Perm (x :: rows) := by
  induction rows generalizing inserted with
  | nil =>
      cases Option.some.inj h
      exact List.Perm.refl _
  | cons y rows ih =>
      rw [insertRow] at h
      obtain ⟨front, -, h⟩ := Option.bind_eq_some_iff.mp h
      cases front with
      | true =>
          cases Option.some.inj h
          exact List.Perm.refl _
      | false =>
          obtain ⟨rest, hrest, h⟩ := Option.bind_eq_some_iff.mp h
          cases Option.some.inj h
          exact ((ih hrest).cons y).trans (List.Perm.swap x y rows)

theorem insertRows_perm (h : insertRows key reverse rows = some sorted) : sorted.Perm rows := by
  induction rows generalizing sorted with
  | nil =>
      cases Option.some.inj h
      exact List.Perm.refl _
  | cons x rows ih =>
      obtain ⟨rest, hrest, h⟩ := Option.bind_eq_some_iff.mp h
      exact (insertRow_perm h).trans ((ih hrest).cons x)

theorem insertRow_sorted {x : α} (hordered : ∀ y ∈ rows, Ordered (key x) (key y))
    (hsorted : rows.Pairwise fun x y => InOrder reverse (key x) (key y)) :
    ∃ inserted, insertRow key reverse x rows = some inserted ∧
      inserted.Pairwise fun x y => InOrder reverse (key x) (key y) := by
  induction rows with
  | nil => exact ⟨[x], rfl, List.pairwise_singleton _ _⟩
  | cons y rows ih =>
      obtain ⟨hhead, htail⟩ := List.pairwise_cons.mp hsorted
      obtain ⟨o, ho⟩ := hordered y List.mem_cons_self
      have hfront : inFront key reverse x y = some (if reverse then o.isGE else o.isLE) := by
        rw [inFront, ho]
      rw [insertRow, hfront]
      cases hle : (if reverse then o.isGE else o.isLE) with
      | true =>
          refine ⟨_, rfl, List.pairwise_cons.mpr ⟨fun z hz => ?_, hsorted⟩⟩
          have hxy : InOrder reverse (key x) (key y) := ⟨o, ho, hle⟩
          rcases List.mem_cons.mp hz with rfl | hz
          · exact hxy
          · exact hxy.trans (hhead z hz)
      | false =>
          obtain ⟨inserted, hinserted, hkept⟩ :=
            ih (fun z hz => hordered z (List.mem_cons_of_mem _ hz)) htail
          refine ⟨y :: inserted, by simp [hinserted], List.pairwise_cons.mpr ⟨fun z hz => ?_, hkept⟩⟩
          rcases List.mem_cons.mp ((insertRow_perm hinserted).mem_iff.mp hz) with rfl | hz
          · rcases InOrder.total reverse ⟨o, ho⟩ with ⟨q, hq, hge⟩ | hback
            · rw [ho] at hq
              cases hq
              rw [hle] at hge
              cases hge
            · exact hback
          · exact hhead z hz

theorem insertRows_total (h : ∀ x ∈ rows, ∀ y ∈ rows, Ordered (key x) (key y)) :
    ∃ sorted, insertRows key reverse rows = some sorted ∧
      sorted.Pairwise fun x y => InOrder reverse (key x) (key y) := by
  induction rows with
  | nil => exact ⟨[], rfl, List.Pairwise.nil⟩
  | cons x rows ih =>
      obtain ⟨rest, hrest, hsorted⟩ := ih fun y hy z hz =>
        h y (List.mem_cons_of_mem _ hy) z (List.mem_cons_of_mem _ hz)
      rw [insertRows, hrest]
      refine insertRow_sorted (fun y hy => h x List.mem_cons_self y ?_) hsorted
      exact List.mem_cons_of_mem _ ((insertRows_perm hrest).mem_iff.mp hy)

end Insertion

def insertionSort : KeySort where
  run := insertRows
  perm := insertRows_perm
  total := insertRows_total

end PyOrder
end FxStrategyLab.Library
