import FxStrategyLab.Library.Numerals

/-!
# Dates with a UTC offset

Python's aware `datetime`: a local date and time with the offset of its timezone.  Two of them
are the same instant when they differ by their offsets only; their `isoformat` texts tell them
apart.

**Results.** `isoformat_injective`.
-/

namespace FxStrategyLab.Library
namespace Isoformat

open Numerals

def isLeap (year : Nat) : Bool :=
  year % 4 = 0 && (year % 100 ≠ 0 || year % 400 = 0)

def daysBeforeMonth (year month : Nat) : Nat :=
  [0, 0, 31, 59, 90, 120, 151, 181, 212, 243, 273, 304, 334].getD month 0 +
    if 2 < month ∧ isLeap year then 1 else 0

def daysInMonth (year month : Nat) : Nat :=
  if month = 2 then if isLeap year then 29 else 28
  else [0, 31, 28, 31, 30, 31, 30, 31, 31, 30, 31, 30, 31].getD month 0

def daysBeforeYear (year : Nat) : Nat :=
  (year - 1) * 365 + (year - 1) / 4 - (year - 1) / 100 + (year - 1) / 400

def dayLength : Nat := 86400000000

/-- A date and a time with an offset, in the bounds that the constructor checks. -/
structure AwareDatetime where
  year : Nat
  month : Nat
  day : Nat
  hour : Nat
  minute : Nat
  second : Nat
  microsecond : Nat
  utcoffset : Int
  year_bounds : 1 ≤ year ∧ year ≤ 9999
  month_bounds : 1 ≤ month ∧ month ≤ 12
  day_bounds : 1 ≤ day ∧ day ≤ daysInMonth year month
  time_bounds : hour < 24 ∧ minute < 60 ∧ second < 60 ∧ microsecond < 1000000
  offset_bounds : utcoffset.natAbs < dayLength
deriving DecidableEq

namespace AwareDatetime

def toordinal (t : AwareDatetime) : Nat :=
  daysBeforeYear t.year + daysBeforeMonth t.year t.month + t.day

def timeOfDay (t : AwareDatetime) : Nat :=
  ((t.hour * 60 + t.minute) * 60 + t.second) * 1000000 + t.microsecond

def instant (t : AwareDatetime) : Int :=
  (t.toordinal - 719163) * dayLength + t.timeOfDay - t.utcoffset

end AwareDatetime

def fraction (microsecond : Nat) : List Char :=
  if microsecond = 0 then [] else '.' :: padded 6 microsecond

def offsetSeconds (second microsecond : Nat) : List Char :=
  if second = 0 ∧ microsecond = 0 then [] else ':' :: (padded 2 second ++ fraction microsecond)

def offsetText (utcoffset : Int) : List Char :=
  let size := utcoffset.natAbs
  (if utcoffset < 0 then '-' else '+') ::
    (padded 2 (size / 3600000000) ++ ':' ::
      (padded 2 (size / 60000000 % 60) ++ offsetSeconds (size / 1000000 % 60) (size % 1000000)))

/-- Python's `isoformat`. -/
def isoformat (t : AwareDatetime) : List Char :=
  padded 4 t.year ++ '-' :: (padded 2 t.month ++ '-' :: (padded 2 t.day ++ 'T' ::
    (padded 2 t.hour ++ ':' :: (padded 2 t.minute ++ ':' :: (padded 2 t.second ++
      (fraction t.microsecond ++ offsetText t.utcoffset))))))

def PastDigits (chars : List Char) : Prop :=
  ∀ c ∈ chars.head?, c.isDigit = false

theorem pastDigits_nil : PastDigits [] := by
  simp [PastDigits]

variable {chars xs ys r s : List Char}

theorem pastDigits_cons {c : Char} (hc : c.isDigit = false) : PastDigits (c :: chars) := by
  simpa [PastDigits] using hc

theorem digits_append_inj (hxs : ∀ c ∈ xs, c.isDigit = true)
    (hys : ∀ c ∈ ys, c.isDigit = true) (hr : PastDigits r) (hs : PastDigits s)
    (h : xs ++ r = ys ++ s) : xs = ys ∧ r = s := by
  induction xs generalizing ys with
  | nil =>
      cases ys with
      | nil => exact ⟨rfl, h⟩
      | cons d ys =>
          rw [List.nil_append] at h
          have hdigit := hys d List.mem_cons_self
          rw [hr d (by simp [h])] at hdigit
          cases hdigit
  | cons c xs ih =>
      cases ys with
      | nil =>
          rw [List.nil_append] at h
          have hdigit := hxs c List.mem_cons_self
          rw [hs c (by simp [← h])] at hdigit
          cases hdigit
      | cons d ys =>
          obtain ⟨rfl, hrest⟩ := List.cons.inj h
          obtain ⟨rfl, hsame⟩ := ih (fun e he => hxs e (List.mem_cons_of_mem _ he))
            (fun e he => hys e (List.mem_cons_of_mem _ he)) hrest
          exact ⟨rfl, hsame⟩

variable {v w n m microsecond : Nat}

theorem padded_append_inj (hr : PastDigits r)
    (hs : PastDigits s) (h : padded v n ++ r = padded w m ++ s) : n = m ∧ r = s := by
  obtain ⟨hdigits, hrest⟩ := digits_append_inj (fun _ => isDigit_of_mem_padded)
    (fun _ => isDigit_of_mem_padded) hr hs h
  exact ⟨padded_injective hdigits, hrest⟩

theorem field_inj {c : Char} (hc : c.isDigit = false)
    (h : padded v n ++ c :: r = padded w m ++ c :: s) : n = m ∧ r = s := by
  obtain ⟨hfield, hrest⟩ := padded_append_inj (pastDigits_cons hc) (pastDigits_cons hc) h
  exact ⟨hfield, (List.cons.inj hrest).2⟩

theorem pastDigits_fraction_append (hr : PastDigits r) :
    PastDigits (fraction microsecond ++ r) := by
  unfold fraction
  split_ifs
  · exact hr
  · exact pastDigits_cons (by decide)

theorem pastDigits_offsetText (utcoffset : Int) : PastDigits (offsetText utcoffset) := by
  unfold offsetText
  apply pastDigits_cons
  split_ifs <;> decide

theorem fraction_append_inj (hr : PastDigits r)
    (hs : PastDigits s) (hpoint : '.' ∉ r.head?) (hpoint' : '.' ∉ s.head?)
    (h : fraction n ++ r = fraction m ++ s) : n = m ∧ r = s := by
  unfold fraction at h
  split_ifs at h with hn hm hm
  · exact ⟨hn.trans hm.symm, h⟩
  · exact absurd (by simp at h; simp [h]) hpoint
  · exact absurd (by simp at h; simp [← h]) hpoint'
  · exact padded_append_inj hr hs (List.cons.inj h).2

theorem offsetSeconds_inj {s t n m : Nat} (h : offsetSeconds s n = offsetSeconds t m) :
    s = t ∧ n = m := by
  unfold offsetSeconds at h
  split_ifs at h with hs ht ht
  · exact ⟨hs.1.trans ht.1.symm, hs.2.trans ht.2.symm⟩
  · obtain ⟨hsecond, hfraction⟩ := padded_append_inj
      (by simpa using pastDigits_fraction_append pastDigits_nil)
      (by simpa using pastDigits_fraction_append pastDigits_nil) (List.cons.inj h).2
    refine ⟨hsecond, (fraction_append_inj pastDigits_nil pastDigits_nil (by simp) (by simp)
      (by simpa using hfraction)).1⟩

theorem offsetText_injective {x y : Int} (h : offsetText x = offsetText y) : x = y := by
  unfold offsetText at h
  dsimp only at h
  obtain ⟨hsign, hrest⟩ := List.cons.inj h
  obtain ⟨hhours, hrest⟩ := field_inj (by decide) hrest
  have hpast : ∀ s n, PastDigits (offsetSeconds s n) := by
    intro s n
    unfold offsetSeconds
    split_ifs
    · exact pastDigits_nil
    · exact pastDigits_cons (by decide)
  obtain ⟨hminutes, hrest⟩ := padded_append_inj (hpast _ _) (hpast _ _) hrest
  obtain ⟨hseconds, hmicros⟩ := offsetSeconds_inj hrest
  have hsize : x.natAbs = y.natAbs := by omega
  have hnegative : x < 0 ↔ y < 0 := by
    split_ifs at hsign with hx hy hy
    · exact iff_of_true hx hy
    · exact absurd hsign (by decide)
    · exact absurd hsign (by decide)
    · exact iff_of_false hx hy
  omega

/-- **The text of a date tells its fields and its offset.** -/
theorem isoformat_injective : Function.Injective isoformat := by
  intro t u h
  unfold isoformat at h
  obtain ⟨hyear, h⟩ := field_inj (by decide) h
  obtain ⟨hmonth, h⟩ := field_inj (by decide) h
  obtain ⟨hday, h⟩ := field_inj (by decide) h
  obtain ⟨hhour, h⟩ := field_inj (by decide) h
  obtain ⟨hminute, h⟩ := field_inj (by decide) h
  have hpast := fun x => pastDigits_offsetText x
  obtain ⟨hsecond, h⟩ := padded_append_inj (pastDigits_fraction_append (hpast _))
    (pastDigits_fraction_append (hpast _)) h
  have hsign : ∀ x, '.' ∉ (offsetText x).head? := by
    intro x
    unfold offsetText
    split_ifs <;> simp
  obtain ⟨hmicro, h⟩ := fraction_append_inj (hpast _) (hpast _) (hsign _) (hsign _) h
  have hoffset := offsetText_injective h
  cases t
  cases u
  simp_all

end Isoformat
end FxStrategyLab.Library
