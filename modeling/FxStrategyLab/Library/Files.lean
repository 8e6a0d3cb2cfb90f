import FxStrategyLab.Library.Process

/-!
# Named files, their writes and what may befall them

A disk holds at most one file under each name.  A write either replaces a file
as a whole or creates a file that must not exist yet.  Each write meets the next
of a list of fates: it succeeds, it raises before or after its effect, or the
process dies before or after it; behind the end of the list every write succeeds.

The rules bound what a write may change (no other name, and no file disappears
except by a removal) and say what a write does when nothing befalls it.
-/

namespace FxStrategyLab.Library

inductive WriteFate
  | succeeds
  | fails
  | failsBehind
  | crashes
  | crashesBehind
deriving DecidableEq

/-- The files by name, and the fates of the writes to come. -/
structure Disk (ν κ : Type) where
  files : ν → Option κ
  fates : List WriteFate := []

namespace Disk

variable {ν κ ε : Type} [DecidableEq ν]

def set (disk : Disk ν κ) (name : ν) (content : Option κ) : Disk ν κ :=
  { disk with files := Function.update disk.files name content }

@[simp]
theorem set_same (disk : Disk ν κ) (name : ν) (content : Option κ) :
    (disk.set name content).files name = content :=
  Function.update_self ..

variable {name other : ν}

@[simp]
theorem set_other (disk : Disk ν κ) (content : Option κ)
    (h : other ≠ name) : (disk.set name content).files other = disk.files other :=
  Function.update_of_ne h ..

@[simp]
theorem set_fates (disk : Disk ν κ) (name : ν) (content : Option κ) :
    (disk.set name content).fates = disk.fates :=
  rfl

def change (osError : ε) (name : ν) (content : Option κ) : Process (Disk ν κ) ε Unit :=
  fun disk =>
    match disk.fates with
    | [] => (.returned (), disk.set name content)
    | .succeeds :: fates => (.returned (), { disk with fates }.set name content)
    | .fails :: fates => (.raised osError, { disk with fates })
    | .failsBehind :: fates => (.raised osError, { disk with fates }.set name content)
    | .crashes :: fates => (.killed, { disk with fates })
    | .crashesBehind :: fates => (.killed, { disk with fates }.set name content)

def replace (osError : ε) (name : ν) (content : κ) : Process (Disk ν κ) ε Unit :=
  change osError name (some content)

def createExclusive (osError present : ε) (name : ν) (content : κ) :
    Process (Disk ν κ) ε Unit := do
  let file ← Process.gets fun disk => disk.files name
  Process.require (file.isNone = true) present
  change osError name (some content)

def remove (osError : ε) (name : ν) : Process (Disk ν κ) ε Unit :=
  change osError name none

def keepsFile (name : ν) : Frame (Disk ν κ) :=
  Frame.fixes fun disk => disk.files name

def keepsPresent (name : ν) : Frame (Disk ν κ) :=
  Frame.keeps fun disk => (disk.files name).isSome = true

/-- The frame in which no file disappears. -/
def grows : Frame (Disk ν κ) where
  rel disk disk' := ∀ name, (disk.files name).isSome = true → (disk'.files name).isSome = true
  refl _ _ h := h
  trans h₁ h₂ name h := h₂ name (h₁ name h)

theorem run_change (osError : ε) (name : ν) (content : Option κ) (disk : Disk ν κ) :
    (change osError name content).run disk =
      match disk.fates with
      | [] => (.returned (), disk.set name content)
      | .succeeds :: fates => (.returned (), { disk with fates }.set name content)
      | .fails :: fates => (.raised osError, { disk with fates })
      | .failsBehind :: fates => (.raised osError, { disk with fates }.set name content)
      | .crashes :: fates => (.killed, { disk with fates })
      | .crashesBehind :: fates => (.killed, { disk with fates }.set name content) :=
  rfl

omit [DecidableEq ν] in
theorem keepsPresent_of_keepsFile {α : Type} {x : Process (Disk ν κ) ε α}
    (h : Within (keepsFile name) x) : Within (keepsPresent name) x := by
  intro disk hpresent
  have hsame : (x.run disk).2.files name = disk.files name := h disk
  rw [hsame]
  exact hpresent

omit [DecidableEq ν] in
theorem grows_of_keepsPresent {α : Type} {x : Process (Disk ν κ) ε α}
    (h : ∀ name, Within (keepsPresent name) x) : Within grows x :=
  fun disk name => h name disk

theorem change_files (osError : ε) (name : ν) (content : Option κ) (disk : Disk ν κ) :
    ((change osError name content).run disk).2.files = disk.files ∨
      ((change osError name content).run disk).2.files = (disk.set name content).files := by
  rw [run_change]
  cases hfates : disk.fates with
  | nil => exact Or.inr rfl
  | cons fate fates =>
      cases fate with
      | succeeds | failsBehind | crashesBehind => exact Or.inr rfl
      | fails | crashes => exact Or.inl rfl

variable {osError present : ε} {disk disk' : Disk ν κ}

theorem change_returned {content : Option κ}
    (h : (change osError name content).run disk = (.returned (), disk')) :
    disk'.files = (disk.set name content).files := by
  rw [run_change] at h
  cases hfates : disk.fates with
  | nil =>
      rw [hfates] at h
      cases h
      rfl
  | cons fate fates =>
      rw [hfates] at h
      cases fate with
      | succeeds =>
          cases h
          rfl
      | fails | failsBehind | crashes | crashesBehind => cases h

theorem change_of_noFates {content : Option κ} (h : disk.fates = []) :
    (change osError name content).run disk = (.returned (), disk.set name content) := by
  rw [run_change, h]

theorem change_keepsFile {content : Option κ}
    (h : other ≠ name) : Within (keepsFile other) (change (κ := κ) osError name content) := by
  intro disk
  show ((change osError name content).run disk).2.files other = disk.files other
  rcases change_files osError name content disk with hsame | hset
  · rw [hsame]
  · rw [hset, set_other _ _ h]

variable {content : κ}

theorem change_keepsPresent :
    Within (keepsPresent other) (change osError name (some content)) := by
  intro disk
  show (disk.files other).isSome = true →
    (((change osError name (some content)).run disk).2.files other).isSome = true
  intro hpresent
  rcases change_files osError name (some content) disk with hsame | hset
  · rw [hsame]
    exact hpresent
  · rw [hset]
    by_cases h : other = name
    · subst h
      simp
    · rw [set_other _ _ h]
      exact hpresent

theorem replace_keepsFile (h : other ≠ name) :
    Within (keepsFile other) (replace osError name content) :=
  change_keepsFile h

theorem replace_keepsPresent : Within (keepsPresent other) (replace osError name content) :=
  change_keepsPresent

theorem createExclusive_keepsFile (h : other ≠ name) :
    Within (keepsFile other) (createExclusive osError present name content) :=
  (Within.gets _).bind fun _ => (Within.require _ _).bind fun _ => change_keepsFile h

theorem createExclusive_keepsPresent :
    Within (keepsPresent other) (createExclusive osError present name content) :=
  (Within.gets _).bind fun _ => (Within.require _ _).bind fun _ => change_keepsPresent

theorem remove_keepsFile (h : other ≠ name) :
    Within (keepsFile other) (remove (κ := κ) osError name) :=
  change_keepsFile h

theorem replace_of_noFates (h : disk.fates = []) :
    (replace osError name content).run disk =
      (.returned (), disk.set name (some content)) :=
  change_of_noFates h

theorem createExclusive_taken (h : (disk.files name).isSome = true) :
    (createExclusive osError present name content).run disk = (.raised present, disk) := by
  unfold createExclusive
  rw [Process.run_gets_bind, Process.run_require_bind_not]
  simpa [Option.isSome_iff_ne_none] using h

theorem createExclusive_free (h : disk.files name = none) (hfates : disk.fates = []) :
    (createExclusive osError present name content).run disk =
      (.returned (), disk.set name (some content)) := by
  unfold createExclusive
  rw [Process.run_gets_bind, Process.run_require_bind (by simp [h])]
  exact change_of_noFates hfates

theorem createExclusive_returned
    (h : (createExclusive osError present name content).run disk = (.returned (), disk')) :
    disk.files name = none ∧ disk'.files = (disk.set name (some content)).files := by
  unfold createExclusive at h
  rw [Process.run_gets_bind] at h
  obtain ⟨hfree, hchange⟩ := Process.run_require_bind_eq_returned.mp h
  exact ⟨by simpa using hfree, change_returned hchange⟩

theorem createExclusive_taken_or {o : Outcome ε Unit}
    (h : (createExclusive osError present name content).run disk = (o, disk')) :
    (disk'.files name).isSome = true ∨ disk'.files = disk.files ∧ o ≠ .returned () := by
  by_cases hfree : disk.files name = none
  · unfold createExclusive at h
    rw [Process.run_gets_bind, Process.run_require_bind (by simp [hfree])] at h
    have hchange := change_files osError name (some content) disk
    rw [h] at hchange
    rcases hchange with hsame | hset
    · right
      refine ⟨hsame, fun ho => ?_⟩
      subst ho
      -- a change that returned has put the file there
      have hput := congrFun (hsame.symm.trans (change_returned h)) name
      rw [hfree, set_same] at hput
      cases hput
    · left
      rw [hset]
      simp
  · left
    have htaken : (disk.files name).isSome = true := Option.isSome_iff_ne_none.mpr hfree
    have hrefused : (createExclusive osError present name content).run disk =
        (.raised present, disk) :=
      createExclusive_taken htaken
    rw [h] at hrefused
    cases hrefused
    exact htaken

theorem remove_of_noFates (h : disk.fates = []) :
    (remove osError name).run disk = (.returned (), disk.set name none) :=
  change_of_noFates h

end Disk

end FxStrategyLab.Library
