import Mathlib.Logic.Function.Basic
import SoftwareKvm.Lib.Step

/-!
# A directory of files with fallible operations

A directory maps names to contents; creating, removing and renaming a file are
atomic, writing passes through whatever contents a torn write leaves behind.
Every operation takes its outcome from outside: with `fault` set it fails and
leaves the directory as it is.

A `Disk` records the directories it has gone through, so a statement about a
crash after any step of an operation is a statement about every recorded
directory. `During P p` says that the present directory satisfies `p` and every
earlier one `P`; each operation has one rule for it.
-/

namespace SoftwareKvm.Lib

/-- What a directory holds under each name. -/
abbrev Directory (ν κ : Type) : Type := ν → Option κ

inductive FileError
  | notFound
  | alreadyExists
  | other

/-- A directory with the ones it has gone through before, the latest first. -/
structure Disk (ν κ : Type) where
  files : Directory ν κ
  past : List (Directory ν κ) := []

namespace Disk

variable {ν κ : Type}

/-- The directories a crash could have left behind. -/
def history (disk : Disk ν κ) : List (Directory ν κ) := disk.files :: disk.past

/-- The disk after its directory changes to `files`. -/
def become (disk : Disk ν κ) (files : Directory ν κ) : Disk ν κ := ⟨files, disk.history⟩

/-- The present directory satisfies `p` and every earlier one `P`. -/
def During (P p : Directory ν κ → Prop) (disk : Disk ν κ) : Prop :=
  p disk.files ∧ ∀ files ∈ disk.past, P files

section

variable {P p q : Directory ν κ → Prop} {disk : Disk ν κ}

theorem During.mono (h : During P p disk) (hpq : ∀ d, p d → q d) : During P q disk :=
  ⟨hpq _ h.1, h.2⟩

theorem During.become {files : Directory ν κ} (h : During P p disk) (hP : ∀ d, p d → P d)
    (hq : q files) : During P q (disk.become files) := by
  refine ⟨hq, fun d hd => ?_⟩
  rcases List.mem_cons.mp hd with rfl | hd
  · exact hP _ h.1
  · exact h.2 d hd

theorem During.history (h : During P p disk) (hP : ∀ d, p d → P d) : ∀ d ∈ disk.history, P d := by
  intro d hd
  rcases List.mem_cons.mp hd with rfl | hd
  · exact hP _ h.1
  · exact h.2 d hd

end

variable [DecidableEq ν]

/-- Open a file that must not exist yet. -/
def createNew (fault : Bool) (name : ν) (empty : κ) : Step FileError (Disk ν κ) Unit := fun disk =>
  if fault then (.error .other, disk)
  else match disk.files name with
    | some _ => (.error .alreadyExists, disk)
    | none => (.ok (), disk.become (Function.update disk.files name (some empty)))

/-- The file holds each of the contents in turn. -/
def tear (name : ν) (torn : List κ) (disk : Disk ν κ) : Disk ν κ :=
  torn.foldl (fun disk contents => disk.become (Function.update disk.files name (some contents)))
    disk

/-- Write an open file; it holds the `torn` contents before it holds the last. -/
def write (fault : Bool) (torn : List κ) (name : ν) (contents : κ) :
    Step FileError (Disk ν κ) Unit := fun disk =>
  let disk := disk.tear name torn
  if fault then (.error .other, disk)
  else (.ok (), disk.become (Function.update disk.files name (some contents)))

def remove (fault : Bool) (name : ν) : Step FileError (Disk ν κ) Unit := fun disk =>
  if fault then (.error .other, disk)
  else match disk.files name with
    | none => (.error .notFound, disk)
    | some _ => (.ok (), disk.become (Function.update disk.files name none))

/-- Rename a file over whatever `target` holds. -/
def rename (fault : Bool) (source target : ν) : Step FileError (Disk ν κ) Unit := fun disk =>
  if fault then (.error .other, disk)
  else match disk.files source with
    | none => (.error .notFound, disk)
    | some contents =>
      (.ok (), disk.become
        (Function.update (Function.update disk.files source none) target (some contents)))

section Rules

variable {P p q : Directory ν κ → Prop} {f : Disk ν κ → Prop} {fault : Bool} {name : ν}

open Step (Triple)

variable (hP : ∀ d, p d → P d)

include hP

theorem createNew_triple {empty : κ}
    (hq : ∀ d, fault = false → p d → d name = none → q (Function.update d name (some empty)))
    (hf : ∀ disk, fault = true ∨ disk.files name ≠ none → During P p disk → f disk) :
    Triple (During P p) (createNew fault name empty) (fun _ => During P q) f := by
  intro disk h
  unfold createNew
  cases fault with
  | true => exact hf disk (.inl rfl) h
  | false =>
    cases hname : disk.files name with
    | some _ => exact hf disk (.inr (by simp [hname])) h
    | none => exact h.become hP (hq _ rfl h.1 hname)

theorem During.tear
    (hp : ∀ d contents, p d → p (Function.update d name (some contents))) {disk : Disk ν κ}
    (h : During P p disk) (torn : List κ) : During P p (disk.tear name torn) := by
  induction torn generalizing disk with
  | nil => exact h
  | cons contents torn ih => exact ih (h.become hP (hp _ contents h.1))

theorem write_triple {torn : List κ} {contents : κ}
    (hp : ∀ d contents, p d → p (Function.update d name (some contents)))
    (hq : ∀ d, fault = false → p d → q (Function.update d name (some contents)))
    (hf : ∀ disk, fault = true → During P p disk → f disk) :
    Triple (During P p) (write fault torn name contents) (fun _ => During P q) f := by
  intro disk h
  have htorn := h.tear hP hp torn
  cases fault with
  | true => exact hf _ rfl htorn
  | false => exact htorn.become hP (hq _ rfl htorn.1)

theorem remove_triple
    (hq : ∀ d, fault = false → p d → d name ≠ none → q (Function.update d name none))
    (hf : ∀ disk, fault = true ∨ disk.files name = none → During P p disk → f disk) :
    Triple (During P p) (remove fault name) (fun _ => During P q) f := by
  intro disk h
  unfold remove
  cases fault with
  | true => exact hf disk (.inl rfl) h
  | false =>
    cases hname : disk.files name with
    | none => exact hf disk (.inr hname) h
    | some _ => exact h.become hP (hq _ rfl h.1 (by simp [hname]))

theorem remove_during (hp : ∀ d, p d → p (Function.update d name none))
    {disk : Disk ν κ} (h : During P p disk) : During P p ((remove fault name).ignore disk) :=
  Triple.ignore (remove_triple hP (fun d _ hd _ => hp d hd) fun _ _ hdisk => hdisk) h

theorem rename_triple {source target : ν} (hsource : ∀ d, p d → d source ≠ none)
    (hq : ∀ d contents, fault = false → p d → d source = some contents →
      q (Function.update (Function.update d source none) target (some contents)))
    (hf : ∀ disk, fault = true → During P p disk → f disk) :
    Triple (During P p) (rename fault source target) (fun _ => During P q) f := by
  intro disk h
  unfold rename
  cases fault with
  | true => exact hf disk rfl h
  | false =>
    cases hs : disk.files source with
    | none => exact absurd hs (hsource _ h.1)
    | some contents => exact h.become hP (hq _ _ rfl h.1 hs)

end Rules

end Disk

end SoftwareKvm.Lib
