import SoftwareKvm.Lib.Runs
import SoftwareKvm.Types.Input

/-!
# The modifier tracker

A model of `Modifiers::apply` and `ModifierTracker` (`kvm-input/src/semantic.rs`, lines
85–105 and 222–248). The left and the right key of a group share one flag, and every
transition of either overwrites it.

* `KeyRun.reflects_iff`: the flags are those of the held keys after every step of a run
  exactly if no modifier key is released while the other key of its group is held.
-/

namespace SoftwareKvm

open Lib

/-- `Modifiers`; `meta` is reserved. -/
structure Modifiers where
  control : Bool := false
  alt : Bool := false
  shift : Bool := false
  metaKey : Bool := false
  deriving DecidableEq

def Modifiers.apply (m : Modifiers) (code : KeyCode) (pressed : Bool) : Bool × Modifiers :=
  match code with
  | .named .controlLeft | .named .controlRight => (true, { m with control := pressed })
  | .named .altLeft | .named .altRight => (true, { m with alt := pressed })
  | .named .shiftLeft | .named .shiftRight => (true, { m with shift := pressed })
  | .named .metaLeft | .named .metaRight => (true, { m with metaKey := pressed })
  | _ => (false, m)

/-- `ModifierTracker`; `current` returns its modifiers. -/
structure ModifierTracker where
  modifiers : Modifiers := {}

def ModifierTracker.apply (tracker : ModifierTracker) (code : KeyCode) (pressed : Bool) :
    Bool × ModifierTracker :=
  let (tracked, modifiers) := tracker.modifiers.apply code pressed
  (tracked, ⟨modifiers⟩)

/-! ## Runs -/

/-- The tracker and the keys that are held. -/
structure KeyRun where
  tracker : ModifierTracker := {}
  held : KeyCode → Bool := fun _ => false

namespace KeyRun

/-- A key goes down or up. -/
def step (s : KeyRun) (transition : KeyCode × Bool) : KeyRun where
  tracker := (s.tracker.apply transition.1 transition.2).2
  held := Function.update s.held transition.1 transition.2

/-- A key that is up is pressed, one that is held is released. -/
def WellFormed (s : KeyRun) (transition : KeyCode × Bool) : Prop :=
  s.held transition.1 = !transition.2

/-- The modifiers that the user is holding. -/
def heldModifiers (s : KeyRun) : Modifiers where
  control := s.held (.named .controlLeft) || s.held (.named .controlRight)
  alt := s.held (.named .altLeft) || s.held (.named .altRight)
  shift := s.held (.named .shiftLeft) || s.held (.named .shiftRight)
  metaKey := s.held (.named .metaLeft) || s.held (.named .metaRight)

def Reflects (s : KeyRun) : Prop := s.tracker.modifiers = s.heldModifiers

/-- The left and the right key of each group. -/
def groups : List (KeyCode × KeyCode) :=
  [(.named .controlLeft, .named .controlRight), (.named .altLeft, .named .altRight),
   (.named .shiftLeft, .named .shiftRight), (.named .metaLeft, .named .metaRight)]

/-- No modifier key is released while the other key of its group is held. -/
def Alone (s : KeyRun) (transition : KeyCode × Bool) : Prop :=
  transition.2 = false → ∀ group ∈ groups,
    (transition.1 = group.1 → s.held group.2 = false) ∧
      (transition.1 = group.2 → s.held group.1 = false)

theorem reflects_step {s : KeyRun} (h : s.Reflects) (transition : KeyCode × Bool) :
    (s.step transition).Reflects ↔ s.Alone transition := by
  obtain ⟨code, pressed⟩ := transition
  simp only [Reflects, step, ModifierTracker.apply, Modifiers.apply, Alone, groups] at h ⊢
  rw [h, heldModifiers, heldModifiers]
  split
  -- an ordinary key moves no flag and is in no group
  case h_9 => grind [Function.update]
  all_goals cases pressed <;> simp [Function.update]

/-- From the empty tracker on, the flags are those of the held keys after every step
    exactly if every release of a modifier key finds the other key of its group up. -/
theorem reflects_iff (transitions : List (KeyCode × Bool)) :
    (∀ l, l <+: transitions → (execute step {} l).Reflects) ↔
      Admissible Alone step {} transitions := by
  have hstart : Reflects {} := rfl
  generalize ({} : KeyRun) = s at hstart ⊢
  induction transitions generalizing s with
  | nil => exact ⟨fun _ => trivial, fun _ l hl => by rwa [List.prefix_nil.mp hl]⟩
  | cons transition rest ih =>
    have hstep := reflects_step hstart transition
    constructor
    · intro hall
      have hfirst : (s.step transition).Reflects := hall [transition] ⟨rest, rfl⟩
      exact ⟨hstep.mp hfirst, (ih _ hfirst).mp fun l hl =>
        hall (transition :: l) (List.cons_prefix_cons.mpr ⟨rfl, hl⟩)⟩
    · rintro ⟨halone, hrest⟩ l hl
      rcases List.prefix_cons_iff.mp hl with rfl | ⟨l', rfl, hl'⟩
      · exact hstart
      · exact (ih _ (hstep.mpr halone)).mpr hrest l' hl'

/-- Both shift keys go down and the left one is released: the right one is held, and the
    tracker has no shift. -/
theorem released_beside_twin :
    let transitions := [(.named .shiftLeft, true), (.named .shiftRight, true),
      (.named .shiftLeft, false)]
    Admissible WellFormed step {} transitions ∧
      (execute step {} transitions).held (.named .shiftRight) = true ∧
      (execute step {} transitions).tracker.modifiers.shift = false ∧
      ¬ (execute step {} transitions).Reflects := by
  refine ⟨⟨rfl, rfl, rfl, trivial⟩, rfl, rfl, ?_⟩
  unfold Reflects
  decide

end KeyRun

end SoftwareKvm
