import Mathlib.Data.List.Basic

/-!
# A setting with an overlay

A value kept in two cells: a base, and an overlay that hides the base once
it has been written.  A history of writes to either cell ends with the last
write to each, so what is read is the last write of all only where the two
agree with it.
-/

namespace Overlay

/-- A write to one of the cells. -/
inductive Write (α : Type) where
  | base (value : α)
  | overlay (value : α)

/-- The two cells. -/
structure Setting (α : Type) where
  base : α
  overlay : Option α

variable {α : Type}

def Write.value : Write α → α
  | .base value => value
  | .overlay value => value

/-- The values written to the base. -/
def bases (writes : List (Write α)) : List α :=
  writes.filterMap fun
    | .base value => some value
    | .overlay _ => none

/-- The values written to the overlay. -/
def overlays (writes : List (Write α)) : List α :=
  writes.filterMap fun
    | .base _ => none
    | .overlay value => some value

/-- The last value written to either cell. -/
def lastWritten (initial : α) (writes : List (Write α)) : α :=
  (writes.map Write.value).getLastD initial

namespace Setting

/-- What is read: the overlay, if there is one. -/
def value (setting : Setting α) : α :=
  setting.overlay.getD setting.base

def write (setting : Setting α) : Write α → Setting α
  | .base value => { setting with base := value }
  | .overlay value => { setting with overlay := some value }

/-- The cells after a history of writes. -/
def writeAll (setting : Setting α) (writes : List (Write α)) : Setting α :=
  writes.foldl write setting

@[simp]
theorem writeAll_nil (setting : Setting α) :
    setting.writeAll [] = setting := rfl

@[simp]
theorem writeAll_cons (setting : Setting α) (first : Write α)
    (rest : List (Write α)) :
    setting.writeAll (first :: rest) =
      (setting.write first).writeAll rest := rfl

/-- The base holds the last value written to it. -/
theorem base_writeAll (setting : Setting α) (writes : List (Write α)) :
    (setting.writeAll writes).base =
      (bases writes).getLastD setting.base := by
  induction writes generalizing setting with
  | nil =>
      rfl
  | cons first rest inductionHypothesis =>
      rw [writeAll_cons, inductionHypothesis]
      cases first with
      | base value =>
          exact (List.getLastD_cons ..).symm
      | overlay value =>
          rfl

/-- The overlay holds the last value written to it. -/
theorem overlay_writeAll (setting : Setting α) (writes : List (Write α)) :
    (setting.writeAll writes).overlay =
      (overlays writes).getLast?.or setting.overlay := by
  induction writes generalizing setting with
  | nil =>
      rfl
  | cons first rest inductionHypothesis =>
      rw [writeAll_cons, inductionHypothesis]
      cases first with
      | base value =>
          rfl
      | overlay value =>
          change
            (overlays rest).getLast?.or (some value) =
              (value :: overlays rest).getLast?.or setting.overlay
          rw [List.getLast?_cons]
          cases (overlays rest).getLast? <;> rfl

theorem writeAll_append (setting : Setting α)
    (front back : List (Write α)) :
    setting.writeAll (front ++ back) =
      (setting.writeAll front).writeAll back :=
  List.foldl_append

/-- Writes to the base alone. -/
theorem writeAll_map_base (setting : Setting α) (values : List α) :
    setting.writeAll (values.map .base) =
      ⟨values.getLastD setting.base, setting.overlay⟩ := by
  induction values generalizing setting with
  | nil =>
      rfl
  | cons value rest inductionHypothesis =>
      rw [List.map_cons, writeAll_cons, inductionHypothesis,
        List.getLastD_cons]
      rfl

/-- Without writes to the overlay the base is read, and it is up to date. -/
theorem lastWritten_of_overlays_nil {initial : α}
    {writes : List (Write α)} (none : overlays writes = []) :
    (bases writes).getLastD initial = lastWritten initial writes := by
  have all : bases writes = writes.map Write.value := by
    induction writes with
    | nil =>
        rfl
    | cons first rest inductionHypothesis =>
        cases first with
        | base value =>
            exact congrArg (value :: ·) (inductionHypothesis none)
        | overlay value =>
            cases none
  rw [lastWritten, all]

/-- A fresh setting reads as the last write just when the last write to the
overlay, if there was one, says the same. -/
theorem value_writeAll_eq_lastWritten_iff {initial : α}
    {writes : List (Write α)} :
    ((⟨initial, none⟩ : Setting α).writeAll writes).value =
        lastWritten initial writes ↔
      ∀ value, (overlays writes).getLast? = some value →
        value = lastWritten initial writes := by
  rw [value, overlay_writeAll, base_writeAll, Option.or_none]
  cases last : (overlays writes).getLast? with
  | none =>
      have upToDate : (bases writes).getLastD initial =
          lastWritten initial writes :=
        lastWritten_of_overlays_nil (List.getLast?_eq_none_iff.mp last)
      rw [Option.getD_none, upToDate]
      simp
  | some value =>
      simp

end Setting

end Overlay
