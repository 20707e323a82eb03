import Mathlib

/-!
# Steps with a footprint

A step changes a map from keys to contents and, beside it, a small shared
state.  It is local to a set of keys when it neither reads nor writes
contents outside that set.  Local steps with disjoint footprints that leave
the shared state as it is commute, and a run of local steps may be replayed on
any map that agrees with the first one on a set covering the footprints.
-/

namespace Footprint

variable {σ κ β : Type}

/-- A step from a shared state and a map to another pair. -/
abbrev Step (σ κ β : Type) : Type :=
  σ → (κ → β) → σ → (κ → β) → Prop

structure Local (keys : Set κ) (step : Step σ κ β) : Prop where
  frame : ∀ {shared before shared' after},
    step shared before shared' after → Set.EqOn after before keysᶜ
  reads : ∀ {shared left right shared' left'},
    Set.EqOn left right keys → step shared left shared' left' →
      ∃ right', step shared right shared' right' ∧
        Set.EqOn left' right' keys

/-- The shared state is not written. -/
def Quiet (step : Step σ κ β) : Prop :=
  ∀ {shared before shared' after}, step shared before shared' after →
    shared' = shared

theorem Local.mono {keys larger : Set κ} {step : Step σ κ β}
    (isLocal : Local keys step) (subset : keys ⊆ larger) :
    Local larger step where
  frame ran :=
    (isLocal.frame ran).mono (Set.compl_subset_compl.mpr subset)
  reads := by
    intro shared left right shared' left' agree ran
    obtain ⟨right', ranRight, agree'⟩ :=
      isLocal.reads (agree.mono subset) ran
    refine ⟨right', ranRight, ?_⟩
    intro wanted member
    by_cases inside : wanted ∈ keys
    · exact agree' inside
    · rw [isLocal.frame ran inside, isLocal.frame ranRight inside]
      exact agree member

/-- Two quiet local steps with disjoint footprints may be swapped. -/
theorem Local.commute {left right : Set κ} (apart : Disjoint left right)
    {first second : Step σ κ β}
    (firstLocal : Local left first) (secondLocal : Local right second)
    (firstQuiet : Quiet first) (secondQuiet : Quiet second)
    {shared middleShared finalShared : σ} {start middle final : κ → β}
    (ranFirst : first shared start middleShared middle)
    (ranSecond : second middleShared middle finalShared final) :
    ∃ other, second shared start shared other ∧
      first shared other shared final := by
  have outside {wanted : κ} (member : wanted ∈ right) : wanted ∈ leftᶜ :=
    Set.disjoint_right.mp apart member
  have inside {wanted : κ} (member : wanted ∈ left) : wanted ∈ rightᶜ :=
    Set.disjoint_left.mp apart member
  cases firstQuiet ranFirst
  cases secondQuiet ranSecond
  have startMiddle : Set.EqOn middle start right := fun _ member =>
    firstLocal.frame ranFirst (outside member)
  obtain ⟨other, ranOther, otherFinal⟩ :=
    secondLocal.reads startMiddle ranSecond
  have startOther : Set.EqOn start other left := fun _ member =>
    (secondLocal.frame ranOther (inside member)).symm
  obtain ⟨last, ranLast, lastMiddle⟩ :=
    firstLocal.reads startOther ranFirst
  have same : last = final := by
    funext wanted
    by_cases inLeft : wanted ∈ left
    · rw [← lastMiddle inLeft,
        secondLocal.frame ranSecond (inside inLeft)]
    · rw [firstLocal.frame ranLast inLeft]
      by_cases inRight : wanted ∈ right
      · exact (otherFinal inRight).symm
      · rw [secondLocal.frame ranOther inRight,
          secondLocal.frame ranSecond inRight,
          firstLocal.frame ranFirst inLeft]
  exact ⟨other, ranOther, same ▸ ranLast⟩

/-- One step after another. -/
inductive Run {ι : Type} (step : ι → Step σ κ β) :
    List ι → Step σ κ β
  | nil {shared : σ} {contents : κ → β} :
      Run step [] shared contents shared contents
  | cons {label : ι} {labels : List ι} {shared middleShared finalShared : σ}
      {start middle final : κ → β}
      (first : step label shared start middleShared middle)
      (rest : Run step labels middleShared middle finalShared final) :
      Run step (label :: labels) shared start finalShared final

/-- A run of steps local to `keys` is local to `keys`. -/
theorem Run.isLocal {ι : Type} {step : ι → Step σ κ β} {keys : Set κ} :
    ∀ {labels : List ι}, (∀ label ∈ labels, Local keys (step label)) →
      Local keys (Run step labels)
  | [], _ =>
      { frame := by
          rintro _ _ _ _ ⟨⟩
          exact Set.eqOn_refl _ _
        reads := by
          rintro _ left right _ _ agree ⟨⟩
          exact ⟨right, .nil, agree⟩ }
  | label :: labels, steps => by
      have firstLocal := steps label List.mem_cons_self
      have restLocal :=
        Run.isLocal fun later member =>
          steps later (List.mem_cons_of_mem _ member)
      refine { frame := ?_, reads := ?_ }
      · intro shared before shared' after ran
        cases ran with
        | cons first rest =>
            exact
              (restLocal.frame rest).trans (firstLocal.frame first)
      · intro shared left right shared' left' agree ran
        cases ran with
        | cons first rest =>
            obtain ⟨middle, ranFirst, agreeMiddle⟩ :=
              firstLocal.reads agree first
            obtain ⟨final, ranRest, agreeFinal⟩ :=
              restLocal.reads agreeMiddle rest
            exact ⟨final, .cons ranFirst ranRest, agreeFinal⟩

end Footprint
