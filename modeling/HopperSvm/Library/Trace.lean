import Mathlib

/-!
# Runs of a labelled step relation

A run is kept with the entries it is made of, so that a fact about every
step of it, an invariant of the states it reaches, and the step at which
something first became true can all be stated about the same run.
-/

namespace Labelled

/-- One step of a run: its event, and the states around it. -/
structure Entry (σ ε : Type) where
  before : σ
  event : ε
  after : σ

/-- The steps in `entries` lead from the first state to the last. -/
inductive Trace {σ ε : Type} (step : σ → ε → σ → Prop) :
    σ → List (Entry σ ε) → σ → Prop
  | nil {state : σ} : Trace step state [] state
  | cons {before after final : σ} {event : ε}
      {rest : List (Entry σ ε)} (first : step before event after)
      (later : Trace step after rest final) :
      Trace step before (⟨before, event, after⟩ :: rest) final

namespace Trace

variable {σ ε : Type} {step : σ → ε → σ → Prop} {start finish : σ}
  {entries : List (Entry σ ε)}

/-- What every step keeps holds at the end. -/
theorem invariant {holds : σ → Prop}
    (keeps : ∀ before event after, holds before →
      step before event after → holds after)
    (run : Trace step start entries finish) (initial : holds start) :
    holds finish := by
  induction run with
  | nil =>
      exact initial
  | cons first later inductionHypothesis =>
      exact inductionHypothesis (keeps _ _ _ initial first)

/-- Every entry is a step, taken where the invariant holds. -/
theorem forall_entries {holds : σ → Prop}
    (keeps : ∀ before event after, holds before →
      step before event after → holds after)
    (run : Trace step start entries finish) (initial : holds start) :
    ∀ entry ∈ entries,
      holds entry.before ∧ step entry.before entry.event entry.after := by
  induction run with
  | nil =>
      intro entry member
      cases member
  | cons first later inductionHypothesis =>
      intro entry member
      cases member with
      | head =>
          exact ⟨initial, first⟩
      | tail _ member =>
          exact
            inductionHypothesis (keeps _ _ _ initial first) entry member

/-- What every allowed step keeps holds behind every step of a run of
allowed steps. -/
theorem forall_after {holds : σ → Prop} {allowed : Entry σ ε → Prop}
    (keeps : ∀ entry, allowed entry → holds entry.before →
      step entry.before entry.event entry.after → holds entry.after)
    (run : Trace step start entries finish) (initial : holds start)
    (all : ∀ entry ∈ entries, allowed entry) :
    ∀ entry ∈ entries, holds entry.after := by
  induction run with
  | nil =>
      intro entry member
      cases member
  | @cons before after final event rest first later
      inductionHypothesis =>
      have next : holds after :=
        keeps ⟨before, event, after⟩ (all _ List.mem_cons_self) initial
          first
      have onwards :=
        inductionHypothesis next fun entry member =>
          all entry (List.mem_cons_of_mem _ member)
      intro entry member
      cases member with
      | head =>
          exact next
      | tail _ member =>
          exact onwards entry member

/-- Every entry splits the run into a run up to it and a run after it. -/
theorem of_append {front back : List (Entry σ ε)} {entry : Entry σ ε}
    (run : Trace step start (front ++ entry :: back) finish) :
    Trace step start front entry.before ∧
      step entry.before entry.event entry.after ∧
      Trace step entry.after back finish := by
  induction front generalizing start with
  | nil =>
      cases run with
      | cons first later =>
          exact ⟨.nil, first, later⟩
  | cons head tail inductionHypothesis =>
      cases run with
      | cons first later =>
          obtain ⟨upTo, taken, onwards⟩ := inductionHypothesis later
          exact ⟨.cons first upTo, taken, onwards⟩

/-- Every entry is a step. -/
theorem steps (run : Trace step start entries finish) :
    ∀ entry ∈ entries, step entry.before entry.event entry.after := by
  intro entry member
  obtain ⟨front, back, rfl⟩ := List.append_of_mem member
  exact run.of_append.2.1

/-- What every step keeps or stops holds at the end, or was stopped. -/
theorem invariant_or {holds : σ → Prop} {stops : Entry σ ε → Prop}
    (keeps : ∀ before event after, holds before →
      step before event after →
        holds after ∨ stops ⟨before, event, after⟩)
    (run : Trace step start entries finish) (initial : holds start) :
    holds finish ∨ ∃ entry ∈ entries, stops entry := by
  induction run with
  | nil =>
      exact Or.inl initial
  | cons first later inductionHypothesis =>
      rcases keeps _ _ _ initial first with kept | stopped
      · rcases inductionHypothesis kept with
          kept' | ⟨entry, member, stopped⟩
        · exact Or.inl kept'
        · exact Or.inr ⟨entry, List.mem_cons_of_mem _ member, stopped⟩
      · exact Or.inr ⟨_, List.mem_cons_self, stopped⟩

/-- Steps that pay for their cost out of a potential cost a run no more than
the potential it started with. -/
theorem sum_cost_le {cost : Entry σ ε → Nat} {potential : σ → Nat}
    (run : Trace step start entries finish)
    (pays : ∀ entry ∈ entries,
      step entry.before entry.event entry.after →
        cost entry + potential entry.after ≤ potential entry.before) :
    (entries.map cost).sum + potential finish ≤ potential start := by
  induction run with
  | nil =>
      simp
  | cons first later inductionHypothesis =>
      have now := pays _ List.mem_cons_self first
      have rest :=
        inductionHypothesis fun entry member =>
          pays entry (List.mem_cons_of_mem _ member)
      dsimp only at now
      rw [List.map_cons, List.sum_cons]
      omega

/-- What holds at the end and not at the start became true in some step. -/
theorem exists_switch {holds : σ → Prop}
    (run : Trace step start entries finish) (initial : ¬ holds start)
    (final : holds finish) :
    ∃ entry ∈ entries, ¬ holds entry.before ∧ holds entry.after := by
  induction run with
  | nil =>
      exact absurd final initial
  | @cons before after final' event rest first later
      inductionHypothesis =>
      by_cases next : holds after
      · exact ⟨_, List.mem_cons_self, initial, next⟩
      · obtain ⟨entry, member, switched⟩ := inductionHypothesis next final
        exact ⟨entry, List.mem_cons_of_mem _ member, switched⟩

end Trace

end Labelled
