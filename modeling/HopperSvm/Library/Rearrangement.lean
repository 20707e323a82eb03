import HopperSvm.Library.KeyedList

/-!
# Two keyed lists, rearranged

A list is read before some change and another one after it, both through
their keys.  The order of either list, and an entry that is the same in
both, carry no information about the change.  `Rearranged` is what such
liberties lead from one pair of lists to another.

The lookups of the rearranged lists are those of the given ones, or find
the same entry in both.
-/

namespace KeyedList

variable {α κ : Type} (key : α → κ)

/-- Each list is permuted, or one entry with a new key is inserted in
both. -/
inductive Rearranges : List α × List α → List α × List α → Prop where
  | permuted {left right left' right' : List α}
      (leftPerm : left.Perm left') (rightPerm : right.Perm right') :
      Rearranges (left, right) (left', right')
  | inserted {front back front' back' : List α} {entry : α}
      (leftNew : key entry ∉ (front ++ back).map key)
      (rightNew : key entry ∉ (front' ++ back').map key) :
      Rearranges (front ++ back, front' ++ back')
        (front ++ entry :: back, front' ++ entry :: back')

/-- Any number of these operations. -/
def Rearranged : List α × List α → List α × List α → Prop :=
  Relation.ReflTransGen (Rearranges key)

/-- Neither list has two entries under one key. -/
structure DistinctKeys (lists : List α × List α) : Prop where
  left : (lists.1.map key).Nodup
  right : (lists.2.map key).Nodup

variable {key}

theorem nodup_keys_insert {front back : List α} {entry : α}
    (distinct : ((front ++ back).map key).Nodup)
    (new : key entry ∉ (front ++ back).map key) :
    ((front ++ entry :: back).map key).Nodup := by
  have moved : (front ++ entry :: back).Perm (entry :: (front ++ back)) :=
    List.perm_middle
  rw [(moved.map key).nodup_iff, List.map_cons, List.nodup_cons]
  exact ⟨new, distinct⟩

theorem Rearranges.distinctKeys {before after : List α × List α}
    (rearranges : Rearranges key before after)
    (distinct : DistinctKeys key before) :
    DistinctKeys key after := by
  cases rearranges with
  | permuted leftPerm rightPerm =>
      exact
        ⟨(leftPerm.map key).nodup_iff.mp distinct.left,
          (rightPerm.map key).nodup_iff.mp distinct.right⟩
  | inserted leftNew rightNew =>
      exact
        ⟨nodup_keys_insert distinct.left leftNew,
          nodup_keys_insert distinct.right rightNew⟩

theorem Rearranged.distinctKeys {before after : List α × List α}
    (rearranged : Rearranged key before after)
    (distinct : DistinctKeys key before) :
    DistinctKeys key after := by
  induction rearranged with
  | refl =>
      exact distinct
  | tail _ rearranges inductionHypothesis =>
      exact rearranges.distinctKeys inductionHypothesis

/-- Rearranged lists are permutations of the given ones behind some
entries. -/
theorem Rearranged.exists_added {before after : List α × List α}
    (rearranged : Rearranged key before after) :
    ∃ added : List α,
      after.1.Perm (added ++ before.1) ∧
        after.2.Perm (added ++ before.2) := by
  induction rearranged with
  | refl =>
      exact ⟨[], .refl _, .refl _⟩
  | tail _ rearranges inductionHypothesis =>
      obtain ⟨added, left, right⟩ := inductionHypothesis
      cases rearranges with
      | permuted leftPerm rightPerm =>
          exact
            ⟨added, leftPerm.symm.trans left, rightPerm.symm.trans right⟩
      | @inserted _ _ _ _ entry leftNew rightNew =>
          exact
            ⟨entry :: added, List.perm_middle.trans (left.cons entry),
              List.perm_middle.trans (right.cons entry)⟩

/-- Entries with new keys may be put in front of both lists. -/
theorem Rearranged.of_append {added left right : List α}
    (leftDistinct : ((added ++ left).map key).Nodup)
    (rightDistinct : ((added ++ right).map key).Nodup) :
    Rearranged key (left, right) (added ++ left, added ++ right) := by
  induction added with
  | nil =>
      exact .refl
  | cons entry added inductionHypothesis =>
      rw [List.cons_append, List.map_cons, List.nodup_cons]
        at leftDistinct rightDistinct
      have insertedOne :
          Rearranges key ([] ++ (added ++ left), [] ++ (added ++ right))
            ([] ++ entry :: (added ++ left),
              [] ++ entry :: (added ++ right)) :=
        .inserted leftDistinct.1 rightDistinct.1
      exact
        (inductionHypothesis leftDistinct.2 rightDistinct.2).tail
          insertedOne

section Lookups

variable [DecidableEq κ] (key)

/-- With distinct keys the order does not matter. -/
theorem lookup_of_perm {left right : List α}
    (distinct : (left.map key).Nodup) (perm : left.Perm right)
    (wanted : κ) :
    lookup key wanted left = lookup key wanted right := by
  cases found : lookup key wanted left with
  | none =>
      rw [lookup_eq_none_iff, (perm.map key).mem_iff,
        ← lookup_eq_none_iff] at found
      exact found.symm
  | some entry =>
      have member : entry ∈ right :=
        perm.mem_iff.mp (mem_of_lookup key found)
      have rightDistinct : (right.map key).Nodup :=
        (perm.map key).nodup_iff.mp distinct
      rw [← key_of_lookup key found]
      exact (lookup_of_mem key rightDistinct member).symm

/-- A key is read as before in both lists, or it is new and read as one
entry in both. -/
theorem Rearranged.reads {left right left' right' : List α}
    (rearranged : Rearranged key (left, right) (left', right'))
    (distinct : DistinctKeys key (left, right)) (wanted : κ) :
    (lookup key wanted left' = lookup key wanted left ∧
        lookup key wanted right' = lookup key wanted right) ∨
      (lookup key wanted left = none ∧ lookup key wanted right = none ∧
        ∃ entry, lookup key wanted left' = some entry ∧
          lookup key wanted right' = some entry) := by
  have distinct' := rearranged.distinctKeys distinct
  obtain ⟨added, leftPerm, rightPerm⟩ := rearranged.exists_added
  have leftRead := lookup_of_perm key distinct'.left leftPerm wanted
  have rightRead := lookup_of_perm key distinct'.right rightPerm wanted
  rw [lookup_append] at leftRead rightRead
  cases found : lookup key wanted added with
  | none =>
      rw [found, Option.none_or] at leftRead rightRead
      exact .inl ⟨leftRead, rightRead⟩
  | some entry =>
      rw [found, Option.some_or] at leftRead rightRead
      have addedKey : wanted ∈ added.map key :=
        mem_keys_of_lookup key found
      have absent (list list' : List α) (listDistinct : (list'.map key).Nodup)
          (perm : list'.Perm (added ++ list)) :
          lookup key wanted list = none := by
        rw [(perm.map key).nodup_iff, List.map_append] at listDistinct
        rw [lookup_eq_none_iff]
        exact (List.nodup_append'.mp listDistinct).2.2 addedKey
      exact
        .inr
          ⟨absent left left' distinct'.left leftPerm,
            absent right right' distinct'.right rightPerm,
            entry, leftRead, rightRead⟩

end Lookups

/-- As long as numbers give distinct keys, some keys are not in use. -/
theorem exists_unused [DecidableEq κ] {number : ℕ → κ} {bound : ℕ}
    (injective : Set.InjOn number (Set.Iio bound)) (used : List κ)
    (count : ℕ) (room : count + used.length ≤ bound) :
    ∃ keys : List κ,
      keys.length = count ∧ keys.Nodup ∧ ∀ wanted ∈ keys, wanted ∉ used := by
  have numbers : ((Finset.range bound).image number).card = bound := by
    rw [Finset.card_image_of_injOn, Finset.card_range]
    rw [Finset.coe_range]
    exact injective
  have usedCard : used.toFinset.card ≤ used.length :=
    List.toFinset_card_le used
  have removed :=
    Finset.le_card_sdiff used.toFinset ((Finset.range bound).image number)
  obtain ⟨keys, subset, card⟩ :=
    Finset.exists_subset_card_eq
      (n := count) (s := (Finset.range bound).image number \ used.toFinset)
      (by omega)
  refine ⟨keys.toList, ?_, keys.nodup_toList, ?_⟩
  · rw [Finset.length_toList, card]
  · intro wanted member inUse
    have new := subset (Finset.mem_toList.mp member)
    rw [Finset.mem_sdiff, List.mem_toFinset] at new
    exact new.2 inUse

end KeyedList
