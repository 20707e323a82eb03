import Mathlib

/-!
# Lists filed under a key

A list whose entries carry a key, read by the first entry with a given key
and written by overwriting that entry or appending.  Nothing here assumes
that keys are distinct unless a statement says so: the lookup laws hold for
every list, and distinctness only enters where two lists are compared or
where a sum over the list is compared with a sum over keys.
-/

namespace KeyedList

variable {α κ : Type} [DecidableEq κ] (key : α → κ)

/-- The first entry filed under `wanted`. -/
def lookup (wanted : κ) (entries : List α) : Option α :=
  entries.find? fun entry => key entry = wanted

/-- Overwrite the first entry that has the new entry's key, or append. -/
def upsert (entry : α) : List α → List α
  | [] => [entry]
  | head :: tail =>
      if key head = key entry then
        entry :: tail
      else
        head :: upsert entry tail

/-- Upsert every update, in order. -/
def upsertAll (updates entries : List α) : List α :=
  updates.foldl (fun current entry => upsert key entry current) entries

/-- The first entry under each key that is not in `seen`, in order. -/
def firsts : List κ → List α → List α
  | _, [] => []
  | seen, head :: tail =>
      if key head ∈ seen then
        firsts seen tail
      else
        head :: firsts (key head :: seen) tail

@[simp]
theorem lookup_nil (wanted : κ) :
    lookup key wanted [] = none := rfl

theorem lookup_cons (wanted : κ) (head : α) (tail : List α) :
    lookup key wanted (head :: tail) =
      if key head = wanted then some head else lookup key wanted tail := by
  by_cases same : key head = wanted
  · simp [lookup, same]
  · simp [lookup, same]

theorem lookup_append (wanted : κ) (left right : List α) :
    lookup key wanted (left ++ right) =
      (lookup key wanted left).or (lookup key wanted right) := by
  simp [lookup, List.find?_append]

theorem key_of_lookup {wanted : κ} {entries : List α} {entry : α}
    (found : lookup key wanted entries = some entry) :
    key entry = wanted := by
  simpa using List.find?_some found

theorem mem_of_lookup {wanted : κ} {entries : List α} {entry : α}
    (found : lookup key wanted entries = some entry) :
    entry ∈ entries :=
  List.mem_of_find?_eq_some found

theorem lookup_eq_none_iff {wanted : κ} {entries : List α} :
    lookup key wanted entries = none ↔ wanted ∉ entries.map key := by
  simp only [lookup, List.find?_eq_none, decide_eq_true_eq, List.mem_map,
    not_exists, not_and]

theorem exists_lookup_of_mem {wanted : κ} {entries : List α}
    (member : wanted ∈ entries.map key) :
    ∃ entry, lookup key wanted entries = some entry := by
  cases found : lookup key wanted entries with
  | none =>
      exact absurd member ((lookup_eq_none_iff key).mp found)
  | some entry =>
      exact ⟨entry, rfl⟩

theorem mem_keys_of_lookup {wanted : κ} {entries : List α} {entry : α}
    (found : lookup key wanted entries = some entry) :
    wanted ∈ entries.map key :=
  List.mem_map.mpr
    ⟨entry, mem_of_lookup key found, key_of_lookup key found⟩

/-- With distinct keys, every entry is the one its key looks up. -/
theorem lookup_of_mem {entries : List α} {entry : α}
    (distinct : (entries.map key).Nodup) (member : entry ∈ entries) :
    lookup key (key entry) entries = some entry := by
  induction entries with
  | nil =>
      simp at member
  | cons head tail inductionHypothesis =>
      simp only [List.map_cons, List.nodup_cons] at distinct
      rw [lookup_cons]
      rcases List.mem_cons.mp member with rfl | inTail
      · simp
      · have different : key head ≠ key entry := by
          intro same
          exact distinct.1 (same ▸ List.mem_map_of_mem inTail)
        rw [if_neg different]
        exact inductionHypothesis distinct.2 inTail

theorem lookup_filter_ne (dropped wanted : κ) (entries : List α) :
    lookup key wanted (entries.filter fun entry => key entry ≠ dropped) =
      if dropped = wanted then none else lookup key wanted entries := by
  induction entries with
  | nil =>
      simp
  | cons head tail inductionHypothesis =>
      by_cases isDropped : key head = dropped
      · have gone : ¬ decide (key head ≠ dropped) = true := by
          simp [isDropped]
        rw [List.filter_cons, if_neg gone, inductionHypothesis, lookup_cons,
          isDropped]
        split <;> rfl
      · have kept : decide (key head ≠ dropped) = true :=
          decide_eq_true isDropped
        rw [List.filter_cons, if_pos kept, lookup_cons, lookup_cons,
          inductionHypothesis]
        by_cases hit : key head = wanted
        · rw [if_pos hit, if_pos hit,
            if_neg fun same => isDropped (hit.trans same.symm)]
        · rw [if_neg hit, if_neg hit]

/-- Two lists with the same distinct keys in the same order and the same
entry under each key are the same list. -/
theorem ext_of_keys {left right : List α}
    (distinct : (left.map key).Nodup)
    (sameKeys : left.map key = right.map key)
    (sameEntries :
      ∀ wanted ∈ left.map key,
        lookup key wanted left = lookup key wanted right) :
    left = right := by
  induction left generalizing right with
  | nil =>
      exact (List.map_eq_nil_iff.mp sameKeys.symm).symm
  | cons head tail inductionHypothesis =>
      cases right with
      | nil =>
          simp at sameKeys
      | cons other rest =>
          simp only [List.map_cons, List.cons.injEq] at sameKeys
          simp only [List.map_cons, List.nodup_cons] at distinct
          have headEntry := sameEntries (key head) (by simp)
          rw [lookup_cons, lookup_cons, if_pos rfl,
            if_pos sameKeys.1.symm] at headEntry
          have tailEntries :
              ∀ wanted ∈ tail.map key,
                lookup key wanted tail = lookup key wanted rest := by
            intro wanted member
            have different : key head ≠ wanted := by
              intro equal
              subst equal
              exact distinct.1 member
            have entry :=
              sameEntries wanted (List.mem_cons_of_mem _ member)
            rwa [lookup_cons, lookup_cons, if_neg different,
              if_neg (sameKeys.1 ▸ different)] at entry
          rw [Option.some.inj headEntry,
            inductionHypothesis distinct.2 sameKeys.2 tailEntries]

/-- Reading from the back finds `entry` when every later entry under its key
is a copy of it. -/
theorem lookup_reverse_of_copies {front back : List α} {entry : α}
    (copies : ∀ later ∈ back, key later = key entry → later = entry) :
    lookup key (key entry) (front ++ entry :: back).reverse =
      some entry := by
  rw [List.reverse_append, List.reverse_cons, lookup_append,
    lookup_append, lookup_cons, if_pos rfl]
  cases found : lookup key (key entry) back.reverse with
  | none =>
      rfl
  | some later =>
      have member : later ∈ back :=
        List.mem_reverse.mp (mem_of_lookup key found)
      rw [copies later member (key_of_lookup key found)]
      rfl

/-- If reading from the back finds `entry`, so do the entries after it,
once they agree among themselves. -/
theorem copies_of_lookup_reverse {front back : List α} {entry : α}
    (agree : ∀ left ∈ back, ∀ right ∈ back, key left = key right →
      left = right)
    (found : lookup key (key entry) (front ++ entry :: back).reverse =
      some entry) :
    ∀ later ∈ back, key later = key entry → later = entry := by
  intro later member same
  have listed : key entry ∈ back.reverse.map key := by
    rw [← same]
    exact List.mem_map_of_mem (List.mem_reverse.mpr member)
  obtain ⟨last, lastFound⟩ := exists_lookup_of_mem key listed
  have lastMember : last ∈ back :=
    List.mem_reverse.mp (mem_of_lookup key lastFound)
  rw [List.reverse_append, List.reverse_cons, lookup_append,
    lookup_append, lastFound, Option.some_or, Option.some_or] at found
  rw [← Option.some.inj found]
  exact
    agree later member last lastMember
      (same.trans (key_of_lookup key lastFound).symm)

theorem lookup_upsert (wanted : κ) (entry : α) (entries : List α) :
    lookup key wanted (upsert key entry entries) =
      if key entry = wanted then some entry
      else lookup key wanted entries := by
  induction entries with
  | nil =>
      simp [upsert, lookup_cons]
  | cons head tail inductionHypothesis =>
      by_cases same : key head = key entry
      · rw [upsert, if_pos same, lookup_cons, lookup_cons, same]
        split <;> rfl
      · rw [upsert, if_neg same, lookup_cons, inductionHypothesis,
          lookup_cons]
        by_cases hit : key head = wanted
        · have missed : key entry ≠ wanted :=
            fun other => same (hit.trans other.symm)
          simp [hit, missed]
        · simp [hit]

theorem keys_upsert_of_mem {entry : α} {entries : List α}
    (member : key entry ∈ entries.map key) :
    (upsert key entry entries).map key = entries.map key := by
  induction entries with
  | nil =>
      simp at member
  | cons head tail inductionHypothesis =>
      by_cases same : key head = key entry
      · simp [upsert, same]
      · have inTail : key entry ∈ tail.map key := by
          rcases List.mem_cons.mp member with headHit | inTail
          · exact absurd headHit.symm same
          · exact inTail
        simp only [upsert, if_neg same, List.map_cons,
          inductionHypothesis inTail]

theorem upsert_of_not_mem {entry : α} {entries : List α}
    (fresh : key entry ∉ entries.map key) :
    upsert key entry entries = entries ++ [entry] := by
  induction entries with
  | nil =>
      rfl
  | cons head tail inductionHypothesis =>
      simp only [List.map_cons, List.mem_cons, not_or] at fresh
      simp only [upsert, if_neg (Ne.symm fresh.1),
        inductionHypothesis fresh.2, List.cons_append]

/-! ## Upserting a batch -/

@[simp]
theorem upsertAll_nil (entries : List α) :
    upsertAll key [] entries = entries := rfl

@[simp]
theorem upsertAll_cons (update : α) (updates entries : List α) :
    upsertAll key (update :: updates) entries =
      upsertAll key updates (upsert key update entries) := rfl

/-- The last update filed under a key wins; without one the old entry
stays. -/
theorem lookup_upsertAll (wanted : κ) (updates entries : List α) :
    lookup key wanted (upsertAll key updates entries) =
      (lookup key wanted updates.reverse).or
        (lookup key wanted entries) := by
  induction updates generalizing entries with
  | nil =>
      simp
  | cons update updates inductionHypothesis =>
      rw [upsertAll_cons, inductionHypothesis, List.reverse_cons,
        lookup_append, lookup_upsert, lookup_cons, lookup_nil,
        Option.or_assoc]
      congr 1
      split <;> rfl

theorem lookup_upsertAll_of_not_mem {wanted : κ} {updates : List α}
    (absent : wanted ∉ updates.map key) (entries : List α) :
    lookup key wanted (upsertAll key updates entries) =
      lookup key wanted entries := by
  have noUpdate : lookup key wanted updates.reverse = none := by
    rw [lookup_eq_none_iff, List.map_reverse, List.mem_reverse]
    exact absent
  rw [lookup_upsertAll, noUpdate, Option.none_or]

theorem keys_upsertAll_of_subset {updates entries : List α}
    (known : ∀ update ∈ updates, key update ∈ entries.map key) :
    (upsertAll key updates entries).map key = entries.map key := by
  induction updates generalizing entries with
  | nil =>
      rfl
  | cons update updates inductionHypothesis =>
      have headKeys :
          (upsert key update entries).map key = entries.map key :=
        keys_upsert_of_mem key (known update List.mem_cons_self)
      rw [upsertAll_cons, inductionHypothesis, headKeys]
      intro later member
      rw [headKeys]
      exact known later (List.mem_cons_of_mem _ member)

/-- Writing an entry over itself. -/
theorem upsert_of_lookup {entry : α} {entries : List α}
    (found : lookup key (key entry) entries = some entry) :
    upsert key entry entries = entries := by
  induction entries with
  | nil =>
      cases found
  | cons head tail inductionHypothesis =>
      rw [lookup_cons] at found
      rw [upsert]
      by_cases same : key head = key entry
      · rw [if_pos same] at found
        rw [if_pos same, Option.some.inj found]
      · rw [if_neg same] at found
        rw [if_neg same, inductionHypothesis found]

/-- Writing copies of entries over a list leaves it. -/
theorem upsertAll_of_copies {updates entries : List α}
    (copies : ∀ update ∈ updates,
      lookup key (key update) entries = some update) :
    upsertAll key updates entries = entries := by
  induction updates with
  | nil =>
      rfl
  | cons update updates inductionHypothesis =>
      rw [upsertAll_cons,
        upsert_of_lookup key (copies update List.mem_cons_self)]
      apply inductionHypothesis
      intro later member
      exact copies later (List.mem_cons_of_mem _ member)

/-- The head takes the last update under its key, the tail the others. -/
theorem upsertAll_of_cons (updates : List α) (head : α) (tail : List α) :
    upsertAll key updates (head :: tail) =
      (lookup key (key head) updates.reverse).getD head ::
        upsertAll key (updates.filter fun update => key update ≠ key head)
          tail := by
  induction updates generalizing head tail with
  | nil =>
      rfl
  | cons update updates inductionHypothesis =>
      rw [upsertAll_cons, upsert, List.reverse_cons, lookup_append,
        lookup_cons, lookup_nil]
      by_cases same : key head = key update
      · have dropped : ¬ decide (key update ≠ key head) = true := by
          simp [same]
        rw [if_pos same, inductionHypothesis, List.filter_cons,
          if_neg dropped, if_pos same.symm, same]
        cases lookup key (key update) updates.reverse <;> rfl
      · have kept : decide (key update ≠ key head) = true :=
          decide_eq_true (Ne.symm same)
        rw [if_neg same, inductionHypothesis, List.filter_cons, if_pos kept,
          if_neg (Ne.symm same), Option.or_none, upsertAll_cons]

/-- A batch leaves a list exactly when the last update under each key is the
entry the list holds there. -/
theorem upsertAll_eq_self_iff {updates entries : List α} :
    upsertAll key updates entries = entries ↔
      ∀ wanted entry, lookup key wanted updates.reverse = some entry →
        lookup key wanted entries = some entry := by
  constructor
  · intro unchanged wanted entry last
    have read := lookup_upsertAll key wanted updates entries
    rwa [unchanged, last, Option.some_or] at read
  · intro held
    induction entries generalizing updates with
    | nil =>
        cases updates with
        | nil =>
            rfl
        | cons update updates =>
            have listed :
                key update ∈ (update :: updates).reverse.map key :=
              List.mem_map_of_mem (by simp)
            obtain ⟨last, found⟩ := exists_lookup_of_mem key listed
            cases held _ _ found
    | cons head tail inductionHypothesis =>
        have front :
            (lookup key (key head) updates.reverse).getD head = head := by
          cases last : lookup key (key head) updates.reverse with
          | none =>
              rfl
          | some entry =>
              have found := held _ _ last
              rw [lookup_cons, if_pos rfl] at found
              exact (Option.some.inj found).symm
        rw [upsertAll_of_cons, front, inductionHypothesis]
        intro wanted entry last
        rw [← List.filter_reverse, lookup_filter_ne] at last
        by_cases isHead : key head = wanted
        · rw [if_pos isHead] at last
          cases last
        · rw [if_neg isHead] at last
          have found := held _ _ last
          rwa [lookup_cons, if_neg isHead] at found

/-- The last entry under a key, by its place in the list. -/
theorem lookup_reverse_eq_some {wanted : κ} {entries : List α}
    {entry : α} (found : lookup key wanted entries.reverse = some entry) :
    ∃ index : ℕ, entries[index]? = some entry ∧
      ∀ (later : ℕ) (other : α), index < later →
        entries[later]? = some other → key other ≠ wanted := by
  induction entries with
  | nil =>
      cases found
  | cons head tail inductionHypothesis =>
      rw [List.reverse_cons, lookup_append] at found
      cases inTail : lookup key wanted tail.reverse with
      | some last =>
          rw [inTail, Option.some_or] at found
          cases found
          obtain ⟨index, atIndex, last⟩ := inductionHypothesis inTail
          refine ⟨index + 1, atIndex, ?_⟩
          intro later other after listed
          obtain ⟨later, rfl⟩ : ∃ before, later = before + 1 :=
            ⟨later - 1, by omega⟩
          exact last later other (by omega) listed
      | none =>
          rw [inTail, Option.none_or, lookup_cons, lookup_nil] at found
          split at found
          · cases found
            refine ⟨0, rfl, ?_⟩
            intro later other after listed same
            obtain ⟨later, rfl⟩ : ∃ before, later = before + 1 :=
              ⟨later - 1, by omega⟩
            have absent := (lookup_eq_none_iff key).mp inTail
            apply absent
            rw [List.map_reverse, List.mem_reverse, ← same]
            exact List.mem_map_of_mem (List.mem_of_getElem? listed)
          · cases found

/-- Writing a whole list over one with the same distinct keys leaves the
written list. -/
theorem upsertAll_of_sameKeys {updates entries : List α}
    (distinct : (updates.map key).Nodup)
    (sameKeys : updates.map key = entries.map key) :
    upsertAll key updates entries = updates := by
  have keys :
      (upsertAll key updates entries).map key = entries.map key := by
    apply keys_upsertAll_of_subset
    intro update member
    rw [← sameKeys]
    exact List.mem_map_of_mem member
  symm
  apply ext_of_keys key distinct (sameKeys.trans keys.symm)
  intro wanted member
  obtain ⟨entry, found⟩ := exists_lookup_of_mem key member
  have atReverse : lookup key wanted updates.reverse = some entry := by
    have reversed : (updates.reverse.map key).Nodup := by
      rw [List.map_reverse]
      exact List.nodup_reverse.mpr distinct
    have entryKey := key_of_lookup key found
    rw [← entryKey]
    exact
      lookup_of_mem key reversed
        (List.mem_reverse.mpr (mem_of_lookup key found))
  rw [lookup_upsertAll, atReverse, found, Option.some_or]

/-! ## First entries -/

theorem mem_firsts {seen : List κ} {entries : List α} {entry : α} :
    entry ∈ firsts key seen entries ↔
      key entry ∉ seen ∧
        lookup key (key entry) entries = some entry := by
  induction entries generalizing seen with
  | nil =>
      simp [firsts]
  | cons head tail inductionHypothesis =>
      rw [lookup_cons, firsts]
      by_cases same : key head = key entry
      · by_cases old : key entry ∈ seen
        · simp [same, old, inductionHypothesis]
        · simp [same, old, inductionHypothesis, eq_comm]
      · have headDifferent : entry ≠ head := fun equal =>
          same (congrArg key equal.symm)
        by_cases old : key head ∈ seen
        · simp [same, old, inductionHypothesis]
        · simp [same, old, inductionHypothesis, headDifferent,
            Ne.symm same]

theorem nodup_keys_firsts (seen : List κ) (entries : List α) :
    ((firsts key seen entries).map key).Nodup := by
  induction entries generalizing seen with
  | nil =>
      exact List.nodup_nil
  | cons head tail inductionHypothesis =>
      rw [firsts]
      split
      · exact inductionHypothesis seen
      · rw [List.map_cons, List.nodup_cons]
        refine ⟨?_, inductionHypothesis (key head :: seen)⟩
        intro member
        rcases List.mem_map.mp member with ⟨entry, inRest, same⟩
        have fresh := ((mem_firsts key).mp inRest).1
        rw [same] at fresh
        exact fresh List.mem_cons_self

theorem mem_keys_firsts {entries : List α} {wanted : κ} :
    wanted ∈ (firsts key [] entries).map key ↔
      wanted ∈ entries.map key := by
  constructor
  · intro member
    rcases List.mem_map.mp member with ⟨entry, inFirsts, rfl⟩
    exact mem_keys_of_lookup key ((mem_firsts key).mp inFirsts).2
  · intro member
    obtain ⟨entry, found⟩ := exists_lookup_of_mem key member
    have same := key_of_lookup key found
    rw [← same] at found ⊢
    have first : entry ∈ firsts key [] entries :=
      (mem_firsts key).mpr ⟨List.not_mem_nil, found⟩
    exact List.mem_map_of_mem first

/-- Under distinct new keys every entry is a first one. -/
theorem firsts_eq_self {seen : List κ} {entries : List α}
    (fresh : ∀ entry ∈ entries, key entry ∉ seen)
    (distinct : (entries.map key).Nodup) :
    firsts key seen entries = entries := by
  induction entries generalizing seen with
  | nil =>
      rfl
  | cons head tail inductionHypothesis =>
      obtain ⟨alone, distinct'⟩ := List.nodup_cons.mp distinct
      rw [firsts, if_neg (fresh head List.mem_cons_self),
        inductionHypothesis ?_ distinct']
      intro entry member seenNow
      rcases List.mem_cons.mp seenNow with same | old
      · exact alone (same ▸ List.mem_map_of_mem member)
      · exact fresh entry (List.mem_cons_of_mem _ member) old

theorem length_firsts_le (seen : List κ) (entries : List α) :
    (firsts key seen entries).length ≤ entries.length := by
  induction entries generalizing seen with
  | nil =>
      rfl
  | cons head tail inductionHypothesis =>
      rw [firsts]
      split
      · exact (inductionHypothesis seen).trans (Nat.le_succ _)
      · exact Nat.succ_le_succ (inductionHypothesis (key head :: seen))

/-- Reading every entry's key in a list with the same distinct keys yields
that list. -/
theorem map_lookup_of_sameKeys {left right : List α}
    (distinct : (left.map key).Nodup)
    (sameKeys : right.map key = left.map key) :
    left.map (fun entry =>
        (lookup key (key entry) right).getD entry) = right := by
  induction left generalizing right with
  | nil =>
      exact (List.map_eq_nil_iff.mp sameKeys).symm
  | cons head tail inductionHypothesis =>
      cases right with
      | nil =>
          simp at sameKeys
      | cons other rest =>
          simp only [List.map_cons, List.cons.injEq] at sameKeys
          simp only [List.map_cons, List.nodup_cons] at distinct
          rw [List.map_cons, lookup_cons, if_pos sameKeys.1]
          congr 1
          have tailReads :
              tail.map (fun entry =>
                  (lookup key (key entry) (other :: rest)).getD entry) =
                tail.map (fun entry =>
                  (lookup key (key entry) rest).getD entry) := by
            apply List.map_congr_left
            intro entry member
            have different : key other ≠ key entry := by
              rw [sameKeys.1]
              intro same
              exact distinct.1 (same ▸ List.mem_map_of_mem member)
            rw [lookup_cons, if_neg different]
          rw [tailReads, inductionHypothesis distinct.2 sameKeys.2]

/-- Entries outside `keys` stay when every lookup outside `keys` does. -/
theorem filter_not_mem_eq {left right : List α} {keys : List κ}
    (distinct : (left.map key).Nodup)
    (sameKeys : right.map key = left.map key)
    (frame : ∀ wanted, wanted ∉ keys →
      lookup key wanted right = lookup key wanted left) :
    (right.filter fun entry => key entry ∉ keys) =
      left.filter fun entry => key entry ∉ keys := by
  rw [← map_lookup_of_sameKeys key distinct sameKeys, List.filter_map]
  have keeps :
      ∀ entry ∈ left,
        key ((lookup key (key entry) right).getD entry) = key entry := by
    intro entry _
    cases found : lookup key (key entry) right with
    | none =>
        rfl
    | some other =>
        exact key_of_lookup key found
  have sameFilter :
      left.filter
          ((fun entry => decide (key entry ∉ keys)) ∘ fun entry =>
            (lookup key (key entry) right).getD entry) =
        left.filter fun entry => key entry ∉ keys := by
    apply List.filter_congr
    intro entry member
    simp only [Function.comp_apply, keeps entry member]
  have fixed :
      ∀ entry ∈ left.filter fun entry => key entry ∉ keys,
        (lookup key (key entry) right).getD entry = id entry := by
    intro entry member
    rcases List.mem_filter.mp member with ⟨inLeft, outside⟩
    rw [frame (key entry) (of_decide_eq_true outside),
      lookup_of_mem key distinct inLeft]
    rfl
  rw [sameFilter, List.map_congr_left fixed, List.map_id]

/-- With distinct keys, the entries filed under one key weigh what the
lookup weighs. -/
theorem sum_filter_key {entries : List α}
    (distinct : (entries.map key).Nodup) (weight : α → Nat) (wanted : κ) :
    ((entries.filter fun entry => key entry = wanted).map weight).sum =
      ((lookup key wanted entries).map weight).getD 0 := by
  induction entries with
  | nil =>
      rfl
  | cons head tail inductionHypothesis =>
      simp only [List.map_cons, List.nodup_cons] at distinct
      rw [lookup_cons]
      by_cases same : key head = wanted
      · have restEmpty :
            (tail.filter fun entry => key entry = wanted) = [] := by
          rw [List.filter_eq_nil_iff]
          intro entry member hit
          simp only [decide_eq_true_eq] at hit
          exact
            distinct.1
              (same.trans hit.symm ▸ List.mem_map_of_mem member)
        simp [same, restEmpty]
      · simp [same, inductionHypothesis distinct.2]

/-- Filing under one more key adds that key's entries. -/
theorem sum_filter_cons (weight : α → Nat) {wanted : κ} {keys : List κ}
    (fresh : wanted ∉ keys) (entries : List α) :
    ((entries.filter fun entry => key entry ∈ wanted :: keys).map
        weight).sum =
      ((entries.filter fun entry => key entry = wanted).map weight).sum +
        ((entries.filter fun entry => key entry ∈ keys).map
          weight).sum := by
  induction entries with
  | nil =>
      rfl
  | cons head tail inductionHypothesis =>
      by_cases same : key head = wanted
      · have notLater : key head ∉ keys := same ▸ fresh
        rw [List.filter_cons_of_pos (by simp [same]),
          List.filter_cons_of_pos (by simp [same]),
          List.filter_cons_of_neg (by simp [notLater])]
        simp only [List.map_cons, List.sum_cons, inductionHypothesis]
        omega
      · by_cases later : key head ∈ keys
        · rw [List.filter_cons_of_pos (by simp [later]),
            List.filter_cons_of_neg (by simp [same]),
            List.filter_cons_of_pos (by simp [later])]
          simp only [List.map_cons, List.sum_cons, inductionHypothesis]
          omega
        · rw [List.filter_cons_of_neg (by simp [same, later]),
            List.filter_cons_of_neg (by simp [same]),
            List.filter_cons_of_neg (by simp [later])]
          exact inductionHypothesis

/-- With distinct keys, summing the lookups of distinct keys is summing the
entries filed under one of them. -/
theorem sum_lookups {entries : List α}
    (distinct : (entries.map key).Nodup) (weight : α → Nat) :
    ∀ {keys : List κ}, keys.Nodup →
      (keys.map fun wanted =>
          ((lookup key wanted entries).map weight).getD 0).sum =
        ((entries.filter fun entry => key entry ∈ keys).map weight).sum
  | [], _ => by
      simp
  | wanted :: keys, keysDistinct => by
      have keysDistinct := List.nodup_cons.mp keysDistinct
      rw [List.map_cons, List.sum_cons,
        sum_lookups distinct weight keysDistinct.2,
        ← sum_filter_key key distinct weight wanted,
        sum_filter_cons key weight keysDistinct.1]

/-- A total splits into the entries filed under `keys` and the others. -/
theorem sum_split (weight : α → Nat) (keys : List κ) (entries : List α) :
    (entries.map weight).sum =
      ((entries.filter fun entry => key entry ∈ keys).map weight).sum +
        ((entries.filter fun entry => key entry ∉ keys).map weight).sum := by
  induction entries with
  | nil =>
      rfl
  | cons head tail inductionHypothesis =>
      by_cases member : key head ∈ keys
      · simp only [List.filter_cons, member, decide_true, if_true,
          not_true_eq_false, decide_false, Bool.false_eq_true, if_false,
          List.map_cons, List.sum_cons]
        omega
      · simp only [List.filter_cons, member, decide_false,
          Bool.false_eq_true, if_false, not_false_eq_true, decide_true,
          if_true, List.map_cons, List.sum_cons]
        omega

/-- What an upsert adds and what it replaces. -/
theorem sum_upsert (weight : α → Nat) (entry : α) (entries : List α) :
    ((upsert key entry entries).map weight).sum +
        ((lookup key (key entry) entries).map weight).getD 0 =
      (entries.map weight).sum + weight entry := by
  induction entries with
  | nil =>
      simp [upsert]
  | cons head tail inductionHypothesis =>
      by_cases same : key head = key entry
      · rw [upsert, if_pos same, lookup_cons, if_pos same]
        simp only [List.map_cons, List.sum_cons, Option.map_some,
          Option.getD_some]
        omega
      · rw [upsert, if_neg same, lookup_cons, if_neg same]
        simp only [List.map_cons, List.sum_cons]
        omega

end KeyedList
