import Mathlib

/-!
# Tokens in circulation

A book says of every key whether it issues a token and in what supply,
whether it holds tokens of an issuer and how many, or neither.  The book is
backed when every supply is what the holders hold of it together.  Issuing,
clearing, moving, minting and burning keep a book backed, and so does any
sequence of them.
-/

namespace Circulation

open Function

/-- What a book says of one key. -/
inductive Entry (κ : Type) where
  | issuer (supply : ℕ)
  | holding (issuer : κ) (amount : ℕ)
  | vacant

abbrev Book (κ : Type) : Type := κ → Entry κ

variable {κ : Type} [DecidableEq κ]

/-- The tokens of `issuer` that the entry holds. -/
def Entry.amountOf (issuer : κ) : Entry κ → ℕ
  | .holding of amount => if of = issuer then amount else 0
  | _ => 0

@[simp]
theorem Entry.amountOf_issuer (issuer : κ) (supply : ℕ) :
    (Entry.issuer supply).amountOf issuer = 0 := rfl

@[simp]
theorem Entry.amountOf_vacant (issuer : κ) :
    Entry.vacant.amountOf issuer = 0 := rfl

@[simp]
theorem Entry.amountOf_holding (issuer of : κ) (amount : ℕ) :
    (Entry.holding of amount).amountOf issuer =
      if of = issuer then amount else 0 := rfl

/-- The tokens of `issuer` held at the keys together. -/
def outstanding (keys : Finset κ) (book : Book κ) (issuer : κ) : ℕ :=
  ∑ key ∈ keys, (book key).amountOf issuer

/-- Every supply is outstanding. -/
def Backed (keys : Finset κ) (book : Book κ) : Prop :=
  ∀ issuer supply, book issuer = .issuer supply →
    outstanding keys book issuer = supply

/-- The key holds no token that is in some issuer's supply. -/
def Dormant (book : Book κ) (key : κ) : Prop :=
  ∀ issuer supply, book issuer = .issuer supply →
    (book key).amountOf issuer = 0

/-- No other key holds tokens of `issuer`. -/
def Unheld (book : Book κ) (issuer : κ) : Prop :=
  ∀ key, key ≠ issuer → (book key).amountOf issuer = 0

section Update

variable {keys : Finset κ} {key : κ}

/-- Rewriting an entry changes what is outstanding by the entry's
amounts. -/
theorem outstanding_update (book : Book κ) (issuer : κ)
    (member : key ∈ keys) (entry : Entry κ) :
    outstanding keys (update book key entry) issuer +
        (book key).amountOf issuer =
      outstanding keys book issuer + entry.amountOf issuer := by
  let amounts : κ → ℕ := Entry.amountOf issuer ∘ book
  have before : outstanding keys book issuer = _ :=
    Finset.sum_eq_add_sum_sdiff_singleton_of_mem member amounts
  have after :
      outstanding keys (update book key entry) issuer =
        ∑ other ∈ keys,
          update amounts key (entry.amountOf issuer) other := by
    apply Finset.sum_congr rfl
    intro other _
    exact apply_update (fun _ => Entry.amountOf issuer) book key entry other
  rw [after, before, Finset.sum_update_of_mem member]
  simp only [amounts, comp_apply]
  omega

/-- Two entries of equal amounts are alike for what is outstanding. -/
theorem outstanding_update_of_same {book : Book κ} {issuer : κ}
    {entry : Entry κ}
    (same : entry.amountOf issuer = (book key).amountOf issuer) :
    outstanding keys (update book key entry) issuer =
      outstanding keys book issuer := by
  apply Finset.sum_congr rfl
  intro other _
  by_cases atKey : other = key
  · subst atKey
    rw [update_self, same]
  · rw [update_of_ne atKey]

end Update

/-- One change of a book that a token program makes. -/
inductive Step (keys : Finset κ) (before : Book κ) : Book κ → Prop
  | idle : Step keys before before
  /-- A key that holds no tokens in supply starts issuing its own. -/
  | issue {issuer : κ} (member : issuer ∈ keys)
      (dormant : Dormant before issuer)
      (unheld : Unheld before issuer) :
      Step keys before (update before issuer (.issuer 0))
  /-- A key that holds no tokens in supply is rewritten, and still holds
  none. -/
  | clear {key : κ} {entry : Entry κ} (member : key ∈ keys)
      (dormant : Dormant before key)
      (still : ∀ issuer supply, before issuer = .issuer supply →
        entry.amountOf issuer = 0)
      (issuesNothing : ∀ supply, entry ≠ .issuer supply) :
      Step keys before (update before key entry)
  | move {issuer source destination : κ} {left held amount : ℕ}
      (fromKeys : source ∈ keys) (toKeys : destination ∈ keys)
      (apart : source ≠ destination)
      (sends : before source = .holding issuer (left + amount))
      (receives : before destination = .holding issuer held) :
      Step keys before
        (update (update before source (.holding issuer left)) destination
          (.holding issuer (held + amount)))
  | mint {issuer destination : κ} {supply held amount : ℕ}
      (toKeys : destination ∈ keys)
      (issues : before issuer = .issuer supply)
      (receives : before destination = .holding issuer held) :
      Step keys before
        (update (update before issuer (.issuer (supply + amount)))
          destination (.holding issuer (held + amount)))
  | burn {issuer source : κ} {supply left amount : ℕ}
      (fromKeys : source ∈ keys)
      (issues : before issuer = .issuer supply)
      (sends : before source = .holding issuer (left + amount)) :
      Step keys before
        (update (update before source (.holding issuer left)) issuer
          (.issuer (supply - amount)))

section Unissued

variable {keys : Finset κ} {book : Book κ} {key issuer : κ} {held : ℕ}

/-- A holding of an issuer without a supply is in no supply. -/
theorem amountOf_of_unissued
    (unissued : ∀ supply, book issuer ≠ .issuer supply) (amount : ℕ)
    {other : κ} {supply : ℕ} (issues : book other = .issuer supply) :
    (Entry.holding issuer amount).amountOf other = 0 := by
  have different : issuer ≠ other := by
    intro equal
    subst equal
    exact unissued supply issues
  rw [Entry.amountOf_holding, if_neg different]

/-- A key that holds tokens is dormant exactly when they are in no
supply. -/
theorem dormant_holding_iff (holds : book key = .holding issuer held)
    (positive : held ≠ 0) :
    Dormant book key ↔ ∀ supply, book issuer ≠ .issuer supply := by
  constructor
  · intro dormant supply issues
    have nothing := dormant issuer supply issues
    rw [holds, Entry.amountOf_holding, if_pos rfl] at nothing
    exact positive nothing
  · intro unissued other supply issues
    rw [holds]
    exact amountOf_of_unissued unissued held issues

/-- What a key holds of an issuer without a supply takes any amount. -/
theorem Step.unissued (member : key ∈ keys)
    (holds : book key = .holding issuer held)
    (unissued : ∀ supply, book issuer ≠ .issuer supply) (held' : ℕ) :
    Step keys book (update book key (.holding issuer held')) := by
  refine .clear member ?_ ?_ ?_
  · intro other supply issues
    rw [holds]
    exact amountOf_of_unissued unissued held issues
  · intro other supply issues
    exact amountOf_of_unissued unissued held' issues
  · intro supply issues
    cases issues

end Unissued

/-! ## Backing is kept -/

section Backed

variable {keys : Finset κ} {before after : Book κ}

/-- Rewriting one entry of a backed book keeps it backed exactly when the
tokens in supply that the entry holds are the same, and an entry that issues
has its supply outstanding. -/
theorem backed_update_iff (backed : Backed keys before) {key : κ}
    (member : key ∈ keys) {entry : Entry κ} :
    Backed keys (update before key entry) ↔
      (∀ issuer supply, issuer ≠ key → before issuer = .issuer supply →
          entry.amountOf issuer = (before key).amountOf issuer) ∧
        ∀ supply, entry = .issuer supply →
          outstanding keys (update before key entry) key = supply := by
  constructor
  · intro rewritten
    constructor
    · intro issuer supply apart issues
      have old := backed issuer supply issues
      have change := outstanding_update before issuer member entry
      rw [← update_of_ne apart entry before] at issues
      have new := rewritten issuer supply issues
      omega
    · intro supply issues
      apply rewritten
      rw [update_self, issues]
  · rintro ⟨sameAmounts, ownSupply⟩ issuer supply found
    by_cases same : issuer = key
    · subst same
      rw [update_self] at found
      exact ownSupply supply found
    · rw [update_of_ne same] at found
      rw [outstanding_update_of_same (sameAmounts issuer supply same found)]
      exact backed issuer supply found

/-- A key of a backed book that can be emptied held nothing in supply. -/
theorem Backed.dormant_of_update (backed : Backed keys before) {key : κ}
    {entry : Entry κ} (member : key ∈ keys)
    (rewritten : Backed keys (update before key entry))
    (empty : ∀ issuer, entry.amountOf issuer = 0) :
    Dormant before key := by
  intro issuer supply issues
  by_cases same : issuer = key
  · rw [← same, issues, Entry.amountOf_issuer]
  · obtain ⟨sameAmounts, _⟩ := (backed_update_iff backed member).mp rewritten
    rw [← sameAmounts issuer supply same issues, empty]

/-- A lone change of what one key holds of an issuer leaves the book backed
only if the issuer has no supply. -/
theorem Backed.unissued_of_update (backed : Backed keys before)
    {key issuer : κ} {held held' : ℕ} (member : key ∈ keys)
    (holds : before key = .holding issuer held)
    (rewritten : Backed keys (update before key (.holding issuer held')))
    (changed : held' ≠ held) (supply : ℕ) :
    before issuer ≠ .issuer supply := by
  intro issues
  have apart : issuer ≠ key := by
    intro equal
    subst equal
    rw [holds] at issues
    cases issues
  obtain ⟨sameAmounts, _⟩ := (backed_update_iff backed member).mp rewritten
  have same := sameAmounts issuer supply apart issues
  rw [holds, Entry.amountOf_holding, Entry.amountOf_holding, if_pos rfl,
    if_pos rfl] at same
  exact changed same

/-- A lone change of a supply leaves no backed book. -/
theorem Backed.supply_of_update (backed : Backed keys before)
    {issuer : κ} {supply supply' : ℕ}
    (issues : before issuer = .issuer supply)
    (rewritten :
      Backed keys (update before issuer (.issuer supply'))) :
    supply' = supply := by
  have sameAmount :
      (Entry.issuer supply').amountOf issuer =
        (before issuer).amountOf issuer := by
    rw [issues]
    rfl
  rw [← rewritten issuer supply' (update_self ..),
    outstanding_update_of_same sameAmount, backed issuer supply issues]

/-- A new issuer has nothing outstanding exactly when no other key holds its
tokens. -/
theorem outstanding_issuer_eq_zero_iff {issuer : κ} {supply : ℕ} :
    outstanding keys (update before issuer (.issuer supply)) issuer = 0 ↔
      ∀ key ∈ keys, key ≠ issuer → (before key).amountOf issuer = 0 := by
  rw [outstanding, Finset.sum_eq_zero_iff]
  constructor
  · intro nothing key member apart
    have held := nothing key member
    rwa [update_of_ne apart] at held
  · intro unheld key member
    by_cases same : key = issuer
    · rw [same, update_self, Entry.amountOf_issuer]
    · rw [update_of_ne same]
      exact unheld key member same

theorem Backed.issue (backed : Backed keys before) {issuer : κ}
    (member : issuer ∈ keys) (dormant : Dormant before issuer)
    (unheld : Unheld before issuer) :
    Backed keys (update before issuer (.issuer 0)) := by
  apply (backed_update_iff backed member).mpr
  constructor
  · intro other supply _ issues
    rw [Entry.amountOf_issuer, dormant other supply issues]
  · intro supply same
    cases same
    apply outstanding_issuer_eq_zero_iff.mpr
    intro key _ apart
    exact unheld key apart

theorem Backed.clear (backed : Backed keys before) {key : κ}
    {entry : Entry κ} (member : key ∈ keys) (dormant : Dormant before key)
    (still : ∀ issuer supply, before issuer = .issuer supply →
      entry.amountOf issuer = 0)
    (issuesNothing : ∀ supply, entry ≠ .issuer supply) :
    Backed keys (update before key entry) := by
  apply (backed_update_iff backed member).mpr
  constructor
  · intro issuer supply _ issues
    rw [still issuer supply issues, dormant issuer supply issues]
  · intro supply issues
    exact absurd issues (issuesNothing supply)

theorem Backed.move (backed : Backed keys before)
    {issuer source destination : κ} {left held amount : ℕ}
    (fromKeys : source ∈ keys) (toKeys : destination ∈ keys)
    (apart : source ≠ destination)
    (sends : before source = .holding issuer (left + amount))
    (receives : before destination = .holding issuer held) :
    Backed keys
      (update (update before source (.holding issuer left)) destination
        (.holding issuer (held + amount))) := by
  intro other supply found
  have atDestination : other ≠ destination := by
    intro equal
    subst equal
    rw [update_self] at found
    cases found
  rw [update_of_ne atDestination] at found
  have atSource : other ≠ source := by
    intro equal
    subst equal
    rw [update_self] at found
    cases found
  rw [update_of_ne atSource] at found
  have total := backed other supply found
  have debit :=
    outstanding_update before other fromKeys (.holding issuer left)
  have credit :=
    outstanding_update (update before source (.holding issuer left)) other
      toKeys (.holding issuer (held + amount))
  rw [sends] at debit
  rw [update_of_ne apart.symm, receives] at credit
  simp only [Entry.amountOf_holding] at debit credit
  split at debit
  · rename_i same
    rw [if_pos same, if_pos same] at credit
    omega
  · rename_i different
    rw [if_neg different, if_neg different] at credit
    omega

/-- Minting and burning rewrite an issuer and a holder of it. -/
theorem Backed.resupply (backed : Backed keys before)
    {issuer holder : κ} {supply held supply' held' : ℕ}
    (member : holder ∈ keys) (issues : before issuer = .issuer supply)
    (holds : before holder = .holding issuer held)
    (balanced : supply' + held = supply + held') :
    Backed keys
      (update (update before issuer (.issuer supply')) holder
        (.holding issuer held')) := by
  have apart : holder ≠ issuer := by
    intro equal
    subst equal
    rw [holds] at issues
    cases issues
  intro other total found
  have atHolder : other ≠ holder := by
    intro equal
    subst equal
    rw [update_self] at found
    cases found
  have sameHoldings :
      outstanding keys (update before issuer (.issuer supply')) other =
        outstanding keys before other :=
    outstanding_update_of_same (by rw [issues]; rfl)
  have change :=
    outstanding_update (update before issuer (.issuer supply')) other
      member (.holding issuer held')
  rw [update_of_ne apart, holds, sameHoldings] at change
  simp only [Entry.amountOf_holding] at change
  rw [update_of_ne atHolder] at found
  by_cases same : other = issuer
  · subst same
    rw [update_self, Entry.issuer.injEq] at found
    have old := backed other supply issues
    rw [if_pos rfl, if_pos rfl] at change
    omega
  · rw [update_of_ne same] at found
    have old := backed other total found
    rw [if_neg (Ne.symm same), if_neg (Ne.symm same)] at change
    omega

/-- A holder of an issuer holds no more than its supply. -/
theorem Backed.held_le (backed : Backed keys before)
    {issuer holder : κ} {supply held : ℕ} (member : holder ∈ keys)
    (issues : before issuer = .issuer supply)
    (holds : before holder = .holding issuer held) :
    held ≤ supply := by
  let amounts (key : κ) : ℕ := (before key).amountOf issuer
  have part : amounts holder ≤ outstanding keys before issuer :=
    Finset.single_le_sum (fun _ _ => Nat.zero_le _) member
  have own : amounts holder = held := by
    simp only [amounts, holds, Entry.amountOf_holding, if_true]
  rw [own, backed issuer supply issues] at part
  exact part

theorem Step.backed (step : Step keys before after)
    (backed : Backed keys before) :
    Backed keys after := by
  cases step with
  | idle =>
      exact backed
  | issue member dormant unheld =>
      exact backed.issue member dormant unheld
  | clear member dormant still issuesNothing =>
      exact backed.clear member dormant still issuesNothing
  | move fromKeys toKeys apart sends receives =>
      exact backed.move fromKeys toKeys apart sends receives
  | mint toKeys issues receives =>
      exact backed.resupply toKeys issues receives (by omega)
  | @burn issuer source supply left amount fromKeys issues sends =>
      have covered := backed.held_le fromKeys issues sends
      have apart : source ≠ issuer := by
        intro equal
        subst equal
        rw [sends] at issues
        cases issues
      rw [update_comm apart]
      exact backed.resupply fromKeys issues sends (by omega)

/-- Any sequence of changes keeps a book backed. -/
theorem backed_of_steps
    (steps : Relation.ReflTransGen (Step keys) before after)
    (backed : Backed keys before) :
    Backed keys after := by
  induction steps with
  | refl =>
      exact backed
  | tail _ step inductionHypothesis =>
      exact step.backed inductionHypothesis

/-- An entry stays as it is, or a vacant key is opened without tokens. -/
inductive Entry.Opens : Entry κ → Entry κ → Prop
  | same (entry : Entry κ) : Opens entry entry
  | opened (issuer : κ) : Opens .vacant (.holding issuer 0)

theorem Entry.Opens.amountOf_eq {entry entry' : Entry κ}
    (opens : entry.Opens entry') (issuer : κ) :
    entry'.amountOf issuer = entry.amountOf issuer := by
  cases opens with
  | same =>
      rfl
  | opened other =>
      rw [Entry.amountOf_holding, ite_self, Entry.amountOf_vacant]

omit [DecidableEq κ] in
theorem Entry.Opens.issuer_eq {entry : Entry κ} {supply : ℕ}
    (opens : entry.Opens (.issuer supply)) : entry = .issuer supply := by
  cases opens with
  | same =>
      rfl

/-- Opening keys without tokens, however many at once, keeps a book
backed. -/
theorem Backed.opens (backed : Backed keys before)
    (each : ∀ key, (before key).Opens (after key)) :
    Backed keys after := by
  intro issuer supply issues
  have opens := each issuer
  rw [issues] at opens
  have amounts :
      outstanding keys after issuer = outstanding keys before issuer :=
    Finset.sum_congr rfl fun key _ => (each key).amountOf_eq issuer
  rw [amounts]
  exact backed issuer supply opens.issuer_eq

end Backed

end Circulation
