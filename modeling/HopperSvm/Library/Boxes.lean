import HopperSvm.Library.Procedure

/-!
# Objects behind handles

A memory of boxed objects with the procedures that allocate, read, overwrite
and release a box: following an address where no box is, or releasing it
again, has no outcome at all.  `Ends` is the rule of pre- and postconditions
for them, with the boxes in use as the state, so that it holds whatever
address the allocator picks among those not in use.

`Represents` says that clients, which hold at most one address each, together
hold exactly the boxes in use, each box held by one of them: so a client that
follows its handle finds its own object and nobody else's, and what no client
holds has been given back.  Creating, overwriting and releasing keep this.
-/

namespace Boxes

open Procedure

/-- Which object each box holds. -/
abbrev Contents (α : Type) : Type := ℕ → Option α

/-- The boxes in use, none of them at or beyond the bound. -/
structure Heap (α : Type) where
  box : Contents α
  bound : ℕ
  beyond : ∀ address, bound ≤ address → box address = none

namespace Heap

variable {α : Type}

def empty : Heap α where
  box _ := none
  bound := 0
  beyond _ _ := rfl

/-- Put an object into the box at an address. -/
def put (heap : Heap α) (address : ℕ) (object : α) : Heap α where
  box := Function.update heap.box address (some object)
  bound := max heap.bound (address + 1)
  beyond other far := by
    have apart : other ≠ address := by
      omega
    rw [Function.update_of_ne apart]
    exact heap.beyond other (by omega)

/-- Give a box back. -/
def free (heap : Heap α) (address : ℕ) : Heap α where
  box := Function.update heap.box address none
  bound := heap.bound
  beyond other far := by
    by_cases same : other = address
    · rw [same, Function.update_self]
    · rw [Function.update_of_ne same]
      exact heap.beyond other far

end Heap

/-- Picks the address of each allocation of a run, in order. -/
structure Allocator (α : Type) where
  pick : ℕ → Heap α → ℕ
  unused : ∀ (count : ℕ) (heap : Heap α),
    heap.box (pick count heap) = none

/-- Allocate behind every box that was ever in use. -/
def Allocator.bump (α : Type) : Allocator α where
  pick _ heap := heap.bound
  unused _ heap := heap.beyond heap.bound (Nat.le_refl _)

instance (α : Type) : Inhabited (Allocator α) := ⟨.bump α⟩

/-- The memory, with how often it was allocated from. -/
structure Memory (α : Type) where
  heap : Heap α
  allocations : ℕ

def Memory.empty (α : Type) : Memory α :=
  { heap := .empty
    allocations := 0 }

/-- The object in a memory's box. -/
def Memory.box {α : Type} (memory : Memory α) : Contents α :=
  memory.heap.box

section Procedures

variable {ρ α ε : Type}

/-- `Box::into_raw(Box::new(object))`. -/
def allocate (allocator : Allocator α) (object : α) :
    Procedure ρ (Memory α) ε ℕ :=
  fun _ memory =>
    let address := allocator.pick memory.allocations memory.heap
    some
      (.ok address,
        { heap := memory.heap.put address object
          allocations := memory.allocations + 1 })

/-- Read the object at an address. -/
def deref (address : ℕ) : Procedure ρ (Memory α) ε α :=
  fun _ memory =>
    (memory.box address).map fun object => (.ok object, memory)

/-- Overwrite the object at an address. -/
def overwrite (address : ℕ) (object : α) :
    Procedure ρ (Memory α) ε Unit :=
  fun _ memory =>
    (memory.box address).map fun _ =>
      (.ok (), { memory with heap := memory.heap.put address object })

/-- `Box::from_raw(address)`, dropped. -/
def release (address : ℕ) : Procedure ρ (Memory α) ε Unit :=
  fun _ memory =>
    (memory.box address).map fun _ =>
      (.ok (), { memory with heap := memory.heap.free address })

end Procedures

/-- A sequence, unfolded once. -/
theorem run_bind {ρ σ ε β γ : Type} (first : Procedure ρ σ ε β)
    (next : β → Procedure ρ σ ε γ) (environment : ρ) (state : σ) :
    (first >>= next) environment state =
      match first environment state with
      | none => none
      | some (.error err, state') => some (.error err, state')
      | some (.ok value, state') => next value environment state' :=
  rfl

section Ends

variable {ρ α ε β γ : Type} {environment : ρ} {contents : Contents α}

/-- From every memory with these contents the procedure ends as the
postcondition says, which is told the outcome and the contents reached, or
`none` where there is no outcome. -/
def Ends (procedure : Procedure ρ (Memory α) ε β) (environment : ρ)
    (contents : Contents α)
    (post : Option (Except ε β × Contents α) → Prop) : Prop :=
  ∀ memory : Memory α, memory.box = contents →
    post ((procedure environment memory).map fun reached =>
      (reached.1, reached.2.box))

/-- What a sequence has to reach after its first part. -/
def After (next : β → Procedure ρ (Memory α) ε γ) (environment : ρ)
    (post : Option (Except ε γ × Contents α) → Prop) :
    Option (Except ε β × Contents α) → Prop
  | none => post none
  | some (Except.error err, contents) =>
      post (some (Except.error err, contents))
  | some (Except.ok value, contents) =>
      Ends (next value) environment contents post

theorem after_ok {next : β → Procedure ρ (Memory α) ε γ} {value : β}
    {post : Option (Except ε γ × Contents α) → Prop}
    (rest : Ends (next value) environment contents post) :
    After next environment post (some (.ok value, contents)) :=
  rest

theorem Ends.mono {procedure : Procedure ρ (Memory α) ε β}
    {post weaker : Option (Except ε β × Contents α) → Prop}
    (ends : Ends procedure environment contents post)
    (implies : ∀ reached, post reached → weaker reached) :
    Ends procedure environment contents weaker :=
  fun memory same => implies _ (ends memory same)

theorem ends_bind {first : Procedure ρ (Memory α) ε β}
    {next : β → Procedure ρ (Memory α) ε γ}
    {post : Option (Except ε γ × Contents α) → Prop}
    (firstEnds : Ends first environment contents
      (After next environment post)) :
    Ends (first >>= next) environment contents post := by
  intro memory same
  have reached := firstEnds memory same
  rw [run_bind]
  cases result : first environment memory with
  | none =>
      rw [result] at reached
      exact reached
  | some outcome =>
      rw [result] at reached
      rcases outcome with ⟨verdict, memory'⟩
      cases verdict with
      | error err =>
          exact reached
      | ok value =>
          exact reached memory' rfl

section Rules

variable {post : Option (Except ε β × Contents α) → Prop}

theorem ends_pure {value : β} (holds : post (some (.ok value, contents))) :
    Ends (pure value) environment contents post := by
  intro memory same
  subst same
  exact holds

theorem ends_fail {err : ε} (holds : post (some (.error err, contents))) :
    Ends (fail err) environment contents post := by
  intro memory same
  subst same
  exact holds

theorem ends_expect {value : Option β}
    (holds : post (value.map fun value => (.ok value, contents))) :
    Ends (expect value) environment contents post := by
  cases value with
  | none =>
      intro memory same
      exact holds
  | some value =>
      exact ends_pure holds

end Rules

theorem ends_environment
    {post : Option (Except ε ρ × Contents α) → Prop}
    (holds : post (some (.ok environment, contents))) :
    Ends Procedure.environment environment contents post := by
  intro memory same
  subst same
  exact holds

theorem ends_rejectIf {condition : Prop} [Decidable condition] {err : ε}
    {post : Option (Except ε Unit × Contents α) → Prop}
    (rejects : condition → post (some (.error err, contents)))
    (passes : ¬ condition → post (some (.ok (), contents))) :
    Ends (rejectIf condition err) environment contents post := by
  by_cases holds : condition
  · rw [rejectIf, if_pos holds]
    exact ends_fail (rejects holds)
  · rw [rejectIf, if_neg holds]
    exact ends_pure (passes holds)

theorem ends_deref {address : ℕ}
    {post : Option (Except ε α × Contents α) → Prop}
    (holds : post ((contents address).map fun object =>
      (.ok object, contents))) :
    Ends (deref address) environment contents post := by
  intro memory same
  subst same
  rw [deref, Option.map_map]
  exact holds

/-- Whatever address the allocator picks, no box was there. -/
theorem ends_allocate {allocator : Allocator α} {object : α}
    {post : Option (Except ε ℕ × Contents α) → Prop}
    (holds : ∀ address, contents address = none →
      post (some (.ok address,
        Function.update contents address (some object)))) :
    Ends (allocate allocator object) environment contents post := by
  intro memory same
  subst same
  exact holds _ (allocator.unused memory.allocations memory.heap)

theorem ends_overwrite {address : ℕ} {old object : α}
    {post : Option (Except ε Unit × Contents α) → Prop}
    (found : contents address = some old)
    (holds : post (some (.ok (),
      Function.update contents address (some object)))) :
    Ends (overwrite address object) environment contents post := by
  intro memory same
  subst same
  rw [overwrite, found, Option.map_some, Option.map_some]
  exact holds

theorem ends_release {address : ℕ} {old : α}
    {post : Option (Except ε Unit × Contents α) → Prop}
    (found : contents address = some old)
    (holds : post (some (.ok (),
      Function.update contents address none))) :
    Ends (release address) environment contents post := by
  intro memory same
  subst same
  rw [release, found, Option.map_some, Option.map_some]
  exact holds

/-- The procedure returns a value and leaves the contents. -/
def Reads (procedure : Procedure ρ (Memory α) ε β) (environment : ρ)
    (contents : Contents α) (value : β) : Prop :=
  Ends procedure environment contents fun ended =>
    ended = some (.ok value, contents)

theorem reads_pure {value : β} :
    Reads (pure value : Procedure ρ (Memory α) ε β) environment contents
      value :=
  ends_pure rfl

theorem reads_expect {value : Option β} {held : β}
    (found : value = some held) :
    Reads (expect value : Procedure ρ (Memory α) ε β) environment contents
      held := by
  subst found
  exact ends_pure rfl

theorem reads_deref {address : ℕ} {object : α}
    (found : contents address = some object) :
    Reads (deref address : Procedure ρ (Memory α) ε α) environment
      contents object := by
  apply ends_deref
  rw [found]
  rfl

/-- Go on with what was read. -/
theorem Reads.bind {first : Procedure ρ (Memory α) ε β}
    {next : β → Procedure ρ (Memory α) ε γ} {value : β}
    {post : Option (Except ε γ × Contents α) → Prop}
    (reads : Reads first environment contents value)
    (rest : Ends (next value) environment contents post) :
    Ends (first >>= next) environment contents post := by
  apply ends_bind
  refine Ends.mono reads ?_
  intro reached same
  rw [same]
  exact rest

/-- The procedure fails with an error and leaves the contents. -/
def Fails (procedure : Procedure ρ (Memory α) ε β) (environment : ρ)
    (contents : Contents α) (err : ε) : Prop :=
  Ends procedure environment contents fun ended =>
    ended = some (.error err, contents)

theorem Fails.bind {first : Procedure ρ (Memory α) ε β}
    {next : β → Procedure ρ (Memory α) ε γ} {err : ε}
    (fails : Fails first environment contents err) :
    Fails (first >>= next) environment contents err := by
  apply ends_bind
  refine Ends.mono fails ?_
  intro reached same
  rw [same]
  rfl

/-- A specified ending is reached from every memory with the contents. -/
theorem exists_of_ends {procedure : Procedure ρ (Memory α) ε β}
    {outcome : Except ε β} {contents' : Contents α} {memory : Memory α}
    (ends : Ends procedure environment memory.box fun ended =>
      ended = some (outcome, contents')) :
    ∃ memory', procedure environment memory = some (outcome, memory') ∧
      memory'.box = contents' := by
  have reached := ends memory rfl
  obtain ⟨ended, ran, same⟩ := Option.map_eq_some_iff.mp reached
  obtain ⟨sameOutcome, sameContents⟩ := Prod.mk.inj same
  refine ⟨ended.2, ?_, sameContents⟩
  rw [ran, ← sameOutcome]

/-- A box that was not in use and is given back leaves no trace. -/
theorem update_update_none {address : ℕ} {object : α}
    (unused : contents address = none) :
    Function.update (Function.update contents address (some object))
        address none =
      contents := by
  rw [Function.update_idem, ← unused, Function.update_eq_self]

end Ends

/-! ## Clients and their boxes -/

/-- The clients hold the boxes in use, one each, and the box of a client
holds its object. -/
structure Represents {α ι : Type} (contents : Contents α)
    (handles : ι → Option ℕ) (objects : ι → Option α) : Prop where
  opened : ∀ {client address}, handles client = some address →
    ∃ object, objects client = some object ∧
      contents address = some object
  closed : ∀ {client}, handles client = none → objects client = none
  apart : ∀ {client other address}, handles client = some address →
    handles other = some address → client = other
  covered : ∀ {address object}, contents address = some object →
    ∃ client, handles client = some address

namespace Represents

variable {α ι : Type} {contents : Contents α} {handles : ι → Option ℕ}
  {objects : ι → Option α}

theorem start (ι : Type) :
    Represents (Memory.empty α).box (fun _ : ι => none)
      fun _ => none where
  opened held := nomatch held
  closed _ := rfl
  apart held := nomatch held
  covered found := nomatch found

/-- A client is open just when it has an object. -/
theorem isSome_handles (represents : Represents contents handles objects)
    (client : ι) :
    (handles client).isSome = (objects client).isSome := by
  cases held : handles client with
  | none =>
      rw [represents.closed held]
      rfl
  | some address =>
      obtain ⟨object, owns, _⟩ := represents.opened held
      rw [owns]
      rfl

variable [DecidableEq ι]

/-- A closed client takes a new box. -/
theorem create (represents : Represents contents handles objects)
    {client : ι} {address : ℕ} (fresh : handles client = none)
    (unused : contents address = none) (object : α) :
    Represents (Function.update contents address (some object))
      (Function.update handles client (some address))
      (Function.update objects client (some object)) := by
  have unheld {other : ι} : handles other ≠ some address := by
    intro held
    obtain ⟨found, _, used⟩ := represents.opened held
    cases unused.symm.trans used
  constructor
  · intro other place held
    by_cases same : other = client
    · subst same
      rw [Function.update_self, Option.some.injEq] at held
      subst held
      exact ⟨object, Function.update_self _ _ _, Function.update_self _ _ _⟩
    · rw [Function.update_of_ne same] at held
      obtain ⟨found, owns, used⟩ := represents.opened held
      have elsewhere : place ≠ address := by
        intro here
        exact unheld (here ▸ held)
      refine ⟨found, ?_, ?_⟩
      · rwa [Function.update_of_ne same]
      · rwa [Function.update_of_ne elsewhere]
  · intro other free
    by_cases same : other = client
    · subst same
      rw [Function.update_self] at free
      cases free
    · rw [Function.update_of_ne same] at free ⊢
      exact represents.closed free
  · intro left right place heldLeft heldRight
    by_cases sameLeft : left = client
    · by_cases sameRight : right = client
      · rw [sameLeft, sameRight]
      · subst sameLeft
        rw [Function.update_self, Option.some.injEq] at heldLeft
        rw [Function.update_of_ne sameRight, ← heldLeft] at heldRight
        exact absurd heldRight unheld
    · rw [Function.update_of_ne sameLeft] at heldLeft
      by_cases sameRight : right = client
      · subst sameRight
        rw [Function.update_self, Option.some.injEq] at heldRight
        rw [← heldRight] at heldLeft
        exact absurd heldLeft unheld
      · rw [Function.update_of_ne sameRight] at heldRight
        exact represents.apart heldLeft heldRight
  · intro place found used
    by_cases here : place = address
    · rw [here]
      exact ⟨client, Function.update_self _ _ _⟩
    · rw [Function.update_of_ne here] at used
      obtain ⟨other, held⟩ := represents.covered used
      have otherClient : other ≠ client := by
        intro same
        rw [same, fresh] at held
        cases held
      exact ⟨other, by rwa [Function.update_of_ne otherClient]⟩

/-- An open client overwrites its object. -/
theorem write (represents : Represents contents handles objects)
    {client : ι} {address : ℕ} (held : handles client = some address)
    (object : α) :
    Represents (Function.update contents address (some object)) handles
      (Function.update objects client (some object)) := by
  constructor
  · intro other place heldOther
    by_cases same : other = client
    · subst same
      cases held.symm.trans heldOther
      exact ⟨object, Function.update_self _ _ _, Function.update_self _ _ _⟩
    · obtain ⟨found, owns, used⟩ := represents.opened heldOther
      have elsewhere : place ≠ address := by
        intro here
        exact same (represents.apart heldOther (here ▸ held))
      refine ⟨found, ?_, ?_⟩
      · rwa [Function.update_of_ne same]
      · rwa [Function.update_of_ne elsewhere]
  · intro other free
    have otherClient : other ≠ client := by
      intro same
      rw [same, held] at free
      cases free
    rw [Function.update_of_ne otherClient]
    exact represents.closed free
  · exact represents.apart
  · intro place found used
    by_cases here : place = address
    · exact ⟨client, here ▸ held⟩
    · rw [Function.update_of_ne here] at used
      exact represents.covered used

/-- An open client gives its box back. -/
theorem release (represents : Represents contents handles objects)
    {client : ι} {address : ℕ} (held : handles client = some address) :
    Represents (Function.update contents address none)
      (Function.update handles client none)
      (Function.update objects client none) := by
  constructor
  · intro other place heldOther
    have otherClient : other ≠ client := by
      intro same
      rw [same, Function.update_self] at heldOther
      cases heldOther
    rw [Function.update_of_ne otherClient] at heldOther
    obtain ⟨found, owns, used⟩ := represents.opened heldOther
    have elsewhere : place ≠ address := by
      intro here
      exact otherClient (represents.apart heldOther (here ▸ held))
    refine ⟨found, ?_, ?_⟩
    · rwa [Function.update_of_ne otherClient]
    · rwa [Function.update_of_ne elsewhere]
  · intro other free
    by_cases same : other = client
    · rw [same, Function.update_self]
    · rw [Function.update_of_ne same] at free ⊢
      exact represents.closed free
  · intro left right place heldLeft heldRight
    have leftOther : left ≠ client := by
      intro same
      rw [same, Function.update_self] at heldLeft
      cases heldLeft
    have rightOther : right ≠ client := by
      intro same
      rw [same, Function.update_self] at heldRight
      cases heldRight
    rw [Function.update_of_ne leftOther] at heldLeft
    rw [Function.update_of_ne rightOther] at heldRight
    exact represents.apart heldLeft heldRight
  · intro place found used
    by_cases here : place = address
    · rw [here, Function.update_self] at used
      cases used
    · rw [Function.update_of_ne here] at used
      obtain ⟨other, heldOther⟩ := represents.covered used
      have otherClient : other ≠ client := by
        intro same
        rw [same, held, Option.some.injEq] at heldOther
        exact here heldOther.symm
      exact ⟨other, by rwa [Function.update_of_ne otherClient]⟩

end Represents

end Boxes
