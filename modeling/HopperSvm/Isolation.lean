import HopperSvm.Allowance
import HopperSvm.Session

/-!
Strict validation keeps the programs apart, and over a whole session as
over one instruction: an account in use only gains lamports until its owner
is instructed or it pays a fee, and its executable flag never changes.
-/

namespace Hopper

open HopperSvm Labelled

theorem Fresh.of_isolated {p n : KeyedAccount} (isolated : Isolated p n)
    (fresh : Fresh n) : Fresh p := by
  obtain ⟨empty, blank, unowned⟩ := fresh
  have less := UInt64.le_iff_toNat_le.mp isolated.lamports
  rw [empty, UInt64.toNat_zero, Nat.le_zero] at less
  exact
    ⟨UInt64.toNat_inj.mp less, isolated.data.symm.trans blank,
      isolated.owner.symm.trans unowned⟩

namespace Session

/-- The event takes a fee from the address, or holds an instruction to the
program. -/
def Event.Reaches (owner address : Pubkey) : Event → Prop
  | .process request _ =>
      request.feePayer = some address ∨
        ∃ ix ∈ request.instructions, ix.programId = owner
  | .configure => False

/-- The account at the address is isolated from its start. -/
def Apart (address : Pubkey) (p : KeyedAccount)
    (accounts : List KeyedAccount) : Prop :=
  ∃ n, findAccount address accounts = some n ∧ Isolated p n

variable {registry : Registry} {address : Pubkey} {p : KeyedAccount}
  {accounts after : List KeyedAccount}

theorem Apart.accepted {ix : Instruction}
    (apart : Apart address p accounts)
    (accepted : Accepted registry ix accounts after)
    (distinct : (addresses accounts).Nodup) (inUse : ¬ Fresh p)
    (other : ix.programId ≠ p.owner) : Apart address p after := by
  obtain ⟨m, before, isolated⟩ := apart
  obtain ⟨n, left⟩ := accepted.exists_account before
  have foreign : m.owner ≠ ix.programId := by
    rw [isolated.owner]
    exact other.symm
  have stillInUse : ¬ Fresh m := fun fresh => inUse (fresh.of_isolated isolated)
  have step := accepted.isolated distinct before left foreign stillInUse
  exact ⟨n, left, isolated.trans step⟩

theorem Moves.apart {event : Event}
    (moves : Moves registry event accounts after)
    (distinct : (addresses accounts).Nodup) (inUse : ¬ Fresh p)
    (unreached : ¬ event.Reaches p.owner address)
    (apart : Apart address p accounts) : Apart address p after := by
  cases moves with
  | @process request result accounts charged after charges applies =>
      have notPayer : request.feePayer ≠ some address :=
        fun pays => unreached (Or.inl pays)
      have distinct' : (addresses charged).Nodup :=
        charges.addresses_eq ▸ distinct
      have initial : Apart address p charged := by
        obtain ⟨n, found, isolated⟩ := apart
        exact ⟨n, (charges.frame notPayer).trans found, isolated⟩
      refine applies.invariant (Apart address p) distinct' ?_ initial
      intro ix member before left distinctBefore accepted apart
      have other : ix.programId ≠ p.owner :=
        fun same => unreached (Or.inr ⟨ix, member, same⟩)
      exact apart.accepted accepted distinctBefore inUse other
  | configure =>
      exact apart

/-- At the end of a session an account in use has its owner, its data and
its executable flag, and no fewer lamports, unless some step instructed its
owner or took a fee from it. -/
theorem accounts_isolated {start finish : Session}
    {entries : List (Entry Session Event)}
    (run : Trace Step start entries finish) (sound : start.Sound)
    (before : findAccount address start.accounts = some p)
    (inUse : ¬ Fresh p) :
    (∃ n, findAccount address finish.accounts = some n ∧
        n.owner = p.owner ∧ n.data = p.data ∧
        n.executable = p.executable ∧ p.lamports ≤ n.lamports) ∨
      ∃ entry ∈ entries, entry.event.Reaches p.owner address := by
  by_cases reached :
      ∃ entry ∈ entries, entry.event.Reaches p.owner address
  · exact Or.inr reached
  · have each : ∀ entry ∈ entries, ¬ entry.event.Reaches p.owner address :=
      fun entry member reaches => reached ⟨entry, member, reaches⟩
    have initial : Apart address p start.accounts :=
      ⟨p, before, .refl p⟩
    obtain ⟨n, found, owner, data, executable, lamports⟩ :=
      invariant (Apart address p) run sound each
        (fun event accounts after unreached distinct moves apart =>
          moves.apart distinct inUse unreached apart)
        initial
    exact Or.inl ⟨n, found, owner, data, executable, lamports⟩

/-! A delegate moves three tokens; its wallet is left alone. -/

open SplToken in
def spendingSession : Session :=
  { svm := tokenHarness
    accounts := spendAccounts }

theorem spendingSession_sound : spendingSession.Sound := by
  have runsBundled : tokenHarness.RunsBundled := by
    refine HopperSvm.RunsBundled.withBuiltin ?_ (.splToken splCodec)
    refine ⟨rfl, rfl, ?_⟩
    intro id program found
    cases found
  exact
    { guarded :=
        { runsBundled with
          strict := rfl }
      distinct := by decide }

open SplToken in
theorem spendingSession_runs :
    ∃ result finish,
      Trace Step spendingSession
        [⟨spendingSession, .process (.instruction spendIx) result, finish⟩]
        finish := by
  obtain ⟨⟨result, svm⟩, ran⟩ := Option.isSome_iff_exists.mp spendIx_returns
  exact
    ⟨result, ⟨svm, result.outcome.resultingAccounts⟩,
      .cons ⟨ran, rfl⟩ .nil⟩

open SplToken in
theorem accounts_isolated_delegate :
    ∃ result finish,
      Trace Step spendingSession
          [⟨spendingSession, .process (.instruction spendIx) result,
            finish⟩]
          finish ∧
        ((∃ n, findAccount (.filled 5) finish.accounts = some n ∧
            n.owner = systemProgramId ∧ n.data = [] ∧
            n.executable = false ∧ 1 ≤ n.lamports) ∨
          ∃ entry ∈ [(⟨spendingSession,
              .process (.instruction spendIx) result, finish⟩ :
              Entry Session Event)],
            entry.event.Reaches systemProgramId (.filled 5)) := by
  obtain ⟨result, finish, run⟩ := spendingSession_runs
  have before :
      findAccount (.filled 5) spendingSession.accounts =
        some (.new (.filled 5) 1 systemProgramId [] false) :=
    rfl
  have inUse :
      ¬ Fresh (KeyedAccount.new (.filled 5) 1 systemProgramId [] false) := by
    decide
  exact
    ⟨result, finish, run,
      accounts_isolated run spendingSession_sound before inUse⟩

end Session

end Hopper
