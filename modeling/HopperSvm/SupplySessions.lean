import HopperSvm.OwnerChanges
import HopperSvm.TokenControl

/-!
What the other programs of a harness do to the accounts of a token program
is to open empty ones: a creation fills them with zeros, the
associated-token-account program with a record without tokens.  Only an
`Assign` can bring in tokens nobody minted.  So over a session whose token
instructions are careful and whose assignments hand over no records, every
supply stays what the balances add up to.
-/

namespace Hopper

open BuiltinEngine Circulation HopperSvm Labelled SplToken

/-- The bytes hold neither a mint nor a token account. -/
structure Recordless (codec : TokenCodec) (data : List UInt8) : Prop where
  mint : ∀ mint, codec.mint.unpack data ≠ .ok mint
  account : ∀ token, codec.account.unpack data ≠ .ok token

/-- Zeroed bytes hold no initialised record. -/
def TokenCodec.RefusesZeros (codec : TokenCodec) : Prop :=
  ∀ length, Recordless codec (List.replicate length 0)

theorem splCodec_refusesZeros : splCodec.RefusesZeros := by
  intro length
  constructor
  · intro mint unpacked
    have sized := splCodec.mint.length_of_unpack unpacked
    rw [List.length_replicate] at sized
    subst sized
    have refused :
        (splCodec.mint.unpack (List.replicate mintLen 0)).toOption =
          none := by
      decide
    rw [unpacked] at refused
    cases refused
  · intro token unpacked
    have sized := splCodec.account.length_of_unpack unpacked
    rw [List.length_replicate] at sized
    subst sized
    have refused :
        (splCodec.account.unpack
          (List.replicate tokenAccountLen 0)).toOption = none := by
      decide
    rw [unpacked] at refused
    cases refused

theorem Recordless.entryOf_eq {codec : TokenCodec}
    {account : KeyedAccount} (recordless : Recordless codec account.data)
    (programId : Pubkey) : entryOf codec programId account = .vacant := by
  unfold entryOf
  split
  · split
    · rename_i mint unpacked
      exact absurd unpacked (recordless.mint mint)
    · split
      · rename_i token unpacked
        exact absurd unpacked (recordless.account token)
      · rfl
  · rfl

/-- Of every mint of the token program, the list holds as many tokens as its
supply says. -/
def Backs (codec : TokenCodec) (programId : Pubkey)
    (accounts : List KeyedAccount) : Prop :=
  Backed (addresses accounts).toFinset
    (bookOf codec programId (ledgerOf accounts))

section Backs

variable {codec : TokenCodec} {programId : Pubkey}
  {accounts after : List KeyedAccount}

/-- Each account keeps its entry or opens without tokens. -/
theorem Backs.opens (backs : Backs codec programId accounts)
    (same : addresses after = addresses accounts)
    (each : ∀ address p n, findAccount address accounts = some p →
      findAccount address after = some n →
        (entryOf codec programId p).Opens (entryOf codec programId n)) :
    Backs codec programId after := by
  rw [Backs, same]
  refine Backed.opens backs ?_
  intro address
  by_cases listed : address ∈ addresses accounts
  · obtain ⟨p, before⟩ :=
      KeyedList.exists_lookup_of_mem KeyedAccount.address listed
    obtain ⟨n, left⟩ :=
      KeyedList.exists_lookup_of_mem KeyedAccount.address
        (same.symm ▸ listed)
    have entryBefore : bookOf codec programId (ledgerOf accounts) address =
        entryOf codec programId p := bookOf_of_found before
    have entryAfter : bookOf codec programId (ledgerOf after) address =
        entryOf codec programId n := bookOf_of_found left
    rw [entryBefore, entryAfter]
    exact each address p n before left
  · have before : ledgerOf accounts address = none :=
      (KeyedList.lookup_eq_none_iff KeyedAccount.address).mpr listed
    have left : ledgerOf after address = none := by
      refine (KeyedList.lookup_eq_none_iff KeyedAccount.address).mpr ?_
      change address ∉ addresses after
      rwa [same]
    rw [bookOf, bookOf, before, left]
    exact .same _

/-- A fee leaves every entry. -/
theorem Request.Charged.backs {request : Request} {fee : UInt64}
    (charges : request.Charged accounts fee after)
    (backs : Backs codec programId accounts) :
    Backs codec programId after := by
  refine backs.opens charges.addresses_eq ?_
  intro address p n before left
  cases charges with
  | free =>
      cases before.symm.trans left
      exact .same _
  | @fee ixs feePayer payer accounts fee found covered =>
      rw [findAccount_debitPayer, before] at left
      split at left
      · cases left
        exact .same _
      · cases left
        exact .same _

end Backs

/-! ## Accepted instructions -/

/-- The programs link the token records that the token program does. -/
structure LinksRecords (codec : TokenCodec) (programId : Pubkey)
    (registry : Registry) : Prop where
  token : ∃ program, registry programId = some program ∧
    TokenProgramAt codec programId program
  ata : ∀ program, registry ataProgramId = some program →
    ∃ findProgramAddress,
      program = splAtaSimulator codec findProgramAddress

/-- An instruction to the token program is careful, and an `Assign` to it
hands over no record. -/
structure Heeds (codec : TokenCodec) (programId : Pubkey)
    (accounts : List KeyedAccount) (ix : Instruction) : Prop where
  careful : ix.programId = programId → Careful codec accounts ix
  assigns : ix.programId = systemProgramId →
    SystemProgram.takingOf ix.data = .reassign programId →
      ∀ address account,
        (ix.accounts.map AccountMeta.pubkey)[0]? = some address →
          findAccount address accounts = some account →
            Recordless codec account.data

section Accepting

variable {registry : Registry} {codec : TokenCodec}
  {programId address : Pubkey} {program : BuiltinProgram}
  {ix : Instruction} {accounts after : List KeyedAccount}
  {p n : KeyedAccount}

theorem SplToken.TokenProgramAt.effect {context : InvokeContext}
    {state final : InvokeState} {data : List UInt8}
    (tokenProgram : TokenProgramAt codec programId program)
    (own : context.programId = programId)
    (ran : program.invoke data context state = some (.ok (), final)) :
    ∃ tag body, data = tag :: body ∧
      TokenEffect codec programId tag.toNat body state.accounts
        final.accounts := by
  have notSystem : context.programId ≠ systemProgramId := by
    rw [own]
    exact tokenProgram.ne_system
  cases tokenProgram with
  | legacy =>
      rw [← own]
      exact SplToken.invoke_effect notSystem ran
  | token2022 =>
      rw [← own]
      exact
        SplToken.invoke_effect notSystem
          (Token2022.delegated_of_yields ran)

/-- What the program that ran may have brought under an owner. -/
theorem LinksRecords.adopts (links : LinksRecords codec programId registry)
    (found : registry ix.programId = some program)
    (bundled : BundledAt ix.programId program) :
    program.Effects (Adopts codec ix.programId) := by
  by_cases isAta : ix.programId = ataProgramId
  · obtain ⟨findProgramAddress, rfl⟩ := links.ata program (isAta ▸ found)
    exact
      BuiltinProgram.effects_ofRoutine fun _ _ _ _ =>
        AtaProgram.invoke_adopts
  · exact bundled.adopts isAta codec

/-- A program other than the token program opens accounts without tokens,
if it does anything to their records. -/
theorem Accepted.opens (accepted : Accepted registry ix accounts after)
    (links : LinksRecords codec programId registry)
    (refuses : codec.RefusesZeros) (distinct : (addresses accounts).Nodup)
    (other : ix.programId ≠ programId)
    (heeds : Heeds codec programId accounts ix)
    (before : findAccount address accounts = some p)
    (left : findAccount address after = some n) :
    (entryOf codec programId p).Opens (entryOf codec programId n) := by
  have notSystem : programId ≠ systemProgramId := by
    obtain ⟨program, _, tokenProgram⟩ := links.token
    exact tokenProgram.ne_system
  by_cases owned : p.owner = programId
  · have foreign : p.owner ≠ ix.programId := by
      rw [owned]
      exact other.symm
    have inUse : ¬ Fresh p := by
      intro fresh
      exact notSystem (owned.symm.trans fresh.2.2)
    have isolated := accepted.isolated distinct before left foreign inUse
    rw [entryOf_congr isolated.owner isolated.data]
    exact .same _
  · rw [entryOf_of_foreign owned]
    by_cases adopted : n.owner = programId
    · cases accepted with
      | «by» found bundled strict succeeds =>
          rcases succeeds.reached.merged_slot bundled.keepsAddresses before
              left with ⟨_, same⟩ | ⟨index, atReceived, atLeft, last⟩
          · rw [same] at adopted
            exact absurd adopted owned
          · have adopts :=
              links.adopts found bundled _ _ _ _ succeeds.reached.invoked
                index p n atReceived atLeft
            cases adopts with
            | stays stays =>
                rcases stays with same | closed
                · exact absurd (same.symm.trans adopted) owned
                · exact absurd (adopted.symm.trans closed) notSystem
            | home own =>
                exact absurd (own.symm.trans adopted) other
            | zeros created =>
                have recordless : Recordless codec n.data := by
                  rw [created]
                  exact refuses _
                rw [recordless.entryOf_eq]
                exact .same _
            | assigned system taking same =>
                rw [adopted] at taking
                have recordless : Recordless codec n.data := by
                  rw [same]
                  exact heeds.assigns system taking address p last.1 before
                rw [recordless.entryOf_eq]
                exact .same _
            | opened unpacks =>
                rw [entryOf_of_token adopted unpacks]
                exact .opened _
    · rw [entryOf_of_foreign adopted]
      exact .same _

theorem Accepted.backs (accepted : Accepted registry ix accounts after)
    (links : LinksRecords codec programId registry)
    (refuses : codec.RefusesZeros) (distinct : (addresses accounts).Nodup)
    (heeds : Heeds codec programId accounts ix)
    (backs : Backs codec programId accounts) :
    Backs codec programId after := by
  have same := accepted.addresses_eq
  by_cases own : ix.programId = programId
  · obtain ⟨linked, found, tokenProgram⟩ := links.token
    cases accepted with
    | «by» runs bundled strict succeeds =>
        rw [own, found] at runs
        cases runs
        have resolved := succeeds.reached.resolved
        obtain ⟨tag, body, data_eq, effect⟩ :=
          tokenProgram.effect own succeeds.reached.invoked
        have careful := heeds.careful own tag body data_eq
        rw [own, ← addresses_of_resolved resolved] at careful
        have clones :
            ∀ slot ∈ _, ledgerOf accounts slot.address = some slot :=
          fun slot member => findAccount_of_resolved resolved member
        have steps :=
          effect.steps careful clones (address_mem_of_clones clones)
        rw [Backs, same, ledgerOf_mergeAccounts]
        exact backed_of_steps steps backs
  · exact
      backs.opens same fun address p n =>
        accepted.opens links refuses distinct own heeds

/-- Every instruction heeds the list that those before it leave. -/
def HeedsFrom (codec : TokenCodec) (programId : Pubkey)
    (registry : Registry) : List Instruction → List KeyedAccount → Prop
  | [], _ => True
  | ix :: rest, accounts =>
      Heeds codec programId accounts ix ∧
        ∀ middle, Accepted registry ix accounts middle →
          HeedsFrom codec programId registry rest middle

theorem Applies.backs {ixs : List Instruction}
    (applies : Applies registry ixs accounts after)
    (links : LinksRecords codec programId registry)
    (refuses : codec.RefusesZeros) (distinct : (addresses accounts).Nodup)
    (heeds : HeedsFrom codec programId registry ixs accounts)
    (backs : Backs codec programId accounts) :
    Backs codec programId after := by
  induction applies with
  | stop =>
      exact backs
  | next accepted later inductionHypothesis =>
      have distinct' := distinct
      rw [← accepted.addresses_eq] at distinct'
      have first := accepted.backs links refuses distinct heeds.1 backs
      exact
        inductionHypothesis distinct' (heeds.2 _ accepted) first

end Accepting

namespace Session

/-- The instructions of the event heed the lists they are processed on. -/
def Event.Heeds (codec : TokenCodec) (programId : Pubkey)
    (registry : Registry) (accounts : List KeyedAccount) : Event → Prop
  | .process request result =>
      ∀ charged,
        request.Charged accounts result.transactionFeePaid charged →
          HeedsFrom codec programId registry request.instructions charged
  | .configure => True

variable {codec : TokenCodec} {programId : Pubkey}

theorem Moves.backs {registry : Registry} {event : Event}
    {accounts after : List KeyedAccount}
    (moves : Moves registry event accounts after)
    (links : LinksRecords codec programId registry)
    (refuses : codec.RefusesZeros) (distinct : (addresses accounts).Nodup)
    (heeds : event.Heeds codec programId registry accounts)
    (backs : Backs codec programId accounts) :
    Backs codec programId after := by
  cases moves with
  | @process request result accounts charged after charges applies =>
      have distinct' : (addresses charged).Nodup :=
        charges.addresses_eq ▸ distinct
      exact
        applies.backs links refuses distinct' (heeds charged charges)
          (charges.backs backs)
  | configure =>
      exact backs

/-- At the end of a session every supply of the token program is what the
balances add up to, if it was at the start. -/
theorem supplies_backed {start finish : Session}
    {entries : List (Entry Session Event)}
    (run : Trace Step start entries finish) (sound : start.Sound)
    (links : LinksRecords codec programId start.svm.registry)
    (refuses : codec.RefusesZeros)
    (heeds : ∀ entry ∈ entries,
      entry.event.Heeds codec programId start.svm.registry
        entry.before.accounts)
    (backs : Backs codec programId start.accounts) :
    Backs codec programId finish.accounts := by
  induction run with
  | nil =>
      exact backs
  | @cons before after final event rest first later
      inductionHypothesis =>
      obtain ⟨moves, sameRegistry, sound'⟩ := first.moves sound
      have now :=
        moves.backs links refuses sound.distinct
          (heeds _ List.mem_cons_self) backs
      rw [← sameRegistry] at links heeds
      refine inductionHypothesis sound' links ?_ now
      intro entry member
      exact heeds entry (List.mem_cons_of_mem _ member)

/-! Three of ten tokens go from one holder to the other. -/

def holdingSession : Session :=
  { svm := tokenHarness
    accounts := holdings 10 0 }

def holdingIx : Instruction := Hopper.transferThree (.filled 4)

theorem holdingSession_sound : holdingSession.Sound where
  guarded := spendingSession_sound.guarded
  distinct := by decide

theorem holdingIx_returns :
    (tokenHarness.processInstruction holdingIx (holdings 10 0)).isSome := by
  decide +kernel

theorem holdingSession_runs :
    ∃ result finish,
      Trace Step holdingSession
        [⟨holdingSession, .process (.instruction holdingIx) result,
          finish⟩]
        finish := by
  obtain ⟨⟨result, svm⟩, ran⟩ := Option.isSome_iff_exists.mp holdingIx_returns
  exact
    ⟨result, ⟨svm, result.outcome.resultingAccounts⟩,
      .cons ⟨ran, rfl⟩ .nil⟩

theorem tokenHarness_links :
    LinksRecords splCodec splTokenId tokenHarness.registry where
  token := ⟨_, rfl, .legacy⟩
  ata := by
    intro program found
    cases found

theorem holdingIx_heeds :
    Heeds splCodec splTokenId (holdings 10 0) holdingIx where
  careful := by
    intro own tag body data_eq
    cases data_eq
    exact Or.inr (Or.inr (Or.inl (by decide)))
  assigns := by
    intro system
    exact absurd system (by decide)

theorem supplies_backed_transfer :
    ∃ result finish,
      Trace Step holdingSession
          [⟨holdingSession, .process (.instruction holdingIx) result,
            finish⟩]
          finish ∧
        Backs splCodec splTokenId finish.accounts := by
  obtain ⟨result, finish, run⟩ := holdingSession_runs
  have distinct : (addresses (holdings 10 0)).Nodup := by decide
  have backs : Backs splCodec splTokenId (holdings 10 0) :=
    (supplyBacked_iff distinct).mp ((holdings_backed_iff 10 0).mpr rfl)
  refine
    ⟨result, finish, run,
      supplies_backed run holdingSession_sound tokenHarness_links
        splCodec_refusesZeros ?_ backs⟩
  intro entry member
  rw [List.mem_singleton] at member
  rw [member]
  intro charged charges
  have same : charged = holdings 10 0 := by
    generalize result.transactionFeePaid = fee at charges
    cases charges
    rfl
  rw [same]
  exact ⟨holdingIx_heeds, fun _ _ => trivial⟩

end Session

end Hopper
