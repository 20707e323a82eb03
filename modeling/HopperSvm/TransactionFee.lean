import HopperSvm.Harness

/-!
The signer loop counts each key once, however often and in however many
instructions it signs.  The fee is the documented formula as long as the
priority product fits a word: the product saturates before it is divided,
so beyond that the priority fee stops at a millionth of the cap.
-/

namespace Hopper

open Words

/-- The keys that at least one of the metas flags as signer. -/
def signerKeys (metas : List AccountMeta) : Finset Pubkey :=
  ((metas.filter AccountMeta.isSigner).map AccountMeta.pubkey).toFinset

theorem signerKeys_cons (accountMeta : AccountMeta)
    (metas : List AccountMeta) :
    signerKeys (accountMeta :: metas) =
      if accountMeta.isSigner = true then
        insert accountMeta.pubkey (signerKeys metas)
      else
        signerKeys metas := by
  simp only [signerKeys]
  rw [List.filter_cons]
  split
  · rw [List.map_cons, List.toFinset_cons]
  · rfl

theorem signerKeys_append (left right : List AccountMeta) :
    signerKeys (left ++ right) = signerKeys left ∪ signerKeys right := by
  simp only [signerKeys]
  rw [List.filter_append, List.map_append, List.toFinset_append]

/-- One round of the loop over a meta list: it adds the signers that were
not seen, each once. -/
theorem uniqueSigners_spec {seen : List Pubkey} (distinct : seen.Nodup)
    (metas : List AccountMeta) :
    (uniqueSigners seen metas).Nodup ∧
      (uniqueSigners seen metas).toFinset =
        seen.toFinset ∪ signerKeys metas := by
  induction metas generalizing seen with
  | nil =>
      simp [uniqueSigners, signerKeys, distinct]
  | cons accountMeta metas inductionHypothesis =>
      rw [signerKeys_cons]
      simp only [uniqueSigners]
      rw [List.foldl_cons]
      split
      · rename_i fresh
        have longer : (seen ++ [accountMeta.pubkey]).Nodup := by
          rw [List.nodup_append_comm]
          exact List.nodup_cons.mpr ⟨fresh.2, distinct⟩
        have rest := inductionHypothesis longer
        refine ⟨rest.1, ?_⟩
        rw [if_pos fresh.1]
        exact rest.2.trans (by ext key; simp)
      · rename_i skipped
        have rest := inductionHypothesis distinct
        refine ⟨rest.1, rest.2.trans ?_⟩
        split
        · rename_i signs
          have old : accountMeta.pubkey ∈ seen := by
            by_contra unseen
            exact skipped ⟨signs, unseen⟩
          ext key
          simp only [Finset.mem_union, List.mem_toFinset,
            Finset.mem_insert]
          grind
        · rfl

/-- The whole loop. -/
theorem foldl_uniqueSigners_spec {seen : List Pubkey}
    (distinct : seen.Nodup) (metasLists : List (List AccountMeta)) :
    (metasLists.foldl uniqueSigners seen).Nodup ∧
      (metasLists.foldl uniqueSigners seen).toFinset =
        seen.toFinset ∪ signerKeys metasLists.flatten := by
  induction metasLists generalizing seen with
  | nil =>
      simp [signerKeys, distinct]
  | cons metas metasLists inductionHypothesis =>
      have first := uniqueSigners_spec distinct metas
      have rest := inductionHypothesis first.1
      rw [List.foldl_cons, List.flatten_cons, signerKeys_append]
      refine ⟨rest.1, rest.2.trans ?_⟩
      rw [first.2, Finset.union_assoc]

/-- The count is the number of distinct signers; they sit in a `Vec`, so a
`usize` counts them. -/
theorem toNat_countUniqueSigners (metasLists : List (List AccountMeta))
    (fits : (signerKeys metasLists.flatten).card < 2 ^ 64) :
    (countUniqueSigners metasLists).toNat =
      (signerKeys metasLists.flatten).card := by
  have loop := foldl_uniqueSigners_spec List.nodup_nil metasLists
  have counted :
      (metasLists.foldl uniqueSigners []).length =
        (signerKeys metasLists.flatten).card := by
    rw [← List.toFinset_card_of_nodup loop.1, loop.2]
    simp
  rw [countUniqueSigners, counted]
  exact UInt64.toNat_ofNat_of_lt' fits

@[simp]
theorem toNat_priorityFee (limit price : UInt64) :
    (priorityFee limit price).toNat =
      min (limit.toNat * price.toNat) u64Max / 1000000 := by
  rw [priorityFee, UInt64.toNat_div, toNat_saturatingMul]
  rfl

/-- Saturating twice and dividing in between gives the exact fee, capped
once, unless the priority product loses whole lamports and the fee stays
below the cap without them. -/
theorem capped_fee_eq_iff (base product : Nat) :
    min (min base u64Max + min product u64Max / 1000000) u64Max =
        min u64Max (base + product / 1000000) ↔
      product / 1000000 ≤ u64Max / 1000000 ∨
        u64Max ≤ base + u64Max / 1000000 := by
  simp only [u64Max]
  omega

namespace HopperSvm

/-- The fee by the documented formula, in natural numbers. -/
def exactFee (svm : HopperSvm) (ixs : List Instruction) : Nat :=
  svm.feeCalculator.lamportsPerSignature.toNat *
      (signerKeys (ixs.flatMap Instruction.accounts)).card +
    svm.transactionCuLimit.toNat *
      svm.cells.priorityFeeMicroLamportsPerCu.toNat / 1000000

/-- When the fee is the exact one, capped at a word. -/
theorem transactionFee_exact_iff (svm : HopperSvm)
    (ixs : List Instruction)
    (fits :
      (signerKeys (ixs.flatMap Instruction.accounts)).card < 2 ^ 64) :
    (svm.transactionFee ixs).toNat = min u64Max (svm.exactFee ixs) ↔
      svm.transactionCuLimit.toNat *
            svm.cells.priorityFeeMicroLamportsPerCu.toNat / 1000000 ≤
          u64Max / 1000000 ∨
        u64Max ≤
          svm.feeCalculator.lamportsPerSignature.toNat *
              (signerKeys (ixs.flatMap Instruction.accounts)).card +
            u64Max / 1000000 := by
  have counted :=
    toNat_countUniqueSigners (ixs.map Instruction.accounts) fits
  rw [← List.flatMap_def] at counted
  rw [transactionFee, totalFee, toNat_saturatingAdd,
    FeeCalculator.baseFee, toNat_saturatingMul, toNat_priorityFee, counted]
  exact capped_fee_eq_iff _ _

/-- A harness that offers `price` micro-lamports for each unit. -/
def pricedSvm (price : UInt64) : HopperSvm :=
  (ofRegistry fun _ => none).withCells
    { pendingCuLimit := none
      priorityFeeMicroLamportsPerCu := price }

/-- An instruction that one wallet signs. -/
def chargedIx : Instruction :=
  { programId := systemProgramId
    accounts := [⟨.filled 1, true, true⟩]
    accounts_length := by decide
    data := [] }

theorem transactionFee_exact_iff_signed :
    ((pricedSvm 1000000).transactionFee [chargedIx]).toNat = 205000 := by
  have exactly :=
    (transactionFee_exact_iff (pricedSvm 1000000) [chargedIx]
      (by decide)).mpr (Or.inl (by decide))
  rw [exactly]
  decide

/-- At 10^15 micro-lamports for each of 200000 units the formula asks for
200000000005000 lamports. -/
theorem priority_product_saturates :
    ((pricedSvm 1000000000000000).transactionFee [chargedIx]).toNat =
        18446744078709 ∧
      min u64Max ((pricedSvm 1000000000000000).exactFee [chargedIx]) =
        200000000005000 := by
  decide

end HopperSvm

end Hopper
