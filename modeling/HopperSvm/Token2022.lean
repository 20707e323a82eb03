import HopperSvm.SplToken

namespace Hopper

/-- `spl_token_2022::id()`. -/
def splToken2022Id : Pubkey :=
  ⟨[6, 221, 246, 225, 238, 117, 143, 222, 24, 66, 93, 188, 228, 108, 205,
      218, 182, 26, 252, 77, 131, 185, 13, 39, 254, 189, 249, 40, 216, 161,
      139, 252], rfl⟩

def token2022InstructionCu : UInt64 := 4000

namespace Token2022

open Routine

/-- The tags delegated to the token program. -/
def delegatedTags : List UInt8 := [0, 1, 3, 4, 5, 7, 8, 9]

/-- `SplToken2022Simulator::invoke`. -/
def invoke (codec : TokenCodec) (data : List UInt8) : Routine Unit :=
  match data with
  | [] => rejectBuiltin True "spl-token-2022: empty instruction data"
  | tag :: _ =>
      if tag ∈ delegatedTags then
        SplToken.invoke codec data
      else if tag = 2 ∨ tag = 6 ∨ (10 ≤ tag ∧ tag ≤ 21) then
        rejectBuiltin True
          s!"spl-token-2022: legacy tag {tag} not yet supported by the bundled simulator (supported tags: 0/InitializeMint, 1/InitializeAccount, 3/Transfer, 4/Approve, 5/Revoke, 7/MintTo, 8/Burn, 9/CloseAccount). For unsupported instructions, register the real spl-token-2022 .so via `HopperSvm::add_program(&id, \"spl_token_2022\")`."
      else if 22 ≤ tag ∧ tag ≤ 99 then
        rejectBuiltin True
          s!"spl-token-2022: extension tag {tag} not supported by the Phase-1 simulator. Token-2022 extensions (TransferFeeConfig, MintCloseAuthority, ConfidentialTransfer, NonTransferable, TransferHook, MetadataPointer, etc.) land in a follow-up. Register the real spl-token-2022 .so via `HopperSvm::add_program(&id, \"spl_token_2022\")` to test extension flows today."
      else
        rejectBuiltin True
          s!"spl-token-2022: unknown instruction tag {tag}"

/-- What it accepts, the token program's handlers accepted. -/
theorem delegated_of_yields {codec : TokenCodec} {data : List UInt8}
    {context : InvokeContext} {state final : InvokeState}
    (yields : (invoke codec data).Yields context state () final) :
    (SplToken.invoke codec data).Yields context state () final := by
  unfold invoke at yields
  split at yields
  · simp at yields
  · split at yields
    · exact yields
    · split at yields
      · simp at yields
      · split at yields
        · simp at yields
        · simp at yields

end Token2022

/-- `SplToken2022Simulator`. -/
def splToken2022Simulator (codec : TokenCodec) : BuiltinProgram :=
  .ofRoutine "spl-token-2022 (simulated)" (fun _ => token2022InstructionCu)
    (Token2022.invoke codec)

end Hopper
