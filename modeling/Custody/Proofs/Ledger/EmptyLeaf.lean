import Custody.Proofs.Encoding
import Custody.Proofs.Ledger.Provenance

/-!
# When a token is committed as empty

The leaf of an absent token is the digest of the zero body, which is the body of
an ordinary transaction. `leaf_eq_emptyLeaf_iff` says which owned tokens have this
leaf as well: the token zero, handed to the account zero at block zero, and a token
whose transaction collides with the zero body. The first case occurs: the ledger
checks the signature of such a transaction, but not its fields.
-/

namespace Custody.Ledger

/-- A token has the empty leaf when it is absent, when it is the token zero and the transaction
that gave it to its owner has the zero body, or when that transaction has a different body whose
encoding collides with ninety-six zero bytes. -/
theorem leaf_eq_emptyLeaf_iff (scheme : Scheme) (calls : List Call) (token : TokenId) :
    let ledger := (empty.run scheme calls).1
    ledger.leaf token = emptyLeaf ↔
      ledger.find? token = none ∨
        ∃ last, ledger.find? token = some last ∧
          (token = .zero ∧ last.toBody = .zero ∨
            Collide last.toBody.encoding (List.replicate 96 0)) := by
  intro ledger
  have hcustody := isCustodyOf_custody scheme calls token
  unfold leaf
  cases hlast : ledger.find? token with
  | none => simp
  | some last =>
      rw [hlast] at hcustody
      have hnamed : last.tokenId = token := hcustody.named last hcustody.last_mem
      have hdigest : last.leaf = emptyLeaf ↔
          last.toBody = .zero ∨ Collide last.toBody.encoding (List.replicate 96 0) := by
        rw [← Transaction.Body.encoding_zero]
        exact Transaction.Body.digest_eq_iff
      -- The entry names its token, so the zero body is the entry of no other token.
      have hzero : last.toBody = .zero → token = .zero := by
        intro hbody
        rw [← hnamed, hbody]
        rfl
      constructor
      · intro hleaf
        refine .inr ⟨last, rfl, ?_⟩
        rcases hdigest.mp hleaf with hbody | hcollide
        · exact .inl ⟨hzero hbody, hbody⟩
        · exact .inr hcollide
      · rintro (hnone | ⟨_, hsome, hcase⟩)
        · cases hnone
        · cases hsome
          show last.leaf = emptyLeaf
          rcases hcase with ⟨_, hbody⟩ | hcollide
          · exact hdigest.mpr (.inl hbody)
          · exact hdigest.mpr (.inr hcollide)

end Custody.Ledger

namespace Custody.Sample

/-- The first account hands the token zero to the account zero at block zero, and signs. -/
def handZero : Transaction where
  toBody := .zero
  sender := account 1
  signature := (account 1).bytes

end Custody.Sample

namespace Custody.Ledger

/-- After the deposit of a transaction with the zero body the token zero is owned and has the empty
leaf, and no collision is the cause. -/
theorem leaf_handZero_eq_emptyLeaf :
    let ledger := (empty.run Sample.scheme [.deposit (Sample.account 1) Sample.handZero]).1
    ¬ (ledger.leaf .zero = emptyLeaf ↔
      ledger.find? .zero = none ∨
        ∃ last, ledger.find? .zero = some last ∧
          Collide last.toBody.encoding (List.replicate 96 0)) := by
  intro ledger hclaim
  have hlast : ledger.find? .zero = some Sample.handZero := by decide
  have hleaf : ledger.leaf .zero = emptyLeaf := by
    rw [leaf, hlast]
    rfl
  rcases hclaim.mp hleaf with hnone | ⟨last, hsome, hdiffers, _⟩
  · rw [hlast] at hnone
    cases hnone
  · rw [hlast] at hsome
    cases hsome
    exact hdiffers rfl

end Custody.Ledger
