import Custody.LeafIndex
import Custody.Proofs.Word256
import Mathlib.Data.Nat.Bitwise

/-!
# The leaves stand in the order of their tokens

The bit of a byte string at a place is a bit of its number, `BigEndian.testBit_byte`,
and setting the place sets that bit, `BigEndian.testBit_setBit`. So both loops
over the bits keep the number: the index of a token has the bits of its id, and the
token of an index has the bits of the index. `LeafIndex.paths_follow_ids` draws
the consequences: indices and ids correspond, a path spells the id in binary, and
the smaller of two ids goes left where their paths part.
-/

namespace Custody

-- Powers are those of the core library, whatever other instances are in scope.
attribute [local instance (2000)] instPowNat

/-! ### Bits of bytes -/

theorem toNat_bitMask {bit : Nat} (hbit : bit < 8) : (bitMask bit).toNat = 2 ^ (7 - bit) := by
  revert bit
  decide

/-- Masking a byte tells one of its bits. -/
theorem and_bitMask_ne_zero_iff (byte : UInt8) {bit : Nat} (hbit : bit < 8) :
    byte &&& bitMask bit ≠ 0 ↔ byte.toNat.testBit (7 - bit) := by
  rw [Ne, ← UInt8.toNat_inj, UInt8.toNat_and, toNat_bitMask hbit, Nat.and_two_pow]
  cases byte.toNat.testBit (7 - bit) <;> simp

namespace BigEndian

/-- The bits of the first byte stand above those of the bytes after it. -/
theorem testBit_cons (byte : UInt8) (rest : Bytes) (i : Nat) :
    (toNat (byte :: rest)).testBit i =
      if i < 8 * rest.length then (toNat rest).testBit i
      else byte.toNat.testBit (i - 8 * rest.length) := by
  have hbase : 256 ^ rest.length = 2 ^ (8 * rest.length) := by rw [Nat.pow_mul]
  have hrest := toNat_lt rest
  rw [hbase] at hrest
  rw [toNat_cons, hbase, Nat.mul_comm, Nat.testBit_two_pow_mul_add _ hrest]

/-- The bits of a byte are bits of the number. -/
theorem testBit_byte {bytes : Bytes} {k bit : Nat} {byte : UInt8} (hbyte : bytes[k]? = some byte)
    (hbit : bit < 8) :
    (toNat bytes).testBit (8 * bytes.length - 1 - (k * 8 + bit)) =
      byte.toNat.testBit (7 - bit) := by
  induction bytes generalizing k with
  | nil => cases hbyte
  | cons first rest ih =>
      rw [testBit_cons, List.length_cons]
      cases k with
      | zero =>
          obtain rfl : first = byte := Option.some.inj hbyte
          have hplace : 8 * (rest.length + 1) - 1 - (0 * 8 + bit) - 8 * rest.length = 7 - bit := by
            omega
          rw [if_neg (by omega), hplace]
      | succ k =>
          rw [List.getElem?_cons_succ] at hbyte
          have hk : k < rest.length := (List.getElem?_eq_some_iff.mp hbyte).1
          have hplace : 8 * (rest.length + 1) - 1 - ((k + 1) * 8 + bit) =
              8 * rest.length - 1 - (k * 8 + bit) := by omega
          rw [hplace, if_pos (by omega), ih hbyte]

/-- Setting the bit at a place sets one bit of the number. -/
theorem testBit_setBit (bytes : Bytes) {place : Nat} (hplace : place < 8 * bytes.length) (i : Nat) :
    (toNat (setBit bytes place)).testBit i ↔
      (toNat bytes).testBit i ∨ i = 8 * bytes.length - 1 - place := by
  induction bytes generalizing place with
  | nil => cases hplace
  | cons byte rest ih =>
      rw [List.length_cons] at hplace ⊢
      rw [testBit_cons byte rest]
      by_cases hfirst : place < 8
      · -- The place is in the first byte.
        have hset : setBit (byte :: rest) place = (byte ||| bitMask place) :: rest := by
          rw [setBit, Nat.div_eq_of_lt hfirst, Nat.mod_eq_of_lt hfirst]
          rfl
        rw [hset, testBit_cons, UInt8.toNat_or, toNat_bitMask hfirst, Nat.testBit_or,
          Nat.testBit_two_pow]
        split_ifs with hrest
        · rw [or_iff_left (by omega)]
        · rw [Bool.or_eq_true, decide_eq_true_iff]
          exact or_congr_right (by omega)
      · -- The place is in a later byte, and the bit keeps its distance from the end.
        have hset : setBit (byte :: rest) place = byte :: setBit rest (place - 8) := by
          obtain ⟨place, rfl⟩ := Nat.exists_eq_add_of_le' (Nat.le_of_not_lt hfirst)
          rw [setBit, setBit, Nat.add_sub_cancel, Nat.add_div_right _ (by decide),
            Nat.add_mod_right, List.modify_succ_cons]
        have hplaces : 8 * (rest.length + 1) - 1 - place = 8 * rest.length - 1 - (place - 8) := by
          omega
        rw [hset, testBit_cons, length_setBit, hplaces]
        split_ifs with hrest
        · exact ih (by omega)
        · rw [or_iff_left (by omega)]

end BigEndian

namespace Word256

theorem testBit_byte (word : Word256) (k : Fin 32) {bit : Nat} (hbit : bit < 8) :
    word.toNat.testBit (255 - (k * 8 + bit)) = (word.byte k).toNat.testBit (7 - bit) := by
  have hbyte : word.bytes[k.val]? = some (word.byte k) := by simp [byte]
  have h := BigEndian.testBit_byte hbyte hbit
  rw [word.length_bytes] at h
  exact h

theorem testBit_setBit (word : Word256) {place : Nat} (hplace : place < 256) (i : Nat) :
    (word.setBit place).toNat.testBit i ↔ word.toNat.testBit i ∨ i = 255 - place := by
  have hroom : place < 8 * word.bytes.length := by
    rw [word.length_bytes]
    exact hplace
  have h := BigEndian.testBit_setBit word.bytes hroom i
  rw [word.length_bytes] at h
  exact h

/-- The number of a word has no bits from the two hundred and fifty-sixth on. -/
theorem testBit_of_le (word : Word256) {i : Nat} (hi : 256 ≤ i) : word.toNat.testBit i = false :=
  Nat.testBit_lt_two_pow
    (Nat.lt_of_lt_of_le word.toNat_lt (Nat.pow_le_pow_right (by decide) hi))

/-- Words with the same bits are the same. -/
theorem eq_of_testBit {a b : Word256} (h : ∀ i < 256, a.toNat.testBit i = b.toNat.testBit i) :
    a = b := by
  apply toNat_injective
  apply Nat.eq_of_testBit_eq
  intro i
  by_cases hi : i < 256
  · exact h i hi
  · rw [a.testBit_of_le (Nat.le_of_not_lt hi), b.testBit_of_le (Nat.le_of_not_lt hi)]

end Word256

namespace LeafIndex

/-! ### The two loops -/

/-- A step that sets the bit at a place, if a number has it there, adds the number's bit. -/
theorem bit_ite {σ : Type} (bit : σ → Prop) (number : Nat → Prop) {s set : σ} {place i : Nat}
    {c : Prop} [Decidable c] (hc : c ↔ number place) (hset : bit set ↔ bit s ∨ i = place) :
    bit (if c then set else s) ↔ bit s ∨ number i ∧ i = place := by
  split_ifs with h
  · rw [hset]
    refine or_congr_right ⟨?_, And.right⟩
    rintro rfl
    exact ⟨hc.mp h, rfl⟩
  · refine (or_iff_left ?_).symm
    rintro ⟨hnumber, rfl⟩
    exact h (hc.mpr hnumber)

/-- Where each step adds a number's bit at some places, so does the loop at the places of its
steps. -/
theorem bit_foldl {σ α : Type} (bit : σ → Prop) {step : σ → α → σ} {number : Prop}
    {here : α → Prop} {steps : List α}
    (hstep : ∀ s, ∀ a ∈ steps, bit (step s a) ↔ bit s ∨ number ∧ here a) (s : σ) :
    bit (steps.foldl step s) ↔ bit s ∨ number ∧ ∃ a ∈ steps, here a := by
  induction steps generalizing s with
  | nil => simp
  | cons first rest ih =>
      have hrest : ∀ s, ∀ a ∈ rest, bit (step s a) ↔ bit s ∨ number ∧ here a := by
        intro s a ha
        exact hstep s a (List.mem_cons_of_mem _ ha)
      rw [List.foldl_cons, ih hrest, hstep s first List.mem_cons_self, or_assoc, ← and_or_left,
        List.exists_mem_cons_iff]

theorem getLsbD_set (index : LeafIndex) {i : Nat} (hi : i < treeHeight) (j : Nat) :
    (index.set j).getLsbD i ↔ index.getLsbD i ∨ i = j := by
  rw [set, BitVec.getLsbD_or, BitVec.getLsbD_twoPow, Bool.or_eq_true, Bool.and_eq_true,
    decide_eq_true_iff, decide_eq_true_iff]
  refine or_congr_right ⟨fun h => h.2.symm, ?_⟩
  rintro rfl
  exact ⟨hi, rfl⟩

/-- A bit of the id is copied to the bit of its weight. -/
theorem getLsbD_copyBit (id : TokenId) (byte : Fin 32) (index : LeafIndex) (bit : Nat) {i : Nat}
    (hbit : bit < 8) (hi : i < treeHeight) :
    (copyBit id byte index bit).getLsbD i ↔
      index.getLsbD i ∨ id.toNat.testBit i ∧ i = 255 - (byte * 8 + bit) := by
  have hmask := and_bitMask_ne_zero_iff (id.byte byte) hbit
  rw [← id.testBit_byte byte hbit] at hmask
  exact bit_ite (fun index : LeafIndex => index.getLsbD i = true)
    (fun i => id.toNat.testBit i = true) hmask (getLsbD_set index hi _)

/-- The eight bits of a byte are copied, and no others. -/
theorem getLsbD_copyByte (id : TokenId) (index : LeafIndex) (byte : Fin 32) {i : Nat}
    (hi : i < treeHeight) :
    (copyByte id index byte).getLsbD i ↔
      index.getLsbD i ∨ id.toNat.testBit i ∧ (255 - i) / 8 = byte := by
  have hlow : i < 256 := hi
  have hbyte := byte.isLt
  have hplaces : (∃ bit ∈ List.range 8, i = 255 - (byte * 8 + bit)) ↔ (255 - i) / 8 = byte := by
    constructor
    · rintro ⟨bit, hbit, hplace⟩
      rw [List.mem_range] at hbit
      omega
    · intro hplace
      exact ⟨(255 - i) % 8, List.mem_range.mpr (by omega), by omega⟩
  rw [copyByte, bit_foldl (fun index : LeafIndex => index.getLsbD i = true)
    (fun index bit hbit => getLsbD_copyBit id byte index bit (List.mem_range.mp hbit) hi), hplaces]

/-- The index of a token has the bits of the token's number. -/
theorem getLsbD_ofTokenId (id : TokenId) {i : Nat} (hi : i < treeHeight) :
    (ofTokenId id).getLsbD i = id.toNat.testBit i := by
  have hlow : i < 256 := hi
  have hbyte : ∃ byte ∈ List.finRange 32, (255 - i) / 8 = byte.val :=
    ⟨⟨(255 - i) / 8, by omega⟩, List.mem_finRange _, rfl⟩
  rw [Bool.eq_iff_iff, ofTokenId,
    bit_foldl (fun index : LeafIndex => index.getLsbD i = true)
      (fun index byte _ => getLsbD_copyByte id index byte hi), and_iff_left hbyte]
  exact or_iff_right (by simp)

theorem testBit_restoreBit (index : LeafIndex) (id : TokenId) {place : Nat}
    (hplace : place < treeHeight) (i : Nat) :
    (restoreBit index id place).toNat.testBit i ↔
      id.toNat.testBit i ∨ index.getLsbD i ∧ i = 255 - place :=
  bit_ite (fun id : TokenId => id.toNat.testBit i = true) (fun i => index.getLsbD i = true) Iff.rfl
    (id.testBit_setBit hplace i)

/-- The number of the token of an index has the bits of the index. -/
theorem testBit_tokenId (index : LeafIndex) {i : Nat} (hi : i < treeHeight) :
    index.tokenId.toNat.testBit i = index.getLsbD i := by
  have hlow : i < 256 := hi
  have hplace : ∃ place ∈ List.range treeHeight, i = 255 - place :=
    ⟨255 - i, List.mem_range.mpr (show 255 - i < 256 by omega), by omega⟩
  rw [Bool.eq_iff_iff, tokenId,
    bit_foldl (fun id : TokenId => id.toNat.testBit i = true)
      (fun id place hmem => testBit_restoreBit index id (List.mem_range.mp hmem) i),
    and_iff_left hplace]
  exact or_iff_right (by simp)

/-! ### Indices and ids -/

theorem tokenId_ofTokenId (id : TokenId) : (ofTokenId id).tokenId = id := by
  apply Word256.eq_of_testBit
  intro i hi
  rw [testBit_tokenId _ hi, getLsbD_ofTokenId id hi]

theorem ofTokenId_tokenId (index : LeafIndex) : ofTokenId index.tokenId = index := by
  apply BitVec.eq_of_getLsbD_eq
  intro i hi
  rw [getLsbD_ofTokenId _ hi, testBit_tokenId index hi]

/-! ### Paths -/

theorem branch_of_lt (index : LeafIndex) {depth : Nat} (h : depth < treeHeight) :
    index.branch depth = .ok (index.getLsbD (255 - depth)) :=
  if_neg (Nat.not_le_of_lt h)

theorem branch_of_le (index : LeafIndex) {depth : Nat} (h : treeHeight ≤ depth) :
    index.branch depth = .error ⟨depth⟩ :=
  if_pos h

/-- The path to the leaf of a token spells the token's number in binary. -/
theorem branch_ofTokenId (id : TokenId) {depth : Nat} (h : depth < treeHeight) :
    (ofTokenId id).branch depth = .ok (id.toNat.testBit (255 - depth)) := by
  have hbit : 255 - depth < 256 := by omega
  rw [branch_of_lt _ h, getLsbD_ofTokenId id hbit]

/-- Two paths part at a depth: they take the same branches above it and different ones there. -/
structure PartAt (first second : LeafIndex) (depth : Nat) : Prop where
  above : ∀ d < depth, first.branch d = second.branch d
  here : first.branch depth ≠ second.branch depth

/-- The paths to two leaves part somewhere. -/
theorem exists_partAt {first second : LeafIndex} (h : first ≠ second) :
    ∃ depth, PartAt first second depth := by
  have hdiffer : ∃ depth, first.branch depth ≠ second.branch depth := by
    by_contra hsame
    apply h
    apply BitVec.eq_of_getLsbD_eq
    intro i hi
    have hlow : i < 256 := hi
    have hdepth : 255 - i < 256 := by omega
    have hplace : 255 - (255 - i) = i := by omega
    by_contra hbit
    apply hsame
    refine ⟨255 - i, ?_⟩
    rw [branch_of_lt _ hdepth, branch_of_lt _ hdepth, hplace, Ne, Except.ok.injEq]
    exact hbit
  classical
  refine ⟨Nat.find hdiffer, ?_, Nat.find_spec hdiffer⟩
  intro d hd
  exact not_not.mp (Nat.find_min hdiffer hd)

/-- Paths part above the leaves. -/
theorem PartAt.lt {first second : LeafIndex} {depth : Nat} (h : PartAt first second depth) :
    depth < treeHeight := by
  by_contra hle
  rw [Nat.not_lt] at hle
  apply h.here
  rw [branch_of_le _ hle, branch_of_le _ hle]

theorem PartAt.symm {first second : LeafIndex} {depth : Nat} (h : PartAt first second depth) :
    PartAt second first depth :=
  ⟨fun d hd => (h.above d hd).symm, h.here.symm⟩

/-- Where two paths part, the one that goes left leads to the smaller id. -/
theorem PartAt.toNat_lt {a b : TokenId} {depth : Nat}
    (h : PartAt (ofTokenId a) (ofTokenId b) depth)
    (ha : (ofTokenId a).branch depth = .ok false) (hb : (ofTokenId b).branch depth = .ok true) :
    a.toNat < b.toNat := by
  have hdepth : depth < 256 := h.lt
  rw [branch_ofTokenId _ h.lt, Except.ok.injEq] at ha hb
  apply Nat.lt_of_testBit (255 - depth) ha hb
  intro i hi
  by_cases hlow : i < 256
  · -- A heavier bit decides a branch nearer to the root, where the paths still agree.
    have habove := h.above (255 - i) (by omega)
    have hplace : 255 - (255 - i) = i := by omega
    have hlevel : 255 - i < 256 := by omega
    rw [branch_ofTokenId a hlevel, branch_ofTokenId b hlevel, hplace, Except.ok.injEq] at habove
    exact habove
  · rw [a.testBit_of_le (Nat.le_of_not_lt hlow), b.testBit_of_le (Nat.le_of_not_lt hlow)]

/-- Where two paths part, one goes left and the other right. -/
theorem PartAt.left_or_right {first second : LeafIndex} {depth : Nat}
    (h : PartAt first second depth) :
    first.branch depth = .ok false ∧ second.branch depth = .ok true ∨
      second.branch depth = .ok false ∧ first.branch depth = .ok true := by
  have hhere := h.here
  rw [branch_of_lt _ h.lt, branch_of_lt _ h.lt] at hhere ⊢
  revert hhere
  cases first.getLsbD (255 - depth) <;> cases second.getLsbD (255 - depth) <;> simp

/-- The smaller of two ids is the one whose path goes left where the paths part. -/
theorem PartAt.lt_iff {a b : TokenId} {depth : Nat}
    (h : PartAt (ofTokenId a) (ofTokenId b) depth) :
    a < b ↔ (ofTokenId a).branch depth = .ok false ∧ (ofTokenId b).branch depth = .ok true := by
  rw [Word256.lt_iff_toNat_lt]
  rcases h.left_or_right with ⟨ha, hb⟩ | ⟨hb, ha⟩
  · exact ⟨fun _ => ⟨ha, hb⟩, fun _ => h.toNat_lt ha hb⟩
  · have hgt := h.symm.toNat_lt hb ha
    constructor
    · intro hlt
      exact absurd hgt (Nat.lt_asymm hlt)
    · rintro ⟨hleft, _⟩
      rw [ha] at hleft
      cases hleft

/-- The index of a token has the bits of the token's number, and indices and ids correspond one to
one. The branch at a depth is the bit with that many heavier ones, and a depth at or below the
leaves is out of range. The paths of two different ids part at some depth, and the smaller id is the
one whose path goes left where they part. -/
theorem paths_follow_ids :
    (∀ id : TokenId,
      (∀ i < 256, (ofTokenId id).getLsbD i = id.toNat.testBit i) ∧
      (ofTokenId id).tokenId = id ∧
      (∀ depth < 256, (ofTokenId id).branch depth = .ok (id.toNat.testBit (255 - depth))) ∧
      (∀ depth ≥ 256, (ofTokenId id).branch depth = .error ⟨depth⟩ ∧
        DepthError.kind ⟨depth⟩ = .outOfRange)) ∧
    (∀ index : LeafIndex, ofTokenId index.tokenId = index) ∧
    (∀ a b : TokenId, a ≠ b →
      (∃ depth, PartAt (ofTokenId a) (ofTokenId b) depth) ∧
      ∀ depth, PartAt (ofTokenId a) (ofTokenId b) depth →
        (a < b ↔
          (ofTokenId a).branch depth = .ok false ∧ (ofTokenId b).branch depth = .ok true)) := by
  refine ⟨?_, ofTokenId_tokenId, ?_⟩
  · intro id
    refine ⟨?_, tokenId_ofTokenId id, ?_, ?_⟩
    · intro i hi
      exact getLsbD_ofTokenId id hi
    · intro depth hdepth
      exact branch_ofTokenId id hdepth
    · intro depth hdepth
      exact ⟨branch_of_le _ hdepth, rfl⟩
  · intro a b hne
    constructor
    · apply exists_partAt
      intro hsame
      apply hne
      rw [← tokenId_ofTokenId a, hsame, tokenId_ofTokenId]
    · intro depth hpart
      exact hpart.lt_iff

end LeafIndex

end Custody
