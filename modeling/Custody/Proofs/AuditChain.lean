import Custody.AuditChain
import Custody.Proofs.Encoding
import Custody.Proofs.Hex
import Mathlib.Data.List.Basic

/-!
# What the head of the audit chain commits to

A payload is bonded without a separator, but every head has sixty-four digits, so
a string that is hashed along the chain tells the head and the payload apart. It
also differs from the anchor's word, which is shorter. Going back from two equal
heads, `eq_or_collide_of_head_eq` therefore finds the same payloads in the same
order, or a place where the strings hashed along the two chains collide.
-/

namespace Custody

theorem length_sha256Hex (message : Bytes) : (sha256Hex message).length = 64 := by
  rw [sha256Hex, Hex.length_encode, (sha256 message).length_bytes]

/-- Two strings have the same digest text when they are the same or collide. -/
theorem sha256Hex_eq_iff {a b : Bytes} : sha256Hex a = sha256Hex b ↔ a = b ∨ Collide a b := by
  constructor
  · intro h
    have hdigest : sha256 a = sha256 b := Word256.ext (Hex.encode_injective h)
    by_cases hsame : a = b
    · exact .inl hsame
    · exact .inr ⟨hsame, hdigest⟩
  · rintro (rfl | ⟨_, hdigest⟩)
    · rfl
    · rw [sha256Hex, sha256Hex, hdigest]

namespace AuditChain

/-- The strings hashed for payloads after a head: each payload with the head before it. -/
def bonded (start : Bytes) : List Bytes → List Bytes
  | [] => []
  | payload :: rest => (start ++ payload) :: bonded (bond start payload) rest

/-- The strings hashed along the chain of the payloads, beginning with the anchor's word. -/
def hashed (payloads : List Bytes) : List Bytes := utf8 "GENESIS" :: bonded anchor payloads

/-- The string hashed last along the chain of the payloads. -/
def lastHashed (payloads : List Bytes) : Bytes :=
  (hashed payloads).getLast (List.cons_ne_nil _ _)

/-- Each head is the digest text of the string hashed for it. -/
theorem map_sha256Hex_bonded (start : Bytes) (payloads : List Bytes) :
    (bonded start payloads).map sha256Hex = heads start payloads := by
  induction payloads generalizing start with
  | nil => rfl
  | cons payload rest ih => rw [bonded, List.map_cons, ih, heads, bond]

theorem map_sha256Hex_hashed (payloads : List Bytes) :
    (hashed payloads).map sha256Hex = anchor :: heads anchor payloads := by
  rw [hashed, List.map_cons, map_sha256Hex_bonded, anchor]

theorem bonded_append (start : Bytes) (before shared : List Bytes) :
    bonded start (before ++ shared) =
      bonded start before ++ bonded (before.foldl bond start) shared := by
  induction before generalizing start with
  | nil => rfl
  | cons payload rest ih =>
      rw [List.cons_append, bonded, bonded, ih, List.cons_append, List.foldl_cons]

theorem head_append (before shared : List Bytes) :
    head (before ++ shared) = shared.foldl bond (head before) :=
  List.foldl_append

theorem head_concat (payloads : List Bytes) (payload : Bytes) :
    head (payloads ++ [payload]) = sha256Hex (head payloads ++ payload) :=
  head_append payloads [payload]

theorem hashed_append (before shared : List Bytes) :
    hashed (before ++ shared) = hashed before ++ bonded (head before) shared := by
  rw [hashed, bonded_append, hashed, List.cons_append]
  rfl

theorem lastHashed_nil : lastHashed [] = utf8 "GENESIS" := rfl

theorem lastHashed_concat (payloads : List Bytes) (payload : Bytes) :
    lastHashed (payloads ++ [payload]) = head payloads ++ payload := by
  simp [lastHashed, hashed_append, bonded]

/-- The head is the digest text of the string hashed last. -/
theorem head_eq_sha256Hex (payloads : List Bytes) :
    head payloads = sha256Hex (lastHashed payloads) := by
  rcases List.eq_nil_or_concat' payloads with rfl | ⟨before, payload, rfl⟩
  · rw [lastHashed_nil, head, List.foldl_nil, anchor]
  · rw [head_concat, lastHashed_concat]

theorem length_head (payloads : List Bytes) : (head payloads).length = 64 := by
  rw [head_eq_sha256Hex, length_sha256Hex]

/-- What is hashed last for a part of the payloads is hashed along the whole chain. -/
theorem lastHashed_mem_hashed (before shared : List Bytes) :
    lastHashed before ∈ hashed (before ++ shared) := by
  rw [hashed_append]
  exact List.mem_append_left _ (List.getLast_mem _)

/-- The anchor's word is too short to be a head and a payload. -/
theorem genesis_ne_head_append (payloads : List Bytes) (payload : Bytes) :
    utf8 "GENESIS" ≠ head payloads ++ payload := by
  intro h
  have hlength := congrArg List.length h
  rw [List.length_append, length_head] at hlength
  have hword : (utf8 "GENESIS").length = 7 := rfl
  omega

/-- Two chains on which the same string is hashed last are both empty, or go on with the same
payload from one head. -/
theorem eq_nil_or_concat_of_lastHashed_eq {first second : List Bytes}
    (h : lastHashed first = lastHashed second) :
    first = [] ∧ second = [] ∨ ∃ rest rest' payload,
      first = rest ++ [payload] ∧ second = rest' ++ [payload] ∧ head rest = head rest' := by
  rcases List.eq_nil_or_concat' first with rfl | ⟨rest, payload, rfl⟩ <;>
    rcases List.eq_nil_or_concat' second with rfl | ⟨rest', payload', rfl⟩
  · exact .inl ⟨rfl, rfl⟩
  · rw [lastHashed_nil, lastHashed_concat] at h
    exact absurd h (genesis_ne_head_append rest' payload')
  · rw [lastHashed_nil, lastHashed_concat] at h
    exact absurd h.symm (genesis_ne_head_append rest payload)
  · -- Both heads have the same length, so the strings are cut at the same place.
    rw [lastHashed_concat, lastHashed_concat] at h
    obtain ⟨hhead, rfl⟩ := List.append_inj h ((length_head rest).trans (length_head rest').symm)
    exact .inr ⟨rest, rest', payload, rfl, rfl, hhead⟩

/-- Two chains with one head are the same, or part at a collision: the payloads are the same from
some place on, and the strings hashed last before it collide. -/
theorem eq_or_collide_of_head_eq {first second : List Bytes} (h : head first = head second) :
    first = second ∨ ∃ before before' shared,
      first = before ++ shared ∧ second = before' ++ shared ∧
        Collide (lastHashed before) (lastHashed before') := by
  rw [head_eq_sha256Hex, head_eq_sha256Hex] at h
  rcases sha256Hex_eq_iff.mp h with hsame | hcollide
  · rcases eq_nil_or_concat_of_lastHashed_eq hsame with
      ⟨hfirst, hsecond⟩ | ⟨rest, rest', payload, hfirst, hsecond, hhead⟩
    · exact .inl (hfirst.trans hsecond.symm)
    · -- The last payload is the same, and so is the head before it.
      rcases eq_or_collide_of_head_eq hhead with
        hrest | ⟨before, before', shared, hbefore, hbefore', hcollide⟩
      · exact .inl (by rw [hfirst, hsecond, hrest])
      · refine .inr ⟨before, before', shared ++ [payload], ?_, ?_, hcollide⟩
        · rw [hfirst, hbefore, List.append_assoc]
        · rw [hsecond, hbefore', List.append_assoc]
  · exact .inr ⟨first, second, [], (List.append_nil _).symm, (List.append_nil _).symm, hcollide⟩
termination_by first.length
decreasing_by simp [hfirst]

/-- Every head is the digest text of a string hashed along the chain, and two sequences of payloads
have the same head exactly when they are the same or part at a collision: two different strings, one
hashed along each chain, have the same digest, and the same payloads follow them. No payload can be
added, dropped, moved, split or merged with others without such a collision. -/
theorem head_commits_to_payloads :
    (∀ payloads, (hashed payloads).map sha256Hex = anchor :: heads anchor payloads) ∧
    ∀ first second, head first = head second ↔
      first = second ∨ ∃ before before' shared,
        first = before ++ shared ∧ second = before' ++ shared ∧
          ∃ message ∈ hashed first, ∃ message' ∈ hashed second, Collide message message' ∧
            head before = sha256Hex message ∧ head before' = sha256Hex message' := by
  refine ⟨map_sha256Hex_hashed, fun first second => ⟨?_, ?_⟩⟩
  · intro h
    refine (eq_or_collide_of_head_eq h).imp_right ?_
    rintro ⟨before, before', shared, rfl, rfl, hcollide⟩
    exact ⟨before, before', shared, rfl, rfl, lastHashed before, lastHashed_mem_hashed _ _,
      lastHashed before', lastHashed_mem_hashed _ _, hcollide, head_eq_sha256Hex _,
      head_eq_sha256Hex _⟩
  · rintro (rfl | ⟨before, before', shared, rfl, rfl, message, _, message', _, hcollide, h, h'⟩)
    · rfl
    · -- The heads are the same after the collision, and stay so.
      rw [head_append, head_append, h, h', sha256Hex_eq_iff.mpr (.inr hcollide)]

end AuditChain

end Custody
