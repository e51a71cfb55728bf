/-
  ClusterProbe.Proofs.Collisions — which domains share a hash.

  Each byte of a domain is folded into the hash by a step that loses nothing: the byte
  is xored in, and multiplying by the FNV prime can be undone, because the prime is odd
  (`primeInverse`). So two hashes that differ once differ for ever after, whatever bytes
  follow (`foldl_fnvStep_inj`), and a byte that differs makes them differ
  (`fnvStep_right_inj`).

  - `hash_tells_neighbours_apart`: domains that differ in a single byte have different
    hashes, and what is appended to two domains alike, be it a base domain or the last
    dot, neither brings their hashes together nor takes them apart.
-/

import Mathlib.Logic.ExistsUnique
import ClusterProbe.Proofs.RecordIdentity

namespace ClusterProbe

namespace RecordName

/-! ## One byte -/

/-- What the FNV prime has to be multiplied by to give 1. -/
def primeInverse : UInt32 := 0x359c449b

theorem mul_fnvPrime_inj {h h' : UInt32} : h * fnvPrime = h' * fnvPrime ↔ h = h' := by
  constructor
  · intro heq
    have hinverse : fnvPrime * primeInverse = 1 := by decide
    have hback := congrArg (· * primeInverse) heq
    simpa only [UInt32.mul_assoc, hinverse, UInt32.mul_one] using hback
  · rintro rfl
    rfl

/-- The same byte keeps two hashes apart. -/
theorem fnvStep_left_inj {h h' : UInt32} (b : UInt8) : fnvStep h b = fnvStep h' b ↔ h = h' := by
  rw [fnvStep, fnvStep, mul_fnvPrime_inj, UInt32.xor_left_inj]

/-- Different bytes take one hash to different ones. -/
theorem fnvStep_right_inj (h : UInt32) {b b' : UInt8} : fnvStep h b = fnvStep h b' ↔ b = b' := by
  rw [fnvStep, fnvStep, mul_fnvPrime_inj, UInt32.xor_right_inj, UInt8.toUInt32_inj]

/-! ## Many bytes -/

/-- However many bytes follow, what they follow is not forgotten. -/
theorem foldl_fnvStep_inj (bs : List UInt8) {h h' : UInt32} : bs.foldl fnvStep h = bs.foldl fnvStep h' ↔ h = h' := by
  induction bs generalizing h h' with
  | nil => rfl
  | cons b bs ih => rw [List.foldl_cons, List.foldl_cons, ih, fnvStep_left_inj]

theorem fnv1a_append (bs cs : List UInt8) : fnv1a (bs ++ cs) = cs.foldl fnvStep (fnv1a bs) := List.foldl_append

theorem fnv1a_append_inj {bs bs' : List UInt8} (cs : List UInt8) :
    fnv1a (bs ++ cs) = fnv1a (bs' ++ cs) ↔ fnv1a bs = fnv1a bs' := by
  rw [fnv1a_append, fnv1a_append, foldl_fnvStep_inj]

/-- As many bytes, and another one in exactly one place. -/
def DifferInOne (bs bs' : List UInt8) : Prop := bs.length = bs'.length ∧ ∃! i : Nat, bs[i]? ≠ bs'[i]?

/-- What stands before that place and after it is the same. -/
theorem DifferInOne.cut {bs bs' : List UInt8} (h : DifferInOne bs bs') :
    ∃ before b b' after, bs = before ++ b :: after ∧ bs' = before ++ b' :: after ∧ b ≠ b' := by
  obtain ⟨hlength, i, hdiffer, hunique⟩ := h
  have hsame : ∀ j, j ≠ i → bs[j]? = bs'[j]? := by
    intro j hj
    by_contra hne
    exact hj (hunique j hne)
  have hi : i < bs.length := by
    by_contra hend
    exact hdiffer (by rw [List.getElem?_eq_none (by omega), List.getElem?_eq_none (by omega)])
  have hi' : i < bs'.length := hlength ▸ hi
  have hbefore : bs.take i = bs'.take i := by
    apply List.ext_getElem?
    intro j
    rw [List.getElem?_take, List.getElem?_take]
    split
    · exact hsame j (by omega)
    · rfl
  have hafter : bs.drop (i + 1) = bs'.drop (i + 1) := by
    apply List.ext_getElem?
    intro j
    rw [List.getElem?_drop, List.getElem?_drop]
    exact hsame _ (by omega)
  refine ⟨bs.take i, bs[i], bs'[i], bs.drop (i + 1), ?_, ?_, ?_⟩
  · rw [List.getElem_cons_drop, List.take_append_drop]
  · rw [hbefore, hafter, List.getElem_cons_drop, List.take_append_drop]
  · intro hb
    exact hdiffer (by rw [List.getElem?_eq_getElem hi, List.getElem?_eq_getElem hi', hb])

theorem differInOne_cut (before after : List UInt8) {b b' : UInt8} (h : b ≠ b') :
    DifferInOne (before ++ b :: after) (before ++ b' :: after) := by
  refine ⟨by simp, before.length, by simpa using h, ?_⟩
  intro j hj
  by_contra hother
  apply hj
  rcases Nat.lt_or_gt_of_ne hother with hlt | hgt
  · rw [List.getElem?_append_left hlt, List.getElem?_append_left hlt]
  · obtain ⟨k, rfl⟩ : ∃ k, j = before.length + (k + 1) := ⟨j - before.length - 1, by omega⟩
    rw [List.getElem?_append_right (by omega), List.getElem?_append_right (by omega), Nat.add_sub_cancel_left,
      List.getElem?_cons_succ, List.getElem?_cons_succ]

theorem fnv1a_ne_of_differInOne {bs bs' : List UInt8} (h : DifferInOne bs bs') : fnv1a bs ≠ fnv1a bs' := by
  obtain ⟨before, b, b', after, rfl, rfl, hne⟩ := h.cut
  rw [fnv1a_append, fnv1a_append, List.foldl_cons, List.foldl_cons]
  intro heq
  rw [foldl_fnvStep_inj, fnvStep_right_inj] at heq
  exact hne heq

/-! ## Domains -/

/-- Two domains that differ in one byte of their UTF-8 form never share a hash, and two domains share one exactly if
they share one with the same text appended to both. -/
theorem hash_tells_neighbours_apart :
    (∀ s t : String, DifferInOne (Text.utf8 s) (Text.utf8 t) → hash s ≠ hash t) ∧
      ∀ p q s : String, hash (p ++ s) = hash (q ++ s) ↔ hash p = hash q := by
  constructor
  · intro s t h
    rw [Ne, hash_eq_iff]
    exact fnv1a_ne_of_differInOne h
  · intro p q s
    rw [hash_eq_iff, hash_eq_iff, Text.utf8_append, Text.utf8_append, fnv1a_append_inj]

/-- Two accents on one letter, of which each takes two bytes and the first is the same; and both with the last dot. -/
theorem hash_tells_neighbours_apart_by_accent :
    DifferInOne (Text.utf8 "café.example") (Text.utf8 "cafè.example") ∧ hash "café.example" ≠ hash "cafè.example" ∧
      hash ("café.example" ++ ".") ≠ hash ("cafè.example" ++ ".") := by
  have hutf8 : Text.utf8 "café.example" = [99, 97, 102, 195] ++ 169 :: Text.utf8 ".example" ∧
      Text.utf8 "cafè.example" = [99, 97, 102, 195] ++ 168 :: Text.utf8 ".example" := by decide +kernel
  have hdiffer : DifferInOne (Text.utf8 "café.example") (Text.utf8 "cafè.example") := by
    rw [hutf8.1, hutf8.2]
    exact differInOne_cut _ _ (by decide)
  obtain ⟨hneighbours, hsuffix⟩ := hash_tells_neighbours_apart
  have hapart := hneighbours _ _ hdiffer
  refine ⟨hdiffer, hapart, ?_⟩
  rw [Ne, hsuffix]
  exact hapart

end RecordName

end ClusterProbe
