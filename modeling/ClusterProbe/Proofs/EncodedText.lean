/-
  ClusterProbe.Proofs.EncodedText — a text is decoded from its UTF-8 bytes.

  A character is encoded by one to four bytes, of which the first tells how many there
  are. What makes each length well-formed is said in numbers (`decodeFrom_one` to
  `decodeFrom_four`), so that the bytes of a character are seen to be read as it
  (`decodeFrom_encodeChar`).

  - `decode_utf8`: no text is lost on the way through its bytes.
-/

import ClusterProbe.Text.Utf8

namespace ClusterProbe.Text

/-! ## One sequence -/

section Sequences

variable {a b c d : UInt8} (i : Nat) (r : List UInt8)

theorem isTail_iff {b : UInt8} : isTail b = true ↔ 0x80 ≤ b.toNat ∧ b.toNat ≤ 0xBF := by
  simp [isTail, UInt8.le_iff_toNat_le]

theorem decodeFrom_one (ha : a.toNat < 0x80) :
    decodeFrom i (a :: r) = (decodeFrom (i + 1) r).map (Char.ofNat a.toNat :: ·) := by
  have h : a < 0x80 := UInt8.lt_iff_toNat_lt.mpr ha
  rw [decodeFrom.eq_def]
  exact if_pos h

theorem decodeFrom_two (ha : 0xC2 ≤ a.toNat ∧ a.toNat ≤ 0xDF) (hb : isTail b = true) :
    decodeFrom i (a :: b :: r) =
      (decodeFrom (i + 2) r).map (Char.ofNat (a.toNat % 32 * 64 + low b) :: ·) := by
  have hone : ¬a < 0x80 := by simp [UInt8.lt_iff_toNat_lt]; omega
  have htwo : (0xC2 ≤ a && a ≤ 0xDF) = true := by simpa [UInt8.le_iff_toNat_le] using ha
  rw [decodeFrom.eq_def]
  dsimp only
  rw [if_neg hone, if_pos htwo, if_pos hb]

theorem decodeFrom_three (ha : 0xE0 ≤ a.toNat ∧ a.toNat ≤ 0xEF) (hb : opensThree a b = true) (hc : isTail c = true) :
    decodeFrom i (a :: b :: c :: r) =
      (decodeFrom (i + 3) r).map (Char.ofNat (a.toNat % 16 * 4096 + low b * 64 + low c) :: ·) := by
  have hone : ¬a < 0x80 := by simp [UInt8.lt_iff_toNat_lt]; omega
  have htwo : ¬(0xC2 ≤ a && a ≤ 0xDF) = true := by simp [UInt8.le_iff_toNat_le]; omega
  have hthree : (0xE0 ≤ a && a ≤ 0xEF) = true := by simpa [UInt8.le_iff_toNat_le] using ha
  rw [decodeFrom.eq_def]
  dsimp only
  rw [if_neg hone, if_neg htwo, if_pos hthree]
  simp [hb, hc]

theorem decodeFrom_four (ha : 0xF0 ≤ a.toNat ∧ a.toNat ≤ 0xF4) (hb : opensFour a b = true) (hc : isTail c = true)
    (hd : isTail d = true) :
    decodeFrom i (a :: b :: c :: d :: r) =
      (decodeFrom (i + 4) r).map
        (Char.ofNat (a.toNat % 8 * 262144 + low b * 4096 + low c * 64 + low d) :: ·) := by
  have hone : ¬a < 0x80 := by simp [UInt8.lt_iff_toNat_lt]; omega
  have htwo : ¬(0xC2 ≤ a && a ≤ 0xDF) = true := by simp [UInt8.le_iff_toNat_le]; omega
  have hthree : ¬(0xE0 ≤ a && a ≤ 0xEF) = true := by simp [UInt8.le_iff_toNat_le]; omega
  have hfour : (0xF0 ≤ a && a ≤ 0xF4) = true := by simpa [UInt8.le_iff_toNat_le] using ha
  rw [decodeFrom.eq_def]
  dsimp only
  rw [if_neg hone, if_neg htwo, if_neg hthree, if_pos hfour]
  simp [hb, hc, hd]

end Sequences

/-! ## One character -/

theorem opensThree_iff {a b : UInt8} : opensThree a b = true ↔
    (0xE0 ≤ a.toNat ∧ a.toNat ≤ 0xEF ∧ 0x80 ≤ b.toNat ∧ b.toNat ≤ 0xBF) ∧
      (a.toNat = 0xE0 → 0xA0 ≤ b.toNat) ∧ (a.toNat = 0xED → b.toNat ≤ 0x9F) := by
  simp [opensThree, isTail, UInt8.le_iff_toNat_le, ← UInt8.toNat_inj]
  omega

theorem opensFour_iff {a b : UInt8} : opensFour a b = true ↔
    (0xF0 ≤ a.toNat ∧ a.toNat ≤ 0xF4 ∧ 0x80 ≤ b.toNat ∧ b.toNat ≤ 0xBF) ∧
      (a.toNat = 0xF0 → 0x90 ≤ b.toNat) ∧ (a.toNat = 0xF4 → b.toNat ≤ 0x8F) := by
  simp [opensFour, isTail, UInt8.le_iff_toNat_le, ← UInt8.toNat_inj]
  omega

/-- The bytes of a character are read as that character. -/
theorem decodeFrom_encodeChar (i : Nat) (ch : Char) (r : List UInt8) :
    ∃ i', decodeFrom i (String.utf8EncodeChar ch ++ r) = (decodeFrom i' r).map (ch :: ·) := by
  have hvalid : ch.toNat < 0xD800 ∨ 0xDFFF < ch.toNat ∧ ch.toNat < 0x110000 := ch.valid
  have hchar : ∀ n, n = ch.toNat → Char.ofNat n = ch := by
    rintro _ rfl
    exact Char.ofNat_toNat ch
  have hbyte : ∀ n < 256, (UInt8.ofNat n).toNat = n := fun n hn => UInt8.toNat_ofNat_of_lt hn
  rw [String.utf8EncodeChar.eq_1, show ch.val.toNat = ch.toNat from rfl]
  generalize ch.toNat = v at hvalid hchar
  split
  · refine ⟨i + 1, ?_⟩
    have ha := hbyte v (by omega)
    rw [List.singleton_append, decodeFrom_one i r (by omega), ha, hchar v rfl]
  split
  · refine ⟨i + 2, ?_⟩
    have ha := hbyte (v / 64 % 32 + 192) (by omega)
    have hb := hbyte (v % 64 + 128) (by omega)
    rw [List.cons_append, List.singleton_append, decodeFrom_two i r (by omega) (isTail_iff.mpr (by omega)), ha, low, hb,
      hchar _ (by omega)]
  split
  · refine ⟨i + 3, ?_⟩
    have ha := hbyte (v / 4096 % 16 + 224) (by omega)
    have hb := hbyte (v / 64 % 64 + 128) (by omega)
    have hc := hbyte (v % 64 + 128) (by omega)
    rw [List.cons_append, List.cons_append, List.singleton_append, decodeFrom_three i r (by omega)
      (opensThree_iff.mpr (by omega)) (isTail_iff.mpr (by omega)), ha, low, low, hb, hc, hchar _ (by omega)]
  · refine ⟨i + 4, ?_⟩
    have ha := hbyte (v / 262144 % 8 + 240) (by omega)
    have hb := hbyte (v / 4096 % 64 + 128) (by omega)
    have hc := hbyte (v / 64 % 64 + 128) (by omega)
    have hd := hbyte (v % 64 + 128) (by omega)
    rw [List.cons_append, List.cons_append, List.cons_append, List.singleton_append, decodeFrom_four i r (by omega)
      (opensFour_iff.mpr (by omega)) (isTail_iff.mpr (by omega)) (isTail_iff.mpr (by omega)), ha, low, low, low, hb, hc,
      hd, hchar _ (by omega)]

/-! ## Whole texts -/

theorem decodeFrom_encoded (cs : List Char) (i : Nat) : decodeFrom i (cs.flatMap String.utf8EncodeChar) = .ok cs := by
  induction cs generalizing i with
  | nil => rfl
  | cons c cs ih =>
    obtain ⟨i', h⟩ := decodeFrom_encodeChar i c (cs.flatMap String.utf8EncodeChar)
    rw [List.flatMap_cons, h, ih]
    rfl

@[simp] theorem decode_utf8 (s : String) : decode (utf8 s) = .ok s := by
  rw [decode, utf8, decodeFrom_encoded]
  simp [Except.map]

end ClusterProbe.Text
