/-
  ClusterProbe.Proofs.QueryText — a query is read as the pairs it was written from.

  A written name or value holds plain signs, plus signs and percent signs only
  (`isWritten_of_mem`), so that neither the separators of pairs nor the end of an
  address stands in it. Its pieces, one for each character, are read back as that
  character's bytes (`decode_piece`).

  - `Form.decode_encode`: no pair is lost, changed or added on the way, whatever signs
    names and values hold.
-/

import ClusterProbe.Http.Form
import ClusterProbe.Proofs.EncodedText

namespace ClusterProbe

/-! ## Bytes of plain signs -/

/-- The bytes of a text are read as this text, no matter whether lost ones would be marked. -/
theorem Text.decodeLossy_utf8 (s : String) : Text.decodeLossy (Text.utf8 s) = s := by
  rw [Text.decodeLossy, Text.decodeLossyFrom, Text.utf8, Text.decodeFrom_encoded]
  exact String.ofList_toList

namespace Http

theorem utf8EncodeChar_of_lt {c : Char} (h : c.toNat < 128) : String.utf8EncodeChar c = [UInt8.ofNat c.toNat] := by
  rw [String.utf8EncodeChar.eq_1, show c.val.toNat = c.toNat from rfl]
  exact if_pos (by omega)

theorem toNat_ofNat_of_lt {c : Char} (h : c.toNat < 128) : (UInt8.ofNat c.toNat).toNat = c.toNat :=
  UInt8.toNat_ofNat_of_lt (Nat.lt_trans h (by decide))

/-! ## Percent encoding -/

namespace Percent

theorem decode_cons_of_ne {b : UInt8} (h : b ≠ 0x25) (r : List UInt8) : decode (b :: r) = b :: decode r := by
  rw [decode.eq_def]
  split
  · rename_i heq
    cases heq
    exact absurd rfl h
  · simp_all
  · simp_all

theorem decode_digits {a b : UInt8} {x y : Nat} (ha : digitValue? 16 (Char.ofNat a.toNat) = some x)
    (hb : digitValue? 16 (Char.ofNat b.toNat) = some y) (r : List UInt8) :
    decode (0x25 :: a :: b :: r) = UInt8.ofNat (16 * x + y) :: decode r := by
  rw [decode.eq_1, ha, hb]

end Percent

namespace Form

/-! ## Signs of written texts -/

/-- The sign may stand in a written name or value. -/
def isWritten (c : Char) : Bool := isPlain c || c == '+' || c == '%'

theorem isPlain_upperDigit : ∀ n < 16, isPlain (Nat.digitChar n).toUpper = true := by decide

theorem digitValue?_upperDigit : ∀ n < 16, digitValue? 16 (Nat.digitChar n).toUpper = some n := by decide

theorem toNat_of_isPlain {c : Char} (h : isPlain c = true) : c.toNat < 128 := by
  have hbelow : ∀ d : Char, d.toNat < 128 → c.val ≤ d.val → c.toNat < 128 := by
    intro d hd hle
    exact Nat.lt_of_le_of_lt (UInt32.le_iff_toNat_le.mp hle) hd
  rcases Bool.or_eq_true_iff.mp h with hletter | hsign
  · rcases Bool.or_eq_true_iff.mp hletter with halpha | hdigit
    · rcases Bool.or_eq_true_iff.mp halpha with hupper | hlower
      · exact hbelow 'Z' (by decide) (of_decide_eq_true hupper).2
      · exact hbelow 'z' (by decide) (of_decide_eq_true (Bool.and_eq_true_iff.mp hlower).2)
    · exact hbelow '9' (by decide) (of_decide_eq_true (Bool.and_eq_true_iff.mp hdigit).2)
  · simp only [List.contains_iff_mem, List.mem_cons, List.not_mem_nil, or_false] at hsign
    rcases hsign with rfl | rfl | rfl | rfl <;> decide

/-- How one character is written. -/
def piece (c : Char) : List Char :=
  if c = ' ' then ['+'] else if isPlain c then [c] else Percent.encodeChar c

theorem encodeText_eq (s : String) : encodeText s = s.toList.flatMap piece := rfl

theorem isWritten_of_isPlain {c : Char} (h : isPlain c = true) : isWritten c = true := by
  simp [isWritten, h]

theorem isWritten_of_mem_encodeByte {b : UInt8} {c : Char} (h : c ∈ Percent.encodeByte b) : isWritten c = true := by
  have hb : b.toNat < 256 := b.toNat_lt
  simp only [Percent.encodeByte, List.mem_cons, List.not_mem_nil, or_false] at h
  rcases h with rfl | rfl | rfl
  · rfl
  · exact isWritten_of_isPlain (isPlain_upperDigit _ (by omega))
  · exact isWritten_of_isPlain (isPlain_upperDigit _ (by omega))

theorem isWritten_of_mem {s : String} {c : Char} (h : c ∈ encodeText s) : isWritten c = true := by
  rw [encodeText_eq] at h
  obtain ⟨d, -, hd⟩ := List.mem_flatMap.mp h
  unfold piece at hd
  split at hd
  · rw [List.mem_singleton.mp hd]
    rfl
  · split at hd
    · rename_i hplain
      rw [List.mem_singleton.mp hd]
      exact isWritten_of_isPlain hplain
    · obtain ⟨b, -, hb⟩ := List.mem_flatMap.mp hd
      exact isWritten_of_mem_encodeByte hb

/-- A sign that is never written. -/
theorem not_mem_encodeText {c : Char} (h : isWritten c = false) (s : String) : c ∉ encodeText s := by
  intro hc
  rw [isWritten_of_mem hc] at h
  cases h

/-! ## Reading a piece -/

/-- The bytes that a written text is read from. -/
def bytesRead (cs : List Char) : List UInt8 :=
  Text.utf8 (String.ofList (cs.map fun c => if c = '+' then ' ' else c))

theorem bytesRead_append (cs ds : List Char) : bytesRead (cs ++ ds) = bytesRead cs ++ bytesRead ds := by
  simp [bytesRead, Text.utf8]

theorem bytesRead_plain {c : Char} (h : isPlain c = true) (cs : List Char) :
    bytesRead (c :: cs) = UInt8.ofNat c.toNat :: bytesRead cs := by
  have hplus : c ≠ '+' := by
    rintro rfl
    cases h
  simp [bytesRead, Text.utf8, hplus, utf8EncodeChar_of_lt (toNat_of_isPlain h)]

theorem decode_encodeByte (b : UInt8) (r : List UInt8) :
    Percent.decode (bytesRead (Percent.encodeByte b) ++ r) = b :: Percent.decode r := by
  have hb : b.toNat < 256 := b.toNat_lt
  have hdigit : ∀ n < 16, digitValue? 16 (Char.ofNat (UInt8.ofNat (Nat.digitChar n).toUpper.toNat).toNat) = some n := by
    intro n hn
    rw [toNat_ofNat_of_lt (toNat_of_isPlain (isPlain_upperDigit n hn)), Char.ofNat_toNat]
    exact digitValue?_upperDigit n hn
  have hbytes : bytesRead (Percent.encodeByte b) = [0x25, UInt8.ofNat (Nat.digitChar (b.toNat / 16)).toUpper.toNat,
      UInt8.ofNat (Nat.digitChar (b.toNat % 16)).toUpper.toNat] := by
    rw [Percent.encodeByte, ← List.singleton_append, bytesRead_append, bytesRead_plain (isPlain_upperDigit _ (by omega)),
      bytesRead_plain (isPlain_upperDigit _ (by omega))]
    rfl
  rw [hbytes]
  refine (Percent.decode_digits (hdigit _ (by omega)) (hdigit _ (by omega)) r).trans ?_
  rw [Nat.div_add_mod, UInt8.ofNat_toNat]

theorem decode_encodeBytes (bs r : List UInt8) :
    Percent.decode (bytesRead (bs.flatMap Percent.encodeByte) ++ r) = bs ++ Percent.decode r := by
  induction bs with
  | nil => rfl
  | cons b bs ih => rw [List.flatMap_cons, bytesRead_append, List.append_assoc, decode_encodeByte, ih, List.cons_append]

theorem decode_piece (c : Char) (r : List UInt8) :
    Percent.decode (bytesRead (piece c) ++ r) = String.utf8EncodeChar c ++ Percent.decode r := by
  unfold piece
  split
  · rename_i hspace
    subst hspace
    exact Percent.decode_cons_of_ne (by decide) r
  · split
    · rename_i hplain
      have hlt := toNat_of_isPlain hplain
      have hpercent : UInt8.ofNat c.toNat ≠ 0x25 := by
        intro hbyte
        have hc : c.toNat = '%'.toNat := by rw [← toNat_ofNat_of_lt hlt, hbyte]; rfl
        rw [Char.toNat_inj.mp hc] at hplain
        cases hplain
      rw [bytesRead_plain hplain, utf8EncodeChar_of_lt hlt]
      exact Percent.decode_cons_of_ne hpercent r
    · exact decode_encodeBytes _ r

theorem decodeText_encodeText (s : String) : decodeText (encodeText s) = s := by
  have hpieces : ∀ cs : List Char, Percent.decode (bytesRead (cs.flatMap piece)) = cs.flatMap String.utf8EncodeChar := by
    intro cs
    induction cs with
    | nil => exact Percent.decode.eq_3
    | cons c cs ih => rw [List.flatMap_cons, bytesRead_append, decode_piece, ih, List.flatMap_cons]
  exact (congrArg Text.decodeLossy (hpieces s.toList)).trans (Text.decodeLossy_utf8 s)

/-! ## Pairs -/

theorem decodePair_encodePair (p : String × String) : decodePair (encodePair p) = p := by
  have hname : '=' ∉ encodeText p.1 := not_mem_encodeText (by decide) p.1
  rw [decodePair, encodePair, Text.takeWhile_append hname, Text.dropWhile_append hname]
  simp [decodeText_encodeText]

/-- Apart from the separators, a query holds the signs of written texts only. -/
theorem not_mem_encode {c : Char} (h : isWritten c = false) (hpair : c ≠ '&') (hvalue : c ≠ '=')
    (ps : List (String × String)) : c ∉ (encode ps).toList := by
  simp [encode, encodePair, not_mem_encodeText h, hpair, hvalue]

/-- The query that pairs are written to is read as these pairs. -/
theorem decode_encode (ps : List (String × String)) : decode (encode ps) = ps := by
  have hpair : ∀ q ∈ ps.map encodePair, '&' ∉ q := by
    rw [List.forall_mem_map]
    intro p _
    simp [encodePair, not_mem_encodeText (c := '&') (by decide)]
  have hparts : Text.splitAt '&' (encode ps).toList = [] :: ps.map encodePair := by
    rw [← Text.splitAt_joined List.not_mem_nil hpair, encode, String.toList_ofList, List.flatMap_map]
    rfl
  have hsome : ([] :: ps.map encodePair).filter (!·.isEmpty) = ps.map encodePair := by
    rw [List.filter_cons_of_neg (by simp), List.filter_eq_self, List.forall_mem_map]
    intro p _
    simp [encodePair]
  rw [decode, hparts, hsome, List.map_map]
  simp [Function.comp_def, decodePair_encodePair]

end Form

end Http

end ClusterProbe
