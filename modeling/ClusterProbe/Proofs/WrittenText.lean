/-
  ClusterProbe.Proofs.WrittenText — JSON text is read back as the value it was written from.

  That is so of values in which every number is an integer of at most 64 bits and
  nothing is illegible (`Json.isExact`); they may nest and be as long as they like. Each
  part of the reader takes what the printer wrote from the front of a text, whatever
  stands behind it: an escaped string up to its quote (`readString_escaped`), an integer
  in front of what cannot go on a number (`readNumber_integer`), and a value, list or
  object in front of the same (`readValue_text`).

  - `read?_text`: the whole text, for which the reader's counter is large enough.
-/

import Mathlib.Data.List.Basic
import ClusterProbe.Json.Printer
import ClusterProbe.Json.Reader

namespace ClusterProbe.Json

mutual
/-- Every number in the value is an integer of at most 64 bits, and everything in it stands for something. -/
def isExact : Json → Bool
  | .number (.integer n) => -9223372036854775808 ≤ n && n < wordLimit
  | .number (.real ..) => false
  | .array xs => isExactItems xs
  | .object ms => isExactMembers ms
  | .illegible => false
  | _ => true

def isExactItems : List Json → Bool
  | [] => true
  | x :: r => x.isExact && isExactItems r

def isExactMembers : List (String × Json) → Bool
  | [] => true
  | (_, x) :: r => x.isExact && isExactMembers r
end

/-! ## Strings -/

theorem hexDigit?_digitChar : ∀ d < 16, hexDigit? (Nat.digitChar d) = some d := by decide

/-- One character takes one step, however it is escaped. -/
theorem readString_escapeChar (n : Nat) (done : List Char) (c : Char) (r : List Char) :
    readString (n + 1) (some done) (escapeChar c ++ r) = readString n (some (c :: done)) r := by
  unfold escapeChar
  split
  · subst c; rfl
  split
  · subst c; rfl
  split
  · subst c; rfl
  split
  · subst c; rfl
  split
  · subst c; rfl
  split
  · rename_i h
    obtain rfl : c = Char.ofNat 8 := by rw [← h, Char.ofNat_toNat]
    rfl
  split
  · rename_i h
    obtain rfl : c = Char.ofNat 12 := by rw [← h, Char.ofNat_toNat]
    rfl
  split
  · rename_i h
    have hhigh := hexDigit?_digitChar (c.toNat / 16) (by omega)
    have hlow := hexDigit?_digitChar (c.toNat % 16) (by omega)
    have hescape : readEscape ('u' :: '0' :: '0' :: Nat.digitChar (c.toNat / 16) :: Nat.digitChar (c.toNat % 16) :: r) =
        some (some c, r) := by
      have hunit : 16 * (c.toNat / 16) + c.toNat % 16 = c.toNat := Nat.div_add_mod _ _
      have hzero : hexDigit? '0' = some 0 := rfl
      have hsmall : c.toNat < 0xD800 := by omega
      simp [readEscape, readUnit, hhigh, hlow, hzero, hunit, hsmall, Char.ofNat_toNat]
    simp [readString, hescape]
  · rename_i hprintable
    -- That it is neither a quote nor a backslash is among the hypotheses.
    simp [readString, hprintable]

theorem readString_escaped (cs : List Char) {n : Nat} (h : cs.length < n) (done r : List Char) :
    readString n (some done) (cs.flatMap escapeChar ++ '"' :: r) = some (some (String.ofList (done.reverse ++ cs)), r) := by
  induction cs generalizing n done with
  | nil =>
    obtain ⟨n, rfl⟩ : ∃ k, n = k + 1 := ⟨n - 1, by simp at h; omega⟩
    simp [readString]
  | cons c cs ih =>
    rw [List.length_cons] at h
    obtain ⟨n, rfl⟩ : ∃ k, n = k + 1 := ⟨n - 1, by omega⟩
    rw [List.flatMap_cons, List.append_assoc, readString_escapeChar, ih (by omega)]
    simp

theorem length_le_escaped (cs : List Char) : cs.length ≤ (cs.flatMap escapeChar).length := by
  induction cs with
  | nil => simp
  | cons c cs ih =>
    have hc : 1 ≤ (escapeChar c).length := by
      unfold escapeChar
      repeat' split
      all_goals simp
    rw [List.flatMap_cons, List.length_append, List.length_cons]
    omega

theorem toList_stringText (s : String) : (stringText s).toList = '"' :: (s.toList.flatMap escapeChar ++ ['"']) := by
  simp [stringText]

theorem readQuoted_escaped (s : String) (r : List Char) :
    readQuoted (s.toList.flatMap escapeChar ++ '"' :: r) = some (some s, r) := by
  have hlength := length_le_escaped s.toList
  rw [readQuoted, readString_escaped _ (by rw [List.length_append]; omega)]
  simp

/-! ## Integers -/

/-- Nothing that a number could go on with. -/
def EndsNumber (r : List Char) : Prop := ∀ c ∈ r.head?, c.isDigit = false ∧ c ≠ '.' ∧ c ≠ 'e' ∧ c ≠ 'E'

theorem readDigits_append {ds : List Char} (hne : ds ≠ []) (hds : ∀ c ∈ ds, c.isDigit = true) {r : List Char}
    (hr : EndsNumber r) : readDigits (ds ++ r) = some (ds, r) := by
  have hstop : r.takeWhile Char.isDigit = [] ∧ r.dropWhile Char.isDigit = r := by
    cases r with
    | nil => simp
    | cons c r => simp [(hr c rfl).1]
  obtain ⟨d, ds, rfl⟩ := List.exists_cons_of_ne_nil hne
  rw [readDigits, List.takeWhile_append_of_pos hds, List.dropWhile_append_of_pos hds, hstop.1, hstop.2]
  simp

theorem natOfDigits_toDigits (n : Nat) : natOfDigits (Nat.toDigits 10 n) = n := by
  have h := Nat.ofDigitChars_ten_toDigits (n := n)
  rwa [Nat.ofDigitChars_eq_foldl] at h

/-- Only zero begins with a zero. -/
theorem toDigits_head {n : Nat} (h : (Nat.toDigits 10 n).head? = some '0') : Nat.toDigits 10 n = ['0'] := by
  induction n using Nat.strongRecOn with
  | ind n ih =>
    rcases Nat.lt_or_ge n 10 with hn | hn
    · rw [Nat.toDigits_of_lt_base hn] at h ⊢
      simpa using h
    · rw [Nat.toDigits_of_base_le (by omega) hn, List.head?_append_of_ne_nil _ Nat.toDigits_ne_nil] at h
      have hzero := congrArg natOfDigits (ih (n / 10) (by omega) h)
      rw [natOfDigits_toDigits] at hzero
      simp [natOfDigits] at hzero
      omega

theorem readFraction_of_ends {r : List Char} (hr : EndsNumber r) : readFraction r = some ([], r) := by
  cases r with
  | nil => rfl
  | cons c r => simp [readFraction, (hr c rfl).2.1]

theorem readExponent_of_ends {r : List Char} (hr : EndsNumber r) : readExponent r = some (none, r) := by
  cases r with
  | nil => rfl
  | cons c r => simp [readExponent, (hr c rfl).2.2]

theorem toDigits_all (n : Nat) : ∀ c ∈ Nat.toDigits 10 n, c.isDigit = true := fun _ hc =>
  Nat.isDigit_of_mem_toDigits (by omega) (by omega) hc

theorem toDigits_head_ne {c : Char} (hc : c.isDigit = false) (n : Nat) (r : List Char) :
    ∀ r', Nat.toDigits 10 n ++ r ≠ c :: r' := by
  intro r' h
  obtain ⟨d, ds, hd⟩ := List.exists_cons_of_ne_nil (Nat.toDigits_ne_nil (n := n) (b := 10))
  have hdigit := toDigits_all n d (by simp [hd])
  rw [hd, List.cons_append, List.cons.injEq] at h
  rw [h.1, hc] at hdigit
  cases hdigit

theorem no_leading_zero (n : Nat) : ¬((Nat.toDigits 10 n).head? = some '0' ∧ Nat.toDigits 10 n ≠ ['0']) :=
  fun h => h.2 (toDigits_head h.1)

theorem readNumber_nat {n : Nat} (h : n < wordLimit) {r : List Char} (hr : EndsNumber r) :
    readNumber (Nat.toDigits 10 n ++ r) = some (some (.integer n), r) := by
  have hsign := toDigits_head_ne (c := '-') rfl n r
  have hdigits := readDigits_append Nat.toDigits_ne_nil (toDigits_all n) hr
  have hnumber : numberOfParts false (Nat.toDigits 10 n) [] none = some (.integer n) := by
    simp [numberOfParts, natOfDigits_toDigits, h]
  simp [readNumber, hdigits, no_leading_zero, readFraction_of_ends hr, readExponent_of_ends hr, hnumber]

theorem readNumber_neg {n : Nat} (hpos : 0 < n) (h : n ≤ 9223372036854775808) {r : List Char} (hr : EndsNumber r) :
    readNumber ('-' :: (Nat.toDigits 10 n ++ r)) = some (some (.integer (-n)), r) := by
  have hdigits := readDigits_append Nat.toDigits_ne_nil (toDigits_all n) hr
  have hnumber : numberOfParts true (Nat.toDigits 10 n) [] none = some (.integer (-n)) := by
    simp [numberOfParts, natOfDigits_toDigits, h, hpos]
  simp [readNumber, hdigits, no_leading_zero, readFraction_of_ends hr, readExponent_of_ends hr, hnumber]

theorem toList_toString_ofNat (n : Nat) : (toString (Int.ofNat n)).toList = Nat.toDigits 10 n := by
  rw [show toString (Int.ofNat n) = toString n from rfl, Nat.toString_eq_ofList_toDigits, String.toList_ofList]

theorem toList_toString_negSucc (n : Nat) : (toString (Int.negSucc n)).toList = '-' :: Nat.toDigits 10 (n + 1) := by
  rw [show toString (Int.negSucc n) = "-" ++ toString (n + 1) from rfl, Nat.toString_eq_ofList_toDigits]
  simp

theorem toString_head (n : Int) : ∃ c cs, (toString n).toList = c :: cs ∧ (c.isDigit = true ∨ c = '-') := by
  cases n with
  | ofNat n =>
    obtain ⟨d, ds, hd⟩ := List.exists_cons_of_ne_nil (Nat.toDigits_ne_nil (n := n) (b := 10))
    refine ⟨d, ds, ?_, .inl (toDigits_all n d (by simp [hd]))⟩
    rw [toList_toString_ofNat, hd]
  | negSucc n => exact ⟨'-', _, toList_toString_negSucc n, .inr rfl⟩

theorem readNumber_integer {n : Int} (hlo : -9223372036854775808 ≤ n) (hhi : n < wordLimit) {r : List Char}
    (hr : EndsNumber r) : readNumber ((toString n).toList ++ r) = some (some (.integer n), r) := by
  cases n with
  | ofNat n =>
    rw [toList_toString_ofNat]
    exact readNumber_nat (Int.ofNat_lt.mp hhi) hr
  | negSucc n =>
    rw [toList_toString_negSucc]
    exact readNumber_neg (Nat.succ_pos n) (by omega) hr

/-! ## Values -/

theorem skipBlanks_cons {c : Char} (h : isBlank c = false) (r : List Char) : skipBlanks (c :: r) = c :: r := by
  simp [skipBlanks, h]

theorem ne_of_numeric {c x : Char} (hc : c.isDigit = true ∨ c = '-') (hx : (x.isDigit || x == '-') = false) : c ≠ x := by
  rintro rfl
  simp only [Bool.or_eq_false_iff, beq_eq_false_iff_ne] at hx
  rcases hc with hc | hc
  · rw [hx.1] at hc
    cases hc
  · exact hx.2 hc

theorem isBlank_of_numeric {c : Char} (hc : c.isDigit = true ∨ c = '-') : isBlank c = false := by
  have hspace : c ≠ ' ' := ne_of_numeric hc rfl
  have hnewline : c ≠ '\n' := ne_of_numeric hc rfl
  have htab : c ≠ '\t' := ne_of_numeric hc rfl
  have hreturn : c ≠ '\r' := ne_of_numeric hc rfl
  simp [isBlank, hspace, hnewline, htab, hreturn]

/-- A value that begins like a number is one. -/
theorem readValue_number {c : Char} (hc : c.isDigit = true ∨ c = '-') (n : Nat) (r : List Char) :
    readValue (n + 1) (c :: r) = (readNumber (c :: r)).map fun x => (orIllegible .number x.1, x.2) := by
  have hquote : c ≠ '"' := ne_of_numeric hc rfl
  have hbracket : c ≠ '[' := ne_of_numeric hc rfl
  have hbrace : c ≠ '\x7b' := ne_of_numeric hc rfl
  have hnull : c ≠ 'n' := ne_of_numeric hc rfl
  have htrue : c ≠ 't' := ne_of_numeric hc rfl
  have hfalse : c ≠ 'f' := ne_of_numeric hc rfl
  rw [readValue, skipBlanks_cons (isBlank_of_numeric hc)]
  split
  all_goals simp_all

/-- Values begin with a sign that closes no list and is no blank. -/
theorem text_head {j : Json} (h : j.isExact = true) :
    ∃ c cs, j.text.toList = c :: cs ∧ isBlank c = false ∧ c ≠ ']' := by
  cases j with
  | null => exact ⟨'n', _, rfl, rfl, by decide⟩
  | bool b => cases b <;> exact ⟨_, _, rfl, rfl, by decide⟩
  | string s => exact ⟨'"', _, toList_stringText s, rfl, by decide⟩
  | array xs => exact ⟨'[', _, by rw [text, String.toList_append, String.toList_append]; rfl, rfl, by decide⟩
  | object ms => exact ⟨'\x7b', _, by rw [text, String.toList_append, String.toList_append]; rfl, rfl, by decide⟩
  | number x =>
    cases x with
    | real => cases h
    | integer n =>
      obtain ⟨c, cs, htext, hc⟩ := toString_head n
      exact ⟨c, cs, htext, isBlank_of_numeric hc, ne_of_numeric hc rfl⟩
  | illegible => cases h

theorem readValue_array {c : Char} (hc : isBlank c = false) (hc' : c ≠ ']') (n : Nat) (r : List Char) :
    readValue (n + 1) ('[' :: c :: r) = (readItems n (c :: r)).map fun x => (.array x.1, x.2) := by
  rw [readValue, skipBlanks_cons (by decide)]
  simp only [skipBlanks_cons hc]
  split
  · simp_all
  · rfl

theorem readValue_object (n : Nat) (r : List Char) :
    readValue (n + 1) ('\x7b' :: '"' :: r) =
      (readMembers n ('"' :: r)).map fun x => (orIllegible .object x.1, x.2) := by
  simp [readValue, skipBlanks, isBlank]

section Steps

variable {n : Nat} {x : Json} {cs r : List Char}

theorem readItems_last (h : readValue n cs = some (x, ']' :: r)) : readItems (n + 1) cs = some ([x], r) := by
  simp [readItems, h, skipBlanks, isBlank]

theorem readItems_more (h : readValue n cs = some (x, ',' :: r)) :
    readItems (n + 1) cs = (readItems n r).map fun xs => (x :: xs.1, xs.2) := by
  simp [readItems, h, skipBlanks, isBlank]

variable (k : String)

/-- The text of a name, and the colon behind it. -/
def label : List Char := (stringText k).toList ++ [':']

theorem readMembers_last (h : readValue n cs = some (x, '\x7d' :: r)) :
    readMembers (n + 1) (label k ++ cs) = some (some [(k, x)], r) := by
  simp [readMembers, label, toList_stringText, readQuoted_escaped, h, skipBlanks, isBlank, consMember]

theorem readMembers_more (h : readValue n cs = some (x, ',' :: r)) :
    readMembers (n + 1) (label k ++ cs) = (readMembers n r).map fun ms => (consMember (some k) x ms.1, ms.2) := by
  simp [readMembers, label, toList_stringText, readQuoted_escaped, h, skipBlanks, isBlank]

end Steps

/-- The texts with commas between them. -/
def joined (texts : List String) : List Char := [','].intercalate (texts.map String.toList)

theorem toList_intercalate (texts : List String) : (",".intercalate texts).toList = joined texts := by
  rw [String.toList_intercalate, joined]
  rfl

theorem joined_singleton (s : String) : joined [s] = s.toList := by simp [joined]

theorem joined_cons_cons (s t : String) (texts : List String) :
    joined (s :: t :: texts) = s.toList ++ ',' :: joined (t :: texts) := by
  simp [joined]

theorem endsNumber_cons {c : Char} (h : c = ',' ∨ c = ']' ∨ c = '\x7d') (r : List Char) : EndsNumber (c :: r) := by
  rintro d hd
  obtain rfl : c = d := by simpa using hd
  rcases h with rfl | rfl | rfl <;> decide

/-- A list of values begins as its first one does. -/
theorem items_head {x : Json} {xs : List Json} (h : isExactItems (x :: xs) = true) :
    ∃ c cs, joined (textItems (x :: xs)) = c :: cs ∧ isBlank c = false ∧ c ≠ ']' := by
  rw [isExactItems, Bool.and_eq_true] at h
  obtain ⟨c, cs, htext, hc⟩ := text_head h.1
  cases xs with
  | nil => exact ⟨c, cs, by rw [textItems, textItems, joined_singleton, htext], hc⟩
  | cons y ys => exact ⟨c, _, by rw [textItems, textItems, joined_cons_cons, htext, List.cons_append], hc⟩

theorem textMembers_cons (k : String) (x : Json) (ms : List (String × Json)) :
    textMembers ((k, x) :: ms) = String.ofList (label k ++ x.text.toList) :: textMembers ms := by
  simp [textMembers, label, String.ofList_append, String.append_assoc]

theorem members_head (k : String) (x : Json) (ms : List (String × Json)) :
    ∃ cs, joined (textMembers ((k, x) :: ms)) = '"' :: cs := by
  have hlabel : label k = '"' :: (k.toList.flatMap escapeChar ++ ['"', ':']) := by
    simp [label, toList_stringText]
  cases ms with
  | nil => exact ⟨_, by rw [textMembers_cons, textMembers, joined_singleton, String.toList_ofList, hlabel]; rfl⟩
  | cons m ms =>
    obtain ⟨k', y⟩ := m
    exact ⟨_, by rw [textMembers_cons, textMembers_cons, joined_cons_cons, String.toList_ofList, hlabel]; rfl⟩

/-- What is written is read under this counter, whatever stands behind it: a value in front of what ends a number, the
items of a list with its bracket, and the members of an object with its brace. -/
structure Reads (n : Nat) : Prop where
  value : ∀ j : Json, j.isExact = true → 2 * j.text.toList.length ≤ n → ∀ r, EndsNumber r →
    readValue n (j.text.toList ++ r) = some (j, r)
  items : ∀ (x : Json) (xs : List Json), isExactItems (x :: xs) = true →
    2 * (joined (textItems (x :: xs))).length < n → ∀ r,
    readItems n (joined (textItems (x :: xs)) ++ ']' :: r) = some (x :: xs, r)
  members : ∀ (k : String) (x : Json) (ms : List (String × Json)), isExactMembers ((k, x) :: ms) = true →
    2 * (joined (textMembers ((k, x) :: ms))).length < n → ∀ r,
    readMembers n (joined (textMembers ((k, x) :: ms)) ++ '\x7d' :: r) = some (some ((k, x) :: ms), r)

theorem readValue_text {n : Nat} (h : Reads n) {j : Json} (hj : j.isExact = true)
    (hn : 2 * j.text.toList.length ≤ n + 1) {r : List Char} (hr : EndsNumber r) :
    readValue (n + 1) (j.text.toList ++ r) = some (j, r) := by
  cases j with
  | null => rfl
  | bool b => cases b <;> rfl
  | number x =>
    cases x with
    | real => cases hj
    | integer i =>
      simp only [isExact, Bool.and_eq_true, decide_eq_true_eq] at hj
      obtain ⟨c, cs, htext, hc⟩ := toString_head i
      have hread := readNumber_integer hj.1 hj.2 hr
      rw [text, Number.text]
      rw [htext, List.cons_append] at hread ⊢
      rw [readValue_number hc, hread]
      rfl
  | string s =>
    rw [text, toList_stringText, List.cons_append, List.append_assoc]
    simp [readValue, skipBlanks, isBlank, readQuoted_escaped, orIllegible]
  | array xs =>
    cases xs with
    | nil => rfl
    | cons x xs =>
      rw [isExact] at hj
      have htext : (array (x :: xs)).text.toList = '[' :: (joined (textItems (x :: xs)) ++ [']']) := by
        rw [text, String.toList_append, String.toList_append, toList_intercalate]
        rfl
      rw [htext] at hn ⊢
      simp only [List.length_cons, List.length_append, List.length_nil] at hn
      have hitems := h.items x xs hj (by omega) r
      obtain ⟨c, cs, hhead, hc, hc'⟩ := items_head hj
      rw [List.cons_append, List.append_assoc, List.singleton_append]
      rw [hhead, List.cons_append] at hitems ⊢
      rw [readValue_array hc hc', hitems]
      rfl
  | object ms =>
    cases ms with
    | nil => rfl
    | cons m ms =>
      obtain ⟨k, x⟩ := m
      rw [isExact] at hj
      have htext : (object ((k, x) :: ms)).text.toList = '\x7b' :: (joined (textMembers ((k, x) :: ms)) ++ ['\x7d']) := by
        rw [text, String.toList_append, String.toList_append, toList_intercalate]
        rfl
      rw [htext] at hn ⊢
      simp only [List.length_cons, List.length_append, List.length_nil] at hn
      have hmembers := h.members k x ms hj (by omega) r
      obtain ⟨cs, hhead⟩ := members_head k x ms
      rw [List.cons_append, List.append_assoc, List.singleton_append]
      rw [hhead, List.cons_append] at hmembers ⊢
      rw [readValue_object, hmembers]
      rfl
  | illegible => cases hj

theorem readItems_text {n : Nat} (h : Reads n) {x : Json} {xs : List Json} (hxs : isExactItems (x :: xs) = true)
    (hn : 2 * (joined (textItems (x :: xs))).length < n + 1) (r : List Char) :
    readItems (n + 1) (joined (textItems (x :: xs)) ++ ']' :: r) = some (x :: xs, r) := by
  rw [isExactItems, Bool.and_eq_true] at hxs
  cases xs with
  | nil =>
    simp only [textItems, joined_singleton] at hn ⊢
    exact readItems_last (h.value x hxs.1 (by omega) _ (endsNumber_cons (by simp) r))
  | cons y ys =>
    simp only [textItems, joined_cons_cons, List.length_append, List.length_cons] at hn ⊢
    rw [← textItems] at hn ⊢
    rw [List.append_assoc, List.cons_append,
      readItems_more (h.value x hxs.1 (by omega) _ (endsNumber_cons (by simp) _)), h.items y ys hxs.2 (by omega) r]
    rfl

theorem readMembers_text {n : Nat} (h : Reads n) {k : String} {x : Json} {ms : List (String × Json)}
    (hms : isExactMembers ((k, x) :: ms) = true) (hn : 2 * (joined (textMembers ((k, x) :: ms))).length < n + 1)
    (r : List Char) :
    readMembers (n + 1) (joined (textMembers ((k, x) :: ms)) ++ '\x7d' :: r) = some (some ((k, x) :: ms), r) := by
  rw [isExactMembers, Bool.and_eq_true] at hms
  rw [textMembers_cons] at hn ⊢
  cases ms with
  | nil =>
    simp only [textMembers, joined_singleton, String.toList_ofList, List.length_append] at hn ⊢
    rw [List.append_assoc]
    exact readMembers_last k (h.value x hms.1 (by omega) _ (endsNumber_cons (by simp) r))
  | cons m ms =>
    obtain ⟨k', y⟩ := m
    rw [textMembers_cons, joined_cons_cons, ← textMembers_cons, String.toList_ofList] at hn ⊢
    simp only [List.length_append, List.length_cons] at hn
    rw [List.append_assoc, List.append_assoc, List.cons_append,
      readMembers_more k (h.value x hms.1 (by omega) _ (endsNumber_cons (by simp) _)),
      h.members k' y ms hms.2 (by omega) r]
    rfl

theorem reads (n : Nat) : Reads n := by
  induction n with
  | zero =>
    refine ⟨fun j hj hn r _ => ?_, fun _ _ _ hn => by omega, fun _ _ _ _ hn => by omega⟩
    obtain ⟨c, cs, htext, -⟩ := text_head hj
    rw [htext, List.length_cons] at hn
    omega
  | succ n ih =>
    exact ⟨fun _ hj hn _ hr => readValue_text ih hj hn hr, fun _ _ hxs hn r => readItems_text ih hxs hn r,
      fun _ _ _ hms hn r => readMembers_text ih hms hn r⟩

/-- The text of an exact value is read as that value. -/
theorem read?_text {j : Json} (h : j.isExact = true) : read? j.text = some j := by
  have hread := (reads (2 * j.text.toList.length + 2)).value j h (by omega) [] (fun c hc => nomatch hc)
  rw [List.append_nil] at hread
  simp [read?, hread, skipBlanks]

end ClusterProbe.Json
