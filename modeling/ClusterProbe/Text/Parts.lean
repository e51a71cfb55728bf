/-
  ClusterProbe.Text.Parts — texts cut at a separator or into lines, and without the
  blanks at their ends. A blank is any character of white space.
-/

namespace ClusterProbe.Text

/-- The parts of a text between separators; there is one more than there are separators. -/
def splitAt (sep : Char) : List Char → List (List Char)
  | [] => [[]]
  | c :: r =>
    if c = sep then [] :: splitAt sep r
    else match splitAt sep r with
      | [] => [[c]]
      | p :: ps => (c :: p) :: ps

theorem splitAt_of_not_mem {sep : Char} {p : List Char} (h : sep ∉ p) : splitAt sep p = [p] := by
  induction p with
  | nil => rfl
  | cons c p ih =>
    have hc : c ≠ sep := fun hc => h (hc ▸ List.mem_cons_self)
    rw [splitAt, if_neg hc, ih fun hp => h (List.mem_cons_of_mem c hp)]

theorem splitAt_append {sep : Char} {p : List Char} (h : sep ∉ p) (r : List Char) :
    splitAt sep (p ++ sep :: r) = p :: splitAt sep r := by
  induction p with
  | nil => rw [List.nil_append, splitAt, if_pos rfl]
  | cons c p ih =>
    have hc : c ≠ sep := fun hc => h (hc ▸ List.mem_cons_self)
    rw [List.cons_append, splitAt, if_neg hc, ih fun hp => h (List.mem_cons_of_mem c hp)]

/-- Parts that are each followed by a separator, the last one apart, are found again. -/
theorem splitAt_joined {sep : Char} {p : List Char} {ps : List (List Char)} (hp : sep ∉ p) (hps : ∀ q ∈ ps, sep ∉ q) :
    splitAt sep (p ++ ps.flatMap (sep :: ·)) = p :: ps := by
  induction ps generalizing p with
  | nil => rw [List.flatMap_nil, List.append_nil, splitAt_of_not_mem hp]
  | cons q ps ih =>
    rw [List.forall_mem_cons] at hps
    rw [List.flatMap_cons, List.cons_append, splitAt_append hp, ih hps.1 hps.2]

/-! ## Before and behind the first separator -/

theorem bne_of_not_mem {sep : Char} {p : List Char} (h : sep ∉ p) : ∀ c ∈ p, (c != sep) = true := by
  intro c hc
  simp only [bne_iff_ne]
  rintro rfl
  exact h hc

theorem takeWhile_append {sep : Char} {p : List Char} (h : sep ∉ p) (r : List Char) :
    (p ++ r).takeWhile (· != sep) = p ++ r.takeWhile (· != sep) :=
  List.takeWhile_append_of_pos (bne_of_not_mem h)

theorem dropWhile_append {sep : Char} {p : List Char} (h : sep ∉ p) (r : List Char) :
    (p ++ r).dropWhile (· != sep) = r.dropWhile (· != sep) :=
  List.dropWhile_append_of_pos (bne_of_not_mem h)

/-! ## Blanks and lines -/

def isSpace (c : Char) : Bool :=
  let n := c.toNat
  (9 ≤ n && n ≤ 13) || n == 0x20 || n == 0x85 || n == 0xA0 || n == 0x1680 || (0x2000 ≤ n && n ≤ 0x200A) ||
    n == 0x2028 || n == 0x2029 || n == 0x202F || n == 0x205F || n == 0x3000

def trimStart (cs : List Char) : List Char := cs.dropWhile isSpace

def trimEnd (cs : List Char) : List Char := (cs.reverse.dropWhile isSpace).reverse

/-- A line without the carriage return at its end. -/
def withoutReturn (cs : List Char) : List Char :=
  match cs.reverse with
  | '\r' :: r => r.reverse
  | _ => cs

/-- The lines of a text; nothing stands behind the last line end. -/
def lines (cs : List Char) : List (List Char) :=
  let ps := splitAt '\n' cs
  (if ps.getLast? = some [] then ps.dropLast else ps).map withoutReturn

end ClusterProbe.Text
