/-
  ClusterProbe.Yaml.Cursor — a YAML text, and a place in it.

  A text holds no controls but tabs and line ends (`isLawful`). A line ends at a
  newline, a carriage return, both together, or NEL, which all count as a newline
  (`unifyBreaks`), and at two separators of Unicode, which stay what they are. A cursor
  is what is left of the text, with the number of the line, the column and the bytes
  before it, and with the length of the whole text, so that a bound for loops is at
  hand.
-/

namespace ClusterProbe.Yaml

/-! ## Characters -/

def nextLine : Char := Char.ofNat 0x85

def isLawful (c : Char) : Bool :=
  c == '\t' || c == '\n' || c == '\r' || c == nextLine || (0x20 ≤ c.toNat && c.toNat ≤ 0x7E) ||
    (0xA0 ≤ c.toNat && c.toNat ≤ 0xFFFD) || 0x10000 ≤ c.toNat

def isBlank (c : Char) : Bool := c == ' ' || c == '\t'

def isBreak (c : Char) : Bool := c == '\n' || c.toNat == 0x2028 || c.toNat == 0x2029

/-- A character of names: of anchors, handles and directives. -/
def isNameChar (c : Char) : Bool := c.isAlphanum || c == '-' || c == '_'

def isFlowSign (c : Char) : Bool := [',', '[', ']', '\x7b', '\x7d'].contains c

/-- Signs that begin something else than a plain scalar. -/
def indicators : List Char :=
  ['-', '?', ':', ',', '[', ']', '\x7b', '\x7d', '#', '&', '*', '!', '|', '>', '\'', '"', '%', '@', '\x60']

/-- The line ends here. -/
def endsLine : List Char → Bool
  | c :: _ => isBreak c
  | [] => true

/-- A blank follows, or the line ends. -/
def endsWord : List Char → Bool
  | c :: _ => isBlank c || isBreak c
  | [] => true

def startsWith (p : Char → Bool) (cs : List Char) : Bool := (cs.head?.map p).getD false

/-- One character more, with those before it, the last one first, and whether it was a
carriage return. -/
def unifyBreak (s : List Char × Bool) (c : Char) : List Char × Bool :=
  if c = '\r' then ('\n' :: s.1, true)
  else if c = '\n' ∧ s.2 then (s.1, false)
  else if c = nextLine then ('\n' :: s.1, false)
  else (c :: s.1, false)

def unifyBreaks (cs : List Char) : List Char := (cs.foldl unifyBreak ([], false)).1.reverse

/-- A mark of byte order. -/
def isByteOrderMark (c : Char) : Bool := c.toNat == 0xFEFF

/-- The bytes of characters. -/
def width (cs : List Char) : Nat := cs.foldr (fun c n => c.utf8Size + n) 0

/-- Three hyphens, or three dots, as a word. -/
def isDocumentMark : List Char → Bool
  | '-' :: '-' :: '-' :: r => endsWord r
  | '.' :: '.' :: '.' :: r => endsWord r
  | _ => false

/-! ## Cursors -/

structure Cursor where
  rest : List Char
  /-- Bytes before this place; a line end counts one. -/
  index : Nat
  line : Nat
  column : Nat
  /-- The length of the whole text. -/
  size : Nat
  deriving DecidableEq, Repr

namespace Cursor

/-- The beginning of a text. -/
def ofChars (cs : List Char) : Cursor := ⟨cs, 0, 0, 0, cs.length⟩

/-- Past the next character. -/
def step (c : Cursor) : Cursor :=
  match c.rest with
  | [] => c
  | x :: r =>
    if isBreak x then ⟨r, c.index + 1, c.line + 1, 0, c.size⟩
    else ⟨r, c.index + x.utf8Size, c.line, c.column + 1, c.size⟩

def skip : Nat → Cursor → Cursor
  | 0, c => c
  | n + 1, c => skip n c.step

/-- The characters of this line up to one that is not among those given. -/
def span (p : Char → Bool) (c : Cursor) : List Char × Cursor :=
  let p := fun x => p x && !isBreak x
  let taken := c.rest.takeWhile p
  (taken, { c with
    rest := c.rest.dropWhile p, index := c.index + width taken, column := c.column + taken.length })

def skipBlanks (c : Cursor) : Cursor := (c.span isBlank).2

def skipLine (c : Cursor) : Cursor := (c.span fun _ => true).2

/-- Past blanks, a comment and the end of the line; anything else there is a fault. -/
def finishLine (c : Cursor) : Option Cursor :=
  let c := c.skipBlanks
  let c := if startsWith (· == '#') c.rest then c.skipLine else c
  if endsLine c.rest then some c.step else none

/-- A bound for loops in which every round takes a character. -/
def fuel (c : Cursor) : Nat := c.size + 1

end Cursor

end ClusterProbe.Yaml
