/-
  ClusterProbe.Yaml.Scalar — scalars: plain, in quotes, or in a block of lines.

  Plain and quoted scalars may go on over several lines. Between two words blanks stay,
  unless the line ends there: then one line end is a space, and of several all but the
  first stay (`Gap`). A plain scalar ends at a comment, at a colon with a blank behind
  it, at a document mark, at a line that is indented too little, or at a sign of flow
  collections inside one.

  A block is either taken literally or folded: a single line end between two lines that
  start without a blank is a space. Its lines are indented alike, as told in its head or
  by its first line with something on it. What is kept of the line ends behind it is told
  in its head too (`Chomp`).
-/

import ClusterProbe.Json.Reader
import ClusterProbe.Yaml.Cursor

namespace ClusterProbe.Yaml

inductive Style where
  | plain
  | quoted
  | literal
  | folded
  deriving DecidableEq, Repr

/-! ## Between words -/

/-- Characters are kept with the last one first. -/
inductive Gap where
  | none
  | blanks (cs : List Char)
  /-- The first line end, unless it was escaped, and the others. -/
  | lines (first : Option Char) (others : List Char)
  deriving DecidableEq, Repr

namespace Gap

/-- One blank or line end more. -/
def add (g : Gap) (c : Char) : Gap :=
  match g with
  | none => if isBlank c then blanks [c] else lines (some c) []
  | blanks cs => if isBlank c then blanks (c :: cs) else lines (some c) []
  | lines first others => if isBlank c then lines first others else lines first (c :: others)

/-- What stands for the gap, before the text so far, the last character first. -/
def pour (g : Gap) (done : List Char) : List Char :=
  match g with
  | none => done
  | blanks cs => cs ++ done
  | lines (some '\n') [] => ' ' :: done
  | lines (some '\n') others => others ++ done
  | lines first others => others ++ first.toList ++ done

def isNone (g : Gap) : Bool := g == none

def isLines : Gap → Bool
  | lines .. => true
  | _ => false

end Gap

/-! ## Plain scalars -/

/-- The text, whether a line ended behind it, and where the next token may start. Lines
after the first one are indented by at least `left`. -/
def plainFrom (inFlow : Bool) (left : Nat) :
    Nat → Gap → List Char → Cursor → Option (String × Bool × Cursor)
  | 0, _, _, _ => none
  | n + 1, gap, done, c =>
    let stop := some (String.ofList done.reverse, gap.isLines, c)
    match c.rest with
    | [] => stop
    | x :: r =>
      if isBlank x || isBreak x then
        if x == '\t' && gap.isLines && c.column < left then none
        else plainFrom inFlow left n (gap.add x) done c.step
      else if c.column == 0 && isDocumentMark (x :: r) then stop
      else if !gap.isNone && ((!inFlow && c.column < left) || x == '#') then stop
      else if inFlow && x == ':' && startsWith (fun y => isFlowSign y || y == '?') r then none
      else if (x == ':' && endsWord r) || (inFlow && isFlowSign x) then stop
      else plainFrom inFlow left n .none (x :: gap.pour done) c.step

def readPlain (inFlow : Bool) (left : Nat) (c : Cursor) : Option (String × Bool × Cursor) :=
  plainFrom inFlow left c.fuel .none [] c

/-! ## Quoted scalars -/

/-- Characters with a letter of their own behind a backslash. -/
def escapes : List (Char × Nat) :=
  [('0', 0), ('a', 7), ('b', 8), ('t', 9), ('\t', 9), ('n', 10), ('v', 11), ('f', 12), ('r', 13),
   ('e', 27), (' ', 32), ('"', 34), ('/', 47), ('\\', 92), ('N', 0x85), ('_', 0xA0), ('L', 0x2028),
   ('P', 0x2029)]

/-- A character by its code point in so many hexadecimal digits. -/
def codePoint? (digits : Nat) (cs : List Char) : Option Char := do
  let ds ← (cs.take digits).mapM Json.hexDigit?
  let n := ds.foldl (fun n d => 16 * n + d) 0
  if ds.length = digits ∧ n.isValidChar then return Char.ofNat n else none

/-- The character of an escape, and how many characters it takes behind the backslash. -/
def readEscape? : List Char → Option (Char × Nat)
  | 'x' :: r => (codePoint? 2 r).map (·, 3)
  | 'u' :: r => (codePoint? 4 r).map (·, 5)
  | 'U' :: r => (codePoint? 8 r).map (·, 9)
  | c :: _ => (escapes.lookup c).map fun n => (Char.ofNat n, 1)
  | [] => none

/-- The text up to the closing quote, and the place after it. In single quotes a quote is
written twice; in double quotes a backslash escapes the next character or line end. -/
def quotedFrom (double : Bool) : Nat → Gap → List Char → Cursor → Option (String × Cursor)
  | 0, _, _, _ => none
  | n + 1, gap, done, c =>
    match c.rest with
    | [] => none
    | x :: r =>
      if c.column == 0 && isDocumentMark (x :: r) then none
      else if isBlank x || isBreak x then quotedFrom double n (gap.add x) done c.step
      else
        let done := gap.pour done
        if double && x == '\\' then
          if startsWith isBreak r then quotedFrom double n (.lines none []) done (c.skip 2)
          else match readEscape? r with
            | some (y, taken) => quotedFrom double n .none (y :: done) (c.skip (taken + 1))
            | none => none
        else if !double && x == '\'' && startsWith (· == '\'') r then
          quotedFrom double n .none ('\'' :: done) (c.skip 2)
        else if x == (if double then '"' else '\'') then some (String.ofList done.reverse, c.step)
        else quotedFrom double n .none (x :: done) c.step

/-- A scalar whose opening quote comes next. -/
def readQuoted (double : Bool) (c : Cursor) : Option (String × Cursor) :=
  quotedFrom double c.fuel .none [] c.step

/-! ## Blocks -/

/-- The line ends behind a block: none of them, the first, or all. -/
inductive Chomp where
  | strip
  | clip
  | keep
  deriving DecidableEq, Repr

namespace Chomp

def ofSign? : Char → Option Chomp
  | '-' => some strip
  | '+' => some keep
  | _ => none

end Chomp

/-- A sign for the line ends behind a block, if there is one. -/
def readChomp (c : Cursor) : Chomp × Cursor :=
  match c.rest.head?.bind Chomp.ofSign? with
  | some chomp => (chomp, c.step)
  | none => (.clip, c)

/-- A digit for the indentation of a block, if there is one; it is not zero. -/
def readIncrement (c : Cursor) : Option (Nat × Cursor) :=
  match c.rest with
  | x :: _ =>
    if x == '0' then none
    else if x.isDigit then some (x.toNat - '0'.toNat, c.step)
    else some (0, c)
  | [] => some (0, c)

/-- Both signs in either order. -/
def readBlockHead (c : Cursor) : Option (Chomp × Nat × Cursor) :=
  if startsWith Char.isDigit c.rest then do
    let (increment, c) ← readIncrement c
    let (chomp, c) := readChomp c
    return (chomp, increment, c)
  else
    match readChomp c with
    | (.clip, c) => some (.clip, 0, c)
    | (chomp, c) => (readIncrement c).map fun (increment, c) => (chomp, increment, c)

/-- Skips the indentation and the empty lines before the next line of a block. An
indentation of zero is not known yet: it is that of the longest line of blanks or of the
next line, and at least `left`. Returns it with the line ends, the last one first. -/
def indentFrom (left indent : Nat) :
    Nat → Nat → List Char → Cursor → Option (Nat × List Char × Cursor)
  | 0, _, _, _ => none
  | n + 1, widest, breaks, c =>
    let isOutside := indent == 0 || c.column < indent
    let widest' := max widest c.column
    let found := some (if indent = 0 then max 1 (max widest' left) else indent, breaks, c)
    match c.rest with
    | [] => found
    | x :: _ =>
      if x == ' ' && isOutside then indentFrom left indent n widest breaks c.step
      else if x == '\t' && isOutside then none
      else if isBreak x then indentFrom left indent n widest' (x :: breaks) c.step
      else found

structure Block where
  /-- The text so far, the last character first. -/
  done : List Char
  /-- The line end behind it. -/
  lineEnd : Option Char
  /-- The line ends of empty lines after that, the last one first. -/
  empty : List Char
  /-- The last line starts with a blank. -/
  afterBlank : Bool

/-- The text before the next line, which may start with a blank. -/
def Block.join (literal : Bool) (b : Block) (beforeBlank : Bool) : List Char :=
  let isFolded := !literal && b.lineEnd == some '\n' && !b.afterBlank && !beforeBlank
  b.empty ++
    (if isFolded then (if b.empty.isEmpty then ' ' :: b.done else b.done) else b.lineEnd.toList ++ b.done)

def blockFrom (literal : Bool) (left : Nat) :
    Nat → Nat → Block → Cursor → Option (Block × Cursor)
  | 0, _, _, _ => none
  | n + 1, indent, b, c =>
    if c.column = indent ∧ !c.rest.isEmpty then do
      let blank := startsWith isBlank c.rest
      let (line, c) := c.span fun _ => true
      let (indent, empty, next) ← indentFrom left indent c.step.fuel 0 [] c.step
      blockFrom literal left n indent ⟨line.reverse ++ b.join literal blank, c.rest.head?, empty, blank⟩ next
    else some (b, c)

/-- A block whose sign comes next, inside something indented by `left - 1`. -/
def readBlock (literal : Bool) (left : Nat) (c : Cursor) : Option (String × Cursor) := do
  let (chomp, increment, c) ← readBlockHead c.step
  let c ← c.finishLine
  let indent := if increment = 0 then 0 else left - 1 + increment
  let (indent, empty, c) ← indentFrom left indent c.fuel 0 [] c
  let (b, c) ← blockFrom literal left c.fuel indent ⟨[], none, empty, false⟩ c
  let tail := match chomp with
    | .strip => []
    | .clip => b.lineEnd.toList
    | .keep => b.empty ++ b.lineEnd.toList
  return (String.ofList (tail ++ b.done).reverse, c)

end ClusterProbe.Yaml
