/-
  ClusterProbe.Yaml.Token — the tokens of a YAML text.

  Indentation becomes tokens of its own: a block collection starts where its first entry
  stands further right than what is around it, and ends before the first token that does
  not. A key is written before the colon that makes it one. So every token that may
  begin a key is remembered (`Start`), on each level of nested flow collections, for as
  long as it may still be one: on its own line, and over 1024 bytes. When the colon
  comes, a `key` token, and the start of a block mapping if there is none yet, are put
  before it. A start at the indentation of an open block mapping must become a key.

  The text has been read when there is no character left; then all blocks end.
-/

import ClusterProbe.Yaml.Scalar
import ClusterProbe.Yaml.Tag

namespace ClusterProbe.Yaml

inductive Token where
  | directive (d : Directive)
  | documentStart
  | documentEnd
  | blockSequence
  | blockMapping
  | blockEnd
  | flowSequence
  | flowSequenceEnd
  | flowMapping
  | flowMappingEnd
  | blockEntry
  | flowEntry
  | key
  | value
  | aliasOf (name : String)
  | anchor (name : String)
  | tag (handle : String) (suffix : List UInt8)
  | scalar (style : Style) (text : String)
  deriving DecidableEq, Repr

/-- Where a key may have started. -/
structure Start where
  /-- The tokens before it. -/
  number : Nat
  index : Nat
  line : Nat
  column : Nat
  mustBeKey : Bool
  deriving DecidableEq, Repr

structure Lexer where
  cursor : Cursor
  /-- The last one first. -/
  tokens : List Token := []
  count : Nat := 0
  /-- For each open block collection, the innermost first, the first column inside it. -/
  blocks : List Nat := []
  keyAllowed : Bool := true
  start : Option Start := none
  /-- The starts outside each open flow collection, the innermost first. -/
  outer : List (Option Start) := []
  deriving DecidableEq, Repr

namespace Lexer

def inFlow (l : Lexer) : Bool := !l.outer.isEmpty

/-- The first column that is inside the innermost block. -/
def left (l : Lexer) : Nat := l.blocks.headD 0

/-- Puts a token behind so many others. -/
def insert (number : Nat) (t : Token) (l : Lexer) : Lexer :=
  let later := l.count - number
  { l with tokens := l.tokens.take later ++ t :: l.tokens.drop later, count := l.count + 1 }

def emit (t : Token) (l : Lexer) : Lexer := { l with tokens := t :: l.tokens, count := l.count + 1 }

def moveTo (c : Cursor) (l : Lexer) : Lexer := { l with cursor := c }

def allowKey (allowed : Bool) (l : Lexer) : Lexer := { l with keyAllowed := allowed }

/-! ## Indentation -/

/-- Opens a block collection at a column, unless one is open there. -/
def openBlock (column number : Nat) (t : Token) (l : Lexer) : Lexer :=
  if l.inFlow || column < l.left then l
  else { l.insert number t with blocks := (column + 1) :: l.blocks }

/-- Closes the blocks that start behind the first `room` columns. -/
def closeBlocks (room : Nat) (l : Lexer) : Lexer :=
  if l.inFlow then l else
    let closed := l.blocks.takeWhile (room < ·)
    closed.foldl (fun l _ => l.emit .blockEnd) { l with blocks := l.blocks.dropWhile (room < ·) }

/-! ## Keys -/

/-- Gives up the start on this level. -/
def dropStart (l : Lexer) : Option Lexer :=
  if (l.start.map (·.mustBeKey)).getD false then none else some { l with start := none }

/-- The next token may start a key, where keys are allowed. -/
def saveStart (l : Lexer) : Option Lexer :=
  if l.keyAllowed then do
    let c := l.cursor
    let l ← l.dropStart
    return { l with start := some ⟨l.count, c.index, c.line, c.column, !l.inFlow && l.left == c.column + 1⟩ }
  else some l

/-- What is left of a start further on. One that must become a key cannot be given up. -/
def refresh (c : Cursor) : Option Start → Option (Option Start)
  | some s =>
    if s.line < c.line || s.index + 1024 < c.index then
      if s.mustBeKey then none else some none
    else some (some s)
  | none => some none

def refreshStarts (l : Lexer) : Option Lexer := do
  return { l with
    start := ← refresh l.cursor l.start
    outer := ← l.outer.mapM (refresh l.cursor) }

/-! ## Signs -/

def one (t : Token) (l : Lexer) : Lexer := (l.emit t).moveTo l.cursor.step

def openFlow (t : Token) (l : Lexer) : Option Lexer := do
  let l ← l.saveStart
  return ({ l with start := none, outer := l.start :: l.outer }.allowKey true).one t

def closeFlow (t : Token) (l : Lexer) : Option Lexer := do
  let l ← l.dropStart
  let l := match l.outer with
    | s :: outer => { l with start := s, outer := outer }
    | [] => l
  return (l.allowKey false).one t

def flowEntry (l : Lexer) : Option Lexer := do return ((← l.dropStart).allowKey true).one .flowEntry

/-- A hyphen or a question mark as a word opens the collection it belongs to. -/
def openAt (t : Token) (l : Lexer) : Option Lexer :=
  if l.inFlow then some l
  else if l.keyAllowed then some (l.openBlock l.cursor.column l.count t)
  else none

def blockEntry (l : Lexer) : Option Lexer := do
  let l ← (← l.openAt .blockSequence).dropStart
  return (l.allowKey true).one .blockEntry

def key (l : Lexer) : Option Lexer := do
  let l ← (← l.openAt .blockMapping).dropStart
  return (l.allowKey !l.inFlow).one .key

def value (l : Lexer) : Option Lexer :=
  match l.start with
  | some s =>
    let l := (l.insert s.number .key).openBlock s.column s.number .blockMapping
    some (({ l with start := none }.allowKey false).one .value)
  | none => do return ((← l.openAt .blockMapping).allowKey !l.inFlow).one .value

/-! ## Words -/

def nameEnds : List Char := ['?', ':', ',', ']', '\x7d', '%', '@', '\x60']

/-- The name of an alias or an anchor, whose sign comes next. -/
def readName (c : Cursor) : Option (String × Cursor) :=
  let (name, c) := c.step.span isNameChar
  if name.isEmpty || !(endsWord c.rest || startsWith nameEnds.contains c.rest) then none
  else some (String.ofList name, c)

/-- A word that may start a key, and has none behind it. -/
def word {α : Type} (read : Lexer → Option (α × Cursor)) (make : α → Token) (l : Lexer) : Option Lexer := do
  let l ← l.saveStart
  let (x, c) ← read l
  return ((l.allowKey false).emit (make x)).moveTo c

def quoted (double : Bool) (l : Lexer) : Option Lexer :=
  word (fun l => readQuoted double l.cursor) (.scalar .quoted) l

/-- After a plain scalar with a line end behind it keys are allowed. -/
def plain (l : Lexer) : Option Lexer := do
  let l ← l.saveStart
  let (text, isLineEnd, c) ← readPlain l.inFlow l.left l.cursor
  return ((l.allowKey isLineEnd).emit (.scalar .plain text)).moveTo c

def block (literal : Bool) (l : Lexer) : Option Lexer := do
  let l ← l.dropStart
  let (text, c) ← readBlock literal l.left l.cursor
  return ((l.allowKey true).emit (.scalar (if literal then .literal else .folded) text)).moveTo c

/-! ## Lines of their own -/

/-- Directives and document marks end all blocks. -/
def endDocument (l : Lexer) : Option Lexer := do return (← (l.closeBlocks 0).dropStart).allowKey false

def directive (l : Lexer) : Option Lexer := do
  let l ← l.endDocument
  let (d, c) ← readDirective l.cursor
  return (l.emit (.directive d)).moveTo c

def documentMark (t : Token) (l : Lexer) : Option Lexer := do
  return ((← l.endDocument).emit t).moveTo (l.cursor.skip 3)

/-! ## All tokens -/

/-- Past a mark of byte order that a line starts with; it takes a column. -/
def skipMark (c : Cursor) : Cursor :=
  if c.column == 0 && startsWith isByteOrderMark c.rest then c.step else c

/-- To the next token, past blanks, comments and ends of lines. Tabs do not indent. -/
def toNextFrom : Nat → Lexer → Lexer
  | 0, l => l
  | n + 1, l =>
    let (_, c) := (skipMark l.cursor).span fun x => x == ' ' || ((l.inFlow || !l.keyAllowed) && x == '\t')
    let c := if startsWith (· == '#') c.rest then c.skipLine else c
    if startsWith isBreak c.rest then toNextFrom n ((l.allowKey (l.keyAllowed || !l.inFlow)).moveTo c.step)
    else l.moveTo c

def toNext (l : Lexer) : Lexer := toNextFrom l.cursor.fuel l

/-- A plain scalar starts with the sign, if this is what is behind it. -/
def startsPlain (l : Lexer) (c : Char) (r : List Char) : Bool :=
  (!isBlank c && !indicators.contains c) || (c == '-' && !startsWith isBlank r) ||
    (!l.inFlow && (c == '?' || c == ':') && !endsWord r)

/-- Takes the token that starts with a character. -/
def token (c : Char) (r : List Char) (l : Lexer) : Option Lexer :=
  let atStart := l.cursor.column == 0
  if atStart && c == '%' then l.directive
  else if atStart && isDocumentMark (c :: r) then
    l.documentMark (if c == '-' then .documentStart else .documentEnd)
  else
    match c with
    | '[' => l.openFlow .flowSequence
    | '\x7b' => l.openFlow .flowMapping
    | ']' => l.closeFlow .flowSequenceEnd
    | '\x7d' => l.closeFlow .flowMappingEnd
    | ',' => l.flowEntry
    | '*' => word (fun l => readName l.cursor) .aliasOf l
    | '&' => word (fun l => readName l.cursor) .anchor l
    | '!' => word (fun l => readTag l.inFlow l.cursor) (fun t => .tag t.1 t.2) l
    | '\'' => l.quoted false
    | '"' => l.quoted true
    | _ =>
      if c == '-' && endsWord r then l.blockEntry
      else if c == '?' && (l.inFlow || endsWord r) then l.key
      else if c == ':' && (l.inFlow || endsWord r) then l.value
      else if c == '|' && !l.inFlow then l.block true
      else if c == '>' && !l.inFlow then l.block false
      else if l.startsPlain c r then l.plain
      else none

/-- The end of the text counts as a new line. -/
def finish (l : Lexer) : Option Lexer := (l.closeBlocks 0).dropStart

def run : Nat → Lexer → Option Lexer
  | 0, _ => none
  | n + 1, l => do
    let l ← l.toNext.refreshStarts
    let l := l.closeBlocks (l.cursor.column + 1)
    match l.cursor.rest with
    | [] => l.finish
    | c :: r => run n (← l.token c r)

end Lexer

namespace Token

/-- The tokens of a text, if it is one of YAML. -/
def ofText? (cs : List Char) : Option (List Token) :=
  if cs.all isLawful then do
    let c := Cursor.ofChars (unifyBreaks cs)
    return (← Lexer.run c.fuel { cursor := c }).tokens.reverse
  else none

end Token

end ClusterProbe.Yaml
