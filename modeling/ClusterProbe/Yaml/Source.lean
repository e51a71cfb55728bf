/-
  ClusterProbe.Yaml.Source — places from which structures are read.

  A place is either a node of a document, or a value. A node is read for what is asked
  of it: every scalar is text, also one that could be a number, and a plain scalar
  without a character is an empty list and an empty structure too. A value has been read
  before anything is known about it (`Value.ofNode`), so a number is no text.

  Collections are nested 128 deep at most. To follow an alias takes one of a supply,
  which is a hundred for each part of the document, so that a short document cannot
  stand for an endless one.
-/

import ClusterProbe.Yaml.Atom
import ClusterProbe.Yaml.Node

namespace ClusterProbe.Yaml

/-- Reading, with what is left of the supply of aliases. -/
abbrev Reading := StateT Nat Option

def fromOption {α : Type} (x : Option α) : Reading α := StateT.lift x

/-- Collections that may be inside each other. -/
def maxDepth : Nat := 128

class Source (σ : Type) where
  /-- Nothing for null. -/
  present? : σ → Reading (Option σ)
  text : σ → Reading String
  truth : σ → Reading Bool
  items : σ → Reading (List σ)
  entries : σ → Reading (List (σ × σ))
  /-- One of a few words, which may also be written as a tag. -/
  word : σ → Reading String
  /-- Anything that JSON has too. -/
  checkJson : σ → Reading Unit

/-! ## Nodes -/

namespace Document

/-- The node that an alias stands for. -/
def follow (d : Document) : Node → Reading Node
  | .aliasOf id => do
    let supply ← get
    if supply = 0 then failure
    set (supply - 1)
    fromOption (d.targets.lookup id)
  | x => return x

/-- The word behind the exclamation mark of a tag that begins with one, if it is text. A
mark alone is its own word. -/
def tagWord? (m : Marks) : Option String := do
  let tag ← m.tag
  if !loneMark.isPrefixOf tag then none
  (Text.decode (if tag = loneMark then tag else tag.drop 1)).toOption

/-- A scalar is text, whatever it could mean. -/
def textOf (d : Document) (x : Node) : Reading String := do
  match ← d.follow x with
  | .scalar _ _ s => return s
  | _ => failure

/-- Null has a plain scalar only. With the tag of null it cannot be anything else. -/
def isNull? (m : Marks) (style : Style) (s : String) : Option Bool :=
  if style ≠ .plain then some false
  else match m.tag with
    | none => some (s = "" || Atom.isNullWord s)
    | some t => if t ≠ Atom.coreTag "null" then some false else if Atom.isNullWord s then some true else none

/-- A scalar is a truth value if it is plain, or literal and said to be one. -/
def isTruth (m : Marks) : Style → Bool
  | .plain => true
  | .literal => m.tag == some (Atom.coreTag "bool")
  | _ => false

/-- Anything but null beside a tag spoils a word written as a tag. -/
def isBare (style : Style) (s : String) : Bool := style == .plain && (s == "" || Atom.isNullWord s)

/-- A node, without tags other than of scalars, in which all keys are text. -/
def checkJson (d : Document) : Nat → Node → Reading Unit
  | 0, _ => failure
  | n + 1, x => do
    let x ← d.follow x
    if (tagWord? x.marks).isSome then failure
    match x with
    | .aliasOf _ => failure
    | .scalar m style s => if (Atom.ofScalar? m.tag style s).isNone then failure
    | .sequence _ xs =>
      if n = 0 then failure
      xs.forM (d.checkJson n)
    | .mapping _ es =>
      if n = 0 then failure
      es.forM fun e => do
        let _ ← d.textOf e.1
        d.checkJson n e.2

end Document

/-- A node with so much room for collections. -/
structure Place where
  document : Document
  node : Node
  room : Nat

namespace Place

def follow (p : Place) : Reading Place := return { p with node := ← p.document.follow p.node }

/-- The parts of a collection. -/
def inside {α β : Type} (p : Place) (make : (Node → Place) → α → β) (xs : List α) : Reading (List β) :=
  match p.room with
  | 0 => failure
  | n + 1 => return xs.map (make fun x => { p with node := x, room := n })

instance : Source Place where
  present? p := do
    let p ← p.follow
    match p.node with
    | .scalar m style s => if ← fromOption (Document.isNull? m style s) then return none else return some p
    | _ => return some p
  text p := p.document.textOf p.node
  truth p := do
    match (← p.follow).node with
    | .scalar m style s => if Document.isTruth m style then fromOption (Atom.truth? s) else failure
    | _ => failure
  items p := do
    let p ← p.follow
    match p.node with
    | .sequence _ xs => p.inside (·) xs
    | .scalar _ .plain "" => return []
    | _ => failure
  entries p := do
    let p ← p.follow
    match p.node with
    | .mapping _ es => p.inside (fun at_ e => (at_ e.1, at_ e.2)) es
    | .scalar _ .plain "" => return []
    | _ => failure
  word p := do
    match (← p.follow).node with
    | .scalar m style s =>
      match Document.tagWord? m with
      | some w => if Document.isBare style s then return w else failure
      | none => return s
    | _ => failure
  checkJson p := p.document.checkJson (p.room + 1) p.node

end Place

/-! ## Values -/

inductive Value where
  | atom (a : Atom)
  | sequence (items : List Value)
  | mapping (entries : List (Value × Value))
  | tagged (tag : String) (content : Value)
  deriving Repr

namespace Value

instance : Inhabited Value := ⟨atom .null⟩

mutual
/-- The same value; entries may be in another order. -/
def same : Value → Value → Bool
  | atom a, atom b => a == b
  | sequence xs, sequence ys => sameItems xs ys
  | mapping es, mapping fs => es.length == fs.length && sameEntries es fs
  | tagged t x, tagged u y => t == u && x.same y
  | _, _ => false

def sameItems : List Value → List Value → Bool
  | [], [] => true
  | x :: r, y :: q => x.same y && sameItems r q
  | _, _ => false

/-- All entries are among others. -/
def sameEntries : List (Value × Value) → List (Value × Value) → Bool
  | [], _ => true
  | (k, x) :: r, fs => fs.any (fun f => k.same f.1 && x.same f.2) && sameEntries r fs
end

/-- No two of the values are the same. -/
def areDistinct : List Value → Bool
  | [] => true
  | x :: r => !r.any x.same && areDistinct r

/-- Reads a node: a key stands only once in a mapping, and a word as a tag is kept. -/
def ofNode (d : Document) : Nat → Node → Reading Value
  | 0, _ => failure
  | n + 1, x => do
    let x ← d.follow x
    let v ← match x with
      | .aliasOf _ => failure
      | .scalar m style s => pure (atom (← fromOption (Atom.ofScalar? m.tag style s)))
      | .sequence _ xs =>
        if n = 0 then failure
        pure (sequence (← xs.mapM (ofNode d n)))
      | .mapping _ es =>
        if n = 0 then failure
        let es ← es.mapM fun e => do return (← ofNode d n e.1, ← ofNode d n e.2)
        if !areDistinct (es.map (·.1)) then failure
        pure (mapping es)
    match Document.tagWord? x.marks with
    | some w => return tagged w v
    | none => return v

def ofDocument (d : Document) : Reading Value := ofNode d (maxDepth + 1) d.root

/-- The value without its tag. -/
def untagged : Value → Value
  | tagged _ v => v.untagged
  | v => v

def text? : Value → Option String
  | atom (.text s) => some s
  | _ => none

mutual
/-- A value without tags in which all keys are text. -/
def isJson : Value → Bool
  | atom _ => true
  | sequence xs => areJson xs
  | mapping es => entriesAreJson es
  | tagged .. => false

def areJson : List Value → Bool
  | [] => true
  | x :: r => x.isJson && areJson r

def entriesAreJson : List (Value × Value) → Bool
  | [] => true
  | (k, x) :: r => k.text?.isSome && x.isJson && entriesAreJson r
end

instance : Source Value where
  present? v := return match v with
    | atom .null => none
    | v => some v
  text v := fromOption v.untagged.text?
  truth v := match v.untagged with
    | atom (.bool b) => return b
    | _ => failure
  items v := match v.untagged with
    | sequence xs => return xs
    | atom .null => return []
    | _ => failure
  entries v := match v.untagged with
    | mapping es => return es
    | atom .null => return []
    | _ => failure
  word v := match v with
    | tagged w (atom .null) => return w
    | v => fromOption v.text?
  checkJson v := if v.isJson then return () else failure

end Value

end ClusterProbe.Yaml
