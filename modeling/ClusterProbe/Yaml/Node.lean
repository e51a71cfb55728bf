/-
  ClusterProbe.Yaml.Node — the documents of a YAML text, as trees of nodes.

  A node may carry an anchor, and an alias stands for the node of an anchor. Anchors are
  numbered: one takes the count of names seen before it in the document, so a name that
  is used again may end up with the number of another. An alias of an unknown name is a
  fault; of two nodes with one number the later one counts (`Document.targets`).

  A document without a heading is the first one or none. One with a heading starts with
  directives and three hyphens. Where a key, an item or a value is missing there is a
  plain scalar without a character (`Node.nothing`), and so it is in a text without a
  document.
-/

import ClusterProbe.Yaml.Token

namespace ClusterProbe.Yaml

/-! ## Nodes -/

structure Marks where
  anchor : Option Nat := none
  tag : Option (List UInt8) := none
  deriving DecidableEq, Repr

inductive Node where
  | aliasOf (anchor : Nat)
  | scalar (marks : Marks) (style : Style) (text : String)
  | sequence (marks : Marks) (items : List Node)
  | mapping (marks : Marks) (entries : List (Node × Node))
  deriving Repr

namespace Node

def nothing : Node := scalar {} .plain ""

instance : Inhabited Node := ⟨nothing⟩

def marks : Node → Marks
  | aliasOf _ => {}
  | scalar m _ _ => m
  | sequence m _ => m
  | mapping m _ => m

mutual
/-- The count of scalars, of aliases, and of the beginnings and ends of collections. -/
def size : Node → Nat
  | aliasOf _ => 1
  | scalar .. => 1
  | sequence _ xs => 2 + sizeItems xs
  | mapping _ es => 2 + sizeEntries es

def sizeItems : List Node → Nat
  | [] => 0
  | x :: r => x.size + sizeItems r

def sizeEntries : List (Node × Node) → Nat
  | [] => 0
  | (k, x) :: r => k.size + x.size + sizeEntries r
end

/-- A node by its own anchor. -/
def ownTarget (x : Node) : List (Nat × Node) := (x.marks.anchor.map (·, x)).toList

mutual
/-- All nodes with an anchor, in the order of their beginnings. -/
def targets : Node → List (Nat × Node)
  | aliasOf _ => []
  | scalar m s t => ownTarget (scalar m s t)
  | sequence m xs => ownTarget (sequence m xs) ++ targetsOfItems xs
  | mapping m es => ownTarget (mapping m es) ++ targetsOfEntries es

def targetsOfItems : List Node → List (Nat × Node)
  | [] => []
  | x :: r => x.targets ++ targetsOfItems r

def targetsOfEntries : List (Node × Node) → List (Nat × Node)
  | [] => []
  | (k, x) :: r => k.targets ++ x.targets ++ targetsOfEntries r
end

end Node

/-! ## What is left of the tokens -/

structure Pending where
  tokens : List Token
  /-- The names of anchors so far, each with its last number. -/
  anchors : List (String × Nat) := []
  /-- What handles mean. -/
  handles : List (String × List UInt8) := []
  deriving DecidableEq, Repr

abbrev Parse := StateT Pending Option

namespace Parse

def next? : Parse (Option Token) := return (← get).tokens.head?

def drop : Parse Unit := modify fun p => { p with tokens := p.tokens.tail }

/-- Takes the token, if it is next. -/
def accept (t : Token) : Parse Bool := do
  if (← next?) = some t then
    drop
    return true
  return false

def expect (t : Token) : Parse Unit := do
  if !(← accept t) then failure

/-- One of the tokens is next. -/
def isNext (ts : List Token) : Parse Bool := return ((← next?).map ts.contains).getD false

/-- The node, unless one of the tokens says that there is none. -/
def unlessNext (ts : List Token) (node : Parse Node) : Parse Node := do
  if ← isNext ts then return .nothing else node

/-! ## Marks -/

def addAnchor (name : String) : Parse Nat := do
  let p ← get
  let id := p.anchors.length
  set { p with anchors := (name, id) :: p.anchors.filter (·.1 != name) }
  return id

def anchor? : Parse (Option Nat) := do
  match ← next? with
  | some (.anchor name) =>
    drop
    return some (← addAnchor name)
  | _ => return none

def tag? : Parse (Option (List UInt8)) := do
  match ← next? with
  | some (.tag "" suffix) =>
    drop
    return some suffix
  | some (.tag handle suffix) =>
    drop
    match (← get).handles.lookup handle with
    | some meaning => return some (meaning ++ suffix)
    | none => failure
  | _ => return none

/-- An anchor and a tag, in either order. -/
def marks : Parse Marks := do
  match ← anchor? with
  | some id => return ⟨some id, ← tag?⟩
  | none =>
    let tag ← tag?
    return ⟨← anchor?, tag⟩

/-! ## Collections -/

/-- Tokens that end what belongs to a key of a block mapping. -/
def entryEnds : List Token := [.key, .value, .blockEnd]

mutual
/-- A node. `inBlock` tells whether it may be a block collection, `isEntry` whether a
sequence of it may stand at the indentation of the mapping it is in. -/
def node : Nat → Bool → Bool → Parse Node
  | 0, _, _ => failure
  | n + 1, inBlock, isEntry => do
    if let some (.aliasOf name) := ← next? then
      drop
      match (← get).anchors.lookup name with
      | some id => return .aliasOf id
      | none => failure
    let m ← marks
    match ← next?, inBlock, isEntry with
    | some .blockEntry, _, true => return .sequence m (← looseItems n)
    | some (.scalar style text), _, _ =>
      drop
      return .scalar m style text
    | some .flowSequence, _, _ =>
      drop
      return .sequence m (← flowItems n true)
    | some .flowMapping, _, _ =>
      drop
      return .mapping m (← flowEntries n true)
    | some .blockSequence, true, _ =>
      drop
      return .sequence m (← blockItems n)
    | some .blockMapping, true, _ =>
      drop
      return .mapping m (← blockEntries n)
    | _, _, _ => if m = {} then failure else return .scalar m .plain ""

def blockItems : Nat → Parse (List Node)
  | 0 => failure
  | n + 1 => do
    if ← accept .blockEntry then
      let x ← unlessNext [.blockEntry, .blockEnd] (node n true false)
      return x :: (← blockItems n)
    expect .blockEnd
    return []

/-- The items of a sequence that stands at the indentation of the mapping it is in. -/
def looseItems : Nat → Parse (List Node)
  | 0 => failure
  | n + 1 => do
    if ← accept .blockEntry then
      let x ← unlessNext (.blockEntry :: entryEnds) (node n true false)
      return x :: (← looseItems n)
    return []

def blockEntries : Nat → Parse (List (Node × Node))
  | 0 => failure
  | n + 1 => do
    if ← accept .key then
      let k ← unlessNext entryEnds (node n true true)
      let x ← if ← accept .value then unlessNext entryEnds (node n true true) else pure .nothing
      return (k, x) :: (← blockEntries n)
    expect .blockEnd
    return []

def flowItems : Nat → Bool → Parse (List Node)
  | 0, _ => failure
  | n + 1, isFirst => do
    if ← accept .flowSequenceEnd then return []
    if !isFirst then expect .flowEntry
    if ← accept .key then
      let e ← flowPair n
      return .mapping {} [e] :: (← flowItems n false)
    if ← accept .flowSequenceEnd then return []
    let x ← node n false false
    return x :: (← flowItems n false)

/-- A key and its value as an item of a sequence. Without a key the next sign is passed
over, the colon before a value too. -/
def flowPair : Nat → Parse (Node × Node)
  | 0 => failure
  | n + 1 => do
    let k ← if ← isNext [.value, .flowEntry, .flowSequenceEnd] then
        drop
        pure .nothing
      else node n false false
    let x ← if ← accept .value then unlessNext [.flowEntry, .flowSequenceEnd] (node n false false)
      else pure .nothing
    return (k, x)

def flowEntries : Nat → Bool → Parse (List (Node × Node))
  | 0, _ => failure
  | n + 1, isFirst => do
    if ← accept .flowMappingEnd then return []
    if !isFirst then expect .flowEntry
    if ← accept .key then
      let k ← unlessNext [.value, .flowEntry, .flowMappingEnd] (node n false false)
      let x ← if ← accept .value then unlessNext [.flowEntry, .flowMappingEnd] (node n false false)
        else pure .nothing
      return (k, x) :: (← flowEntries n false)
    if ← accept .flowMappingEnd then return []
    let k ← node n false false
    return (k, .nothing) :: (← flowEntries n false)
end

/-- A block node; every second call of those above takes a token. -/
def root : Parse Node := do node (2 * (← get).tokens.length + 2) true false

/-! ## Documents -/

def directive? : Token → Option Directive
  | .directive d => some d
  | _ => none

/-- Handles that need no directive. -/
def commonHandles : List (String × List UInt8) := [("!", loneMark), ("!!", Text.utf8 "tag:yaml.org,2002:")]

/-- The handles of directives: one for each, and one version at most, 1.1 or 1.2. -/
def handlesOf? (ds : List Directive) : Option (List (String × List UInt8)) :=
  let versions := ds.filterMap fun
    | .version major minor => some (major, minor)
    | .handle .. => none
  let handles := ds.filterMap fun
    | .handle h meaning => some (h, meaning)
    | .version .. => none
  if versions.length ≤ 1 ∧ versions.all [(1, 1), (1, 2)].contains ∧ (handles.map (·.1)).Nodup then
    some (handles ++ commonHandles)
  else none

/-- Directives and three hyphens. -/
def heading : Parse Unit := do
  let p ← get
  let isDirective := fun t => (directive? t).isSome
  match handlesOf? ((p.tokens.takeWhile isDirective).filterMap directive?) with
  | some handles => set { p with tokens := p.tokens.dropWhile isDirective, handles }
  | none => failure
  expect .documentStart

/-- What may be in the place of the node of a document. -/
def endsDocument : Option Token → Bool
  | some (.directive _) | some .documentStart | some .documentEnd | none => true
  | _ => false

def hasHeading : Option Token → Bool
  | some (.directive _) | some .documentStart => true
  | _ => false

/-- A document that starts here; only the first may do without a heading. -/
def document (isFirst : Bool) : Parse Node := do
  modify fun p => { p with anchors := [], handles := commonHandles }
  let x ← if isFirst && !hasHeading (← next?) then root else do
    heading
    if endsDocument (← next?) then pure .nothing else root
  let _ ← accept .documentEnd
  return x

/-- Between two documents there may be more marks of an end. -/
def documents : Nat → Bool → Parse (List Node)
  | 0, _ => failure
  | n + 1, isFirst => do
    if !isFirst then modify fun p => { p with tokens := p.tokens.dropWhile (· == .documentEnd) }
    if (← next?).isNone then return []
    let x ← document isFirst
    return x :: (← documents n false)

end Parse

/-! ## Documents of a text -/

structure Document where
  root : Node
  /-- Nodes by their anchors; the first one of a number counts. -/
  targets : List (Nat × Node)

namespace Document

def ofRoot (x : Node) : Document := ⟨x, x.targets.reverse⟩

/-- The documents of a text, at least one. -/
def ofText? (cs : List Char) : Option (List Document) := do
  let tokens ← Token.ofText? cs
  let (roots, _) ← (Parse.documents (tokens.length + 1) true).run { tokens }
  return (if roots.isEmpty then [.nothing] else roots).map ofRoot

end Document

end ClusterProbe.Yaml
