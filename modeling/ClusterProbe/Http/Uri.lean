/-
  ClusterProbe.Http.Uri — what requests may be addressed to.

  An address is a target alone (it starts with a slash), an authority alone, or a
  scheme, an authority and a target. Nothing is decoded or resolved: an address is
  well formed or not. A target is a path and perhaps a query; from `#` on it is cut
  off. A path may hold almost any sign, a query more of them but no quotation mark,
  and both everything beyond ASCII.
-/

import ClusterProbe.Text.Utf8

namespace ClusterProbe.Http

inductive UriFault where
  | empty
  | tooLong
  | schemeTooLong
  | invalidCharacter
  | invalidAuthority
  | invalidFormat
  deriving DecidableEq, Repr

namespace UriFault

def message : UriFault → String
  | empty => "empty string"
  | tooLong => "uri too long"
  | schemeTooLong => "scheme too long"
  | invalidCharacter => "invalid uri character"
  | invalidAuthority => "invalid authority"
  | invalidFormat => "invalid format"

end UriFault

/-- The most bytes of an address. -/
def longestUri : Nat := 65534

/-! ## Targets -/

structure Target where
  path : String
  query : Option String
  deriving DecidableEq, Repr

namespace Target

def isAmong (c : Char) (first last : Nat) : Bool := first ≤ c.toNat && c.toNat ≤ last

/-- A sign that is allowed in paths and queries alike. -/
def isCommon (c : Char) : Bool :=
  c == '!' || isAmong c 0x24 0x3B || c == '=' || 0x80 ≤ c.toNat

def isPathChar (c : Char) : Bool :=
  isCommon c || isAmong c 0x40 0x5F || isAmong c 0x61 0x7E || c == '"'

def isQueryChar (c : Char) : Bool := isCommon c || isAmong c 0x3F 0x7E

/-- The characters up to `#`. -/
def beforeFragment (cs : List Char) : List Char := cs.takeWhile (· != '#')

/-- The target of a part of an address. -/
def ofChars (cs : List Char) : Except UriFault Target :=
  let cs := beforeFragment cs
  let path := cs.takeWhile (· != '?')
  let query := match cs.dropWhile (· != '?') with
    | [] => none
    | _ :: q => some q
  if path.all isPathChar && (query.getD []).all isQueryChar then
    .ok ⟨String.ofList path, query.map String.ofList⟩
  else .error .invalidCharacter

/-- The target of a whole address, which starts with a slash. -/
def parse (s : String) : Except UriFault Target :=
  if longestUri < s.utf8ByteSize then .error .tooLong else ofChars s.toList

end Target

/-! ## Authorities -/

namespace Authority

/-- Signs of authorities, next to letters and digits. -/
def signs : List Char :=
  ['!', '$', '&', '\'', '(', ')', '*', '+', ',', '-', '.', ':', ';', '=', '@', '[', ']', '_', '~']

def isChar (c : Char) : Bool := c.isAlphanum || signs.contains c

def ends (c : Char) : Bool := c == '/' || c == '?' || c == '#'

/-- What has been seen of an authority since its beginning or the last `@`. -/
structure Seen where
  colons : Nat := 0
  opened : Bool := false
  closed : Bool := false
  percent : Bool := false
  /-- The last character was `@`. -/
  afterAt : Bool := false

/-- Colons of an address in brackets, and of a port. -/
def mostColons : Nat := 8

/-- Takes one more character. -/
def Seen.next (s : Seen) (c : Char) : Except UriFault Seen :=
  let s := { s with afterAt := c == '@' }
  match c with
  | ':' => if mostColons ≤ s.colons then .error .invalidAuthority else .ok { s with colons := s.colons + 1 }
  | '[' => if s.percent || s.opened then .error .invalidAuthority else .ok { s with opened := true }
  | ']' =>
    if !s.opened || s.closed then .error .invalidAuthority
    else .ok { s with closed := true, colons := 0, percent := false }
  | '@' => .ok { s with colons := 0, percent := false }
  | '%' => .ok { s with percent := true }
  | c => if isChar c then .ok s else .error .invalidCharacter

/-- Brackets come in pairs, only user and password hold more than one colon or a
percent sign, and something follows them. -/
def Seen.isWhole (s : Seen) : Bool :=
  s.opened == s.closed && s.colons ≤ 1 && !s.afterAt && !s.percent

def check (cs : List Char) : Except UriFault Unit := do
  let seen ← cs.foldlM Seen.next {}
  if seen.isWhole then .ok () else .error .invalidAuthority

end Authority

/-! ## Addresses -/

structure Uri where
  /-- In lower case if it is one of the two that the web uses. -/
  scheme : Option String
  authority : Option String
  target : Option Target
  deriving DecidableEq, Repr

namespace Uri

/-- The most characters of a scheme. -/
def longestScheme : Nat := 64

def isSchemeChar (c : Char) : Bool := c.isAlphanum || ['+', '-', '.', '~'].contains c

/-- The scheme before `://` and what follows, if the address starts with one. One of
them may be empty. -/
def cutScheme (cs : List Char) : Option (List Char × List Char) :=
  match cs.takeWhile isSchemeChar, cs.dropWhile isSchemeChar with
  | [], [':', '/', '/'] => none
  | scheme, ':' :: '/' :: '/' :: r => some (scheme, r)
  | _, _ => none

/-- How a scheme is kept. -/
def schemeOf (cs : List Char) : String :=
  let small := String.ofList (cs.map Char.toLower)
  if small = "http" ∨ small = "https" then small else String.ofList cs

/-- An authority, and all that follows it. -/
def ofAuthority (scheme : Option String) (cs : List Char) : Except UriFault Uri := do
  let authority := cs.takeWhile (!Authority.ends ·)
  let rest := cs.dropWhile (!Authority.ends ·)
  Authority.check authority
  if scheme.isNone then
    if rest.isEmpty then .ok ⟨none, some (String.ofList authority), none⟩ else .error .invalidFormat
  else if authority.isEmpty then .error (if rest.isEmpty then .empty else .invalidFormat)
  else .ok ⟨scheme, some (String.ofList authority), some (← Target.ofChars rest)⟩

def parse (s : String) : Except UriFault Uri :=
  if longestUri < s.utf8ByteSize then .error .tooLong
  else match s.toList with
    | [] => .error .empty
    | ['*'] => .ok ⟨none, none, some ⟨"*", none⟩⟩
    | '/' :: _ => (Target.parse s).map fun t => ⟨none, none, some t⟩
    | [c] => if Authority.ends c then .error .invalidCharacter else ofAuthority none [c]
    | cs =>
      match cutScheme cs with
      | some (scheme, rest) =>
        if longestScheme < scheme.length then .error .schemeTooLong
        else ofAuthority (some (schemeOf scheme)) rest
      | none => ofAuthority none cs

/-- The path; with a scheme there is always one. -/
def path (u : Uri) : String :=
  match u.target with
  | some t => if t.path = "" then "/" else t.path
  | none => ""

def text (u : Uri) : String :=
  (u.scheme.map (· ++ "://")).getD "" ++ u.authority.getD "" ++ u.path ++
    ((u.target.bind (·.query)).map ("?" ++ ·)).getD ""

end Uri

end ClusterProbe.Http
