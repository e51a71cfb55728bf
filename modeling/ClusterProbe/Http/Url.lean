/-
  ClusterProbe.Http.Url — `http` URLs made from what stands after `http://`.

  Reading drops tabs and newlines everywhere and blanks at the end, takes a backslash
  for a slash, and skips slashes before the host. The port is left out when it is 80.
  Dot segments of the path are resolved, and characters that a part may not hold are
  percent-encoded. `ofHostname` also takes a bare IPv6 address.
-/

import ClusterProbe.Http.Host
import ClusterProbe.Http.Percent

namespace ClusterProbe.Http

inductive UrlFault where
  | host (f : HostFault)
  | invalidPort
  deriving DecidableEq, Repr

namespace UrlFault

def message : UrlFault → String
  | host f => f.message
  | invalidPort => "invalid port number"

end UrlFault

structure Url where
  /-- Percent-encoded; usually nothing. -/
  user : String
  /-- Percent-encoded; nothing if it is empty. -/
  password : Option String
  host : Host
  /-- Any port but 80. -/
  port : Option Nat
  path : String
  /-- Query and fragment with their signs. -/
  rest : String
  deriving DecidableEq, Repr

namespace Url

/-! ## Signs that are percent-encoded -/

def fragmentSigns : List Char := [' ', '"', '<', '>', '\x60']
def pathSigns : List Char := fragmentSigns ++ ['#', '?', '\x7b', '\x7d']
def credentialSigns : List Char := pathSigns ++ ['/', ':', ';', '=', '@', '[', '\\', ']', '^', '|']
def querySigns : List Char := [' ', '"', '#', '<', '>', '\'']

/-! ## Parts -/

def isSlash (c : Char) : Bool := c == '/' || c == '\\'

def endsAuthority (c : Char) : Bool := isSlash c || c == '?' || c == '#'

/-- What stands before and after the last `@`. -/
def cutCredentials (cs : List Char) : List Char × List Char :=
  match (Text.splitAt '@' cs).reverse with
  | host :: creds@(_ :: _) => (['@'].intercalate creds.reverse, host)
  | _ => ([], cs)

/-- User and password, which the first colon parts. -/
def credentials (cs : List Char) : String × Option String :=
  let password := (cs.dropWhile (· != ':')).drop 1
  (String.ofList (Percent.encode credentialSigns (cs.takeWhile (· != ':'))),
    if password.isEmpty then none else some (String.ofList (Percent.encode credentialSigns password)))

/-- The host and what follows the first colon outside brackets. -/
def cutPort (inBrackets : Bool) : List Char → List Char × Option (List Char)
  | [] => ([], none)
  | ':' :: r =>
    if inBrackets then
      let (h, p) := cutPort true r
      (':' :: h, p)
    else ([], some r)
  | c :: r =>
    let (h, p) := cutPort (if c = '[' then true else if c = ']' then false else inBrackets) r
    (c :: h, p)

def port? : Option (List Char) → Except UrlFault (Option Nat)
  | none => .ok none
  | some [] => .ok none
  | some cs =>
    match numeral? 10 cs with
    | some n => if 65535 < n then .error .invalidPort else .ok (if n = 80 then none else some n)
    | none => .error .invalidPort

def isDot (p : List Char) : Bool := [".", "%2e"].contains (String.ofList (p.map Char.toLower))

def isDoubleDot (p : List Char) : Bool :=
  ["..", ".%2e", "%2e.", "%2e%2e"].contains (String.ofList (p.map Char.toLower))

/-- A segment that names a drive. -/
def isDrive : List Char → Bool
  | [c, d] => c.isAlpha && (d == ':' || d == '|')
  | _ => false

/-- The segments before, the last one first, without the last one; a drive stays. -/
def leave : List (List Char) → List (List Char)
  | [] => []
  | p :: r => if isDrive p then p :: r else r

/-- Resolves dot segments; `done` are the segments before, the last one first. One at
the end leaves an empty segment. -/
def resolveDots (done : List (List Char)) : List (List Char) → List (List Char)
  | [] => done.reverse
  | p :: r =>
    if isDoubleDot p then resolveDots (if r.isEmpty then [] :: leave done else leave done) r
    else if isDot p then resolveDots (if r.isEmpty then [] :: done else done) r
    else resolveDots (Percent.encode pathSigns p :: done) r

/-- The path of what follows the host. -/
def pathText (cs : List Char) : String :=
  let segments := Text.splitAt '/' (cs.map fun c => if c = '\\' then '/' else c)
  let segments := match segments with
    | [] :: r@(_ :: _) => r
    | ps => ps
  String.ofList ((resolveDots [] segments).flatMap ('/' :: ·))

/-- Query and fragment. -/
def restText (cs : List Char) : String :=
  let query := cs.takeWhile (· != '#')
  let fragment := cs.dropWhile (· != '#')
  let query := match query with
    | '?' :: q => '?' :: Percent.encode querySigns q
    | q => q
  let fragment := match fragment with
    | '#' :: f => '#' :: Percent.encode fragmentSigns f
    | f => f
  String.ofList (query ++ fragment)

/-! ## Whole URLs -/

def isTrimmed (c : Char) : Bool := c.toNat ≤ 0x20

/-- Reads what stands after `http://`. -/
def parse (s : String) : Except UrlFault Url :=
  let cs := (s.toList.reverse.dropWhile isTrimmed).reverse
  let cs := (cs.filter fun c => c != '\t' && c != '\n' && c != '\r').dropWhile isSlash
  let authority := cs.takeWhile (!endsAuthority ·)
  let after := cs.dropWhile (!endsAuthority ·)
  let (creds, hostPort) := cutCredentials authority
  let (host, port) := cutPort false hostPort
  match Host.parse host with
  | .error f => .error (.host f)
  | .ok host =>
    match port? port with
    | .error f => .error f
    | .ok port =>
      let isPath := fun c => c != '?' && c != '#'
      let (user, password) := credentials creds
      .ok {
        user := user
        password := password
        host := host
        port := port
        path := pathText (after.takeWhile isPath)
        rest := restText (after.dropWhile isPath) }

/-- The URL of a host name, which may be an IPv6 address without brackets. -/
def ofHostname (s : String) : Except UrlFault Url :=
  match Ipv6.parse? s.toList with
  | some gs => parse ("[" ++ Ipv6.text gs ++ "]")
  | none => parse s

def credentialText (u : Url) : String :=
  match u.password with
  | some p => u.user ++ ":" ++ p ++ "@"
  | none => if u.user = "" then "" else u.user ++ "@"

/-- What follows the credentials. -/
def place (u : Url) : String :=
  u.host.text ++ (match u.port with
    | some n => ":" ++ toString n
    | none => "") ++ u.path ++ u.rest

def text (u : Url) : String := "http://" ++ u.credentialText ++ u.place

end Url

end ClusterProbe.Http
