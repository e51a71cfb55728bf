/-
  ClusterProbe.Machine — the machine that a client runs on: its files, its clock, and how
  it refuses to read a file or to start a command.

  A path is walked part by part, from the root or from the working directory, and what
  stands in the way first tells the fault. Files can be read, but none of them is a
  program, so that no command can be started.
-/

import ClusterProbe.Text.Parts
import ClusterProbe.Text.Utf8
import ClusterProbe.Timestamp

namespace ClusterProbe

/-! ## Faults -/

/-- What the system says of a path. -/
inductive SystemFault where
  | notFound
  | permission
  | notDirectory
  | isDirectory
  | nameTooLong
  deriving DecidableEq, Repr

namespace SystemFault

def code : SystemFault → Nat
  | notFound => 2
  | permission => 13
  | notDirectory => 20
  | isDirectory => 21
  | nameTooLong => 36

def kind : SystemFault → String
  | notFound => "NotFound"
  | permission => "PermissionDenied"
  | notDirectory => "NotADirectory"
  | isDirectory => "IsADirectory"
  | nameTooLong => "InvalidFilename"

def text : SystemFault → String
  | notFound => "No such file or directory"
  | permission => "Permission denied"
  | notDirectory => "Not a directory"
  | isDirectory => "Is a directory"
  | nameTooLong => "File name too long"

def message (f : SystemFault) : String := f.text ++ " (os error " ++ toString f.code ++ ")"

end SystemFault

/-- Why a file cannot be read. -/
inductive FileFault where
  | zeroByte
  | notUtf8
  | system (f : SystemFault)
  deriving DecidableEq, Repr

namespace FileFault

def message : FileFault → String
  | zeroByte => "file name contained an unexpected NUL byte"
  | notUtf8 => "stream did not contain valid UTF-8"
  | system f => f.message

end FileFault

/-- Why a command cannot be started. -/
inductive CommandFault where
  | zeroByte
  | system (f : SystemFault)
  deriving DecidableEq, Repr

namespace CommandFault

def zeroByteText : String := "nul byte found in provided data"

def message : CommandFault → String
  | zeroByte => zeroByteText
  | system f => f.message

/-- The fault with all that is known of it. -/
def details : CommandFault → String
  | zeroByte => "Error \x7b kind: InvalidInput, message: \"" ++ zeroByteText ++ "\" \x7d"
  | system f => "Os \x7b code: " ++ toString f.code ++ ", kind: " ++ f.kind ++ ", message: \"" ++ f.text ++ "\" \x7d"

end CommandFault

/-! ## Machines -/

inductive Entry where
  | directory
  | file (content : List UInt8)
  deriving DecidableEq, Repr

structure Machine where
  /-- What is where, by the parts of its path from the root. -/
  entries : List (List String × Entry)
  workingDirectory : List String
  /-- Where commands are looked for. -/
  commandDirectories : List (List String)
  now : Timestamp
  deriving DecidableEq, Repr

/-- A command with what it is given. -/
structure Command where
  program : String
  arguments : List String := []
  environment : List (String × String) := []
  deriving DecidableEq, Repr

namespace Machine

def hasZero (s : String) : Bool := s.toList.any (·.toNat == 0)

/-- The most bytes of a part of a path. -/
def longestPart : Nat := 255

/-- The most bytes of a path. -/
def longestPath : Nat := 4095

/-- What is at a place; the root and the working directory are directories. -/
def entry? (m : Machine) (place : List String) : Option Entry :=
  if place = [] ∨ place = m.workingDirectory then some .directory else m.entries.lookup place

/-- Goes from a place to where one more part of a path leads. -/
def step (m : Machine) (place : List String) (part : String) : Except SystemFault (List String) :=
  if m.entry? place ≠ some .directory then .error .notDirectory
  else if part = "" ∨ part = "." then .ok place
  else if part = ".." then .ok place.dropLast
  else if longestPart < part.utf8ByteSize then .error .nameTooLong
  else if (m.entry? (place ++ [part])).isNone then .error .notFound
  else .ok (place ++ [part])

/-- What a path leads to. -/
def find (m : Machine) (path : String) : Except SystemFault Entry := do
  if path = "" then throw .notFound
  if longestPath < path.utf8ByteSize then throw .nameTooLong
  let start := if path.toList.head? = some '/' then [] else m.workingDirectory
  let place ← ((Text.splitAt '/' path.toList).map String.ofList).foldlM m.step start
  match m.entry? place with
  | some e => .ok e
  | none => .error .notFound

def read (m : Machine) (path : String) : Except FileFault (List UInt8) :=
  if hasZero path then .error .zeroByte
  else match m.find path with
    | .error f => .error (.system f)
    | .ok .directory => .error (.system .isDirectory)
    | .ok (.file content) => .ok content

def readText (m : Machine) (path : String) : Except FileFault String := do
  (Text.decode (← m.read path)).mapError fun _ => .notUtf8

/-- Why no command of this name is started. A name without a slash is looked for in
several directories. -/
def refuse (m : Machine) (program : String) : SystemFault :=
  if '/' ∈ program.toList then
    match m.find program with
    | .error f => f
    | .ok _ => .permission
  else if program = "" then .notFound
  else if longestPart < program.utf8ByteSize then .nameTooLong
  else if m.commandDirectories.any fun d => (m.step d program).toOption.isSome then .permission
  else .notFound

/-- Why a command is not started. -/
def start (m : Machine) (c : Command) : CommandFault :=
  if hasZero c.program || c.arguments.any hasZero || c.environment.any fun (k, v) => hasZero k || hasZero v then
    .zeroByte
  else .system (m.refuse c.program)

end Machine

end ClusterProbe
