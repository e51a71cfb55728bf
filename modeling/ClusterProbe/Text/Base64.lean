/-
  ClusterProbe.Text.Base64 — bytes as letters, digits, plus and slash.

  Four symbols hold three bytes. At the end equals signs fill up what two bytes or one
  leave free, and the bits that are left over are zero. A fault is told by the first
  symbol that has no place where it stands, unless the text ends too early.
-/

namespace ClusterProbe.Text

inductive Base64Fault where
  /-- No symbol, or padding that is not at the end. -/
  | symbol (byte : UInt8) (offset : Nat)
  | length (symbols : Nat)
  /-- The last symbol has bits left over. -/
  | lastSymbol (byte : UInt8) (offset : Nat)
  | padding
  deriving DecidableEq, Repr

namespace Base64Fault

def message : Base64Fault → String
  | symbol b i => "Invalid symbol " ++ toString b.toNat ++ ", offset " ++ toString i ++ "."
  | length n => "Invalid input length: " ++ toString n
  | lastSymbol b i => "Invalid last symbol " ++ toString b.toNat ++ ", offset " ++ toString i ++ "."
  | padding => "Invalid padding"

end Base64Fault

def base64Digit? (b : UInt8) : Option Nat :=
  if 65 ≤ b ∧ b ≤ 90 then some (b.toNat - 65)
  else if 97 ≤ b ∧ b ≤ 122 then some (b.toNat - 97 + 26)
  else if 48 ≤ b ∧ b ≤ 57 then some (b.toNat - 48 + 52)
  else if b = 43 then some 62
  else if b = 47 then some 63
  else none

/-- The equals sign. -/
def base64Pad : UInt8 := 61

def base64Digit (offset : Nat) (b : UInt8) : Except Base64Fault Nat :=
  match base64Digit? b with
  | some n => .ok n
  | none => .error (.symbol b offset)

def base64Digits (offset : Nat) : List UInt8 → Except Base64Fault (List Nat)
  | [] => .ok []
  | b :: r => do return (← base64Digit offset b) :: (← base64Digits (offset + 1) r)

/-- The bytes of four digits. -/
def base64Bytes (a b c d : Nat) : List UInt8 :=
  let n := 262144 * a + 4096 * b + 64 * c + d
  [.ofNat (n / 65536), .ofNat (n / 256 % 256), .ofNat (n % 256)]

/-- The last symbols, at most four. -/
def decodeBase64End (offset : Nat) (bs : List UInt8) : Except Base64Fault (List UInt8) := do
  let symbols := bs.takeWhile (· != base64Pad)
  let rest := bs.drop symbols.length
  let digits ← base64Digits offset symbols
  if !rest.isEmpty && (symbols.length < 2 || !rest.all (· == base64Pad)) then
    throw (.symbol base64Pad (offset + symbols.length))
  if !bs.isEmpty && symbols.length < 2 then throw (.length (offset + symbols.length))
  if bs.length % 4 ≠ 0 then throw .padding
  let tooMany := Base64Fault.lastSymbol (symbols.getLast?.getD 0) (offset + symbols.length - 1)
  match digits with
  | [a, b] => if b % 16 = 0 then .ok ((base64Bytes a b 0 0).take 1) else .error tooMany
  | [a, b, c] => if c % 4 = 0 then .ok ((base64Bytes a b c 0).take 2) else .error tooMany
  | [a, b, c, d] => .ok (base64Bytes a b c d)
  | _ => .ok []

def decodeBase64From (offset : Nat) : List UInt8 → Except Base64Fault (List UInt8)
  | a :: b :: c :: d :: e :: r => do
    let bytes := base64Bytes (← base64Digit offset a) (← base64Digit (offset + 1) b)
      (← base64Digit (offset + 2) c) (← base64Digit (offset + 3) d)
    return bytes ++ (← decodeBase64From (offset + 4) (e :: r))
  | bs => decodeBase64End offset bs

/-- The bytes of a text. A last symbol that stands alone is looked at before the others. -/
def decodeBase64 (bs : List UInt8) : Except Base64Fault (List UInt8) := do
  if bs.length % 4 = 1 then
    match bs.getLast? with
    | some b => if b ≠ base64Pad then discard (base64Digit (bs.length - 1) b)
    | none => pure ()
  decodeBase64From 0 bs

def decodeBase64? (bs : List UInt8) : Option (List UInt8) := (decodeBase64 bs).toOption

end ClusterProbe.Text
