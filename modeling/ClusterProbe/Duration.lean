/-
  ClusterProbe.Duration — spans of time, kept in whole nanoseconds.

  The clock of a run counts whole milliseconds (`ticks`): a span that would end
  between two of them ends at the later one. The text of a span uses the largest of
  the units s, ms, µs, ns that is not longer than the span, as a decimal without
  trailing zeros (`text`).
-/

namespace ClusterProbe

structure Duration where
  nanoseconds : Nat
  deriving DecidableEq, Repr

namespace Duration

def ofNanos (n : Nat) : Duration := ⟨n⟩
def ofMillis (n : Nat) : Duration := ⟨n * 1000000⟩
def ofSecs (n : Nat) : Duration := ⟨n * 1000000000⟩

/-- Clock ticks until the span is over. -/
-- The literal stands first: added to an unknown span it would be counted down one by one
-- wherever a proof is checked by unfolding.
def ticks (d : Duration) : Nat := (999999 + d.nanoseconds) / 1000000

@[simp] theorem ticks_ofMillis (n : Nat) : (ofMillis n).ticks = n := by
  show (999999 + n * 1000000) / 1000000 = n
  omega

/-! ## Text -/

/-- The digits after the point of `rest / 10 ^ places`, without trailing zeros. -/
def fraction (places rest : Nat) : List Char :=
  let ds := Nat.toDigits 10 rest
  let padded := List.replicate (places - ds.length) '0' ++ ds
  (padded.reverse.dropWhile (· == '0')).reverse

/-- A quantity of units in decimal; a unit has `10 ^ places` parts. -/
def decimal (unit places parts : Nat) : String :=
  let rest := parts % unit
  toString (parts / unit) ++ (if rest = 0 then "" else "." ++ String.ofList (fraction places rest))

def text (d : Duration) : String :=
  let n := d.nanoseconds
  if 1000000000 ≤ n then decimal 1000000000 9 n ++ "s"
  else if 1000000 ≤ n then decimal 1000000 6 n ++ "ms"
  else if 1000 ≤ n then decimal 1000 3 n ++ "µs"
  else decimal 1 0 n ++ "ns"

end Duration

end ClusterProbe
