/-
Spans of time and moments on a clock, both counted in nanoseconds, and the text of a span: the
largest unit of s, ms, µs and ns that leaves a whole part, with no more decimals than needed.
-/

namespace GraphicCache

/-- A moment: nanoseconds since the clock was started, negative before that. -/
abbrev Moment := Int

/-- A length of time. -/
structure Span where
  nanos : Nat
  deriving DecidableEq, Repr, Inhabited

namespace Span

def second : Nat := 1000000000

/-- The span of whole seconds and further nanoseconds. -/
def ofParts (secs nanos : Nat) : Span := ⟨secs * second + nanos⟩

def ofSeconds (secs : Nat) : Span := ⟨secs * second⟩

def wholeSeconds (d : Span) : Nat := d.nanos / second

/-- What is left of a span beside its whole seconds. -/
def subsecond (d : Span) : Nat := d.nanos % second

/-- The time from `since` to `now`, nothing if `now` comes first. -/
def elapsed (since now : Moment) : Span := ⟨(now - since).toNat⟩

/-! ## Text -/

def millisecond : Nat := 1000000

def microsecond : Nat := 1000

/-- A number of decimals, padded with zeros in front and without the zeros at its end. -/
def decimals (n places : Nat) : String :=
  let digits := (toString n).toList
  let padded := List.replicate (places - digits.length) '0' ++ digits
  String.ofList (padded.reverse.dropWhile (· == '0')).reverse

/-- The number `n / unit`, where a unit has so many decimal places, with a point only if the number
is not whole. -/
def decimal (n unit places : Nat) : String :=
  let whole := toString (n / unit)
  let rest := n % unit
  if rest = 0 then whole else whole ++ "." ++ decimals rest places

def text (d : Span) : String :=
  if second ≤ d.nanos then decimal d.nanos second 9 ++ "s"
  else if millisecond ≤ d.nanos then decimal d.nanos millisecond 6 ++ "ms"
  else if microsecond ≤ d.nanos then decimal d.nanos microsecond 3 ++ "µs"
  else toString d.nanos ++ "ns"

example : (ofParts 1 500000000).text = "1.5s" := by decide +kernel
example : (Span.mk 1500).text = "1.5µs" := by decide +kernel
example : (Span.mk 0).text = "0ns" := by decide +kernel

end Span

end GraphicCache
