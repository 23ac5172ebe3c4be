import Workload.Error
import Workload.Text.Blank

/-! Durations such as `30s`, `1m 30s`, `1.5h` or a bare number of seconds. -/
namespace Workload.Duration

/-- A unit of time as a number of grains of so many nanoseconds each; a fraction of the unit must
be a whole number of grains. -/
structure TimeUnit where
  names : List String
  size : Nat
  grain : Nat := 1
  fractional : Bool := true

def second : Nat := 1000000000

def units : List TimeUnit := [
  { names := ["nanos", "nsec", "ns"], size := 1, fractional := false },
  { names := ["usec", "us", "µs"], size := 1000 },
  { names := ["millis", "msec", "ms"], size := 1000000 },
  { names := ["seconds", "second", "secs", "sec", "s"], size := second },
  { names := ["minutes", "minute", "min", "mins", "m"], size := 60 * second },
  { names := ["hours", "hour", "hr", "hrs", "h"], size := 3600, grain := second },
  { names := ["days", "day", "d"], size := 86400, grain := second },
  { names := ["weeks", "week", "wk", "wks", "w"], size := 604800, grain := second },
  { names := ["months", "month", "M"], size := 2630016, grain := second },
  { names := ["years", "year", "yr", "yrs", "y"], size := 31557600, grain := second }]

def unit? (name : List Char) : Option TimeUnit :=
  units.find? fun u => u.names.any fun n => n.toList == name

structure Term where
  whole : List Char
  fraction : Option (List Char)
  unit : List Char

def isUnitLetter (c : Char) : Bool := c.isAlpha || c == 'µ'

def isSpacedDigit (c : Char) : Bool := c.isDigit || Text.isBlank c

/-- A term ahead, whose first digit is not looked for, and the rest of the text. -/
def readTerm (cs : List Char) : Term × List Char :=
  let whole := (cs.takeWhile isSpacedDigit).filter Char.isDigit
  let cs := cs.dropWhile isSpacedDigit
  let (fraction, cs) := match cs with
    | '.' :: r => (some ((r.takeWhile isSpacedDigit).filter Char.isDigit), r.dropWhile isSpacedDigit)
    | _ => (none, cs)
  (⟨whole, fraction, cs.takeWhile isUnitLetter⟩, cs.dropWhile isUnitLetter)

/-- The terms of a text; each starts with a digit, so `fuel` need not exceed the length. -/
def readTerms (fuel : Nat) (cs : List Char) : Option (List Term) :=
  match cs.dropWhile Text.isBlank, fuel with
  | [], _ => some []
  | _ :: _, 0 => none
  | c :: cs, fuel + 1 =>
    if c.isDigit then
      let (t, rest) := readTerm (c :: cs)
      (readTerms fuel rest).map (t :: ·)
    else none

def fractionGrains (u : TimeUnit) (ds : List Char) : Option Nat :=
  let scale := Nat.pow 10 ds.length
  let product := Text.ofDigits ds * u.size
  if u.fractional ∧ ds ≠ [] ∧ scale < UInt64.size ∧ product < UInt64.size ∧ product % scale = 0 then
    some (product / scale)
  else none

def Term.nanoseconds (t : Term) : Option Nat := do
  let u ← unit? t.unit
  let part ← match t.fraction with
    | none => some 0
    | some ds => fractionGrains u ds
  return (Text.ofDigits t.whole * u.size + part) * u.grain

def nanoseconds (cs : List Char) : Option Nat := do
  let ts ← readTerms cs.length cs
  if ts.isEmpty then none
  let ns ← ts.mapM Term.nanoseconds
  return ns.foldl (· + ·) 0

/-- Whole seconds, rounded down, that fit 32 bits. A bare number counts seconds. -/
def parse (s : String) : Except FieldError UInt32 :=
  let cs := Text.trim s.toList
  match Text.uint32? cs with
  | some n => .ok n
  | none =>
    match (nanoseconds cs).map (· / second) with
    | some n => if n < UInt32.size then .ok (.ofNat n) else .error (.invalidDuration s)
    | none => .error (.invalidDuration s)

def format (seconds : UInt32) : String := numeral seconds.toNat ++ "s"

end Workload.Duration
