import Workload.Decimal.Reader
import Workload.Value
import Workload.Yaml.Token

/-! Which value the text of a scalar stands for. -/
namespace Workload.Yaml

def isNullText (s : String) : Bool := s == "~" || s == "null" || s == "Null" || s == "NULL"

def boolOfText? (s : String) : Option Bool :=
  if s == "true" || s == "True" || s == "TRUE" then some true
  else if s == "false" || s == "False" || s == "FALSE" then some false
  else none

def splitSign : List Char → Bool × List Char
  | '+' :: cs => (false, cs)
  | '-' :: cs => (true, cs)
  | cs => (false, cs)

/-- Several digits of which the first is zero; they are text and no number. -/
def hasLeadingZero (cs : List Char) : Bool :=
  decide (1 < cs.length) && cs.head? == some '0' && cs.all Char.isDigit

def magnitude? : List Char → Option Nat
  | '0' :: 'x' :: cs => Text.inBase? 16 cs
  | '0' :: 'o' :: cs => Text.inBase? 8 cs
  | '0' :: 'b' :: cs => Text.inBase? 2 cs
  | cs => if hasLeadingZero cs then none else Text.inBase? 10 cs

/-- Integers of up to 128 bits; what is larger counts as a fraction. -/
def integer? (s : String) : Option Int := do
  let (negative, cs) := splitSign s.toList
  let n ← magnitude? cs
  if negative then (if n ≤ Text.size128 / 2 then some (-n) else none)
  else (if n < Text.size128 then some n else none)

def numberOfInteger? (n : Int) : Option Number :=
  if 0 ≤ n then Number.ofNat? n.toNat
  else if Int64.minValue.toInt ≤ n then some (.negative (.ofInt n))
  else none

def fraction? (s : String) : Option Binary64 :=
  let infinite := [".inf", ".Inf", ".INF"]
  if infinite.contains s || (infinite.map ("+" ++ ·)).contains s then some (.infinity false)
  else if (infinite.map ("-" ++ ·)).contains s then some (.infinity true)
  else if [".nan", ".NaN", ".NAN"].contains s then some .nan
  else Decimal.read? s.toList

def valueOfPlain? (s : String) : Option Value :=
  if s.isEmpty || isNullText s then some .null
  else
    match boolOfText? s with
    | some b => some (.bool b)
    | none =>
      match integer? s with
      | some n => (numberOfInteger? n).map .number
      | none =>
        if hasLeadingZero (splitSign s.toList).2 then some (.string s)
        else match fraction? s with
          | some x => some (.number (.fraction x))
          | none => some (.string s)

/-- The value of a scalar. A local tag says nothing about it, and another tag that is not known makes
it a text. -/
def valueOfScalar? (tag : Option Tag) (text : String) (style : ScalarStyle) : Option Value :=
  let untagged := if style = .plain then valueOfPlain? text else some (.string text)
  match tag with
  | none => untagged
  | some t =>
    if t = .core "bool" then (boolOfText? text).map .bool
    else if t = .core "int" then do
      let n ← integer? text
      return .number (← numberOfInteger? n)
    else if t = .core "float" then (fraction? text).map fun x => .number (.fraction x)
    else if t = .core "null" then (if isNullText text then some .null else none)
    else if t.isLocal then untagged
    else some (.string text)

end Workload.Yaml
