import Workload.Log.Event
import Workload.Text.Alphanumeric
import Workload.Text.Blank
import Workload.Text.Octets
import Workload.Text.Split

/-! Directives of log filters, such as `warn`, `part=debug` or `part[activity{field=value}]=info`. -/
namespace Workload.Log

inductive FieldTest where
  | count (n : Nat)
  | ending (text : String)
deriving DecidableEq, Repr

namespace FieldTest

def ofString (s : String) : FieldTest :=
  match Text.uint64? s.toList with
  | some n => count n.toNat
  | none => ending s

/-- Whether the first place where `word` stands is the end. -/
def endsFirst (word : List Char) : List Char → Bool
  | [] => word.isEmpty
  | c :: cs => if word.isPrefixOf (c :: cs) then word == c :: cs else endsFirst word cs

def holds : FieldTest → FieldValue → Bool
  | count n, .count m => n == m
  | ending word, .text s => endsFirst word.toList s.toList
  | _, _ => false

end FieldTest

structure FieldCondition where
  name : String
  test : Option FieldTest := none
deriving DecidableEq, Repr

namespace FieldCondition

/-- A name, and a value after an equals sign; a second such sign ends the value. -/
def ofString (s : String) : FieldCondition :=
  match splitAtChar '=' s with
  | name :: value :: _ => { name, test := some (.ofString value) }
  | _ => { name := s }

end FieldCondition

structure Directive where
  target : Option String := none
  span : Option String := none
  field : Option FieldCondition := none
  rank : Nat
deriving DecidableEq, Repr

inductive DirectiveError where
  | malformed
  | brokenCharacter
deriving DecidableEq, Repr

namespace Directive

def rankOf? (s : String) : Option Nat :=
  match Text.unsigned? s.toList with
  | some n => if n ≤ 5 then some n else none
  | none =>
    let lower := String.ofList (s.toList.map Char.toLower)
    if lower = "off" then some 0 else (Level.ofName? lower).map Level.rank

def cut (text : List Char) (start stop : Nat) : Except DirectiveError String :=
  match (Text.splitOctets? start text).bind fun (_, rest) => Text.splitOctets? (stop - start) rest with
  | some (part, _) => .ok (String.ofList part)
  | none => .error .brokenCharacter

/-! Blanks around a directive are passed over to find where its parts start and end, but the places
are counted without them and the parts cut from the text with them. So blanks in front move all
parts to the left, and only a directive of a single word can be meant with them. -/

/-- The level from `start` on; with none everything is shown. -/
def levelFrom (text : List Char) (start : Nat) : Except DirectiveError Nat := do
  let level ← cut text start (Text.octets text)
  if level.isEmpty then return Level.trace.rank
  match rankOf? level with
  | some rank => return rank
  | none => throw .malformed

def levelAfter (text : List Char) (place : Nat) : List Char → Except DirectiveError Nat
  | [] => .ok Level.trace.rank
  | '=' :: _ => levelFrom text (place + 1)
  | _ => .error .malformed

def readActivity (text : List Char) (target : Option String) (place : Nat) (cs : List Char) :
    Except DirectiveError Directive := do
  let name := cs.takeWhile fun c => c ≠ ']' ∧ c ≠ '\x7b'
  let stop := place + Text.octets name
  match cs.drop name.length with
  | ']' :: cs =>
    let span ← cut text place stop
    return { target, span := some span, rank := ← levelAfter text (stop + 1) cs }
  | '\x7b' :: cs =>
    let span ← cut text place stop
    let field := cs.takeWhile (· ≠ '\x7d')
    let fieldStop := stop + 1 + Text.octets field
    match cs.drop field.length with
    | '\x7d' :: cs =>
      let field ← cut text (stop + 1) fieldStop
      if field.isEmpty then throw .malformed
      match cs with
      | ']' :: cs => return {
          target
          span := nonEmpty span
          field := some (.ofString field)
          rank := ← levelAfter text (fieldStop + 2) cs }
      | _ => throw .malformed
    | _ => throw .malformed
  | _ => throw .malformed

/-- A word alone is a level if it can be, and otherwise a target of which everything is shown. -/
def ofWord (s : String) : Directive :=
  match rankOf? s with
  | some rank => { rank }
  | none => { target := some s, rank := Level.trace.rank }

def startsWord (c : Char) : Bool := Text.isAlphanumeric c || c == '-' || c == ':' || c == '_'

def parse (s : String) : Except DirectiveError Directive :=
  let text := s.toList
  match Text.trim text with
  | [] => .error .malformed
  | '[' :: cs => readActivity text none 1 cs
  | c :: cs =>
    if !startsWord c then .error .malformed
    else do
      let word := (c :: cs).takeWhile fun c => c ≠ '=' ∧ c ≠ '['
      let stop := Text.octets word
      match (c :: cs).drop word.length with
      | [] => return ofWord s
      | '=' :: _ =>
        let target ← cut text 0 stop
        return { target := some target, rank := ← levelFrom text (stop + 1) }
      | _ :: rest => readActivity text (some (← cut text 0 stop)) (stop + 1) rest

def matchesTarget (d : Directive) (target : String) : Bool :=
  d.target.all fun t => t.toList.isPrefixOf target.toList

def testsValue (d : Directive) : Bool := d.field.any (·.test.isSome)

def namesActivities (d : Directive) : Bool := d.span.isSome || d.field.isSome

def isGeneral (d : Directive) : Bool := d.span.isNone && !d.testsValue

def selects (d : Directive) (s : Span) : Bool :=
  d.namesActivities && d.matchesTarget s.target && d.span.all (· == s.name) &&
    d.field.all fun f => s.fields.any (·.1 == f.name)

def acceptsFields (d : Directive) (s : Span) : Bool :=
  d.field.all fun f => f.test.all fun test => (s.fields.lookup f.name).any test.holds

/-- The more closely a directive describes what it is about, the later it comes. -/
def order : Directive → Directive → Ordering :=
  compareLex (compareOn fun d => d.target.map (·.utf8ByteSize)) (compareOn fun d => d.field.map (·.name))

end Directive
end Workload.Log
