import Workload.Json.Numeral

/-! Reading JSON text. A reader takes the characters ahead and returns what it read with the
characters that are left; it fails on anything but strict JSON. -/
namespace Workload.Json
open Text

def isSpace (c : Char) : Bool := c == ' ' || c == '\n' || c == '\t' || c == '\r'

def skipSpace (cs : List Char) : List Char := cs.dropWhile isSpace

def readDigits? (cs : List Char) : Option (List Char × List Char) :=
  let ds := cs.takeWhile Char.isDigit
  if ds.isEmpty then none else some (ds, cs.dropWhile Char.isDigit)

def readExponent? : List Char → Option (Bool × List Char × List Char)
  | '+' :: cs => (readDigits? cs).map (false, ·)
  | '-' :: cs => (readDigits? cs).map (true, ·)
  | cs => (readDigits? cs).map (false, ·)

def readNumeral? (cs : List Char) : Option (Numeral × List Char) := do
  let (negative, cs) := match cs with
    | '-' :: r => (true, r)
    | _ => (false, cs)
  let (whole, cs) ← readDigits? cs
  if whole.length > 1 ∧ whole.head? = some '0' then none
  let (fraction, cs) ← match cs with
    | '.' :: r => (readDigits? r).map fun (ds, r) => (some ds, r)
    | _ => some (none, cs)
  let (exponent, cs) ← match cs with
    | 'e' :: r | 'E' :: r => (readExponent? r).map fun (down, ds, r) => (some (down, ds), r)
    | _ => some (none, cs)
  return (⟨negative, whole, fraction, exponent⟩, cs)

/-- One code unit for every escape and one code point for every other character, up to the
closing quote. -/
def readUnits? (acc : List Nat) : List Char → Option (List Nat × List Char)
  | '"' :: cs => some (acc.reverse, cs)
  | '\\' :: 'u' :: a :: b :: c :: d :: cs => do
    let n ← inBase? 16 [a, b, c, d]
    readUnits? (n :: acc) cs
  | '\\' :: c :: cs =>
    match c with
    | '"' | '\\' | '/' => readUnits? (c.toNat :: acc) cs
    | 'b' => readUnits? (8 :: acc) cs
    | 'f' => readUnits? (12 :: acc) cs
    | 'n' => readUnits? (10 :: acc) cs
    | 'r' => readUnits? (13 :: acc) cs
    | 't' => readUnits? (9 :: acc) cs
    | _ => none
  | c :: cs => if c.toNat < 0x20 then none else readUnits? (c.toNat :: acc) cs
  | [] => none

/-- The characters of a list of units; `none` when half of a surrogate pair stands alone. -/
def ofUnits? : List Nat → Option (List Char)
  | [] => some []
  | n :: ns =>
    if 0xD800 ≤ n ∧ n ≤ 0xDBFF then
      match ns with
      | m :: ms =>
        if 0xDC00 ≤ m ∧ m ≤ 0xDFFF then
          (ofUnits? ms).map (Char.ofNat (0x10000 + (n - 0xD800) * 0x400 + (m - 0xDC00)) :: ·)
        else none
      | [] => none
    else if 0xDC00 ≤ n ∧ n ≤ 0xDFFF then none
    else (ofUnits? ns).map (Char.ofNat n :: ·)

/-- A text after its opening quote; `none` inside when it stands for no characters. -/
def readText? (cs : List Char) : Option (Option String × List Char) :=
  (readUnits? [] cs).map fun (us, cs) => ((ofUnits? us).map String.ofList, cs)

def ofMembers (members : List (Option String × Json)) : Json :=
  match members.mapM fun (k, v) => k.map (·, v) with
  | some members => object members
  | none => unreadable

mutual

/-- The first argument bounds the nesting and the number of items together. -/
def readValue? : Nat → List Char → Option (Json × List Char)
  | 0, _ => none
  | fuel + 1, cs =>
    match skipSpace cs with
    | 'n' :: 'u' :: 'l' :: 'l' :: cs => some (null, cs)
    | 't' :: 'r' :: 'u' :: 'e' :: cs => some (bool true, cs)
    | 'f' :: 'a' :: 'l' :: 's' :: 'e' :: cs => some (bool false, cs)
    | '"' :: cs => (readText? cs).map fun (s, cs) => (s.elim unreadable string, cs)
    | '[' :: cs =>
      match skipSpace cs with
      | ']' :: cs => some (array [], cs)
      | cs => readItems? fuel [] cs
    | '\x7b' :: cs =>
      match skipSpace cs with
      | '\x7d' :: cs => some (object [], cs)
      | cs => readMembers? fuel [] cs
    | cs => (readNumeral? cs).map fun (n, cs) => (n.value?.elim unreadable number, cs)

def readItems? : Nat → List Json → List Char → Option (Json × List Char)
  | 0, _, _ => none
  | fuel + 1, acc, cs => do
    let (v, cs) ← readValue? fuel cs
    match skipSpace cs with
    | ',' :: cs => readItems? fuel (v :: acc) cs
    | ']' :: cs => some (array (v :: acc).reverse, cs)
    | _ => none

def readMembers? : Nat → List (Option String × Json) → List Char → Option (Json × List Char)
  | 0, _, _ => none
  | fuel + 1, acc, cs =>
    match skipSpace cs with
    | '"' :: cs => do
      let (key, cs) ← readText? cs
      match skipSpace cs with
      | ':' :: cs =>
        let (v, cs) ← readValue? fuel cs
        match skipSpace cs with
        | ',' :: cs => readMembers? fuel ((key, v) :: acc) cs
        | '\x7d' :: cs => some (ofMembers ((key, v) :: acc).reverse, cs)
        | _ => none
      | _ => none
    | _ => none

end

def parse? (text : String) : Option Json :=
  let cs := text.toList
  match readValue? (cs.length + 1) cs with
  | some (v, rest) => if (skipSpace rest).isEmpty then some v else none
  | none => none

theorem parse?_ofList {cs : List Char} {v : Json}
    (read : readValue? (cs.length + 1) cs = some (v, [])) : parse? (String.ofList cs) = some v := by
  rw [parse?, String.toList_ofList, read]
  rfl

end Workload.Json
