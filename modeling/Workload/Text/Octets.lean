/-! The length of texts in octets of UTF-8, and cuts at places counted in them. -/
namespace Workload.Text

def octets : List Char → Nat
  | [] => 0
  | c :: cs => c.utf8Size + octets cs

/-- The first `n` octets and the text after them, unless a character straddles the cut or the text
is shorter. -/
def splitOctets? : Nat → List Char → Option (List Char × List Char)
  | 0, cs => some ([], cs)
  | _ + 1, [] => none
  | n + 1, c :: cs =>
    if c.utf8Size ≤ n + 1 then
      (splitOctets? (n + 1 - c.utf8Size) cs).map fun (a, b) => (c :: a, b)
    else none

end Workload.Text
