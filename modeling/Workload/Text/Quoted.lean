import Workload.Text.Invisible
import Workload.Text.Numeral

/-! Text in double quotes, for messages: every character is visible or written as an escape. -/
namespace Workload.Text

def quotedChar (c : Char) : List Char :=
  match c with
  | '"' => ['\\', '"']
  | '\\' => ['\\', '\\']
  | '\n' => ['\\', 'n']
  | '\r' => ['\\', 'r']
  | '\t' => ['\\', 't']
  | '\x00' => ['\\', '0']
  | _ =>
    if isInvisible c then ['\\', 'u', '\x7b'] ++ lowerHex c.toNat ++ ['\x7d'] else [c]

def quoted (cs : List Char) : List Char := '"' :: cs.flatMap quotedChar ++ ['"']

end Workload.Text

namespace Workload

def quotedText (s : String) : String := String.ofList (Text.quoted s.toList)

end Workload
