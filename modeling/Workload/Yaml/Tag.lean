/-! Tags of YAML nodes, which tell what kind of value a node holds. -/
namespace Workload.Yaml

/-- A tag as octets. The escapes of a tag may spell octets that are no text; such a tag is only good
for not being another one. -/
structure Tag where
  octets : List UInt8
deriving DecidableEq, Repr

namespace Tag

def ofString (s : String) : Tag := ⟨s.toUTF8.toList⟩

def core (name : String) : Tag := ofString ("tag:yaml.org,2002:" ++ name)

instance : Append Tag := ⟨fun t u => ⟨t.octets ++ u.octets⟩⟩

def isLocal (t : Tag) : Bool := t.octets.head? == some (UInt8.ofNat '!'.toNat)

/-- The name of a tag that belongs to the application: the text after its exclamation mark, or the
mark itself when it stands alone. -/
def localName? (t : Tag) : Option String :=
  if !t.isLocal then none else
    let name := t.octets.drop 1
    String.fromUTF8? (if name.isEmpty then t.octets else name).toByteArray

end Tag
end Workload.Yaml
