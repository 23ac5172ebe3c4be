import Workload.Model.Order
import Workload.Error

/-! The last step of reading a document: containers in name order, and no name twice. -/
namespace Workload

/-- The first name, in list order, that an earlier container has too. -/
def repeatedName? (seen : List String) : List Container → Option String
  | [] => none
  | c :: cs => if seen.contains c.name then some c.name else repeatedName? (c.name :: seen) cs

namespace Group

def validate (format : String) (group : Group) : Except ConversionError Unit :=
  match repeatedName? [] group.containers with
  | some name => .error (.duplicateContainer format name)
  | none => .ok ()

def finish (format : String) (group : Group) : Except ConversionError Group := do
  let group := { group with containers := sortContainers group.containers }
  group.validate format
  return group

end Group
end Workload
