import Workload.Model.Basic
import Workload.Text.Split
import Workload.Text.Blank
import Workload.Text.Numeral

/-! Tables of named volumes. Documents that mount volumes by name keep such a table; writing one,
every host path gets one name, and a name never changes its meaning. -/
namespace Workload

/-- A name to start from: the path with `-` for `/`, and none of them at the ends. -/
def volumeBaseName (path : String) : String :=
  String.ofList <| Text.trimWhile (· == '-') <| path.toList.map fun c => if c = '/' then '-' else c

/-- Volume names with the host path each stands for, if any. -/
structure VolumeTable where
  entries : Dict (Option String) := ∅
deriving DecidableEq

namespace VolumeTable

instance : Inhabited VolumeTable := ⟨{}⟩

def empty : VolumeTable := {}
def size (t : VolumeTable) : Nat := t.entries.size
def isEmpty (t : VolumeTable) : Bool := t.entries.isEmpty
def contains (t : VolumeTable) (name : String) : Bool := t.entries.contains name

def insert (t : VolumeTable) (name : String) (host : Option String) : VolumeTable :=
  ⟨t.entries.insert name host⟩

def resolve (t : VolumeTable) (name : String) : Option String := (t.entries.find? name).join

/-- The name tried first, and those with the numbers from two on after it. -/
def candidate (base : String) : Nat → String
  | 0 => base
  | n + 1 => base ++ "-" ++ numeral (n + 2)

/-- Whether `name` is free, or stands for this very host path already. -/
def accepts (t : VolumeTable) (host : Option String) (name : String) : Bool :=
  match t.entries.find? name with
  | none => true
  | some held => held == host

def probe (t : VolumeTable) (host : Option String) (base : String) (n : Nat) : Nat → String
  | 0 => candidate base n
  | fuel + 1 =>
    if t.accepts host (candidate base n) then candidate base n
    else t.probe host base (n + 1) fuel

/-- The name under which a volume is registered. Candidates differ from one another, so one of the
first `size + 1` is not taken. -/
def nameFor (t : VolumeTable) (v : Volume) : String :=
  t.probe v.host (volumeBaseName (v.host.getD v.container)) 0 t.size

/-- Registers a volume and returns its name; an entry that fits is used again. -/
def register (t : VolumeTable) (v : Volume) : String × VolumeTable :=
  let name := t.nameFor v
  (name, if t.contains name then t else t.insert name v.host)

end VolumeTable
end Workload
