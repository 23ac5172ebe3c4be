import Workload.Error
import Workload.Model.Basic
import Workload.Text.Split
import Workload.Text.Blank

/-! Volumes as `[host:]container[:ro]`. -/
namespace Workload.Volume

def bind (host container : String) : Volume := { host := some host, container }

/-- Reads one to three parts; only `ro` as the third makes the volume read-only. -/
def decode (s : String) : Except FieldError Volume :=
  if s.isEmpty then .error .empty
  else
    match splitAtChar ':' s with
    | [container] => .ok { container }
    | [host, container] => .ok (bind host container)
    | [host, container, mode] => .ok { bind host container with readOnly := mode == "ro" }
    | parts => .error (.segmentCount s parts.length)

/-- The three parts joined, without the colons that missing parts leave at the ends. -/
def encode (v : Volume) : String :=
  let parts := [v.host.getD "", v.container, if v.readOnly then "ro" else ""]
  String.ofList (Text.trimWhile (· == ':') (Text.join ':' (parts.map String.toList)))

end Workload.Volume
