import Workload.Error
import Workload.Model.Basic
import Workload.Text.Split
import Workload.Text.Blank

/-! Ports as `[ip:][host:]container[/udp]`. -/
namespace Workload

def Protocol.parse (s : String) : Except FieldError Protocol :=
  let lower := s.toList.map Char.toLower
  if s.isEmpty ∨ lower = ['t', 'c', 'p'] then .ok .tcp
  else if lower = ['u', 'd', 'p'] then .ok .udp
  else .error (.unknownProtocol s)

namespace PortMapping

def unpublished (containerPort : UInt16) : PortMapping := { containerPort }

def published (hostPort containerPort : UInt16) : PortMapping := { hostPort, containerPort }

def splitProtocol (cs : List Char) : List Char × Protocol :=
  match Text.dropEnding? "/udp" cs with
  | some rest => (rest, .udp)
  | none => ((Text.dropEnding? "/tcp" cs).getD cs, .tcp)

def decodeNumber (cs : List Char) : Except FieldError UInt16 :=
  match Text.uint16? cs with
  | some n => .ok n
  | none => .error (.invalidNumber (String.ofList cs))

/-- Reads one to three parts; the host part is looked at before the container part. -/
def decode (s : String) : Except FieldError PortMapping :=
  let (spec, protocol) := splitProtocol s.toList
  match spec.splitOn ':' with
  | [container] => do
    let containerPort ← decodeNumber container
    return { containerPort, protocol }
  | [host, container] => do
    let hostPort ← decodeNumber host
    let containerPort ← decodeNumber container
    return { hostPort, containerPort, protocol }
  | [ip, host, container] => do
    let hostPort ← decodeNumber host
    let containerPort ← decodeNumber container
    let hostIp := if ip.isEmpty then none else some (String.ofList ip)
    return { hostIp, hostPort, containerPort, protocol }
  | parts => .error (.segmentCount s parts.length)

/-- The parts that are written: the address only beside a host port, and no port that is zero. -/
def segments (p : PortMapping) : List (List Char) :=
  (if 0 < p.hostPort then [(p.hostIp.getD "").toList, Text.digits p.hostPort.toNat] else []) ++
    (if 0 < p.containerPort then [Text.digits p.containerPort.toNat] else [])

def encode? (p : PortMapping) : Option String :=
  let cs := Text.trimWhile (· == ':') (Text.join ':' p.segments)
  if cs.isEmpty then none
  else some (String.ofList (cs ++ match p.protocol with
    | .udp => "/udp".toList
    | .tcp => []))

end PortMapping
end Workload
