import Workload.Codec.Port
import Workload.Codec.Volume
import Workload.Warning

/-! From groups to shell scripts: one `docker run` command for each container. -/
namespace Workload.Script

def formatName : String := "script"

def setting (flag : String) (value : Option String) : List String :=
  (value.map (flag ++ ·)).toList

def amount (flag : String) (n : Option UInt64) (unit : String := "") : List String :=
  setting flag ((n.filter (0 < ·)).map fun n => numeral n.toNat ++ unit)

def each (flag : String) (values : List String) : List String := values.map (flag ++ ·)

def eachPair (flag : String) (d : Dict String) : List String :=
  d.entries.map fun (key, value) => flag ++ key ++ "=" ++ value

def logFlags (logging : Option Logging) : List String :=
  match logging with
  | none => []
  | some l => ("--log-driver " ++ l.driver) :: eachPair "--log-opt " l.options

/-- The container's own mode unless it is empty, or the host's where the group asks for it. -/
def effectiveMode (own : Option String) (host : Bool) : Option String :=
  (own.bind nonEmpty).or (if host then some "host" else none)

def flags (g : Group) (c : Container) : List String :=
  amount "--cpu-shares=" c.cpuShares ++
  each "--dns " c.dns ++
  each "--dns-search " c.dnsSearch ++
  setting "--entrypoint=" (c.entrypoint.bind nonEmpty) ++
  each "--env-file " c.envFiles ++
  eachPair "--env " c.environment ++
  each "--expose " (c.expose.map fun p => numeral p.toNat) ++
  setting "--hostname=" (c.hostname.bind nonEmpty) ++
  eachPair "--label " c.labels ++
  each "--link " c.links ++
  logFlags c.logging ++
  amount "--memory=" c.memory "b" ++
  setting "--name " (nonEmpty c.name) ++
  each "--net-alias " c.networks ++
  setting "--net " (effectiveMode c.networkMode g.hostNetwork) ++
  setting "--pid " (effectiveMode c.pid g.hostPid) ++
  each "--publish " (c.ports.filterMap PortMapping.encode?) ++
  (if c.privileged then ["--privileged"] else []) ++
  setting "--stop-signal=" (c.stopSignal.bind nonEmpty) ++
  setting "--user=" (c.user.bind nonEmpty) ++
  each "--volume " (c.volumes.map Volume.encode) ++
  each "--volumes-from " c.volumesFrom ++
  setting "--workdir=" (c.workingDir.bind nonEmpty)

def continued : String := " \\"

def lastLines (c : Container) : List String :=
  let image := "    " ++ c.image.getD ""
  match c.command.bind nonEmpty with
  | some command => [image ++ continued, "        " ++ command]
  | none => [image]

def block (g : Group) (c : Container) : List String :=
  ["######## " ++ c.name ++ " ########", "docker run" ++ continued] ++
    (flags g c).map (fun flag => "    " ++ flag ++ continued) ++ lastLines c

def emit (g : Group) : String :=
  String.join ((g.containers.flatMap (block g)).map (· ++ "\n"))

def containerWarnings (c : Container) : List Warning :=
  (if c.build.isSome then [.scriptBuild c.name] else []) ++
    (if c.healthChecks.isEmpty then [] else [.scriptHealthChecks c.name])

def warnings (g : Group) : List Warning :=
  (if g.labels.isEmpty then [] else [.scriptLabels g.labels.size]) ++
    g.containers.flatMap containerWarnings

end Workload.Script
