import Workload.Compose.File
import Workload.Codec.Build
import Workload.Codec.Command
import Workload.Codec.Duration
import Workload.Codec.Port
import Workload.Codec.Volume
import Workload.Model.Order
import Workload.Warning
import Workload.Yaml.Printer

/-! From groups to compose files. -/
namespace Workload.Compose

def defaultVersion : String := "2"

def positive (n : Option UInt64) : Option UInt64 := n.filter (0 < ·)

def textList (xs : List String) : Option Value :=
  if xs.isEmpty then none else some (.list (xs.map .string))

def textTable (d : Dict String) : Option Value :=
  if d.isEmpty then none else some (ofDict .string d)

def effectiveMode (own : Option String) (host : Bool) : Option String :=
  own.or (if host then some "host" else none)

def HealthSection.ofChecks? (checks : List HealthCheck) : Option HealthSection := do
  let check ← checks.find? (!·.isHttp)
  let command ← check.execCommand?
  return {
    test := some (.list ((Command.toTest command).map .string))
    interval := check.interval.map Duration.format
    timeout := check.timeout.map Duration.format
    retries := check.failureThreshold.map fun n => .int n.toUInt64 }

def LoggingSection.ofLogging (l : Logging) : LoggingSection where
  driver := if l.driver.isEmpty then none else some l.driver
  options := l.options.map .text

def Service.ofContainer (group : Group) (c : Container) : Service where
  build := c.build.map fun b => b.encode.toValue
  command := c.command.map .string
  cpuShares := (positive c.cpuShares).map .int
  dns := textList c.dns
  dnsSearch := textList c.dnsSearch
  entrypoint := c.entrypoint.map .string
  envFile := textList c.envFiles
  environment := textTable c.environment
  expose := c.expose.map fun p => .int p.toUInt64
  healthcheck := HealthSection.ofChecks? c.healthChecks
  hostname := c.hostname
  image := c.image
  labels := textTable c.labels
  links := c.links
  logging := c.logging.map .ofLogging
  memLimit := (positive c.memory).map .int
  networks := textList c.networks
  networkMode := effectiveMode c.networkMode group.hostNetwork
  pid := effectiveMode c.pid group.hostPid
  ports := (c.ports.filterMap PortMapping.encode?).map .text
  privileged := c.privileged
  pullPolicy := c.pullPolicy
  stopSignal := c.stopSignal
  user := c.user
  volumes := c.volumes.map fun v => .text v.encode
  volumesFrom := c.volumesFrom
  workingDir := c.workingDir

def File.ofGroup (version : String) (group : Group) : File :=
  .ofServices (some (.text version)) (group.containers.map fun c => (c.name, .ofContainer group c))

/-- One warning for every HTTP probe before the `execs + 1`-th command check, and one for that. -/
def checkWarnings (container : String) (execs : Nat) : List HealthCheck → List Warning
  | [] => []
  | check :: checks =>
    if check.isHttp then .composeHttpProbe container :: checkWarnings container execs checks
    else match execs with
      | 0 => [.composeSecondCheck container]
      | execs + 1 => checkWarnings container execs checks

def warnings (group : Group) : List Warning :=
  (if group.labels.isEmpty then [] else [.composeLabels group.labels.size]) ++
    group.containers.flatMap fun c => checkWarnings c.name 1 c.healthChecks

def emit (version : String) (group : Group) : String :=
  Yaml.print (File.ofGroup version group.canonical).toValue

end Workload.Compose
