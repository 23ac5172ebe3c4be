import Workload.Dict

/-! The records that all formats are read into and written from: a group of containers that run
together, and what is known of each of them. -/
namespace Workload

inductive Protocol where
  | tcp
  | udp
deriving DecidableEq, Repr, Inhabited

def Protocol.name : Protocol → String
  | tcp => "tcp"
  | udp => "udp"

structure PortMapping where
  hostIp : Option String := none
  /-- Zero when the host chooses the port. -/
  hostPort : UInt16 := 0
  containerPort : UInt16
  protocol : Protocol := .tcp
  name : Option String := none
deriving DecidableEq, Repr

structure Volume where
  /-- The host path, absent when the volume lives in the container only. -/
  host : Option String := none
  container : String
  readOnly : Bool := false
deriving DecidableEq, Repr

structure Logging where
  driver : String
  options : Dict String := ∅
deriving DecidableEq

structure Build where
  context : String := ""
  dockerfile : Option String := none
  args : Dict String := ∅
deriving DecidableEq

structure HttpProbe where
  path : String := ""
  port : UInt16
  host : Option String := none
  scheme : Option String := none
  headers : Dict String := ∅
deriving DecidableEq

inductive Probe where
  | exec (command : String)
  | http (request : HttpProbe)
deriving DecidableEq

structure HealthCheck where
  probe : Probe
  interval : Option UInt32 := none
  timeout : Option UInt32 := none
  failureThreshold : Option UInt32 := none
deriving DecidableEq

def HealthCheck.exec (command : String) : HealthCheck := { probe := .exec command }

def HealthCheck.execCommand? (check : HealthCheck) : Option String :=
  match check.probe with
  | .exec command => some command
  | .http _ => none

def HealthCheck.isHttp (check : HealthCheck) : Bool :=
  match check.probe with
  | .exec _ => false
  | .http _ => true

structure Container where
  name : String
  image : Option String := none
  command : Option String := none
  entrypoint : Option String := none
  workingDir : Option String := none
  user : Option String := none
  hostname : Option String := none
  privileged : Bool := false
  essential : Bool := false
  /-- Relative weight; one core is 1024. -/
  cpuShares : Option UInt64 := none
  memory : Option UInt64 := none
  environment : Dict String := ∅
  envFiles : List String := []
  labels : Dict String := ∅
  dns : List String := []
  dnsSearch : List String := []
  expose : List UInt16 := []
  ports : List PortMapping := []
  volumes : List Volume := []
  /-- Containers to mount volumes from, as `name` or `name:ro`. -/
  volumesFrom : List String := []
  links : List String := []
  networks : List String := []
  networkMode : Option String := none
  pid : Option String := none
  logging : Option Logging := none
  build : Option Build := none
  healthChecks : List HealthCheck := []
  pullPolicy : Option String := none
  stopSignal : Option String := none
deriving DecidableEq

structure Group where
  name : Option String := none
  containers : List Container := []
  labels : Dict String := ∅
  hostNetwork : Bool := false
  hostPid : Bool := false
  replicas : Option UInt32 := none
deriving DecidableEq

instance : Inhabited Group := ⟨{}⟩

def Group.container? (group : Group) (name : String) : Option Container :=
  group.containers.find? (·.name == name)

end Workload
