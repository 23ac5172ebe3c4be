import Workload.Model.Basic

/-! The order in which containers and their parts are written. Lists whose order has a meaning,
such as name servers, health checks and networks, keep it. -/
namespace Workload

def Protocol.rank : Protocol → Nat
  | tcp => 0
  | udp => 1

/-- Container port, then host port, protocol, host address and name; absent comes first. -/
def PortMapping.order : PortMapping → PortMapping → Ordering :=
  compareLex (compareOn containerPort) <| compareLex (compareOn hostPort) <|
    compareLex (compareOn (·.protocol.rank)) <| compareLex (compareOn hostIp) (compareOn name)

/-- Container path, then host path and mode; absent comes first, and writable before read-only. -/
def Volume.order : Volume → Volume → Ordering :=
  compareLex (compareOn container) <| compareLex (compareOn host) (compareOn readOnly)

def sortWith (order : α → α → Ordering) (xs : List α) : List α :=
  xs.mergeSort fun a b => (order a b).isLE

def sortContainers (containers : List Container) : List Container :=
  sortWith (compareOn Container.name) containers

def Container.canonical (c : Container) : Container :=
  { c with
    ports := sortWith PortMapping.order c.ports
    volumes := sortWith Volume.order c.volumes
    expose := sortWith compare c.expose
    volumesFrom := sortWith compare c.volumesFrom }

def Group.canonical (group : Group) : Group :=
  { group with containers := (sortContainers group.containers).map Container.canonical }

end Workload
