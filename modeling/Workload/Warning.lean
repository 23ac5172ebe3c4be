import Workload.Text.Numeral

/-! What is left out when a group is written in a format that cannot hold all of it. -/
namespace Workload

inductive Warning where
  /-- A compose file has no labels of its own; the group has so many. -/
  | composeLabels (count : Nat)
  | composeHttpProbe (container : String)
  | composeSecondCheck (container : String)
  | ecsField (container field : String)
  | ecsHttpProbe (container : String)
  | ecsMode
  | scriptLabels (count : Nat)
  | scriptBuild (container : String)
  | scriptHealthChecks (container : String)
deriving DecidableEq, Repr

namespace Warning

def message : Warning → String
  | composeLabels _ => "Compose has no group-level labels; dropping them"
  | composeHttpProbe _ => "Compose health checks only run commands; dropping HTTP probe"
  | composeSecondCheck _ => "Compose supports one health check; keeping the first"
  | ecsField _ _ => "Not representable in ECS; dropping"
  | ecsHttpProbe _ => "ECS health checks only run commands; dropping HTTP probe"
  | ecsMode => "Containers disagree on a task-level mode; leaving it unset"
  | scriptLabels _ => "docker run has no group-level labels; dropping them"
  | scriptBuild _ => "docker run cannot build images; dropping build"
  | scriptHealthChecks _ => "Dropping health checks from run script"

def container? : Warning → Option String
  | composeHttpProbe c | composeSecondCheck c | ecsField c _ | ecsHttpProbe c | scriptBuild c
  | scriptHealthChecks c => some c
  | composeLabels _ | ecsMode | scriptLabels _ => none

def field? : Warning → Option String
  | ecsField _ field => some field
  | _ => none

def labels? : Warning → Option Nat
  | composeLabels n | scriptLabels n => some n
  | _ => none

end Warning
end Workload
