import Workload.Codec.Scalar
import Workload.Yaml.Decode

/-! Kubernetes pod manifests as records. Only what a group can hold is read; other keys are
ignored. -/
namespace Workload.Kube

def formatName : String := "k8s"

structure EnvVar where
  name : String
  value : Scalar := .null

structure ContainerPort where
  name : Option String := none
  hostIp : Option String := none
  hostPort : Option Scalar := none
  containerPort : Scalar := .null
  protocol : Option String := none

structure VolumeMount where
  name : String
  mountPath : String
  readOnly : Bool := false
  /-- A path inside the volume. -/
  subPath : Option String := none
deriving DecidableEq

structure PodVolume where
  name : String
  hostPath : Option String := none
deriving DecidableEq

structure HttpHeader where
  name : String
  value : String := ""
deriving DecidableEq

structure HttpGet where
  path : Option String := none
  /-- A number, or the name of a port of the container. -/
  port : Scalar := .null
  host : Option String := none
  scheme : Option String := none
  headers : List HttpHeader := []

structure LivenessProbe where
  exec : Option (List String) := none
  httpGet : Option HttpGet := none
  periodSeconds : Option Scalar := none
  timeoutSeconds : Option Scalar := none
  failureThreshold : Option Scalar := none

structure SecurityContext where
  privileged : Option Bool := none
  runAsUser : Option Scalar := none

structure ContainerSpec where
  name : String
  image : Option String := none
  command : List String := []
  args : List String := []
  workingDir : Option String := none
  env : List EnvVar := []
  ports : List ContainerPort := []
  volumeMounts : List VolumeMount := []
  livenessProbe : Option LivenessProbe := none
  securityContext : Option SecurityContext := none
  imagePullPolicy : Option String := none
  limits : Dict Scalar := ∅

structure Pod where
  kind : Option String := none
  name : Option String := none
  labels : Dict Scalar := ∅
  containers : List ContainerSpec := []
  volumes : List PodVolume := []
  hostname : Option String := none
  hostNetwork : Bool := false
  hostPid : Bool := false

/-! Reading from YAML. What is made of the nodes of scalar fields is a parameter: a record fits its
form or not whatever they hold. -/
open Yaml Yaml.Decode

section Reading
variable (scalar : Node → Decode Scalar)

def EnvVar.ofNodeWith : Node → Decode EnvVar :=
  record ["name", "value"] fun fs => do return {
    name := ← fs.required "name" string
    value := ← fs.withDefault "value" scalar .null }

def ContainerPort.ofNodeWith : Node → Decode ContainerPort :=
  record ["name", "hostIP", "hostPort", "containerPort", "protocol"] fun fs => do return {
    name := ← fs.optional "name" string
    hostIp := ← fs.optional "hostIP" string
    hostPort := ← fs.optional "hostPort" scalar
    containerPort := ← fs.withDefault "containerPort" scalar .null
    protocol := ← fs.optional "protocol" string }

def VolumeMount.ofNode : Node → Decode VolumeMount :=
  record ["name", "mountPath", "readOnly", "subPath"] fun fs => do return {
    name := ← fs.required "name" string
    mountPath := ← fs.required "mountPath" string
    readOnly := ← fs.flag "readOnly"
    subPath := ← fs.optional "subPath" string }

def PodVolume.ofNode : Node → Decode PodVolume :=
  record ["name", "hostPath"] fun fs => do return {
    name := ← fs.required "name" string
    hostPath := ← fs.optional "hostPath" (record ["path"] fun fs => fs.required "path" string) }

def HttpHeader.ofNode : Node → Decode HttpHeader :=
  record ["name", "value"] fun fs => do return {
    name := ← fs.required "name" string
    value := ← fs.withDefault "value" string "" }

def HttpGet.ofNodeWith : Node → Decode HttpGet :=
  record ["path", "port", "host", "scheme", "httpHeaders"] fun fs => do return {
    path := ← fs.optional "path" string
    port := ← fs.withDefault "port" scalar .null
    host := ← fs.optional "host" string
    scheme := ← fs.optional "scheme" string
    headers := ← fs.listOf "httpHeaders" HttpHeader.ofNode }

def LivenessProbe.ofNodeWith : Node → Decode LivenessProbe :=
  record ["exec", "httpGet", "periodSeconds", "timeoutSeconds", "failureThreshold"]
    fun fs => do return {
      exec := ← fs.optional "exec" (record ["command"] fun fs => fs.listOf "command" string)
      httpGet := ← fs.optional "httpGet" (HttpGet.ofNodeWith scalar)
      periodSeconds := ← fs.optional "periodSeconds" scalar
      timeoutSeconds := ← fs.optional "timeoutSeconds" scalar
      failureThreshold := ← fs.optional "failureThreshold" scalar }

def SecurityContext.ofNodeWith : Node → Decode SecurityContext :=
  record ["privileged", "runAsUser"] fun fs => do return {
    privileged := ← fs.optional "privileged" bool
    runAsUser := ← fs.optional "runAsUser" scalar }

/-- The limits of a resources section, whose requests have to fit the same form. -/
def resourcesWith : Node → Decode (Dict Scalar) :=
  record ["limits", "requests"] fun fs => do
    let limits ← fs.dictOf "limits" scalar
    let _ ← fs.dictOf "requests" scalar
    return limits

def ContainerSpec.fieldNames : List String := [
  "name", "image", "command", "args", "workingDir", "env", "ports", "volumeMounts",
  "livenessProbe", "securityContext", "imagePullPolicy", "resources"]

def ContainerSpec.ofNodeWith : Node → Decode ContainerSpec :=
  record fieldNames fun fs => do return {
    name := ← fs.required "name" string
    image := ← fs.optional "image" string
    command := ← fs.listOf "command" string
    args := ← fs.listOf "args" string
    workingDir := ← fs.optional "workingDir" string
    env := ← fs.listOf "env" (EnvVar.ofNodeWith scalar)
    ports := ← fs.listOf "ports" (ContainerPort.ofNodeWith scalar)
    volumeMounts := ← fs.listOf "volumeMounts" VolumeMount.ofNode
    livenessProbe := ← fs.optional "livenessProbe" (LivenessProbe.ofNodeWith scalar)
    securityContext := ← fs.optional "securityContext" (SecurityContext.ofNodeWith scalar)
    imagePullPolicy := ← fs.optional "imagePullPolicy" string
    limits := ← fs.withDefault "resources" (resourcesWith scalar) ∅ }

def metadataWith (pod : Pod) : Node → Decode Pod :=
  record ["name", "labels"] fun fs => do return { pod with
    name := ← fs.optional "name" string
    labels := ← fs.dictOf "labels" scalar }

def specWith (pod : Pod) : Node → Decode Pod :=
  record ["containers", "volumes", "hostname", "hostNetwork", "hostPID"] fun fs => do
    return { pod with
      containers := ← fs.listOf "containers" (ContainerSpec.ofNodeWith scalar)
      volumes := ← fs.listOf "volumes" PodVolume.ofNode
      hostname := ← fs.optional "hostname" string
      hostNetwork := ← fs.flag "hostNetwork"
      hostPid := ← fs.flag "hostPID" }

def Pod.ofNodeWith : Node → Decode Pod :=
  record ["apiVersion", "kind", "metadata", "spec"] fun fs => do
    let _ ← fs.optional "apiVersion" string
    let pod : Pod := { kind := ← fs.optional "kind" string }
    let pod ← fs.withDefault "metadata" (metadataWith scalar pod) pod
    fs.withDefault "spec" (specWith scalar pod) pod

end Reading

def Pod.ofNode : Node → Decode Pod := Pod.ofNodeWith scalar

def Pod.parse? (text : String) : Option Pod := do
  Decode.run (← Document.parse? text) {} Pod.ofNode

theorem Pod.parse?_eq {text : String} {d : Document} (parsed : Document.parse? text = some d) :
    Pod.parse? text = Decode.run d {} Pod.ofNode := by
  rw [Pod.parse?, parsed]
  rfl

end Workload.Kube
