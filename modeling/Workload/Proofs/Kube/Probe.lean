import Workload.Proofs.Containerwise

/-! The ports of probes. A name stands for the first port of that name that the container declares
itself, and a numeral stands for its number. -/
namespace Workload.Kube
open Text

def NotNumeral (name : String) : Prop := ∃ c ∈ name.toList, c.isDigit = false

theorem isPortName_iff {name : String} : isPortName name ↔ NotNumeral name := by
  have digits : name.toList.all Char.isDigit = false ↔ NotNumeral name := by
    simp [NotNumeral]
  rw [isPortName, Bool.and_eq_true, Bool.not_eq_true', Bool.not_eq_true', digits]
  refine and_iff_right_of_imp ?_
  rintro ⟨c, hc, _⟩
  rw [← Bool.not_eq_true, String.isEmpty_iff]
  rintro rfl
  cases hc

/-- A port that is written as a number, quoted or not. -/
inductive Numeric : Scalar → Nat → Prop
  | number (n : UInt64) : Numeric (.int n) n.toNat
  | digits {s : String} (h : isDigits s.toList) : Numeric (.text s) (ofDigits s.toList)

section Ports
variable {declared : List ContainerPort} {port : Scalar} {name : String} {v : Nat}

theorem probePort_name (named : NotNumeral name) :
    probePort declared (.text name) = (declared.find? (·.name == some name)).elim
      (.error (.unknownPortName name)) (·.containerPort.toUInt16) := by
  rw [probePort, if_pos (isPortName_iff.2 named)]
  cases declared.find? (·.name == some name) <;> rfl

theorem probePort_unknown (named : NotNumeral name)
    (undeclared : ∀ p ∈ declared, p.name ≠ some name) :
    probePort declared (.text name) = .error (.unknownPortName name) := by
  have none : declared.find? (·.name == some name) = none := by
    simpa using undeclared
  rw [probePort_name named, none, Option.elim_none]

theorem find?_mapping {mappings : List PortMapping} {n : UInt16} (named : NotNumeral name)
    (read : declared.mapM ContainerPort.toMapping = .ok mappings)
    (found : probePort declared (.text name) = .ok n) :
    ∃ m, mappings.find? (·.name == some name) = some m ∧ n = m.containerPort := by
  have fields {p : ContainerPort} {m : PortMapping} (read : p.toMapping = .ok m) :
      p.name = m.name ∧ p.containerPort.toUInt16 = .ok m.containerPort := by
    simp only [ContainerPort.toMapping, bind_eq_ok_iff, pure_eq_ok_iff] at read
    obtain ⟨_, _, _, container, _, _, rfl⟩ := read
    exact ⟨rfl, container⟩
  have first := find?_rel (p := (·.name == some name)) (q := (·.name == some name))
    (fun _ _ read => by rw [(fields read).1]) (mapM_eq_ok_iff.1 read)
  rw [probePort_name named] at found
  generalize declared.find? (·.name == some name) = p,
    mappings.find? (·.name == some name) = m at first found
  cases first with
  | none => cases found
  | some read =>
    exact ⟨_, rfl, Except.ok.inj (found.symm.trans (fields read).2)⟩

theorem probePort_numeric (h : Numeric port v) : probePort declared port = port.toUInt16 := by
  cases h with
  | number => rfl
  | @digits s h =>
    have other : ¬isPortName s := by
      rw [isPortName_iff]
      rintro ⟨c, hc, noDigit⟩
      rw [isDigit_of_isDigits h c hc] at noDigit
      cases noDigit
    rw [probePort, if_neg other]

theorem toUInt16_of_toUInt64 {n : UInt64} (read : port.toUInt64 = .ok n) :
    port.toUInt16 = if n.toNat ≤ 65535 then .ok (.ofNat n.toNat)
      else .error (.invalidNumber (numeral n.toNat)) := by
  have size : n.toNat < UInt16.size ↔ n.toNat ≤ 65535 := Nat.lt_succ_iff
  rw [Scalar.toUInt16, Scalar.toNatBelow, read]
  simp only [bind, Except.bind, size]
  split <;> rfl

theorem toUInt64_text {s : String} (h : isDigits s.toList) :
    (Scalar.text s).toUInt64 = if ofDigits s.toList < UInt64.size
      then .ok (.ofNat (ofDigits s.toList)) else .error (.invalidNumber s) := by
  have trimmed : trim s.toList = s.toList := by
    refine trimWhile_of_trimmed (.of_all ?_)
    exact fun c hc => isBlank_of_isDigit (isDigit_of_isDigits h c hc)
  unfold Scalar.toUInt64
  dsimp only
  rw [trimmed, uint64?, unsignedBelow?_of_isDigits h]
  by_cases fits : ofDigits s.toList < UInt64.size
  · rw [if_pos fits, if_pos fits, Option.map_some]
  · rw [if_neg fits, if_neg fits, Option.map_none]

theorem Numeric.toUInt16_eq (h : Numeric port v) : ∃ value,
    port.toUInt16 = if v ≤ 65535 then .ok (.ofNat v) else .error (.invalidNumber value) := by
  cases h with
  | number n => exact ⟨_, toUInt16_of_toUInt64 rfl⟩
  | @digits s h =>
    have read := toUInt64_text h
    by_cases fits : ofDigits s.toList < UInt64.size
    · rw [if_pos fits] at read
      have number := toUInt16_of_toUInt64 read
      rw [UInt64.toNat_ofNat_of_lt' fits] at number
      exact ⟨_, number⟩
    · -- a number that is too wide for a scalar is refused by its text
      have beyond : ¬ofDigits s.toList ≤ 65535 := by
        have size : UInt64.size = 2 ^ 64 := rfl
        omega
      rw [if_neg fits] at read
      refine ⟨s, ?_⟩
      rw [if_neg beyond, Scalar.toUInt16, Scalar.toNatBelow, read]
      rfl

theorem probePort_eq_ok_iff (h : Numeric port v) {n : UInt16} :
    probePort declared port = .ok n ↔ n.toNat = v := by
  obtain ⟨value, read⟩ := h.toUInt16_eq
  rw [probePort_numeric h, read]
  by_cases fits : v ≤ 65535
  · rw [if_pos fits, Except.ok.injEq]
    constructor
    · rintro rfl
      exact UInt16.toNat_ofNat_of_lt' (Nat.lt_succ_of_le fits)
    · rintro rfl
      exact UInt16.ofNat_toNat
  · rw [if_neg fits]
    have bound := n.toNat_lt
    refine iff_of_false nofun ?_
    omega

theorem probePort_beyond (h : Numeric port v) (beyond : 65535 < v) :
    ∃ value, probePort declared port = .error (.invalidNumber value) := by
  obtain ⟨value, read⟩ := h.toUInt16_eq
  exact ⟨value, by rw [probePort_numeric h, read, if_neg (Nat.not_le.2 beyond)]⟩

end Ports

/-- The probe is a request: there is one, and no command that would come before it. -/
structure LivenessProbe.Requests (p : LivenessProbe) (request : HttpGet) : Prop where
  noCommand : ∀ args ∈ p.exec, args = []
  httpGet : p.httpGet = some request

namespace LivenessProbe.Requests
variable {p : LivenessProbe} {request : HttpGet} {declared : List ContainerPort}

theorem probe?_eq (h : p.Requests request) :
    p.probe? declared = (request.toProbe declared).map some := by
  have none : p.exec.bind Command.join = none := by
    cases exec : p.exec with
    | none => rfl
    | some args =>
      rw [h.noCommand args exec]
      rfl
  unfold LivenessProbe.probe?
  rw [none, h.httpGet]
  rfl

theorem exists_http_iff (h : p.Requests request) {n : UInt16} :
    (∃ http, p.probe? declared = .ok (some (.http http)) ∧ http.port = n) ↔
      probePort declared request.port = .ok n := by
  rw [h.probe?_eq, HttpGet.toProbe]
  cases probePort declared request.port with
  | error e =>
    refine iff_of_false ?_ nofun
    rintro ⟨_, read, _⟩
    cases read
  | ok m =>
    constructor
    · rintro ⟨_, read, rfl⟩
      cases read
      rfl
    · rintro read
      cases read
      exact ⟨_, rfl, rfl⟩

theorem exists_check (h : p.Requests request) {check : Option HealthCheck}
    (read : p.toCheck? declared = .ok check) :
    ∃ made http, check = some made ∧ made.probe = .http http ∧
      probePort declared request.port = .ok http.port := by
  obtain ⟨probe, made, read⟩ := bind_eq_ok_iff.1 read
  rw [h.probe?_eq, HttpGet.toProbe] at made
  cases port : probePort declared request.port with
  | error e =>
    rw [port] at made
    cases made
  | ok n =>
    rw [port] at made
    cases made
    simp only [bind_eq_ok_iff, pure_eq_ok_iff] at read
    obtain ⟨_, _, _, _, _, _, rfl⟩ := read
    exact ⟨_, _, rfl, rfl, rfl⟩

theorem toCheck?_eq_error (h : p.Requests request) {e : FieldError}
    (refused : probePort declared request.port = .error e) : p.toCheck? declared = .error e := by
  unfold LivenessProbe.toCheck?
  rw [h.probe?_eq, HttpGet.toProbe, refused]
  rfl

end LivenessProbe.Requests

section Containers
variable {s : ContainerSpec} {probe : LivenessProbe} {request : HttpGet}

theorem ContainerSpec.Decodes.exists_check {parts : ContainerSpec.Parts} (h : s.Decodes parts)
    (hprobe : s.livenessProbe = some probe) (requests : probe.Requests request)
    (table : VolumeTable) :
    ∃ check http, (s.assemble table parts).healthChecks = [check] ∧ check.probe = .http http ∧
      probePort s.ports request.port = .ok http.port := by
  have read := h.check
  rw [hprobe, Option.mapM_some] at read
  obtain ⟨check, read, some⟩ := bind_eq_ok_iff.1 read
  obtain ⟨made, http, rfl, isHttp, port⟩ := requests.exists_check read
  refine ⟨made, http, ?_, isHttp, port⟩
  rw [ContainerSpec.assemble, ← pure_eq_ok_iff.1 some]
  rfl

/-- What comes before the probe of a container can be read. -/
structure ContainerSpec.ReachesProbe (s : ContainerSpec) : Prop where
  environment : ∃ environment, s.env.mapM EnvVar.toPair = .ok environment
  ports : ∃ ports, s.ports.mapM ContainerPort.toMapping = .ok ports

theorem ContainerSpec.toContainer_eq_error (reaches : s.ReachesProbe)
    (hprobe : s.livenessProbe = some probe) (requests : probe.Requests request) {e : FieldError}
    (refused : probePort s.ports request.port = .error e) (table : VolumeTable) :
    s.toContainer table = .error (.fieldDecode formatName s.name "livenessProbe" e) := by
  obtain ⟨environment, henvironment⟩ := reaches.environment
  obtain ⟨ports, hports⟩ := reaches.ports
  unfold toContainer
  dsimp only
  rw [henvironment, hports, hprobe, Option.mapM_some, requests.toCheck?_eq_error refused]
  rfl

end Containers

section Pods
variable {p : Pod} {s : ContainerSpec} {probe : LivenessProbe} {request : HttpGet}

theorem Pod.passes_of_ok {g : Group} (read : p.toGroup = .ok g) : reading.Passes p := by
  rw [passes_iff, read]
  nofun

theorem Pod.exists_decodes {g : Group} (read : p.toGroup = .ok g) (mem : s ∈ p.containers) :
    ∃ parts, s.Decodes parts ∧ g.container? s.name =
      some { s.assemble p.volumeTable parts with hostname := p.hostname } := by
  have passes := Pod.passes_of_ok read
  obtain ⟨parts, decodes⟩ := ((Reading.ok_iff passes).1 ⟨g, read⟩).1 s mem
  have made : s.readIn ⟨p.volumeTable, p.hostname⟩ =
      .ok { s.assemble p.volumeTable parts with hostname := p.hostname } :=
    ContainerSpec.readIn_eq_ok_iff.2 ⟨parts, decodes, rfl⟩
  exact ⟨parts, decodes, Reading.container?_eq_some passes read mem made⟩

/-- The pod is read up to the probe of this container. -/
structure Pod.Reaches (p : Pod) (s : ContainerSpec) : Prop extends s.ReachesProbe where
  passes : p.Passes
  earlier : ∃ before after, p.containers = before ++ s :: after ∧
    ∀ t ∈ before, ∃ parts, t.Decodes parts

theorem Pod.Reaches.toGroup_eq_error (h : p.Reaches s) (hprobe : s.livenessProbe = some probe)
    (requests : probe.Requests request) {e : FieldError}
    (refused : probePort s.ports request.port = .error e) :
    p.toGroup = .error (.fieldDecode formatName s.name "livenessProbe" e) := by
  obtain ⟨before, after, split, decodes⟩ := h.earlier
  have failed : s.readIn ⟨p.volumeTable, p.hostname⟩ =
      .error (.fieldDecode formatName s.name "livenessProbe" e) := by
    rw [ContainerSpec.readIn,
      ContainerSpec.toContainer_eq_error h.toReachesProbe hprobe requests refused]
    rfl
  exact Reading.toGroup_eq_error (r := reading) h.passes split decodes failed

end Pods

/-- The port of an HTTP probe that no command comes before. In a pod that is read the container has
one check, a request to the first port of that name among its own, or to that number. A name that
the container does not declare is refused as such, whatever other containers declare, and so is a
number beyond 16 bits; only what comes before the probe in the pod can be refused in its place. -/
theorem probe_port_exact (p : Pod) (s : ContainerSpec) (probe : LivenessProbe) (request : HttpGet)
    (hprobe : s.livenessProbe = some probe) (requests : probe.Requests request) :
    (∀ g, p.toGroup = .ok g → s ∈ p.containers →
      ∃ c check http, g.container? s.name = some c ∧ c.healthChecks = [check] ∧
        check.probe = .http http ∧
        (∀ name, request.port = .text name → NotNumeral name →
          ∃ m, c.ports.find? (·.name == some name) = some m ∧ http.port = m.containerPort) ∧
        ∀ v, Numeric request.port v → http.port.toNat = v) ∧
    (p.Reaches s →
      (∀ name, request.port = .text name → NotNumeral name →
        (∀ declared ∈ s.ports, declared.name ≠ some name) →
        p.toGroup =
          .error (.fieldDecode formatName s.name "livenessProbe" (.unknownPortName name))) ∧
      ∀ v, Numeric request.port v → 65535 < v → ∃ value, p.toGroup =
        .error (.fieldDecode formatName s.name "livenessProbe" (.invalidNumber value))) ∧
    (∀ v, Numeric request.port v →
      ((∃ http, probe.probe? s.ports = .ok (some (.http http)) ∧ http.port.toNat = v) ↔
        v ≤ 65535)) ∧
    (¬p.Passes → ∃ flaw, p.toGroup = .error (.structural formatName flaw)) := by
  refine ⟨?ingested, ?refused, ?number, Pod.exists_structural_of_not_passes⟩
  case ingested =>
    intro g read mem
    obtain ⟨parts, decodes, found⟩ := Pod.exists_decodes read mem
    obtain ⟨check, http, one, isHttp, port⟩ := decodes.exists_check hprobe requests p.volumeTable
    refine ⟨_, check, http, found, one, isHttp, ?_, ?_⟩
    · intro name written named
      rw [written] at port
      exact find?_mapping named decodes.ports port
    · exact fun v numeric => (probePort_eq_ok_iff numeric).1 port
  case refused =>
    intro reaches
    constructor
    · intro name written named undeclared
      refine reaches.toGroup_eq_error hprobe requests ?_
      rw [written]
      exact probePort_unknown named undeclared
    · intro v numeric beyond
      obtain ⟨value, refused⟩ := probePort_beyond numeric beyond
      exact ⟨value, reaches.toGroup_eq_error hprobe requests refused⟩
  case number =>
    intro v numeric
    constructor
    · rintro ⟨http, _, rfl⟩
      exact Nat.le_of_lt_succ http.port.toNat_lt
    · intro fits
      have same : (UInt16.ofNat v).toNat = v :=
        UInt16.toNat_ofNat_of_lt' (Nat.lt_succ_of_le fits)
      have value : probePort s.ports request.port = .ok (.ofNat v) :=
        (probePort_eq_ok_iff numeric).2 same
      obtain ⟨http, read, port⟩ := requests.exists_http_iff.2 value
      exact ⟨http, read, port ▸ same⟩

def requestAtHttp : HttpGet where
  port := .text "http"

def probedSpec (declared : List ContainerPort) : ContainerSpec where
  name := "web"
  ports := declared
  livenessProbe := some { httpGet := some requestAtHttp }

/-- The pod of that container and of another one that has a port of that name. -/
def probedPod (declared : List ContainerPort) : Pod where
  containers := [
    { name := "api", ports := [{ name := some "http", containerPort := .int 80 }] },
    probedSpec declared]

def probedPorts : List ContainerPort := [
  { name := some "http", containerPort := .text "8080" },
  { name := some "http", containerPort := .int 9090 }]

def probedGroup : Group where
  containers := [
    { name := "api", ports := [{ containerPort := 80, name := some "http" }] },
    { name := "web"
      ports := [{ containerPort := 8080, name := some "http" },
        { containerPort := 9090, name := some "http" }]
      healthChecks := [{ probe := .http { port := 8080 } }] }]

theorem toGroup_probedPod : (probedPod probedPorts).toGroup = .ok probedGroup := by
  have order : sortContainers probedGroup.containers = probedGroup.containers :=
    sortContainers_of_ascending (by decide)
  have finished := Group.finish_of_nodup formatName (g := probedGroup) (by decide)
  rw [order] at finished
  exact Pod.toGroup_eq_ok_iff.2 ⟨nofun, ∅, rfl, probedGroup.containers, rfl, finished⟩

theorem reaches_probedPod : (probedPod []).Reaches (probedSpec []) where
  environment := ⟨[], rfl⟩
  ports := ⟨[], rfl⟩
  passes := ⟨nofun, ∅, rfl⟩
  earlier := by
    refine ⟨[_], [], rfl, ?_⟩
    simp only [List.mem_singleton, forall_eq]
    exact ⟨⟨[], _, none, none, none, none⟩, rfl, rfl, rfl, rfl, rfl, rfl⟩

theorem probe_port_exact_http :
    NotNumeral "http" ∧ (probedPod probedPorts).toGroup = .ok probedGroup ∧
    (∃ c check http, probedGroup.container? "web" = some c ∧ c.healthChecks = [check] ∧
      check.probe = .http http ∧
      ∃ m, c.ports.find? (·.name == some "http") = some m ∧ http.port = m.containerPort) ∧
    (probedPod []).Reaches (probedSpec []) ∧
    (probedPod []).toGroup =
      .error (.fieldDecode "k8s" "web" "livenessProbe" (.unknownPortName "http")) := by
  have named : NotNumeral "http" := ⟨'h', by decide, by decide⟩
  have requests : LivenessProbe.Requests { httpGet := some requestAtHttp } requestAtHttp :=
    ⟨nofun, rfl⟩
  have read := (probe_port_exact (probedPod probedPorts) (probedSpec probedPorts) _ _ rfl
    requests).1 _ toGroup_probedPod (by simp [probedPod])
  have refused := (probe_port_exact (probedPod []) (probedSpec []) _ _ rfl
    requests).2.1 reaches_probedPod
  obtain ⟨c, check, http, found, one, isHttp, port, _⟩ := read
  exact ⟨named, toGroup_probedPod, ⟨c, check, http, found, one, isHttp, port "http" rfl named⟩,
    reaches_probedPod, refused.1 "http" rfl named (by simp [probedSpec])⟩

end Workload.Kube
