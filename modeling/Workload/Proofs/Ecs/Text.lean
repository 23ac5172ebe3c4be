import Workload.Ecs.Emit
import Workload.Proofs.Json.Record

/-! The text of a task definition is read back as the definition that was written. -/
namespace Workload

/-- Numbers and texts. Other scalars are written as null, which is not what they are read from. -/
inductive Scalar.Definite : Scalar → Prop
  | int (n : UInt64) : Definite (.int n)
  | text (s : String) : Definite (.text s)

namespace Ecs
open Json Fields

@[simp] theorem plain_scalar (s : Scalar) : Plain s.toJson := by
  cases s with
  | int n => exact .natural n
  | text s => exact .string s
  | null => exact .null
  | unsupported found => exact .null

@[simp] theorem Variable.plain_toJson (x : Variable) : Plain x.toJson := .object (by simp)

@[simp] theorem EnvironmentFile.plain_toJson (f : EnvironmentFile) : Plain f.toJson :=
  .object (by simp)

@[simp] theorem LogConfiguration.plain_toJson (l : LogConfiguration) : Plain l.toJson :=
  plain_compactObject (by simp)

@[simp] theorem Port.plain_toJson (p : Port) : Plain p.toJson := plain_compactObject (by simp)

@[simp] theorem MountPoint.plain_toJson (m : MountPoint) : Plain m.toJson :=
  plain_compactObject (by simp)

@[simp] theorem VolumeFrom.plain_toJson (f : VolumeFrom) : Plain f.toJson :=
  plain_compactObject (by simp)

@[simp] theorem CheckDefinition.plain_toJson (h : CheckDefinition) : Plain h.toJson :=
  plain_compactObject (by simp [strings])

@[simp] theorem VolumeHost.plain_toJson (h : VolumeHost) : Plain h.toJson :=
  plain_compactObject (by simp)

@[simp] theorem TaskVolume.plain_toJson (t : TaskVolume) : Plain t.toJson :=
  plain_compactObject (by simp)

@[simp] theorem Tag.plain_toJson (t : Tag) : Plain t.toJson := .object (by simp)

@[simp] theorem ContainerDefinition.plain_toJson (d : ContainerDefinition) : Plain d.toJson :=
  plain_compactObject (by simp)

theorem TaskDefinition.plain_toJson (t : TaskDefinition) : Plain t.toJson :=
  plain_compactObject (by simp)

/-! What is written of a record is read back as that record, if its scalar fields are definite. -/

theorem restoresAt_scalar {s : Scalar} (h : s.Definite) :
    RestoresAt Scalar.ofJson? Scalar.toJson s := by
  cases h with
  | int | text => exact ⟨rfl, nofun⟩

theorem Variable.restoresAt {x : Variable} (h : x.value.Definite) :
    RestoresAt (ofJsonWith? Scalar.ofJson?) toJson x where
  ne_null := nofun
  read_write := by
    obtain ⟨name, value⟩ := x
    cases h with
    | int | text => rfl

@[simp] theorem EnvironmentFile.restores : Restores ofJson? EnvironmentFile.toJson where
  ne_null _ := nofun
  plain := plain_toJson
  read_write _ := rfl

@[simp] theorem MountPoint.restores : Restores ofJson? MountPoint.toJson where
  ne_null _ := nofun
  plain := plain_toJson
  read_write m := by
    refine bind_record?_compactObject rfl (by decide) fun fs found => ?_
    simp only [List.forall_mem_cons, fst_member, fst_flagMember] at found
    simp [found, required_eq, flag_eq]

@[simp] theorem VolumeFrom.restores : Restores ofJson? VolumeFrom.toJson where
  ne_null _ := nofun
  plain := plain_toJson
  read_write f := by
    refine bind_record?_compactObject rfl (by decide) fun fs found => ?_
    simp only [List.forall_mem_cons, fst_member, fst_flagMember] at found
    simp [found, required_eq, flag_eq]

@[simp] theorem VolumeHost.restores : Restores ofJson? VolumeHost.toJson where
  ne_null _ := nofun
  plain := plain_toJson
  read_write h := by
    refine bind_record?_compactObject rfl (by decide) fun fs found => ?_
    simp only [List.forall_mem_cons, fst_optionalMember] at found
    simp [found, optional_eq]

@[simp] theorem TaskVolume.restores : Restores ofJson? TaskVolume.toJson where
  ne_null _ := nofun
  plain := plain_toJson
  read_write t := by
    refine bind_record?_compactObject rfl (by decide) fun fs found => ?_
    simp only [List.forall_mem_cons, fst_member, fst_optionalMember] at found
    simp [found, required_eq, optional_eq]

@[simp] theorem Tag.restores : Restores ofJson? Tag.toJson where
  ne_null _ := nofun
  plain := plain_toJson
  read_write _ := rfl

theorem LogConfiguration.restoresAt {l : LogConfiguration}
    (h : ∀ e ∈ l.options.entries, e.2.Definite) :
    RestoresAt (ofJsonWith? Scalar.ofJson?) toJson l where
  ne_null := nofun
  read_write := by
    have options := RestoresAt.dictMember fun e he => restoresAt_scalar (h e he)
    refine bind_record?_compactObject rfl (by decide) fun fs found => ?_
    simp only [List.forall_mem_cons, fst_member, fst_dictMember] at found
    simp [found, withDefault_eq, dictOf_eq, options]

structure Port.Definite (p : Port) : Prop where
  host : ∀ s ∈ p.hostPort, s.Definite
  container : p.containerPort.Definite

theorem Port.restoresAt {p : Port} (h : p.Definite) :
    RestoresAt (ofJsonWith? Scalar.ofJson?) toJson p where
  ne_null := nofun
  read_write := by
    have host := RestoresAt.optionalMember fun s hs => restoresAt_scalar (h.host s hs)
    have container := (restoresAt_scalar h.container).read_write
    refine bind_record?_compactObject rfl (by decide) fun fs found => ?_
    simp only [List.forall_mem_cons, fst_member, fst_optionalMember] at found
    simp [found, withDefault_eq, optional_eq, host, container]

structure CheckDefinition.Definite (c : CheckDefinition) : Prop where
  interval : ∀ s ∈ c.interval, s.Definite
  timeout : ∀ s ∈ c.timeout, s.Definite
  retries : ∀ s ∈ c.retries, s.Definite

theorem CheckDefinition.restoresAt {c : CheckDefinition} (h : c.Definite) :
    RestoresAt (ofJsonWith? Scalar.ofJson?) toJson c where
  ne_null := nofun
  read_write := by
    have interval := RestoresAt.optionalMember fun s hs => restoresAt_scalar (h.interval s hs)
    have timeout := RestoresAt.optionalMember fun s hs => restoresAt_scalar (h.timeout s hs)
    have retries := RestoresAt.optionalMember fun s hs => restoresAt_scalar (h.retries s hs)
    refine bind_record?_compactObject rfl (by decide) fun fs found => ?_
    simp only [List.forall_mem_cons, fst_member, fst_optionalMember] at found
    simp [found, listOf_eq, optional_eq, interval, timeout, retries, strings, Restores.string.list]

structure ContainerDefinition.Definite (d : ContainerDefinition) : Prop where
  cpu : ∀ s ∈ d.cpu, s.Definite
  dockerLabels : ∀ e ∈ d.dockerLabels.entries, e.2.Definite
  environment : ∀ x ∈ d.environment, x.value.Definite
  healthCheck : ∀ c ∈ d.healthCheck, c.Definite
  logOptions : ∀ l ∈ d.logConfiguration, ∀ e ∈ l.options.entries, e.2.Definite
  memory : ∀ s ∈ d.memory, s.Definite
  portMappings : ∀ p ∈ d.portMappings, p.Definite

theorem ContainerDefinition.restoresAt {d : ContainerDefinition} (h : d.Definite) :
    RestoresAt (ofJsonWith? Scalar.ofJson?) toJson d where
  ne_null := nofun
  read_write := by
    have cpu := RestoresAt.optionalMember fun s hs => restoresAt_scalar (h.cpu s hs)
    have labels := RestoresAt.dictMember fun e he => restoresAt_scalar (h.dockerLabels e he)
    have environment := RestoresAt.listMember fun x hx => Variable.restoresAt (h.environment x hx)
    have check :=
      RestoresAt.optionalMember fun c hc => CheckDefinition.restoresAt (h.healthCheck c hc)
    have logging :=
      RestoresAt.optionalMember fun l hl => LogConfiguration.restoresAt (h.logOptions l hl)
    have memory := RestoresAt.optionalMember fun s hs => restoresAt_scalar (h.memory s hs)
    have ports := RestoresAt.listMember fun p hp => Port.restoresAt (h.portMappings p hp)
    refine bind_record?_compactObject rfl (by decide) fun fs found => ?_
    simp only [List.forall_mem_cons, fst_member, fst_optionalMember, fst_listMember,
      fst_dictMember, fst_flagMember] at found
    simp [found, withDefault_eq, optional_eq, listOf_eq, dictOf_eq, flag_eq, cpu, labels,
      environment, check, logging, memory, ports]

theorem TaskDefinition.ofJson?_toJson {t : TaskDefinition}
    (h : ∀ d ∈ t.containerDefinitions, d.Definite) : ofJson? t.toJson = some t := by
  have definitions := RestoresAt.list fun d hd => ContainerDefinition.restoresAt (h d hd)
  refine bind_record?_compactObject rfl (by decide) fun fs found => ?_
  simp only [List.forall_mem_cons, fst_member, fst_optionalMember, fst_listMember] at found
  simp [found, withDefault_eq, optional_eq, listOf_eq, definitions, TaskVolume.restores.list]

/-! The definition of a group has numbers and texts only. -/

theorem definite_of_map_int {α : Type} {number : α → UInt64} {o : Option α} :
    ∀ s ∈ o.map (Scalar.int <| number ·), s.Definite := by
  intro s hs
  obtain ⟨a, -, rfl⟩ := Option.map_eq_some_iff.1 hs
  exact .int (number a)

theorem definite_of_map_text {d : Dict String} : ∀ e ∈ (d.map Scalar.text).entries, e.2.Definite := by
  intro e he
  obtain ⟨e, -, rfl⟩ := List.mem_map.1 he
  exact .text e.2

theorem Port.definite_ofMapping (p : PortMapping) : (Port.ofMapping p).Definite where
  container := .int _
  host := by
    intro s hs
    unfold ofMapping at hs
    split at hs <;> cases hs
    exact .int _

theorem CheckDefinition.definite_ofChecks? {checks : List HealthCheck} :
    ∀ c ∈ ofChecks? checks, c.Definite := by
  intro c hc
  obtain ⟨check, -, hc⟩ := Option.bind_eq_some_iff.1 hc
  obtain ⟨command, -, hc⟩ := Option.bind_eq_some_iff.1 hc
  cases hc
  exact ⟨definite_of_map_int, definite_of_map_int, definite_of_map_int⟩

theorem ContainerDefinition.definite_ofContainer (c : Container) (points : List MountPoint) :
    (ofContainer c points).Definite where
  cpu := definite_of_map_int
  dockerLabels := definite_of_map_text
  environment := by
    intro x hx
    obtain ⟨e, -, rfl⟩ := List.mem_map.1 hx
    exact .text e.2
  healthCheck := CheckDefinition.definite_ofChecks?
  logOptions := by
    intro l hl
    obtain ⟨l, -, rfl⟩ := Option.map_eq_some_iff.1 hl
    exact definite_of_map_text
  memory := by
    rintro s ⟨⟩
    exact .int _
  portMappings := by
    intro p hp
    obtain ⟨p, -, rfl⟩ := List.mem_map.1 hp
    exact Port.definite_ofMapping p

theorem definite_define (table : VolumeTable) (cs : List Container) :
    ∀ d ∈ (define table cs).1, d.Definite := by
  induction cs generalizing table with
  | nil => exact List.forall_mem_nil _
  | cons c cs ih =>
    exact List.forall_mem_cons.2 ⟨ContainerDefinition.definite_ofContainer c _, ih _⟩

/-- The text of a task definition is read back as the definition that was written. -/
theorem read_emit (indent : Nat) (g : Group) :
    (Json.parse? (emit indent g)).bind TaskDefinition.ofJson? = some (.ofGroup g.canonical) := by
  have parsed : Json.parse? (emit indent g) = some (TaskDefinition.ofGroup g.canonical).toJson :=
    parse?_pretty (TaskDefinition.plain_toJson _) indent
  rw [parsed, Option.bind_some]
  exact TaskDefinition.ofJson?_toJson (definite_define .empty g.canonical.containers)

end Ecs
end Workload
