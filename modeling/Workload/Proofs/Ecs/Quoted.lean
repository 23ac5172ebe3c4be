import Workload.Ecs.Ingest
import Workload.Proofs.Quoted

/-! Task definitions with quoted numerals in the places of numbers describe the same groups. -/
namespace Workload.Ecs

inductive Variable.Quoted (x : Variable) : Variable → Prop
  | intro {value : Scalar} (hvalue : x.value.Quoted value) : Quoted x { x with value }

inductive LogConfiguration.Quoted (l : LogConfiguration) : LogConfiguration → Prop
  | intro {options : Dict Scalar} (hoptions : l.options.Quoted options) : Quoted l { l with options }

inductive Port.Quoted (p : Port) : Port → Prop
  | intro {hostPort : Option Scalar} {containerPort : Scalar}
      (hhostPort : Option.Rel Scalar.Quoted p.hostPort hostPort)
      (hcontainerPort : p.containerPort.Quoted containerPort) :
      Quoted p { p with hostPort, containerPort }

inductive CheckDefinition.Quoted (h : CheckDefinition) : CheckDefinition → Prop
  | intro {interval timeout retries : Option Scalar}
      (hinterval : Option.Rel Scalar.Quoted h.interval interval)
      (htimeout : Option.Rel Scalar.Quoted h.timeout timeout)
      (hretries : Option.Rel Scalar.Quoted h.retries retries) :
      Quoted h { h with interval, timeout, retries }

inductive ContainerDefinition.Quoted (d : ContainerDefinition) : ContainerDefinition → Prop
  | intro {cpu memory : Option Scalar} {dockerLabels : Dict Scalar} {environment : List Variable}
      {healthCheck : Option CheckDefinition} {logConfiguration : Option LogConfiguration}
      {portMappings : List Port}
      (hcpu : Option.Rel Scalar.Quoted d.cpu cpu)
      (hmemory : Option.Rel Scalar.Quoted d.memory memory)
      (hdockerLabels : d.dockerLabels.Quoted dockerLabels)
      (henvironment : List.Forall₂ Variable.Quoted d.environment environment)
      (hhealthCheck : Option.Rel CheckDefinition.Quoted d.healthCheck healthCheck)
      (hlogConfiguration :
        Option.Rel LogConfiguration.Quoted d.logConfiguration logConfiguration)
      (hportMappings : List.Forall₂ Port.Quoted d.portMappings portMappings) :
      Quoted d { d with
        cpu, memory, dockerLabels, environment, healthCheck, logConfiguration, portMappings }

inductive TaskDefinition.Quoted (t : TaskDefinition) : TaskDefinition → Prop
  | intro {containerDefinitions : List ContainerDefinition}
      (hdefinitions :
        List.Forall₂ ContainerDefinition.Quoted t.containerDefinitions containerDefinitions) :
      Quoted t { t with containerDefinitions }

theorem Variable.Quoted.toPair_eq {x y : Variable} (h : x.Quoted y) : x.toPair = y.toPair := by
  obtain ⟨hvalue⟩ := h
  unfold toPair
  rw [hvalue.toText_eq]

theorem LogConfiguration.Quoted.toLogging_eq {l m : LogConfiguration} (h : l.Quoted m) :
    l.toLogging = m.toLogging := by
  obtain ⟨hoptions⟩ := h
  unfold toLogging
  rw [hoptions.texts_eq]

theorem Port.Quoted.toMapping_eq {p q : Port} (h : p.Quoted q) : p.toMapping = q.toMapping := by
  obtain ⟨hhostPort, hcontainerPort⟩ := h
  unfold toMapping
  rw [option_mapM_congr hhostPort fun _ _ => Scalar.Quoted.toUInt16_eq, hcontainerPort.toUInt16_eq]

theorem CheckDefinition.Quoted.toCheck?_eq {h i : CheckDefinition} (quoted : h.Quoted i) :
    h.toCheck? = i.toCheck? := by
  obtain ⟨hinterval, htimeout, hretries⟩ := quoted
  unfold toCheck?
  rw [option_mapM_congr hinterval fun _ _ => Scalar.Quoted.toUInt32_eq,
    option_mapM_congr htimeout fun _ _ => Scalar.Quoted.toUInt32_eq,
    option_mapM_congr hretries fun _ _ => Scalar.Quoted.toUInt32_eq]

theorem ContainerDefinition.Quoted.toContainer_eq {d e : ContainerDefinition} (h : d.Quoted e)
    (table : VolumeTable) : d.toContainer table = e.toContainer table := by
  obtain ⟨hcpu, hmemory, hdockerLabels, henvironment, hhealthCheck, hlogConfiguration,
    hportMappings⟩ := h
  unfold toContainer
  dsimp only
  rw [mapM_congr henvironment fun _ _ => Variable.Quoted.toPair_eq, hdockerLabels.texts_eq,
    mapM_congr hportMappings fun _ _ => Port.Quoted.toMapping_eq,
    option_mapM_congr hmemory fun _ _ => Scalar.Quoted.toUInt64_eq,
    option_mapM_congr hcpu fun _ _ => Scalar.Quoted.toUInt64_eq,
    option_mapM_congr hlogConfiguration fun _ _ => LogConfiguration.Quoted.toLogging_eq,
    option_mapM_congr hhealthCheck fun _ _ => CheckDefinition.Quoted.toCheck?_eq]

theorem TaskDefinition.Quoted.toGroup_eq {t u : TaskDefinition} (h : t.Quoted u) :
    t.toGroup = u.toGroup := by
  obtain ⟨hdefinitions⟩ := h
  unfold toGroup
  refine congrArg (· >>= _) (mapM_congr hdefinitions ?_)
  intro d e quoted
  rw [quoted.toContainer_eq]
  rfl

end Workload.Ecs
