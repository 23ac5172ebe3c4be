import Workload.Kube.Ingest
import Workload.Proofs.Quoted

/-! Pod manifests with quoted numerals in the places of numbers describe the same groups. -/
namespace Workload.Kube

inductive EnvVar.Quoted (x : EnvVar) : EnvVar → Prop
  | intro {value : Scalar} (hvalue : x.value.Quoted value) : Quoted x { x with value }

inductive ContainerPort.Quoted (p : ContainerPort) : ContainerPort → Prop
  | intro {hostPort : Option Scalar} {containerPort : Scalar}
      (hhostPort : Option.Rel Scalar.Quoted p.hostPort hostPort)
      (hcontainerPort : p.containerPort.Quoted containerPort) :
      Quoted p { p with hostPort, containerPort }

inductive HttpGet.Quoted (h : HttpGet) : HttpGet → Prop
  | intro {port : Scalar} (hport : h.port.Quoted port) : Quoted h { h with port }

inductive LivenessProbe.Quoted (p : LivenessProbe) : LivenessProbe → Prop
  | intro {httpGet : Option HttpGet} {periodSeconds timeoutSeconds failureThreshold : Option Scalar}
      (hhttpGet : Option.Rel HttpGet.Quoted p.httpGet httpGet)
      (hperiod : Option.Rel Scalar.Quoted p.periodSeconds periodSeconds)
      (htimeout : Option.Rel Scalar.Quoted p.timeoutSeconds timeoutSeconds)
      (hthreshold : Option.Rel Scalar.Quoted p.failureThreshold failureThreshold) :
      Quoted p { p with httpGet, periodSeconds, timeoutSeconds, failureThreshold }

inductive SecurityContext.Quoted (c : SecurityContext) : SecurityContext → Prop
  | intro {runAsUser : Option Scalar}
      (hrunAsUser : Option.Rel Scalar.Quoted c.runAsUser runAsUser) : Quoted c { c with runAsUser }

inductive ContainerSpec.Quoted (s : ContainerSpec) : ContainerSpec → Prop
  | intro {env : List EnvVar} {ports : List ContainerPort} {livenessProbe : Option LivenessProbe}
      {securityContext : Option SecurityContext} {limits : Dict Scalar}
      (henv : List.Forall₂ EnvVar.Quoted s.env env)
      (hports : List.Forall₂ ContainerPort.Quoted s.ports ports)
      (hlivenessProbe : Option.Rel LivenessProbe.Quoted s.livenessProbe livenessProbe)
      (hsecurityContext : Option.Rel SecurityContext.Quoted s.securityContext securityContext)
      (hlimits : s.limits.Quoted limits) :
      Quoted s { s with env, ports, livenessProbe, securityContext, limits }

inductive Pod.Quoted (p : Pod) : Pod → Prop
  | intro {labels : Dict Scalar} {containers : List ContainerSpec}
      (hlabels : p.labels.Quoted labels)
      (hcontainers : List.Forall₂ ContainerSpec.Quoted p.containers containers) :
      Quoted p { p with labels, containers }

theorem EnvVar.Quoted.toPair_eq {x y : EnvVar} (h : x.Quoted y) : x.toPair = y.toPair := by
  obtain ⟨hvalue⟩ := h
  unfold toPair
  rw [hvalue.toText_eq]

theorem ContainerPort.Quoted.toMapping_eq {p q : ContainerPort} (h : p.Quoted q) :
    p.toMapping = q.toMapping := by
  obtain ⟨hhostPort, hcontainerPort⟩ := h
  unfold toMapping
  rw [option_mapM_congr hhostPort fun _ _ => Scalar.Quoted.toUInt16_eq, hcontainerPort.toUInt16_eq]

section Probes
variable {ps qs : List ContainerPort}

/-- Names are never quoted, so both searches stop at the same port. -/
theorem find?_name_quoted (h : List.Forall₂ ContainerPort.Quoted ps qs) (name : String) :
    Option.Rel ContainerPort.Quoted (ps.find? (·.name == some name))
      (qs.find? (·.name == some name)) := by
  refine find?_rel ?_ h
  rintro p _ ⟨_, _⟩
  rfl

theorem isPortName_numeral (n : Nat) : isPortName (numeral n) = false := by
  have digits : (Text.digits n).all Char.isDigit = true := by
    rw [List.all_eq_true]
    exact fun _ => Text.isDigit_of_mem_digits
  rw [isPortName, numeral, String.toList_ofList, digits, Bool.not_true, Bool.and_false]

theorem probePort_quoted (declared : List.Forall₂ ContainerPort.Quoted ps qs) {s t : Scalar}
    (h : s.Quoted t) : probePort ps s = probePort qs t := by
  cases h with
  | number n =>
    have numeric : probePort qs (.text (numeral n.toNat)) =
        (Scalar.text (numeral n.toNat)).toUInt16 := by
      simp [probePort, isPortName_numeral]
    rw [numeric]
    exact (Scalar.Quoted.number n).toUInt16_eq
  | same s => cases s with
    | int | null | unsupported => rfl
    | text name =>
      have found := find?_name_quoted declared name
      unfold probePort
      dsimp only
      generalize ps.find? (·.name == some name) = p, qs.find? (·.name == some name) = q at found
      cases found with
      | none => rfl
      | some quoted =>
        obtain ⟨_, hcontainerPort⟩ := quoted
        dsimp only
        rw [hcontainerPort.toUInt16_eq]

theorem HttpGet.Quoted.toProbe_eq (declared : List.Forall₂ ContainerPort.Quoted ps qs)
    {h i : HttpGet} (quoted : h.Quoted i) : h.toProbe ps = i.toProbe qs := by
  obtain ⟨hport⟩ := quoted
  unfold toProbe
  rw [probePort_quoted declared hport]

theorem LivenessProbe.Quoted.toCheck?_eq (declared : List.Forall₂ ContainerPort.Quoted ps qs)
    {p q : LivenessProbe} (h : p.Quoted q) : p.toCheck? ps = q.toCheck? qs := by
  obtain ⟨hhttpGet, hperiod, htimeout, hthreshold⟩ := h
  unfold toCheck? probe?
  dsimp only
  rw [option_mapM_congr hhttpGet fun _ _ => HttpGet.Quoted.toProbe_eq declared,
    option_mapM_congr hperiod fun _ _ => Scalar.Quoted.toUInt32_eq,
    option_mapM_congr htimeout fun _ _ => Scalar.Quoted.toUInt32_eq,
    option_mapM_congr hthreshold fun _ _ => Scalar.Quoted.toUInt32_eq]

end Probes

theorem limit_quoted {s t : Option Scalar} (h : Option.Rel Scalar.Quoted s t)
    (quantity : String → Except FieldError UInt64) : limit quantity s = limit quantity t := by
  refine option_mapM_congr h ?_
  intro s t quoted
  rw [quoted.toText_eq]

theorem security_quoted {c d : Option SecurityContext} (h : Option.Rel SecurityContext.Quoted c d) :
    (c.getD {}).privileged = (d.getD {}).privileged ∧
      (c.getD {}).runAsUser.mapM Scalar.toText = (d.getD {}).runAsUser.mapM Scalar.toText := by
  cases h with
  | none => exact ⟨rfl, rfl⟩
  | some quoted =>
    obtain ⟨hrunAsUser⟩ := quoted
    exact ⟨rfl, option_mapM_congr hrunAsUser fun _ _ => Scalar.Quoted.toText_eq⟩

theorem ContainerSpec.Quoted.toContainer_eq {s t : ContainerSpec} (h : s.Quoted t)
    (table : VolumeTable) : s.toContainer table = t.toContainer table := by
  obtain ⟨henv, hports, hlivenessProbe, hsecurityContext, hlimits⟩ := h
  obtain ⟨privileged, user⟩ := security_quoted hsecurityContext
  unfold toContainer
  dsimp only
  rw [mapM_congr henv fun _ _ => EnvVar.Quoted.toPair_eq,
    mapM_congr hports fun _ _ => ContainerPort.Quoted.toMapping_eq,
    option_mapM_congr hlivenessProbe fun _ _ => LivenessProbe.Quoted.toCheck?_eq hports,
    limit_quoted (hlimits.find?_rel "memory"), limit_quoted (hlimits.find?_rel "cpu"),
    privileged, user]

theorem Pod.Quoted.toGroup_eq {p q : Pod} (h : p.Quoted q) : p.toGroup = q.toGroup := by
  obtain @⟨labels, containers, hlabels, hcontainers⟩ := h
  have table : volumeTable { p with labels, containers } = p.volumeTable := rfl
  unfold toGroup
  dsimp only
  rw [hlabels.texts_eq, table, mapM_congr hcontainers]
  intro s t quoted
  rw [quoted.toContainer_eq]

end Workload.Kube
