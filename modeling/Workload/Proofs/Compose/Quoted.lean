import Workload.Proofs.Compose.Ingest
import Workload.Proofs.Quoted

/-! Compose files with quoted numerals in the places of numbers describe the same groups. -/
namespace Workload.Compose

inductive LoggingSection.Quoted (l : LoggingSection) : LoggingSection → Prop
  | intro {options : Dict Scalar} (hoptions : l.options.Quoted options) : Quoted l { l with options }

inductive HealthSection.Quoted (h : HealthSection) : HealthSection → Prop
  | intro {retries : Option Scalar} (hretries : Option.Rel Scalar.Quoted h.retries retries) :
      Quoted h { h with retries }

inductive Service.Quoted (s : Service) : Service → Prop
  | intro {build environment labels : Option Value} {expose ports volumes : List Scalar}
      {cpuShares memLimit : Option Scalar} {healthcheck : Option HealthSection}
      {logging : Option LoggingSection}
      (hbuild : Option.Rel Value.BuildQuoted s.build build)
      (henvironment : Option.Rel Value.TableQuoted s.environment environment)
      (hlabels : Option.Rel Value.TableQuoted s.labels labels)
      (hexpose : List.Forall₂ Scalar.Quoted s.expose expose)
      (hports : List.Forall₂ Scalar.Quoted s.ports ports)
      (hvolumes : List.Forall₂ Scalar.Quoted s.volumes volumes)
      (hcpuShares : Option.Rel Scalar.Quoted s.cpuShares cpuShares)
      (hmemLimit : Option.Rel Scalar.Quoted s.memLimit memLimit)
      (hhealthcheck : Option.Rel HealthSection.Quoted s.healthcheck healthcheck)
      (hlogging : Option.Rel LoggingSection.Quoted s.logging logging) :
      Quoted s { s with
        build, environment, labels, expose, ports, volumes, cpuShares, memLimit, healthcheck
        logging }

structure File.Quoted (f g : File) : Prop where
  version : Option.Rel Scalar.Quoted f.version g.version
  services : List.Forall₂ (fun x y => x.1 = y.1 ∧ x.2.Quoted y.2)
    f.services.entries g.services.entries

section Scalars
variable {s t : Scalar}

theorem decodePort_quoted (h : s.Quoted t) : decodePort s = decodePort t := by
  unfold decodePort
  rw [h.toText_eq]

theorem decodeVolume_quoted (h : s.Quoted t) : decodeVolume s = decodeVolume t := by
  unfold decodeVolume
  rw [h.toText_eq]

theorem decodeExposed_quoted (h : s.Quoted t) : decodeExposed s = decodeExposed t := by
  cases h with
  | same s => rfl
  | number n =>
    have last : (Text.digits n.toNat).getLast? ≠ some 'p' :=
      fun hp => Text.not_mem_digits (by decide) _ (List.mem_of_getLast? hp)
    have tcp : Text.dropEnding? "/tcp" (Text.digits n.toNat) = none :=
      Text.dropEnding?_eq_none (by decide) last
    have udp : Text.dropEnding? "/udp" (Text.digits n.toNat) = none :=
      Text.dropEnding?_eq_none (by decide) last
    have text : decodeExposed (.text (numeral n.toNat)) =
        (Scalar.text (numeral n.toNat)).toUInt16 := by
      simp [decodeExposed, Scalar.toText, numeral, tcp, udp, bind, Except.bind]
    rw [text]
    exact (Scalar.Quoted.number n).toUInt16_eq

theorem decodeMemoryLimit_quoted (h : s.Quoted t) : decodeMemoryLimit s = decodeMemoryLimit t := by
  cases h with
  | same s => rfl
  | number n =>
    have text : decodeMemoryLimit (.text (numeral n.toNat)) =
        Quantity.byteSize (numeral n.toNat) := by
      simp [decodeMemoryLimit, Scalar.toText, bind, Except.bind]
    rw [text, Quantity.byteSize_numeral]
    rfl

end Scalars

theorem decodePairs_quoted {v w : Option Value} (h : Option.Rel Value.TableQuoted v w) :
    decodePairs v = decodePairs w :=
  congrArg (Except.map _) (option_mapM_congr h fun _ _ h => h.decode_eq)

theorem LoggingSection.Quoted.toLogging_eq {l m : LoggingSection} (h : l.Quoted m) :
    l.toLogging = m.toLogging := by
  obtain ⟨hoptions⟩ := h
  unfold toLogging
  rw [hoptions.texts_eq]

theorem HealthSection.Quoted.toCheck?_eq {h i : HealthSection} (quoted : h.Quoted i) :
    h.toCheck? = i.toCheck? := by
  obtain ⟨hretries⟩ := quoted
  have retries := option_mapM_congr hretries fun _ _ => Scalar.Quoted.toUInt32_eq
  unfold toCheck?
  rw [retries]

theorem Service.Quoted.readAlike {s t : Service} (h : s.Quoted t) : s.ReadAlike t := by
  obtain ⟨hbuild, henvironment, hlabels, hexpose, hports, hvolumes, hcpuShares, hmemLimit,
    hhealthcheck, hlogging⟩ := h
  refine .intro ?_ ?_ ?_ ?_ ?_ ?_ ?_ ?_ ?_ rfl rfl rfl rfl rfl rfl ?_
  · exact decodePairs_quoted henvironment
  · exact decodePairs_quoted hlabels
  · exact mapM_congr hports fun _ _ => decodePort_quoted
  · exact mapM_congr hvolumes fun _ _ => decodeVolume_quoted
  · exact mapM_congr hexpose fun _ _ => decodeExposed_quoted
  · exact option_mapM_congr hmemLimit fun _ _ => decodeMemoryLimit_quoted
  · exact option_mapM_congr hcpuShares fun _ _ => Scalar.Quoted.toUInt64_eq
  · exact option_mapM_congr hlogging fun _ _ => LoggingSection.Quoted.toLogging_eq
  · exact option_mapM_congr hhealthcheck fun _ _ => HealthSection.Quoted.toCheck?_eq
  · exact option_mapM_congr hbuild fun _ _ => Value.BuildQuoted.decode_eq

theorem File.Quoted.toGroup_eq {f g : File} (h : f.Quoted g) : f.toGroup = g.toGroup :=
  toGroup_congr (h.services.imp fun _ _ quoted => ⟨quoted.1, quoted.2.readAlike⟩)

end Workload.Compose
