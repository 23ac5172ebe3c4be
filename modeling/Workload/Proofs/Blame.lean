import Workload.Proofs.Compose.Ingest
import Workload.Proofs.Ecs.Ingest
import Workload.Proofs.Kube.Ingest

/-! What can go wrong with a document that fits the form of its format. An error names a container
of the document and one of its fields, or a name that is repeated. Pods may also have another kind,
or a collection among their labels, for which no container can be named. -/
namespace Workload
variable {α β : Type} {p : ConversionError → Prop}

def FailsOnly (p : ConversionError → Prop) (r : Except ConversionError α) : Prop :=
  ∀ e, r = .error e → p e

namespace FailsOnly

theorem ok (a : α) : FailsOnly p (.ok a) := nofun

theorem bind {r : Except ConversionError α} {f : α → Except ConversionError β}
    (h : FailsOnly p r) (next : ∀ a, r = .ok a → FailsOnly p (f a)) : FailsOnly p (r >>= f) := by
  intro e failed
  cases r with
  | error e' =>
    cases failed
    exact h e rfl
  | ok a => exact next a rfl e failed

theorem mapM {xs : List α} {f : α → Except ConversionError β} (h : ∀ x ∈ xs, FailsOnly p (f x)) :
    FailsOnly p (xs.mapM f) := by
  induction xs with
  | nil => exact ok []
  | cons x xs ih =>
    rw [List.mapM_cons]
    refine (h x List.mem_cons_self).bind fun y _ => ?_
    exact (ih fun x mem => h x (List.mem_cons_of_mem _ mem)).bind fun ys _ => ok (y :: ys)

theorem imp {q : ConversionError → Prop} {r : Except ConversionError α} (h : FailsOnly p r)
    (weaker : ∀ e, p e → q e) : FailsOnly q r :=
  fun e failed => weaker e (h e failed)

end FailsOnly

/-- The error is about one of the fields of one of the containers, or about a name of several. -/
inductive Accounted (format : String) (fields names : List String) : ConversionError → Prop
  | field {container field : String} (named : container ∈ names) (known : field ∈ fields)
      (reason : FieldError) :
      Accounted format fields names (.fieldDecode format container field reason)
  | repeated {name : String} (named : name ∈ names) (twice : ¬names.Nodup) :
      Accounted format fields names (.duplicateContainer format name)

theorem failsOnly_inField {format container field : String} {fields names : List String}
    {r : Except FieldError α} (named : container ∈ names) (known : field ∈ fields) :
    FailsOnly (Accounted format fields names) (inField format container field r) := by
  intro e failed
  cases r with
  | error reason =>
    cases failed
    exact .field named known reason
  | ok a => cases failed

theorem mem_of_repeatedName? {seen : List String} {cs : List Container} {name : String}
    (h : repeatedName? seen cs = some name) : name ∈ cs.map (·.name) := by
  induction cs generalizing seen with
  | nil => cases h
  | cons c cs ih =>
    unfold repeatedName? at h
    split at h
    · cases h
      exact List.mem_cons_self
    · exact List.mem_cons_of_mem _ (ih h)

theorem Group.failsOnly_finish {format : String} {fields : List String} {g : Group} :
    FailsOnly (Accounted format fields (g.containers.map (·.name))) (g.finish format) := by
  intro e failed
  have twice : ¬(g.containers.map (·.name)).Nodup := by
    intro names
    rw [finish_of_nodup format names] at failed
    cases failed
  unfold finish validate at failed
  cases repeated : repeatedName? [] (sortContainers g.containers) with
  | none => simp [repeated, bind, Except.bind, pure, Except.pure] at failed
  | some name =>
    simp only [repeated, bind, Except.bind, Except.error.injEq] at failed
    rw [← failed]
    refine .repeated ?_ twice
    exact ((sortContainers_perm g.containers).map _).mem_iff.1 (mem_of_repeatedName? repeated)

namespace Compose

theorem Service.failsOnly_toContainer {name : String} {s : Service} {names : List String}
    (named : name ∈ names) :
    FailsOnly (Accounted formatName Service.fieldNames names) (s.toContainer name) := by
  unfold toContainer
  repeat refine .bind (failsOnly_inField named (by decide)) fun _ _ => ?_
  exact .ok _

theorem File.failsOnly_toGroup (f : File) :
    FailsOnly (Accounted formatName Service.fieldNames f.services.keys) f.toGroup := by
  refine .bind (.mapM fun e mem => ?_) fun containers read => ?_
  · exact Service.failsOnly_toContainer (List.mem_map_of_mem mem)
  · rw [File.keys_eq_names read]
    exact Group.failsOnly_finish

end Compose

namespace Ecs

theorem ContainerDefinition.failsOnly_toContainer {table : VolumeTable} {d : ContainerDefinition}
    {names : List String} (named : d.name ∈ names) :
    FailsOnly (Accounted formatName fieldNames names) (d.toContainer table) := by
  unfold toContainer
  repeat refine .bind (failsOnly_inField named (by decide)) fun _ _ => ?_
  exact .ok _

theorem TaskDefinition.failsOnly_toGroup (t : TaskDefinition) :
    FailsOnly (Accounted formatName ContainerDefinition.fieldNames
      (t.containerDefinitions.map (·.name))) t.toGroup := by
  refine .bind (.mapM fun d mem => ?_) fun containers read => ?_
  · exact .bind (ContainerDefinition.failsOnly_toContainer (List.mem_map_of_mem mem))
      fun _ _ => .ok _
  · obtain ⟨parts, hparts, rfl⟩ := mapM_return_eq_ok_iff.1 read
    rw [← names_assemble hparts]
    exact Group.failsOnly_finish

end Ecs

namespace Kube

def ContainerSpec.fieldPaths : List String := [
  "env", "ports", "livenessProbe", "resources.limits.memory", "resources.limits.cpu",
  "securityContext.runAsUser"]

theorem ContainerSpec.failsOnly_toContainer {table : VolumeTable} {s : ContainerSpec}
    {names : List String} (named : s.name ∈ names) :
    FailsOnly (Accounted formatName fieldPaths names) (s.toContainer table) := by
  unfold toContainer
  repeat refine .bind (failsOnly_inField named (by decide)) fun _ _ => ?_
  exact .ok _

/-- The errors of a pod: those about its containers, another kind, and a label that is no scalar. -/
inductive Pod.Accounts (p : Pod) : ConversionError → Prop
  | containers {e : ConversionError}
      (h : Accounted formatName ContainerSpec.fieldPaths (p.containers.map (·.name)) e) :
      Accounts p e
  | kind {kind : String} (written : p.kind = some kind) (other : kind ≠ "Pod") :
      Accounts p (.structural formatName (.wrongKind kind))
  | label {label : String} {found : Collection}
      (written : (label, .unsupported found) ∈ p.labels.entries) :
      Accounts p (.structural formatName
        (.groupLabel (.unsupportedShape "a scalar" found.name)))

theorem exists_of_texts_eq_error {d : Dict Scalar} {reason : FieldError}
    (h : Pairs.texts d = .error reason) :
    ∃ label found, (label, Scalar.unsupported found) ∈ d.entries ∧
      reason = .unsupportedShape "a scalar" found.name := by
  obtain ⟨⟨label, s⟩, mem, failed⟩ := Dict.exists_of_mapM_eq_error h
  cases s with
  | unsupported found =>
    cases failed
    exact ⟨label, found, mem, rfl⟩
  | int n => cases failed
  | text s => cases failed
  | null => cases failed

theorem Pod.failsOnly_containers (p : Pod) (labels : Dict String) :
    FailsOnly p.Accounts (do
      let containers ← p.containers.mapM fun s => do
        return { ← s.toContainer p.volumeTable with hostname := p.hostname }
      (Group.finish formatName {
        name := p.name.bind nonEmpty, containers, labels
        hostNetwork := p.hostNetwork, hostPid := p.hostPid })) := by
  refine .imp (.bind (.mapM fun s mem => ?_) fun containers read => ?_) fun _ => .containers
  · exact .bind (ContainerSpec.failsOnly_toContainer (List.mem_map_of_mem mem)) fun _ _ => .ok _
  · obtain ⟨parts, hparts, rfl⟩ := mapM_return_eq_ok_iff.1 read
    rw [← names_assemble hparts]
    exact Group.failsOnly_finish

theorem Pod.failsOnly_toGroup (p : Pod) : FailsOnly p.Accounts p.toGroup := by
  have labels : FailsOnly p.Accounts ((Pairs.texts p.labels).mapError fun e =>
      ConversionError.structural formatName (.groupLabel e)) := by
    intro e failed
    cases texts : Pairs.texts p.labels with
    | ok labels =>
      rw [texts] at failed
      cases failed
    | error reason =>
      obtain ⟨label, found, written, rfl⟩ := exists_of_texts_eq_error texts
      rw [texts] at failed
      cases failed
      exact .label written
  unfold toGroup
  split
  · rename_i kind written
    split
    · rename_i other
      intro e failed
      cases failed
      exact .kind written other
    · exact labels.bind fun labels _ => p.failsOnly_containers labels
  · exact labels.bind fun labels _ => p.failsOnly_containers labels

end Kube
end Workload
