import Workload.Kube.Pod
import Workload.Proofs.Yaml.Form

/-! Documents that have the form of a pod manifest, whatever stands in its scalar fields. -/
namespace Workload.Kube
open Yaml Yaml.Decode

section
variable {doc : Yaml.Document} {scalar scalar' : Node → Decode Scalar} {n : Node}
  (agree : ∀ m, doc.Occurs m → Alike doc 1 (scalar m) (scalar' m))
include agree

theorem EnvVar.alike (occurs : doc.Occurs n) :
    Alike doc 2 (EnvVar.ofNodeWith scalar n) (EnvVar.ofNodeWith scalar' n) := by
  refine .record occurs fun fs inside => ?_
  with_reducible repeat
    apply Alike.bind
    · first | apply Alike.refl | apply Alike.withDefault inside agree; decide
    intro _ _
  exact .pure _ _

theorem ContainerPort.alike (occurs : doc.Occurs n) :
    Alike doc 2 (ContainerPort.ofNodeWith scalar n) (ContainerPort.ofNodeWith scalar' n) := by
  refine .record occurs fun fs inside => ?_
  with_reducible repeat
    apply Alike.bind
    · first
      | apply Alike.refl
      | apply Alike.optionalField inside agree; decide
      | apply Alike.withDefault inside agree; decide
    intro _ _
  exact .pure _ _

theorem HttpGet.alike (occurs : doc.Occurs n) :
    Alike doc 2 (HttpGet.ofNodeWith scalar n) (HttpGet.ofNodeWith scalar' n) := by
  refine .record occurs fun fs inside => ?_
  with_reducible repeat
    apply Alike.bind
    · first | apply Alike.refl | apply Alike.withDefault inside agree; decide
    intro _ _
  exact .pure _ _

theorem LivenessProbe.alike (occurs : doc.Occurs n) :
    Alike doc 3 (LivenessProbe.ofNodeWith scalar n) (LivenessProbe.ofNodeWith scalar' n) := by
  have request (m : Node) (hm : doc.Occurs m) := HttpGet.alike agree hm
  refine .record occurs fun fs inside => ?_
  with_reducible repeat
    apply Alike.bind
    · first
      | apply Alike.refl
      | apply Alike.optionalField inside agree; decide
      | apply Alike.optionalField inside request; decide
    intro _ _
  exact .pure _ _

theorem SecurityContext.alike (occurs : doc.Occurs n) :
    Alike doc 2 (SecurityContext.ofNodeWith scalar n) (SecurityContext.ofNodeWith scalar' n) := by
  refine .record occurs fun fs inside => ?_
  with_reducible repeat
    apply Alike.bind
    · first | apply Alike.refl | apply Alike.optionalField inside agree; decide
    intro _ _
  exact .pure _ _

theorem resources_alike (occurs : doc.Occurs n) :
    Alike doc 3 (resourcesWith scalar n) (resourcesWith scalar' n) := by
  refine .record occurs fun fs inside => ?_
  with_reducible repeat
    apply Alike.bind
    · first | apply Alike.refl | apply Alike.dictField inside agree; decide
    intro _ _
  exact .pure _ _

theorem ContainerSpec.alike (occurs : doc.Occurs n) :
    Alike doc 4 (ContainerSpec.ofNodeWith scalar n) (ContainerSpec.ofNodeWith scalar' n) := by
  have env (m : Node) (hm : doc.Occurs m) := EnvVar.alike agree hm
  have ports (m : Node) (hm : doc.Occurs m) := ContainerPort.alike agree hm
  have probe (m : Node) (hm : doc.Occurs m) := LivenessProbe.alike agree hm
  have security (m : Node) (hm : doc.Occurs m) := SecurityContext.alike agree hm
  have resources (m : Node) (hm : doc.Occurs m) := resources_alike agree hm
  refine .record occurs fun fs inside => ?_
  -- a field has no scalars in it, or its items or sections are alike
  with_reducible repeat
    apply Alike.bind
    · first
      | apply Alike.refl
      | apply Alike.listField inside env; decide
      | apply Alike.listField inside ports; decide
      | apply Alike.optionalField inside probe; decide
      | apply Alike.optionalField inside security; decide
      | apply Alike.withDefault inside resources; decide
    intro _ _
  exact .pure _ _

theorem metadata_alike {pod pod' : Pod} (occurs : doc.Occurs n) :
    Alike doc 3 (metadataWith scalar pod n) (metadataWith scalar' pod' n) := by
  refine .record occurs fun fs inside => ?_
  with_reducible repeat
    apply Alike.bind
    · first | apply Alike.refl | apply Alike.dictField inside agree; decide
    intro _ _
  exact .pure _ _

theorem spec_alike {pod pod' : Pod} (occurs : doc.Occurs n) :
    Alike doc 6 (specWith scalar pod n) (specWith scalar' pod' n) := by
  have containers (m : Node) (hm : doc.Occurs m) := ContainerSpec.alike agree hm
  refine .record occurs fun fs inside => ?_
  with_reducible repeat
    apply Alike.bind
    · first | apply Alike.refl | apply Alike.listField inside containers; decide
    intro _ _
  exact .pure _ _

theorem Pod.alike (occurs : doc.Occurs n) :
    Alike doc 7 (Pod.ofNodeWith scalar n) (Pod.ofNodeWith scalar' n) := by
  refine .record occurs fun fs inside => ?_
  refine .bind (.refl _) fun _ _ => .bind (.refl _) fun _ _ => ?_
  refine .bind (.withDefault inside (fun _ => metadata_alike agree) _ _ (by decide)) fun _ _ => ?_
  exact .withDefault inside (fun _ => spec_alike agree) _ _ (by decide)

end

def form : Form Pod where
  absent := {}
  decode := Pod.ofNodeWith
  alike agree occurs := (Pod.alike agree occurs).mono (by decide)

theorem isSome_parse?_iff {text : String} {d : Yaml.Document}
    (parsed : Document.parse? text = some d) :
    (Pod.parse? text).isSome ↔ form.Fits accepts d := by
  rw [Pod.parse?_eq parsed]
  exact form.isSome_run_iff

end Workload.Kube
