import Workload.Compose.File
import Workload.Proofs.Yaml.Form

/-! Documents that have the form of a compose file, whatever stands in its scalar fields. -/
namespace Workload.Compose
open Yaml Yaml.Decode

section
variable {doc : Yaml.Document} {scalar scalar' : Node → Decode Scalar} {n : Node}
  (agree : ∀ m, doc.Occurs m → Alike doc 1 (scalar m) (scalar' m))
include agree

theorem LoggingSection.alike (occurs : doc.Occurs n) :
    Alike doc 3 (LoggingSection.ofNodeWith scalar n) (LoggingSection.ofNodeWith scalar' n) := by
  refine .record occurs fun fs inside => ?_
  with_reducible repeat
    apply Alike.bind
    · first | apply Alike.refl | apply Alike.dictField inside agree; decide
    intro _ _
  exact .pure _ _

theorem HealthSection.alike (occurs : doc.Occurs n) :
    Alike doc 2 (HealthSection.ofNodeWith scalar n) (HealthSection.ofNodeWith scalar' n) := by
  refine .record occurs fun fs inside => ?_
  with_reducible repeat
    apply Alike.bind
    · first | apply Alike.refl | apply Alike.optionalField inside agree; decide
    intro _ _
  exact .pure _ _

theorem Service.alike (occurs : doc.Occurs n) :
    Alike doc 4 (Service.ofNodeWith scalar n) (Service.ofNodeWith scalar' n) := by
  have health (m : Node) (hm : doc.Occurs m) := HealthSection.alike agree hm
  have logging (m : Node) (hm : doc.Occurs m) := LoggingSection.alike agree hm
  refine .record occurs fun fs inside => ?_
  -- a field has no scalars in it, or its scalars, items or sections are alike
  with_reducible repeat
    apply Alike.bind
    · first
      | apply Alike.refl
      | apply Alike.optionalField inside agree; decide
      | apply Alike.listField inside agree; decide
      | apply Alike.optionalField inside health; decide
      | apply Alike.optionalField inside logging; decide
    intro _ _
  exact .pure _ _

theorem File.alike (occurs : doc.Occurs n) :
    Alike doc 6 (File.ofNodeWith scalar n) (File.ofNodeWith scalar' n) := by
  have services (m : Node) (hm : doc.Occurs m) :
      Alike doc 5 (pairs (Service.ofNodeWith scalar) m) (pairs (Service.ofNodeWith scalar') m) :=
    .pairs hm fun _ => Service.alike agree
  refine .record occurs fun fs inside => ?_
  refine .bind (.optionalField inside agree (by decide)) fun _ _ => ?_
  refine .bind (.withDefault inside services [] [] (by decide)) fun _ _ => ?_
  exact .pure _ _

end

def form : Form File where
  absent := {}
  decode := File.ofNodeWith
  alike agree occurs := (File.alike agree occurs).mono (by decide)

theorem isSome_parse?_iff {text : String} {d : Yaml.Document}
    (parsed : Document.parse? text = some d) :
    (File.parse? text).isSome ↔ form.Fits accepts d := by
  rw [File.parse?_eq parsed]
  exact form.isSome_run_iff

end Workload.Compose
