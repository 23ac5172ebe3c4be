import Workload.Ecs.Task
import Workload.Proofs.Json.Alike

/-! Values that have the form of a task definition, whatever stands in their scalar fields. -/
namespace Workload.Ecs
open Json

section
variable {root v : Json} {scalar? scalar'? : Json → Option Scalar}
  (agree : ∀ w, root.Occurs w → Alike (scalar? w) (scalar'? w))
include agree

theorem Variable.alike (occurs : root.Occurs v) :
    Alike (Variable.ofJsonWith? scalar? v) (Variable.ofJsonWith? scalar'? v) := by
  refine .record occurs fun fs inside => ?_
  with_reducible repeat
    apply Alike.bind
    · first | apply Alike.refl | apply Alike.withDefault inside agree
    intro _ _
  exact .some _ _

theorem LogConfiguration.alike (occurs : root.Occurs v) :
    Alike (LogConfiguration.ofJsonWith? scalar? v) (LogConfiguration.ofJsonWith? scalar'? v) := by
  refine .record occurs fun fs inside => ?_
  with_reducible repeat
    apply Alike.bind
    · first | apply Alike.refl | apply Alike.dictField inside agree
    intro _ _
  exact .some _ _

theorem Port.alike (occurs : root.Occurs v) :
    Alike (Port.ofJsonWith? scalar? v) (Port.ofJsonWith? scalar'? v) := by
  refine .record occurs fun fs inside => ?_
  with_reducible repeat
    apply Alike.bind
    · first
      | apply Alike.refl
      | apply Alike.optionalField inside agree
      | apply Alike.withDefault inside agree
    intro _ _
  exact .some _ _

theorem CheckDefinition.alike (occurs : root.Occurs v) :
    Alike (CheckDefinition.ofJsonWith? scalar? v) (CheckDefinition.ofJsonWith? scalar'? v) := by
  refine .record occurs fun fs inside => ?_
  with_reducible repeat
    apply Alike.bind
    · first | apply Alike.refl | apply Alike.optionalField inside agree
    intro _ _
  exact .some _ _

theorem ContainerDefinition.alike (occurs : root.Occurs v) :
    Alike (ContainerDefinition.ofJsonWith? scalar? v)
      (ContainerDefinition.ofJsonWith? scalar'? v) := by
  have environment (w : Json) (hw : root.Occurs w) := Variable.alike agree hw
  have check (w : Json) (hw : root.Occurs w) := CheckDefinition.alike agree hw
  have logging (w : Json) (hw : root.Occurs w) := LogConfiguration.alike agree hw
  have ports (w : Json) (hw : root.Occurs w) := Port.alike agree hw
  refine .record occurs fun fs inside => ?_
  -- a field has no scalars in it, or its scalars, items or sections are alike
  with_reducible repeat
    apply Alike.bind
    · first
      | apply Alike.refl
      | apply Alike.optionalField inside agree
      | apply Alike.dictField inside agree
      | apply Alike.listField inside environment
      | apply Alike.optionalField inside check
      | apply Alike.optionalField inside logging
      | apply Alike.listField inside ports
    intro _ _
  exact .some _ _

theorem TaskDefinition.alike (occurs : root.Occurs v) :
    Alike (TaskDefinition.ofJsonWith? scalar? v) (TaskDefinition.ofJsonWith? scalar'? v) := by
  have definitions (w : Json) (hw : root.Occurs w) := ContainerDefinition.alike agree hw
  refine .record occurs fun fs inside => ?_
  with_reducible repeat
    apply Alike.bind
    · first | apply Alike.refl | apply Alike.listField inside definitions
    intro _ _
  exact .some _ _

end

/-- The value has the form of a task, its scalar fields taking the values that pass the test. -/
def Fits (test : Json → Bool) (v : Json) : Prop :=
  (TaskDefinition.ofJsonWith? (unseen test) v).isSome

theorem isSome_ofJson?_iff {v : Json} : (TaskDefinition.ofJson? v).isSome ↔ Fits readable v :=
  Bool.eq_iff_iff.1 (TaskDefinition.alike (fun w _ => alike_scalar w) .self)

theorem fits_of_readable {v : Json} (clean : ∀ w, v.Occurs w → w ≠ .unreadable)
    (h : Fits (fun _ => true) v) : Fits readable v :=
  (Bool.eq_iff_iff.1 (TaskDefinition.alike (fun w hw => alike_unseen (clean w hw)) .self)).1 h

end Workload.Ecs
