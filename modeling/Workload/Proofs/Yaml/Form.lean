import Workload.Proofs.Yaml.Scalar

/-! Records that are decoded from a whole document, and the documents that have their form. -/
namespace Workload.Yaml
open Decode

/-- A decoder of a record by one for its scalar fields, on which nothing else depends. -/
structure Form (α : Type) where
  absent : α
  decode : (Node → Decode Scalar) → Node → Decode α
  alike {doc : Document} {scalar scalar' : Node → Decode Scalar} {n : Node}
    (agree : ∀ m, doc.Occurs m → Alike doc 1 (scalar m) (scalar' m)) (occurs : doc.Occurs n) :
    Alike doc maxDepth (decode scalar n) (decode scalar' n)

namespace Form
variable {α : Type} (f : Form α) {d : Document}

/-- The document has the form, where its scalar fields take the nodes that pass the test. -/
def Fits (test : Node → Bool) (d : Document) : Prop :=
  (run d f.absent (f.decode (unseen test))).isSome

/-- A document is decoded if it has the form but for the scalars and no scalar field refuses its
node. What the fields make of the others does not matter. -/
theorem isSome_run_iff : (run d f.absent (f.decode scalar)).isSome ↔ f.Fits accepts d := by
  refine Bool.eq_iff_iff.1 (isSome_run fun n root => ?_)
  exact f.alike (fun m _ => alike_scalar m) (.root root)

theorem fits_of_clean (clean : ∀ m, d.Occurs m → ¬Refused m) (h : f.Fits Node.present d) :
    f.Fits accepts d := by
  refine (Bool.eq_iff_iff.1 (isSome_run fun n root => ?_)).1 h
  exact f.alike (fun _ hm => alike_unseen hm clean) (.root root)

end Form
end Workload.Yaml
