import Workload.Proofs.Scalar

/-! Commands and their arguments. A command is cut at every space and joined again without loss; a
list of arguments has to be a list of such pieces to survive being joined. -/
namespace Workload.Command
variable {args : List String}

theorem split_joinWith (nonempty : args ≠ []) : split (joinWith ' ' args) = args.flatMap split :=
  splitAtChar_joinWith_flatMap nonempty

theorem split_joinWith_eq_iff (nonempty : args ≠ []) :
    split (joinWith ' ' args) = args ↔ ∀ arg ∈ args, ' ' ∉ arg.toList := by
  constructor
  · intro same arg mem
    -- every argument is a piece of some argument, and pieces have no spaces
    rw [← same, split_joinWith nonempty, List.mem_flatMap] at mem
    obtain ⟨_, _, piece⟩ := mem
    exact not_mem_of_mem_splitAtChar piece
  · exact fun plain => splitAtChar_joinWith plain nonempty

/-- Cutting a command into arguments loses nothing, empty arguments included. Joining arguments makes
a command whose arguments are their pieces, and these are the same arguments exactly when none of
them has a space. -/
theorem split_and_join_exact :
    (∀ command, join (split command) = some command) ∧
    ∀ args, args ≠ [] → ∃ command, join args = some command ∧
      split command = args.flatMap split ∧
      (split command = args ↔ ∀ arg ∈ args, ' ' ∉ arg.toList) :=
  ⟨join_split, fun _ nonempty => ⟨_, join_of_ne_nil nonempty, split_joinWith nonempty,
    split_joinWith_eq_iff nonempty⟩⟩

theorem split_and_join_exact_spaced :
    ["sh", "-c", " true"] ≠ [] ∧ join ["sh", "-c", " true"] = some "sh -c  true" ∧
      split "sh -c  true" = ["sh", "-c", "", "true"] ∧
      split "sh -c  true" ≠ ["sh", "-c", " true"] := by
  have nonempty : ["sh", "-c", " true"] ≠ [] := by decide
  obtain ⟨command, joined, pieces, same⟩ := split_and_join_exact.2 _ nonempty
  have written : join ["sh", "-c", " true"] = some "sh -c  true" := by decide
  obtain rfl : "sh -c  true" = command := Option.some.inj (written.symm.trans joined)
  exact ⟨nonempty, written, pieces.trans (by decide), fun kept => absurd (same.1 kept) (by decide)⟩

end Workload.Command
