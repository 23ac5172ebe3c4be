import Workload.Proofs.Compose.Quoted
import Workload.Proofs.Document
import Workload.Proofs.Ecs.Quoted
import Workload.Proofs.Kube.Quoted

/-! A number in a document may be quoted: the document describes the same group, or is refused for
the same reason. -/
namespace Workload.Document

/-- Documents of one format, the second with quoted numerals for some numbers of the first. -/
inductive Quoted : Document → Document → Prop
  | compose {f f' : Compose.File} (h : f.Quoted f') : Quoted (.compose f) (.compose f')
  | ecs {t t' : Ecs.TaskDefinition} (h : t.Quoted t') : Quoted (.ecs t) (.ecs t')
  | k8s {p p' : Kube.Pod} (h : p.Quoted p') : Quoted (.k8s p) (.k8s p')

theorem toGroup_eq_of_quoted {d e : Document} (h : d.Quoted e) : d.toGroup = e.toGroup := by
  cases h with
  | compose h => exact h.toGroup_eq
  | ecs h => exact h.toGroup_eq
  | k8s h => exact h.toGroup_eq

def counted : Compose.Service where
  build := some (.mapping [(.string "context", .string "."),
    (.string "args", .mapping [(.string "LEVEL", .number (.natural 2))])])
  environment := some (.mapping [(.string "RETRIES", .number (.natural 3))])
  memLimit := some (.int 1024)
  ports := [.int 80]

def quotedCounted : Compose.Service where
  build := some (.mapping [(.string "context", .string "."),
    (.string "args", .mapping [(.string "LEVEL", .string "2")])])
  environment := some (.mapping [(.string "RETRIES", .string "3")])
  memLimit := some (.text "1024")
  ports := [.text "80"]

def web (s : Compose.Service) : Document := .compose { services := .ofList [("web", s)] }

def countedGroup : Group where
  containers := [{
    name := "web"
    build := some { context := ".", args := .ofList [("LEVEL", "2")] }
    environment := .ofList [("RETRIES", "3")]
    memory := some 1024
    ports := [{ containerPort := 80 }] }]

def widePort (containerPort : Scalar) : Document :=
  .ecs { containerDefinitions := [{ name := "api", portMappings := [{ containerPort }] }] }

theorem toGroup_eq_of_quoted_counted :
    (web counted).Quoted (web quotedCounted) ∧
    (web quotedCounted).toGroup = .ok countedGroup ∧
    (web counted).toGroup = (web quotedCounted).toGroup ∧
    (widePort (.int 70000)).Quoted (widePort (.text "70000")) ∧
    (widePort (.text "70000")).toGroup =
      .error (.fieldDecode "ecs" "api" "portMappings" (.invalidNumber "70000")) ∧
    (widePort (.int 70000)).toGroup = (widePort (.text "70000")).toGroup := by
  have small : (web counted).Quoted (web quotedCounted) := by
    refine .compose ⟨.none, .cons ⟨rfl, ?_⟩ .nil⟩
    refine .intro (.some (.mapping ?_)) (.some (.mapping (.cons ⟨rfl, .number 3⟩ .nil))) .none .nil
      (.cons (.number 80) .nil) .nil .none (.some (.number 1024)) .none .none
    refine .cons ⟨rfl, .inl rfl⟩ (.cons ⟨rfl, .inr ⟨rfl, .mapping ?_⟩⟩ .nil)
    exact .cons ⟨rfl, .number 2⟩ .nil
  have wide : (widePort (.int 70000)).Quoted (widePort (.text "70000")) := by
    refine .ecs (.intro (.cons (.intro .none .none .nil .nil .none .none ?_) .nil))
    exact .cons (.intro .none (.number 70000)) .nil
  refine ⟨small, ?_, toGroup_eq_of_quoted small, wide, ?_, toGroup_eq_of_quoted wide⟩
  · have finished := Group.finish_of_nodup Compose.formatName (g := countedGroup) (by decide)
    rw [sortContainers_of_ascending (by decide)] at finished
    exact Compose.File.toGroup_eq_ok_iff.2 ⟨countedGroup.containers, by rfl, finished⟩
  · rfl

end Workload.Document
