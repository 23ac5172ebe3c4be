import Workload.Model.Record
import Workload.Proofs.Json.Record

/-! Every model record is read back from its JSON form. -/
namespace Workload
open Json Fields

@[simp] theorem Protocol.ofJson?_toJson (p : Protocol) : Protocol.ofJson? p.toJson = some p := by
  cases p <;> rfl

@[simp] theorem Protocol.plain_toJson (p : Protocol) : Plain p.toJson := .string p.name

@[simp] theorem PortMapping.restores : Restores PortMapping.ofJson? PortMapping.toJson where
  ne_null _ := nofun
  plain _ := plain_compactObject (by simp)
  read_write p := by
    refine bind_record?_compactObject rfl (by decide) fun fs found => ?_
    simp only [List.forall_mem_cons, fst_member, fst_optionalMember] at found
    simp [found, required_eq, withDefault_eq, optional_eq]

@[simp] theorem Volume.restores : Restores Volume.ofJson? Volume.toJson where
  ne_null _ := nofun
  plain _ := plain_compactObject (by simp)
  read_write v := by
    refine bind_record?_compactObject rfl (by decide) fun fs found => ?_
    simp only [List.forall_mem_cons, fst_member, fst_optionalMember] at found
    simp [found, required_eq, optional_eq, flag_eq]

@[simp] theorem Logging.restores : Restores Logging.ofJson? Logging.toJson where
  ne_null _ := nofun
  plain _ := plain_compactObject (by simp)
  read_write l := by
    refine bind_record?_compactObject rfl (by decide) fun fs found => ?_
    simp only [List.forall_mem_cons, fst_member, fst_dictMember] at found
    simp [found, required_eq, dictOf_eq]

@[simp] theorem Build.restores : Restores Build.ofJson? Build.toJson where
  ne_null _ := nofun
  plain _ := plain_compactObject (by simp)
  read_write b := by
    refine bind_record?_compactObject rfl (by decide) fun fs found => ?_
    simp only [List.forall_mem_cons, fst_member, fst_optionalMember, fst_dictMember] at found
    simp [found, required_eq, optional_eq, dictOf_eq]

@[simp] theorem HttpProbe.restores : Restores HttpProbe.ofJson? HttpProbe.toJson where
  ne_null _ := nofun
  plain _ := plain_compactObject (by simp)
  read_write p := by
    refine bind_record?_compactObject rfl (by decide) fun fs found => ?_
    simp only [List.forall_mem_cons, fst_member, fst_optionalMember, fst_dictMember] at found
    simp [found, required_eq, withDefault_eq, optional_eq, dictOf_eq]

@[simp] theorem Probe.ofJson?_toJson (p : Probe) : Probe.ofJson? p.toJson = some p := by
  cases p with
  | exec command =>
    simp [toJson, ofJson?, record?, required_eq]
  | http request =>
    rw [toJson, ofJson?, HttpProbe.restores.read_write, Option.map_some]

@[simp] theorem Probe.plain_toJson (p : Probe) : Plain p.toJson := by
  cases p with
  | exec command => exact .object (by simpa using .object (by simp))
  | http request => exact .object (by simpa using HttpProbe.restores.plain request)

@[simp] theorem HealthCheck.restores : Restores HealthCheck.ofJson? HealthCheck.toJson where
  ne_null _ := nofun
  plain _ := plain_compactObject (by simp)
  read_write h := by
    refine bind_record?_compactObject rfl (by decide) fun fs found => ?_
    simp only [List.forall_mem_cons, fst_member, fst_optionalMember] at found
    simp [found, required_eq, optional_eq]

@[simp] theorem Container.restores : Restores Container.ofJson? Container.toJson where
  ne_null _ := nofun
  plain _ := plain_compactObject (by simp [PortMapping.restores.plain, Volume.restores.plain,
    Logging.restores.plain, Build.restores.plain, HealthCheck.restores.plain])
  read_write c := by
    refine bind_record?_compactObject rfl (by decide) fun fs found => ?_
    simp only [List.forall_mem_cons, fst_member, fst_optionalMember, fst_listMember,
      fst_dictMember] at found
    simp [found, required_eq, optional_eq, listOf_eq, dictOf_eq, flag_eq]

theorem Group.restores : Restores Group.ofJson? Group.toJson where
  ne_null _ := nofun
  plain _ := plain_compactObject (by simp [Container.restores.plain])
  read_write g := by
    refine bind_record?_compactObject rfl (by decide) fun fs found => ?_
    simp only [List.forall_mem_cons, fst_member, fst_optionalMember, fst_dictMember] at found
    simp [found, optional_eq, listOf_eq, dictOf_eq, flag_eq, Container.restores.list]

/-- A group is read back from its JSON form, and so it is from the text of that form, on one line
or indented by any width. -/
theorem Group.restored_from_json (g : Group) :
    ofJson? g.toJson = some g ∧ (parse? g.toJson.compress).bind ofJson? = some g ∧
      ∀ width, (parse? (g.toJson.pretty width)).bind ofJson? = some g :=
  ⟨restores.read_write g, restores.read_text none g, fun width => restores.read_text (some width) g⟩

end Workload
