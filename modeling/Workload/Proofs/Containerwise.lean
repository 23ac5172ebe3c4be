import Workload.Proofs.Blame
import Workload.Proofs.Text

/-! Documents are read container by container. What becomes of a container is told by its own
definition and by what the document says of all its containers, and the first definition that does
not decode decides the error. -/
namespace Workload

theorem Group.container?_eq_some_iff {g : Group} (names : (g.containers.map (·.name)).Nodup)
    {name : String} {c : Container} :
    g.container? name = some c ↔ c ∈ g.containers ∧ c.name = name := by
  constructor
  · intro found
    exact ⟨List.mem_of_find?_eq_some found, by simpa using List.find?_some found⟩
  · rintro ⟨mem, rfl⟩
    have found : (g.container? c.name).isSome := List.find?_isSome.2 ⟨c, mem, by simp⟩
    obtain ⟨d, found⟩ := Option.isSome_iff_exists.1 found
    have same : d.name = c.name := by simpa using List.find?_some found
    rw [found, List.inj_on_of_nodup_map names (List.mem_of_find?_eq_some found) mem same]

/-- A format as far as its containers go: the definitions of a document in the order in which they
are read, and what each of them is read as. -/
structure Reading (δ σ α : Type) where
  format : String
  toGroup : δ → Except ConversionError Group
  Passes : δ → Prop
  definitions : δ → List α
  shared : δ → σ
  name : α → String
  Decodes : α → Prop
  container : σ → α → Except ConversionError Container
  toGroup_eq : ∀ d, Passes d → ∃ frame : Group, toGroup d = do
    let containers ← (definitions d).mapM (container (shared d))
    Group.finish format { frame with containers }
  decodes_iff : ∀ s x, Decodes x ↔ ∃ c, container s x = .ok c
  name_eq : ∀ s x c, container s x = .ok c → name x = c.name
  blames : ∀ s x e, container s x = .error e → ∃ field reason,
    e = .fieldDecode format (name x) field reason

namespace Reading
variable {δ σ α : Type} {r : Reading δ σ α} {d : δ} {g : Group}

def names (r : Reading δ σ α) (d : δ) : List String := (r.definitions d).map r.name

/-- The definition `x` decides the error of the document: it is the first that does not decode. -/
structure FailsAt (r : Reading δ σ α) (d : δ) (before : List α) (x : α) (after : List α) : Prop where
  split : r.definitions d = before ++ x :: after
  decodes : ∀ y ∈ before, r.Decodes y
  fails : ¬r.Decodes x
  blamed : ∃ field reason, r.toGroup d = .error (.fieldDecode r.format (r.name x) field reason)
  /-- Other definitions after it do not change the error. -/
  settled : ∀ e, r.Passes e → r.shared e = r.shared d → before ++ [x] <+: r.definitions e →
    r.toGroup e = r.toGroup d

/-- How the documents of a format are read by way of their containers. -/
structure Containerwise (r : Reading δ σ α) : Prop where
  ok_iff : ∀ d, r.Passes d →
    ((∃ g, r.toGroup d = .ok g) ↔ (∀ x ∈ r.definitions d, r.Decodes x) ∧ (r.names d).Nodup)
  mem_containers_iff : ∀ d g, r.Passes d → r.toGroup d = .ok g → ∀ c,
    c ∈ g.containers ↔ ∃ x ∈ r.definitions d, r.container (r.shared d) x = .ok c
  container?_eq : ∀ d e g h, r.Passes d → r.Passes e → r.shared d = r.shared e →
    r.toGroup d = .ok g → r.toGroup e = .ok h → ∀ x ∈ r.definitions d, x ∈ r.definitions e →
    ∃ c, r.container (r.shared d) x = .ok c ∧ g.container? (r.name x) = some c ∧
      h.container? (r.name x) = some c
  exists_failsAt : ∀ d, r.Passes d → (¬∀ x ∈ r.definitions d, r.Decodes x) →
    ∃ before x after, r.FailsAt d before x after
  duplicate_iff : ∀ d, r.Passes d →
    ((∃ name, r.toGroup d = .error (.duplicateContainer r.format name)) ↔
      (∀ x ∈ r.definitions d, r.Decodes x) ∧ ¬(r.names d).Nodup)

theorem names_eq {s : σ} {cs : List Container}
    (read : (r.definitions d).mapM (r.container s) = .ok cs) : r.names d = cs.map (·.name) :=
  map_eq_of_mapM read (r.name_eq s)

theorem exists_read_iff (s : σ) :
    (∃ cs, (r.definitions d).mapM (r.container s) = .ok cs) ↔
      ∀ x ∈ r.definitions d, r.Decodes x := by
  simp only [exists_mapM_eq_ok_iff, r.decodes_iff s]

theorem exists_finish_eq (passes : r.Passes d) {cs : List Container}
    (read : (r.definitions d).mapM (r.container (r.shared d)) = .ok cs) :
    ∃ frame : Group, frame.containers = cs ∧ r.toGroup d = frame.finish r.format := by
  obtain ⟨frame, made⟩ := r.toGroup_eq d passes
  refine ⟨{ frame with containers := cs }, rfl, ?_⟩
  rw [made, read]
  rfl

theorem exists_read_of_ok (passes : r.Passes d) (made : r.toGroup d = .ok g) :
    ∃ cs, (r.definitions d).mapM (r.container (r.shared d)) = .ok cs ∧ (r.names d).Nodup ∧
      g.containers = sortContainers cs := by
  obtain ⟨frame, made'⟩ := r.toGroup_eq d passes
  rw [made', bind_eq_ok_iff] at made
  obtain ⟨cs, read, finished⟩ := made
  obtain ⟨names, rfl⟩ := Group.finish_eq_ok_iff.1 finished
  exact ⟨cs, read, names_eq read ▸ names, rfl⟩

theorem ok_iff (passes : r.Passes d) :
    (∃ g, r.toGroup d = .ok g) ↔ (∀ x ∈ r.definitions d, r.Decodes x) ∧ (r.names d).Nodup := by
  rw [← exists_read_iff (r.shared d)]
  constructor
  · rintro ⟨g, made⟩
    obtain ⟨cs, read, names, _⟩ := exists_read_of_ok passes made
    exact ⟨⟨cs, read⟩, names⟩
  · rintro ⟨⟨cs, read⟩, names⟩
    obtain ⟨frame, rfl, made⟩ := exists_finish_eq passes read
    rw [names_eq read] at names
    exact ⟨_, made.trans (Group.finish_of_nodup r.format names)⟩

theorem mem_containers_iff (passes : r.Passes d) (made : r.toGroup d = .ok g) (c : Container) :
    c ∈ g.containers ↔ ∃ x ∈ r.definitions d, r.container (r.shared d) x = .ok c := by
  obtain ⟨cs, read, _, sorted⟩ := exists_read_of_ok passes made
  rw [sorted, mem_sortContainers, mem_iff_of_mapM read]

theorem container?_eq_some (passes : r.Passes d) (made : r.toGroup d = .ok g) {x : α}
    (mem : x ∈ r.definitions d) {c : Container} (read : r.container (r.shared d) x = .ok c) :
    g.container? (r.name x) = some c := by
  obtain ⟨cs, reads, names, sorted⟩ := exists_read_of_ok passes made
  have names : (g.containers.map (·.name)).Nodup := by
    rw [sorted]
    exact nodup_names_sortContainers (names_eq reads ▸ names)
  rw [Group.container?_eq_some_iff names]
  exact ⟨(mem_containers_iff passes made c).2 ⟨x, mem, read⟩, (r.name_eq _ x c read).symm⟩

theorem toGroup_eq_error (passes : r.Passes d) {before after : List α} {x : α}
    (split : r.definitions d = before ++ x :: after) (decodes : ∀ y ∈ before, r.Decodes y)
    {err : ConversionError} (failed : r.container (r.shared d) x = .error err) :
    r.toGroup d = .error err := by
  have stopped : (r.definitions d).mapM (r.container (r.shared d)) = .error err := by
    rw [split]
    exact mapM_eq_error_of_first (fun y mem => (r.decodes_iff _ y).1 (decodes y mem)) failed
  obtain ⟨frame, made⟩ := r.toGroup_eq d passes
  rw [made, stopped]
  rfl

theorem exists_error_of_not_decodes (s : σ) {x : α} (fails : ¬r.Decodes x) :
    ∃ field reason, r.container s x = .error (.fieldDecode r.format (r.name x) field reason) := by
  rw [r.decodes_iff s] at fails
  cases read : r.container s x with
  | ok c => exact absurd ⟨c, read⟩ fails
  | error err =>
    obtain ⟨field, reason, rfl⟩ := r.blames s x err read
    exact ⟨field, reason, rfl⟩

theorem exists_failsAt (passes : r.Passes d) (fails : ¬∀ x ∈ r.definitions d, r.Decodes x) :
    ∃ before x after, r.FailsAt d before x after := by
  obtain ⟨before, x, after, split, decodes, bad⟩ := exists_first_not fails
  obtain ⟨field, reason, failed⟩ := exists_error_of_not_decodes (r.shared d) bad
  have blamed := toGroup_eq_error passes split decodes failed
  refine ⟨before, x, after, split, decodes, bad, ⟨field, reason, blamed⟩, ?_⟩
  rintro e passes' shared ⟨rest, split'⟩
  rw [List.append_assoc, List.singleton_append] at split'
  rw [blamed, toGroup_eq_error passes' split'.symm decodes (shared ▸ failed)]

theorem duplicate_iff (passes : r.Passes d) :
    (∃ name, r.toGroup d = .error (.duplicateContainer r.format name)) ↔
      (∀ x ∈ r.definitions d, r.Decodes x) ∧ ¬(r.names d).Nodup := by
  constructor
  · rintro ⟨name, failed⟩
    have decodes : ∀ x ∈ r.definitions d, r.Decodes x := by
      by_contra fails
      obtain ⟨_, _, _, first⟩ := exists_failsAt passes fails
      obtain ⟨_, _, blamed⟩ := first.blamed
      cases failed.symm.trans blamed
    refine ⟨decodes, fun names => ?_⟩
    obtain ⟨g, made⟩ := (ok_iff passes).2 ⟨decodes, names⟩
    cases failed.symm.trans made
  · rintro ⟨decodes, names⟩
    obtain ⟨cs, read⟩ := (exists_read_iff (r.shared d)).2 decodes
    obtain ⟨frame, rfl, made⟩ := exists_finish_eq passes read
    rw [names_eq read] at names
    obtain ⟨name, repeated⟩ := Group.exists_finish_eq_error r.format names
    exact ⟨name, made.trans repeated⟩

theorem error_cases (passes : r.Passes d) {err : ConversionError}
    (failed : r.toGroup d = .error err) :
    (∃ x ∈ r.definitions d, ∃ field reason, err = .fieldDecode r.format (r.name x) field reason) ∨
      ∃ name, err = .duplicateContainer r.format name := by
  by_cases decodes : ∀ x ∈ r.definitions d, r.Decodes x
  · right
    have names : ¬(r.names d).Nodup := by
      intro names
      obtain ⟨g, made⟩ := (ok_iff passes).2 ⟨decodes, names⟩
      cases failed.symm.trans made
    obtain ⟨name, repeated⟩ := (duplicate_iff passes).2 ⟨decodes, names⟩
    exact ⟨name, Except.error.inj (failed.symm.trans repeated)⟩
  · left
    obtain ⟨_, x, _, first⟩ := exists_failsAt passes decodes
    obtain ⟨field, reason, blamed⟩ := first.blamed
    have mem : x ∈ r.definitions d := by simp [first.split]
    exact ⟨x, mem, field, reason, Except.error.inj (failed.symm.trans blamed)⟩

theorem containerwise (r : Reading δ σ α) : r.Containerwise where
  ok_iff _ := ok_iff
  mem_containers_iff _ _ := mem_containers_iff
  container?_eq d e g h passes passes' shared made made' x mem mem' := by
    obtain ⟨decodes, _⟩ := (ok_iff passes).1 ⟨g, made⟩
    obtain ⟨c, read⟩ := (r.decodes_iff (r.shared d) x).1 (decodes x mem)
    have found := container?_eq_some passes made mem read
    exact ⟨c, read, found, container?_eq_some passes' made' mem' (shared ▸ read)⟩
  exists_failsAt _ := exists_failsAt
  duplicate_iff _ := duplicate_iff

end Reading

theorem Accounted.exists_field {format name : String} {fields : List String} {e : ConversionError}
    (h : Accounted format fields [name] e) :
    ∃ field reason, e = .fieldDecode format name field reason := by
  cases h with
  | @field _ field named _ reason =>
    rw [List.mem_singleton.1 named]
    exact ⟨field, reason, rfl⟩
  | repeated _ twice => exact absurd (List.nodup_singleton name) twice

namespace Compose

def reading : Reading File Unit (String × Service) where
  format := formatName
  toGroup := File.toGroup
  Passes _ := True
  definitions f := f.services.entries
  shared _ := ()
  name e := e.1
  Decodes e := ∃ parts, e.2.Decodes parts
  container _ e := e.2.toContainer e.1
  toGroup_eq _ _ := ⟨{}, rfl⟩
  decodes_iff _ e := by simp [Service.toContainer_eq_ok_iff]
  name_eq _ _ _ read := Service.name_of_toContainer read
  blames _ e err failed :=
    (Service.failsOnly_toContainer (List.mem_singleton_self e.1) err failed).exists_field

end Compose

namespace Ecs

structure Shared where
  volumes : VolumeTable
  networkMode : Option String
  pid : Option String

def ContainerDefinition.readIn (s : Shared) (d : ContainerDefinition) :
    Except ConversionError Container := do
  return { ← d.toContainer s.volumes with networkMode := s.networkMode, pid := s.pid }

theorem ContainerDefinition.readIn_eq_ok_iff {s : Shared} {d : ContainerDefinition}
    {c : Container} :
    d.readIn s = .ok c ↔ ∃ parts, d.Decodes parts ∧
      c = { d.assemble s.volumes parts with networkMode := s.networkMode, pid := s.pid } :=
  return_eq_ok_iff fun _ => toContainer_eq_ok_iff

def reading : Reading TaskDefinition Shared ContainerDefinition where
  format := formatName
  toGroup := TaskDefinition.toGroup
  Passes _ := True
  definitions := TaskDefinition.containerDefinitions
  shared t := ⟨t.volumeTable, sharedMode t.networkMode, sharedMode t.pidMode⟩
  name := ContainerDefinition.name
  Decodes d := ∃ parts, d.Decodes parts
  container := ContainerDefinition.readIn
  toGroup_eq t _ := ⟨{
    name := nonEmpty t.family
    labels := .ofList (t.tags.map fun tag => (tag.key, tag.value))
    hostNetwork := t.networkMode == some "host"
    hostPid := t.pidMode == some "host" }, rfl⟩
  decodes_iff s d := by simp [ContainerDefinition.readIn_eq_ok_iff]
  name_eq s d c read := by
    obtain ⟨parts, _, rfl⟩ := ContainerDefinition.readIn_eq_ok_iff.1 read
    rfl
  blames s d err failed := by
    have known : FailsOnly _ (d.toContainer s.volumes) :=
      ContainerDefinition.failsOnly_toContainer (List.mem_singleton_self d.name)
    exact (known.bind (fun _ _ => .ok _) err failed).exists_field

end Ecs

namespace Kube

structure Shared where
  volumes : VolumeTable
  hostname : Option String

/-- The checks that come before the containers. -/
structure Pod.Passes (p : Pod) : Prop where
  kind : ∀ kind ∈ p.kind, kind = "Pod"
  labels : ∃ labels, Pairs.texts p.labels = .ok labels

def ContainerSpec.readIn (s : Shared) (spec : ContainerSpec) :
    Except ConversionError Container := do
  return { ← spec.toContainer s.volumes with hostname := s.hostname }

theorem ContainerSpec.readIn_eq_ok_iff {s : Shared} {spec : ContainerSpec} {c : Container} :
    spec.readIn s = .ok c ↔ ∃ parts, spec.Decodes parts ∧
      c = { spec.assemble s.volumes parts with hostname := s.hostname } :=
  return_eq_ok_iff fun _ => toContainer_eq_ok_iff

theorem Pod.Passes.toGroup_eq {p : Pod} (h : p.Passes) : ∃ frame : Group, p.toGroup = (do
    let containers ← p.containers.mapM (·.readIn ⟨p.volumeTable, p.hostname⟩)
    Group.finish formatName { frame with containers }) := by
  obtain ⟨labels, texts⟩ := h.labels
  refine ⟨{ name := p.name.bind nonEmpty, labels := labels,
            hostNetwork := p.hostNetwork, hostPid := p.hostPid }, ?_⟩
  unfold toGroup
  rw [texts]
  cases kind : p.kind with
  | none => rfl
  | some written =>
    cases h.kind written kind
    rfl

def reading : Reading Pod Shared ContainerSpec where
  format := formatName
  toGroup := Pod.toGroup
  Passes := Pod.Passes
  definitions := Pod.containers
  shared p := ⟨p.volumeTable, p.hostname⟩
  name := ContainerSpec.name
  Decodes s := ∃ parts, s.Decodes parts
  container := ContainerSpec.readIn
  toGroup_eq _ := Pod.Passes.toGroup_eq
  decodes_iff s spec := by simp [ContainerSpec.readIn_eq_ok_iff]
  name_eq s spec c read := by
    obtain ⟨parts, _, rfl⟩ := ContainerSpec.readIn_eq_ok_iff.1 read
    rfl
  blames s spec err failed := by
    have known : FailsOnly _ (spec.toContainer s.volumes) :=
      ContainerSpec.failsOnly_toContainer (List.mem_singleton_self spec.name)
    exact (known.bind (fun _ _ => .ok _) err failed).exists_field

theorem Pod.exists_structural_of_not_passes {p : Pod} (h : ¬p.Passes) :
    ∃ reason, p.toGroup = .error (.structural formatName reason) := by
  by_cases kind : ∀ kind ∈ p.kind, kind = "Pod"
  · cases texts : Pairs.texts p.labels with
    | ok labels => exact absurd ⟨kind, labels, texts⟩ h
    | error reason =>
      refine ⟨.groupLabel reason, ?_⟩
      unfold toGroup
      rw [texts]
      cases written : p.kind with
      | none => rfl
      | some written' =>
        cases kind written' written
        rfl
  · push Not at kind
    obtain ⟨kind, written, other⟩ := kind
    refine ⟨.wrongKind kind, ?_⟩
    unfold toGroup
    simp [Option.mem_def.1 written, other, throw, throwThe, MonadExceptOf.throw, bind, Except.bind]

theorem passes_iff {p : Pod} :
    reading.Passes p ↔ ∀ reason, p.toGroup ≠ .error (.structural formatName reason) := by
  constructor
  · intro passes reason failed
    obtain ⟨_, _, _, _, other⟩ | ⟨_, other⟩ := Reading.error_cases passes failed
    · cases other
    · cases other
  · intro other
    by_contra fails
    obtain ⟨reason, failed⟩ := Pod.exists_structural_of_not_passes fails
    exact other reason failed

end Kube

theorem containerwise_readings :
    Compose.reading.Containerwise ∧ Ecs.reading.Containerwise ∧ Kube.reading.Containerwise ∧
      (∀ p, Kube.reading.Passes p ↔
        ∀ reason, p.toGroup ≠ .error (.structural Kube.formatName reason)) ∧
      ∀ f, (Compose.reading.definitions f).Pairwise fun a b =>
        a.1.toUTF8.data.toList < b.1.toUTF8.data.toList :=
  ⟨Compose.reading.containerwise, Ecs.reading.containerwise, Kube.reading.containerwise,
    fun _ => Kube.passes_iff,
    fun f => f.services.ascending.imp Text.lt_iff_octets_lt.1⟩

end Workload
