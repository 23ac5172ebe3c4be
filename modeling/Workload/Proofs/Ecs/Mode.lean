import Workload.Format.Adapter
import Workload.Proofs.Order

/-! The modes that a task has as a whole. One is written if all containers have it. When it is not,
the first container in name order decides whether a warning says so: if that one has no mode, the
modes of the others are dropped without one. -/
namespace Workload.Ecs

theorem agreement_eq_agreed_iff {modes : List (Option String)} {mode : String} :
    agreement modes = .agreed mode ↔ modes ≠ [] ∧ ∀ m ∈ modes, m = some mode := by
  match modes with
  | [] => simp [agreement]
  | none :: rest => simp [agreement]
  | some first :: rest =>
    by_cases same : ∀ m ∈ rest, m = some first
    · have agreed : agreement (some first :: rest) = .agreed first := if_pos (by simpa using same)
      simp only [agreed, Agreement.agreed.injEq, ne_eq, reduceCtorEq, not_false_eq_true, true_and,
        List.forall_mem_cons, Option.some.injEq]
      constructor
      · rintro rfl
        exact ⟨rfl, same⟩
      · exact And.left
    · have disagreed : agreement (some first :: rest) = .disagreed := if_neg (by simpa using same)
      simp only [disagreed, reduceCtorEq, ne_eq, not_false_eq_true, true_and, false_iff,
        List.forall_mem_cons, Option.some.injEq, not_and]
      rintro rfl
      exact same

theorem taskMode_eq_some_iff {modes : List (Option String)} {mode : String} :
    taskMode false modes = some mode ↔ modes ≠ [] ∧ ∀ m ∈ modes, m = some mode := by
  rw [← agreement_eq_agreed_iff]
  cases h : agreement modes <;> simp [taskMode, h]

theorem agreement_eq_disagreed_iff {modes : List (Option String)} :
    agreement modes = .disagreed ↔ taskMode false modes = none ∧ modes.head?.join.isSome := by
  match modes with
  | [] => simp [agreement, taskMode]
  | none :: rest => simp [agreement, taskMode]
  | some first :: rest =>
    by_cases h : rest.all (· == some first) <;> simp [agreement, taskMode, h]

theorem count_modeWarnings (host : Bool) (modes : List (Option String)) :
    (modeWarnings host modes).count .ecsMode =
      if !host && (taskMode host modes).isNone && modes.head?.join.isSome then 1 else 0 := by
  unfold modeWarnings
  cases host with
  | true => rfl
  | false =>
    by_cases h : agreement modes = .disagreed
    · obtain ⟨unset, first⟩ := agreement_eq_disagreed_iff.1 h
      simp [h, unset, first]
    · have agree := mt agreement_eq_disagreed_iff.2 h
      simpa [h] using agree

theorem not_mem_containerWarnings (c : Container) : .ecsMode ∉ containerWarnings c := by
  simp [containerWarnings]

/-- A mode of the task: where a container says its own, how the group asks for that of the host,
and where the task says it. -/
structure Setting where
  own : Container → Option String
  host : Group → Bool
  written : TaskDefinition → Option String
  own_canonical : ∀ c, own c.canonical = own c
  host_canonical : ∀ g, host g.canonical = host g
  written_ofGroup : ∀ g, written (.ofGroup g) = taskMode (host g) (g.containers.map own)

def networkSetting : Setting where
  own := (·.networkMode)
  host := (·.hostNetwork)
  written := (·.networkMode)
  own_canonical _ := rfl
  host_canonical _ := rfl
  written_ofGroup _ := rfl

def pidSetting : Setting where
  own := (·.pid)
  host := (·.hostPid)
  written := (·.pidMode)
  own_canonical _ := rfl
  host_canonical _ := rfl
  written_ofGroup _ := rfl

def settings : List Setting := [networkSetting, pidSetting]

namespace Setting

/-- The task as it is written has no mode, although some container has one and the group does not
ask for that of the host. -/
def dropped (s : Setting) (g : Group) : Bool :=
  !s.host g && (s.written (.ofGroup g.canonical)).isNone &&
    g.containers.any fun c => (s.own c).isSome

def leads (s : Setting) (g : Group) : Bool :=
  ((sortContainers g.containers).head?.bind s.own).isSome

theorem map_canonical (s : Setting) (g : Group) :
    g.canonical.containers.map s.own = (sortContainers g.containers).map s.own := by
  unfold Group.canonical
  rw [List.map_map]
  exact List.map_congr_left fun c _ => s.own_canonical c

theorem written_canonical (s : Setting) (g : Group) :
    s.written (.ofGroup g.canonical) =
      taskMode (s.host g) ((sortContainers g.containers).map s.own) := by
  rw [s.written_ofGroup, s.host_canonical, s.map_canonical]

theorem written_eq_some_iff {s : Setting} {g : Group} (host : s.host g = false) (mode : String) :
    s.written (.ofGroup g.canonical) = some mode ↔
      g.containers ≠ [] ∧ ∀ c ∈ g.containers, s.own c = some mode := by
  have nil : sortContainers g.containers = [] ↔ g.containers = [] := by
    rw [← List.length_eq_zero_iff, (sortContainers_perm _).length_eq, List.length_eq_zero_iff]
  rw [s.written_canonical, host, taskMode_eq_some_iff]
  simp [nil]

theorem count_modeWarnings_canonical (s : Setting) (g : Group) :
    (modeWarnings (s.host g.canonical) (g.canonical.containers.map s.own)).count .ecsMode =
      if s.dropped g && s.leads g then 1 else 0 := by
  have head : ((sortContainers g.containers).map s.own).head?.join =
      (sortContainers g.containers).head?.bind s.own := by
    cases sortContainers g.containers <;> rfl
  have some_own (h : s.leads g) : g.containers.any fun c => (s.own c).isSome := by
    obtain ⟨mode, hmode⟩ := Option.isSome_iff_exists.1 h
    obtain ⟨c, hc, own⟩ := Option.bind_eq_some_iff.1 hmode
    rw [List.any_eq_true]
    exact ⟨c, mem_sortContainers.1 (List.mem_of_head? hc), Option.isSome_iff_exists.2 ⟨mode, own⟩⟩
  rw [count_modeWarnings, s.host_canonical, s.map_canonical, ← s.written_canonical, head]
  unfold dropped leads at *
  by_cases h : ((sortContainers g.containers).head?.bind s.own).isSome
  · simp only [h, some_own h, Bool.and_true]
  · simp [h]

end Setting

theorem count_warnings (g : Group) :
    (warnings g.canonical).count .ecsMode = settings.countP fun s => s.dropped g && s.leads g := by
  have fields : (g.canonical.containers.flatMap containerWarnings).count .ecsMode = 0 := by
    rw [List.count_eq_zero, List.mem_flatMap]
    rintro ⟨c, _, hc⟩
    exact not_mem_containerWarnings c hc
  have network := networkSetting.count_modeWarnings_canonical g
  have pid := pidSetting.count_modeWarnings_canonical g
  have all : warnings g.canonical =
      g.canonical.containers.flatMap containerWarnings ++
        modeWarnings (networkSetting.host g.canonical)
          (g.canonical.containers.map networkSetting.own) ++
        modeWarnings (pidSetting.host g.canonical)
          (g.canonical.containers.map pidSetting.own) := rfl
  rw [all, List.count_append, List.count_append, fields, network, pid, settings,
    List.countP_cons, List.countP_singleton]
  omega

/-- Without the mode of the host a task has the mode that all its containers have. One warning is
logged for each mode that is dropped, but only if the first container in name order has one. -/
theorem written_mode_iff (g : Group) :
    (∀ s ∈ settings, s.host g = false → ∀ mode, s.written (.ofGroup g.canonical) = some mode ↔
      g.containers ≠ [] ∧ ∀ c ∈ g.containers, s.own c = some mode) ∧
    ∀ indent, ((emitter indent).emit g).warnings.count .ecsMode =
      settings.countP fun s => s.dropped g && s.leads g := by
  constructor
  · intro s _ host mode
    exact Setting.written_eq_some_iff host mode
  · intro indent
    exact count_warnings g

def mixed : Group where
  containers := [
    { name := "web", networkMode := some "awsvpc", pid := some "task" },
    { name := "db", networkMode := some "bridge" }]

theorem written_mode_iff_mixed :
    mixed.hostNetwork = false ∧ mixed.hostPid = false ∧
    (∀ mode, networkSetting.written (.ofGroup mixed.canonical) ≠ some mode) ∧
    (∀ mode, pidSetting.written (.ofGroup mixed.canonical) ≠ some mode) ∧
    ((emitter 4).emit mixed).warnings.count .ecsMode = 1 := by
  obtain ⟨modes, warned⟩ := written_mode_iff mixed
  have order : sortContainers mixed.containers = mixed.containers.reverse :=
    (sortContainers_congr (List.reverse_perm _).symm (by decide)).trans
      (sortContainers_of_ascending (by decide))
  have network : (networkSetting.dropped mixed && networkSetting.leads mixed) = true := by
    unfold Setting.dropped Setting.leads
    rw [networkSetting.written_canonical, order]
    decide
  have pid : pidSetting.leads mixed = false := by
    unfold Setting.leads
    rw [order]
    decide
  refine ⟨rfl, rfl, ?_, ?_, ?_⟩
  · intro mode h
    obtain ⟨_, all⟩ := (modes networkSetting List.mem_cons_self rfl mode).1 h
    have web : some "awsvpc" = some mode := all _ List.mem_cons_self
    have db : some "bridge" = some mode := all _ (List.mem_cons_of_mem _ List.mem_cons_self)
    exact absurd (web.trans db.symm) (by decide)
  · intro mode h
    obtain ⟨_, all⟩ := (modes pidSetting (List.mem_cons_of_mem _ List.mem_cons_self) rfl mode).1 h
    have db : none = some mode := all _ (List.mem_cons_of_mem _ List.mem_cons_self)
    cases db
  · rw [warned 4, settings, List.countP_cons, List.countP_singleton, network, pid]
    simp

theorem dropped_mode_unreported :
    ¬ ∀ (g : Group) (indent : Nat), ∀ s ∈ settings, s.dropped g →
      .ecsMode ∈ ((emitter indent).emit g).warnings := by
  intro h
  let g : Group := {
    containers := [{ name := "a" }, { name := "b", networkMode := some "bridge" }] }
  have order : sortContainers g.containers = g.containers := sortContainers_of_ascending (by decide)
  have dropped : networkSetting.dropped g = true := by
    unfold Setting.dropped
    rw [networkSetting.written_canonical, order]
    decide
  have silent : (warnings g.canonical).count .ecsMode = 0 := by
    rw [count_warnings]
    unfold Setting.leads
    rw [order]
    simp [settings, networkSetting, pidSetting, g]
  exact List.count_eq_zero.1 silent (h g 4 networkSetting (by simp [settings]) dropped)

end Workload.Ecs
