import Workload.Format.Adapter
import Workload.Proofs.Dict
import Workload.Proofs.Ecs.Volumes

/-! Health checks that are left out. Compose files and task definitions hold the first check that
runs a command, scripts hold none. Each output has warnings of its own for the others; those of a
task definition end at the first command, so a second one is left out without any. -/
namespace Workload

def Warning.IsAboutChecks (container : String) : Warning → Prop
  | .composeHttpProbe c | .composeSecondCheck c | .ecsHttpProbe c | .scriptHealthChecks c =>
    c = container
  | .composeLabels _ | .ecsField _ _ | .ecsMode | .scriptLabels _ | .scriptBuild _ => False

/-- One of the warnings says that health checks of a container by that name are left out. -/
def ReportsChecks (ws : List Warning) (container : String) : Prop :=
  ∃ w ∈ ws, w.IsAboutChecks container

/-- The output has fewer checks than the container, and no warning says so. -/
def DropsChecks (e : Emission) (c : Container) (carried : Nat) : Prop :=
  carried < c.healthChecks.length ∧ ¬ ReportsChecks e.warnings c.name

def Group.withoutChecks (g : Group) : Group :=
  { g with containers := g.containers.map fun c => { c with healthChecks := [] } }

section Reports
variable {name : String}

@[simp] theorem reportsChecks_nil : ¬ ReportsChecks [] name := by
  simp [ReportsChecks]

@[simp] theorem reportsChecks_cons {w : Warning} {ws : List Warning} :
    ReportsChecks (w :: ws) name ↔ w.IsAboutChecks name ∨ ReportsChecks ws name := by
  simp [ReportsChecks]

@[simp] theorem reportsChecks_append {as bs : List Warning} :
    ReportsChecks (as ++ bs) name ↔ ReportsChecks as name ∨ ReportsChecks bs name := by
  simp only [ReportsChecks, List.mem_append, or_and_right, exists_or]

theorem reportsChecks_map {α : Type} {f : α → Warning} {xs : List α} :
    ReportsChecks (xs.map f) name ↔ ∃ x ∈ xs, (f x).IsAboutChecks name := by
  simp [ReportsChecks]

theorem reportsChecks_flatMap {f : Container → List Warning} {R : Container → Prop}
    (h : ∀ c, ReportsChecks (f c) name ↔ c.name = name ∧ R c) (cs : List Container) :
    ReportsChecks (cs.flatMap f) name ↔ ∃ c ∈ cs, c.name = name ∧ R c := by
  induction cs with
  | nil => simp
  | cons c cs ih => simp [List.flatMap_cons, h, ih]

end Reports

theorem isSome_firstCommand {α : Type} (f : HealthCheck → String → α) (checks : List HealthCheck) :
    (do
      let check ← checks.find? (!·.isHttp)
      let command ← check.execCommand?
      return f check command : Option α).isSome = checks.any (!·.isHttp) := by
  have runs (check : HealthCheck) : check.execCommand?.isSome = !check.isHttp := by
    unfold HealthCheck.execCommand? HealthCheck.isHttp
    cases check.probe <;> rfl
  cases found : checks.find? (!·.isHttp) with
  | none => simpa using found
  | some check =>
    have command := List.find?_some found
    have any : checks.any (!·.isHttp) = true :=
      List.any_eq_true.2 ⟨check, List.mem_of_find?_eq_some found, command⟩
    rw [← runs] at command
    obtain ⟨text, htext⟩ := Option.isSome_iff_exists.1 command
    simp [htext, any]

namespace Compose

/-- A file holds all of these checks: they are commands, and not more than so many. -/
def HoldsAll (checks : List HealthCheck) (execs : Nat) : Prop :=
  (∀ check ∈ checks, check.isHttp = false) ∧ checks.length ≤ execs

theorem reportsChecks_checkWarnings {container name : String} {execs : Nat}
    {checks : List HealthCheck} :
    ReportsChecks (checkWarnings container execs checks) name ↔
      container = name ∧ ¬ HoldsAll checks execs := by
  induction checks generalizing execs with
  | nil => simp [checkWarnings, HoldsAll]
  | cons check checks ih =>
    unfold checkWarnings
    by_cases http : check.isHttp
    · have dropped : ¬ HoldsAll (check :: checks) execs := by simp [HoldsAll, http]
      rw [if_pos http, reportsChecks_cons, ih, and_iff_left dropped]
      exact or_iff_left_of_imp And.left
    · cases execs with
      | zero => simp [http, HoldsAll, Warning.IsAboutChecks]
      | succ execs => simp [http, ih, HoldsAll]

theorem reportsChecks_warnings {name : String} {g : Group} :
    ReportsChecks (warnings g) name ↔
      ∃ c ∈ g.containers, c.name = name ∧ ¬ HoldsAll c.healthChecks 1 := by
  have own (c : Container) : ReportsChecks (checkWarnings c.name 1 c.healthChecks) name ↔
      c.name = name ∧ ¬ HoldsAll c.healthChecks 1 := reportsChecks_checkWarnings
  unfold warnings
  rw [reportsChecks_append, reportsChecks_flatMap own]
  split <;> simp [Warning.IsAboutChecks]

theorem exists_service {version : String} {g : Group} {c : Container} (hc : c ∈ g.containers) :
    ∃ d ∈ g.containers, d.name = c.name ∧
      (File.ofGroup version g).services.find? c.name = some (.ofContainer g d) := by
  let services := g.containers.map fun c => (c.name, Service.ofContainer g c)
  have key : c.name ∈ services.reverse.map (·.1) := by
    rw [List.map_reverse, List.mem_reverse]
    exact List.mem_map_of_mem (List.mem_map_of_mem hc)
  have found : ((Dict.ofList services).find? c.name).isSome := by
    rw [Dict.find?_ofList]
    exact Dict.isSome_lookup_iff.2 key
  obtain ⟨s, hs⟩ := Option.isSome_iff_exists.1 found
  obtain ⟨d, hd, heq⟩ := List.mem_map.1 (Dict.mem_of_find?_ofList hs)
  obtain ⟨same, rfl⟩ := Prod.mk.inj heq
  exact ⟨d, hd, same, hs⟩

theorem length_ofChecks? (checks : List HealthCheck) :
    (HealthSection.ofChecks? checks).toList.length = if checks.any (!·.isHttp) then 1 else 0 := by
  rw [Option.length_toList, HealthSection.ofChecks?, isSome_firstCommand]

/-- Only a container that takes the place of another one under their name hides a check. -/
theorem dropsChecks_service {version : String} {g : Group} {c : Container}
    (hc : c ∈ g.containers) :
    ∃ s, (File.ofGroup version g.canonical).services.find? c.name = some s ∧
      (DropsChecks ((emitter version).emit g) c s.healthcheck.toList.length →
        ∃ d ∈ g.containers, d.name = c.name ∧ d.healthChecks = []) := by
  have hcanonical : c.canonical ∈ g.canonical.containers :=
    List.mem_map_of_mem (mem_sortContainers.2 hc)
  obtain ⟨d, hd, same, found⟩ := @exists_service version g.canonical c.canonical hcanonical
  refine ⟨_, found, ?_⟩
  rintro ⟨fewer, silent⟩
  have held : ∀ b ∈ g.canonical.containers, b.name = c.name → HoldsAll b.healthChecks 1 := by
    intro b hb hname
    by_contra dropped
    exact silent (reportsChecks_warnings.2 ⟨b, hb, hname, dropped⟩)
  have single : c.healthChecks.length ≤ 1 := (held _ hcanonical rfl).2
  have empty : d.healthChecks = [] := by
    have fewer : (HealthSection.ofChecks? d.healthChecks).toList.length <
        c.healthChecks.length := fewer
    have commands := (held d hd same).1
    rw [length_ofChecks?] at fewer
    cases hchecks : d.healthChecks with
    | nil => rfl
    | cons check checks =>
      rw [hchecks] at commands fewer
      simp only [List.any_cons, commands check List.mem_cons_self, Bool.not_false, Bool.true_or,
        if_true] at fewer
      omega
  exact (g.exists_mem_canonical_iff fun _ => .rfl).1 ⟨d, hd, same, empty⟩

end Compose

namespace Ecs

def StartsWithProbe (checks : List HealthCheck) : Prop := ∃ check ∈ checks.head?, check.isHttp

theorem reportsChecks_warnings {name : String} {g : Group} :
    ReportsChecks (warnings g) name ↔
      ∃ c ∈ g.containers, c.name = name ∧ StartsWithProbe c.healthChecks := by
  have own (c : Container) : ReportsChecks (containerWarnings c) name ↔
      c.name = name ∧ StartsWithProbe c.healthChecks := by
    unfold containerWarnings StartsWithProbe
    rw [reportsChecks_append, reportsChecks_map, reportsChecks_map]
    cases c.healthChecks with
    | nil => simp [Warning.IsAboutChecks]
    | cons check checks =>
      by_cases http : check.isHttp <;> simp [http, Warning.IsAboutChecks]
  have modes (host : Bool) (modes : List (Option String)) :
      ¬ ReportsChecks (modeWarnings host modes) name := by
    unfold modeWarnings
    split <;> simp [Warning.IsAboutChecks]
  unfold warnings
  rw [reportsChecks_append, reportsChecks_append, reportsChecks_flatMap own]
  simp [modes]

theorem length_ofChecks? (checks : List HealthCheck) :
    (CheckDefinition.ofChecks? checks).toList.length = if checks.any (!·.isHttp) then 1 else 0 := by
  rw [Option.length_toList, CheckDefinition.ofChecks?, isSome_firstCommand]

theorem dropsChecks_iff {indent : Nat} {g : Group} {c : Container} (hc : c ∈ g.containers) :
    DropsChecks ((emitter indent).emit g) c
        (CheckDefinition.ofChecks? c.healthChecks).toList.length ↔
      2 ≤ c.healthChecks.length ∧
        ∀ d ∈ g.containers, d.name = c.name → ¬ StartsWithProbe d.healthChecks := by
  have reported : ReportsChecks ((emitter indent).emit g).warnings c.name ↔
      ∃ d ∈ g.containers, d.name = c.name ∧ StartsWithProbe d.healthChecks :=
    reportsChecks_warnings.trans (g.exists_mem_canonical_iff fun _ => .rfl)
  unfold DropsChecks
  rw [reported, length_ofChecks?]
  simp only [not_exists, not_and]
  refine and_congr_left ?_
  intro silent
  have first := silent c hc rfl
  cases hchecks : c.healthChecks with
  | nil => simp
  | cons check checks =>
    have command : check.isHttp = false := by simpa [StartsWithProbe, hchecks] using first
    simp only [List.any_cons, command, Bool.not_false, Bool.true_or, if_true]
    exact .rfl

end Ecs

namespace Script

theorem reportsChecks_warnings {name : String} {g : Group} :
    ReportsChecks (warnings g) name ↔
      ∃ c ∈ g.containers, c.name = name ∧ c.healthChecks ≠ [] := by
  have own (c : Container) : ReportsChecks (containerWarnings c) name ↔
      c.name = name ∧ c.healthChecks ≠ [] := by
    unfold containerWarnings
    rw [reportsChecks_append]
    split <;> split <;> simp_all [Warning.IsAboutChecks]
  unfold warnings
  rw [reportsChecks_append, reportsChecks_flatMap own]
  split <;> simp [Warning.IsAboutChecks]

theorem emit_withoutChecks (g : Group) : emit g.withoutChecks = emit g := by
  unfold emit Group.withoutChecks
  rw [List.flatMap_map]
  rfl

end Script

/-- What each output tells of the checks that it leaves out. A compose file tells of all, unless a
container of the same name has taken the place of one that had a check. A task definition keeps
silent about the further checks of a container that has a command as its first one. A script holds
no checks, and tells so. -/
theorem dropsChecks_emit (g : Group) :
    (∀ version, ∀ c ∈ g.containers, ∃ s,
      (Compose.File.ofGroup version g.canonical).services.find? c.name = some s ∧
      (DropsChecks ((Compose.emitter version).emit g) c s.healthcheck.toList.length →
        ∃ d ∈ g.containers, d.name = c.name ∧ d.healthChecks = [])) ∧
    (∀ indent, List.Forall₂ (fun c d => d.name = c.name ∧
        (DropsChecks ((Ecs.emitter indent).emit g) c d.healthCheck.toList.length ↔
          2 ≤ c.healthChecks.length ∧
            ∀ b ∈ g.containers, b.name = c.name → ¬ Ecs.StartsWithProbe b.healthChecks))
      (sortContainers g.containers) (Ecs.TaskDefinition.ofGroup g.canonical).containerDefinitions) ∧
    Script.emit g.withoutChecks = Script.emit g ∧
    ∀ c ∈ g.containers, ¬ DropsChecks (Script.emitter.emit g) c 0 := by
  refine ⟨?_, ?_, Script.emit_withoutChecks g, ?_⟩
  · intro version c hc
    exact Compose.dropsChecks_service hc
  · intro indent
    have members := (List.forall₂_and_left _ _).2
      ⟨fun c hc => mem_sortContainers.1 hc, Ecs.forall₂_definitions g⟩
    refine members.imp ?_
    rintro c _ ⟨hc, points, rfl⟩
    exact ⟨rfl, Ecs.dropsChecks_iff hc⟩
  · rintro c hc ⟨fewer, silent⟩
    exact silent (Script.reportsChecks_warnings.2 ⟨c, hc, rfl, List.ne_nil_of_length_pos fewer⟩)

def twoCommands : Container := { name := "db", healthChecks := [.exec "ping", .exec "query"] }

def probeFirst : Container :=
  { name := "web", healthChecks := [{ probe := .http { port := 80 } }, .exec "true"] }

theorem dropsChecks_emit_pair :
    let g : Group := { containers := [twoCommands, probeFirst] }
    let task := Ecs.TaskDefinition.ofGroup g.canonical
    (∃ s, (Compose.File.ofGroup "2" g.canonical).services.find? "db" = some s ∧
      ¬ DropsChecks ((Compose.emitter "2").emit g) twoCommands s.healthcheck.toList.length) ∧
    (∃ d ∈ task.containerDefinitions, d.name = "db" ∧
      DropsChecks ((Ecs.emitter 4).emit g) twoCommands d.healthCheck.toList.length) ∧
    (∃ d ∈ task.containerDefinitions, d.name = "web" ∧
      ¬ DropsChecks ((Ecs.emitter 4).emit g) probeFirst d.healthCheck.toList.length) ∧
    ¬ DropsChecks (Script.emitter.emit g) twoCommands 0 := by
  intro g task
  obtain ⟨compose, ecs, _, script⟩ := dropsChecks_emit g
  have order : sortContainers g.containers = [twoCommands, probeFirst] :=
    sortContainers_of_ascending (by decide)
  have definitions := ecs 4
  rw [order] at definitions
  obtain ⟨db, rest, ⟨dbName, dbDrops⟩, others, hdb⟩ := List.forall₂_cons_left_iff.1 definitions
  obtain ⟨web, _, ⟨webName, webDrops⟩, _, rfl⟩ := List.forall₂_cons_left_iff.1 others
  have hdb : task.containerDefinitions = db :: web :: _ := hdb
  have mem : twoCommands ∈ g.containers ∧ probeFirst ∈ g.containers := by simp [g]
  have commands : ∀ d ∈ g.containers, d.name = "db" → ¬ Ecs.StartsWithProbe d.healthChecks := by
    simp [g, twoCommands, probeFirst, Ecs.StartsWithProbe, HealthCheck.exec, HealthCheck.isHttp]
  refine ⟨?_, ⟨db, by simp [hdb], dbName, dbDrops.2 ⟨by decide, commands⟩⟩,
    ⟨web, by simp [hdb], webName, ?_⟩, script _ mem.1⟩
  · obtain ⟨s, found, hidden⟩ := compose "2" twoCommands mem.1
    refine ⟨s, found, ?_⟩
    intro dropped
    obtain ⟨d, hd, _, unchecked⟩ := hidden dropped
    simp only [g, List.mem_cons, List.not_mem_nil, or_false] at hd
    rcases hd with rfl | rfl <;> cases unchecked
  · intro dropped
    exact (webDrops.1 dropped).2 _ mem.2 rfl ⟨_, rfl, rfl⟩

theorem second_command_unreported :
    ¬ ∀ (g : Group) (indent : Nat), List.Forall₂ (fun c d =>
        ¬ DropsChecks ((Ecs.emitter indent).emit g) c d.healthCheck.toList.length)
      (sortContainers g.containers)
      (Ecs.TaskDefinition.ofGroup g.canonical).containerDefinitions := by
  intro h
  let g : Group := { containers := [twoCommands] }
  have order : sortContainers g.containers = [twoCommands] :=
    sortContainers_of_ascending (List.pairwise_singleton _ _)
  have reported := h g 4
  have definitions := Ecs.forall₂_definitions g
  rw [order] at reported definitions
  obtain ⟨d, _, keeps, _, hd⟩ := List.forall₂_cons_left_iff.1 reported
  obtain ⟨_, _, ⟨points, rfl⟩, _, heq⟩ := List.forall₂_cons_left_iff.1 definitions
  rw [hd] at heq
  cases heq
  have drops : DropsChecks ((Ecs.emitter 4).emit g) twoCommands
      (Ecs.CheckDefinition.ofChecks? twoCommands.healthChecks).toList.length := by
    rw [Ecs.dropsChecks_iff (by simp [g])]
    simp [g, twoCommands, Ecs.StartsWithProbe, HealthCheck.exec, HealthCheck.isHttp]
  exact keeps drops

end Workload
