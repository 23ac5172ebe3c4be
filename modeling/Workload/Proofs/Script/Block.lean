import Workload.Proofs.Port
import Workload.Proofs.Script.Flags

/-! The block of a container as it is documented: the flags by the fields they come from, and the
lines between which they stand. -/
namespace Workload.Script

def scalar : Option String → List String
  | none => []
  | some s => if s = "" then [] else [s]

def positive : Option UInt64 → List String
  | none => []
  | some n => if n = 0 then [] else [numeral n.toNat]

def mode (own : Option String) (host : Bool) : List String :=
  match scalar own, host with
  | [], true => ["host"]
  | given, _ => given

/-- The flags in the documented order, each with the values it is given. -/
def documented (g : Group) (c : Container) : List (String × List String) := [
  ("--cpu-shares=", positive c.cpuShares),
  ("--dns ", c.dns),
  ("--dns-search ", c.dnsSearch),
  ("--entrypoint=", scalar c.entrypoint),
  ("--env-file ", c.envFiles),
  ("--env ", pairTexts c.environment),
  ("--expose ", c.expose.map fun p => numeral p.toNat),
  ("--hostname=", scalar c.hostname),
  ("--label ", pairTexts c.labels),
  ("--link ", c.links),
  ("--log-driver ", c.logging.toList.map (·.driver)),
  ("--log-opt ", c.logging.toList.flatMap fun l => pairTexts l.options),
  ("--memory=", (positive c.memory).map (· ++ "b")),
  ("--name ", scalar (some c.name)),
  ("--net-alias ", c.networks),
  ("--net ", mode c.networkMode g.hostNetwork),
  ("--pid ", mode c.pid g.hostPid),
  ("--publish ", (c.ports.filter fun p => p.hostPort ≠ 0 ∨ p.containerPort ≠ 0).map
    fun p => p.encode?.getD ""),
  ("--privileged", if c.privileged then [""] else []),
  ("--stop-signal=", scalar c.stopSignal),
  ("--user=", scalar c.user),
  ("--volume ", c.volumes.map Volume.encode),
  ("--volumes-from ", c.volumesFrom),
  ("--workdir=", scalar c.workingDir)]

theorem toList_bind_nonEmpty (value : Option String) :
    (value.bind nonEmpty).toList = scalar value := by
  cases value with
  | none => rfl
  | some s =>
    simp only [Option.bind_some, nonEmpty, scalar, String.isEmpty_iff]
    split <;> rfl

theorem toList_filter_pos (n : Option UInt64) (unit : String) :
    ((n.filter (0 < ·)).map fun n => numeral n.toNat ++ unit).toList =
      (positive n).map (· ++ unit) := by
  cases n with
  | none => rfl
  | some n =>
    by_cases zero : n = 0
    · simp [positive, zero, Option.filter]
    · simp [positive, zero, Option.filter, UInt64.pos_iff_ne_zero]

theorem toList_effectiveMode (own : Option String) (host : Bool) :
    (effectiveMode own host).toList = mode own host := by
  have given := toList_bind_nonEmpty own
  unfold effectiveMode mode
  rw [← given]
  cases own.bind nonEmpty <;> cases host <;> rfl

theorem filterMap_encode? (ps : List PortMapping) :
    ps.filterMap PortMapping.encode? =
      (ps.filter fun p => p.hostPort ≠ 0 ∨ p.containerPort ≠ 0).map fun p => p.encode?.getD "" := by
  induction ps with
  | nil => rfl
  | cons p ps ih =>
    cases written : p.encode? with
    | none =>
      obtain ⟨host, container⟩ := PortMapping.encode?_eq_none_iff.1 written
      simp [written, host, container, ih]
    | some s =>
      have shown : p.hostPort ≠ 0 ∨ p.containerPort ≠ 0 := by
        rw [← not_and_or, ← PortMapping.encode?_eq_none_iff, written]
        nofun
      rw [List.filterMap_cons_some written, List.filter_cons_of_pos (by simpa using shown),
        List.map_cons, ih, written, Option.getD_some]

theorem values_eq_documented (g : Group) (c : Container) : values g c = documented g c := by
  have shares := toList_filter_pos c.cpuShares ""
  simp only [String.append_empty, List.map_id'] at shares
  have name : (nonEmpty c.name).toList = scalar (some c.name) := toList_bind_nonEmpty (some c.name)
  simp only [values, documented, toList_bind_nonEmpty, toList_filter_pos, toList_effectiveMode,
    filterMap_encode?, shares, name]
  cases c.logging <;> simp

/-! Lines. -/

def heading (c : Container) : String := "######## " ++ c.name ++ " ########"

/-- The image, and on a line of its own the command that runs in it, unless that is empty. -/
def closing (c : Container) : List String :=
  match scalar c.command with
  | [] => ["    " ++ c.image.getD ""]
  | run :: _ => ["    " ++ c.image.getD "" ++ " \\", "        " ++ run]

def flagLines (g : Group) (c : Container) : List String :=
  (documented g c).flatMap fun (flag, given) => given.map ("    " ++ flag ++ · ++ " \\")

def command (g : Group) (c : Container) : List String :=
  "docker run \\" :: flagLines g c ++ closing c

theorem lastLines_eq (c : Container) : lastLines c = closing c := by
  rw [lastLines, closing, ← toList_bind_nonEmpty]
  cases c.command.bind nonEmpty <;> rfl

theorem map_flags_eq (g : Group) (c : Container) :
    (flags g c).map (fun flag => "    " ++ flag ++ " \\") = flagLines g c := by
  rw [flags_eq_flatMap, values_eq_documented, List.map_flatMap]
  simp [flagLines, each, Function.comp_def, String.append_assoc]

theorem block_eq (g : Group) (c : Container) : block g c = heading c :: command g c := by
  have lines : (flags g c).map (fun flag => "    " ++ flag ++ continued) = flagLines g c :=
    map_flags_eq g c
  rw [block, lines, lastLines_eq]
  rfl

theorem mem_flagLines_iff {g : Group} {c : Container} {start value : String} {given : List String}
    (h : (start, given) ∈ values g c) :
    "    " ++ start ++ value ++ " \\" ∈ flagLines g c ↔ value ∈ given := by
  have line : "    " ++ start ++ value ++ " \\" = "    " ++ (start ++ value) ++ " \\" := by
    simp [String.append_assoc]
  have injective : Function.Injective fun flag : String => "    " ++ flag ++ " \\" := by
    intro a b same
    exact (String.append_right_inj _).1 ((String.append_left_inj _).1 same)
  rw [← map_flags_eq, line, ← mem_flags_iff h]
  exact List.mem_map_of_injective injective

theorem emit_eq_join (g : Group) :
    emit g = String.join (g.containers.map fun c =>
      String.join ((heading c :: command g c).map (· ++ "\n"))) := by
  unfold emit
  induction g.containers with
  | nil => rfl
  | cons c cs ih =>
    rw [List.flatMap_cons, List.map_append, String.join_append, ih, block_eq]
    exact String.join_cons.symm

end Workload.Script
