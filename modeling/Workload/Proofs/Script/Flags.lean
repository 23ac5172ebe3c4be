import Workload.Script.Emit
import Mathlib.Data.List.Pairwise

/-! The flags of a container by how they start. No start is the start of another one, so a flag
tells by itself which of them it is. -/
namespace Workload.Script

def Apart (p q : String) : Prop := ¬ p.toList <+: q.toList ∧ ¬ q.toList <+: p.toList

instance (p q : String) : Decidable (Apart p q) := by
  unfold Apart
  infer_instance

theorem Apart.symm {p q : String} (h : Apart p q) : Apart q p := And.symm h

theorem Apart.append_ne {p q : String} (h : Apart p q) (a b : String) : p ++ a ≠ q ++ b := by
  intro same
  have texts : p.toList ++ a.toList = q.toList ++ b.toList := by
    rw [← String.toList_append, same, String.toList_append]
  have first : p.toList <+: q.toList ++ b.toList := ⟨_, texts⟩
  rcases List.prefix_or_prefix_of_prefix first (List.prefix_append _ _) with within | beyond
  · exact h.1 within
  · exact h.2 beyond

def pairTexts (d : Dict String) : List String := d.entries.map fun (key, value) => key ++ "=" ++ value

def values (g : Group) (c : Container) : List (String × List String) := [
  ("--cpu-shares=", ((c.cpuShares.filter (0 < ·)).map fun n => numeral n.toNat).toList),
  ("--dns ", c.dns),
  ("--dns-search ", c.dnsSearch),
  ("--entrypoint=", (c.entrypoint.bind nonEmpty).toList),
  ("--env-file ", c.envFiles),
  ("--env ", pairTexts c.environment),
  ("--expose ", c.expose.map fun p => numeral p.toNat),
  ("--hostname=", (c.hostname.bind nonEmpty).toList),
  ("--label ", pairTexts c.labels),
  ("--link ", c.links),
  ("--log-driver ", (c.logging.map (·.driver)).toList),
  ("--log-opt ", (c.logging.map fun l => pairTexts l.options).getD []),
  ("--memory=", ((c.memory.filter (0 < ·)).map fun n => numeral n.toNat ++ "b").toList),
  ("--name ", (nonEmpty c.name).toList),
  ("--net-alias ", c.networks),
  ("--net ", (effectiveMode c.networkMode g.hostNetwork).toList),
  ("--pid ", (effectiveMode c.pid g.hostPid).toList),
  ("--publish ", c.ports.filterMap PortMapping.encode?),
  ("--privileged", if c.privileged then [""] else []),
  ("--stop-signal=", (c.stopSignal.bind nonEmpty).toList),
  ("--user=", (c.user.bind nonEmpty).toList),
  ("--volume ", c.volumes.map Volume.encode),
  ("--volumes-from ", c.volumesFrom),
  ("--workdir=", (c.workingDir.bind nonEmpty).toList)]

theorem setting_eq_each (flag : String) (value : Option String) :
    setting flag value = each flag value.toList := by
  cases value <;> rfl

theorem eachPair_eq_each (flag : String) (d : Dict String) :
    eachPair flag d = each flag (pairTexts d) := by
  simp [eachPair, each, pairTexts, String.append_assoc]

theorem logFlags_eq_each (logging : Option Logging) :
    logFlags logging = each "--log-driver " (logging.map (·.driver)).toList ++
      each "--log-opt " ((logging.map fun l => pairTexts l.options).getD []) := by
  cases logging with
  | none => rfl
  | some l => simp [logFlags, eachPair_eq_each, each]

theorem flags_eq_flatMap (g : Group) (c : Container) :
    flags g c = (values g c).flatMap fun e => each e.1 e.2 := by
  have privileged : (if c.privileged then ["--privileged"] else []) =
      each "--privileged" (if c.privileged then [""] else []) := by
    cases c.privileged <;> simp [each]
  unfold flags amount values
  simp only [setting_eq_each, eachPair_eq_each, logFlags_eq_each, privileged, String.append_empty,
    List.flatMap_cons, List.flatMap_nil, List.append_assoc, List.append_nil]

theorem pairwise_apart (g : Group) (c : Container) :
    ((values g c).map (·.1)).Pairwise Apart := by
  unfold values
  simp only [List.map_cons, List.map_nil]
  decide +kernel

theorem eq_or_apart {g : Group} {c : Container} {x y : String × List String}
    (hx : x ∈ values g c) (hy : y ∈ values g c) : x = y ∨ Apart x.1 y.1 := by
  let related (x y : String × List String) : Prop := x = y ∨ Apart x.1 y.1
  have : Std.Symm related := ⟨fun _ _ h => h.imp Eq.symm Apart.symm⟩
  have apart : (values g c).Pairwise related :=
    (List.pairwise_map.1 (pairwise_apart g c)).imp .inr
  exact apart.forall_of_forall (fun _ _ => .inl rfl) hx hy

theorem mem_flags_iff {g : Group} {c : Container} {start value : String} {given : List String}
    (h : (start, given) ∈ values g c) : start ++ value ∈ flags g c ↔ value ∈ given := by
  rw [flags_eq_flatMap, List.mem_flatMap]
  constructor
  · rintro ⟨entry, mem, found⟩
    obtain ⟨other, hother, same⟩ := List.mem_map.1 found
    rcases eq_or_apart mem h with rfl | apart
    · exact (String.append_right_inj _).1 same ▸ hother
    · exact absurd same (apart.append_ne other value)
  · intro mem
    exact ⟨_, h, List.mem_map_of_mem mem⟩

end Workload.Script
