import Workload.Proofs.Compose.Ingest
import Workload.Proofs.Shuffle

/-! Compose files that differ in the order of what has no order are read as such groups. -/
namespace Workload.Compose

/-- The text of a node, where it has one. -/
def text? (v : Value) : Option String := (v.string? .yaml).toOption

/-- The same pairs in another order, no name being given twice. They are the entries of a mapping
or `NAME=value` items. -/
inductive PairsShuffled : Value → Value → Prop
  | refl (v : Value) : PairsShuffled v v
  | mapping {es fs : List (Value × Value)} (perm : es.Perm fs)
      (names : (es.filterMap fun e => text? e.1).Nodup) : PairsShuffled (.mapping es) (.mapping fs)
  | list {xs ys : List Value} (perm : xs.Perm ys)
      (names : (xs.filterMap fun x => (text? x).map fun s => (Pairs.splitPair s).1).Nodup) :
      PairsShuffled (.list xs) (.list ys)
  | tagged (tag : String) {v w : Value} (h : PairsShuffled v w) :
      PairsShuffled (.tagged tag v) (.tagged tag w)

theorem decode_mapping_eq_ok_iff {es : List (Value × Value)} {d : Dict String} :
    Pairs.decode .yaml (.mapping es) = .ok d ↔
      ∃ named, es.mapM (fun e => (text? e.1).map (·, e.2)) = some named ∧
      ∃ scalars, named.mapM (fun e => (Scalar.ofValue? e.2).map (e.1, ·)) = some scalars ∧
        Pairs.texts (.ofList scalars) = .ok d := by
  have named : (Value.mapping es).stringEntries? .yaml =
    es.mapM fun e => (text? e.1).map (·, e.2) := rfl
  unfold Pairs.decode Pairs.scalars?
  rw [named]
  cases es.mapM fun e => (text? e.1).map (·, e.2) with
  | none => simp [Value.strings?, Value.untagged]
  | some named =>
    cases h : named.mapM fun e => (Scalar.ofValue? e.2).map (e.1, ·) with
    | none => simp [h, Value.strings?, Value.untagged]
    | some scalars => simp [h]

theorem decode_list_eq_ok_iff {xs : List Value} {d : Dict String} :
    Pairs.decode .yaml (.list xs) = .ok d ↔
      ∃ items, xs.mapM (Value.string? .yaml) = .ok items ∧ Pairs.ofList items = d := by
  have strings : (Value.list xs).strings? .yaml = xs.mapM (Value.string? .yaml) := rfl
  unfold Pairs.decode Pairs.scalars?
  rw [strings]
  cases xs.mapM (Value.string? .yaml) <;> simp [Value.stringEntries?, Value.untagged]

theorem decode_shuffled {v w : Value} {d : Dict String} (h : PairsShuffled v w)
    (read : Pairs.decode .yaml v = .ok d) : Pairs.decode .yaml w = .ok d := by
  induction h with
  | refl v => exact read
  | tagged tag _ ih => exact ih read
  | @mapping es fs perm names =>
    -- a mapping is read in two passes, keys and then values; both leave the names alone
    obtain ⟨named, hnamed, scalars, hscalars, htexts⟩ := decode_mapping_eq_ok_iff.1 read
    obtain ⟨named', hnamed', perm⟩ := option_list_mapM_perm perm hnamed
    obtain ⟨scalars', hscalars', perm⟩ := option_list_mapM_perm perm hscalars
    have first : es.filterMap (fun e => text? e.1) = named.map (·.1) := by
      refine filterMap_eq_map ((mapM_eq_some_iff.1 hnamed).imp ?_)
      intro e x h
      obtain ⟨name, hname, rfl⟩ := Option.map_eq_some_iff.1 h
      exact hname
    have second : named.map (·.1) = scalars.map (·.1) := by
      rw [← List.filterMap_eq_map]
      refine filterMap_eq_map ((mapM_eq_some_iff.1 hscalars).imp ?_)
      intro e x h
      obtain ⟨scalar, _, rfl⟩ := Option.map_eq_some_iff.1 h
      rfl
    rw [first, second] at names
    rw [Dict.ofList_perm perm names] at htexts
    exact decode_mapping_eq_ok_iff.2 ⟨named', hnamed', scalars', hscalars', htexts⟩
  | @list xs ys perm names =>
    obtain ⟨items, hitems, rfl⟩ := decode_list_eq_ok_iff.1 read
    obtain ⟨items', hitems', perm⟩ := mapM_perm perm hitems
    have keys : xs.filterMap (fun x => (text? x).map fun s => (Pairs.splitPair s).1) =
        (items.map Pairs.splitPair).map (·.1) := by
      rw [List.map_map]
      refine filterMap_eq_map ((mapM_eq_ok_iff.1 hitems).imp ?_)
      intro x s h
      rw [text?, h]
      rfl
    rw [keys] at names
    exact decode_list_eq_ok_iff.2 ⟨items', hitems', (Dict.ofList_perm (perm.map _) names).symm⟩

theorem decodePairs_some (v : Value) : decodePairs (some v) = Pairs.decode .yaml v := by
  unfold decodePairs
  rw [Option.mapM_some]
  cases Pairs.decode .yaml v <;> rfl

theorem decodePairs_shuffled {v w : Option Value} {d : Dict String}
    (h : Option.Rel PairsShuffled v w) (read : decodePairs v = .ok d) : decodePairs w = .ok d := by
  cases h with
  | none => exact read
  | some h =>
    rw [decodePairs_some] at read ⊢
    exact decode_shuffled h read

/-- The service with its ports, volumes, exposed ports, volume sources, variables and labels in
another order. -/
inductive Service.Shuffled (s : Service) : Service → Prop
  | intro {ports volumes expose : List Scalar} {volumesFrom : List String}
      {environment labels : Option Value}
      (hports : s.ports.Perm ports)
      (hvolumes : s.volumes.Perm volumes)
      (hexpose : s.expose.Perm expose)
      (hsources : s.volumesFrom.Perm volumesFrom)
      (hvariables : Option.Rel PairsShuffled s.environment environment)
      (hlabels : Option.Rel PairsShuffled s.labels labels) :
      Shuffled s { s with ports, volumes, expose, volumesFrom, environment, labels }

/-- The file with its services in another order, each of them matched under its own name. -/
inductive File.Shuffled : File → File → Prop
  | ofServices (version : Option Scalar) {xs ys : List (String × Service)}
      (names : (xs.map (·.1)).Nodup)
      (matched : Matched (fun x y => x.1 = y.1 ∧ x.2.Shuffled y.2) xs ys) :
      Shuffled (.ofServices version xs) (.ofServices version ys)

theorem toContainer_shuffled {name : String} {s t : Service} {c : Container} (h : s.Shuffled t)
    (read : s.toContainer name = .ok c) :
    ∃ c', t.toContainer name = .ok c' ∧ c.Shuffled c' := by
  obtain ⟨parts, decodes, rfl⟩ := Service.toContainer_eq_ok_iff.1 read
  obtain ⟨hports, hvolumes, hexpose, hsources, hvariables, hlabels⟩ := h
  obtain ⟨ports, hreadPorts, hports⟩ := mapM_perm hports decodes.ports
  obtain ⟨volumes, hreadVolumes, hvolumes⟩ := mapM_perm hvolumes decodes.volumes
  obtain ⟨expose, hreadExpose, hexpose⟩ := mapM_perm hexpose decodes.expose
  refine ⟨_, Service.toContainer_eq_ok_iff.2 ⟨{ parts with ports, volumes, expose },
    { decodes with
      environment := decodePairs_shuffled hvariables decodes.environment
      labels := decodePairs_shuffled hlabels decodes.labels
      ports := hreadPorts
      volumes := hreadVolumes
      expose := hreadExpose }, rfl⟩, ?_⟩
  exact .intro hports hvolumes hexpose hsources

theorem toGroup_shuffled {f f' : File} {g : Group} (h : f.Shuffled f') (read : f.toGroup = .ok g) :
    ∃ g', f'.toGroup = .ok g' ∧ (g.containers.map (·.name)).Nodup ∧ g.Shuffled g' := by
  obtain ⟨version, names, matched⟩ := h
  obtain ⟨cs, hcs, finished⟩ := File.toGroup_eq_ok_iff.1 read
  have names' := (matched.map_eq_perm fun _ _ h => h.1).nodup_iff.1 names
  -- services stand in a table, so they are read by name and not as the file lists them
  have listed := matched.of_perms (Dict.entries_ofList_perm names)
    (Dict.entries_ofList_perm names').symm
  have step (x y : String × Service) (c : Container) (h : x.1 = y.1 ∧ x.2.Shuffled y.2)
      (read : x.2.toContainer x.1 = .ok c) :
      ∃ c', y.2.toContainer y.1 = .ok c' ∧ c.Shuffled c' := by
    rw [← h.1]
    exact toContainer_shuffled h.2 read
  obtain ⟨ds, hds, matched⟩ := listed.mapM step hcs
  have shuffled : Group.Shuffled { containers := cs } { containers := ds } := .intro matched
  obtain ⟨g', hfinish, names, shuffled⟩ := shuffled.finish finished
  exact ⟨g', File.toGroup_eq_ok_iff.2 ⟨ds, hds, hfinish⟩, names, shuffled⟩

end Workload.Compose
