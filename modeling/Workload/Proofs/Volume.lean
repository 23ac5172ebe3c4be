import Workload.Codec.Volume
import Workload.Proofs.Text

/-! Volumes read back from their texts. The one kind that does not is a read-only volume without a
host path: its two parts are read as a host path and a container path. -/
namespace Workload.Volume

/-- Paths that a text has room for: none is empty, and no colon is in them. -/
structure PlainPaths (v : Volume) : Prop where
  container_ne : v.container ≠ ""
  container_colon : ':' ∉ v.container.toList
  host_ne : ∀ host ∈ v.host, host ≠ ""
  host_colon : ∀ host ∈ v.host, ':' ∉ host.toList

def parts (v : Volume) : List String :=
  v.host.toList ++ v.container :: if v.readOnly then ["ro"] else []

theorem PlainPaths.ne_of_mem_parts {v : Volume} (plain : v.PlainPaths) :
    ∀ s ∈ v.parts, s ≠ "" := by
  intro s hs
  simp only [parts, List.mem_append, Option.mem_toList, List.mem_cons, List.mem_ite_nil_right,
    List.not_mem_nil, or_false] at hs
  rcases hs with hs | rfl | ⟨_, rfl⟩
  · exact plain.host_ne s hs
  · exact plain.container_ne
  · decide

theorem PlainPaths.colon_of_mem_parts {v : Volume} (plain : v.PlainPaths) :
    ∀ s ∈ v.parts, ':' ∉ s.toList := by
  intro s hs
  simp only [parts, List.mem_append, Option.mem_toList, List.mem_cons, List.mem_ite_nil_right,
    List.not_mem_nil, or_false] at hs
  rcases hs with hs | rfl | ⟨_, rfl⟩
  · exact plain.host_colon s hs
  · exact plain.container_colon
  · decide

theorem parts_ne_nil (v : Volume) : v.parts ≠ [] := by
  simp [parts]

theorem encode_eq_joinWith {v : Volume} (plain : v.PlainPaths) :
    encode v = joinWith ':' v.parts := by
  obtain ⟨host, container, readOnly⟩ := v
  have hsep := plain.colon_of_mem_parts
  have hne : ∀ s ∈ parts ⟨host, container, readOnly⟩, s.toList ≠ [] := by
    intro s hs
    simpa using plain.ne_of_mem_parts s hs
  let pieces := (parts ⟨host, container, readOnly⟩).map String.toList
  have trim (pre post : List Char) (hpre : ∀ c ∈ pre, c = ':') (hpost : ∀ c ∈ post, c = ':') :
      Text.trimWhile (· == ':') (pre ++ Text.join ':' pieces ++ post) = Text.join ':' pieces :=
    Text.trimWhile_join hpre (by simpa [pieces] using hsep) (by simpa [pieces] using hne)
      (by simp [pieces, parts]) hpost
  unfold encode joinWith
  apply congrArg String.ofList
  cases host with
  | none =>
    cases readOnly with
    | false => simpa [pieces, parts] using trim [':'] [':'] (by simp) (by simp)
    | true => simpa [pieces, parts] using trim [':'] [] (by simp) (by simp)
  | some host =>
    cases readOnly with
    | false => simpa [pieces, parts] using trim [] [':'] (by simp) (by simp)
    | true => simpa [pieces, parts] using trim [] [] (by simp) (by simp)

theorem decode_encode {v : Volume} (plain : v.PlainPaths) :
    decode (encode v) = .ok
      (if v.host = none ∧ v.readOnly then bind v.container "ro" else v) := by
  have hsplit := splitAtChar_joinWith plain.colon_of_mem_parts (parts_ne_nil v)
  have hjoin : Text.join ':' (v.parts.map String.toList) ≠ [] :=
    Text.join_ne_nil (by simpa using plain.ne_of_mem_parts) (by simp [parts])
  have hempty : (joinWith ':' v.parts).isEmpty = false := by
    simpa [joinWith] using hjoin
  rw [encode_eq_joinWith plain, decode, hempty, hsplit]
  obtain ⟨host, container, readOnly⟩ := v
  cases host <;> cases readOnly <;> rfl

theorem decode_encode_of_host {v : Volume} (plain : v.PlainPaths)
    (h : ¬ (v.host = none ∧ v.readOnly)) : decode (encode v) = .ok v := by
  rw [decode_encode plain, if_neg h]

/-- A volume comes back exactly if it is writable or has a host path; if it does not, its container
path has become the host path. -/
theorem decode_encode_iff {v : Volume} (plain : v.PlainPaths) :
    (decode (encode v) = .ok v ↔ (v.readOnly → v.host.isSome)) ∧
    (v.readOnly → v.host = none → decode (encode v) = .ok (bind v.container "ro")) := by
  rw [decode_encode plain]
  obtain ⟨host, container, readOnly⟩ := v
  cases host <;> cases readOnly <;> simp [bind]

theorem decode_encode_iff_readOnly :
    PlainPaths { container := "/data", readOnly := true } ∧
    decode (encode { container := "/data", readOnly := true }) = .ok (bind "/data" "ro") ∧
    PlainPaths { host := some "/srv", container := "/data", readOnly := true } ∧
    decode (encode { host := some "/srv", container := "/data", readOnly := true }) =
      .ok { host := some "/srv", container := "/data", readOnly := true } := by
  have inner : PlainPaths { container := "/data", readOnly := true } :=
    ⟨by decide, by decide, by simp, by simp⟩
  have shared : PlainPaths { host := some "/srv", container := "/data", readOnly := true } :=
    ⟨by decide, by decide, by simp, by simp⟩
  exact ⟨inner, (decode_encode_iff inner).2 rfl rfl, shared,
    (decode_encode_iff shared).1.2 (by simp)⟩

theorem encode_readOnly_ambiguous :
    ¬ ∀ v : Volume, v.PlainPaths → decode (encode v) = .ok v := by
  intro h
  have same : encode { container := "/data", readOnly := true } = encode (bind "/data" "ro") := by
    decide
  have inner := h { container := "/data", readOnly := true }
    ⟨by decide, by decide, by simp, by simp⟩
  have shared := h (bind "/data" "ro") ⟨by decide, by decide, by simp [bind], by simp [bind]⟩
  rw [same, shared] at inner
  exact absurd inner (by decide)

end Workload.Volume
