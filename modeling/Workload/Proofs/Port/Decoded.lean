import Workload.Proofs.Port
import Workload.Proofs.Traverse

/-! The text that is written for a mapping which was itself read from a text. Reading it gives the
mapping back up to the address of a port that is not published, if there is a container port. A
host port alone is written as the one part of its text, and the one part of a text is a container
port. -/
namespace Workload.PortMapping

/-- The second mapping stands for the same ports; an address has a meaning beside a host port. -/
structure SameMeaning (p q : PortMapping) : Prop where
  host : q.hostPort = p.hostPort
  container : q.containerPort = p.containerPort
  protocol : q.protocol = p.protocol
  address : p.hostPort ≠ 0 → q.hostIp = p.hostIp

/-- What is read from the text of a host port alone: each part counts as the next one. -/
def shifted (p : PortMapping) : Except FieldError PortMapping :=
  match p.hostIp with
  | none => .ok { containerPort := p.hostPort, protocol := p.protocol }
  | some ip => do
    let hostPort ← decodeNumber ip.toList
    return { hostPort, containerPort := p.hostPort, protocol := p.protocol }

theorem address_of_decode {t : String} {p : PortMapping} (h : decode t = .ok p) :
    ∀ ip ∈ p.hostIp, ip ≠ "" ∧ ':' ∉ ip.toList := by
  unfold decode at h
  generalize hproto : splitProtocol t.toList = split at h
  obtain ⟨spec, protocol⟩ := split
  dsimp only at h
  split at h
  · obtain ⟨n, _, h⟩ := bind_eq_ok_iff.1 h
    cases h
    simp
  · obtain ⟨m, _, h⟩ := bind_eq_ok_iff.1 h
    obtain ⟨n, _, h⟩ := bind_eq_ok_iff.1 h
    cases h
    simp
  · rename_i ip host container hparts
    obtain ⟨m, _, h⟩ := bind_eq_ok_iff.1 h
    obtain ⟨n, _, h⟩ := bind_eq_ok_iff.1 h
    cases h
    have colon : ':' ∉ ip := Text.not_mem_of_mem_splitOn (hparts ▸ List.mem_cons_self)
    cases ip with
    | nil => simp
    | cons c cs => simpa using colon
  · contradiction

theorem sameMeaning_kept {p : PortMapping} (address : ∀ ip ∈ p.hostIp, ip ≠ "") :
    p.SameMeaning p.kept where
  host := rfl
  container := rfl
  protocol := rfl
  address host := by
    cases hip : p.hostIp with
    | none => simp [kept, hip]
    | some ip => simp [kept, host, hip, Option.filter, address ip hip]

section HostOnly
variable {p : PortMapping}

def hostPieces (p : PortMapping) : List (List Char) :=
  (p.hostIp.map String.toList).toList ++ [Text.digits p.hostPort.toNat]

theorem plain_hostPieces (address : ∀ ip ∈ p.hostIp, ip ≠ "" ∧ ':' ∉ ip.toList) :
    ∀ piece ∈ p.hostPieces, piece ≠ [] ∧ ':' ∉ piece := by
  intro piece hpiece
  simp only [hostPieces, List.mem_append, Option.mem_toList, List.mem_singleton] at hpiece
  rcases hpiece with hpiece | rfl
  · obtain ⟨ip, hip, rfl⟩ := Option.map_eq_some_iff.1 hpiece
    simpa using address ip hip
  · exact ⟨Text.digits_ne_nil _, Text.not_mem_digits (by decide) _⟩

theorem encode?_eq_some_of_hostOnly (host : p.hostPort ≠ 0) (container : p.containerPort = 0)
    (address : ∀ ip ∈ p.hostIp, ip ≠ "" ∧ ':' ∉ ip.toList) :
    p.encode? = some (String.ofList (Text.join ':' p.hostPieces ++ p.protocol.ending)) := by
  have plain := plain_hostPieces address
  have hne : p.hostPieces ≠ [] := by simp [hostPieces]
  have trim (pre : List Char) (hpre : ∀ c ∈ pre, c = ':') :
      Text.trimWhile (· == ':') (pre ++ Text.join ':' p.hostPieces) =
        Text.join ':' p.hostPieces :=
    Text.trimWhile_append_join hpre (fun s hs => (plain s hs).2) (fun s hs => (plain s hs).1) hne
  have hsegments : p.segments = [(p.hostIp.getD "").toList, Text.digits p.hostPort.toNat] := by
    simp [segments, UInt16.pos_iff_ne_zero.2 host, container]
  have written : Text.trimWhile (· == ':') (Text.join ':' p.segments) =
      Text.join ':' p.hostPieces := by
    rw [hsegments]
    cases hip : p.hostIp with
    | none => simpa [hostPieces, hip] using trim [':'] (by simp)
    | some ip => simpa [hostPieces, hip] using trim [] (by simp)
  have nonempty : Text.join ':' p.hostPieces ≠ [] :=
    Text.join_ne_nil (fun s hs => (plain s hs).1) hne
  unfold encode?
  dsimp only
  rw [written, if_neg (by simpa using nonempty)]
  rfl

theorem decode_hostOnly (address : ∀ ip ∈ p.hostIp, ip ≠ "" ∧ ':' ∉ ip.toList) :
    decode (String.ofList (Text.join ':' p.hostPieces ++ p.protocol.ending)) = p.shifted := by
  have plain := plain_hostPieces address
  have hproto : splitProtocol (Text.join ':' p.hostPieces ++ p.protocol.ending) =
      (Text.join ':' p.hostPieces, p.protocol) := splitProtocol_join ..
  have hsplit : (Text.join ':' p.hostPieces).splitOn ':' = p.hostPieces :=
    Text.splitOn_join (fun s hs => (plain s hs).2) (by simp [hostPieces])
  unfold decode shifted
  rw [String.toList_ofList, hproto]
  dsimp only
  rw [hsplit]
  cases hip : p.hostIp <;>
    simp [hostPieces, hip, decodeNumber_digits, bind, Except.bind, pure, Except.pure]

/-- The container port that is read is the host port. -/
theorem not_sameMeaning_shifted (host : p.hostPort ≠ 0) (container : p.containerPort = 0)
    {q : PortMapping} (h : p.shifted = .ok q) : ¬ p.SameMeaning q := by
  have moved : q.containerPort = p.hostPort := by
    unfold shifted at h
    split at h
    · cases h
      rfl
    · obtain ⟨n, _, h⟩ := bind_eq_ok_iff.1 h
      cases h
      rfl
  intro same
  rw [← moved, same.container] at host
  exact host container

end HostOnly

/-- Nothing is written for a mapping without ports. What is written for any other one can be read
again and means the same, if there is a container port; if there is none, the text has another
meaning, or none. -/
theorem encode?_of_decode {t : String} {p : PortMapping} (h : decode t = .ok p) :
    (p.encode? = none ↔ p.hostPort = 0 ∧ p.containerPort = 0) ∧
    (p.containerPort ≠ 0 → ∃ u q, p.encode? = some u ∧ decode u = .ok q ∧ p.SameMeaning q) ∧
    (p.containerPort = 0 → p.hostPort ≠ 0 → ∃ u, p.encode? = some u ∧ decode u = p.shifted ∧
      ∀ q, decode u = .ok q → ¬ p.SameMeaning q) := by
  have address := address_of_decode h
  have whole (container : p.containerPort ≠ 0) :=
    encode?_eq_some container fun ip hip => (address ip hip).2
  have hostOnly (host : p.hostPort ≠ 0) (container : p.containerPort = 0) :=
    encode?_eq_some_of_hostOnly host container address
  refine ⟨?_, ?_, ?_⟩
  · constructor
    · intro none
      by_cases container : p.containerPort = 0
      · by_cases host : p.hostPort = 0
        · exact ⟨host, container⟩
        · rw [hostOnly host container] at none
          contradiction
      · rw [whole container] at none
        contradiction
    · rintro ⟨host, container⟩
      exact encode?_eq_none host container
  · intro container
    exact ⟨_, p.kept, whole container, decode_join_pieces fun ip hip => (address ip hip).2,
      sameMeaning_kept fun ip hip => (address ip hip).1⟩
  · intro container host
    have read := decode_hostOnly address
    refine ⟨_, hostOnly host container, read, ?_⟩
    intro q hq
    exact not_sameMeaning_shifted host container (read.symm.trans hq)

def atAddress (containerPort : UInt16) : PortMapping :=
  { hostIp := some "10.0.0.1", hostPort := 80, containerPort, protocol := .udp }

theorem encode?_of_decode_atAddress :
    decode "10.0.0.1:080:+443/udp" = .ok (atAddress 443) ∧
    (∃ u q, (atAddress 443).encode? = some u ∧ decode u = .ok q ∧ (atAddress 443).SameMeaning q) ∧
    decode "10.0.0.1:80:0/udp" = .ok (atAddress 0) ∧
    (∃ u, (atAddress 0).encode? = some u ∧ decode u = .error (.invalidNumber "10.0.0.1")) := by
  have whole : decode "10.0.0.1:080:+443/udp" = .ok (atAddress 443) := by decide
  have hostOnly : decode "10.0.0.1:80:0/udp" = .ok (atAddress 0) := by decide
  have unreadable : (atAddress 0).shifted = .error (.invalidNumber "10.0.0.1") := by decide
  obtain ⟨u, written, read, _⟩ := (encode?_of_decode hostOnly).2.2 rfl (by decide)
  exact ⟨whole, (encode?_of_decode whole).2.1 (by decide), hostOnly, u, written,
    read.trans unreadable⟩

theorem encode?_hostOnly_moves :
    ¬ ∀ (t : String) (p : PortMapping), decode t = .ok p →
      p.hostPort ≠ 0 ∨ p.containerPort ≠ 0 →
      ∃ u q, p.encode? = some u ∧ decode u = .ok q ∧ p.SameMeaning q := by
  intro h
  have read : decode "80:0" = .ok { hostPort := 80, containerPort := 0 } := by decide
  have written : encode? { hostPort := 80, containerPort := 0 } = some "80" := by decide
  have again : decode "80" = .ok { containerPort := 80 } := by decide
  obtain ⟨u, q, hu, hq, same⟩ := h "80:0" _ read (.inl (by decide))
  rw [written] at hu
  cases hu
  rw [again] at hq
  cases hq
  exact absurd same.host (by decide)

end Workload.PortMapping
