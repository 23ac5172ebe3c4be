import Workload.Codec.Port
import Workload.Proofs.Text

/-! Port mappings read back from their texts. A text has no place for a name, and for an address
only beside a host port. -/
namespace Workload

def Protocol.ending : Protocol → List Char
  | .udp => "/udp".toList
  | .tcp => []

namespace PortMapping

/-- What a text keeps of a mapping. -/
def kept (p : PortMapping) : PortMapping :=
  { p with
    hostIp := if p.hostPort = 0 then none else p.hostIp.filter (· ≠ "")
    name := none }

def pieces (p : PortMapping) : List (List Char) :=
  let address := (p.kept.hostIp.map String.toList).toList
  let host := if p.hostPort = 0 then [] else [Text.digits p.hostPort.toNat]
  address ++ host ++ [Text.digits p.containerPort.toNat]

theorem pieces_ne_nil (p : PortMapping) : p.pieces ≠ [] := by
  simp [pieces]

theorem ne_nil_of_mem_pieces {p : PortMapping} : ∀ piece ∈ p.pieces, piece ≠ [] := by
  intro piece hpiece
  simp only [pieces, kept, List.mem_append, Option.mem_toList, List.mem_singleton] at hpiece
  rcases hpiece with (hpiece | hpiece) | rfl
  · split at hpiece
    · contradiction
    · obtain ⟨ip, hip, rfl⟩ := Option.map_eq_some_iff.1 hpiece
      have hne := (Option.filter_eq_some_iff.1 hip).2
      simpa using hne
  · split at hpiece
    · contradiction
    · rw [List.mem_singleton] at hpiece
      subst hpiece
      exact Text.digits_ne_nil _
  · exact Text.digits_ne_nil _

theorem colon_of_mem_pieces {p : PortMapping} (address : ∀ ip ∈ p.hostIp, ':' ∉ ip.toList) :
    ∀ piece ∈ p.pieces, ':' ∉ piece := by
  intro piece hpiece
  simp only [pieces, kept, List.mem_append, Option.mem_toList, List.mem_singleton] at hpiece
  rcases hpiece with (hpiece | hpiece) | rfl
  · split at hpiece
    · contradiction
    · obtain ⟨ip, hip, rfl⟩ := Option.map_eq_some_iff.1 hpiece
      exact address ip (Option.filter_eq_some_iff.1 hip).1
  · split at hpiece
    · contradiction
    · rw [List.mem_singleton] at hpiece
      subst hpiece
      exact Text.not_mem_digits (by decide) _
  · exact Text.not_mem_digits (by decide) _

/-- An address that is missing or empty leaves a colon in front, which is trimmed away. -/
theorem trimWhile_join_segments {p : PortMapping} (container : p.containerPort ≠ 0)
    (address : ∀ ip ∈ p.hostIp, ':' ∉ ip.toList) :
    Text.trimWhile (· == ':') (Text.join ':' p.segments) = Text.join ':' p.pieces := by
  have trim (pre : List Char) (hpre : ∀ c ∈ pre, c = ':') :
      Text.trimWhile (· == ':') (pre ++ Text.join ':' p.pieces) = Text.join ':' p.pieces :=
    Text.trimWhile_append_join hpre (colon_of_mem_pieces address) ne_nil_of_mem_pieces
      (pieces_ne_nil p)
  have hcontainer : 0 < p.containerPort := UInt16.pos_iff_ne_zero.2 container
  by_cases host : p.hostPort = 0
  · have hsegments : p.segments = p.pieces := by
      simp [segments, pieces, kept, host, hcontainer]
    rw [hsegments]
    exact trim [] (by simp)
  · have hhost : 0 < p.hostPort := UInt16.pos_iff_ne_zero.2 host
    have join (ip : String) (hip : p.hostIp.getD "" = ip) : Text.join ':' p.segments =
        ip.toList ++ ':' :: Text.join ':' [Text.digits p.hostPort.toNat,
          Text.digits p.containerPort.toNat] := by
      simp [segments, hhost, hcontainer, hip]
    by_cases empty : p.hostIp.getD "" = ""
    · have hpieces : p.pieces = [Text.digits p.hostPort.toNat,
          Text.digits p.containerPort.toNat] := by
        cases hip : p.hostIp <;> simp_all [pieces, kept, Option.filter]
      rw [join "" empty, ← hpieces]
      exact trim [':'] (by simp)
    · have hpieces : p.pieces = [(p.hostIp.getD "").toList, Text.digits p.hostPort.toNat,
          Text.digits p.containerPort.toNat] := by
        cases hip : p.hostIp <;> simp_all [pieces, kept, Option.filter]
      rw [join _ rfl, ← Text.join_cons_cons, ← hpieces]
      exact trim [] (by simp)

theorem splitProtocol_append {cs : List Char} {c : Char} (hlast : cs.getLast? = some c)
    (hdigit : c.isDigit) (p : Protocol) : splitProtocol (cs ++ p.ending) = (cs, p) := by
  cases p with
  | udp =>
    unfold splitProtocol Protocol.ending
    rw [Text.dropEnding?_append]
  | tcp =>
    have not (ending : Char) (h : ending.isDigit = false) : cs.getLast? ≠ some ending := by
      intro heq
      rw [hlast, Option.some.injEq] at heq
      rw [heq, h] at hdigit
      contradiction
    have udp : Text.dropEnding? "/udp" cs = none :=
      Text.dropEnding?_eq_none (by decide) (not 'p' (by decide))
    have tcp : Text.dropEnding? "/tcp" cs = none :=
      Text.dropEnding?_eq_none (by decide) (not 'p' (by decide))
    unfold splitProtocol Protocol.ending
    rw [List.append_nil, udp, tcp]
    rfl

theorem decodeNumber_digits (n : UInt16) : decodeNumber (Text.digits n.toNat) = .ok n := by
  rw [decodeNumber, Text.uint16?_digits]

/-- A text ends in the digits of its last port, so no ending is found before the one written. -/
theorem splitProtocol_join (front : List (List Char)) (n : Nat) (p : Protocol) :
    splitProtocol (Text.join ':' (front ++ [Text.digits n]) ++ p.ending) =
      (Text.join ':' (front ++ [Text.digits n]), p) := by
  obtain ⟨before, hbefore⟩ := Text.exists_join_concat ':' front (Text.digits n)
  have hlast : (Text.join ':' (front ++ [Text.digits n])).getLast? =
      some ((Text.digits n).getLast (Text.digits_ne_nil _)) := by
    rw [hbefore, List.getLast?_append_of_ne_nil _ (Text.digits_ne_nil _),
      List.getLast?_eq_some_getLast]
  exact splitProtocol_append hlast
    (Text.isDigit_of_mem_digits (List.getLast_mem (Text.digits_ne_nil n))) p

theorem decode_join_pieces {p : PortMapping} (address : ∀ ip ∈ p.hostIp, ':' ∉ ip.toList) :
    decode (String.ofList (Text.join ':' p.pieces ++ p.protocol.ending)) = .ok p.kept := by
  have hproto : splitProtocol (Text.join ':' p.pieces ++ p.protocol.ending) =
      (Text.join ':' p.pieces, p.protocol) := splitProtocol_join ..
  have hsplit : (Text.join ':' p.pieces).splitOn ':' = p.pieces :=
    Text.splitOn_join (colon_of_mem_pieces address) (pieces_ne_nil p)
  unfold decode
  rw [String.toList_ofList, hproto]
  dsimp only
  rw [hsplit]
  by_cases host : p.hostPort = 0
  · simp [pieces, kept, host, decodeNumber_digits, bind, Except.bind, pure, Except.pure]
  · have eta : p.kept = { p with hostIp := p.kept.hostIp, name := none } := rfl
    rw [eta]
    cases hip : p.kept.hostIp with
    | none => simp [pieces, hip, host, decodeNumber_digits, bind, Except.bind, pure, Except.pure]
    | some ip =>
      have hne : ip ≠ "" := by
        simp only [kept, host, if_false, Option.filter_eq_some_iff] at hip
        simpa using hip.2
      simp [pieces, hip, host, hne, decodeNumber_digits, bind, Except.bind, pure, Except.pure]

theorem encode?_eq_some {p : PortMapping} (container : p.containerPort ≠ 0)
    (address : ∀ ip ∈ p.hostIp, ':' ∉ ip.toList) :
    p.encode? = some (String.ofList (Text.join ':' p.pieces ++ p.protocol.ending)) := by
  have hne : Text.join ':' p.pieces ≠ [] := Text.join_ne_nil ne_nil_of_mem_pieces (pieces_ne_nil p)
  unfold encode?
  dsimp only
  rw [trimWhile_join_segments container address, if_neg (by simpa using hne)]
  rfl

theorem kept_kept (p : PortMapping) : p.kept.kept = p.kept := by
  unfold kept
  split <;> simp

theorem pieces_kept (p : PortMapping) : p.kept.pieces = p.pieces := by
  unfold pieces
  rw [kept_kept]
  rfl

theorem mem_hostIp_of_kept {p : PortMapping} {ip : String} (h : ip ∈ p.kept.hostIp) :
    ip ∈ p.hostIp := by
  unfold kept at h
  dsimp only at h
  split at h
  · cases h
  · exact (Option.filter_eq_some_iff.1 h).1

/-- A mapping with a container port is written as a text that is read as what the text keeps of it,
and that is written for this again. The address may be any text without a colon. -/
theorem encode?_stable {p : PortMapping} (container : 0 < p.containerPort)
    (address : ∀ ip ∈ p.hostIp, ':' ∉ ip.toList) :
    ∃ t, p.encode? = some t ∧ decode t = .ok p.kept ∧ p.kept.encode? = some t := by
  have container : p.containerPort ≠ 0 := UInt16.pos_iff_ne_zero.1 container
  refine ⟨_, encode?_eq_some container address, decode_join_pieces address, ?_⟩
  have kept : ∀ ip ∈ p.kept.hostIp, ':' ∉ ip.toList :=
    fun ip hip => address ip (mem_hostIp_of_kept hip)
  have again := encode?_eq_some (p := p.kept) container kept
  rwa [pieces_kept] at again

def misleading : PortMapping where
  hostIp := some "eth0/udp"
  hostPort := 80
  containerPort := 443
  protocol := .tcp
  name := some "https"

theorem encode?_stable_misleading :
    0 < misleading.containerPort ∧ (∀ ip ∈ misleading.hostIp, ':' ∉ ip.toList) ∧
    ∃ t, misleading.encode? = some t ∧ decode t = .ok { misleading with name := none } ∧
      encode? { misleading with name := none } = some t := by
  have container : 0 < misleading.containerPort := by decide
  have address : ∀ ip ∈ misleading.hostIp, ':' ∉ ip.toList := by decide
  exact ⟨container, address, encode?_stable container address⟩

theorem encode?_eq_none {p : PortMapping} (host : p.hostPort = 0)
    (container : p.containerPort = 0) : p.encode? = none := by
  simp [encode?, segments, host, container, Text.join]
  rfl

/-- Only a mapping without any port has no text, whatever its address. -/
theorem encode?_eq_none_iff {p : PortMapping} :
    p.encode? = none ↔ p.hostPort = 0 ∧ p.containerPort = 0 := by
  refine ⟨fun missing => ?_, fun h => encode?_eq_none h.1 h.2⟩
  have colons : ∀ c ∈ Text.join ':' p.segments, c = ':' := by
    simpa [encode?, Text.trimWhile_eq_nil_iff] using missing
  have digitless (n : Nat) : Text.digits n ∉ p.segments := by
    intro mem
    obtain ⟨c, cs, text, digit⟩ := Text.exists_digits_eq_cons n
    rw [colons c (Text.mem_join_of_mem mem (text ▸ List.mem_cons_self))] at digit
    contradiction
  constructor
  · by_contra host
    exact digitless p.hostPort.toNat (by simp [segments, UInt16.pos_iff_ne_zero, host])
  · by_contra container
    exact digitless p.containerPort.toNat (by simp [segments, UInt16.pos_iff_ne_zero, container])

theorem mapM_decode_encode? {ps : List PortMapping}
    (container : ∀ p ∈ ps, p.containerPort = 0 → p.hostPort = 0)
    (address : ∀ p ∈ ps, ∀ ip ∈ p.hostIp, ':' ∉ ip.toList) :
    (ps.filterMap encode?).mapM decode =
      .ok ((ps.filter fun p => p.hostPort ≠ 0 ∨ p.containerPort ≠ 0).map kept) := by
  induction ps with
  | nil => rfl
  | cons p ps ih =>
    have rest := ih (fun q hq => container q (List.mem_cons_of_mem _ hq))
      (fun q hq => address q (List.mem_cons_of_mem _ hq))
    by_cases unset : p.containerPort = 0
    · have host := container p List.mem_cons_self unset
      rw [List.filterMap_cons_none (encode?_eq_none host unset),
        List.filter_cons_of_neg (by simp [host, unset])]
      exact rest
    · have colon := address p List.mem_cons_self
      rw [List.filterMap_cons_some (encode?_eq_some unset colon),
        List.filter_cons_of_pos (by simp [unset]), List.mapM_cons, decode_join_pieces colon, rest]
      rfl

end PortMapping
end Workload
