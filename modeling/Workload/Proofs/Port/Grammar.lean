import Workload.Codec.Port
import Workload.Proofs.Text
import Workload.Proofs.Traverse

/-! The grammar of port texts. A text is taken apart in one way only: the last ending tells the
protocol, and what is left of it are the parts between colons. The ports are told by the last two
parts, and the text is refused for the first of the two that is no port. -/
namespace Workload.PortMapping

/-- A text, the text without its ending, and the protocol that the ending tells. -/
inductive Ended : List Char → List Char → Protocol → Prop
  | udp (spec : List Char) : Ended (spec ++ "/udp".toList) spec .udp
  | tcp (spec : List Char) : Ended (spec ++ "/tcp".toList) spec .tcp
  | bare {spec : List Char} (udp : ¬"/udp".toList <:+ spec) (tcp : ¬"/tcp".toList <:+ spec) :
      Ended spec spec .tcp

/-- The text consists of these parts, with colons between them, and of an ending. -/
structure Parted (t : String) (parts : List (List Char)) (protocol : Protocol) : Prop where
  ended : Ended t.toList (Text.join ':' parts) protocol
  nonempty : parts ≠ []
  plain : ∀ part ∈ parts, ':' ∉ part

/-- Digits of a number of 16 bits, with a plus sign before them or without. -/
inductive Spells : List Char → UInt16 → Prop
  | digits {ds : List Char} (h : Text.isDigits ds) (small : Text.ofDigits ds ≤ 65535) :
      Spells ds (.ofNat (Text.ofDigits ds))
  | plus {ds : List Char} (h : Text.isDigits ds) (small : Text.ofDigits ds ≤ 65535) :
      Spells ('+' :: ds) (.ofNat (Text.ofDigits ds))

def IsPort (part : List Char) : Prop := ∃ n, Spells part n

def containerPart (parts : List (List Char)) : Option (List Char) := parts.reverse[0]?

def hostPart (parts : List (List Char)) : Option (List Char) := parts.reverse[1]?

/-- The part before the ports, unless it is empty. Where there are three parts it is the first. -/
def address (parts : List (List Char)) : Option String :=
  (parts.reverse[2]?.filter (· ≠ [])).map String.ofList

/-- The port that a part stands for; a part that is not there stands for none. -/
inductive PartSpells : Option (List Char) → UInt16 → Prop
  | absent : PartSpells none 0
  | present {part : List Char} {n : UInt16} (h : Spells part n) : PartSpells (some part) n

/-- The mapping that the parts stand for. -/
structure Denotes (parts : List (List Char)) (protocol : Protocol) (p : PortMapping) : Prop where
  short : parts.length ≤ 3
  container : PartSpells (containerPart parts) p.containerPort
  host : PartSpells (hostPart parts) p.hostPort
  address : p.hostIp = PortMapping.address parts
  protocol : p.protocol = protocol
  name : p.name = none

/-- Why the parts of a text stand for no mapping. -/
inductive Refused (t : String) (parts : List (List Char)) : FieldError → Prop
  | count (many : 3 < parts.length) : Refused t parts (.segmentCount t parts.length)
  | host (short : parts.length ≤ 3) {part : List Char} (found : hostPart parts = some part)
      (bad : ¬IsPort part) : Refused t parts (.invalidNumber (String.ofList part))
  | container (short : parts.length ≤ 3) (host : ∀ part ∈ hostPart parts, IsPort part)
      {part : List Char} (found : containerPart parts = some part) (bad : ¬IsPort part) :
      Refused t parts (.invalidNumber (String.ofList part))

section Endings
variable {cs spec : List Char} {protocol : Protocol}

theorem splitProtocol_eq_iff : splitProtocol cs = (spec, protocol) ↔ Ended cs spec protocol := by
  constructor
  · intro split
    unfold splitProtocol at split
    cases udp : Text.dropEnding? "/udp" cs with
    | some rest =>
      rw [udp] at split
      cases split
      rw [← Text.dropEnding?_eq_some_iff.1 udp]
      exact .udp spec
    | none =>
      rw [udp] at split
      cases tcp : Text.dropEnding? "/tcp" cs with
      | some rest =>
        rw [tcp] at split
        cases split
        rw [← Text.dropEnding?_eq_some_iff.1 tcp]
        exact .tcp _
      | none =>
        rw [tcp] at split
        cases split
        exact .bare (Text.dropEnding?_eq_none_iff.1 udp) (Text.dropEnding?_eq_none_iff.1 tcp)
  · intro ended
    unfold splitProtocol
    cases ended with
    | udp => rw [Text.dropEnding?_append]
    | tcp =>
      have other : Text.dropEnding? "/udp" (spec ++ "/tcp".toList) = none := by
        rw [Text.dropEnding?_eq_none_iff]
        rintro ⟨rest, same⟩
        exact absurd (List.append_inj_right' same rfl) (by decide)
      rw [other, Text.dropEnding?_append]
      rfl
    | bare udp tcp =>
      rw [Text.dropEnding?_eq_none_iff.2 udp, Text.dropEnding?_eq_none_iff.2 tcp]
      rfl

end Endings

section Parts
variable {t : String} {parts : List (List Char)} {protocol : Protocol}

theorem parted_iff : Parted t parts protocol ↔
    ∃ spec, splitProtocol t.toList = (spec, protocol) ∧ spec.splitOn ':' = parts := by
  constructor
  · rintro ⟨ended, nonempty, plain⟩
    exact ⟨_, splitProtocol_eq_iff.2 ended, Text.splitOn_join plain nonempty⟩
  · rintro ⟨spec, split, rfl⟩
    refine ⟨?_, List.splitOn_ne_nil ':' spec, fun part mem => Text.not_mem_of_mem_splitOn mem⟩
    rw [Text.join_splitOn]
    exact splitProtocol_eq_iff.1 split

theorem Parted.unique (h : Parted t parts protocol) {parts' : List (List Char)}
    {protocol' : Protocol} (h' : Parted t parts' protocol') :
    parts' = parts ∧ protocol' = protocol := by
  obtain ⟨spec, split, rfl⟩ := parted_iff.1 h
  obtain ⟨spec', split', rfl⟩ := parted_iff.1 h'
  cases split.symm.trans split'
  exact ⟨rfl, rfl⟩

theorem length_eq_count (nonempty : parts ≠ []) (plain : ∀ part ∈ parts, ':' ∉ part) :
    parts.length = (Text.join ':' parts).count ':' + 1 := by
  induction parts with
  | nil => contradiction
  | cons part parts ih =>
    have none : part.count ':' = 0 := List.count_eq_zero_of_not_mem (plain part List.mem_cons_self)
    cases parts with
    | nil => simp [none]
    | cons next parts =>
      have rest := ih (List.cons_ne_nil _ _) fun p hp => plain p (List.mem_cons_of_mem _ hp)
      rw [Text.join_cons_cons, List.count_append, List.count_cons_self, none, List.length_cons, rest]
      omega

end Parts

section Numbers
variable {part : List Char} {n : UInt16}

theorem spells_iff : Spells part n ↔
    ∃ m, Text.unsigned? part = some m ∧ m < UInt16.size ∧ UInt16.ofNat m = n := by
  constructor
  · intro h
    cases h with
    | digits h small =>
      exact ⟨_, Text.unsigned?_eq_some_iff.2 ⟨_, .inl rfl, h, rfl⟩, Nat.lt_succ_of_le small, rfl⟩
    | plus h small =>
      exact ⟨_, Text.unsigned?_eq_some_iff.2 ⟨_, .inr rfl, h, rfl⟩, Nat.lt_succ_of_le small, rfl⟩
  · rintro ⟨m, read, small, rfl⟩
    obtain ⟨ds, rfl | rfl, h, rfl⟩ := Text.unsigned?_eq_some_iff.1 read
    · exact .digits h (Nat.le_of_lt_succ small)
    · exact .plus h (Nat.le_of_lt_succ small)

theorem uint16?_eq_some_iff : Text.uint16? part = some n ↔ Spells part n := by
  simp only [Text.uint16?, Text.unsignedBelow?, spells_iff, Option.map_eq_some_iff,
    Option.filter_eq_some_iff, decide_eq_true_eq, and_assoc]

theorem decodeNumber_eq_ok_iff : decodeNumber part = .ok n ↔ Spells part n := by
  rw [← uint16?_eq_some_iff]
  unfold decodeNumber
  split <;> simp [*]

theorem decodeNumber_eq_error_iff {e : FieldError} : decodeNumber part = .error e ↔
    ¬IsPort part ∧ e = .invalidNumber (String.ofList part) := by
  unfold IsPort decodeNumber
  simp only [← uint16?_eq_some_iff]
  split <;> simp [*, eq_comm]

end Numbers

section Reading
variable {t : String} {parts : List (List Char)} {protocol : Protocol}

def decodePart (part : Option (List Char)) : Except FieldError UInt16 :=
  part.elim (.ok 0) decodeNumber

theorem decodePart_eq_ok_iff {part : Option (List Char)} {n : UInt16} :
    decodePart part = .ok n ↔ PartSpells part n := by
  cases part with
  | none =>
    constructor
    · rintro ⟨⟩
      exact .absent
    · rintro ⟨⟩
      rfl
  | some part =>
    rw [decodePart, Option.elim_some, decodeNumber_eq_ok_iff]
    constructor
    · exact .present
    · intro spelled
      cases spelled
      assumption

theorem decodePart_eq_error_iff {part : Option (List Char)} {e : FieldError} :
    decodePart part = .error e ↔
      ∃ cs, part = some cs ∧ ¬IsPort cs ∧ e = .invalidNumber (String.ofList cs) := by
  cases part with
  | none => simp [decodePart]
  | some part => simp [decodePart, decodeNumber_eq_error_iff]

theorem PartSpells.isPort {part : Option (List Char)} {n : UInt16} (h : PartSpells part n) :
    ∀ cs ∈ part, IsPort cs := by
  cases h with
  | absent => simp
  | present spelled =>
    rintro cs ⟨⟩
    exact ⟨n, spelled⟩

theorem exists_partSpells_iff {part : Option (List Char)} :
    (∃ n, PartSpells part n) ↔ ∀ cs ∈ part, IsPort cs := by
  constructor
  · rintro ⟨n, h⟩
    exact h.isPort
  · intro h
    cases part with
    | none => exact ⟨0, .absent⟩
    | some cs =>
      obtain ⟨n, spelled⟩ := h cs rfl
      exact ⟨n, .present spelled⟩

theorem decode_of_parted (h : Parted t parts protocol) : decode t =
    if parts.length ≤ 3 then do
      let hostPort ← decodePart (hostPart parts)
      let containerPort ← decodePart (containerPart parts)
      return { hostIp := address parts, hostPort, containerPort, protocol }
    else .error (.segmentCount t parts.length) := by
  obtain ⟨spec, ending, split⟩ := parted_iff.1 h
  have nonempty := h.nonempty
  unfold decode
  rw [ending]
  dsimp only
  rw [split]
  match parts with
  | [] => contradiction
  | [container] => rfl
  | [host, container] => rfl
  | [ip, host, container] => cases ip <;> rfl
  | a :: b :: c :: d :: parts => rw [if_neg (by simp)]

theorem decode_eq_ok_iff (h : Parted t parts protocol) {p : PortMapping} :
    decode t = .ok p ↔ Denotes parts protocol p := by
  rw [decode_of_parted h]
  by_cases short : parts.length ≤ 3
  · simp only [if_pos short, bind_eq_ok_iff, pure_eq_ok_iff, decodePart_eq_ok_iff]
    constructor
    · rintro ⟨m, host, n, container, rfl⟩
      exact ⟨short, container, host, rfl, rfl, rfl⟩
    · rintro ⟨_, container, host, address, protocol, name⟩
      refine ⟨_, host, _, container, ?_⟩
      rw [← address, ← protocol, ← name]
  · rw [if_neg short]
    constructor
    · rintro ⟨⟩
    · intro denoted
      exact absurd denoted.short short

theorem decode_eq_error_iff (h : Parted t parts protocol) {e : FieldError} :
    decode t = .error e ↔ Refused t parts e := by
  rw [decode_of_parted h]
  by_cases short : parts.length ≤ 3
  · simp only [if_pos short, bind_eq_error_iff, decodePart_eq_error_iff, decodePart_eq_ok_iff]
    constructor
    · rintro (⟨part, found, bad, rfl⟩ | ⟨m, host, ⟨part, found, bad, rfl⟩ | ⟨n, container, ⟨⟩⟩⟩)
      · exact .host short found bad
      · exact .container short host.isPort found bad
    · intro refused
      cases refused with
      | count many => omega
      | host _ found bad => exact .inl ⟨_, found, bad, rfl⟩
      | container _ host found bad =>
        obtain ⟨m, hm⟩ := exists_partSpells_iff.2 host
        exact .inr ⟨m, hm, .inl ⟨_, found, bad, rfl⟩⟩
  · rw [if_neg short]
    constructor
    · rintro ⟨⟩
      exact .count (Nat.not_le.1 short)
    · intro refused
      cases refused with
      | count => rfl
      | host few | container few => exact absurd few short

end Reading

/-- The reader and the grammar agree on a text: they take the same mapping from it, or blame the
same part of it. -/
structure Exact (t : String) (parts : List (List Char)) (protocol : Protocol)
    (result : Except FieldError PortMapping) : Prop where
  ok_iff : ∀ p, result = .ok p ↔ Denotes parts protocol p
  accepted_iff : (∃ p, result = .ok p) ↔ parts.length ≤ 3 ∧
    (∀ part ∈ containerPart parts, IsPort part) ∧ ∀ part ∈ hostPart parts, IsPort part
  error_iff : ∀ e, result = .error e ↔ Refused t parts e

theorem exact_of_parted {t : String} {parts : List (List Char)} {protocol : Protocol}
    (h : Parted t parts protocol) : Exact t parts protocol (decode t) where
  ok_iff _ := decode_eq_ok_iff h
  accepted_iff := by
    simp only [decode_eq_ok_iff h]
    constructor
    · rintro ⟨p, denoted⟩
      exact ⟨denoted.short, denoted.container.isPort, denoted.host.isPort⟩
    · rintro ⟨short, container, host⟩
      obtain ⟨n, hn⟩ := exists_partSpells_iff.2 container
      obtain ⟨m, hm⟩ := exists_partSpells_iff.2 host
      exact ⟨⟨address parts, m, n, protocol, none⟩, short, hn, hm, rfl, rfl, rfl⟩
  error_iff _ := decode_eq_error_iff h

/-- Every text is taken apart in one way, and read as its parts say. -/
theorem decode_exact (t : String) :
    ∃ parts protocol,
      (∀ parts' protocol', Parted t parts' protocol' ↔ parts' = parts ∧ protocol' = protocol) ∧
      parts.length = (Text.join ':' parts).count ':' + 1 ∧
      Exact t parts protocol (decode t) := by
  rcases hsplit : splitProtocol t.toList with ⟨spec, protocol⟩
  have parted : Parted t (spec.splitOn ':') protocol := parted_iff.2 ⟨spec, hsplit, rfl⟩
  refine ⟨spec.splitOn ':', protocol, fun parts' protocol' => ⟨parted.unique, ?_⟩,
    length_eq_count parted.nonempty parted.plain, exact_of_parted parted⟩
  rintro ⟨rfl, rfl⟩
  exact parted

example : decode "a:80/tcp/udp" = .error (.invalidNumber "a") := by decide

end Workload.PortMapping
