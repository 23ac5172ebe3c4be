import Workload.Codec.Duration
import Workload.Proofs.Text

/-! Durations in whole seconds. A number of seconds may be written with its unit or without it, and
both spellings are read alike, as far as 32 bits go. -/
namespace Workload.Duration
open Text

section Terms
variable {ds us : List Char}

theorem isUnitLetter_apart {c : Char} (h : isUnitLetter c) :
    c.isDigit = false ∧ isBlank c = false ∧ c ≠ '.' := by
  unfold isUnitLetter at h
  rw [Bool.or_eq_true, beq_iff_eq] at h
  rcases h with letter | rfl
  · have range : 65 ≤ c.toNat ∧ c.toNat ≤ 90 ∨ 97 ≤ c.toNat ∧ c.toNat ≤ 122 := by
      rcases Bool.or_eq_true_iff.1 letter with upper | lower
      · exact .inl (of_decide_eq_true upper)
      · obtain ⟨low, high⟩ := Bool.and_eq_true_iff.1 lower
        exact .inr ⟨of_decide_eq_true low, of_decide_eq_true high⟩
    have digit : c.isDigit = false := by
      rw [Char.isDigit, Bool.and_eq_false_iff, decide_eq_false_iff_not, decide_eq_false_iff_not]
      right
      intro high
      have : c.toNat ≤ 57 := high
      omega
    refine ⟨digit, ?_, ?_⟩
    · simp only [isBlank, Bool.or_eq_false_iff, Bool.and_eq_false_iff, decide_eq_false_iff_not,
        beq_eq_false_iff_ne]
      omega
    · rintro rfl
      revert range
      decide
  · decide

theorem readTerm_append (hds : isDigits ds) (hus : ∀ c ∈ us, isUnitLetter c) :
    readTerm (ds ++ us) = (⟨ds, none, us⟩, []) := by
  have digit := isDigit_of_isDigits hds
  have spaced : ∀ c ∈ ds, isSpacedDigit c := by
    intro c hc
    rw [isSpacedDigit, digit c hc, Bool.true_or]
  have stops : ∀ c ∈ us.head?, isSpacedDigit c = false := by
    intro c hc
    obtain ⟨noDigit, noBlank, _⟩ := isUnitLetter_apart (hus c (List.mem_of_head? hc))
    rw [isSpacedDigit, noDigit, noBlank, Bool.or_false]
  have letters : us.takeWhile isUnitLetter = us := List.takeWhile_eq_self_iff.2 hus
  have nothing : us.dropWhile isUnitLetter = [] := List.dropWhile_eq_nil_iff.2 hus
  unfold readTerm
  rw [takeWhile_run spaced stops, dropWhile_run spaced stops, List.filter_eq_self.2 digit]
  dsimp only
  split
  · exact absurd rfl (isUnitLetter_apart (hus '.' List.mem_cons_self)).2.2
  · dsimp only
    rw [letters, nothing]

theorem readTerms_nil (fuel : Nat) : readTerms fuel [] = some [] := by
  cases fuel <;> rfl

theorem readTerms_append (hds : isDigits ds) (hus : ∀ c ∈ us, isUnitLetter c) :
    readTerms (ds ++ us).length (ds ++ us) = some [⟨ds, none, us⟩] := by
  have term := readTerm_append hds hus
  have digit := isDigit_of_isDigits hds
  cases ds with
  | nil => contradiction
  | cons c ds =>
    have first := digit c List.mem_cons_self
    have start : (c :: (ds ++ us)).dropWhile isBlank = c :: (ds ++ us) :=
      List.dropWhile_cons_of_neg (by simp [isBlank_of_isDigit first])
    rw [List.cons_append] at term ⊢
    rw [List.length_cons]
    unfold readTerms
    rw [start]
    dsimp only
    rw [first, if_pos rfl, term]
    dsimp only
    rw [readTerms_nil]
    rfl

theorem nanoseconds_append (hds : isDigits ds) (hus : ∀ c ∈ us, isUnitLetter c) :
    nanoseconds (ds ++ us) = (unit? us).map fun u => ofDigits ds * u.size * u.grain := by
  unfold nanoseconds
  rw [readTerms_append hds hus]
  cases unit : unit? us <;> simp [Term.nanoseconds, unit]

end Terms

theorem uint32?_of_isDigits {ds : List Char} (h : isDigits ds) :
    uint32? ds = if ofDigits ds < UInt32.size then some (.ofNat (ofDigits ds)) else none := by
  rw [uint32?, unsignedBelow?_of_isDigits h]
  split <;> rfl

theorem uint32?_seconds (ds : List Char) : uint32? (ds ++ ['s']) = none := by
  have digits (cs : List Char) : isDigits (cs ++ ['s']) = false := by
    simp [isDigits, show 's'.isDigit = false by decide]
  have unsigned : unsigned? (ds ++ ['s']) = none := by
    -- a plus in front may be dropped, the `s` behind stays
    obtain ⟨cs, hcs⟩ : ∃ cs, (if (ds ++ ['s']).head? = some '+' then (ds ++ ['s']).tail
        else ds ++ ['s']) = cs ++ ['s'] := by
      split
      · cases ds with
        | nil => contradiction
        | cons c ds => exact ⟨ds, rfl⟩
      · exact ⟨ds, rfl⟩
    unfold unsigned?
    rw [hcs]
    simp [digits cs]
  simp [uint32?, unsignedBelow?, unsigned]

/-- The text is read as `v` seconds if that number has 32 bits, and refused as it stands if not. -/
def ReadsAs (cs : List Char) (v : Nat) : Prop :=
  parse (String.ofList cs) =
    if v < 2 ^ 32 then .ok (.ofNat v) else .error (.invalidDuration (String.ofList cs))

section Seconds
variable {cs ds us : List Char}

theorem readsAs_bare (hds : isDigits ds) (trimmed : trim cs = ds) : ReadsAs cs (ofDigits ds) := by
  have unitless : nanoseconds ds = none := by
    have read := nanoseconds_append hds (show ∀ c ∈ [], isUnitLetter c by simp)
    rwa [List.append_nil] at read
  have size : UInt32.size = 2 ^ 32 := rfl
  unfold ReadsAs parse
  rw [String.toList_ofList, trimmed]
  dsimp only
  rw [uint32?_of_isDigits hds, unitless, size]
  by_cases fits : ofDigits ds < 2 ^ 32
  · rw [if_pos fits, if_pos fits]
  · rw [if_neg fits, if_neg fits]
    rfl

theorem isUnitLetter_of_mem_seconds : ∀ c ∈ ['s'], isUnitLetter c :=
  List.forall_mem_singleton.2 rfl

theorem readsAs_suffixed (hds : isDigits ds) (trimmed : trim cs = ds ++ ['s']) :
    ReadsAs cs (ofDigits ds) := by
  have positive : 0 < second := by decide
  have seconds : (nanoseconds (ds ++ ['s'])).map (· / second) = some (ofDigits ds) := by
    have unit : unit? ['s'] =
        some { names := ["seconds", "second", "secs", "sec", "s"], size := second } := rfl
    rw [nanoseconds_append hds isUnitLetter_of_mem_seconds, unit]
    simp [Nat.mul_div_cancel _ positive]
  unfold ReadsAs parse
  rw [String.toList_ofList, trimmed]
  dsimp only
  rw [uint32?_seconds, seconds]
  rfl

theorem trim_padded {pre post : List Char} (hpre : ∀ c ∈ pre, isBlank c) (hds : isDigits ds)
    (hus : ∀ c ∈ us, isUnitLetter c) (hpost : ∀ c ∈ post, isBlank c) :
    trim (pre ++ (ds ++ us) ++ post) = ds ++ us := by
  have solid : ∀ c ∈ ds ++ us, isBlank c = false := by
    intro c hc
    rcases List.mem_append.1 hc with digit | letter
    · exact isBlank_of_isDigit (isDigit_of_isDigits hds c digit)
    · exact (isUnitLetter_apart (hus c letter)).2.1
  have nonempty : ds ++ us ≠ [] := List.append_ne_nil_of_left_ne_nil (isDigits_iff.1 hds).1 us
  exact trimWhile_append hpre (.of_all solid) hpost nonempty

theorem parse_format (n : UInt32) : parse (format n) = .ok n := by
  have hdigits := isDigits_digits n.toNat
  have written : format n = String.ofList (digits n.toNat ++ ['s']) := by
    rw [format, numeral, String.ofList_append]
  have trimmed : trim (digits n.toNat ++ ['s']) = digits n.toNat ++ ['s'] := by
    have around : ∀ c ∈ [], isBlank c := by simp
    have cut := trim_padded around hdigits isUnitLetter_of_mem_seconds around
    rwa [List.nil_append, List.append_nil] at cut
  have read : ReadsAs (digits n.toNat ++ ['s']) (ofDigits (digits n.toNat)) :=
    readsAs_suffixed hdigits trimmed
  rw [written, read, ofDigits_digits, if_pos n.toNat_lt, UInt32.ofNat_toNat]

end Seconds

/-- A number of seconds is read alike with its unit and without it, however many digits it has and
whatever blanks are around it: up to 32 bits as that number, beyond them as an error. A duration
that was written is such a number, and comes back. -/
theorem seconds_exact :
    (∀ pre ds post : List Char, (∀ c ∈ pre, isBlank c) → (ds ≠ [] ∧ ∀ c ∈ ds, c.isDigit) →
      (∀ c ∈ post, isBlank c) →
      ReadsAs (pre ++ ds ++ post) (ofDigits ds) ∧
      ReadsAs (pre ++ (ds ++ ['s']) ++ post) (ofDigits ds)) ∧
    ∀ n, parse (format n) = .ok n := by
  refine ⟨fun pre ds post hpre digits hpost => ?_, parse_format⟩
  have hds := isDigits_iff.2 digits
  constructor
  · have cut := trim_padded hpre hds (show ∀ c ∈ [], isUnitLetter c by simp) hpost
    rw [List.append_nil] at cut
    exact readsAs_bare hds cut
  · exact readsAs_suffixed hds (trim_padded hpre hds isUnitLetter_of_mem_seconds hpost)

theorem seconds_exact_limit :
    (∀ c ∈ ['\t', ' '], isBlank c) ∧ (∀ c ∈ ['\n'], isBlank c) ∧
      ("004294967295".toList ≠ [] ∧ ∀ c ∈ "004294967295".toList, c.isDigit) ∧
      ("004294967296".toList ≠ [] ∧ ∀ c ∈ "004294967296".toList, c.isDigit) ∧
      parse "\t 004294967295\n" = .ok 4294967295 ∧ parse "\t 004294967295s\n" = .ok 4294967295 ∧
      parse "\t 004294967296\n" = .error (.invalidDuration "\t 004294967296\n") ∧
      parse "\t 004294967296s\n" = .error (.invalidDuration "\t 004294967296s\n") := by
  have before : ∀ c ∈ ['\t', ' '], isBlank c := List.all_eq_true.1 rfl
  have after : ∀ c ∈ ['\n'], isBlank c := List.all_eq_true.1 rfl
  have greatest := isDigits_iff.1 (show isDigits "004294967295".toList by decide)
  have next := isDigits_iff.1 (show isDigits "004294967296".toList by decide)
  have fits := seconds_exact.1 _ _ _ before greatest after
  have exceeds := seconds_exact.1 _ _ _ before next after
  exact ⟨before, after, greatest, next, fits.1, fits.2, exceeds.1, exceeds.2⟩

end Workload.Duration
