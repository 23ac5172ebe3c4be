import Workload.Text.Blank
import Workload.Text.Numeral
import Workload.Text.Split
import Mathlib.Algebra.Group.Nat.Defs
import Mathlib.Data.List.Infix
import Mathlib.Data.List.TakeWhile
import Mathlib.Tactic.SplitIfs

/-! What trimming, cutting and the decimal numerals do to texts put together from known pieces. -/
namespace Workload.Text

structure Trimmed (p : Char → Bool) (cs : List Char) : Prop where
  head : ∀ c ∈ cs.head?, p c = false
  last : ∀ c ∈ cs.getLast?, p c = false

theorem Trimmed.append {p : Char → Bool} {as bs : List Char} (ha : ∀ c ∈ as.head?, p c = false)
    (hb : ∀ c ∈ bs.getLast?, p c = false) (has : as ≠ []) (hbs : bs ≠ []) :
    Trimmed p (as ++ bs) where
  head := by simpa [List.head?_append_of_ne_nil _ has] using ha
  last := by simpa [List.getLast?_append_of_ne_nil _ hbs] using hb

theorem Trimmed.of_all {p : Char → Bool} {cs : List Char} (h : ∀ c ∈ cs, p c = false) :
    Trimmed p cs where
  head c hc := h c (List.mem_of_head? hc)
  last c hc := h c (List.mem_of_getLast? hc)

theorem dropWhile_eq_self {p : Char → Bool} {cs : List Char} (h : ∀ c ∈ cs.head?, p c = false) :
    cs.dropWhile p = cs := by
  cases cs with
  | nil => rfl
  | cons c cs => exact List.dropWhile_cons_of_neg (by simp [h c rfl])

section Run
variable {p : Char → Bool} {cs rest : List Char} (inside : ∀ c ∈ cs, p c)
  (stops : ∀ c ∈ rest.head?, p c = false)
include inside stops

theorem takeWhile_run : (cs ++ rest).takeWhile p = cs := by
  have nothing : rest.takeWhile p = [] := by
    cases rest with
    | nil => rfl
    | cons c rest => exact List.takeWhile_cons_of_neg (by simp [stops c rfl])
  rw [List.takeWhile_append_of_pos inside, nothing, List.append_nil]

theorem dropWhile_run : (cs ++ rest).dropWhile p = rest := by
  rw [List.dropWhile_append_of_pos inside, dropWhile_eq_self stops]

end Run

theorem trimWhile_append {p : Char → Bool} {pre mid post : List Char} (hpre : ∀ c ∈ pre, p c)
    (hmid : Trimmed p mid) (hpost : ∀ c ∈ post, p c) (hne : mid ≠ []) :
    trimWhile p (pre ++ mid ++ post) = mid := by
  have hhead : ∀ c ∈ (mid ++ post).head?, p c = false := by
    rw [List.head?_append_of_ne_nil _ hne]
    exact hmid.head
  have hlast : ∀ c ∈ mid.reverse.head?, p c = false := by
    rw [List.head?_reverse]
    exact hmid.last
  unfold trimWhile dropEndWhile
  rw [List.append_assoc, List.dropWhile_append_of_pos hpre, dropWhile_eq_self hhead,
    List.reverse_append, List.dropWhile_append_of_pos (by simpa using hpost),
    dropWhile_eq_self hlast, List.reverse_reverse]

theorem trimWhile_of_trimmed {p : Char → Bool} {cs : List Char} (h : Trimmed p cs) :
    trimWhile p cs = cs := by
  unfold trimWhile dropEndWhile
  rw [dropWhile_eq_self h.head, dropWhile_eq_self, List.reverse_reverse]
  rw [List.head?_reverse]
  exact h.last

theorem mem_of_mem_trimWhile {p : Char → Bool} {c : Char} {cs : List Char}
    (h : c ∈ trimWhile p cs) : c ∈ cs := by
  unfold trimWhile dropEndWhile at h
  rw [List.mem_reverse] at h
  have inner := (List.dropWhile_sublist p).mem h
  rw [List.mem_reverse] at inner
  exact (List.dropWhile_sublist p).mem inner

theorem of_mem_head?_dropWhile {p : Char → Bool} {c : Char} {cs : List Char}
    (h : c ∈ (cs.dropWhile p).head?) : p c = false := by
  have stops := List.head?_dropWhile_not p cs
  rwa [Option.mem_def.1 h] at stops

theorem trimmed_trimWhile (p : Char → Bool) (cs : List Char) : Trimmed p (trimWhile p cs) where
  head c hc := by
    -- what is left after both ends are cut starts as it did after the first cut
    obtain ⟨post, hpost⟩ : trimWhile p cs <+: cs.dropWhile p := by
      rw [← List.reverse_suffix, trimWhile, dropEndWhile, List.reverse_reverse]
      exact List.dropWhile_suffix p
    have first : c ∈ (cs.dropWhile p).head? := by
      rw [← hpost, List.head?_append, Option.mem_def.1 hc]
      rfl
    exact of_mem_head?_dropWhile first
  last c hc := by
    rw [trimWhile, dropEndWhile, List.getLast?_reverse] at hc
    exact of_mem_head?_dropWhile hc

theorem trimWhile_eq_nil_iff {p : Char → Bool} {cs : List Char} :
    trimWhile p cs = [] ↔ ∀ c ∈ cs, p c := by
  rw [trimWhile, dropEndWhile, List.reverse_eq_nil_iff, List.dropWhile_eq_nil_iff,
    ← List.dropWhile_eq_nil_iff (l := cs)]
  constructor
  · intro all
    rw [← List.head?_eq_none_iff, Option.eq_none_iff_forall_ne_some]
    intro c hc
    have inside : p c := all c (List.mem_reverse.2 (List.mem_of_head? hc))
    rw [of_mem_head?_dropWhile hc] at inside
    contradiction
  · intro nothing
    simp [nothing]

@[simp] theorem join_singleton (sep : Char) (a : List Char) : join sep [a] = a := by
  simp [join]

@[simp] theorem join_cons_cons (sep : Char) (a b : List Char) (pieces : List (List Char)) :
    join sep (a :: b :: pieces) = a ++ sep :: join sep (b :: pieces) := by
  simp [join]

theorem join_ne_nil {sep : Char} {pieces : List (List Char)} (h : ∀ p ∈ pieces, p ≠ [])
    (hne : pieces ≠ []) : join sep pieces ≠ [] := by
  match pieces with
  | [] => exact absurd rfl hne
  | [a] => simpa using h
  | a :: b :: pieces => simp

theorem mem_join_of_mem {sep c : Char} {piece : List Char} {pieces : List (List Char)}
    (mem : piece ∈ pieces) (h : c ∈ piece) : c ∈ join sep pieces := by
  induction pieces with
  | nil => contradiction
  | cons a pieces ih =>
    cases pieces with
    | nil => simpa [List.mem_singleton.1 mem] using h
    | cons b pieces =>
      rw [join_cons_cons, List.mem_append, List.mem_cons]
      rcases List.mem_cons.1 mem with rfl | mem
      · exact .inl h
      · exact .inr (.inr (ih mem))

theorem not_mem_join {sep c : Char} {pieces : List (List Char)} (other : c ≠ sep)
    (h : ∀ piece ∈ pieces, c ∉ piece) : c ∉ join sep pieces := by
  induction pieces with
  | nil => exact List.not_mem_nil
  | cons a pieces ih =>
    obtain ⟨first, others⟩ := List.forall_mem_cons.1 h
    cases pieces with
    | nil => simpa using first
    | cons b pieces =>
      rw [join_cons_cons, List.mem_append, List.mem_cons]
      exact not_or.2 ⟨first, not_or.2 ⟨other, ih others⟩⟩

theorem exists_join_concat (sep : Char) (pieces : List (List Char)) (a : List Char) :
    ∃ front, join sep (pieces ++ [a]) = front ++ a := by
  induction pieces with
  | nil => exact ⟨[], by simp⟩
  | cons b pieces ih =>
    obtain ⟨front, hfront⟩ := ih
    cases pieces with
    | nil => exact ⟨b ++ [sep], by simp⟩
    | cons c pieces =>
      refine ⟨b ++ sep :: front, ?_⟩
      rw [List.cons_append, List.cons_append, join_cons_cons, ← List.cons_append, hfront,
        List.append_assoc, List.cons_append]

theorem trimmed_join {sep : Char} {pieces : List (List Char)} (hsep : ∀ p ∈ pieces, sep ∉ p)
    (h : ∀ p ∈ pieces, p ≠ []) : Trimmed (· == sep) (join sep pieces) := by
  have clean : ∀ p ∈ pieces, ∀ c ∈ p, (c == sep) = false := by
    intro p hp c hc
    rw [beq_eq_false_iff_ne]
    exact fun heq => hsep p hp (heq ▸ hc)
  induction pieces with
  | nil => exact .of_all (by simp [join])
  | cons a pieces ih =>
    cases pieces with
    | nil => exact .of_all (by simpa using clean)
    | cons b pieces =>
      have hb := ih (fun p hp => hsep p (List.mem_cons_of_mem _ hp))
        (fun p hp => h p (List.mem_cons_of_mem _ hp))
        (fun p hp => clean p (List.mem_cons_of_mem _ hp))
      have hjoin : join sep (b :: pieces) ≠ [] :=
        join_ne_nil (fun p hp => h p (List.mem_cons_of_mem _ hp)) (List.cons_ne_nil _ _)
      rw [join_cons_cons]
      refine .append ?_ ?_ (h a List.mem_cons_self) (List.cons_ne_nil _ _)
      · exact fun c hc => clean a List.mem_cons_self c (List.mem_of_head? hc)
      · rw [List.getLast?_cons_of_ne_nil hjoin]
        exact hb.last

/-- Joined pieces survive the trimming of separators, and stray separators around them do not. -/
theorem trimWhile_join {sep : Char} {pre post : List Char} {pieces : List (List Char)}
    (hpre : ∀ c ∈ pre, c = sep) (hsep : ∀ p ∈ pieces, sep ∉ p) (h : ∀ p ∈ pieces, p ≠ [])
    (hne : pieces ≠ []) (hpost : ∀ c ∈ post, c = sep) :
    trimWhile (· == sep) (pre ++ join sep pieces ++ post) = join sep pieces :=
  trimWhile_append (fun c hc => beq_iff_eq.2 (hpre c hc)) (trimmed_join hsep h)
    (fun c hc => beq_iff_eq.2 (hpost c hc)) (join_ne_nil h hne)

theorem trimWhile_append_join {sep : Char} {pre : List Char} {pieces : List (List Char)}
    (hpre : ∀ c ∈ pre, c = sep) (hsep : ∀ p ∈ pieces, sep ∉ p) (h : ∀ p ∈ pieces, p ≠ [])
    (hne : pieces ≠ []) : trimWhile (· == sep) (pre ++ join sep pieces) = join sep pieces := by
  have trimmed : trimWhile (· == sep) (pre ++ join sep pieces ++ []) = join sep pieces :=
    trimWhile_join hpre hsep h hne (by simp)
  rwa [List.append_nil] at trimmed

theorem splitOn_join {sep : Char} {pieces : List (List Char)} (h : ∀ p ∈ pieces, sep ∉ p)
    (hne : pieces ≠ []) : (join sep pieces).splitOn sep = pieces :=
  List.splitOn_intercalate sep h hne

theorem splitOn_join_flatMap {sep : Char} {pieces : List (List Char)} (hne : pieces ≠ []) :
    (join sep pieces).splitOn sep = pieces.flatMap (List.splitOn sep) := by
  induction pieces with
  | nil => exact absurd rfl hne
  | cons a pieces ih =>
    cases pieces with
    | nil => simp
    | cons b pieces =>
      rw [join_cons_cons, List.splitOn_append_cons_self, ih (List.cons_ne_nil _ _),
        ← List.flatMap_cons]

theorem join_splitOn (sep : Char) (cs : List Char) : join sep (cs.splitOn sep) = cs :=
  List.intercalate_splitOn sep

theorem not_mem_of_mem_splitOn {sep : Char} {cs piece : List Char} (h : piece ∈ cs.splitOn sep) :
    sep ∉ piece := by
  induction cs generalizing piece with
  | nil => simp_all
  | cons c cs ih =>
    rw [List.splitOn_cons_eq_if_modifyHead] at h
    split at h
    · rcases List.mem_cons.1 h with rfl | h
      · exact List.not_mem_nil
      · exact ih h
    · rename_i hc
      obtain ⟨a, pieces, hpieces⟩ := List.exists_cons_of_ne_nil (List.splitOn_ne_nil sep cs)
      rw [hpieces] at ih
      rw [hpieces, List.modifyHead_cons, List.mem_cons] at h
      rcases h with rfl | h
      · have hne : sep ≠ c := fun heq => hc (beq_iff_eq.2 heq.symm)
        simpa [hne] using ih List.mem_cons_self
      · exact ih (List.mem_cons_of_mem _ h)

theorem dropEnding?_eq_some_iff {ending : String} {cs rest : List Char} :
    dropEnding? ending cs = some rest ↔ rest ++ ending.toList = cs :=
  List.isSuffixOf?_eq_some_iff_append_eq

theorem dropEnding?_append (ending : String) (cs : List Char) :
    dropEnding? ending (cs ++ ending.toList) = some cs :=
  dropEnding?_eq_some_iff.2 rfl

theorem dropEnding?_eq_none_iff {ending : String} {cs : List Char} :
    dropEnding? ending cs = none ↔ ¬ending.toList <:+ cs := by
  rw [Option.eq_none_iff_forall_ne_some]
  simp only [ne_eq, dropEnding?_eq_some_iff, List.IsSuffix, not_exists]

theorem dropEnding?_eq_none {ending : String} {cs : List Char} {c : Char}
    (hlast : ending.toList.getLast? = some c) (h : cs.getLast? ≠ some c) :
    dropEnding? ending cs = none := by
  rw [Option.eq_none_iff_forall_ne_some]
  intro rest hrest
  rw [dropEnding?_eq_some_iff] at hrest
  apply h
  rw [← hrest, List.getLast?_append, hlast]
  rfl

theorem isDigit_of_mem_digits {n : Nat} {c : Char} (h : c ∈ digits n) : c.isDigit :=
  Nat.isDigit_of_mem_toDigits (by decide) (by decide) h

theorem digits_ne_nil (n : Nat) : digits n ≠ [] := Nat.toDigits_ne_nil

theorem exists_digits_eq_cons (n : Nat) : ∃ c cs, digits n = c :: cs ∧ c.isDigit := by
  obtain ⟨c, cs, text⟩ := List.exists_cons_of_ne_nil (digits_ne_nil n)
  exact ⟨c, cs, text, isDigit_of_mem_digits (text ▸ List.mem_cons_self)⟩

theorem digits_injective {m n : Nat} (h : digits m = digits n) : m = n := by
  rw [← ofDigits_digits m, h, ofDigits_digits]

theorem isDigits_digits (n : Nat) : isDigits (digits n) := by
  unfold isDigits
  rw [Bool.and_eq_true]
  refine ⟨by simpa using digits_ne_nil n, ?_⟩
  rw [List.all_eq_true]
  intro c hc
  exact isDigit_of_mem_digits hc

theorem not_mem_digits {c : Char} (h : c.isDigit = false) (n : Nat) : c ∉ digits n := by
  intro hc
  rw [isDigit_of_mem_digits hc] at h
  contradiction

theorem unsigned?_of_isDigits {cs : List Char} (h : isDigits cs) :
    unsigned? cs = some (ofDigits cs) := by
  have hsign : cs.head? ≠ some '+' := by
    intro hc
    unfold isDigits at h
    rw [Bool.and_eq_true, List.all_eq_true] at h
    exact absurd (h.2 _ (List.mem_of_head? hc)) (by decide)
  simp [unsigned?, hsign, h]

theorem unsignedBelow?_of_isDigits {cs : List Char} (h : isDigits cs) (bound : Nat) :
    unsignedBelow? bound cs = if ofDigits cs < bound then some (ofDigits cs) else none := by
  simp [unsignedBelow?, unsigned?_of_isDigits h, Option.filter]

theorem unsigned?_digits (n : Nat) : unsigned? (digits n) = some n := by
  rw [unsigned?_of_isDigits (isDigits_digits n), ofDigits_digits]

theorem uint16?_digits (n : UInt16) : uint16? (digits n.toNat) = some n := by
  simp [uint16?, unsignedBelow?, unsigned?_digits, n.toNat_lt_size, Option.filter]

theorem uint64?_digits (n : UInt64) : uint64? (digits n.toNat) = some n := by
  simp [uint64?, unsignedBelow?, unsigned?_digits, n.toNat_lt_size, Option.filter]

theorem isBlank_of_isDigit {c : Char} (h : c.isDigit) : isBlank c = false := by
  simp only [Char.isDigit, Bool.and_eq_true, decide_eq_true_eq] at h
  have hlow : 48 ≤ c.toNat := h.1
  have hhigh : c.toNat ≤ 57 := h.2
  simp only [isBlank, Bool.or_eq_false_iff, Bool.and_eq_false_iff, decide_eq_false_iff_not,
    beq_eq_false_iff_ne]
  omega

theorem isDigit_of_isDigits {cs : List Char} (h : isDigits cs) : ∀ c ∈ cs, c.isDigit := by
  unfold isDigits at h
  rw [Bool.and_eq_true, List.all_eq_true] at h
  exact h.2

theorem ofDigitChars_lt {ds : List Char} (h : ∀ c ∈ ds, c.isDigit) (n : Nat) :
    Nat.ofDigitChars 10 ds n < (n + 1) * 10 ^ ds.length := by
  induction ds generalizing n with
  | nil => simp
  | cons c ds ih =>
    have digit : c.toNat - '0'.toNat < 10 := by
      have hc := h c List.mem_cons_self
      simp only [Char.isDigit, Bool.and_eq_true, decide_eq_true_eq] at hc
      have hhigh : c.toNat ≤ 57 := hc.2
      have : '0'.toNat = 48 := rfl
      omega
    rw [Nat.ofDigitChars_cons, List.length_cons]
    calc Nat.ofDigitChars 10 ds (10 * n + (c.toNat - '0'.toNat))
        < (10 * n + (c.toNat - '0'.toNat) + 1) * 10 ^ ds.length :=
          ih (fun d hd => h d (List.mem_cons_of_mem _ hd)) _
      _ ≤ ((n + 1) * 10) * 10 ^ ds.length := Nat.mul_le_mul_right _ (by omega)
      _ = (n + 1) * 10 ^ (ds.length + 1) := by rw [Nat.pow_succ, Nat.mul_assoc, Nat.mul_comm 10]

theorem ofDigits_lt {ds : List Char} (h : ∀ c ∈ ds, c.isDigit) : ofDigits ds < 10 ^ ds.length := by
  have bound := ofDigitChars_lt h 0
  rwa [Nat.zero_add, Nat.one_mul] at bound

theorem isDigits_iff {cs : List Char} : isDigits cs ↔ cs ≠ [] ∧ ∀ c ∈ cs, c.isDigit := by
  simp [isDigits]

theorem unsigned?_eq_some_iff {cs : List Char} {n : Nat} :
    unsigned? cs = some n ↔ ∃ ds, (cs = ds ∨ cs = '+' :: ds) ∧ isDigits ds ∧ ofDigits ds = n := by
  constructor
  · intro read
    unfold unsigned? at read
    obtain ⟨digits, value⟩ := Option.ite_none_right_eq_some.1 read
    refine ⟨_, ?_, digits, Option.some.inj value⟩
    split
    · rename_i sign
      exact .inr (List.cons_head?_tail sign).symm
    · exact .inl rfl
  · rintro ⟨ds, rfl | rfl, digits, rfl⟩
    · exact unsigned?_of_isDigits digits
    · simp [unsigned?, digits]

theorem trim_digits (n : Nat) : trim (digits n) = digits n :=
  trimWhile_of_trimmed (.of_all fun _ hc => isBlank_of_isDigit (isDigit_of_mem_digits hc))

section Octets

theorem utf8EncodeChar_append_lt {c d : Char} (h : c < d) (xs ys : List UInt8) :
    String.utf8EncodeChar c ++ xs < String.utf8EncodeChar d ++ ys := by
  have lt : c.val.toNat < d.val.toNat := h
  have bound : d.val.toNat < 0x110000 := d.valid.elim (by omega) (by omega)
  unfold String.utf8EncodeChar
  generalize c.val.toNat = m, d.val.toNat = n at lt bound
  dsimp only
  -- one case for each two lengths; the octets are sums of base-64 digits of `m` and `n`
  split_ifs <;>
    simp only [List.cons_append, List.nil_append, List.cons_lt_cons_iff, UInt8.lt_iff_toNat_lt,
      ← UInt8.toNat_inj, UInt8.toNat_ofNat', Nat.reducePow] <;>
    simp (disch := omega) only [Nat.mod_eq_of_lt] <;>
    omega

theorem flatMap_utf8EncodeChar_lt {cs ds : List Char} (h : cs < ds) :
    cs.flatMap String.utf8EncodeChar < ds.flatMap String.utf8EncodeChar := by
  induction h with
  | @nil d ds =>
    obtain ⟨x, xs, encoded⟩ := List.exists_cons_of_ne_nil (String.utf8EncodeChar_ne_nil (c := d))
    rw [List.flatMap_nil, List.flatMap_cons, encoded]
    exact List.nil_lt_cons _ _
  | cons _ ih =>
    rw [List.flatMap_cons, List.flatMap_cons]
    exact List.append_left_lt ih
  | rel h =>
    rw [List.flatMap_cons, List.flatMap_cons]
    exact utf8EncodeChar_append_lt h _ _

/-- Texts are ordered as their octets are. -/
theorem lt_iff_octets_lt {s t : String} :
    s < t ↔ s.toUTF8.data.toList < t.toUTF8.data.toList := by
  have encoded (s : String) : s.toUTF8.data.toList = s.toList.flatMap String.utf8EncodeChar := by
    rw [String.toUTF8, ← String.utf8Encode_toList, List.utf8Encode, List.toList_data_toByteArray]
  rw [encoded, encoded, String.lt_iff]
  constructor
  · exact flatMap_utf8EncodeChar_lt
  · intro lt
    by_contra not_lt
    rcases List.le_iff_lt_or_eq.1 (List.not_lt.1 not_lt) with gt | same
    · exact List.lt_asymm lt (flatMap_utf8EncodeChar_lt gt)
    · rw [same] at lt
      exact List.lt_irrefl _ lt

end Octets
end Workload.Text

namespace Workload

theorem numeral_injective {m n : Nat} (h : numeral m = numeral n) : m = n :=
  Text.digits_injective (String.ofList_injective h)

theorem nonEmpty_getD (o : Option String) : nonEmpty (o.getD "") = o.filter (· ≠ "") := by
  cases o with
  | none => rfl
  | some s => by_cases h : s = "" <;> simp [nonEmpty, Option.filter, h]

theorem getD_nonEmpty (s : String) : (nonEmpty s).getD "" = s := by
  unfold nonEmpty
  split
  · rename_i h
    exact (String.isEmpty_iff.1 h).symm
  · rfl

theorem splitAtChar_joinWith {sep : Char} {pieces : List String}
    (h : ∀ p ∈ pieces, sep ∉ p.toList) (hne : pieces ≠ []) :
    splitAtChar sep (joinWith sep pieces) = pieces := by
  have hsplit : (Text.join sep (pieces.map String.toList)).splitOn sep =
      pieces.map String.toList := Text.splitOn_join (by simpa using h) (by simpa using hne)
  simp [splitAtChar, joinWith, hsplit, Function.comp_def]

theorem splitAtChar_joinWith_flatMap {sep : Char} {pieces : List String} (hne : pieces ≠ []) :
    splitAtChar sep (joinWith sep pieces) = pieces.flatMap (splitAtChar sep) := by
  have hsplit : (Text.join sep (pieces.map String.toList)).splitOn sep =
      (pieces.map String.toList).flatMap (List.splitOn sep) :=
    Text.splitOn_join_flatMap (by simpa using hne)
  rw [splitAtChar, joinWith, String.toList_ofList, hsplit, List.map_flatMap, List.flatMap_map]
  rfl

theorem not_mem_of_mem_splitAtChar {sep : Char} {s piece : String}
    (h : piece ∈ splitAtChar sep s) : sep ∉ piece.toList := by
  obtain ⟨cs, hcs, rfl⟩ := List.mem_map.1 h
  rw [String.toList_ofList]
  exact Text.not_mem_of_mem_splitOn hcs

theorem joinWith_splitAtChar (sep : Char) (s : String) : joinWith sep (splitAtChar sep s) = s := by
  simp [splitAtChar, joinWith, Function.comp_def, Text.join_splitOn]

theorem splitAtChar_ne_nil (sep : Char) (s : String) : splitAtChar sep s ≠ [] := by
  simp [splitAtChar]

end Workload
