import Workload.Proofs.Order
import Workload.Proofs.Text
import Workload.Proofs.Traverse
import Mathlib.Data.List.Lex
import Mathlib.Data.Prod.Lex
import Mathlib.Order.WithBot

/-! Canonical groups are a normal form. Comparisons are those of keys, and where no two elements
have one key, or elements of one key keep their order, there is one way only to be sorted by it. -/
namespace Workload

section Sorting
variable {α : Type u} {β : Type v} {γ : Type w} [LinearOrder β] [LinearOrder γ]

/-- The second list has the elements of the first in ascending order of their keys. -/
structure Sorts (key : α → β) (xs ys : List α) : Prop where
  perm : ys.Perm xs
  ascending : ys.Pairwise fun a b => key a ≤ key b

/-- Elements that have one key come in the order in which they came before. -/
structure StablySorts (key : α → β) (xs ys : List α) : Prop extends Sorts key xs ys where
  stable : ∀ k, (ys.filter fun a => key a = k) = xs.filter fun a => key a = k

def ComparesBy (order : α → α → Ordering) (key : α → β) : Prop :=
  ∀ a b, order a b = compare (key a) (key b)

variable {order : α → α → Ordering} {key : α → β}

theorem comparesBy_of_iff (lt : ∀ a b, order a b = .lt ↔ key a < key b)
    (eq : ∀ a b, order a b = .eq ↔ key a = key b) : ComparesBy order key := by
  intro a b
  cases h : order a b with
  | lt => exact (compare_lt_iff_lt.2 ((lt a b).1 h)).symm
  | eq => exact (compare_eq_iff_eq.2 ((eq a b).1 h)).symm
  | gt =>
    have hlt : ¬key a < key b := fun below => by cases h.symm.trans ((lt a b).2 below)
    have hne : key a ≠ key b := fun same => by cases h.symm.trans ((eq a b).2 same)
    exact (compare_gt_iff_gt.2 (lt_of_le_of_ne (not_lt.1 hlt) hne.symm)).symm

theorem ComparesBy.lex {other : α → α → Ordering} {second : α → γ} (h : ComparesBy order key)
    (h' : ComparesBy other second) :
    ComparesBy (compareLex order other) fun a => toLex (key a, second a) := by
  intro a b
  rw [Prod.Lex.compare_def]
  simp only [compareLex, compareOn, h a b, h' a b, ofLex_toLex]

theorem ComparesBy.isLE_iff (h : ComparesBy order key) {a b : α} :
    (order a b).isLE ↔ key a ≤ key b := by
  rw [h a b, Ordering.isLE_iff_ne_gt]
  exact compare_le_iff_le

theorem ComparesBy.injective [Std.LawfulEqCmp order] (h : ComparesBy order key) :
    Function.Injective key := by
  intro a b same
  have tie : order a b = .eq := by
    rw [h a b, compare_eq_iff_eq]
    exact same
  exact Std.LawfulEqCmp.eq_of_compare tie

theorem sorts_sortWith [Std.TransCmp order] (h : ComparesBy order key) (xs : List α) :
    Sorts key xs (sortWith order xs) where
  perm := sortWith_perm order xs
  ascending := (pairwise_sortWith xs).imp h.isLE_iff.1

/-- Elements with one key are one element, so they stand in one order. -/
theorem sorts_iff [Std.TransCmp order] [Std.LawfulEqCmp order] (h : ComparesBy order key)
    {xs ys : List α} : Sorts key xs ys ↔ ys = sortWith order xs := by
  constructor
  · rintro ⟨perm, ascending⟩
    have sorted := sorts_sortWith h xs
    refine (perm.trans sorted.perm.symm).eq_of_pairwise ?_ ascending sorted.ascending
    intro a b _ _ hab hba
    exact h.injective (le_antisymm hab hba)
  · rintro rfl
    exact sorts_sortWith h xs

theorem stablySorts_sortWith [Std.TransCmp order] (h : ComparesBy order key) (xs : List α) :
    StablySorts key xs (sortWith order xs) := by
  refine ⟨sorts_sortWith h xs, fun k => ?_⟩
  -- what has the key `k` is in order already, so it is found in the sorted list as it stands
  have before : (xs.filter fun a => key a = k).Sublist (sortWith order xs) := by
    refine List.sublist_mergeSort ?_ ?_ ?_ List.filter_sublist
    · intro a b c hab hbc
      exact Std.TransCmp.isLE_trans hab hbc
    · intro a b
      rw [Bool.or_eq_true, h.isLE_iff, h.isLE_iff]
      exact le_total _ _
    · rw [List.pairwise_filter]
      refine List.pairwise_of_forall fun a b ha hb => ?_
      simp only [decide_eq_true_eq] at ha hb
      rw [h.isLE_iff, ha, hb]
  have kept := before.filter fun a => key a = k
  rw [List.filter_filter] at kept
  simp only [Bool.and_self] at kept
  exact (kept.eq_of_length ((sortWith_perm order xs).filter _).length_eq.symm).symm

theorem mem_of_filter_eq {xs ys : List α}
    (h : ∀ k, (xs.filter fun a => key a = k) = ys.filter fun a => key a = k) {a : α}
    (mem : a ∈ xs) : a ∈ ys := by
  have found : a ∈ xs.filter fun b => key b = key a := by simp [mem]
  rw [h] at found
  exact List.mem_of_mem_filter found

theorem key_head_le {x y : α} {xs : List α}
    (ascending : (x :: xs).Pairwise fun a b => key a ≤ key b) (mem : y ∈ x :: xs) :
    key x ≤ key y := by
  rcases List.mem_cons.1 mem with rfl | mem
  · exact le_rfl
  · exact List.rel_of_pairwise_cons ascending mem

/-- Sorted lists are told by what they have of each key. -/
theorem eq_of_filter_eq {xs ys : List α} (hxs : xs.Pairwise fun a b => key a ≤ key b)
    (hys : ys.Pairwise fun a b => key a ≤ key b)
    (h : ∀ k, (xs.filter fun a => key a = k) = ys.filter fun a => key a = k) : xs = ys := by
  induction xs generalizing ys with
  | nil =>
    cases ys with
    | nil => rfl
    | cons y ys => cases mem_of_filter_eq (fun k => (h k).symm) List.mem_cons_self
  | cons x xs ih =>
    cases ys with
    | nil => cases mem_of_filter_eq h List.mem_cons_self
    | cons y ys =>
      -- both lists start with the least key, and so with the first element that has it
      have least : key y = key x :=
        le_antisymm (key_head_le hys (mem_of_filter_eq h List.mem_cons_self))
          (key_head_le hxs (mem_of_filter_eq (fun k => (h k).symm) List.mem_cons_self))
      have heads := h (key x)
      rw [List.filter_cons_of_pos (by simp), List.filter_cons_of_pos (by simp [least])] at heads
      obtain ⟨rfl, _⟩ := List.cons.inj heads
      refine congrArg (x :: ·) (ih hxs.tail hys.tail fun k => ?_)
      have both := h k
      by_cases hk : key x = k
      · rw [List.filter_cons_of_pos (by simpa), List.filter_cons_of_pos (by simpa)] at both
        exact (List.cons.inj both).2
      · rwa [List.filter_cons_of_neg (by simpa), List.filter_cons_of_neg (by simpa)] at both

theorem stablySorts_iff [Std.TransCmp order] (h : ComparesBy order key) {xs ys : List α} :
    StablySorts key xs ys ↔ ys = sortWith order xs := by
  have sorted := stablySorts_sortWith h xs
  constructor
  · rintro ⟨⟨_, ascending⟩, stable⟩
    refine eq_of_filter_eq ascending sorted.ascending fun k => ?_
    rw [stable, sorted.stable]
  · rintro rfl
    exact sorted

end Sorting

/-- The octets of a text, as the numbers that decide its place among texts. -/
def Text.octetValues (s : String) : List ℕ := s.toUTF8.data.toList.map UInt8.toNat

theorem Text.octetValues_lt {s t : String} (h : s < t) : octetValues s < octetValues t :=
  List.map_lt (fun _ _ => UInt8.lt_iff_toNat_lt.1) (lt_iff_octets_lt.1 h)

theorem Text.octetValues_injective : Function.Injective octetValues := by
  intro s t same
  have hst : ¬s < t := fun lt => ne_of_lt (octetValues_lt lt) same
  have hts : ¬t < s := fun lt => ne_of_lt (octetValues_lt lt) same.symm
  exact String.le_antisymm (String.not_lt.1 hts) (String.not_lt.1 hst)

theorem Text.octetValues_lt_iff {s t : String} : octetValues s < octetValues t ↔ s < t := by
  constructor
  · intro lt
    by_contra not_lt
    have ge : t ≤ s := String.not_lt.1 not_lt
    by_cases same : t = s
    · exact ne_of_gt lt (congrArg octetValues same)
    · exact lt_asymm lt (octetValues_lt (Std.lt_of_le_of_ne ge same))
  · exact octetValues_lt

section Keys

theorem comparesBy_uint16 : ComparesBy (compare : UInt16 → UInt16 → Ordering) UInt16.toNat :=
  comparesBy_of_iff (fun a b => by rw [Std.compare_eq_lt, UInt16.lt_iff_toNat_lt])
    (fun a b => by rw [Std.compare_eq_iff_eq, UInt16.toNat_inj])

theorem comparesBy_string : ComparesBy (compare : String → String → Ordering) Text.octetValues :=
  comparesBy_of_iff
    (fun _ _ => compareOfLessAndEq_eq_lt.trans Text.octetValues_lt_iff.symm)
    (fun _ _ => Std.compare_eq_iff_eq.trans Text.octetValues_injective.eq_iff.symm)

theorem comparesBy_bool : ComparesBy (compare : Bool → Bool → Ordering) Bool.toNat := by
  rintro (_ | _) (_ | _) <;> decide

/-- What is absent comes before all else. -/
def optionKey (key : α → β) (o : Option α) : WithBot β := o.map key

theorem ComparesBy.option [Ord α] [LinearOrder β] {key : α → β}
    (h : ComparesBy (compare : α → α → Ordering) key) :
    ComparesBy (compare : Option α → Option α → Ordering) (optionKey key) := by
  have some_some (a b : α) : compare (some a) (some b) = compare a b := rfl
  refine comparesBy_of_iff ?_ ?_
  · rintro (_ | a) (_ | b)
    · exact ⟨nofun, fun lt => absurd lt (lt_irrefl _)⟩
    · exact ⟨fun _ => WithBot.bot_lt_coe _, fun _ => rfl⟩
    · exact ⟨nofun, fun lt => absurd lt not_lt_bot⟩
    · rw [some_some, h a b, compare_lt_iff_lt]
      exact WithBot.coe_lt_coe.symm
  · rintro (_ | a) (_ | b)
    · exact ⟨fun _ => rfl, fun _ => rfl⟩
    · exact ⟨nofun, nofun⟩
    · exact ⟨nofun, nofun⟩
    · rw [some_some, h a b, compare_eq_iff_eq]
      exact WithBot.coe_inj.symm

theorem ComparesBy.on {α : Type u} {γ : Type w} {β : Type v} [LinearOrder β] [Ord γ]
    {key : γ → β} (h : ComparesBy compare key) (f : α → γ) :
    ComparesBy (compareOn f) fun a => key (f a) :=
  fun a b => h (f a) (f b)

def PortMapping.key (p : PortMapping) :
    ℕ ×ₗ ℕ ×ₗ ℕ ×ₗ WithBot (List ℕ) ×ₗ WithBot (List ℕ) :=
  toLex (p.containerPort.toNat, toLex (p.hostPort.toNat, toLex (p.protocol.rank,
    toLex (optionKey Text.octetValues p.hostIp, optionKey Text.octetValues p.name))))

def Volume.key (v : Volume) : List ℕ ×ₗ WithBot (List ℕ) ×ₗ ℕ :=
  toLex (Text.octetValues v.container,
    toLex (optionKey Text.octetValues v.host, v.readOnly.toNat))

theorem PortMapping.comparesBy_key : ComparesBy order key :=
  (comparesBy_uint16.on _).lex <| (comparesBy_uint16.on _).lex <| .lex (fun _ _ => rfl) <|
    (comparesBy_string.option.on _).lex (comparesBy_string.option.on _)

theorem Volume.comparesBy_key : ComparesBy order key :=
  (comparesBy_string.on _).lex <| (comparesBy_string.option.on _).lex (comparesBy_bool.on _)

end Keys

/-- The second container is the first one with the four lists in order that have none of their own. -/
structure Container.Arranged (c d : Container) : Prop where
  ports : Sorts PortMapping.key c.ports d.ports
  volumes : Sorts Volume.key c.volumes d.volumes
  expose : Sorts UInt16.toNat c.expose d.expose
  volumesFrom : Sorts Text.octetValues c.volumesFrom d.volumesFrom
  others : d = { c with
    ports := d.ports, volumes := d.volumes, expose := d.expose, volumesFrom := d.volumesFrom }

/-- The second group has the containers of the first in name order, each of them arranged. -/
structure Group.Arranged (g h : Group) : Prop where
  containers : ∃ cs, StablySorts (fun c => Text.octetValues c.name) g.containers cs ∧
    List.Forall₂ Container.Arranged cs h.containers
  others : h = { g with containers := h.containers }

theorem Container.arranged_iff {c d : Container} : c.Arranged d ↔ d = c.canonical := by
  constructor
  · rintro ⟨ports, volumes, expose, sources, others⟩
    rw [sorts_iff PortMapping.comparesBy_key] at ports
    rw [sorts_iff Volume.comparesBy_key] at volumes
    rw [sorts_iff comparesBy_uint16] at expose
    rw [sorts_iff comparesBy_string] at sources
    rw [others, ports, volumes, expose, sources]
    rfl
  · rintro rfl
    exact ⟨sorts_sortWith PortMapping.comparesBy_key _, sorts_sortWith Volume.comparesBy_key _,
      sorts_sortWith comparesBy_uint16 _, sorts_sortWith comparesBy_string _, rfl⟩

theorem forall₂_arranged_iff {cs ds : List Container} :
    List.Forall₂ Container.Arranged cs ds ↔ ds = cs.map Container.canonical := by
  constructor
  · intro parts
    have images : cs.map Container.canonical = ds.map id :=
      map_eq_of_forall₂ (parts.imp fun c d arranged => (Container.arranged_iff.1 arranged).symm)
    rw [images, List.map_id]
  · rintro rfl
    rw [List.forall₂_map_right_iff, List.forall₂_same]
    exact fun c _ => Container.arranged_iff.2 rfl

theorem Group.arranged_iff {g h : Group} : g.Arranged h ↔ h = g.canonical := by
  have byName := comparesBy_string.on Container.name
  constructor
  · rintro ⟨⟨cs, stable, parts⟩, others⟩
    rw [stablySorts_iff byName] at stable
    rw [others, forall₂_arranged_iff.1 parts, stable]
    rfl
  · rintro rfl
    exact ⟨⟨_, stablySorts_sortWith byName _, forall₂_arranged_iff.2 rfl⟩, rfl⟩

@[simp] theorem Container.canonical_canonical (c : Container) :
    c.canonical.canonical = c.canonical := by
  simp [canonical]

theorem Group.canonical_canonical (g : Group) : g.canonical.canonical = g.canonical := by
  have sorted : sortContainers g.canonical.containers = g.canonical.containers := by
    have keeps (c : Container) : c.canonical.name = c.name := rfl
    have again : sortContainers (sortContainers g.containers) = sortContainers g.containers :=
      sortWith_sortWith _
    change sortContainers ((sortContainers g.containers).map Container.canonical) = _
    rw [← map_sortContainers keeps, again]
    rfl
  refine canonical_eq sorted ((List.map_congr_left ?_).trans (List.map_id' _))
  intro c hc
  obtain ⟨d, _, rfl⟩ := List.mem_map.1 hc
  exact d.canonical_canonical

/-- The canonical form of a group is the one group that is arranged so, and it is its own. -/
theorem Group.arranged_iff_eq_canonical (g h : Group) :
    (g.Arranged h ↔ h = g.canonical) ∧ g.canonical.canonical = g.canonical :=
  ⟨arranged_iff, g.canonical_canonical⟩

end Workload
