import Mathlib.Data.Finset.Card
import Mathlib.Data.List.Sort
import Precis.Font.Tag
import Precis.Proofs.Font.Value
import Precis.Proofs.KeySort

/-!
The largest sizes of a page. Sizes are sorted by the total order and repeats are dropped by their
numbers. The total order refines the order of the numbers, so what is equal stands together, and the
sizes that are left are in strictly descending order. This holds as long as every size is a number.
-/

namespace Precis

namespace FontSize

theorem same_iff {a b : FontSize} (ha : a.isNaN = false) (hb : b.isNaN = false) :
    a.same b = true ↔ a.rank = b.rank := by
  simp [same, ha, hb]

theorem two_mul_signBit : 2 * signBit = UInt32.size :=
  rfl

/-- The total order parts only the zeros that are equal as numbers. -/
theorem rank_le_of_totalRank_le {a b : FontSize} (h : a.totalRank ≤ b.totalRank) :
    a.rank ≤ b.rank := by
  have hsign := two_mul_signBit
  have ha := a.bits.toNat_lt_size
  have hb := b.bits.toNat_lt_size
  rw [totalRank, totalRank] at h
  rw [rank, rank]
  split_ifs at h ⊢ <;> omega

/-- The total order tells all sizes apart. -/
theorem eq_of_totalRank_eq {a b : FontSize} (h : a.totalRank = b.totalRank) : a = b := by
  have hsign := two_mul_signBit
  have ha := a.bits.toNat_lt_size
  have hb := b.bits.toNat_lt_size
  have hbits : a.bits.toNat = b.bits.toNat := by
    rw [totalRank, totalRank] at h
    split_ifs at h <;> omega
  cases a
  cases b
  exact congrArg FontSize.mk (UInt32.toNat_inj.1 hbits)

theorem less_iff {a b : FontSize} (ha : a.isNaN = false) (hb : b.isNaN = false) :
    a.less b = true ↔ a.rank < b.rank := by
  simp [less, ha, hb]

theorem less_iff_number {a b : FontSize} (ha : a.isNaN = false) (hb : b.isNaN = false) :
    a.less b = true ↔ a.number < b.number := by
  rw [less_iff ha hb, number_lt_number_iff ha hb]

theorem same_iff_number {a b : FontSize} (ha : a.isNaN = false) (hb : b.isNaN = false) :
    a.same b = true ↔ a.number = b.number := by
  rw [same_iff ha hb, number_eq_number_iff ha hb]

theorem dropRepeatsOf_sublist (kept : FontSize) (sizes : List FontSize) :
    (dropRepeatsOf kept sizes).Sublist sizes := by
  induction sizes generalizing kept with
  | nil => exact .slnil
  | cons s rest ih =>
      rw [dropRepeatsOf]
      split
      · exact (ih kept).cons s
      · exact (ih s).cons_cons s

theorem dropRepeats_sublist (sizes : List FontSize) : (dropRepeats sizes).Sublist sizes := by
  cases sizes with
  | nil => exact .slnil
  | cons s rest => exact (dropRepeatsOf_sublist s rest).cons_cons s

theorem exists_mem_dropRepeatsOf {kept : FontSize} {sizes : List FontSize}
    (hnum : ∀ s ∈ kept :: sizes, s.isNaN = false) :
    ∀ s ∈ kept :: sizes, ∃ t ∈ kept :: dropRepeatsOf kept sizes, t.rank = s.rank := by
  induction sizes generalizing kept with
  | nil => exact fun s hs => ⟨s, hs, rfl⟩
  | cons next rest ih =>
      obtain ⟨hkept, hrest⟩ := List.forall_mem_cons.1 hnum
      obtain ⟨hnext, htail⟩ := List.forall_mem_cons.1 hrest
      intro s hs
      rw [dropRepeatsOf]
      split
      · next hsame =>
        have hrank : kept.rank = next.rank := (same_iff hkept hnext).1 hsame
        have ihkept := ih (List.forall_mem_cons.2 ⟨hkept, htail⟩)
        rcases List.mem_cons.1 hs with rfl | hs
        · exact ⟨s, List.mem_cons_self, rfl⟩
        · rcases List.mem_cons.1 hs with rfl | hs
          · exact ⟨kept, List.mem_cons_self, hrank⟩
          · exact ihkept s (List.mem_cons_of_mem kept hs)
      · rcases List.mem_cons.1 hs with rfl | hs
        · exact ⟨s, List.mem_cons_self, rfl⟩
        · obtain ⟨t, ht, hrank⟩ := ih hrest s hs
          exact ⟨t, List.mem_cons_of_mem kept ht, hrank⟩

theorem exists_mem_dropRepeats {sizes : List FontSize} (hnum : ∀ s ∈ sizes, s.isNaN = false) :
    ∀ s ∈ sizes, ∃ t ∈ dropRepeats sizes, t.rank = s.rank := by
  cases sizes with
  | nil => simp
  | cons first rest => exact exists_mem_dropRepeatsOf hnum

theorem pairwise_dropRepeatsOf {kept : FontSize} {sizes : List FontSize}
    (hnum : ∀ s ∈ kept :: sizes, s.isNaN = false)
    (hdesc : (kept :: sizes).Pairwise fun a b => b.rank ≤ a.rank) :
    (kept :: dropRepeatsOf kept sizes).Pairwise fun a b => b.rank < a.rank := by
  induction sizes generalizing kept with
  | nil => exact List.pairwise_singleton _ _
  | cons next rest ih =>
      obtain ⟨hkept, hrest⟩ := List.forall_mem_cons.1 hnum
      obtain ⟨hnext, htail⟩ := List.forall_mem_cons.1 hrest
      obtain ⟨hle, hdescRest⟩ := List.pairwise_cons.1 hdesc
      rw [dropRepeatsOf]
      split
      · refine ih (List.forall_mem_cons.2 ⟨hkept, htail⟩) (List.pairwise_cons.2 ⟨?_, ?_⟩)
        · exact fun b hb => hle b (List.mem_cons_of_mem next hb)
        · exact hdescRest.tail
      · next hother =>
        have hne : kept.rank ≠ next.rank := fun h => hother ((same_iff hkept hnext).2 h)
        have hlt : next.rank < kept.rank := lt_of_le_of_ne (hle next List.mem_cons_self) hne.symm
        have ihnext := ih hrest hdescRest
        refine List.pairwise_cons.2 ⟨fun b hb => ?_, ihnext⟩
        rcases List.mem_cons.1 hb with rfl | hb
        · exact hlt
        · exact ((List.pairwise_cons.1 ihnext).1 b hb).trans hlt

theorem pairwise_dropRepeats {sizes : List FontSize} (hnum : ∀ s ∈ sizes, s.isNaN = false)
    (hdesc : sizes.Pairwise fun a b => b.rank ≤ a.rank) :
    (dropRepeats sizes).Pairwise fun a b => b.rank < a.rank := by
  cases sizes with
  | nil => exact .nil
  | cons first rest => exact pairwise_dropRepeatsOf hnum hdesc

end FontSize

namespace Span

/-- Every size is a number. -/
def AreNumbers (spans : List Span) : Prop :=
  ∀ q ∈ spans, q.size.isNaN = false

instance (spans : List Span) : Decidable (AreNumbers spans) :=
  inferInstanceAs (Decidable (∀ q ∈ spans, q.size.isNaN = false))

/-- All sizes that differ as numbers, largest first. -/
def distinctSizes (spans : List Span) : List FontSize :=
  FontSize.dropRepeats (sortedSizes spans)

theorem largestSizes_eq_take (spans : List Span) (n : Nat) :
    largestSizes spans n = (distinctSizes spans).take n :=
  rfl

theorem mem_sortedSizes {spans : List Span} {size : FontSize} :
    size ∈ sortedSizes spans ↔ ∃ q ∈ spans, q.size = size := by
  rw [sortedSizes, List.mem_mergeSort, List.mem_map]

theorem pairwise_totalRank_sortedSizes (spans : List Span) :
    (sortedSizes spans).Pairwise fun a b => b.totalRank ≤ a.totalRank :=
  KeySort.pairwise_mergeSort (fun a => OrderDual.toDual (FontSize.totalRank a)) _

/-- The sizes can be put into descending order in one way only. -/
theorem sortedSizes_eq {spans : List Span} {sizes : List FontSize}
    (hperm : sizes.Perm (spans.map Span.size))
    (hdesc : sizes.Pairwise fun a b => b.totalRank ≤ a.totalRank) : sortedSizes spans = sizes := by
  refine ((List.mergeSort_perm _ _).trans hperm.symm).eq_of_pairwise ?_
    (pairwise_totalRank_sortedSizes spans) hdesc
  intro a b _ _ hab hba
  exact FontSize.eq_of_totalRank_eq (le_antisymm hba hab)

theorem pairwise_sortedSizes (spans : List Span) :
    (sortedSizes spans).Pairwise fun a b => b.rank ≤ a.rank :=
  (pairwise_totalRank_sortedSizes spans).imp FontSize.rank_le_of_totalRank_le

theorem mem_of_mem_distinctSizes {spans : List Span} {size : FontSize}
    (h : size ∈ distinctSizes spans) : ∃ q ∈ spans, q.size = size :=
  mem_sortedSizes.1 ((FontSize.dropRepeats_sublist _).subset h)

variable {spans : List Span}

theorem AreNumbers.isNaN_of_mem_sortedSizes (h : AreNumbers spans) :
    ∀ size ∈ sortedSizes spans, size.isNaN = false := by
  intro size hsize
  obtain ⟨q, hq, rfl⟩ := mem_sortedSizes.1 hsize
  exact h q hq

theorem AreNumbers.isNaN_of_mem_distinctSizes (h : AreNumbers spans) :
    ∀ size ∈ distinctSizes spans, size.isNaN = false := by
  intro size hsize
  obtain ⟨q, hq, rfl⟩ := mem_of_mem_distinctSizes hsize
  exact h q hq

theorem AreNumbers.pairwise_distinctSizes (h : AreNumbers spans) :
    ((distinctSizes spans).map FontSize.rank).Pairwise (· > ·) := by
  rw [List.pairwise_map]
  exact FontSize.pairwise_dropRepeats h.isNaN_of_mem_sortedSizes (pairwise_sortedSizes spans)

theorem AreNumbers.mem_map_rank_distinctSizes (h : AreNumbers spans) {rank : Int} :
    rank ∈ (distinctSizes spans).map FontSize.rank ↔ ∃ q ∈ spans, q.size.rank = rank := by
  rw [List.mem_map]
  constructor
  · rintro ⟨size, hsize, rfl⟩
    obtain ⟨q, hq, rfl⟩ := mem_of_mem_distinctSizes hsize
    exact ⟨q, hq, rfl⟩
  · rintro ⟨q, hq, rfl⟩
    exact FontSize.exists_mem_dropRepeats h.isNaN_of_mem_sortedSizes q.size
      (mem_sortedSizes.2 ⟨q, hq, rfl⟩)

theorem AreNumbers.mem_map_number_distinctSizes (h : AreNumbers spans)
    {number : WithBot (WithTop ℚ)} :
    number ∈ (distinctSizes spans).map FontSize.number ↔ ∃ q ∈ spans, q.size.number = number := by
  rw [List.mem_map]
  constructor
  · rintro ⟨size, hsize, rfl⟩
    obtain ⟨q, hq, rfl⟩ := mem_of_mem_distinctSizes hsize
    exact ⟨q, hq, rfl⟩
  · rintro ⟨q, hq, rfl⟩
    obtain ⟨size, hsize, hrank⟩ := List.mem_map.1 (h.mem_map_rank_distinctSizes.2 ⟨q, hq, rfl⟩)
    exact ⟨size, hsize,
      (FontSize.number_eq_number_iff (h.isNaN_of_mem_distinctSizes size hsize) (h q hq)).2 hrank⟩

theorem AreNumbers.pairwise_number_distinctSizes (h : AreNumbers spans) :
    ((distinctSizes spans).map FontSize.number).Pairwise (· > ·) := by
  have hranks := List.pairwise_map.1 h.pairwise_distinctSizes
  rw [List.pairwise_map]
  exact hranks.imp_of_mem fun ha hb hlt => (FontSize.number_lt_number_iff
    (h.isNaN_of_mem_distinctSizes _ hb) (h.isNaN_of_mem_distinctSizes _ ha)).2 hlt

theorem AreNumbers.length_distinctSizes (h : AreNumbers spans) :
    (distinctSizes spans).length = (spans.map fun q => q.size.number).toFinset.card := by
  have hsame : ((distinctSizes spans).map FontSize.number).toFinset =
      (spans.map fun q => q.size.number).toFinset := by
    ext number
    rw [List.mem_toFinset, List.mem_toFinset, h.mem_map_number_distinctSizes, List.mem_map]
  rw [← hsame, List.toFinset_card_of_nodup h.pairwise_number_distinctSizes.nodup, List.length_map]

theorem AreNumbers.isNaN_of_mem_largestSizes (h : AreNumbers spans) {n : Nat} :
    ∀ size ∈ largestSizes spans n, size.isNaN = false :=
  fun size hsize => h.isNaN_of_mem_distinctSizes size (List.mem_of_mem_take hsize)

theorem AreNumbers.pairwise_largestSizes (h : AreNumbers spans) (n : Nat) :
    (largestSizes spans n).Pairwise fun a b => b.number < a.number :=
  (List.pairwise_map.1 h.pairwise_number_distinctSizes).sublist (List.take_sublist n _)

/-- What is not among the largest sizes stands behind all of them. -/
theorem AreNumbers.number_eq_or_lt (h : AreNumbers spans) (n : Nat) {q : Span} (hq : q ∈ spans) :
    (∃ size ∈ largestSizes spans n, size.number = q.size.number) ∨
      ∀ size ∈ largestSizes spans n, q.size.number < size.number := by
  have hparts := List.pairwise_map.1 h.pairwise_number_distinctSizes
  rw [← List.take_append_drop n (distinctSizes spans), List.pairwise_append] at hparts
  obtain ⟨size, hsize, hnumber⟩ :=
    List.mem_map.1 (h.mem_map_number_distinctSizes.2 ⟨q, hq, rfl⟩)
  rw [← List.take_append_drop n (distinctSizes spans), List.mem_append] at hsize
  rcases hsize with htaken | hleft
  · exact .inl ⟨size, htaken, hnumber⟩
  · exact .inr fun other hother => hnumber ▸ hparts.2.2 other hother size hleft

theorem largestSizes_perm {spans' : List Span} (h : spans'.Perm spans) (n : Nat) :
    largestSizes spans' n = largestSizes spans n := by
  have hsorted : sortedSizes spans' = sortedSizes spans :=
    sortedSizes_eq ((List.mergeSort_perm _ _).trans (h.map Span.size).symm)
      (pairwise_totalRank_sortedSizes spans)
  rw [largestSizes, largestSizes, hsorted]

/-- The largest sizes of numbers are strictly descending sizes of the page, as many as were asked
for and differ, and every size of the page equals one of them or is less than all. So it is with the
numbers that they stand for and with the comparisons of sizes alike. The order of the spans has no
influence, whether or not the sizes are numbers. -/
theorem largest_sizes_lead (spans : List Span) (n : Nat) :
    (AreNumbers spans →
      ((largestSizes spans n).Pairwise fun a b => b.number < a.number) ∧
      (∀ size ∈ largestSizes spans n, ∃ q ∈ spans, q.size = size) ∧
      (largestSizes spans n).length = min n (spans.map fun q => q.size.number).toFinset.card ∧
      (∀ q ∈ spans, (∃ size ∈ largestSizes spans n, size.number = q.size.number) ∨
        ∀ size ∈ largestSizes spans n, q.size.number < size.number) ∧
      ∀ p ∈ spans, ∀ q ∈ spans, (p.size.less q.size = true ↔ p.size.number < q.size.number) ∧
        (p.size.same q.size = true ↔ p.size.number = q.size.number)) ∧
    ∀ spans', spans'.Perm spans → largestSizes spans' n = largestSizes spans n := by
  refine ⟨fun h => ⟨h.pairwise_largestSizes n, fun size hsize => ?_, ?_,
    fun q => h.number_eq_or_lt n, fun p hp q hq => ?_⟩, fun spans' hperm => largestSizes_perm hperm n⟩
  · exact mem_of_mem_distinctSizes (List.mem_of_mem_take hsize)
  · rw [largestSizes_eq_take, List.length_take, h.length_distinctSizes]
  · exact ⟨FontSize.less_iff_number (h p hp) (h q hq), FontSize.same_iff_number (h p hp) (h q hq)⟩

/-- Both zeros, infinity and a size that occurs twice. -/
theorem largest_sizes_lead_of_zeros :
    let page : List Span := [0x80000000, 0x41400000, 0, 0x7F800000, 0x41400000].map fun bits =>
      ⟨0, ⟨bits⟩, "Tide".toList⟩
    let sizes := largestSizes page 2
    let zero : FontSize := ⟨0x80000000⟩
    AreNumbers page ∧ page.reverse.Perm page ∧ largestSizes page.reverse 2 = sizes ∧
    (sizes.Pairwise fun a b => b.number < a.number) ∧ sizes.length = 2 ∧
    (∀ size ∈ sizes, ∃ q ∈ page, q.size = size) ∧ zero.number = 0 ∧
    ((∃ size ∈ sizes, size.number = zero.number) ∨ ∀ size ∈ sizes, zero.number < size.number) ∧
    zero.same ⟨0⟩ = true ∧ zero.number = FontSize.number ⟨0⟩ := by
  intro page sizes zero
  have hnumbers : AreNumbers page := by decide
  have hreverse : page.reverse.Perm page := List.reverse_perm page
  obtain ⟨hlead, hperm⟩ := largest_sizes_lead page 2
  obtain ⟨hdesc, hmem, hlength, hall, hcompared⟩ := hlead hnumbers
  have hthree : (page.map fun q => q.size.number).toFinset.card = 3 := by decide +kernel
  rw [hthree] at hlength
  have hzero : (⟨0, zero, "Tide".toList⟩ : Span) ∈ page := by decide
  have hplain : (⟨0, ⟨0⟩, "Tide".toList⟩ : Span) ∈ page := by decide
  have hsame : zero.same ⟨0⟩ = true := by decide
  exact ⟨hnumbers, hreverse, hperm _ hreverse, hdesc, hlength, hmem, by decide +kernel,
    hall _ hzero, hsame, (hcompared _ hzero _ hplain).2.1 hsame⟩

def isLargePrint (spans : List Span) (n : Nat) (q : Span) : Bool :=
  (largestSizes spans n).any (·.same q.size)

/-- The spans in the `n` largest sizes, in order; the others are small print. -/
def largePrint (spans : List Span) (n : Nat) : List Span :=
  spans.filter (isLargePrint spans n)

theorem largePrint_of_sortedSizes {sizes : List FontSize} (h : sortedSizes spans = sizes) (n : Nat) :
    largePrint spans n =
      spans.filter fun q => ((FontSize.dropRepeats sizes).take n).any (·.same q.size) := by
  rw [← h]
  rfl

theorem AreNumbers.largePrint (h : AreNumbers spans) (n : Nat) :
    AreNumbers (Span.largePrint spans n) :=
  fun q hq => h q (List.mem_of_mem_filter hq)

theorem AreNumbers.isLargePrint_iff (h : AreNumbers spans) {n : Nat} {q : Span}
    (hq : q.size.isNaN = false) :
    isLargePrint spans n q = true ↔ q.size.rank ∈ (largestSizes spans n).map FontSize.rank := by
  rw [isLargePrint, List.any_eq_true, List.mem_map]
  refine exists_congr fun size => and_congr_right fun hsize => ?_
  exact FontSize.same_iff (h.isNaN_of_mem_largestSizes size hsize) hq

/-- Without the small print the largest sizes are the same numbers: there are no others left, and
two strictly descending lists of the same numbers are one. -/
theorem AreNumbers.map_rank_largestSizes_largePrint (h : AreNumbers spans) (n : Nat) :
    (largestSizes (Span.largePrint spans n) n).map FontSize.rank =
      (largestSizes spans n).map FontSize.rank := by
  have hdistinct : (distinctSizes (Span.largePrint spans n)).map FontSize.rank =
      ((distinctSizes spans).map FontSize.rank).take n := by
    refine (h.largePrint n).pairwise_distinctSizes.eq_of_mem_iff (h.pairwise_distinctSizes.sublist
      (List.take_sublist n _)) fun rank => ?_
    rw [(h.largePrint n).mem_map_rank_distinctSizes, ← List.map_take, ← largestSizes_eq_take]
    constructor
    · rintro ⟨q, hq, rfl⟩
      obtain ⟨hmem, hin⟩ := List.mem_filter.1 hq
      exact (h.isLargePrint_iff (h q hmem)).1 hin
    · intro hrank
      have hall : rank ∈ (distinctSizes spans).map FontSize.rank := by
        rw [largestSizes_eq_take, List.map_take] at hrank
        exact List.mem_of_mem_take hrank
      obtain ⟨q, hq, rfl⟩ := h.mem_map_rank_distinctSizes.1 hall
      exact ⟨q, List.mem_filter.2 ⟨hq, (h.isLargePrint_iff (h q hq)).2 hrank⟩, rfl⟩
  rw [largestSizes_eq_take, List.map_take, hdistinct, List.take_take, Nat.min_self, ← List.map_take,
    ← largestSizes_eq_take]

/-- What is large print is so by its number alone, so it stays large print when the small print is
left out. -/
theorem AreNumbers.isLargePrint_largePrint (h : AreNumbers spans) (n : Nat) {q : Span}
    (hq : q.size.isNaN = false) :
    isLargePrint (Span.largePrint spans n) n q = isLargePrint spans n q := by
  rw [Bool.eq_iff_iff, (h.largePrint n).isLargePrint_iff hq, h.isLargePrint_iff hq]
  exact iff_of_eq (congrArg _ (h.map_rank_largestSizes_largePrint n))

end Span
end Precis
