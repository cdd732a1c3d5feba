import Mathlib.Algebra.Order.BigOperators.Group.List
import Mathlib.Algebra.Order.Ring.Nat
import Precis.Proofs.Font.Largest
import Precis.Proofs.Heading.FromSpans

/-!
How long a heading can get. A span that is taken gives at least one word and no more than a fragment
may have. It is taken because there are too few spans or too few words in front of it, so whichever
of the two is missing bounds both numbers, and an endless page does not make an endless heading.
-/

namespace Precis.HeadingSettings

variable (s : HeadingSettings)

def spanLimit : Nat :=
  max s.minFragments.toNat s.minWords.toNat

def wordLimit : Nat :=
  max (s.minFragments.toNat * s.maxFragmentWords.toNat)
    (s.minWords.toNat + s.maxFragmentWords.toNat - 1)

/-- The heading of a page before it is trimmed. -/
def draft (spans : List Span) : HeadingDraft :=
  s.compose (Span.largestSizes spans s.fontSizes.toNat) {} spans

theorem exists_isTaken (spans : List Span) :
    ∃ taken, s.IsTaken (s.eligible spans) taken ∧ s.Records (s.draft spans) taken := by
  obtain ⟨taken, hrecords, hstart, henough, hfewer⟩ := s.records_compose s.records_empty spans
  exact ⟨taken, ⟨hstart, henough, hfewer⟩, hrecords⟩

theorem words_headingText_of_records {spans taken : List Span}
    (h : s.Records (s.draft spans) taken) :
    Text.words (s.headingText spans) = s.outline [] taken := by
  rw [headingText, Text.words_trim]
  exact h.text

theorem length_dash_le (before : List Span) (q : Span) : (s.dash before q).length ≤ 1 := by
  unfold dash
  split <;> simp

theorem length_outline_le (before taken : List Span) :
    (s.outline before taken).length ≤ (taken.flatMap s.fragment).length + taken.length := by
  induction taken generalizing before with
  | nil => simp [outline]
  | cons q rest ih =>
      have hdash := s.length_dash_le before q
      have hrest := ih (before ++ [q])
      simp only [outline, List.flatMap_cons, List.length_append, List.length_cons]
      omega

variable {s}

theorem length_fragment_le (h : 0 < s.maxFragmentWords.toNat) (q : Span) :
    (s.fragment q).length ≤ s.maxFragmentWords.toNat := by
  simp only [fragment, List.length_take]
  split <;> omega

/-- A cut leaves at least one word if fragments may have two. -/
theorem one_le_length_fragment (h : 2 ≤ s.maxFragmentWords.toNat) {q : Span}
    (hq : Text.isBlank q.text = false) : 1 ≤ (s.fragment q).length := by
  have hwords : Text.words q.text ≠ [] := by
    intro hnil
    rw [← Text.isEmpty_trim, Text.trim_eq_nil_iff.2 hnil] at hq
    simp at hq
  have hpos : 0 < (Text.words q.text).length := List.length_pos_iff.2 hwords
  simp only [fragment, List.length_take]
  split <;> omega

theorem length_le_words (h : 2 ≤ s.maxFragmentWords.toNat) {taken : List Span}
    (htext : ∀ q ∈ taken, Text.isBlank q.text = false) :
    taken.length ≤ (taken.flatMap s.fragment).length := by
  have hsum := List.card_nsmul_le_sum (taken.map fun q => (s.fragment q).length) 1
    (List.forall_mem_map.2 fun q hq => one_le_length_fragment h (htext q hq))
  rwa [List.length_map, Nat.nsmul_eq_mul, Nat.mul_one, ← List.length_flatMap] at hsum

theorem words_le_length_mul (h : 0 < s.maxFragmentWords.toNat) (taken : List Span) :
    (taken.flatMap s.fragment).length ≤ taken.length * s.maxFragmentWords.toNat := by
  have hsum := List.sum_le_card_nsmul (taken.map fun q => (s.fragment q).length)
    s.maxFragmentWords.toNat (List.forall_mem_map.2 fun q _ => length_fragment_le h q)
  rwa [List.length_map, Nat.nsmul_eq_mul, ← List.length_flatMap] at hsum

/-- The last span is taken because the spans in front of it do not suffice. -/
theorem IsTaken.le_limits (h : 2 ≤ s.maxFragmentWords.toNat) {spans taken : List Span}
    (htext : ∀ q ∈ spans, Text.isBlank q.text = false) (htaken : s.IsTaken spans taken) :
    taken.length ≤ s.spanLimit ∧ (taken.flatMap s.fragment).length ≤ s.wordLimit := by
  obtain ⟨hfront, -, hfewer⟩ := htaken
  rw [spanLimit, wordLimit]
  rcases List.eq_nil_or_concat taken with rfl | ⟨before, last, rfl⟩
  · simp
  · rw [List.concat_eq_append] at hfront hfewer ⊢
    have hbefore : before <+: before ++ [last] := List.prefix_append before [last]
    have hshort := hfewer before (hbefore.trans hfront) (by simp)
    have hmany : before.length ≤ (before.flatMap s.fragment).length :=
      length_le_words h fun q hq => htext q ((hbefore.trans hfront).subset hq)
    have hfew := words_le_length_mul (show 0 < s.maxFragmentWords.toNat by omega) before
    have hlast := length_fragment_le (show 0 < s.maxFragmentWords.toNat by omega) last
    rw [List.length_append, List.flatMap_append, List.length_append, List.flatMap_singleton,
      List.length_singleton]
    rcases not_and_or.1 hshort with hfragments | hwords
    · have hmul : (before.length + 1) * s.maxFragmentWords.toNat ≤
          s.minFragments.toNat * s.maxFragmentWords.toNat :=
        Nat.mul_le_mul_right _ (Nat.lt_of_not_le hfragments)
      rw [Nat.add_mul, Nat.one_mul] at hmul
      omega
    · omega

theorem isBlank_eq_false_of_mem_eligible {spans : List Span} {q : Span}
    (h : q ∈ s.eligible spans) : Text.isBlank q.text = false := by
  have heligible := List.of_mem_filter h
  simp only [isEligible, Bool.and_eq_true, Bool.not_eq_true'] at heligible
  exact heligible.2

theorem exists_isTaken_le (h : 2 ≤ s.maxFragmentWords.toNat) (spans : List Span) :
    ∃ taken, s.IsTaken (s.eligible spans) taken ∧ s.Records (s.draft spans) taken ∧
      taken.length ≤ s.spanLimit ∧ (taken.flatMap s.fragment).length ≤ s.wordLimit := by
  obtain ⟨taken, htaken, hrecords⟩ := s.exists_isTaken spans
  exact ⟨taken, htaken, hrecords,
    htaken.le_limits h fun _ hq => isBlank_eq_false_of_mem_eligible hq⟩

/-- However long a page and its runs are, the heading takes a bounded number of spans and of their
words, and has at most a dash for each span besides. -/
theorem headingText_le_limits :
    (∀ s : HeadingSettings, 2 ≤ s.maxFragmentWords.toNat → ∀ spans,
      ∃ taken, s.IsTaken (s.eligible spans) taken ∧ s.Records (s.draft spans) taken ∧
        taken.length ≤ s.spanLimit ∧ (taken.flatMap s.fragment).length ≤ s.wordLimit ∧
        (Text.words (s.headingText spans)).length ≤ s.wordLimit + s.spanLimit) ∧
    ∀ spans, let s : HeadingSettings := {}
      ∃ taken, s.IsTaken (s.eligible spans) taken ∧ s.Records (s.draft spans) taken ∧
        (taken.flatMap s.fragment).length ≤ 90 := by
  constructor
  · intro s h spans
    obtain ⟨taken, htaken, hrecords, hlength, hwords⟩ := exists_isTaken_le h spans
    refine ⟨taken, htaken, hrecords, hlength, hwords, ?_⟩
    rw [s.words_headingText_of_records hrecords]
    exact (s.length_outline_le [] taken).trans (Nat.add_le_add hwords hlength)
  · intro spans s
    obtain ⟨taken, htaken, hrecords, -, hwords⟩ :=
      exists_isTaken_le (show 2 ≤ s.maxFragmentWords.toNat by decide) spans
    exact ⟨taken, htaken, hrecords, hwords⟩

/-- Three spans of two words each are as much as these settings take of any page. -/
theorem headingText_le_limits_reached :
    let s : HeadingSettings := { minFragments := 3, minWords := 3, maxFragmentWords := 2 }
    let run (text : String) : Span := ⟨0, .nearest 36 1, text.toList⟩
    let spans := [run "one two", run "three four", run "five six", run "seven"]
    s.headingText spans = "one two three four five six".toList ∧
      s.spanLimit = 3 ∧ s.wordLimit = 6 ∧ 2 ≤ s.maxFragmentWords.toNat ∧
      ∃ taken, s.IsTaken (s.eligible spans) taken ∧ s.Records (s.draft spans) taken ∧
        taken.length ≤ s.spanLimit ∧ (taken.flatMap s.fragment).length ≤ s.wordLimit ∧
        (Text.words (s.headingText spans)).length ≤ s.wordLimit + s.spanLimit := by
  intro s run spans
  have hsorted : Span.sortedSizes spans = List.replicate 4 (.nearest 36 1) :=
    Span.sortedSizes_eq (by decide) (by decide +kernel)
  have htext : s.headingText spans = "one two three four five six".toList := by
    rw [headingText, Span.largestSizes, hsorted]
    decide +kernel
  exact ⟨htext, by decide, by decide, by decide, headingText_le_limits.1 s (by decide) spans⟩

end Precis.HeadingSettings
