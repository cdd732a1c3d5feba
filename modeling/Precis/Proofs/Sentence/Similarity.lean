import Mathlib.Algebra.Order.BigOperators.Group.List
import Mathlib.Algebra.Order.Field.Basic
import Mathlib.Data.List.FinRange
import Mathlib.Data.Rat.Cast.Order
import Mathlib.Tactic.Positivity
import Precis.Proofs.Sentence.Cells
import Precis.Proofs.Text.Words

/-!
Scores from below. Every sentence of a text has a word, so no similarity divides by zero, and a
sentence has at least as many words in common with itself as it has words. In exact numbers its
similarity to itself is therefore at least one, and so is the sum of its row.
-/

namespace Precis

namespace Similarity

theorem rowCells_ofTables (tables : List WordTable) (i : Fin tables.toArray.size) :
    (ofTables tables.toArray).rowCells i = tables.map (tables.toArray[i].similarity) := by
  refine (rowCells_eq (ofTables tables.toArray) i).trans ?_
  apply List.ext_getElem
  · simp [ofTables]
  · intro k h₁ h₂
    simp only [List.getElem_map, List.getElem_finRange]
    exact get_ofTables tables.toArray i _

/-- All rows from top to bottom. -/
def rows (m : Similarity) : List (List Float) :=
  (List.finRange m.size).map m.rowCells

theorem rows_ofTables (tables : List WordTable) :
    (ofTables tables.toArray).rows = tables.map fun a => tables.map a.similarity := by
  apply List.ext_getElem
  · simp [rows, ofTables]
  · intro k h₁ h₂
    simp only [rows, List.getElem_map, List.getElem_finRange]
    exact rowCells_ofTables tables _

end Similarity

namespace Sentence

/-- The words that two sentences have in common, repetitions included. -/
def overlap (a b : Sentence) : Nat :=
  a.text.wordTable.common b.text.wordTable

/-- The similarity of two sentences as an exact number: what they have in common over half of their
words. -/
def exactSimilarity (a b : Sentence) : ℚ :=
  2 * a.overlap b / (a.wordCount + b.wordCount)

def exactScore (sentences : List Sentence) (a : Sentence) : ℚ :=
  (sentences.map a.exactSimilarity).sum

/-- At least one word, and as many as are counted. -/
structure HasWords (a : Sentence) : Prop where
  counted : a.wordCount = a.text.words.length
  pos : 0 < a.wordCount

variable {a b : Sentence}

theorem HasWords.total_eq (h : a.HasWords) : a.text.wordTable.total = a.wordCount := by
  rw [h.counted, Text.total_wordTable]

theorem HasWords.wordCount_le_overlap (h : a.HasWords) : a.wordCount ≤ a.overlap a := by
  rw [← h.total_eq]
  exact WordTable.total_le_common_self a.text.wordTable

theorem HasWords.overlap_eq_iff (h : a.HasWords) :
    a.overlap a = a.wordCount ↔ a.text.lowercaseWords.Nodup := by
  rw [← h.total_eq, overlap, WordTable.common_self_eq_total_iff]
  exact WordTable.forall_le_one_iff

theorem exactSimilarity_nonneg (a b : Sentence) : 0 ≤ a.exactSimilarity b := by
  rw [exactSimilarity]
  positivity

theorem exactSimilarity_self (a : Sentence) :
    a.exactSimilarity a = a.overlap a / a.wordCount := by
  rw [exactSimilarity, ← two_mul, mul_div_mul_left _ _ two_ne_zero]

theorem HasWords.one_le_exactSimilarity (h : a.HasWords) : 1 ≤ a.exactSimilarity a := by
  have hpos : (0 : ℚ) < a.wordCount := by exact_mod_cast h.pos
  rw [exactSimilarity_self, one_le_div hpos]
  exact_mod_cast h.wordCount_le_overlap

theorem HasWords.exactSimilarity_eq_one_iff (h : a.HasWords) :
    a.exactSimilarity a = 1 ↔ a.text.lowercaseWords.Nodup := by
  have hpos : (a.wordCount : ℚ) ≠ 0 := by exact_mod_cast h.pos.ne'
  rw [exactSimilarity_self, div_eq_one_iff_eq hpos, ← h.overlap_eq_iff]
  exact Nat.cast_inj

theorem HasWords.one_le_exactScore (h : a.HasWords) {sentences : List Sentence}
    (hmem : a ∈ sentences) : 1 ≤ exactScore sentences a := by
  have hcells : ∀ x ∈ sentences.map a.exactSimilarity, 0 ≤ x :=
    List.forall_mem_map.2 fun b _ => exactSimilarity_nonneg a b
  calc 1 ≤ a.exactSimilarity a := h.one_le_exactSimilarity
    _ ≤ exactScore sentences a := List.single_le_sum hcells _ (List.mem_map_of_mem hmem)

/-- Between sentences with words nothing is divided by zero. -/
theorem rows_similarity {sentences : List Sentence} (h : ∀ a ∈ sentences, a.HasWords) :
    (similarity sentences).rows = sentences.map fun a => sentences.map fun b =>
      (a.overlap b).toFloat / ((a.wordCount + b.wordCount).toFloat / 2) := by
  rw [similarity, Similarity.ofTexts, Similarity.rows_ofTables, List.map_map, List.map_map]
  refine List.map_congr_left fun a ha => ?_
  simp only [Function.comp_apply, List.map_map]
  refine List.map_congr_left fun b hb => ?_
  have hpos := (h a ha).pos
  simp only [Function.comp_apply, WordTable.similarity, (h a ha).total_eq, (h b hb).total_eq]
  rw [if_neg (by omega)]
  rfl

end Sentence

namespace SummarySettings

theorem words_take_trim_ne_nil {t : Text} {n : Nat} (hne : t.trim ≠ []) (hn : 0 < n) :
    Text.words (t.trim.take n) ≠ [] := by
  obtain ⟨c, rest, htrim⟩ := List.exists_cons_of_ne_nil hne
  obtain ⟨m, rfl⟩ := Nat.exists_eq_succ_of_ne_zero hn.ne'
  have hc : Text.isSpace c = false := (Text.isTrimmed_trim t).1 c (by rw [htrim]; rfl)
  rw [htrim, List.take_succ_cons]
  exact Text.words_cons_ne_nil hc _

variable {s : SummarySettings}

/-- A sentence is a candidate that is long enough, trimmed and cut. -/
theorem exists_of_mem_sentencesOf {text : Text} {a : Sentence} (h : a ∈ s.sentencesOf text) :
    ∃ i, ∃ t ∈ s.candidates text, s.minSentenceChars.toNat ≤ t.trim.length ∧
      a = Sentence.ofText i (t.trim.take s.maxSentenceChars.toNat) := by
  obtain ⟨i, hi, rfl⟩ := List.mem_mapIdx.1 h
  obtain ⟨t, ht, heq⟩ := List.mem_map.1 (List.getElem_mem hi)
  obtain ⟨hmem, hlong⟩ := List.mem_filter.1 ht
  obtain ⟨candidate, hcandidate, rfl⟩ := List.mem_map.1 hmem
  exact ⟨i, candidate, hcandidate, of_decide_eq_true hlong, by rw [heq]⟩

/-- Breaks are repaired in the text before it is parted, so the cut comes last. -/
theorem length_le_of_mem_sentencesOf {text : Text} {a : Sentence} (h : a ∈ s.sentencesOf text) :
    a.text.length ≤ s.maxSentenceChars.toNat := by
  obtain ⟨i, t, -, -, rfl⟩ := exists_of_mem_sentencesOf h
  exact List.length_take_le _ _

theorem hasWords_of_mem_sentencesOf (hmin : 1 ≤ s.minSentenceChars.toNat)
    (hmax : 1 ≤ s.maxSentenceChars.toNat) {text : Text} {a : Sentence}
    (h : a ∈ s.sentencesOf text) : a.HasWords := by
  obtain ⟨i, t, -, hlong, rfl⟩ := exists_of_mem_sentencesOf h
  have hne : t.trim ≠ [] := List.length_pos_iff.1 (hmin.trans hlong)
  exact ⟨rfl, List.length_pos_iff.2 (words_take_trim_ne_nil hne hmax)⟩

/-- Every sentence of a text has words, at least as many in common with itself as it has, and only
those if none of them is repeated. So in exact numbers it is at least like itself, no similarity is
negative or divides by zero, and no score is below one. -/
theorem similarity_of_sentences (hmin : 1 ≤ s.minSentenceChars.toNat)
    (hmax : 1 ≤ s.maxSentenceChars.toNat) (text : Text) :
    let sentences := s.sentencesOf text
    (∀ a ∈ sentences,
      1 ≤ a.wordCount ∧ a.wordCount ≤ a.overlap a ∧
      (a.overlap a = a.wordCount ↔ a.text.lowercaseWords.Nodup) ∧
      1 ≤ a.exactSimilarity a ∧ (a.exactSimilarity a = 1 ↔ a.text.lowercaseWords.Nodup) ∧
      1 ≤ Sentence.exactScore sentences a) ∧
    (∀ a ∈ sentences, ∀ b ∈ sentences,
      0 < a.wordCount + b.wordCount ∧ 0 ≤ a.exactSimilarity b) ∧
    (Sentence.similarity sentences).rows = sentences.map fun a => sentences.map fun b =>
      (a.overlap b).toFloat / ((a.wordCount + b.wordCount).toFloat / 2) := by
  intro sentences
  have hwords : ∀ a ∈ sentences, a.HasWords := fun _ => hasWords_of_mem_sentencesOf hmin hmax
  refine ⟨fun a ha => ?_, fun a ha b _ => ?_, Sentence.rows_similarity hwords⟩
  · have h := hwords a ha
    exact ⟨h.pos, h.wordCount_le_overlap, h.overlap_eq_iff, h.one_le_exactSimilarity,
      h.exactSimilarity_eq_one_iff, h.one_le_exactScore ha⟩
  · exact ⟨Nat.add_pos_left (hwords a ha).pos _, Sentence.exactSimilarity_nonneg a b⟩

/-- The first sentence repeats a word in another case, the second one repeats none. -/
theorem similarity_of_sentences_repeated :
    let s : SummarySettings := {}
    let text := "The harbour and the boats in it. Gulls followed their master.".toList
    let first := Sentence.ofText 0 "The harbour and the boats in it.".toList
    let second := Sentence.ofText 1 "Gulls followed their master.".toList
    1 ≤ s.minSentenceChars.toNat ∧ 1 ≤ s.maxSentenceChars.toNat ∧
    s.sentencesOf text = [first, second] ∧
    first.wordCount = 7 ∧ first.overlap first = 9 ∧ first.exactSimilarity first ≠ 1 ∧
    second.wordCount = 4 ∧ second.overlap second = 4 ∧ second.exactSimilarity second = 1 ∧
    1 ≤ Sentence.exactScore (s.sentencesOf text) first ∧
    0 < first.wordCount + second.wordCount ∧ 0 ≤ first.exactSimilarity second := by
  intro s text first second
  have hmin : 1 ≤ s.minSentenceChars.toNat := by decide
  have hmax : 1 ≤ s.maxSentenceChars.toNat := by decide
  have hkept : (((s.candidates text).map Text.trim).filter fun t =>
      decide (s.minSentenceChars.toNat ≤ t.length)).map (·.take s.maxSentenceChars.toNat) =
      [first.text, second.text] := by decide +kernel
  have hsentences : s.sentencesOf text = [first, second] := by
    rw [sentencesOf]
    simp only [hkept]
    rfl
  have hfirst : first ∈ s.sentencesOf text := by simp [hsentences]
  have hsecond : second ∈ s.sentencesOf text := by simp [hsentences]
  obtain ⟨hself, hpairs, -⟩ := similarity_of_sentences hmin hmax text
  obtain ⟨-, -, -, -, hfirstOne, hfirstScore⟩ := hself first hfirst
  obtain ⟨-, -, -, -, hsecondOne, -⟩ := hself second hsecond
  obtain ⟨hwords, hcell⟩ := hpairs first hfirst second hsecond
  exact ⟨hmin, hmax, hsentences, by decide +kernel, by decide +kernel,
    fun h => absurd (hfirstOne.1 h) (by decide +kernel), by decide +kernel, by decide +kernel,
    hsecondOne.2 (by decide +kernel), hfirstScore, hwords, hcell⟩

end SummarySettings
end Precis
