import Mathlib.Data.List.Sort
import Precis.Proofs.Sentence.Overlap
import Precis.Proofs.Sentence.Similarity
import Precis.Proofs.Sentence.Summary

/-!
Sentences with the same words. A table stands for a collection of words: it does not tell in which
order they came. What is computed from the tables of a text is therefore left as it is if words
change places, or the case of their letters, or the white space between them.
-/

namespace Precis

namespace WordTable

variable {words words' : List Text}

theorem pos_of_mem_ofWords {entry : Text × Nat} (h : entry ∈ ofWords words) : 0 < entry.2 := by
  induction words using List.reverseRecOn generalizing entry with
  | nil => exact absurd h List.not_mem_nil
  | append_singleton words word ih =>
      rw [ofWords_append_singleton] at h
      exact (of_mem_add h).elim And.right ih

/-- The entries of a table are the words that occur, each with its number of occurrences. -/
theorem mem_ofWords_iff {entry : Text × Nat} :
    entry ∈ ofWords words ↔ entry.2 = words.count entry.1 ∧ 0 < entry.2 := by
  constructor
  · intro h
    refine ⟨?_, pos_of_mem_ofWords h⟩
    rw [← count_ofWords, count_of_mem (pairwise_ofWords words) h]
  · rintro ⟨hcount, hpos⟩
    rw [hcount, ← count_ofWords] at hpos
    obtain ⟨old, hold, heq⟩ : ∃ old ∈ ofWords words, old.1 = entry.1 := by
      by_contra hnone
      push Not at hnone
      rw [count_eq_zero hnone] at hpos
      exact Nat.lt_irrefl 0 hpos
    have hsame : old = entry := by
      refine Prod.ext heq ?_
      rw [hcount, ← heq, ← count_ofWords, count_of_mem (pairwise_ofWords words) hold]
    exact hsame ▸ hold

theorem ofWords_eq_iff : ofWords words = ofWords words' ↔ words.Perm words' := by
  constructor
  · intro h
    refine List.perm_iff_count.2 fun w => ?_
    rw [← count_ofWords, h, count_ofWords]
  · intro h
    refine (pairwise_ofWords words).eq_of_mem_iff (pairwise_ofWords words') fun entry => ?_
    rw [mem_ofWords_iff, mem_ofWords_iff, h.count_eq]

end WordTable

/-- The pairs of places that hold the same word, over half of the words of both texts. -/
def Text.likeness (a b : Text) : Float :=
  let words := a.words.length + b.words.length
  if words = 0 then 0 else (sharedPlaces a b).toFloat / (words.toFloat / 2)

theorem Text.similarity_wordTable (a b : Text) :
    a.wordTable.similarity b.wordTable = likeness a b := by
  rw [WordTable.similarity, common_wordTable, likeness, total_wordTable, total_wordTable]

namespace Sentence

/-- The same words the same number of times, but for order, white space and the case of letters. -/
def SameWords (a b : Sentence) : Prop :=
  a.text.lowercaseWords.Perm b.text.lowercaseWords

instance (a b : Sentence) : Decidable (SameWords a b) :=
  inferInstanceAs (Decidable (a.text.lowercaseWords.Perm b.text.lowercaseWords))

variable {a b : Sentence} {sentences sentences' : List Sentence}

theorem SameWords.wordTable_eq (h : SameWords a b) : a.text.wordTable = b.text.wordTable :=
  WordTable.ofWords_eq_iff.2 h

theorem map_wordTable_eq (h : List.Forall₂ SameWords sentences sentences') :
    (sentences.map text).map Text.wordTable = (sentences'.map text).map Text.wordTable := by
  induction h with
  | nil => rfl
  | cons hab _ ih => rw [List.map_cons, List.map_cons, List.map_cons, List.map_cons,
      hab.wordTable_eq, ih]

theorem similarity_eq (h : List.Forall₂ SameWords sentences sentences') :
    similarity sentences = similarity sentences' := by
  rw [similarity, Similarity.ofTexts, map_wordTable_eq h]
  rfl

theorem map_score_scored (sentences : List Sentence) :
    (scored sentences).map score = (similarity sentences).rowSums := by
  apply List.ext_getElem
  · rw [List.length_map, length_scored, length_rowSums]
  · intro i h₁ h₂
    simp [scored]

theorem size_similarity (sentences : List Sentence) :
    (similarity sentences).size = sentences.length := by
  simp [similarity, Similarity.ofTexts, Similarity.ofTables]

/-- The row of a sentence, which is also its column. -/
def line (i : Fin sentences.length) : Fin (similarity sentences).size :=
  i.cast (size_similarity sentences).symm

theorem rowCells_line (i : Fin sentences.length) :
    (similarity sentences).rowCells (line i) =
      sentences.map fun b => Text.likeness sentences[i].text b.text := by
  have hlength : sentences.length = ((sentences.map text).map Text.wordTable).toArray.size := by
    simp
  refine (Similarity.rowCells_ofTables _ (i.cast hlength)).trans ?_
  rw [List.map_map, List.map_map]
  refine List.map_congr_left fun b _ => ?_
  rw [← Text.similarity_wordTable]
  simp

theorem score_scored (i : Fin sentences.length) :
    (scored sentences)[i.cast (length_scored sentences).symm].score =
      (similarity sentences).rowSum (line i) := by
  simp only [scored, Similarity.rowSums, Fin.getElem_fin, List.getElem_zipWith, List.getElem_map,
    List.getElem_finRange]
  rfl

theorem SameWords.likeness_eq (h : SameWords a b) (t : Text) :
    Text.likeness a.text t = Text.likeness b.text t := by
  rw [← Text.similarity_wordTable, h.wordTable_eq, Text.similarity_wordTable]

theorem SameWords.rowCells_eq {i j : Fin sentences.length}
    (h : SameWords sentences[i] sentences[j]) :
    (similarity sentences).rowCells (line i) = (similarity sentences).rowCells (line j) := by
  rw [rowCells_line, rowCells_line]
  exact List.map_congr_left fun b _ => h.likeness_eq b.text

/-- Similarities and scores are made of the words alone: they are the same for two lists whose
sentences have the same words place by place, and within one list for any two sentences with the
same words. -/
theorem scores_of_same_words :
    (∀ sentences sentences', List.Forall₂ SameWords sentences sentences' →
      similarity sentences = similarity sentences' ∧
      (scored sentences).map score = (scored sentences').map score) ∧
    ∀ (sentences : List Sentence) (i j : Fin sentences.length),
      (similarity sentences).rowCells (line i) =
        (sentences.map fun b => Text.likeness sentences[i].text b.text) ∧
      (SameWords sentences[i] sentences[j] →
        (similarity sentences).rowCells (line i) = (similarity sentences).rowCells (line j) ∧
        (scored sentences)[i.cast (length_scored sentences).symm].score =
          (scored sentences)[j.cast (length_scored sentences).symm].score) := by
  refine ⟨fun sentences sentences' h => ⟨similarity_eq h, ?_⟩, fun sentences i j => ?_⟩
  · rw [map_score_scored, map_score_scored, similarity_eq h]
  · refine ⟨rowCells_line i, fun h => ⟨h.rowCells_eq, ?_⟩⟩
    rw [score_scored, score_scored, Similarity.rowSum, Similarity.rowSum, h.rowCells_eq]

/-- The words of all four sentences are the same, in another order and case each time. -/
theorem scores_of_same_words_shuffled :
    let first := ofText 0 "The old harbour slept.".toList
    let second := ofText 1 "old  HARBOUR the slept.".toList
    let first' := ofText 0 "slept. the\tOLD harbour".toList
    let second' := ofText 1 "harbour old SLEPT. The".toList
    let sentences := [first, second]
    let sentences' := [first', second']
    List.Forall₂ SameWords sentences sentences' ∧ SameWords first second ∧
    similarity sentences = similarity sentences' ∧
    (scored sentences).map score = (scored sentences').map score ∧
    (similarity sentences).rowCells (line (0 : Fin 2)) =
      (similarity sentences).rowCells (line (1 : Fin 2)) ∧
    (scored sentences)[(0 : Fin 2).cast (length_scored sentences).symm].score =
      (scored sentences)[(1 : Fin 2).cast (length_scored sentences).symm].score := by
  intro first second first' second' sentences sentences'
  have hfirst : SameWords first first' := by decide +kernel
  have hsecond : SameWords second second' := by decide +kernel
  have hsame : SameWords first second := by decide +kernel
  have hall : List.Forall₂ SameWords sentences sentences' := .cons hfirst (.cons hsecond .nil)
  obtain ⟨hlists, hplaces⟩ := scores_of_same_words
  obtain ⟨hsimilarity, hscores⟩ := hlists sentences sentences' hall
  obtain ⟨-, hrows⟩ := hplaces sentences (0 : Fin 2) (1 : Fin 2)
  obtain ⟨hrow, hscore⟩ := hrows hsame
  exact ⟨hall, hsame, hsimilarity, hscores, hrow, hscore⟩

end Sentence
end Precis
