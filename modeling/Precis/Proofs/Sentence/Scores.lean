import Precis.Proofs.Sentence.SameWords

/-!
Scores out of the cells of the square. A pair of sentences is compared once and a score is read off a
stretch of cells; cell by cell this is the table of all similarities, in either order of a pair, and
a score is the sum of a line of it.
-/

namespace Precis

/-- The square that is filled over cells that may hold anything. -/
def Similarity.ofTablesOver (tables : Array WordTable)
    (start : Vector Float (tables.size * tables.size)) : Similarity :=
  ⟨tables.size, fill (pairSimilarity tables) start⟩

namespace Sentence

open Similarity (place pairs)

variable {sentences : List Sentence}

def wordTables (sentences : List Sentence) : Array WordTable :=
  ((sentences.map text).map Text.wordTable).toArray

theorem get_similarity (i j : Fin sentences.length) :
    (similarity sentences).get (line i) (line j) =
      (sentences.get i).text.wordTable.similarity (sentences.get j).text.wordTable := by
  have hsize : sentences.length = (wordTables sentences).size := by
    simp [wordTables]
  refine (Similarity.get_ofTables (wordTables sentences) (i.cast hsize) (j.cast hsize)).trans ?_
  simp only [Similarity.pairSimilarity, wordTables, List.map_map, Fin.getElem_fin,
    List.getElem_toArray, List.getElem_map]
  rfl

theorem rowCells_eq_map_get (i : Fin sentences.length) :
    (similarity sentences).rowCells (line i) =
      (List.finRange sentences.length).map fun j => (similarity sentences).get (line i) (line j) := by
  rw [rowCells_line]
  apply List.ext_getElem
  · simp
  · intro k h₁ h₂
    rw [List.getElem_map, List.getElem_map, List.getElem_finRange, get_similarity,
      Text.similarity_wordTable]
    rfl

/-- The square of a list of sentences. Every cell holds the similarity of its own pair, below the
diagonal as above it, and a score is the sum of a line from left to right. No place lies outside the
square, every cell is filled, and nothing is left of what the cells held before. -/
theorem similarity_cell_by_cell (sentences : List Sentence) :
    let n := sentences.length
    let m := similarity sentences
    m.size = n ∧
    (∀ i j : Fin n, m.get (line i) (line j) = m.get (line j) (line i)) ∧
    (∀ i j : Fin n, m.get (line i) (line j) =
      let words := (sentences.get i).text.words.length + (sentences.get j).text.words.length
      if words = 0 then 0
      else ((sentences.get i).overlap (sentences.get j)).toFloat / (words.toFloat / 2)) ∧
    (∀ i : Fin n, ((scored sentences).get (i.cast (length_scored sentences).symm)).score =
      ((List.finRange n).map fun j => m.get (line i) (line j)).foldl (· + ·) 0) ∧
    (∀ i j : Fin n, (place i j).val = i * n + j ∧ i * n + j < n * n ∧ (i + 1) * n ≤ n * n) ∧
    (∀ k : Fin (n * n), ∃ pair ∈ pairs n, k = place pair.1 pair.2 ∨ k = place pair.2 pair.1) ∧
    ∀ start, Similarity.ofTablesOver (wordTables sentences) start = m := by
  intro n m
  refine ⟨size_similarity sentences, fun i j => ?_, fun i j => ?_, fun i => ?_, fun i j => ?_,
    Similarity.exists_pair_of_place, fun start => ?_⟩
  · rw [get_similarity, get_similarity, WordTable.similarity_comm]
  · rw [get_similarity, WordTable.similarity, Text.total_wordTable, Text.total_wordTable]
    rfl
  · refine (score_scored i).trans ?_
    rw [Similarity.rowSum, rowCells_eq_map_get]
  · exact ⟨rfl, (place i j).isLt, Nat.mul_le_mul_right n i.isLt⟩
  · exact congrArg (Similarity.mk _) (Similarity.fill_eq_fill _ start _)

end Sentence
end Precis
