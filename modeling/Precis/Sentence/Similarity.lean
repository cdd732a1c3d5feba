import Precis.Sentence.Basic
import Precis.Sentence.Overlap

/-!
Similarity of the sentences of a text, each with each, and the score of a sentence: the sum of its
similarities to all sentences, itself included. A pair is compared once, for the cells on both sides
of the diagonal.
-/

namespace Precis

/-- The cells of a square, row by row. -/
structure Similarity where
  size : Nat
  cells : Vector Float (size * size)

/-- The words that two sentences share over half of the words that they have. -/
def WordTable.similarity (a b : WordTable) : Float :=
  let words := a.total + b.total
  if words = 0 then 0 else (a.common b).toFloat / (words.toFloat / 2)

namespace Similarity

/-- The place of a cell. -/
def place {n : Nat} (i j : Fin n) : Fin (n * n) :=
  ⟨i.val * n + j.val, by
    have hi : (i.val + 1) * n ≤ n * n := Nat.mul_le_mul_right n i.isLt
    have hj := j.isLt
    rw [Nat.add_mul] at hi
    omega⟩

/-- The pairs that are compared: every place with itself and with those behind it. -/
def pairs (n : Nat) : List (Fin n × Fin n) :=
  (List.finRange n).flatMap fun i => ((List.finRange n).drop i.val).map fun j => (i, j)

/-- Puts the value of a pair in its cell and in the cell across the diagonal. -/
def fillPair {n : Nat} (value : Fin n → Fin n → Float) (cells : Vector Float (n * n))
    (pair : Fin n × Fin n) : Vector Float (n * n) :=
  let (i, j) := pair
  let x := value i j
  (cells.set (place i j) x (place i j).isLt).set (place j i) x (place j i).isLt

def fill {n : Nat} (value : Fin n → Fin n → Float) (cells : Vector Float (n * n)) :
    Vector Float (n * n) :=
  (pairs n).foldl (fillPair value) cells

def get (m : Similarity) (i j : Fin m.size) : Float :=
  m.cells.get (place i j)

def isEmpty (m : Similarity) : Bool :=
  m.size == 0

def pairSimilarity (tables : Array WordTable) (i j : Fin tables.size) : Float :=
  tables[i].similarity tables[j]

def ofTables (tables : Array WordTable) : Similarity :=
  ⟨tables.size, fill (pairSimilarity tables) (Vector.replicate _ 0)⟩

def ofTexts (texts : List Text) : Similarity :=
  ofTables (texts.map Text.wordTable).toArray

def rowCells (m : Similarity) (i : Fin m.size) : List Float :=
  (m.cells.extract (i.val * m.size) ((i.val + 1) * m.size)).toList

def rowSum (m : Similarity) (i : Fin m.size) : Float :=
  (m.rowCells i).foldl (· + ·) 0

def rowSums (m : Similarity) : List Float :=
  (List.finRange m.size).map m.rowSum

end Similarity

namespace Sentence

def similarity (sentences : List Sentence) : Similarity :=
  .ofTexts (sentences.map Sentence.text)

/-- Gives every sentence its score. -/
def scored (sentences : List Sentence) : List Sentence :=
  List.zipWith (fun s x => { s with score := x }) sentences (similarity sentences).rowSums

end Sentence
end Precis
