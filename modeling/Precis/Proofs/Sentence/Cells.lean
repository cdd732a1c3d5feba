import Mathlib.Data.List.FinRange
import Mathlib.Order.Fin.Basic
import Precis.Proofs.Sentence.WordTable
import Precis.Sentence.Similarity

/-!
The square of similarities cell by cell. A turn of the filling loop writes the cells of one pair and
leaves all others alone; the pairs go through one half of the square with its diagonal, so in the
end every cell holds the value of its pair and nothing shows of what was there before. Both orders
of a pair have the same value, because two tables have the same words in common either way.
-/

namespace Precis

theorem WordTable.similarity_comm (a b : WordTable) : a.similarity b = b.similarity a := by
  rw [similarity, similarity, common_comm, Nat.add_comm]

namespace Similarity

def row {n : Nat} (k : Fin (n * n)) : Fin n :=
  ⟨k.val / n, Nat.div_lt_of_lt_mul k.isLt⟩

def column {n : Nat} (k : Fin (n * n)) : Fin n :=
  ⟨k.val % n, Nat.mod_lt _ (Nat.pos_of_ne_zero fun h => by subst h; exact absurd k.isLt (by simp))⟩

variable {n : Nat} {i j : Fin n}

theorem row_place (i j : Fin n) : row (place i j) = i := by
  have hpos : 0 < n := Nat.lt_of_le_of_lt (Nat.zero_le _) i.isLt
  apply Fin.ext
  change (i.val * n + j.val) / n = i.val
  rw [Nat.add_comm, Nat.add_mul_div_right _ _ hpos, Nat.div_eq_of_lt j.isLt, Nat.zero_add]

theorem column_place (i j : Fin n) : column (place i j) = j := by
  apply Fin.ext
  change (i.val * n + j.val) % n = j.val
  rw [Nat.mul_add_mod_self_right, Nat.mod_eq_of_lt j.isLt]

theorem place_row_column (k : Fin (n * n)) : place (row k) (column k) = k := by
  apply Fin.ext
  exact Nat.div_add_mod' k.val n

/-- Different cells have different places. -/
theorem place_inj {i j k l : Fin n} : place i j = place k l ↔ i = k ∧ j = l := by
  constructor
  · intro h
    constructor
    · rw [← row_place i j, h, row_place]
    · rw [← column_place i j, h, column_place]
  · rintro ⟨rfl, rfl⟩
    rfl

theorem mem_drop_finRange : j ∈ (List.finRange n).drop i.val ↔ i ≤ j := by
  rw [List.mem_drop_iff_getElem]
  constructor
  · rintro ⟨k, hk, rfl⟩
    rw [List.getElem_finRange]
    exact Nat.le_add_right i.val k
  · intro hle
    have hlast : i.val + (j.val - i.val) = j.val := Nat.add_sub_of_le hle
    have hbound : j.val - i.val + i.val < (List.finRange n).length := by
      rw [Nat.sub_add_cancel hle, List.length_finRange]
      exact j.isLt
    refine ⟨j.val - i.val, hbound, ?_⟩
    apply Fin.ext
    simpa using hlast

/-- The pairs are those on and above the diagonal. -/
theorem mem_pairs {pair : Fin n × Fin n} : pair ∈ pairs n ↔ pair.1 ≤ pair.2 := by
  simp only [pairs, List.mem_flatMap, List.mem_map, List.mem_finRange, true_and,
    mem_drop_finRange]
  constructor
  · rintro ⟨i, j, hle, rfl⟩
    exact hle
  · intro hle
    exact ⟨pair.1, pair.2, hle, rfl⟩

/-- Every pair that is compared fills its cell and the one across the diagonal, and together they
fill the square. -/
theorem exists_pair_of_place (k : Fin (n * n)) :
    ∃ pair ∈ pairs n, k = place pair.1 pair.2 ∨ k = place pair.2 pair.1 := by
  have hk := place_row_column k
  rcases le_total (row k) (column k) with hle | hle
  · exact ⟨(_, _), mem_pairs.2 hle, .inl hk.symm⟩
  · exact ⟨(_, _), mem_pairs.2 hle, .inr hk.symm⟩

theorem eq_min_max_iff {pair : Fin n × Fin n} (h : pair.1 ≤ pair.2) :
    pair = (min i j, max i j) ↔ pair = (i, j) ∨ pair = (j, i) := by
  obtain ⟨k, l⟩ := pair
  rcases le_total i j with hle | hle
  · rw [min_eq_left hle, max_eq_right hle]
    refine ⟨.inl, fun hor => hor.elim id fun heq => ?_⟩
    obtain ⟨rfl, rfl⟩ := Prod.mk.inj heq
    rw [show k = l from le_antisymm h hle]
  · rw [min_eq_right hle, max_eq_left hle]
    refine ⟨.inr, fun hor => hor.elim (fun heq => ?_) id⟩
    obtain ⟨rfl, rfl⟩ := Prod.mk.inj heq
    rw [show k = l from le_antisymm h hle]

/-- A turn of the loop writes the cell of a pair and the one across the diagonal, and no other. -/
theorem get_fillPair (value : Fin n → Fin n → Float) (cells : Vector Float (n * n))
    {pair : Fin n × Fin n} (h : pair.1 ≤ pair.2) (i j : Fin n) :
    (fillPair value cells pair).get (place i j) =
      if pair = (min i j, max i j) then value pair.1 pair.2 else cells.get (place i j) := by
  have hcell : (place pair.1 pair.2).val = (place i j).val ↔ pair = (i, j) := by
    rw [Fin.val_inj, place_inj, Prod.ext_iff]
  have hacross : (place pair.2 pair.1).val = (place i j).val ↔ pair = (j, i) := by
    rw [Fin.val_inj, place_inj, Prod.ext_iff, and_comm]
  have hwritten : (place pair.2 pair.1).val = (place i j).val ∨
      (place pair.1 pair.2).val = (place i j).val ↔ pair = (min i j, max i j) := by
    rw [hcell, hacross, or_comm, eq_min_max_iff h]
  change ((cells.set (place pair.1 pair.2) (value pair.1 pair.2) (place pair.1 pair.2).isLt).set
    (place pair.2 pair.1) (value pair.1 pair.2) (place pair.2 pair.1).isLt)[(place i j).val] = _
  rw [Vector.getElem_set, Vector.getElem_set, ← ite_or]
  exact if_congr hwritten rfl rfl

theorem get_foldl_fillPair (value : Fin n → Fin n → Float) {visited : List (Fin n × Fin n)}
    (hvisited : ∀ pair ∈ visited, pair.1 ≤ pair.2) (cells : Vector Float (n * n)) (i j : Fin n) :
    (visited.foldl (fillPair value) cells).get (place i j) =
      if (min i j, max i j) ∈ visited then value (min i j) (max i j)
      else cells.get (place i j) := by
  induction visited generalizing cells with
  | nil => rfl
  | cons pair visited ih =>
      obtain ⟨hpair, hrest⟩ := List.forall_mem_cons.1 hvisited
      rw [List.foldl_cons, ih hrest, get_fillPair value cells hpair]
      by_cases heq : pair = (min i j, max i j)
      · -- the cell may be written again, but with the same value
        simp [heq]
      · simp [heq, Ne.symm heq]

/-- After the run over all pairs a cell holds the value of its pair. -/
theorem get_fill (value : Fin n → Fin n → Float) (cells : Vector Float (n * n)) (i j : Fin n) :
    (fill value cells).get (place i j) = value (min i j) (max i j) := by
  have hpairs : (min i j, max i j) ∈ pairs n := mem_pairs.2 ((min_le_left i j).trans (le_max_left i j))
  rw [fill, get_foldl_fillPair value (fun _ => mem_pairs.1) cells, if_pos hpairs]

/-- Nothing shows of what the cells held before. -/
theorem fill_eq_fill (value : Fin n → Fin n → Float) (cells cells' : Vector Float (n * n)) :
    fill value cells = fill value cells' := by
  apply Vector.ext
  intro k hk
  have hplace := place_row_column ⟨k, hk⟩
  have hget := (get_fill value cells (row ⟨k, hk⟩) (column ⟨k, hk⟩)).trans
    (get_fill value cells' _ _).symm
  rw [hplace] at hget
  exact hget

theorem pairSimilarity_comm (tables : Array WordTable) (i j : Fin tables.size) :
    pairSimilarity tables i j = pairSimilarity tables j i := by
  rw [pairSimilarity, pairSimilarity, WordTable.similarity_comm]

theorem get_ofTables (tables : Array WordTable) (i j : Fin tables.size) :
    (ofTables tables).get i j = pairSimilarity tables i j := by
  have hfill : (ofTables tables).get i j = pairSimilarity tables (min i j) (max i j) :=
    get_fill (pairSimilarity tables) _ i j
  rw [hfill]
  rcases le_total i j with hle | hle
  · rw [min_eq_left hle, max_eq_right hle]
  · rw [min_eq_right hle, max_eq_left hle, pairSimilarity_comm]

theorem rowCells_eq (m : Similarity) (i : Fin m.size) :
    m.rowCells i = (List.finRange m.size).map (m.get i) := by
  have hend : (i.val + 1) * m.size ≤ m.size * m.size := Nat.mul_le_mul_right m.size i.isLt
  have hstretch : (i.val + 1) * m.size - i.val * m.size = m.size := by
    rw [Nat.add_mul, Nat.one_mul, Nat.add_sub_cancel_left]
  apply List.ext_getElem
  · rw [rowCells, Vector.length_toList, Nat.min_eq_left hend, hstretch, List.length_map,
      List.length_finRange]
  · intro k h₁ h₂
    rw [List.getElem_map, List.getElem_finRange]
    simp only [rowCells, Vector.getElem_toList, Vector.getElem_extract]
    rfl

end Similarity
end Precis
