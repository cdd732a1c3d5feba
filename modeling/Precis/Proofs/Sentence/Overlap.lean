import Mathlib.Algebra.BigOperators.Fin
import Precis.Proofs.Sentence.WordTable

/-!
Overlaps counted in three ways. A double loop over the places of both texts, the merge of their
tables, and the sum over the entries of one table with the counts looked up in the other one agree.
The last of them does not depend on which table is gone through, nor on the order of the entries.
-/

namespace Precis

namespace WordTable

/-- The sum over the entries of one table of the products with the counts in another one. -/
def tally (entries other : WordTable) : Nat :=
  (entries.map fun entry => entry.2 * other.count entry.1).sum

variable {a b : WordTable} {w : Text} {n : Nat}

theorem tally_cons (entry : Text × Nat) (entries other : WordTable) :
    tally (entry :: entries) other = entry.2 * other.count entry.1 + tally entries other := by
  rw [tally, List.map_cons, List.sum_cons, tally]

theorem tally_nil_right (entries : WordTable) : tally entries [] = 0 := by
  induction entries with
  | nil => rfl
  | cons entry entries ih => rw [tally_cons, ih, count, Nat.mul_zero]

theorem tally_cons_right (h : ∀ entry ∈ a, w < entry.1) : tally a ((w, n) :: b) = tally a b := by
  refine congrArg List.sum (List.map_congr_left fun entry hentry => ?_)
  have hne : w ≠ entry.1 := fun heq => List.lt_irrefl w (heq ▸ h entry hentry)
  rw [count, if_neg hne, Nat.zero_add]

/-- The merge of two tables meets every word that stands in both. -/
theorem common_eq_tally (ha : a.Pairwise (·.1 < ·.1)) (hb : b.Pairwise (·.1 < ·.1)) :
    common a b = tally a b := by
  fun_induction common a b with
  | case1 b => rfl
  | case2 entry a => rw [tally_nil_right]
  | case3 m a w n b ih =>
      obtain ⟨haw, ha⟩ := List.pairwise_cons.1 ha
      obtain ⟨hbw, hb⟩ := List.pairwise_cons.1 hb
      have hcount : count w ((w, n) :: b) = n := by
        rw [count, if_pos rfl, count_eq_zero_of_lt hbw, Nat.add_zero]
      rw [tally_cons, tally_cons_right haw, hcount, ih ha hb]
  | case4 v m a w n b hne hlt ih =>
      obtain ⟨-, ha⟩ := List.pairwise_cons.1 ha
      have hbv : ∀ entry ∈ (w, n) :: b, v < entry.1 :=
        List.forall_mem_cons.2
          ⟨hlt, fun entry hentry => List.lt_trans hlt ((List.pairwise_cons.1 hb).1 entry hentry)⟩
      rw [tally_cons, count_eq_zero_of_lt hbv, Nat.mul_zero, Nat.zero_add, ih ha hb]
  | case5 v m a w n b hne hnlt ih =>
      have hlt : w < v := Std.lt_of_le_of_ne (Std.not_lt.1 hnlt) (Ne.symm hne)
      have haw : ∀ entry ∈ (v, m) :: a, w < entry.1 :=
        List.forall_mem_cons.2
          ⟨hlt, fun entry hentry => List.lt_trans hlt ((List.pairwise_cons.1 ha).1 entry hentry)⟩
      rw [tally_cons_right haw, ih ha (List.pairwise_cons.1 hb).2]

theorem tally_add (word : Text) (table other : WordTable) :
    tally (add word table) other = other.count word + tally table other := by
  induction table with
  | nil => simp [add, tally]
  | cons entry table ih =>
      obtain ⟨v, n⟩ := entry
      rw [add]
      split
      · next heq =>
        subst heq
        rw [tally_cons, tally_cons]
        simp only [Nat.add_mul, Nat.one_mul]
        omega
      · split
        · rw [tally_cons, Nat.one_mul]
        · rw [tally_cons, tally_cons, ih]
          omega

/-- Repeated words may as well be looked up one by one. -/
theorem tally_ofWords (words : List Text) (other : WordTable) :
    tally (ofWords words) other = (words.map other.count).sum := by
  induction words using List.reverseRecOn with
  | nil => rfl
  | append_singleton words word ih =>
      rw [ofWords_append_singleton, tally_add, ih, List.map_append, List.sum_append, Nat.add_comm]
      rfl

theorem count_perm (h : a.Perm b) (w : Text) : a.count w = b.count w := by
  induction h with
  | nil => rfl
  | cons entry _ ih => rw [count, count, ih]
  | swap entry entry' rest =>
      simp only [count]
      omega
  | trans _ _ ih ih' => exact ih.trans ih'

theorem tally_perm {a' b' : WordTable} (ha : a'.Perm a) (hb : b'.Perm b) :
    tally a' b' = tally a b := by
  rw [tally, tally, (ha.map _).sum_eq]
  refine congrArg List.sum (List.map_congr_left fun entry _ => ?_)
  rw [count_perm hb]

end WordTable

namespace Text

open WordTable (tally)

/-- The pairs of places, one in each text, whose words agree but for the case of letters. -/
def wordPairs (a b : Text) : Finset (Fin a.words.length × Fin b.words.length) :=
  Finset.univ.filter fun p => Unicode.lowercase a.words[p.1] = Unicode.lowercase b.words[p.2]

theorem sharedPlaces_eq_sum (a b : Text) :
    sharedPlaces a b = (a.lowercaseWords.map fun v => b.lowercaseWords.count v).sum := by
  rw [sharedPlaces, List.length_flatMap]
  refine congrArg List.sum (List.map_congr_left fun v _ => ?_)
  rw [List.count_eq_length_filter]
  refine congrArg List.length (List.filter_congr fun w _ => ?_)
  rw [Bool.eq_iff_iff, decide_eq_true_eq, beq_iff_eq, eq_comm]

theorem sum_map_ite {α : Type} (l : List α) (p : α → Prop) [DecidablePred p] :
    (l.map fun x => if p x then 1 else 0).sum = l.countP p := by
  induction l with
  | nil => rfl
  | cons x l ih =>
      rw [List.map_cons, List.sum_cons, ih, List.countP_cons, Nat.add_comm]
      simp only [decide_eq_true_eq]

/-- The inner loop runs over the places of the second text, the outer one over those of the
first. -/
theorem card_wordPairs (a b : Text) : (wordPairs a b).card = sharedPlaces a b := by
  have hinner : ∀ v, (∑ q : Fin b.words.length, if v = Unicode.lowercase b.words[q] then 1 else 0) =
      b.lowercaseWords.count v := by
    intro v
    calc (∑ q : Fin b.words.length, if v = Unicode.lowercase b.words[q] then 1 else 0)
        = (b.words.map fun w => if v = Unicode.lowercase w then 1 else 0).sum :=
          Fin.sum_univ_fun_getElem b.words fun w => if v = Unicode.lowercase w then 1 else 0
      _ = b.words.countP fun w => v = Unicode.lowercase w := sum_map_ite ..
      _ = b.lowercaseWords.count v := by
          rw [lowercaseWords, List.count_eq_countP, List.countP_map]
          refine List.countP_congr fun w _ => ?_
          rw [decide_eq_true_eq, Function.comp_apply, beq_iff_eq, eq_comm]
  calc (wordPairs a b).card
      = ∑ p : Fin a.words.length, ∑ q : Fin b.words.length,
          if Unicode.lowercase a.words[p] = Unicode.lowercase b.words[q] then 1 else 0 := by
        rw [wordPairs, Finset.card_filter]
        exact Fintype.sum_prod_type _
    _ = ∑ p : Fin a.words.length, b.lowercaseWords.count (Unicode.lowercase a.words[p]) :=
        Finset.sum_congr rfl fun p _ => hinner (Unicode.lowercase a.words[p])
    _ = (a.words.map fun w => b.lowercaseWords.count (Unicode.lowercase w)).sum :=
        Fin.sum_univ_fun_getElem a.words fun w => b.lowercaseWords.count (Unicode.lowercase w)
    _ = sharedPlaces a b := by
        rw [sharedPlaces_eq_sum, lowercaseWords.eq_def a, List.map_map]
        rfl

theorem common_wordTable_eq_tally (a b : Text) :
    a.wordTable.common b.wordTable = tally a.wordTable b.wordTable :=
  WordTable.common_eq_tally (WordTable.pairwise_ofWords _) (WordTable.pairwise_ofWords _)

theorem common_wordTable (a b : Text) : a.wordTable.common b.wordTable = sharedPlaces a b := by
  rw [common_wordTable_eq_tally, wordTable, WordTable.tally_ofWords, sharedPlaces_eq_sum]
  exact congrArg List.sum (List.map_congr_left fun v _ => WordTable.count_ofWords ..)

theorem sharedPlaces_comm (a b : Text) : sharedPlaces a b = sharedPlaces b a := by
  rw [← common_wordTable, WordTable.common_comm, common_wordTable]

/-- What the tables of two texts have in common is the number of pairs of places that hold the same
word. The texts may change places, either table may be gone through, and neither needs to have its
entries in order. -/
theorem common_counts_pairs (a b : Text) :
    a.wordTable.common b.wordTable = (wordPairs a b).card ∧
    a.wordTable.common b.wordTable = sharedPlaces a b ∧
    b.wordTable.common a.wordTable = a.wordTable.common b.wordTable ∧
    ∀ entries entries' : WordTable, entries.Perm a.wordTable → entries'.Perm b.wordTable →
      tally entries entries' = a.wordTable.common b.wordTable ∧
      tally entries' entries = a.wordTable.common b.wordTable := by
  have hsymm : b.wordTable.common a.wordTable = a.wordTable.common b.wordTable := by
    rw [common_wordTable, common_wordTable, sharedPlaces_comm]
  refine ⟨?_, common_wordTable a b, hsymm, fun entries entries' ha hb => ⟨?_, ?_⟩⟩
  · rw [common_wordTable, card_wordPairs]
  · rw [WordTable.tally_perm ha hb, common_wordTable_eq_tally]
  · rw [WordTable.tally_perm hb ha, ← hsymm, common_wordTable_eq_tally]

/-- One word occurs twice in both texts, each time in another case, and the tables are gone through
from behind. -/
theorem common_counts_pairs_repeated :
    let a : Text := "the The cat".toList
    let b : Text := "THE dog the".toList
    a.wordTable.reverse.Perm a.wordTable ∧ b.wordTable.reverse.Perm b.wordTable ∧
    (wordPairs a b).card = 4 ∧ tally a.wordTable.reverse b.wordTable.reverse = 4 ∧
    tally b.wordTable.reverse a.wordTable.reverse = 4 := by
  intro a b
  have ha : a.wordTable.reverse.Perm a.wordTable := List.reverse_perm _
  have hb : b.wordTable.reverse.Perm b.wordTable := List.reverse_perm _
  have hcommon : a.wordTable.common b.wordTable = 4 := by decide +kernel
  obtain ⟨hpairs, -, -, hany⟩ := common_counts_pairs a b
  obtain ⟨hab, hba⟩ := hany _ _ ha hb
  exact ⟨ha, hb, hpairs ▸ hcommon, hab.trans hcommon, hba.trans hcommon⟩

end Text
end Precis
