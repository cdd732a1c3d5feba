import Mathlib.Data.List.Induction
import Mathlib.Data.List.Nodup
import Precis.Sentence.Overlap

/-!
Tables of words. Every word stands in a table once, with the number of its occurrences. What a table
has in common with itself is the sum of the squares of these numbers, so it is never less than their
sum, and it is their sum if no word occurs twice.
-/

namespace Precis.WordTable

/-- The occurrences that the entries of a word add up to. -/
def count (word : Text) : WordTable → Nat
  | [] => 0
  | (w, n) :: rest => (if w = word then n else 0) + count word rest

theorem count_add (word w : Text) (table : WordTable) :
    (add word table).count w = table.count w + if word = w then 1 else 0 := by
  induction table with
  | nil => simp [add, count]
  | cons entry rest ih =>
      obtain ⟨v, n⟩ := entry
      rw [add]
      split
      · next heq =>
        subst heq
        simp only [count]
        split <;> omega
      · split
        · rw [count, Nat.add_comm]
        · rw [count, count, ih, Nat.add_assoc]

theorem total_add (word : Text) (table : WordTable) : (add word table).total = table.total + 1 := by
  induction table with
  | nil => rfl
  | cons entry rest ih =>
      rw [add]
      split
      · simp only [total]
        omega
      · split
        · rw [total, Nat.add_comm]
        · rw [total, total, ih, Nat.add_assoc]

theorem of_mem_add {word : Text} {table : WordTable} {entry : Text × Nat}
    (h : entry ∈ add word table) : entry.1 = word ∧ 0 < entry.2 ∨ entry ∈ table := by
  induction table with
  | nil => exact .inl (by simp [List.mem_singleton.1 h])
  | cons head rest ih =>
      rw [add] at h
      split at h
      · next heq =>
        rcases List.mem_cons.1 h with rfl | h
        · exact .inl ⟨heq.symm, Nat.succ_pos _⟩
        · exact .inr (List.mem_cons_of_mem head h)
      · split at h
        · rcases List.mem_cons.1 h with rfl | h
          · exact .inl ⟨rfl, Nat.one_pos⟩
          · exact .inr h
        · rcases List.mem_cons.1 h with rfl | h
          · exact .inr List.mem_cons_self
          · exact (ih h).imp_right (List.mem_cons_of_mem head)

theorem pairwise_add {word : Text} {table : WordTable} (h : table.Pairwise (·.1 < ·.1)) :
    (add word table).Pairwise (·.1 < ·.1) := by
  induction table with
  | nil => exact List.pairwise_singleton _ _
  | cons head rest ih =>
      obtain ⟨hhead, hrest⟩ := List.pairwise_cons.1 h
      rw [add]
      split
      · exact List.pairwise_cons.2 ⟨hhead, hrest⟩
      · next hne =>
        split
        · next hlt =>
          refine List.pairwise_cons.2 ⟨fun entry hentry => ?_, h⟩
          rcases List.mem_cons.1 hentry with rfl | hentry
          · exact hlt
          · exact List.lt_trans hlt (hhead entry hentry)
        · next hnlt =>
          refine List.pairwise_cons.2 ⟨fun entry hentry => ?_, ih hrest⟩
          rcases of_mem_add hentry with ⟨heq, -⟩ | hold
          · rw [heq]
            exact Std.lt_of_le_of_ne (Std.not_lt.1 hnlt) (Ne.symm hne)
          · exact hhead entry hold

theorem ofWords_append_singleton (words : List Text) (word : Text) :
    ofWords (words ++ [word]) = (ofWords words).add word :=
  List.foldl_append

theorem count_ofWords (words : List Text) (w : Text) :
    (ofWords words).count w = words.count w := by
  induction words using List.reverseRecOn with
  | nil => rfl
  | append_singleton words word ih =>
      rw [ofWords_append_singleton, count_add, ih, List.count_append, List.count_singleton]
      simp only [beq_iff_eq]

theorem total_ofWords (words : List Text) : (ofWords words).total = words.length := by
  induction words using List.reverseRecOn with
  | nil => rfl
  | append_singleton words word ih =>
      rw [ofWords_append_singleton, total_add, ih, List.length_append, List.length_singleton]

theorem pairwise_ofWords (words : List Text) : (ofWords words).Pairwise (·.1 < ·.1) := by
  induction words using List.reverseRecOn with
  | nil => exact .nil
  | append_singleton words word ih =>
      rw [ofWords_append_singleton]
      exact pairwise_add ih

theorem count_eq_zero {table : WordTable} {w : Text} (h : ∀ entry ∈ table, entry.1 ≠ w) :
    table.count w = 0 := by
  induction table with
  | nil => rfl
  | cons head rest ih =>
      obtain ⟨hhead, hrest⟩ := List.forall_mem_cons.1 h
      rw [count, if_neg hhead, ih hrest]

theorem count_eq_zero_of_lt {table : WordTable} {w : Text} (h : ∀ entry ∈ table, w < entry.1) :
    table.count w = 0 :=
  count_eq_zero fun entry hentry heq => List.lt_irrefl w (heq ▸ h entry hentry)

/-- An entry of its word is the only one. -/
theorem count_of_mem {table : WordTable} (h : table.Pairwise (·.1 < ·.1)) {w : Text} {n : Nat}
    (hmem : (w, n) ∈ table) : table.count w = n := by
  induction table with
  | nil => simp at hmem
  | cons head rest ih =>
      obtain ⟨hhead, hrest⟩ := List.pairwise_cons.1 h
      rcases List.mem_cons.1 hmem with rfl | hmem
      · rw [count, if_pos rfl, count_eq_zero_of_lt hhead, Nat.add_zero]
      · have hne : head.1 ≠ w := fun heq => List.lt_irrefl w (heq ▸ hhead (w, n) hmem)
        rw [count, if_neg hne, ih hrest hmem, Nat.zero_add]

theorem count_le_one {table : WordTable} (h : table.Pairwise (·.1 < ·.1))
    (hone : ∀ entry ∈ table, entry.2 ≤ 1) (w : Text) : table.count w ≤ 1 := by
  by_cases hmem : ∃ entry ∈ table, entry.1 = w
  · obtain ⟨entry, hentry, rfl⟩ := hmem
    rw [count_of_mem h hentry]
    exact hone entry hentry
  · rw [count_eq_zero fun entry hentry heq => hmem ⟨entry, hentry, heq⟩]
    exact Nat.zero_le 1

theorem forall_le_one_iff {words : List Text} :
    (∀ entry ∈ ofWords words, entry.2 ≤ 1) ↔ words.Nodup := by
  rw [List.nodup_iff_count_le_one]
  constructor
  · intro hone w
    rw [← count_ofWords]
    exact count_le_one (pairwise_ofWords words) hone w
  · intro hone entry hentry
    rw [← count_of_mem (pairwise_ofWords words) hentry, count_ofWords]
    exact hone entry.1

/-- The merge steps over the lesser word, whichever table it stands in. -/
theorem common_comm (a b : WordTable) : common a b = common b a := by
  fun_induction common a b with
  | case1 b => cases b <;> rw [common]
  | case2 entry a => rw [common]
  | case3 m a w n b ih => rw [common, if_pos rfl, ih, Nat.mul_comm]
  | case4 v m a w n b hne hlt ih =>
      rw [common, if_neg (Ne.symm hne), if_neg (List.lt_asymm hlt), ih]
  | case5 v m a w n b hne hnlt ih =>
      have hlt : w < v := Std.lt_of_le_of_ne (Std.not_lt.1 hnlt) (Ne.symm hne)
      rw [common, if_neg (Ne.symm hne), if_pos hlt, ih]

theorem common_self_cons (w : Text) (n : Nat) (rest : WordTable) :
    common ((w, n) :: rest) ((w, n) :: rest) = n * n + common rest rest := by
  rw [common, if_pos rfl]

theorem total_le_common_self (table : WordTable) : table.total ≤ common table table := by
  induction table with
  | nil => exact Nat.zero_le _
  | cons entry rest ih =>
      rw [common_self_cons, total]
      exact Nat.add_le_add (Nat.le_mul_self entry.2) ih

theorem mul_self_eq_iff (n : Nat) : n * n = n ↔ n ≤ 1 := by
  cases n with
  | zero => simp
  | succ n =>
      rw [Nat.mul_eq_left (Nat.succ_ne_zero n)]
      omega

theorem common_self_eq_total_iff (table : WordTable) :
    common table table = table.total ↔ ∀ entry ∈ table, entry.2 ≤ 1 := by
  induction table with
  | nil => simp [common, total]
  | cons entry rest ih =>
      have hsquare : entry.2 ≤ entry.2 * entry.2 := Nat.le_mul_self entry.2
      have hrest := total_le_common_self rest
      rw [common_self_cons, total, List.forall_mem_cons, ← ih, ← mul_self_eq_iff]
      omega

end Precis.WordTable

theorem Precis.Text.total_wordTable (t : Text) : t.wordTable.total = t.words.length := by
  rw [wordTable, WordTable.total_ofWords, lowercaseWords, List.length_map]
