import Precis.Proofs.Sentence.Overlap
import Precis.Proofs.Text.Numeral

/-!
Tables of words with counts of 64 bits. A sum or a product is nothing as soon as it has more bits,
so what comes out at the end has lost nothing on the way. No number that is computed from two tables
is larger than the last one, the sum of all products, and if that one has 64 bits they all have.
-/

namespace Precis

namespace Word64

/-- The sum, if it has no more than 64 bits. -/
def add? (x y : UInt64) : Option UInt64 :=
  Text.word64? (x.toNat + y.toNat)

def mul? (x y : UInt64) : Option UInt64 :=
  Text.word64? (x.toNat * y.toNat)

variable {x y : UInt64}

theorem exists_add? (h : x.toNat + y.toNat < UInt64.size) :
    ∃ z, add? x y = some z ∧ z.toNat = x.toNat + y.toNat :=
  ⟨_, dif_pos h, UInt64.toNat_ofNatLT⟩

theorem exists_mul? (h : x.toNat * y.toNat < UInt64.size) :
    ∃ z, mul? x y = some z ∧ z.toNat = x.toNat * y.toNat :=
  ⟨_, dif_pos h, UInt64.toNat_ofNatLT⟩

theorem exists_mul?_toUInt64 {m n : Nat} (hm : m < UInt64.size) (hn : n < UInt64.size)
    (h : m * n < UInt64.size) :
    ∃ z, mul? m.toUInt64 n.toUInt64 = some z ∧ z.toNat = m * n := by
  have hleft : m.toUInt64.toNat = m := UInt64.toNat_ofNat_of_lt hm
  have hright : n.toUInt64.toNat = n := UInt64.toNat_ofNat_of_lt hn
  obtain ⟨z, hz, hvalue⟩ :=
    exists_mul? (x := m.toUInt64) (y := n.toUInt64) (by rwa [hleft, hright])
  exact ⟨z, hz, by rw [hvalue, hleft, hright]⟩

end Word64

/-- Words, each with a count of 64 bits. -/
abbrev CountTable := List (Text × UInt64)

namespace CountTable

/-- The same counts as numbers of any size. -/
def toWordTable (table : CountTable) : WordTable :=
  table.map fun entry => (entry.1, entry.2.toNat)

def add? (word : Text) : CountTable → Option CountTable
  | [] => some [(word, 1)]
  | (w, n) :: rest =>
      if word = w then (Word64.add? n 1).map fun m => (w, m) :: rest
      else if word < w then some ((word, 1) :: (w, n) :: rest)
      else (add? word rest).map ((w, n) :: ·)

def count (word : Text) (table : CountTable) : UInt64 :=
  (table.lookup word).getD 0

def addProduct? (other : CountTable) (sum : UInt64) (entry : Text × UInt64) : Option UInt64 :=
  (Word64.mul? entry.2 (count entry.1 other)).bind (Word64.add? sum)

def tally? (entries other : CountTable) : Option UInt64 :=
  entries.foldlM (addProduct? other) 0

/-- The shorter table is gone through. -/
def common? (a b : CountTable) : Option UInt64 :=
  if a.length ≤ b.length then tally? a b else tally? b a

variable {table entries other : CountTable}

/-- Room for one more word is room for one more of any word. -/
theorem exists_add? (word : Text) (h : (toWordTable table).total + 1 < UInt64.size) :
    ∃ table', add? word table = some table' ∧
      toWordTable table' = (toWordTable table).add word := by
  induction table with
  | nil => exact ⟨[(word, 1)], rfl, rfl⟩
  | cons entry rest ih =>
      obtain ⟨w, n⟩ := entry
      change n.toNat + (toWordTable rest).total + 1 < UInt64.size at h
      change ∃ table', add? word ((w, n) :: rest) = some table' ∧
        toWordTable table' = WordTable.add word ((w, n.toNat) :: toWordTable rest)
      rw [add?, WordTable.add]
      split
      · have hone : n.toNat + (1 : UInt64).toNat < UInt64.size := by
          rw [UInt64.toNat_one]
          omega
        obtain ⟨m, hm, hcount⟩ := Word64.exists_add? hone
        refine ⟨(w, m) :: rest, by rw [hm]; rfl, ?_⟩
        rw [toWordTable, List.map_cons, hcount]
        rfl
      · split
        · exact ⟨_, rfl, rfl⟩
        · obtain ⟨rest', hrest', htable⟩ := ih (by omega)
          refine ⟨(w, n) :: rest', by rw [hrest']; rfl, ?_⟩
          rw [← htable]
          rfl

theorem toNat_count (h : table.Pairwise (·.1 ≠ ·.1)) (word : Text) :
    (count word table).toNat = (toWordTable table).count word := by
  induction table with
  | nil => rfl
  | cons entry rest ih =>
      obtain ⟨hhead, hrest⟩ := List.pairwise_cons.1 h
      obtain ⟨w, n⟩ := entry
      change (count word ((w, n) :: rest)).toNat =
        (if w = word then n.toNat else 0) + (toWordTable rest).count word
      rw [count, List.lookup_cons]
      by_cases hw : w = word
      · subst hw
        have hnone : (toWordTable rest).count w = 0 := by
          refine WordTable.count_eq_zero fun entry hentry => ?_
          obtain ⟨entry', hentry', rfl⟩ := List.mem_map.1 hentry
          exact (hhead entry' hentry').symm
        simp [hnone]
      · have hne : (word == w) = false := by simpa using Ne.symm hw
        rw [hne, if_neg hw, Nat.zero_add]
        exact ih hrest

theorem exists_addProduct? (hother : other.Pairwise (·.1 ≠ ·.1)) {sum : UInt64}
    {entry : Text × UInt64}
    (h : sum.toNat + entry.2.toNat * (toWordTable other).count entry.1 < UInt64.size) :
    ∃ next, addProduct? other sum entry = some next ∧
      next.toNat = sum.toNat + entry.2.toNat * (toWordTable other).count entry.1 := by
  rw [← toNat_count hother] at h ⊢
  obtain ⟨product, hproduct, hvalue⟩ :=
    Word64.exists_mul? (Nat.lt_of_le_of_lt (Nat.le_add_left _ _) h)
  rw [← hvalue] at h ⊢
  obtain ⟨next, hnext, hsum⟩ := Word64.exists_add? h
  exact ⟨next, by rw [addProduct?, hproduct, Option.bind_some, hnext], hsum⟩

theorem exists_foldlM_addProduct? (hother : other.Pairwise (·.1 ≠ ·.1)) {sum : UInt64}
    (h : sum.toNat + (toWordTable entries).tally (toWordTable other) < UInt64.size) :
    ∃ last, entries.foldlM (addProduct? other) sum = some last ∧
      last.toNat = sum.toNat + (toWordTable entries).tally (toWordTable other) := by
  induction entries generalizing sum with
  | nil => exact ⟨sum, rfl, rfl⟩
  | cons entry entries ih =>
      have htally : (toWordTable (entry :: entries)).tally (toWordTable other) =
          entry.2.toNat * (toWordTable other).count entry.1 +
            (toWordTable entries).tally (toWordTable other) := WordTable.tally_cons ..
      rw [htally, ← Nat.add_assoc] at h ⊢
      obtain ⟨next, hnext, hsum⟩ :=
        exists_addProduct? hother (Nat.lt_of_le_of_lt (Nat.le_add_right _ _) h)
      rw [← hsum] at h ⊢
      obtain ⟨last, hlast, hvalue⟩ := ih h
      exact ⟨last, by rw [List.foldlM_cons, hnext]; exact hlast, hvalue⟩

theorem exists_tally? (hother : other.Pairwise (·.1 ≠ ·.1))
    (h : (toWordTable entries).tally (toWordTable other) < UInt64.size) :
    ∃ sum, tally? entries other = some sum ∧
      sum.toNat = (toWordTable entries).tally (toWordTable other) := by
  have hzero : (0 : UInt64).toNat + (toWordTable entries).tally (toWordTable other) =
      (toWordTable entries).tally (toWordTable other) := Nat.zero_add _
  rw [← hzero] at h ⊢
  exact exists_foldlM_addProduct? hother h

/-! ## Tables of texts -/

/-- The table of a text, in no particular order. -/
def IsTableOf (table : CountTable) (t : Text) : Prop :=
  (toWordTable table).Perm t.wordTable

variable {t a b : Text}

theorem IsTableOf.pairwise (h : IsTableOf table t) : table.Pairwise (·.1 ≠ ·.1) := by
  have hdistinct : t.wordTable.Pairwise (·.1 ≠ ·.1) := by
    refine (WordTable.pairwise_ofWords _).imp fun {entry entry'} hlt heq => ?_
    exact List.lt_irrefl entry.1 (heq ▸ hlt)
  have htable : (toWordTable table).Pairwise (·.1 ≠ ·.1) :=
    hdistinct.perm h.symm fun hne => hne.symm
  rwa [toWordTable, List.pairwise_map] at htable

theorem IsTableOf.of_perm (h : IsTableOf table t) (hperm : other.Perm table) : IsTableOf other t :=
  (hperm.map _).trans h

theorem IsTableOf.exists_common? (ha : IsTableOf table a) (hb : IsTableOf other b)
    (h : a.wordTable.common b.wordTable < UInt64.size) :
    ∃ shared, common? table other = some shared ∧
      shared.toNat = a.wordTable.common b.wordTable := by
  rw [common?]
  split
  · rw [Text.common_wordTable_eq_tally, ← WordTable.tally_perm ha hb] at h ⊢
    exact exists_tally? hb.pairwise h
  · rw [WordTable.common_comm, Text.common_wordTable_eq_tally, ← WordTable.tally_perm hb ha] at h ⊢
    exact exists_tally? ha.pairwise h

end CountTable

/-- A table of words that is being filled, and how many words have gone into it. -/
structure WordCounts where
  table : CountTable := []
  total : UInt64 := 0

namespace WordCounts

def add? (counts : WordCounts) (word : Text) : Option WordCounts := do
  let table ← counts.table.add? word
  let total ← Word64.add? counts.total 1
  return ⟨table, total⟩

def ofWords? (words : List Text) : Option WordCounts :=
  words.foldlM add? {}

/-- The number of words is what the counts add up to. -/
def IsTotalled (counts : WordCounts) : Prop :=
  (CountTable.toWordTable counts.table).total = counts.total.toNat

variable {counts : WordCounts}

theorem exists_add? (word : Text) (hsum : counts.IsTotalled)
    (h : counts.total.toNat + 1 < UInt64.size) :
    ∃ next, counts.add? word = some next ∧ next.IsTotalled ∧
      CountTable.toWordTable next.table = (CountTable.toWordTable counts.table).add word ∧
      next.total.toNat = counts.total.toNat + 1 := by
  obtain ⟨table, htable, hwords⟩ := CountTable.exists_add? word (hsum ▸ h)
  obtain ⟨total, htotal, hone⟩ := Word64.exists_add? (x := counts.total) (y := 1) h
  refine ⟨⟨table, total⟩, ?_, ?_, hwords, hone⟩
  · simp [add?, htable, htotal]
  · rw [IsTotalled, hwords, WordTable.total_add, hsum]
    exact hone.symm

theorem exists_foldlM_add? (counts : WordCounts) (words : List Text) (hsum : counts.IsTotalled)
    (h : counts.total.toNat + words.length < UInt64.size) :
    ∃ last, words.foldlM add? counts = some last ∧
      CountTable.toWordTable last.table =
        words.foldl (fun table word => table.add word) (CountTable.toWordTable counts.table) ∧
      last.total.toNat = counts.total.toNat + words.length := by
  induction words generalizing counts with
  | nil => exact ⟨counts, rfl, rfl, rfl⟩
  | cons word words ih =>
      rw [List.length_cons] at h
      obtain ⟨next, hnext, hsum', htable, htotal⟩ := exists_add? word hsum (by omega)
      obtain ⟨last, hlast, hwords, hlength⟩ := ih next hsum' (by omega)
      refine ⟨last, ?_, ?_, ?_⟩
      · rw [List.foldlM_cons, hnext]
        exact hlast
      · rw [hwords, htable, List.foldl_cons]
      · rw [hlength, htotal, List.length_cons]
        omega

/-- The words of a text are counted if there are not too many of them. -/
theorem exists_ofWords? {t : Text} (h : t.words.length < UInt64.size) :
    ∃ counts, ofWords? t.lowercaseWords = some counts ∧ counts.table.IsTableOf t ∧
      counts.total.toNat = t.words.length := by
  have hlength : t.lowercaseWords.length = t.words.length := List.length_map _
  have hstart : ({} : WordCounts).total.toNat + t.lowercaseWords.length = t.words.length := by
    rw [hlength]
    exact Nat.zero_add _
  obtain ⟨counts, hcounts, htable, htotal⟩ :=
    exists_foldlM_add? {} t.lowercaseWords rfl (hstart ▸ h)
  exact ⟨counts, hcounts, .of_eq htable, htotal.trans hstart⟩

end WordCounts
end Precis
