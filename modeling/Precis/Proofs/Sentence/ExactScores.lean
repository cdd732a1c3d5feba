import Precis.Proofs.Number.Binary64
import Precis.Proofs.Sentence.CountTable
import Precis.Proofs.Sentence.Placement
import Precis.Proofs.Text.Join

/-!
Scores without overflow. A sentence is cut before it is scored, and has at most one word for every
two characters. What two sentences have in common is at most the product of the numbers of their
words, in whichever order it is added up, and as long as sentences are cut at 2 ^ 26 characters this
product has less than 53 bits: it fits a word of the machine and a float alike. How many sentences
there are does not matter for any of these numbers. It matters for the places of the cells only, and
these are words as long as there are fewer than 2 ^ 32 sentences.
-/

namespace Precis

/-- Every word has a character and, but for the first one, white space in front of it. -/
theorem Text.two_mul_length_words_le (t : Text) : 2 * t.words.length ≤ t.length + 1 := by
  refine Nat.le_trans ?_ (length_flatMap_words_le t)
  rw [List.length_flatMap, Nat.mul_comm, ← smul_eq_mul,
    ← List.length_map fun w => (' ' :: w).length]
  refine List.card_nsmul_le_sum _ 2 (List.forall_mem_map.2 fun w hw => ?_)
  exact Nat.succ_le_succ (List.length_pos_iff.2 (mem_words hw).1.1)

namespace WordTable

variable {entries other : WordTable}

theorem count_le_total (word : Text) (table : WordTable) : table.count word ≤ table.total := by
  induction table with
  | nil => exact Nat.le_refl 0
  | cons entry rest ih =>
      rw [count, total]
      split
      · exact Nat.add_le_add_left ih _
      · rw [Nat.zero_add]
        exact Nat.le_add_left_of_le ih

theorem tally_le (entries other : WordTable) :
    tally entries other ≤ entries.total * other.total := by
  induction entries with
  | nil => exact Nat.zero_le _
  | cons entry rest ih =>
      rw [tally_cons, total, Nat.add_mul]
      exact Nat.add_le_add (Nat.mul_le_mul_left _ (count_le_total _ _)) ih

theorem mul_count_le_tally {entry : Text × Nat} (h : entry ∈ entries) :
    entry.2 * other.count entry.1 ≤ tally entries other :=
  List.single_le_sum (fun _ _ => Nat.zero_le _) _ (List.mem_map_of_mem h)

theorem tally_take_le (entries other : WordTable) (k : Nat) :
    tally (entries.take k) other ≤ tally entries other :=
  ((List.take_sublist k entries).map _).sum_le_sum fun _ _ => Nat.zero_le _

end WordTable

/-- The places of the cells of a square, and the ends of its rows, are computed with words. -/
structure Similarity.HasWordPlaces (size : Nat) : Prop where
  row : ∀ i ≤ size, ∃ start, Word64.mul? i.toUInt64 size.toUInt64 = some start ∧
    start.toNat = i * size
  place : ∀ i j : Fin size, ∃ start cell,
    Word64.mul? i.val.toUInt64 size.toUInt64 = some start ∧
    Word64.add? start j.val.toUInt64 = some cell ∧ cell.toNat = (Similarity.place i j).val

theorem Similarity.hasWordPlaces {size : Nat} (h : size * size < UInt64.size) :
    HasWordPlaces size := by
  have hword : ∀ i ≤ size, i < UInt64.size := fun i hi =>
    (hi.trans (Nat.le_mul_self size)).trans_lt h
  have hrow : ∀ i ≤ size, ∃ start, Word64.mul? i.toUInt64 size.toUInt64 = some start ∧
      start.toNat = i * size := fun i hi =>
    Word64.exists_mul?_toUInt64 (hword i hi) (hword size (Nat.le_refl size))
      ((Nat.mul_le_mul_right size hi).trans_lt h)
  refine ⟨hrow, fun i j => ?_⟩
  obtain ⟨start, hstart, hvalue⟩ := hrow i i.isLt.le
  have hcolumn : j.val.toUInt64.toNat = j := UInt64.toNat_ofNat_of_lt (hword j j.isLt.le)
  have hplace : start.toNat + j.val.toUInt64.toNat = (place i j).val := by
    rw [hvalue, hcolumn]
    rfl
  obtain ⟨cell, hcell, hsum⟩ := Word64.exists_add? (hplace ▸ (place i j).isLt.trans h)
  exact ⟨start, cell, hstart, hcell, hsum.trans hplace⟩

/-- The number of all cells is a word only if 32 bits are enough for the number of rows. -/
theorem Similarity.hasWordPlaces_iff {size : Nat} : HasWordPlaces size ↔ size < 2 ^ 32 := by
  have hsize : UInt64.size = 2 ^ 32 * 2 ^ 32 := rfl
  rw [← Nat.mul_self_lt_mul_self_iff, ← hsize]
  refine ⟨fun h => ?_, hasWordPlaces⟩
  obtain ⟨all, -, hall⟩ := h.row size (Nat.le_refl size)
  exact hall ▸ all.toNat_lt_size

namespace Sentence

/-- What two sentences have in common keeps within a bound, and so do the products that it is the
sum of and all sums on the way, in whichever order the entries of the tables are gone through. -/
structure OverlapWithin (a b : Sentence) (bound : Nat) : Prop where
  overlap_le : a.overlap b ≤ bound
  tally_eq : ∀ {entries other : WordTable}, entries.Perm a.text.wordTable →
    other.Perm b.text.wordTable → WordTable.tally entries other = a.overlap b
  product_le : ∀ {entries other : WordTable}, entries.Perm a.text.wordTable →
    other.Perm b.text.wordTable → ∀ entry ∈ entries, entry.2 * other.count entry.1 ≤ bound
  sum_le : ∀ {entries other : WordTable}, entries.Perm a.text.wordTable →
    other.Perm b.text.wordTable → ∀ k, WordTable.tally (entries.take k) other ≤ bound

/-- Counting the words of two sentences, comparing their tables, with the entries in any order, and
adding up the numbers of their words never takes more than 64 bits, and the floats that are made of
the results are those that are made of the exact numbers. -/
def ComparesInWords (a b : Sentence) : Prop :=
  ∃ x y : WordCounts,
    WordCounts.ofWords? a.text.lowercaseWords = some x ∧
    WordCounts.ofWords? b.text.lowercaseWords = some y ∧
    (∀ table other : CountTable, table.Perm x.table → other.Perm y.table →
      ∃ shared, table.common? other = some shared ∧ shared.toNat = a.overlap b ∧
        shared.toFloat = (a.overlap b).toFloat) ∧
    ∃ words, Word64.add? x.total y.total = some words ∧
      words.toNat = a.wordCount + b.wordCount ∧
      words.toFloat = (a.wordCount + b.wordCount).toFloat

variable {a b : Sentence}

theorem overlapWithin_mul (ha : a.wordCount = a.text.words.length)
    (hb : b.wordCount = b.text.words.length) : a.OverlapWithin b (a.wordCount * b.wordCount) := by
  have htally : ∀ {entries other : WordTable}, entries.Perm a.text.wordTable →
      other.Perm b.text.wordTable → WordTable.tally entries other = a.overlap b := by
    intro entries other hentries hother
    rw [overlap, Text.common_wordTable_eq_tally, WordTable.tally_perm hentries hother]
  have hoverlap : a.overlap b ≤ a.wordCount * b.wordCount := by
    rw [← htally (.refl _) (.refl _), ha, hb, ← Text.total_wordTable, ← Text.total_wordTable]
    exact WordTable.tally_le _ _
  refine ⟨hoverlap, htally, fun hentries hother entry hentry => ?_, fun hentries hother k => ?_⟩
  · refine (WordTable.mul_count_le_tally hentry).trans ?_
    rwa [htally hentries hother]
  · refine (WordTable.tally_take_le _ _ k).trans ?_
    rwa [htally hentries hother]

theorem comparesInWords (ha : a.wordCount = a.text.words.length)
    (hb : b.wordCount = b.text.words.length) (hoverlap : a.overlap b < 2 ^ 53)
    (hwords : a.wordCount + b.wordCount < 2 ^ 53) : a.ComparesInWords b := by
  have hsize : 2 ^ 53 < UInt64.size := by decide
  obtain ⟨x, hx, hxtable, hxtotal⟩ := WordCounts.exists_ofWords? (t := a.text) (by omega)
  obtain ⟨y, hy, hytable, hytotal⟩ := WordCounts.exists_ofWords? (t := b.text) (by omega)
  rw [← ha] at hxtotal
  rw [← hb] at hytotal
  refine ⟨x, y, hx, hy, fun table other htable hother => ?_, ?_⟩
  · obtain ⟨shared, hshared, hvalue⟩ :=
      (hxtable.of_perm htable).exists_common? (hytable.of_perm hother) (hoverlap.trans hsize)
    refine ⟨shared, hshared, hvalue, ?_⟩
    rw [overlap, ← hvalue, Binary64.toFloat_toNat (hvalue ▸ hoverlap)]
  · obtain ⟨words, hadd, hvalue⟩ :=
      Word64.exists_add? (x := x.total) (y := y.total) (by omega)
    rw [hxtotal, hytotal] at hvalue
    refine ⟨words, hadd, hvalue, ?_⟩
    rw [← hvalue, Binary64.toFloat_toNat (hvalue ▸ hwords)]

end Sentence

namespace SummarySettings

variable {s : SummarySettings} {text : Text} {a b : Sentence}

theorem wordCount_le_of_mem_sentencesOf (h : a ∈ s.sentencesOf text) :
    a.wordCount ≤ (s.maxSentenceChars.toNat + 1) / 2 := by
  obtain ⟨-, hlength, -, -, hwords⟩ := sentence_bounds h
  have htwo := a.text.two_mul_length_words_le
  omega

theorem mul_wordCount_lt (hmax : s.maxSentenceChars.toNat ≤ 2 ^ 26) (ha : a ∈ s.sentencesOf text)
    (hb : b ∈ s.sentencesOf text) :
    a.wordCount * b.wordCount < 2 ^ 53 ∧ a.wordCount + b.wordCount < 2 ^ 53 := by
  have ha := wordCount_le_of_mem_sentencesOf ha
  have hb := wordCount_le_of_mem_sentencesOf hb
  have hproduct : a.wordCount * b.wordCount ≤ 2 ^ 25 * 2 ^ 25 :=
    Nat.mul_le_mul (by omega) (by omega)
  omega

/-- As long as sentences are cut at 2 ^ 26 characters, the numbers that scores are made of stay
exact. A sentence has at most half as many words as characters, rounded up. What two sentences have
in common is at most the product of the numbers of their words, on the way as at the end, and neither
the product nor the sum of these numbers has more than 53 bits. So words of 64 bits are enough to
compute with, and every number is what the float that is made of it stands for. The places of the
cells are words exactly as long as there are fewer than 2 ^ 32 sentences. -/
theorem scoring_is_exact (hmax : s.maxSentenceChars.toNat ≤ 2 ^ 26) (text : Text) :
    let sentences := s.sentencesOf text
    (∀ a ∈ sentences, a.wordCount ≤ (s.maxSentenceChars.toNat + 1) / 2) ∧
    (Similarity.HasWordPlaces sentences.length ↔ sentences.length < 2 ^ 32) ∧
    ∀ a ∈ sentences, ∀ b ∈ sentences,
      a.OverlapWithin b (a.wordCount * b.wordCount) ∧
      a.wordCount * b.wordCount < 2 ^ 53 ∧ a.wordCount + b.wordCount < 2 ^ 53 ∧
      a.ComparesInWords b ∧
      Binary64.value? (a.overlap b).toFloat = some (a.overlap b : ℚ) ∧
      Binary64.value? (a.wordCount + b.wordCount).toFloat =
        some ((a.wordCount + b.wordCount : Nat) : ℚ) := by
  intro sentences
  refine ⟨fun a => wordCount_le_of_mem_sentencesOf, Similarity.hasWordPlaces_iff,
    fun a ha b hb => ?_⟩
  obtain ⟨-, -, -, -, hawords⟩ := sentence_bounds ha
  obtain ⟨-, -, -, -, hbwords⟩ := sentence_bounds hb
  obtain ⟨hproduct, hsum⟩ := mul_wordCount_lt hmax ha hb
  have hwithin := Sentence.overlapWithin_mul hawords hbwords
  have hoverlap : a.overlap b < 2 ^ 53 := hwithin.overlap_le.trans_lt hproduct
  exact ⟨hwithin, hproduct, hsum, Sentence.comparesInWords hawords hbwords hoverlap hsum,
    Binary64.value?_toFloat hoverlap, Binary64.value?_toFloat hsum⟩

/-- One word is repeated in both sentences, and the last entries of a table come first. -/
theorem scoring_is_exact_row :
    let s : SummarySettings := { maxSentenceChars := 67108864 }
    let text := "Row row row your boat gently. The boat will row on and row away.".toList
    let first := Sentence.ofText 0 "Row row row your boat gently.".toList
    let second := Sentence.ofText 1 "The boat will row on and row away.".toList
    s.maxSentenceChars.toNat ≤ 2 ^ 26 ∧ s.sentencesOf text = [first, second] ∧
    first.wordCount = 6 ∧ second.wordCount = 8 ∧ first.overlap second = 7 ∧
    first.text.wordTable.reverse.Perm first.text.wordTable ∧
    WordTable.tally (first.text.wordTable.reverse.take 2) second.text.wordTable = 6 ∧
    6 ≤ 6 * 8 ∧ Similarity.HasWordPlaces 2 ∧
    first.ComparesInWords second ∧ Binary64.value? (7 : Nat).toFloat = some 7 ∧
    Binary64.value? (14 : Nat).toFloat = some 14 := by
  intro s text first second
  have hmax : s.maxSentenceChars.toNat ≤ 2 ^ 26 := by decide
  have htexts : (s.candidates text).filterMap s.sentence? = [first.text, second.text] := by
    decide +kernel
  have hsentences : s.sentencesOf text = [first, second] := by
    rw [sentencesOf_eq_mapIdx, htexts]
    rfl
  have hfirst : first ∈ s.sentencesOf text := by simp [hsentences]
  have hsecond : second ∈ s.sentencesOf text := by simp [hsentences]
  have hcounts : first.wordCount = 6 ∧ second.wordCount = 8 := by decide +kernel
  have hoverlap : first.overlap second = 7 := by decide +kernel
  have hperm : first.text.wordTable.reverse.Perm first.text.wordTable := List.reverse_perm _
  have htwo : WordTable.tally (first.text.wordTable.reverse.take 2) second.text.wordTable = 6 := by
    decide +kernel
  obtain ⟨-, hplaces, hpairs⟩ := scoring_is_exact hmax text
  obtain ⟨hwithin, -, -, hcompares, hshared, hwords⟩ := hpairs first hfirst second hsecond
  rw [hsentences] at hplaces
  have hle := hwithin.sum_le hperm (.refl _) 2
  rw [hoverlap] at hshared
  rw [hcounts.1, hcounts.2] at hwords hle
  exact ⟨hmax, hsentences, hcounts.1, hcounts.2, hoverlap, hperm, htwo, htwo ▸ hle,
    hplaces.2 (by decide), hcompares, hshared, hwords⟩

end SummarySettings

/-! ## Too many sentences -/

/-- A short sentence again and again. -/
def Text.chorus (count : Nat) : Text :=
  (List.replicate count " Row.".toList).flatten

namespace Text

theorem chorus_succ (count : Nat) :
    chorus (count + 1) = ' ' :: 'R' :: 'o' :: 'w' :: '.' :: chorus count := by
  rw [chorus, List.replicate_succ, List.flatten_cons]
  rfl

theorem repairBreaks_chorus (count : Nat) : repairBreaks (chorus count) = chorus count := by
  induction count with
  | zero => rfl
  | succ count ih =>
      have hplain : (chorus count).head?.any Unicode.isUppercase = false := by
        cases count with
        | zero => rfl
        | succ count =>
            rw [chorus_succ, List.head?_cons, Option.any_some]
            decide
      simp [chorus_succ, repairBreaks, hplain, ih]

theorem piecesFrom_chorus (inWord : Bool) (count : Nat) :
    piecesFrom inWord (chorus count) = List.replicate count " Row.".toList := by
  induction count generalizing inWord with
  | zero => rfl
  | succ count ih =>
      have hspace : isSpace ' ' = true := by decide
      have hletters : isSpace 'R' = false ∧ isSpace 'o' = false ∧ isSpace 'w' = false := by decide
      cases count with
      | zero => simp [chorus, piecesFrom, extendFirst]
      | succ count =>
          have hnext : (chorus (count + 1)).head?.any isSpace = true := by
            rw [chorus_succ, List.head?_cons, Option.any_some, hspace]
          rw [chorus_succ]
          simp [piecesFrom, hnext, ih, hletters, extendFirst, List.replicate_succ]

end Text

theorem SummarySettings.length_sentencesOf_chorus {s : SummarySettings} {count : Nat}
    (hcount : count ≤ s.maxCandidates.toNat) (hmin : s.minSentenceChars.toNat ≤ 4) :
    (s.sentencesOf (Text.chorus count)).length = count := by
  have hcandidates : s.candidates (Text.chorus count) = List.replicate count " Row.".toList := by
    rw [candidates, Text.repairBreaks_chorus, Text.pieces, Text.piecesFrom_chorus,
      List.take_replicate, Nat.min_eq_right hcount]
  have hlong : decide (s.minSentenceChars.toNat ≤ (Text.trim " Row.".toList).length) = true :=
    decide_eq_true hmin
  rw [sentencesOf, hcandidates, List.map_replicate, List.filter_replicate, if_pos hlong]
  simp only [List.length_mapIdx, List.length_map, List.length_replicate]

/-- With 2 ^ 32 sentences there are more cells than words, so the places of the cells are not
computed with words although sentences are cut at 2 ^ 26 characters. -/
theorem SummarySettings.cells_outnumber_words :
    let s : SummarySettings :=
      { maxCandidates := 4294967296, minSentenceChars := 4, maxSentenceChars := 67108864 }
    let sentences := s.sentencesOf (Text.chorus (2 ^ 32))
    s.maxSentenceChars.toNat ≤ 2 ^ 26 ∧ sentences.length = 2 ^ 32 ∧
    Word64.mul? sentences.length.toUInt64 sentences.length.toUInt64 = none ∧
    ¬ Similarity.HasWordPlaces sentences.length := by
  intro s sentences
  have hlength : sentences.length = 2 ^ 32 := length_sentencesOf_chorus (by decide) (by decide)
  rw [Similarity.hasWordPlaces_iff, hlength]
  exact ⟨by decide, rfl, by decide, Nat.lt_irrefl _⟩

end Precis
