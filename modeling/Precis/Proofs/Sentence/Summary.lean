import Mathlib.Data.List.Sort
import Precis.Proofs.KeySort
import Precis.Proofs.Number.TotalOrder

/-!
Which sentences a summary holds. The first sort is stable, so among sentences of one score it keeps
the order of the text; the second sort only restores that order. Scores need not differ, and nothing
is assumed of them.
-/

namespace Precis
namespace Sentence

theorem length_rowSums (sentences : List Sentence) :
    (similarity sentences).rowSums.length = sentences.length := by
  simp [Similarity.rowSums, similarity, Similarity.ofTexts, Similarity.ofTables]

theorem length_scored (sentences : List Sentence) :
    (scored sentences).length = sentences.length := by
  simp [scored, length_rowSums]

theorem map_scored {α : Type} (f : Sentence → α) (hf : ∀ a x, f { a with score := x } = f a)
    (sentences : List Sentence) : (scored sentences).map f = sentences.map f := by
  apply List.ext_getElem
  · simp [length_scored]
  · intro i h₁ h₂
    simp [scored, hf]

theorem map_index_scored (sentences : List Sentence) :
    (scored sentences).map index = sentences.map index :=
  map_scored index (fun _ _ => rfl) sentences

end Sentence

namespace Summary

/-- `a` stands before `b` in the ranking: it has the higher score, or the same one and the earlier
place in the text. -/
def Outranks (a b : Sentence) : Prop :=
  Binary64.IsBelow b.score a.score ∨
    a.score.toBits = b.score.toBits ∧ a.index < b.index

/-- All sentences, best first. -/
def ranking (sentences : List Sentence) : List Sentence :=
  sentences.mergeSort fun a b => decide (b.rank ≤ a.rank)

theorem ranking_perm (sentences : List Sentence) : (ranking sentences).Perm sentences :=
  List.mergeSort_perm ..

theorem ranking_outranks {sentences : List Sentence}
    (h : sentences.Pairwise fun a b => a.index < b.index) :
    (ranking sentences).Pairwise Outranks := by
  have hlex := KeySort.pairwise_lex_mergeSort (fun a => OrderDual.toDual a.rank) h
  exact hlex.imp fun hab => hab.imp Sentence.rank_lt_rank_iff.1 fun ⟨hrank, hindex⟩ =>
    ⟨Sentence.rank_eq_rank_iff.1 hrank, hindex⟩

theorem ofSentences_perm (sentences : List Sentence) (count : Nat) :
    (ofSentences sentences count).sentences.Perm ((ranking sentences).take count) :=
  List.mergeSort_perm ..

theorem mem_ofSentences {sentences : List Sentence} {count : Nat} {a : Sentence} :
    a ∈ (ofSentences sentences count).sentences ↔ a ∈ (ranking sentences).take count :=
  (ofSentences_perm sentences count).mem_iff

theorem length_ofSentences (sentences : List Sentence) (count : Nat) :
    (ofSentences sentences count).sentences.length = min count sentences.length := by
  rw [(ofSentences_perm sentences count).length_eq, List.length_take,
    (ranking_perm sentences).length_eq]

theorem mem_of_mem_ofSentences {sentences : List Sentence} {count : Nat} {a : Sentence}
    (h : a ∈ (ofSentences sentences count).sentences) : a ∈ sentences :=
  (ranking_perm sentences).mem_iff.1 (List.mem_of_mem_take (mem_ofSentences.1 h))

theorem ofSentences_in_order {sentences : List Sentence} (count : Nat)
    (h : sentences.Pairwise fun a b => a.index < b.index) :
    (ofSentences sentences count).sentences.Pairwise fun a b => a.index < b.index := by
  have hle : (ofSentences sentences count).sentences.Pairwise fun a b => a.index ≤ b.index :=
    KeySort.pairwise_mergeSort Sentence.index ((ranking sentences).take count)
  have hne : (ofSentences sentences count).sentences.Pairwise fun a b => a.index ≠ b.index := by
    have hranked : (ranking sentences).Pairwise fun a b => a.index ≠ b.index :=
      (h.imp fun hlt => Nat.ne_of_lt hlt).perm (ranking_perm sentences).symm fun hab => hab.symm
    have htake := hranked.sublist (List.take_sublist count _)
    exact htake.perm (ofSentences_perm sentences count).symm fun hab => hab.symm
  exact hle.imp₂ (fun a b hab hne => Nat.lt_of_le_of_ne hab hne) hne

/-- Nobody who was left out stands before anybody who was taken. -/
theorem outranks_of_not_mem_ofSentences {sentences : List Sentence} {count : Nat} {a b : Sentence}
    (h : sentences.Pairwise fun a b => a.index < b.index)
    (ha : a ∈ (ofSentences sentences count).sentences) (hb : b ∈ sentences)
    (hout : b ∉ (ofSentences sentences count).sentences) : Outranks a b := by
  have hranked := ranking_outranks h
  rw [← List.take_append_drop count (ranking sentences)] at hranked
  have hdrop : b ∈ (ranking sentences).drop count := by
    have hmem : b ∈ (ranking sentences).take count ++ (ranking sentences).drop count := by
      rw [List.take_append_drop]
      exact (ranking_perm sentences).mem_iff.2 hb
    exact (List.mem_append.1 hmem).resolve_left fun htake => hout (mem_ofSentences.2 htake)
  exact (List.pairwise_append.1 hranked).2.2 a (mem_ofSentences.1 ha) b hdrop

theorem ofSentences_of_length_le {sentences : List Sentence} {count : Nat}
    (h : sentences.Pairwise fun a b => a.index < b.index) (hlength : sentences.length ≤ count) :
    (ofSentences sentences count).sentences = sentences := by
  have hperm : (ofSentences sentences count).sentences.Perm sentences := by
    have htaken := ofSentences_perm sentences count
    rw [List.take_of_length_le ((ranking_perm sentences).length_eq.trans_le hlength)] at htaken
    exact htaken.trans (ranking_perm sentences)
  exact hperm.eq_of_pairwise' (ofSentences_in_order count h) h

end Summary

namespace SummarySettings

theorem map_index_sentencesOf (s : SummarySettings) (text : Text) :
    (s.sentencesOf text).map Sentence.index = List.range (s.sentencesOf text).length := by
  apply List.ext_getElem
  · simp
  · intro i h₁ h₂
    simp [sentencesOf, Sentence.ofText]

theorem scored_sentencesOf_in_order (s : SummarySettings) (text : Text) :
    (Sentence.scored (s.sentencesOf text)).Pairwise fun a b => a.index < b.index := by
  rw [← List.pairwise_map, Sentence.map_index_scored, map_index_sentencesOf]
  exact List.pairwise_lt_range

theorem toText_summary_of_length_le {s : SummarySettings} {text : Text} {count : Nat}
    (h : (s.sentencesOf text).length ≤ count) :
    (s.summary text count).toText =
      (Text.join Summary.separator ((s.sentencesOf text).map Sentence.text)).trim := by
  have hall := Summary.ofSentences_of_length_le (scored_sentencesOf_in_order s text)
    ((Sentence.length_scored _).trans_le h)
  rw [summary, Summary.toText, hall, Sentence.map_scored Sentence.text fun _ _ => rfl]

theorem toText_summary_of_one {s : SummarySettings} {text t : Text} {count : Nat}
    (h : (s.sentencesOf text).map Sentence.text = [t]) (hcount : 0 < count) :
    (s.summary text count).toText = t.trim := by
  have hone : (s.sentencesOf text).length = 1 := by
    rw [← List.length_map, h, List.length_singleton]
  rw [toText_summary_of_length_le (hone.trans_le hcount), h]
  simp [Text.join]

/-- The summary holds the sentences with the highest scores, as many as were asked for and exist,
each as it was scored, in the order of the text. Of sentences with one score those that come first
are taken. -/
theorem summary_takes_best (s : SummarySettings) (text : Text) (count : Nat) :
    let scored := Sentence.scored (s.sentencesOf text)
    let taken := (s.summary text count).sentences
    taken.length = min count (s.sentencesOf text).length ∧
    (∀ a ∈ taken, a ∈ scored) ∧
    (taken.Pairwise fun a b => a.index < b.index) ∧
    ∀ a ∈ taken, ∀ b ∈ scored, b ∉ taken →
      Binary64.IsBelow b.score a.score ∨
        a.score.toBits = b.score.toBits ∧ a.index < b.index := by
  intro scored taken
  have horder : scored.Pairwise fun a b => a.index < b.index := scored_sentencesOf_in_order s text
  refine ⟨?_, ?_, ?_, ?_⟩
  · rw [← Sentence.length_scored (s.sentencesOf text)]
    exact Summary.length_ofSentences scored count
  · intro a ha
    exact Summary.mem_of_mem_ofSentences ha
  · exact Summary.ofSentences_in_order count horder
  · intro a ha b hb hout
    exact Summary.outranks_of_not_mem_ofSentences horder ha hb hout

/-- Two sentences have the highest score, and the first of them is taken. -/
theorem summary_takes_best_of_three :
    let text := "The boats came home. The boats came back. Gulls followed the wind.".toList
    let home : Sentence := ⟨0, "The boats came home.".toList, 4, 2⟩
    let back : Sentence := ⟨1, "The boats came back.".toList, 4, 2⟩
    let gulls : Sentence := ⟨2, "Gulls followed the wind.".toList, 4, 1.5⟩
    let taken := (summary {} text 1).sentences
    Sentence.scored (sentencesOf {} text) = [home, back, gulls] ∧ taken = [home] ∧
    back ∉ taken ∧ home.score.toBits = back.score.toBits ∧ home.index < back.index ∧
    gulls ∉ taken ∧ Binary64.IsBelow gulls.score home.score := by
  intro text home back gulls taken
  have hscored : Sentence.scored (sentencesOf {} text) = [home, back, gulls] := by decide +kernel
  have hthree : (sentencesOf {} text).length = 3 := by
    rw [← Sentence.length_scored, hscored]
    rfl
  obtain ⟨hlength, hmem, -, hbest⟩ := summary_takes_best {} text 1
  rw [hscored] at hmem hbest
  rw [hthree] at hlength
  obtain ⟨first, htaken⟩ : ∃ a, taken = [a] := List.length_eq_one_iff.1 hlength
  have hfirst : first ∈ taken := by simp [htaken]
  have hhome : first = home := by
    by_contra hne
    have hout : home ∉ taken := by simpa [htaken] using Ne.symm hne
    have hbehind := hbest first hfirst home (by simp) hout
    have hmember : first = home ∨ first = back ∨ first = gulls := by
      simpa using hmem first hfirst
    obtain rfl | rfl := hmember.resolve_left hne
    · revert hbehind
      decide +kernel
    · revert hbehind
      decide +kernel
  subst hhome
  have hback : back ∉ taken := by
    rw [htaken]
    decide +kernel
  have hgulls : gulls ∉ taken := by
    rw [htaken]
    decide +kernel
  have hlower := (hbest home hfirst gulls (by simp) hgulls).resolve_right (by decide +kernel)
  have htied := (hbest home hfirst back (by simp) hback).resolve_left (by decide +kernel)
  exact ⟨hscored, htaken, hback, htied.1, htied.2, hgulls, hlower⟩

end SummarySettings
end Precis
