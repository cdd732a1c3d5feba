import Precis.Proofs.Sentence.Pieces
import Precis.Proofs.Sentence.Similarity
import Precis.Proofs.Sentence.Summary

/-!
Where the sentences of a text stand in it. Each candidate that is long enough gives one sentence, a
stretch of it that begins behind its white space. Candidates follow each other without overlap, so
the sentences do too, and a candidate that is dropped only leaves a gap.
-/

namespace Precis

namespace Text

/-- Every text of the list stands in `t` at the place that is given with it, and begins where those
before it have ended, or later. -/
structure StandAt (t : Text) (placed : List (Nat × Text)) : Prop where
  stands : ∀ p ∈ placed, p.2 <+: t.drop p.1 ∧ p.1 + p.2.length ≤ t.length
  apart : placed.Pairwise fun a b => a.1 + a.2.length ≤ b.1

def moveBy (n : Nat) (placed : List (Nat × Text)) : List (Nat × Text) :=
  placed.map fun p => (n + p.1, p.2)

variable {t : Text} {placed : List (Nat × Text)}

theorem map_snd_moveBy (n : Nat) (placed : List (Nat × Text)) :
    (moveBy n placed).map Prod.snd = placed.map Prod.snd := by
  rw [moveBy, List.map_map]
  rfl

theorem StandAt.append (h : t.StandAt placed) (rest : Text) : StandAt (t ++ rest) placed where
  stands p hp := by
    obtain ⟨hstart, hbound⟩ := h.stands p hp
    constructor
    · rw [List.drop_append_of_le_length (Nat.le_of_add_right_le hbound)]
      exact hstart.trans (List.prefix_append _ _)
    · rw [List.length_append]
      exact Nat.le_add_right_of_le hbound
  apart := h.apart

theorem StandAt.behind (h : t.StandAt placed) (front : Text) :
    StandAt (front ++ t) (moveBy front.length placed) where
  stands q hq := by
    obtain ⟨p, hp, rfl⟩ := List.mem_map.1 hq
    obtain ⟨hstart, hbound⟩ := h.stands p hp
    constructor
    · rwa [← List.drop_drop, List.drop_left]
    · rw [List.length_append, Nat.add_assoc]
      exact Nat.add_le_add_left hbound _
  apart := by
    rw [moveBy, List.pairwise_map]
    refine h.apart.imp fun hle => ?_
    rw [Nat.add_assoc]
    exact Nat.add_le_add_left hle _

/-- A stretch of what is put in front comes before all the others. -/
theorem StandAt.cons_behind (h : t.StandAt placed) {front before part after : Text}
    (hfront : before ++ part ++ after = front) :
    StandAt (front ++ t) ((before.length, part) :: moveBy front.length placed) where
  stands q hq := by
    rcases List.mem_cons.1 hq with rfl | hq
    · rw [← hfront]
      constructor
      · simp only [List.append_assoc, List.drop_left]
        exact List.prefix_append _ _
      · simp only [List.length_append]
        omega
    · exact (h.behind front).stands q hq
  apart := by
    refine List.pairwise_cons.2 ⟨fun q hq => ?_, (h.behind front).apart⟩
    obtain ⟨p, -, rfl⟩ := List.mem_map.1 hq
    rw [← hfront]
    simp only [List.length_append]
    omega

/-- What is taken out of pieces, at most one stretch of each, stands in their order in the text that
they make. -/
theorem exists_standAt {part? : Text → Option Text}
    (hpart : ∀ piece part, part? piece = some part → part <:+: piece) (pieces : List Text) :
    ∃ placed, placed.map Prod.snd = pieces.filterMap part? ∧ StandAt pieces.flatten placed := by
  induction pieces with
  | nil => exact ⟨[], rfl, ⟨by simp, .nil⟩⟩
  | cons piece pieces ih =>
      obtain ⟨placed, hplaced, hstand⟩ := ih
      cases hfirst : part? piece with
      | none =>
          refine ⟨moveBy piece.length placed, ?_, hstand.behind piece⟩
          rw [map_snd_moveBy, hplaced, List.filterMap_cons_none hfirst]
      | some part =>
          obtain ⟨before, after, hpiece⟩ := hpart piece part hfirst
          refine ⟨_, ?_, hstand.cons_behind hpiece⟩
          rw [List.map_cons, map_snd_moveBy, hplaced, List.filterMap_cons_some hfirst]

theorem trim_infix (t : Text) : trim t <:+: t :=
  (trim_prefix_trimStart t).isInfix.trans (List.dropWhile_suffix isSpace).isInfix

end Text

theorem Sentence.map_text_mapIdx (texts : List Text) :
    (texts.mapIdx Sentence.ofText).map Sentence.text = texts := by
  apply List.ext_getElem
  · simp
  · intro i h₁ h₂
    simp [ofText]

namespace SummarySettings

variable (s : SummarySettings)

/-- The sentence that a candidate gives. Its length counts before it is cut. -/
def sentence? (candidate : Text) : Option Text :=
  if s.minSentenceChars.toNat ≤ candidate.trim.length then
    some (candidate.trim.take s.maxSentenceChars.toNat)
  else none

theorem infix_of_sentence? {candidate t : Text} (h : s.sentence? candidate = some t) :
    t <:+: candidate := by
  rw [sentence?, Option.ite_none_right_eq_some, Option.some_inj] at h
  rw [← h.2]
  exact (List.take_prefix _ _).isInfix.trans candidate.trim_infix

theorem map_text_sentencesOf (text : Text) :
    (s.sentencesOf text).map Sentence.text = (s.candidates text).filterMap s.sentence? := by
  rw [sentencesOf, Sentence.map_text_mapIdx]
  induction s.candidates text with
  | nil => rfl
  | cons candidate candidates ih =>
      by_cases hlong : s.minSentenceChars.toNat ≤ candidate.trim.length
      · have hkept : s.sentence? candidate = some (candidate.trim.take s.maxSentenceChars.toNat) :=
          if_pos hlong
        rw [List.map_cons, List.filter_cons_of_pos (by simpa using hlong), List.map_cons, ih,
          List.filterMap_cons_some hkept]
      · have hdropped : s.sentence? candidate = none := if_neg hlong
        rw [List.map_cons, List.filter_cons_of_neg (by simpa using hlong), ih,
          List.filterMap_cons_none hdropped]

theorem sentencesOf_eq_mapIdx (text : Text) :
    s.sentencesOf text =
      ((s.candidates text).filterMap s.sentence?).mapIdx Sentence.ofText := by
  rw [← map_text_sentencesOf, sentencesOf, Sentence.map_text_mapIdx]

theorem length_sentencesOf_le (text : Text) :
    (s.sentencesOf text).length ≤ s.maxCandidates.toNat :=
  calc (s.sentencesOf text).length = ((s.candidates text).filterMap s.sentence?).length := by
        rw [← map_text_sentencesOf, List.length_map]
    _ ≤ (s.candidates text).length := List.length_filterMap_le _ _
    _ ≤ s.maxCandidates.toNat := List.length_take_le _ _

theorem exists_standAt_sentencesOf (text : Text) :
    ∃ placed, placed.map Prod.snd = (s.sentencesOf text).map Sentence.text ∧
      text.repairBreaks.StandAt placed := by
  obtain ⟨placed, hplaced, hstand⟩ :=
    Text.exists_standAt (fun _ _ => s.infix_of_sentence?) (s.candidates text)
  refine ⟨placed, hplaced.trans (s.map_text_sentencesOf text).symm, ?_⟩
  have hall := hstand.append (text.repairBreaks.pieces.drop s.maxCandidates.toNat).flatten
  rwa [candidates, ← List.flatten_append, List.take_append_drop, Text.flatten_pieces] at hall

variable {s}

/-- What a sentence is by itself. -/
theorem sentence_bounds {text : Text} {a : Sentence} (h : a ∈ s.sentencesOf text) :
    a.score = 0 ∧ a.text.length ≤ s.maxSentenceChars.toNat ∧
      min s.minSentenceChars.toNat s.maxSentenceChars.toNat ≤ a.text.length ∧
      (∀ c, a.text.head? = some c → Text.isSpace c = false) ∧
      a.wordCount = a.text.words.length := by
  have hcut := length_le_of_mem_sentencesOf h
  obtain ⟨i, t, -, hlong, rfl⟩ := exists_of_mem_sentencesOf h
  refine ⟨rfl, hcut, ?_, fun c hc => ?_, rfl⟩
  · change _ ≤ (t.trim.take s.maxSentenceChars.toNat).length
    rw [List.length_take, Nat.min_comm]
    exact Nat.le_min.2 ⟨Nat.min_le_left _ _, (Nat.min_le_right _ _).trans hlong⟩
  · change (t.trim.take s.maxSentenceChars.toNat).head? = some c at hc
    rw [List.head?_take, Option.ite_none_left_eq_some] at hc
    exact (Text.isTrimmed_trim t).1 c hc.2

/-- The sentences of a text are what is left of its candidates, one of each that is long enough
without the white space around it, cut to what a sentence may have. They are numbered as they are
kept, begin with a character that is no white space, and stand in the text in their order, no two of
them overlapping. -/
theorem sentences_are_cut_candidates (s : SummarySettings) (text : Text) :
    let prepared := text.repairBreaks
    let candidates := (prepared.slices prepared.cuts).take s.maxCandidates.toNat
    let sentences := s.sentencesOf text
    sentences.length ≤ s.maxCandidates.toNat ∧
    sentences.map Sentence.index = List.range sentences.length ∧
    (∀ a ∈ sentences,
      a.score = 0 ∧ a.text.length ≤ s.maxSentenceChars.toNat ∧
      min s.minSentenceChars.toNat s.maxSentenceChars.toNat ≤ a.text.length ∧
      (∀ c, a.text.head? = some c → Text.isSpace c = false) ∧
      a.wordCount = a.text.words.length) ∧
    (∃ placed, placed.map Prod.snd = sentences.map Sentence.text ∧ prepared.StandAt placed) ∧
    sentences.map Sentence.text = candidates.filterMap fun candidate =>
      if s.minSentenceChars.toNat ≤ candidate.trim.length then
        some (candidate.trim.take s.maxSentenceChars.toNat)
      else none := by
  intro prepared candidates sentences
  refine ⟨s.length_sentencesOf_le text, s.map_index_sentencesOf text, fun a => sentence_bounds,
    s.exists_standAt_sentencesOf text, ?_⟩
  rw [map_text_sentencesOf, candidates_eq_slices]
  rfl

/-- The first candidate is too short, the second one is cut, a lost break parts it from the third
one, and the last one is one too many. -/
theorem sentences_are_cut_candidates_two_of_four :
    let s : SummarySettings := { maxCandidates := 3, minSentenceChars := 5, maxSentenceChars := 12 }
    let text := "Up?  The harbour slept.Boats left. Gulls followed them.".toList
    let sentences := s.sentencesOf text
    sentences.map Sentence.text = ["The harbour ".toList, "Boats left.".toList] ∧
    sentences.map Sentence.index = [0, 1] ∧
    ∃ a ∈ sentences, a.text = "The harbour ".toList ∧ a.wordCount = 2 ∧ a.score = 0 := by
  intro s text sentences
  obtain ⟨-, hindex, hbounds, -, htexts⟩ := sentences_are_cut_candidates s text
  have hkept : sentences.map Sentence.text = ["The harbour ".toList, "Boats left.".toList] :=
    htexts.trans (by decide +kernel)
  have hlength : sentences.length = 2 := by
    rw [← List.length_map, hkept]
    rfl
  obtain ⟨a, ha, hfirst⟩ : ∃ a ∈ sentences, a.text = "The harbour ".toList :=
    List.mem_map.1 (by simp [hkept])
  obtain ⟨hscore, -, -, -, hwords⟩ := hbounds a ha
  refine ⟨hkept, hindex.trans (by rw [hlength]; rfl), a, ha, hfirst, ?_, hscore⟩
  rw [hwords, hfirst]
  decide +kernel

end SummarySettings
end Precis
