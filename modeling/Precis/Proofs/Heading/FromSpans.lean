import Precis.Heading.FromSpans
import Precis.Proofs.Font.Largest
import Precis.Proofs.Text.Join

/-!
The words of a heading. Of the spans that may go into it, the shortest run from the front with
enough fragments and enough words is taken; each span gives the words that are kept of it, behind a
dash where one is due. The draft knows the taken spans only by their number, their words and the
size of the last one, which is all that the next step asks for.
-/

namespace Precis.HeadingSettings

variable (s : HeadingSettings)

/-- A span in one of the given sizes with more than white space in it. -/
def isEligible (sizes : List FontSize) (q : Span) : Bool :=
  sizes.any (·.same q.size) && !Text.isBlank q.text

/-- The spans in the largest sizes that have some text, in order. -/
def eligible (spans : List Span) : List Span :=
  spans.filter (isEligible (Span.largestSizes spans s.fontSizes.toNat))

/-- The words of a span: all of them, or one less than a fragment may have if there are more than
that. -/
def fragment (q : Span) : List Text :=
  let words := Text.words q.text
  let limit := s.maxFragmentWords.toNat
  words.take (if words.length ≤ limit then words.length else limit - 1)

/-- Enough fragments with enough words. -/
def Suffices (taken : List Span) : Prop :=
  s.minFragments.toNat ≤ taken.length ∧ s.minWords.toNat ≤ (taken.flatMap s.fragment).length

/-- The shortest spans from the front that suffice, or all spans if none do. -/
def IsTaken (spans taken : List Span) : Prop :=
  taken <+: spans ∧ (s.Suffices taken ∨ taken = spans) ∧
    ∀ fewer, fewer <+: spans → fewer.length < taken.length → ¬ s.Suffices fewer

/-- A dash parts a span of several words from words in front of it, if the last span that was taken
has another size. -/
def dash (before : List Span) (q : Span) : List Text :=
  if before.flatMap s.fragment ≠ [] ∧ before.getLast?.any (fun p => !p.size.same q.size) ∧
    1 < (Text.words q.text).length then [['-']] else []

/-- The words that spans give behind those taken before them. -/
def outline (before : List Span) : List Span → List Text
  | [] => []
  | q :: rest => s.dash before q ++ s.fragment q ++ outline (before ++ [q]) rest

/-- What the draft knows of the spans that were taken. -/
structure Records (d : HeadingDraft) (taken : List Span) : Prop where
  fragments : d.fragments = taken.length
  words : d.words = (taken.flatMap s.fragment).length
  lastSize : d.lastSize = taken.getLast?.map Span.size
  text : Text.words d.text = s.outline [] taken
  empty : d.text = [] ↔ taken.flatMap s.fragment = []

theorem keptWords_eq (q : Span) : s.keptWords q = s.fragment q := by
  simp only [keptWords, fragment]
  split
  · next hlong => rw [if_neg (Nat.not_le.2 hlong)]
  · next hlong => rw [if_pos (Nat.le_of_not_lt hlong), List.take_length]

theorem words_keptText (q : Span) : Text.words (s.keptText q) = s.fragment q := by
  rw [← keptWords_eq]
  unfold keptText
  split
  · next hlong =>
    refine Text.words_join fun w hw => ?_
    rw [keptWords, if_pos hlong] at hw
    exact (Text.mem_words (List.mem_of_mem_take hw)).1
  · next hlong => rw [Text.words_trim, keptWords, if_neg hlong]

theorem keptText_eq_nil_iff (q : Span) : s.keptText q = [] ↔ s.fragment q = [] := by
  constructor
  · intro h
    rw [← words_keptText, h, Text.words_nil]
  · intro h
    rw [← keptWords_eq] at h
    unfold keptText
    split
    · rw [h]
      rfl
    · next hlong =>
      rw [keptWords, if_neg hlong] at h
      exact Text.trim_eq_nil_iff.2 h

theorem words_append_joint (lastSize : Option FontSize) (q : Span) (a b : Text) :
    Text.words (a ++ joint lastSize q ++ b) = Text.words a ++
      (if !lastSize.any (·.same q.size) ∧ 1 < (Text.words q.text).length then [['-']] else []) ++
      Text.words b := by
  have hspace : Text.isSpace ' ' = true := by decide
  have hdash : Text.words ['-'] = [['-']] := by
    apply Text.words_of_isWord
    refine ⟨by simp, ?_⟩
    intro c hc
    obtain rfl := List.mem_singleton.1 hc
    decide
  have hplain : Text.words (a ++ [' '] ++ b) = Text.words a ++ [] ++ Text.words b := by
    rw [List.append_assoc, List.singleton_append, Text.words_append_space hspace, List.append_nil]
  unfold joint
  cases hsame : lastSize.any (·.same q.size) with
  | true => simpa using hplain
  | false =>
      by_cases hlong : 1 < (Text.words q.text).length
      · have hsplit : a ++ [' ', '-', ' '] ++ b = a ++ ' ' :: (['-'] ++ ' ' :: b) := by simp
        simp only [Bool.false_eq_true, ite_false, hlong, ite_true, Bool.not_false, and_self]
        rw [hsplit, Text.words_append_space hspace, Text.words_append_space hspace, hdash,
          List.append_assoc]
      · simpa [hlong] using hplain

theorem outline_append (before taken : List Span) (q : Span) :
    s.outline before (taken ++ [q]) =
      s.outline before taken ++ (s.dash (before ++ taken) q ++ s.fragment q) := by
  induction taken generalizing before with
  | nil => simp [outline]
  | cons p taken ih =>
      rw [List.cons_append, outline, outline, ih, List.append_assoc before [p] taken,
        List.singleton_append, List.append_assoc _ (s.outline _ _)]

theorem records_empty : s.Records {} [] :=
  ⟨rfl, rfl, rfl, Text.words_nil, by simp⟩

theorem isComplete_iff {d : HeadingDraft} {taken : List Span} (h : s.Records d taken) :
    s.isComplete d = true ↔ s.Suffices taken := by
  simp [isComplete, Suffices, h.fragments, h.words]

theorem step_eq (sizes : List FontSize) (d : HeadingDraft) (q : Span) :
    s.step sizes d q = if isEligible sizes q then s.append d q else d := by
  unfold step isEligible
  rw [Text.isEmpty_trim]
  cases sizes.any (·.same q.size) <;> cases Text.isBlank q.text <;> simp

theorem records_append {d : HeadingDraft} {taken : List Span} (h : s.Records d taken) (q : Span) :
    s.Records (s.append d q) (taken ++ [q]) where
  fragments := by simp [append, h.fragments]
  words := by simp [append, h.words, keptWords_eq]
  lastSize := by simp [append]
  text := by
    rw [outline_append, List.nil_append, ← h.text, ← words_keptText]
    cases hempty : d.text.isEmpty with
    | true =>
        have hnil : d.text = [] := List.isEmpty_iff.1 hempty
        simp [append, hnil, dash, h.empty.1 hnil]
    | false =>
        have hcons : taken.flatMap s.fragment ≠ [] := by
          intro hnil
          simp [h.empty.2 hnil] at hempty
        have hne : taken ≠ [] := by
          rintro rfl
          exact hcons rfl
        obtain ⟨p, hp⟩ := Option.ne_none_iff_exists'.1 (mt List.getLast?_eq_none_iff.1 hne)
        simp only [append, hempty, Bool.false_eq_true, ite_false]
        rw [words_append_joint, List.append_assoc, dash, h.lastSize, hp]
        simp [hcons]
  empty := by
    have hjoint : d.text = [] → (if d.text.isEmpty then [] else joint d.lastSize q) = [] := by
      intro hnil
      simp [hnil]
    simp only [append, List.append_eq_nil_iff, List.flatMap_append, List.flatMap_singleton,
      keptText_eq_nil_iff, ← h.empty]
    constructor
    · rintro ⟨⟨htext, -⟩, hkept⟩
      exact ⟨htext, hkept⟩
    · rintro ⟨htext, hkept⟩
      exact ⟨⟨htext, hjoint htext⟩, hkept⟩

theorem records_compose {sizes : List FontSize} {d : HeadingDraft} {before : List Span}
    (h : s.Records d before) (spans : List Span) :
    ∃ taken, s.Records (s.compose sizes d spans) (before ++ taken) ∧
      taken <+: spans.filter (isEligible sizes) ∧
      (s.Suffices (before ++ taken) ∨ taken = spans.filter (isEligible sizes)) ∧
      ∀ fewer, fewer <+: spans.filter (isEligible sizes) → fewer.length < taken.length →
        ¬ s.Suffices (before ++ fewer) := by
  induction spans generalizing d before with
  | nil => exact ⟨[], by simpa [compose] using h, by simp, .inr (by simp), by simp⟩
  | cons q rest ih =>
      rw [compose]
      split
      · next hcomplete =>
        have hsuffices : s.Suffices before := (s.isComplete_iff h).1 hcomplete
        exact ⟨[], by simpa using h, List.nil_prefix, .inl (by simpa using hsuffices), by simp⟩
      · next hcomplete =>
        have hsuffices : ¬ s.Suffices before := fun hs => hcomplete ((s.isComplete_iff h).2 hs)
        rw [step_eq]
        cases hq : isEligible sizes q with
        | false =>
            rw [List.filter_cons_of_neg (by simp [hq])]
            exact ih h
        | true =>
            obtain ⟨taken, hrecords, hstart, henough, hfewer⟩ := ih (s.records_append h q)
            rw [List.append_assoc, List.singleton_append] at hrecords henough
            rw [List.filter_cons_of_pos hq]
            refine ⟨q :: taken, hrecords, List.cons_prefix_cons.2 ⟨rfl, hstart⟩, ?_, ?_⟩
            · exact henough.imp_right fun heq => by rw [heq]
            · intro fewer hfront hlength
              cases fewer with
              | nil => simpa using hsuffices
              | cons p fewer =>
                  obtain ⟨rfl, hrest⟩ := List.cons_prefix_cons.1 hfront
                  have hmore := hfewer fewer hrest (by simpa using hlength)
                  simpa using hmore

theorem headingText_singleton {q : Span} (hsizes : 0 < s.fontSizes.toNat)
    (hsize : q.size.same q.size = true) (htext : Text.isBlank q.text = false)
    (hopen : s.isComplete {} = false) : s.headingText [q] = (s.keptText q).trim := by
  obtain ⟨n, hn⟩ := Nat.exists_eq_succ_of_ne_zero (Nat.ne_of_gt hsizes)
  have hlargest : Span.largestSizes [q] s.fontSizes.toNat = [q.size] := by
    simp [Span.largestSizes, Span.sortedSizes, FontSize.dropRepeats, FontSize.dropRepeatsOf, hn]
  have heligible : isEligible [q.size] q = true := by simp [isEligible, hsize, htext]
  simp only [headingText, hlargest, compose, hopen, Bool.false_eq_true, if_false, step_eq,
    heligible, if_true]
  simp [append]

variable {s}

theorem IsTaken.length_le {spans taken taken' : List Span} (h : s.IsTaken spans taken)
    (h' : s.IsTaken spans taken') : taken.length ≤ taken'.length := by
  obtain ⟨hstart', henough', -⟩ := h'
  rcases henough' with hsuffices | rfl
  · exact Nat.le_of_not_lt fun hlt => h.2.2 taken' hstart' hlt hsuffices
  · exact h.1.length_le

theorem IsTaken.eq {spans taken taken' : List Span} (h : s.IsTaken spans taken)
    (h' : s.IsTaken spans taken') : taken = taken' :=
  (List.prefix_of_prefix_length_le h.1 h'.1 (h.length_le h')).eq_of_length_le (h'.length_le h)

variable (s)

/-- The words of the heading are those of the taken spans with their dashes, and it has no white
space at its ends. -/
theorem words_headingText (spans : List Span) :
    ∃ taken, s.IsTaken (s.eligible spans) taken ∧
      Text.words (s.headingText spans) = s.outline [] taken ∧
      Text.IsTrimmed (s.headingText spans) := by
  obtain ⟨taken, hrecords, hstart, henough, hfewer⟩ := s.records_compose s.records_empty spans
  refine ⟨taken, ⟨hstart, henough, hfewer⟩, ?_, Text.isTrimmed_trim _⟩
  rw [headingText, Text.words_trim]
  exact hrecords.text

/-- Small print is passed over, the subtitle is set off and cut, and the last span comes too
late. -/
theorem words_headingText_cut :
    let s : HeadingSettings :=
      { fontSizes := 2, minFragments := 2, minWords := 4, maxFragmentWords := 3 }
    let run (size : Nat) (text : String) : Span := ⟨0, .nearest size 1, text.toList⟩
    let title := run 36 "Rising Seas"
    let subtitle := run 24 "What the old harbour will lose"
    let spans := [run 10 "May 2019", title, subtitle, run 24 "Contents"]
    s.fragment subtitle = ["What", "the"].map String.toList ∧
    s.IsTaken (s.eligible spans) [title, subtitle] ∧
    Text.words (s.headingText spans) =
      ["Rising", "Seas", "-", "What", "the"].map String.toList := by
  intro s run title subtitle spans
  have hsorted : Span.sortedSizes spans = [36, 24, 24, 10].map (.nearest · 1) :=
    Span.sortedSizes_eq (by decide +kernel) (by decide +kernel)
  have heligible : s.eligible spans = [title, subtitle, run 24 "Contents"] := by
    rw [eligible, Span.largestSizes, hsorted]
    decide +kernel
  have htaken : s.IsTaken (s.eligible spans) [title, subtitle] := by
    rw [heligible]
    refine ⟨⟨[_], rfl⟩, .inl ⟨by decide, by decide +kernel⟩, fun fewer _ hshort hsuffices => ?_⟩
    exact Nat.not_le_of_lt hshort hsuffices.1
  obtain ⟨taken, hchosen, hwords, -⟩ := words_headingText s spans
  rw [hchosen.eq htaken] at hwords
  refine ⟨by decide +kernel, htaken, ?_⟩
  rw [hwords]
  decide +kernel

end Precis.HeadingSettings
