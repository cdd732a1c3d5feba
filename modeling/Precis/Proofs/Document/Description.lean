import Precis.Proofs.Document.IndexFields
import Precis.Proofs.Sentence.Summary
import Precis.Proofs.Text.Clean

/-!
Descriptions in an index entry: which of those that were given are kept, and when the summary that
is made in their place is blank. Two sentences leave the mark between them visible whatever they are
cleaned of, so only a summary of one sentence can come to nothing.
-/

namespace Precis

theorem Summary.isVisible_toText {summary : Summary} (h : 1 < summary.sentences.length) :
    Text.IsVisible summary.toText := by
  have hspace : Text.isSpace '[' = false := by decide
  have hlink : Text.continuesLink '[' = false := by decide
  have hseparator : '[' ∈ separator := by decide
  cases hsentences : summary.sentences with
  | nil => simp [hsentences] at h
  | cons a rest =>
      cases rest with
      | nil => simp [hsentences] at h
      | cons b rest =>
          have hmark : '[' ∈ Text.join separator (summary.sentences.map Sentence.text) := by
            rw [hsentences, List.map_cons, List.map_cons, Text.join_cons_cons]
            exact List.mem_append_right _ (List.mem_append_left _ hseparator)
          exact ⟨'[', Text.mem_dropLinks hlink (Text.mem_trim hspace hmark), hspace, by decide⟩

theorem Summary.toText_of_sentences_eq_nil {summary : Summary} (h : summary.sentences = []) :
    summary.toText = [] := by
  rw [toText, h]
  rfl

namespace Document

open Metadata (descriptionKeys)

theorem newSummary?_ne_some_nil_iff (d : Document) (s : Settings) :
    d.newSummary? s ≠ some [] ↔ d.rawSummary s = [] ∨ Text.IsVisible (d.rawSummary s) := by
  rw [newSummary?, ← Text.clean_ne_nil_iff]
  cases d.rawSummary s with
  | nil => simp
  | cons c text => simp

theorem joined?_summary_indexFields (d : Document) (s : Settings) (fields : Metadata) :
    (d.indexFields s fields).joined? Key.summary =
      if fields.IsDescribed then fields.joined? Key.summary else d.newSummary? s := by
  have hmem : Key.summary ∈ descriptionKeys := by decide
  rw [Metadata.joined?, find?_indexFields_of_description d s fields hmem, if_pos rfl]
  split
  · rfl
  · rw [Option.map_map]
    cases d.newSummary? s <;> simp

/-- The summary in an entry is absent or has some text, unless it is made of a single sentence that
shows nothing outside its links. -/
theorem summary_not_blank_iff (d : Document) (s : Settings) (fields : Metadata) :
    let made := s.summary.summary d.text.dropReplacements s.summary.sentences.toNat
    (d.indexFields s fields).joined? Key.summary ≠ some [] ↔
      fields.IsDescribed ∨ made.sentences.length ≠ 1 ∨ made.toText = [] ∨
        Text.IsVisible made.toText := by
  intro made
  have hnew : d.newSummary? s ≠ some [] ↔ made.toText = [] ∨ Text.IsVisible made.toText :=
    newSummary?_ne_some_nil_iff d s
  rw [joined?_summary_indexFields]
  by_cases hdescribed : fields.IsDescribed
  · rw [if_pos hdescribed]
    refine iff_of_true ?_ (.inl hdescribed)
    intro hblank
    obtain ⟨values, hvalues, hnil⟩ := Option.map_eq_some_iff.1 hblank
    exact (Metadata.isDescribed_iff_of_find?_summary hvalues).1 hdescribed hnil
  · rw [if_neg hdescribed, hnew, or_iff_right hdescribed, iff_comm, or_iff_right_iff_imp]
    intro hlength
    cases hsentences : made.sentences.length with
    | zero => exact .inl (Summary.toText_of_sentences_eq_nil (List.length_eq_zero_iff.1 hsentences))
    | succ n => exact .inr (Summary.isVisible_toText (by omega))

/-- A text that is one link is summarised by the link, of which nothing is left. -/
theorem summary_blank_of_lone_link :
    let link : Text := "https://example.org/reports/annual".toList
    let d : Document := ⟨[], none, link, none, .empty, .empty⟩
    (d.indexFields {} .empty).joined? Key.summary = some [] := by
  intro link d
  have hdescribed : ¬ Metadata.empty.IsDescribed := by decide
  have hsentences : (SummarySettings.sentencesOf {} link.dropReplacements).map Sentence.text =
      [link] := by decide +kernel
  have hraw : d.rawSummary {} = link.trim :=
    SummarySettings.toText_summary_of_one hsentences (by decide : 0 < UInt64.toNat 5)
  have hclean : link.trim.clean = [] := by decide +kernel
  rw [joined?_summary_indexFields, if_neg hdescribed, newSummary?, hraw, hclean]
  rfl

/-- A description that was given is kept exactly if the first present key has some text. -/
theorem description_kept_iff (d : Document) (s : Settings) (fields : Metadata) {key : Text}
    (hkey : key ∈ descriptionKeys) (htext : fields.HasText key) :
    (d.indexFields s fields).find? key = fields.find? key ↔ fields.IsDescribed := by
  obtain ⟨values, hvalues, hne⟩ := htext
  rw [find?_indexFields_of_description d s fields hkey]
  constructor
  · intro hkept
    by_contra hdescribed
    rw [if_neg hdescribed, hvalues] at hkept
    split at hkept
    · next hsummary =>
      subst hsummary
      exact hdescribed ((Metadata.isDescribed_iff_of_find?_summary hvalues).2 hne)
    · simp at hkept
  · intro hdescribed
    rw [if_pos hdescribed]

/-- Publishers' words stay where no summary was given at all. -/
theorem description_kept_iff_alone :
    let words : Text := "Publisher supplied description.".toList
    let fields := Metadata.empty.set Key.description words
    let d : Document := ⟨[], none, "Plain text of the page.".toList, none, .empty, .empty⟩
    Key.description ∈ descriptionKeys ∧ fields.HasText Key.description ∧
      (d.indexFields {} fields).find? Key.description = fields.find? Key.description := by
  intro words fields d
  have hkey : Key.description ∈ descriptionKeys := by decide
  have htext : fields.HasText Key.description := ⟨[words], by decide, by decide⟩
  have hdescribed : fields.IsDescribed := by decide
  exact ⟨hkey, htext, (description_kept_iff d {} fields hkey htext).2 hdescribed⟩

/-- A description that is present without any text takes the next one with it. -/
theorem description_lost_behind_empty_one :
    let words : Text := "Shared post text.".toList
    let fields := (Metadata.empty.set Key.description []).set Key.twitterDescription words
    let d : Document := ⟨[], none, [], none, .empty, .empty⟩
    fields.HasText Key.twitterDescription ∧
      (d.indexFields {} fields).find? Key.twitterDescription = none := by
  intro words fields d
  have hkey : Key.twitterDescription ∈ descriptionKeys := by decide
  have hdescribed : ¬ fields.IsDescribed := by decide
  refine ⟨⟨[words], by decide, by decide⟩, ?_⟩
  rw [find?_indexFields_of_description d {} fields hkey, if_neg hdescribed,
    if_neg (by decide : Key.twitterDescription ≠ Key.summary)]

end Document
end Precis
