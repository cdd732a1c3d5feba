import Precis.Proofs.Json.Record
import Precis.Proofs.Json.RoundTrip
import Precis.Settings.File

/-!
Settings from partial files. A file may leave out sections and thresholds, may hold keys that no
section knows, and may order its keys as it likes: what it kept is read as it was written, and what
it left out has its default.
-/

namespace Precis

open Json (Edit unlessDeleted)

variable {deleted : List Text} {json : Json}

namespace HeadingSettings

/-- The settings with the defaults of the deleted fields. -/
def without (s : HeadingSettings) (deleted : List Text) : HeadingSettings :=
  let default : HeadingSettings := {}
  { fontSizes := unlessDeleted deleted "font_sizes" s.fontSizes default.fontSizes
    minFragments := unlessDeleted deleted "min_fragments" s.minFragments default.minFragments
    minWords := unlessDeleted deleted "min_words" s.minWords default.minWords
    maxFragmentWords :=
      unlessDeleted deleted "max_fragment_words" s.maxFragmentWords default.maxFragmentWords
    rtlLanguages := unlessDeleted deleted "rtl_languages" s.rtlLanguages default.rtlLanguages }

theorem ofJson?_of_edit (s : HeadingSettings) (h : Edit fieldNames deleted s.toJson json) :
    ofJson? json = some (s.without deleted) := by
  obtain ⟨r, hrecord, hr⟩ := h.exists_record rfl (by decide)
  have hfontSizes := hr.orDefault?_eq "font_sizes" (by simp) (Json.toUInt64?_natural s.fontSizes)
  have hminFragments :=
    hr.orDefault?_eq "min_fragments" (by simp) (Json.toUInt64?_natural s.minFragments)
  have hminWords := hr.orDefault?_eq "min_words" (by simp) (Json.toUInt64?_natural s.minWords)
  have hmaxFragmentWords :=
    hr.orDefault?_eq "max_fragment_words" (by simp) (Json.toUInt64?_natural s.maxFragmentWords)
  have hrtlLanguages :=
    hr.orDefault?_eq "rtl_languages" (by simp) (Json.toList?_ofTexts s.rtlLanguages)
  rw [ofJson?, hrecord]
  simp only [bind, Option.bind_some, hfontSizes, hminFragments, hminWords, hmaxFragmentWords,
    hrtlLanguages]
  rfl

end HeadingSettings

namespace SummarySettings

def without (s : SummarySettings) (deleted : List Text) : SummarySettings :=
  let default : SummarySettings := {}
  { sentences := unlessDeleted deleted "sentences" s.sentences default.sentences
    maxCandidates := unlessDeleted deleted "max_candidates" s.maxCandidates default.maxCandidates
    minSentenceChars :=
      unlessDeleted deleted "min_sentence_chars" s.minSentenceChars default.minSentenceChars
    maxSentenceChars :=
      unlessDeleted deleted "max_sentence_chars" s.maxSentenceChars default.maxSentenceChars
    maxHeadingLines :=
      unlessDeleted deleted "max_heading_lines" s.maxHeadingLines default.maxHeadingLines
    minHeadingChars :=
      unlessDeleted deleted "min_heading_chars" s.minHeadingChars default.minHeadingChars
    maxHeadingChars :=
      unlessDeleted deleted "max_heading_chars" s.maxHeadingChars default.maxHeadingChars }

theorem ofJson?_of_edit (s : SummarySettings) (h : Edit fieldNames deleted s.toJson json) :
    ofJson? json = some (s.without deleted) := by
  obtain ⟨r, hrecord, hr⟩ := h.exists_record rfl (by decide)
  have hsentences := hr.orDefault?_eq "sentences" (by simp) (Json.toUInt64?_natural s.sentences)
  have hmaxCandidates :=
    hr.orDefault?_eq "max_candidates" (by simp) (Json.toUInt64?_natural s.maxCandidates)
  have hminSentenceChars :=
    hr.orDefault?_eq "min_sentence_chars" (by simp) (Json.toUInt64?_natural s.minSentenceChars)
  have hmaxSentenceChars :=
    hr.orDefault?_eq "max_sentence_chars" (by simp) (Json.toUInt64?_natural s.maxSentenceChars)
  have hmaxHeadingLines :=
    hr.orDefault?_eq "max_heading_lines" (by simp) (Json.toUInt64?_natural s.maxHeadingLines)
  have hminHeadingChars :=
    hr.orDefault?_eq "min_heading_chars" (by simp) (Json.toUInt64?_natural s.minHeadingChars)
  have hmaxHeadingChars :=
    hr.orDefault?_eq "max_heading_chars" (by simp) (Json.toUInt64?_natural s.maxHeadingChars)
  rw [ofJson?, hrecord]
  simp only [bind, Option.bind_some, hsentences, hmaxCandidates, hminSentenceChars,
    hmaxSentenceChars, hmaxHeadingLines, hminHeadingChars, hmaxHeadingChars]
  rfl

end SummarySettings

namespace FilterSettings

def without (s : FilterSettings) (deleted : List Text) : FilterSettings :=
  let default : FilterSettings := {}
  { textHeadingMinChars :=
      unlessDeleted deleted "text_heading_min_chars" s.textHeadingMinChars
        default.textHeadingMinChars }

theorem ofJson?_of_edit (s : FilterSettings) (h : Edit fieldNames deleted s.toJson json) :
    ofJson? json = some (s.without deleted) := by
  obtain ⟨r, hrecord, hr⟩ := h.exists_record rfl (by decide)
  have htextHeadingMinChars :=
    hr.orDefault?_eq "text_heading_min_chars" (by simp)
      (Json.toUInt64?_natural s.textHeadingMinChars)
  rw [ofJson?, hrecord]
  simp only [bind, Option.bind_some, htextHeadingMinChars]
  rfl

end FilterSettings

namespace Settings

/-- The keys that are deleted, section by section and of the sections themselves. -/
structure Deletion where
  sections : List Text := []
  heading : List Text := []
  summary : List Text := []
  filter : List Text := []

/-- The settings with the defaults of what is deleted, in a deleted section of everything. -/
def without (s : Settings) (d : Deletion) : Settings where
  heading := unlessDeleted d.sections "heading" (s.heading.without d.heading) {}
  summary := unlessDeleted d.sections "summary" (s.summary.without d.summary) {}
  filter := unlessDeleted d.sections "filter" (s.filter.without d.filter) {}

/-- The settings were written with these deletions, with foreign keys beside the fields and in any
order, both within the sections and of them. -/
inductive IsEdited (s : Settings) (d : Deletion) : Json → Prop
  | intro {heading summary filter json : Json}
      (hheading : Edit HeadingSettings.fieldNames d.heading s.heading.toJson heading)
      (hsummary : Edit SummarySettings.fieldNames d.summary s.summary.toJson summary)
      (hfilter : Edit FilterSettings.fieldNames d.filter s.filter.toJson filter)
      (hsections : Edit fieldNames d.sections
        (.object [("heading".toList, heading), ("summary".toList, summary),
          ("filter".toList, filter)]) json) : IsEdited s d json

theorem ofJson?_of_isEdited {s : Settings} {d : Deletion} (h : s.IsEdited d json) :
    ofJson? json = some (s.without d) := by
  obtain ⟨hheading, hsummary, hfilter, hsections⟩ := h
  obtain ⟨r, hrecord, hr⟩ := hsections.exists_record rfl (by decide)
  have hheading := hr.orDefault?_eq "heading" (by simp) (s.heading.ofJson?_of_edit hheading) {}
  have hsummary := hr.orDefault?_eq "summary" (by simp) (s.summary.ofJson?_of_edit hsummary) {}
  have hfilter := hr.orDefault?_eq "filter" (by simp) (s.filter.ofJson?_of_edit hfilter) {}
  rw [ofJson?, hrecord]
  simp only [bind, Option.bind_some, hheading, hsummary, hfilter]
  rfl

theorem isEdited_toJson (s : Settings) : s.IsEdited {} s.toJson :=
  .intro .refl .refl .refl .refl

theorem without_nothing (s : Settings) : s.without {} = s := by
  simp [without, HeadingSettings.without, SummarySettings.without, FilterSettings.without,
    unlessDeleted]

theorem readable_toJson (s : Settings) : s.toJson.Readable := by
  simp [toJson, HeadingSettings.toJson, SummarySettings.toJson, FilterSettings.toJson,
    Json.readable_object_iff, Json.readable_ofTexts, Json.Readable.natural]

theorem ofFile_of_ofJson? {text : Text} {s : Settings} (path : Text)
    (htext : Json.ofText? text = some json) (h : ofJson? json = some s) :
    ofFile path (some (Utf8.encode text)) = .ok s := by
  have hbytes : Utf8.decode? (Utf8.encode text) = some text := Utf8.decode?_eq_some_iff.2 rfl
  have hsettings : ofText? text = some s := by
    rw [ofText?, htext]
    exact h
  rw [ofFile]
  simp only [hbytes, hsettings]

/-- What a partial file kept of the settings is read as it was written, and the rest has its
default, however the file is laid out. The settings as they are printed are read back. -/
theorem ofFile_of_isEdited {s : Settings} {d : Deletion} (h : s.IsEdited d json) :
    ofJson? json = some (s.without d) ∧
    (∀ path text, Json.ofText? text = some json →
      ofFile path (some (Utf8.encode text)) = .ok (s.without d)) ∧
    ∀ path, ofFile path (some (Utf8.encode s.toJson.render)) = .ok s := by
  refine ⟨ofJson?_of_isEdited h, fun path text htext => ?_, fun path => ?_⟩
  · exact ofFile_of_ofJson? path htext (ofJson?_of_isEdited h)
  · have hwhole := ofJson?_of_isEdited s.isEdited_toJson
    rw [without_nothing] at hwhole
    exact ofFile_of_ofJson? path (Json.ofText?_render s.readable_toJson) hwhole

/-- Of these settings one number of one section is kept. -/
theorem ofFile_of_isEdited_one_number :
    let s : Settings :=
      { heading := { fontSizes := 9 }, summary := { sentences := 2, maxCandidates := 7 } }
    let d : Deletion :=
      { sections := ["heading".toList, "filter".toList]
        summary := SummarySettings.fieldNames.tail }
    let json : Json := .object [
      ("more".toList, .array [.bool true]),
      ("summary".toList, .object [("Sentences".toList, .null), ("sentences".toList, .natural 2)])]
    s.IsEdited d json ∧
    ofFile "cfg.json".toList (some (Utf8.encode json.render)) =
      .ok { summary := { sentences := 2 } } := by
  intro s d json
  have hsummary : Edit SummarySettings.fieldNames d.summary s.summary.toJson (.object
      [("Sentences".toList, .null), ("sentences".toList, .natural 2)]) := by
    have hforeign : ∀ m ∈ [("Sentences".toList, Json.null)], m.1 ∉ SummarySettings.fieldNames := by
      simp [SummarySettings.fieldNames]
    exact .object hforeign (.swap ("sentences".toList, Json.natural 2) _ [])
  have hsections : Edit fieldNames d.sections
      (.object [("heading".toList, s.heading.toJson),
        ("summary".toList, .object
          [("Sentences".toList, .null), ("sentences".toList, .natural 2)]),
        ("filter".toList, s.filter.toJson)]) json := by
    have hforeign : ∀ m ∈ [("more".toList, Json.array [.bool true])], m.1 ∉ fieldNames := by
      simp [fieldNames]
    exact .object hforeign (.swap ("summary".toList, _) _ [])
  have hedited : s.IsEdited d json := .intro .refl hsummary .refl hsections
  have hreadable : json.Readable := by
    simp [json, Json.readable_object_iff, Json.Readable.natural, Json.Readable.null,
      Json.Readable.array, Json.Readable.bool]
  have hwithout : s.without d = { summary := { sentences := 2 } } := by decide
  have hread := (ofFile_of_isEdited hedited).2.1 "cfg.json".toList _ (Json.ofText?_render hreadable)
  rw [hwithout] at hread
  exact ⟨hedited, hread⟩

end Settings
end Precis
