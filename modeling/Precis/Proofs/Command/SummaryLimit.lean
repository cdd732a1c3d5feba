import Precis.Proofs.Command.Summary
import Precis.Proofs.Sentence.Similarity

/-!
How long a summary can get. A sentence is cut before it is scored, the mark between two sentences
has seven characters, and neither trimming nor cleaning lengthens a text. So the number of sentences
and the cut bound a summary, however long its text is.
-/

namespace Precis

namespace SummarySettings

variable {s : SummarySettings}

/-- The most characters of a summary in so many sentences. -/
def lengthLimit (s : SummarySettings) (count : Nat) : Nat :=
  count * s.maxSentenceChars.toNat + 7 * (count - 1)

theorem lengthLimit_le {m n : Nat} (h : m ≤ n) : s.lengthLimit m ≤ s.lengthLimit n := by
  have hsentences : m * s.maxSentenceChars.toNat ≤ n * s.maxSentenceChars.toNat :=
    Nat.mul_le_mul_right _ h
  rw [lengthLimit, lengthLimit]
  omega

theorem length_le_of_mem_summary {text : Text} {count : Nat} {a : Sentence}
    (h : a ∈ (s.summary text count).sentences) : a.text.length ≤ s.maxSentenceChars.toNat := by
  have hscored : a.text ∈ (Sentence.scored (s.sentencesOf text)).map Sentence.text :=
    List.mem_map_of_mem (Summary.mem_of_mem_ofSentences h)
  rw [Sentence.map_scored Sentence.text fun _ _ => rfl] at hscored
  obtain ⟨b, hb, heq⟩ := List.mem_map.1 hscored
  exact heq ▸ length_le_of_mem_sentencesOf hb

theorem length_toText_summary_le (s : SummarySettings) (text : Text) (count : Nat) :
    (s.summary text count).toText.length ≤ s.lengthLimit count := by
  have hcount : (s.summary text count).sentences.length ≤ count :=
    (Summary.length_ofSentences _ count).trans_le (Nat.min_le_left _ _)
  have htexts : ∀ t ∈ (s.summary text count).sentences.map Sentence.text,
      t.length ≤ s.maxSentenceChars.toNat :=
    List.forall_mem_map.2 fun _ => length_le_of_mem_summary
  calc (s.summary text count).toText.length
      ≤ (Text.join Summary.separator
          ((s.summary text count).sentences.map Sentence.text)).length := Text.length_trim_le _
    _ ≤ s.lengthLimit (s.summary text count).sentences.length := by
        rw [← List.length_map Sentence.text]
        exact Text.length_join_le Summary.separator htexts
    _ ≤ s.lengthLimit count := lengthLimit_le hcount

theorem length_clean_summary_le (s : SummarySettings) (text : Text) (count : Nat) :
    (s.summary text count).toText.clean.length ≤ s.lengthLimit count :=
  (Text.length_clean_le _).trans (s.length_toText_summary_le text count)

theorem toText_summary_zero (s : SummarySettings) (text : Text) :
    (s.summary text 0).toText = [] := by
  have hlength := s.length_toText_summary_le text 0
  rw [lengthLimit, Nat.zero_mul] at hlength
  exact List.length_eq_zero_iff.1 (Nat.le_zero.1 hlength)

end SummarySettings

namespace Document

theorem newSummary?_le_limit {d : Document} {s : Settings} {summary : Text}
    (h : d.newSummary? s = some summary) :
    1 ≤ s.summary.sentences.toNat ∧
      summary.length ≤ s.summary.lengthLimit s.summary.sentences.toNat := by
  simp only [newSummary?] at h
  split at h
  · simp at h
  · next hraw =>
    obtain rfl := Option.some.inj h
    refine ⟨Nat.pos_of_ne_zero fun hzero => hraw ?_, s.summary.length_clean_summary_le _ _⟩
    rw [rawSummary, hzero, SummarySettings.toText_summary_zero]
    rfl

end Document

namespace Command

open Json (printedAt?)

/-- Whatever a document holds, the summary that is made for its entry has a bounded length, and so
has the one that is printed. -/
theorem summary_le_limit :
    (∀ (d : Document) (s : Settings) (fields : Metadata) (values : List Text),
      ¬ fields.IsDescribed → (d.indexFields s fields).find? Key.summary = some values →
        let count := s.summary.sentences.toNat
        1 ≤ count ∧ ∃ summary, values = [summary] ∧
          summary.length ≤ count * s.summary.maxSentenceChars.toNat + 7 * (count - 1)) ∧
    ∀ (readers : Readers) (files : Files) (e : Environment) (config : Option Text) (path : Text)
      (sentences : Option UInt64) (contentType : Option Text) (s : Settings) (bytes : Bytes),
      loadSettings files config e = .ok s → files path = some bytes →
        let printed : OutputFormat → Except Failure Text := fun output =>
          run readers files e ⟨config, .summarize path sentences contentType output⟩
        let asked := (sentences.getD s.summary.sentences).toNat
        ∃ json summary, printed .json = .ok json ∧
          printedAt? json ["summary".toList] = some (.string summary) ∧
          printed .text = .ok (if summary = [] then [] else summary ++ ['\n']) ∧
          summary.length ≤ asked * s.summary.maxSentenceChars.toNat + 7 * (asked - 1) := by
  constructor
  · intro d s fields values hdescribed hvalues count
    rw [Document.find?_indexFields_of_description d s fields (by decide), if_neg hdescribed,
      if_pos rfl, Option.map_eq_some_iff] at hvalues
    obtain ⟨summary, hsummary, rfl⟩ := hvalues
    obtain ⟨hcount, hlength⟩ := Document.newSummary?_le_limit hsummary
    exact ⟨hcount, summary, rfl, hlength⟩
  · intro readers files e config path sentences contentType s bytes hsettings hbytes printed asked
    obtain ⟨⟨json, hjson, hread⟩, htext⟩ :=
      run_summarize readers files hsettings hbytes sentences contentType
    exact ⟨json, _, hjson, hread, htext, s.summary.length_clean_summary_le _ asked⟩

/-- Two sentences that are cut to four characters reach the limit. -/
theorem summary_le_limit_reached :
    let s : Settings :=
      { summary := { sentences := 2, minSentenceChars := 1, maxSentenceChars := 4 } }
    let text : Text := "Seas rise. Gulls fly.".toList
    let d : Document := ⟨[], none, text, none, .empty, .empty⟩
    let summary : Text := "Seas [...] Gull".toList
    let files : Files := fun _ => some (Body.asciiBytes "Seas rise. Gulls fly.")
    let e : Environment := fun _ => none
    ¬ Metadata.empty.IsDescribed ∧
    (d.indexFields s .empty).find? Key.summary = some [summary] ∧
    1 ≤ s.summary.sentences.toNat ∧ summary.length ≤ 2 * 4 + 7 * (2 - 1) ∧
    loadSettings files none e = .ok {} ∧
    ∃ json printed,
      run Body.noReaders files e ⟨none, .summarize [] (some 1) none .json⟩ = .ok json ∧
      printedAt? json ["summary".toList] = some (.string printed) ∧
      printed.length ≤ 1 * 400 + 7 * (1 - 1) := by
  intro s text d summary files e
  have hdescribed : ¬ Metadata.empty.IsDescribed := by decide
  have htexts : (s.summary.sentencesOf text.dropReplacements).map Sentence.text =
      ["Seas".toList, "Gull".toList] := by decide +kernel
  have hlength : (s.summary.sentencesOf text.dropReplacements).length ≤ 2 := by
    rw [← List.length_map Sentence.text, htexts]
    decide
  have hraw : d.rawSummary s = summary := by
    rw [Document.rawSummary, show s.summary.sentences.toNat = 2 from rfl,
      SummarySettings.toText_summary_of_length_le hlength, htexts]
    decide
  have hclean : summary.clean = summary := by decide +kernel
  have hentry : (d.indexFields s .empty).find? Key.summary = some [summary] := by
    rw [Document.find?_indexFields_of_description d s .empty (by decide), if_neg hdescribed,
      if_pos rfl, Document.newSummary?, hraw, hclean]
    rfl
  obtain ⟨hcount, value, hvalue, hle⟩ := summary_le_limit.1 d s .empty [summary] hdescribed hentry
  obtain rfl := List.singleton_inj.1 hvalue
  obtain ⟨json, printed, hjson, hread, -, hprinted⟩ :=
    summary_le_limit.2 Body.noReaders files e none [] (some 1) none {} _ rfl rfl
  exact ⟨hdescribed, hentry, hcount, hle, rfl, json, printed, hjson, hread, hprinted⟩

end Command
end Precis
