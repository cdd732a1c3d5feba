import Precis.Proofs.Command.Summary
import Precis.Proofs.Sentence.Summary

/-!
What is printed in the one format and in the other: the line of plain text is one of the members of
the JSON. The line of a summary is a single one, for a clean text has no white space but spaces.
-/

namespace Precis

/-- Where a line ends by one convention or another: the line feed, vertical tab, form feed and
carriage return, the separators of files, groups and records, the next line, and the separators of
lines and of paragraphs. -/
def Text.lineBreaks : List Char :=
  ['\n', '\x0B', '\x0C', '\r', '\x1C', '\x1D', '\x1E', '\u0085', '\u2028', '\u2029']

theorem Text.IsClean.not_mem_of_mem_lineBreaks {t : Text} (h : t.IsClean) {c : Char}
    (hc : c ∈ lineBreaks) : c ∉ t := by
  have hbreaks : lineBreaks.all fun c => isSpace c && c != ' ' || Unicode.isUnprintable c := by
    decide
  have hbreak := List.all_eq_true.1 hbreaks c hc
  simp only [Bool.or_eq_true, Bool.and_eq_true, bne_iff_ne] at hbreak
  intro hmem
  rcases hbreak with ⟨hspace, hne⟩ | hunprintable
  · exact hne (h.onlySpaces c hmem hspace)
  · rw [h.printable c hmem] at hunprintable
    exact Bool.false_ne_true hunprintable

namespace Command

open Json (printedAt?)

/-- Two runs that fail alike, or print texts of which one is related to the other. -/
def Agree (related : Text → Text → Prop) : Except Failure Text → Except Failure Text → Prop
  | .ok json, .ok text => related json text
  | .error failure, .error failure' => failure = failure'
  | _, _ => False

theorem Agree.printed {related : Text → Text → Prop} {r r' : Except Failure Text}
    (h : Agree related r r') {json : Text} (hjson : r = .ok json) :
    ∃ text, r' = .ok text ∧ related json text := by
  subst hjson
  cases r' with
  | error failure => exact h.elim
  | ok text => exact ⟨text, rfl, h⟩

section

variable (readers : Readers) (files : Files) (e : Environment) (config : Option Text)

theorem run_formats {α : Type} (request : OutputFormat → Request) (source : Except Failure α)
    (made : Settings → α → Report) {related : Text → Text → Prop}
    (hreport : ∀ s output,
      report readers files s (request output) = source.map fun a => (made s a, output))
    (hmade : ∀ s a, related (made s a).renderJson (made s a).renderText) :
    Agree related (run readers files e ⟨config, request .json⟩)
      (run readers files e ⟨config, request .text⟩) := by
  cases hsettings : loadSettings files config e with
  | error failure =>
      have hrun : ∀ output, run readers files e ⟨config, request output⟩ = .error failure := by
        intro output
        rw [run, hsettings]
        rfl
      rw [hrun, hrun]
      rfl
  | ok s =>
      have hrun : ∀ output, run readers files e ⟨config, request output⟩ =
          source.map fun a => (made s a).render output := by
        intro output
        rw [run_eq, reported_of_settings readers files hsettings, hreport]
        cases source <;> rfl
      rw [hrun, hrun]
      cases source with
      | error failure => rfl
      | ok a => exact hmade s a

end

/-- Plain text is the summary of the JSON on a line of its own, or nothing where that is empty, and
no line ends within it. -/
def SummaryOnly (json text : Text) : Prop :=
  ∃ summary, printedAt? json ["summary".toList] = some (.string summary) ∧
    text = (if summary = [] then [] else summary ++ ['\n']) ∧ ∀ c ∈ Text.lineBreaks, c ∉ summary

def TaggedOnly (json text : Text) : Prop :=
  printedAt? json ["tagged".toList] = some .null ∧ text = [] ∨
    ∃ tagged, printedAt? json ["tagged".toList] = some (.string tagged) ∧ text = tagged ++ ['\n']

theorem summaryOnly_of_clean (engine : Engine) (count : Nat) (t : Text)
    (warnings : List BodyWarning) :
    let r := Report.summary engine count t.clean warnings
    SummaryOnly r.renderJson r.renderText := by
  intro r
  exact ⟨t.clean, printedAt?_renderJson r _, renderText_summary _ _ _ _,
    fun c hc => (Text.isClean_clean t).not_mem_of_mem_lineBreaks hc⟩

theorem taggedOnly_of_heading {r : Report} {heading : Option Heading}
    (hjson : r.toJson.at? ["tagged".toList] = some (.ofOption .string (heading.map Heading.tagged)))
    (hline : r.line? = heading.map Heading.tagged) : TaggedOnly r.renderJson r.renderText := by
  rw [TaggedOnly, printedAt?_renderJson, hjson, Report.renderText, hline]
  cases heading with
  | none => exact .inl ⟨rfl, rfl⟩
  | some h => exact .inr ⟨h.tagged, rfl, rfl⟩

/-- Whatever is asked for, the two formats fail alike, or plain text is one value of the JSON on a
line of its own. -/
theorem text_output_agrees_with_json (readers : Readers) (files : Files) (e : Environment)
    (config : Option Text) (path : Text) :
    let printed : Request → Except Failure Text := fun request =>
      run readers files e ⟨config, request⟩
    (∀ sentences contentType,
      Agree SummaryOnly (printed (.summarize path sentences contentType .json))
        (printed (.summarize path sentences contentType .text))) ∧
    (∀ language,
      Agree TaggedOnly (printed (.heading path language .json))
        (printed (.heading path language .text))) ∧
    ∀ contentType,
      Agree TaggedOnly (printed (.textHeading path contentType .json))
        (printed (.textHeading path contentType .text)) := by
  intro printed
  refine ⟨fun sentences contentType => ?_, fun language => ?_, fun contentType => ?_⟩
  · refine run_formats readers files e config
      (fun output => .summarize path sentences contentType output) (readFile files path)
      (fun s bytes => summarize readers s bytes sentences contentType) (fun s output => ?_)
      fun s bytes => summaryOnly_of_clean _ _ _ _
    rw [report]
    cases readFile files path <;> rfl
  · refine run_formats readers files e config
      (fun output => .heading path language output) (readText files path)
      (fun s stream => fontHeading s stream language) (fun s output => ?_)
      fun s stream => taggedOnly_of_heading rfl rfl
    rw [report]
    cases readText files path <;> rfl
  · refine run_formats readers files e config
      (fun output => .textHeading path contentType output) (readFile files path)
      (fun s bytes => textHeading readers s bytes contentType) (fun s output => ?_)
      fun s bytes => taggedOnly_of_heading rfl rfl
    rw [report]
    cases readFile files path <;> rfl

/-- A sentence that goes over four lines, each of which ends in another way. -/
theorem text_output_agrees_with_json_broken_sentence :
    let text : Text := "Rising\u2028seas\u0085reach the\x0Bold\r\nharbour.".toList
    let summary : Text := "Rising seas reach the old harbour.".toList
    let files : Files := fun _ => some (Utf8.encode text)
    let e : Environment := fun _ => none
    let summarizing : OutputFormat → Invocation := fun output =>
      ⟨none, .summarize "page.txt".toList none none output⟩
    ∃ printed, run Body.noReaders files e (summarizing .json) = .ok printed ∧
      printedAt? printed ["summary".toList] = some (.string summary) ∧
      run Body.noReaders files e (summarizing .text) = .ok (summary ++ ['\n']) ∧
      ∀ c ∈ Text.lineBreaks, c ∉ summary := by
  intro text summary files e summarizing
  have hsettings : loadSettings files none e = .ok {} := rfl
  have hbytes : files "page.txt".toList = some (Utf8.encode text) := rfl
  have hsummary : printedSummary Body.noReaders {} (Utf8.encode text) none none = summary := by
    have htext : (Body.read Body.noReaders (Utf8.encode text) none).text = text := by
      decide +kernel
    have hone : (({} : SummarySettings).sentencesOf text).map Sentence.text = [text] := by
      decide +kernel
    rw [printedSummary, htext, SummarySettings.toText_summary_of_one hone (by decide)]
    decide +kernel
  obtain ⟨⟨json, hjson, hread⟩, -⟩ :=
    run_summarize Body.noReaders files hsettings hbytes none none
  rw [hsummary] at hread
  obtain ⟨line, htext, found, hfound, rfl, hbreaks⟩ :=
    ((text_output_agrees_with_json Body.noReaders files e none "page.txt".toList).1 none
      none).printed hjson
  rw [hread, Option.some_inj, Json.string.injEq] at hfound
  obtain rfl := hfound
  exact ⟨json, hjson, hread, htext, hbreaks⟩

end Command
end Precis
