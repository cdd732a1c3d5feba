import Precis.Command.Run
import Precis.Proofs.Body.Routing
import Precis.Proofs.Command.Printed
import Precis.Proofs.Document.ParseMetadata
import Precis.Proofs.Document.Process
import Precis.Proofs.Sentence.Summary
import Precis.Proofs.Text.Clean

/-!
Two ways to one summary. A body is summarised on its own and as part of its index entry; both read
the same text out of it, unless it is only declared a PDF, and the entry holds the summary if that
is not empty.
-/

namespace Precis

namespace Document

theorem newSummary?_withParseMetadata (d : Document) (s : Settings) :
    (d.withParseMetadata s.heading).newSummary? s = d.newSummary? s := by
  rw [newSummary?, rawSummary, text_withParseMetadata]
  rfl

theorem find?_summary_process_empty (d : Document) (s : Settings) :
    (d.process s .empty).2.find? Key.summary =
      (d.newSummary? s).map fun summary => [summary] := by
  have hdescribed : ¬ Metadata.empty.IsDescribed := by decide
  rw [find?_process_of_description d s .empty (by decide), if_neg hdescribed, if_pos rfl,
    newSummary?_withParseMetadata]

end Document

namespace Command

open Json (printedAt? printedMetadata?)

/-- What an invocation reports, and the format that it asks for. -/
def reported (readers : Readers) (files : Files) (e : Environment) (invocation : Invocation) :
    Except Failure (Report × OutputFormat) := do
  let s ← loadSettings files invocation.config e
  report readers files s invocation.request

def Report.render (r : Report) : OutputFormat → Text
  | .json => r.renderJson
  | .text => r.renderText

section

variable (readers : Readers) (files : Files)

theorem run_eq (e : Environment) (invocation : Invocation) :
    run readers files e invocation =
      (reported readers files e invocation).map fun r => r.1.render r.2 := by
  unfold run reported
  cases loadSettings files invocation.config e with
  | error failure => rfl
  | ok s =>
      simp only [bind, Except.bind]
      cases report readers files s invocation.request with
      | error failure => rfl
      | ok r =>
          obtain ⟨r, output⟩ := r
          cases output <;> rfl

theorem text_indexBody {bytes : Bytes} {declared : Option Text}
    (h : ContentType.isPdf declared = true → Body.HasPdfMark bytes) :
    (indexBody readers bytes declared).1 = (Body.read readers bytes declared).text := by
  unfold indexBody
  split
  · next hmagic =>
    rw [Body.read_of_hasPdfMark readers bytes ((Body.looksLikePdf_iff bytes).1 hmagic) _ declared]
  · next hmagic =>
    rw [if_neg fun hpdf => hmagic ((Body.looksLikePdf_iff bytes).2 (h hpdf))]

/-- A body is read alike for its summary and for its entry, so the entry has the text of the summary
cleaned, if there is any. -/
theorem find?_summary_process_indexDocument (s : Settings) {request : IndexRequest} {bytes : Bytes}
    (h : ContentType.isPdf request.contentType = true → Body.HasPdfMark bytes)
    (sniffed taggedText : Option Text) :
    let text := (indexBody readers bytes request.contentType).1
    let document := indexDocument request text sniffed taggedText
    let body := Body.read readers bytes request.contentType
    let made := (s.summary.summary body.text s.summary.sentences.toNat).toText
    (document.process s .empty).2.find? Key.summary =
      if made = [] then none else some [made.clean] := by
  intro text document body made
  have htext : document.text.dropReplacements = body.text := by
    rw [show document.text = body.text from text_indexBody readers h,
      Body.dropReplacements_text_read]
  have hraw : document.rawSummary s = made := by
    rw [Document.rawSummary, htext]
  rw [Document.find?_summary_process_empty, Document.newSummary?, hraw]
  cases made <;> rfl

/-- What is reported of a body by the one command and by the other. -/
theorem summary_of_index (s : Settings) {request : IndexRequest} {bytes : Bytes}
    (h : ContentType.isPdf request.contentType = true → Body.HasPdfMark bytes)
    (taggedText : Option Text) :
    ∃ engine count summary warnings url parseMeta fields indexWarnings,
      summarize readers s bytes none request.contentType =
        .summary engine count summary warnings ∧
      index readers s request bytes taggedText =
        .index url parseMeta fields indexWarnings ∧
      (fields.find? Key.summary = some [summary] ∨
        fields.find? Key.summary = none ∧ summary = []) := by
  let body := indexBody readers bytes request.contentType
  let document := indexDocument request body.1 body.2.1 taggedText
  let entry := document.process s .empty
  have hindex : index readers s request bytes taggedText =
      .index entry.1.url entry.1.parseMeta entry.2 body.2.2 := rfl
  refine ⟨_, _, _, _, _, _, _, _, rfl, hindex, ?_⟩
  rw [find?_summary_process_indexDocument readers s h]
  split
  · next hnil =>
    exact .inr ⟨rfl, by rw [Option.getD_none, hnil, Text.clean_nil]⟩
  · exact .inl rfl

variable {e : Environment} {config : Option Text} {s : Settings}

theorem reported_of_settings (h : loadSettings files config e = .ok s) (request : Request) :
    reported readers files e ⟨config, request⟩ = report readers files s request := by
  rw [reported, h]
  rfl

theorem report_of_missing {request : IndexRequest} (h : files request.path = none)
    (contentType : Option Text) (output : OutputFormat) :
    report readers files s (.summarize request.path none contentType output) =
        .error (.missing request.path) ∧
      report readers files s (.index request) = .error (.missing request.path) := by
  constructor <;> simp [report, readFile, h, bind, Except.bind]

theorem report_summarize {path : Text} {bytes : Bytes} (h : files path = some bytes)
    (sentences : Option UInt64) (contentType : Option Text) (output : OutputFormat) :
    report readers files s (.summarize path sentences contentType output) =
      .ok (summarize readers s bytes sentences contentType, output) := by
  simp [report, readFile, h, bind, Except.bind, pure, Except.pure]

/-- The summary of a body as it is printed in either format. -/
def printedSummary (s : Settings) (bytes : Bytes) (sentences : Option UInt64)
    (contentType : Option Text) : Text :=
  let body := Body.read readers bytes contentType
  (s.summary.summary body.text (sentences.getD s.summary.sentences).toNat).toText.clean

theorem run_summarize (h : loadSettings files config e = .ok s) {path : Text} {bytes : Bytes}
    (hbytes : files path = some bytes) (sentences : Option UInt64) (contentType : Option Text) :
    let printed : OutputFormat → Except Failure Text := fun output =>
      run readers files e ⟨config, .summarize path sentences contentType output⟩
    let summary := printedSummary readers s bytes sentences contentType
    (∃ json, printed .json = .ok json ∧
      printedAt? json ["summary".toList] = some (.string summary)) ∧
    printed .text = .ok (if summary = [] then [] else summary ++ ['\n']) := by
  intro printed summary
  have hprinted : ∀ output, printed output =
      .ok ((summarize readers s bytes sentences contentType).render output) := by
    intro output
    simp only [printed, run_eq, reported_of_settings readers files h,
      report_summarize readers files hbytes, Except.map]
  refine ⟨⟨_, hprinted .json, printedAt?_renderJson _ _⟩, ?_⟩
  rw [hprinted]
  exact congrArg Except.ok (renderText_summary _ _ _ _)

/-- What is printed is enough to tell which summary it is. -/
theorem eq_printedSummary (h : loadSettings files config e = .ok s) {path : Text} {bytes : Bytes}
    (hbytes : files path = some bytes) {sentences : Option UInt64} {contentType : Option Text}
    {json found : Text}
    (hjson : run readers files e ⟨config, .summarize path sentences contentType .json⟩ = .ok json)
    (hread : printedAt? json ["summary".toList] = some (.string found)) :
    found = printedSummary readers s bytes sentences contentType := by
  obtain ⟨⟨printed, hprinted, hsummary⟩, -⟩ :=
    run_summarize readers files h hbytes sentences contentType
  obtain rfl : json = printed := Except.ok.inj (hjson.symm.trans hprinted)
  exact Json.string.inj (Option.some.inj (hread.symm.trans hsummary))

theorem report_index_of_tagged {request : IndexRequest} {bytes tagged : Bytes} {path : Text}
    (h : files request.path = some bytes) (hpath : request.tagged = some path)
    (htagged : files path = some tagged) :
    report readers files s (.index request) =
      .ok (index readers s request bytes (some (Utf8.decodeLossy tagged)), .json) := by
  simp [report, readText, readFile, h, hpath, htagged, bind, Except.bind, pure, Except.pure,
    Except.map, Functor.map]

theorem report_index {request : IndexRequest} {bytes : Bytes}
    (h : files request.path = some bytes)
    (htagged : ∀ path ∈ request.tagged, (files path).isSome = true) :
    ∃ taggedText, report readers files s (.index request) =
      .ok (index readers s request bytes taggedText, .json) := by
  cases hpath : request.tagged with
  | none =>
      refine ⟨none, ?_⟩
      simp [report, readFile, h, hpath, bind, Except.bind, pure, Except.pure]
  | some path =>
      obtain ⟨tagged, hfile⟩ := Option.isSome_iff_exists.1 (htagged path hpath)
      exact ⟨_, report_index_of_tagged readers files h hpath hfile⟩

end

/-- With the same settings, body and declared type both commands fail alike or both succeed. The
summary that is printed in the entry is then the one that is printed on its own, and there is none
in the entry only where that one is empty. -/
theorem index_summary_is_summarized (readers : Readers) (files : Files) (e : Environment)
    (config : Option Text) (request : IndexRequest)
    (htagged : ∀ path ∈ request.tagged, (files path).isSome = true) :
    let summarizing : Invocation :=
      ⟨config, .summarize request.path none request.contentType .json⟩
    let indexing : Invocation := ⟨config, .index request⟩
    (∀ failure, loadSettings files config e = .error failure →
      run readers files e summarizing = .error failure ∧
      run readers files e indexing = .error failure) ∧
    ∀ s, loadSettings files config e = .ok s →
      (files request.path = none →
        run readers files e summarizing = .error (.missing request.path) ∧
        run readers files e indexing = .error (.missing request.path)) ∧
      ∀ bytes, files request.path = some bytes →
        (ContentType.isPdf request.contentType = true → Body.HasPdfMark bytes) →
        ∃ summarized indexed summary fields,
          run readers files e summarizing = .ok summarized ∧
          run readers files e indexing = .ok indexed ∧
          printedAt? summarized ["summary".toList] = some (.string summary) ∧
          printedMetadata? indexed "fields".toList = some fields ∧
          (fields.find? Key.summary = some [summary] ∨
            fields.find? Key.summary = none ∧ summary = []) := by
  intro summarizing indexing
  refine ⟨fun failure hsettings => ?_, fun s hsettings => ?_⟩
  · constructor <;> rw [run, hsettings] <;> rfl
  have hreported := reported_of_settings readers files hsettings
  refine ⟨fun hbytes => ?_, fun bytes hbytes hpdf => ?_⟩
  · obtain ⟨hsummarize, hindex⟩ := report_of_missing readers files (s := s) hbytes
      request.contentType .json
    constructor
    · rw [run_eq, hreported, hsummarize]
      rfl
    · rw [run_eq, hreported, hindex]
      rfl
  · obtain ⟨taggedText, hreport⟩ := report_index readers files (s := s) hbytes htagged
    obtain ⟨engine, count, summary, warnings, url, parseMeta, fields, indexWarnings, hsummary,
      hindex, hfields⟩ := summary_of_index readers s hpdf taggedText
    refine ⟨(Report.summary engine count summary warnings).renderJson,
      (Report.index url parseMeta fields indexWarnings).renderJson, summary, fields, ?_, ?_,
      printedAt?_renderJson _ _, (printedMetadata?_of_index _ _ _ _).2, hfields⟩
    · rw [run_eq, hreported, report_summarize readers files hbytes, hsummary]
      rfl
    · rw [run_eq, hreported, hreport, hindex]
      rfl

/-- A letter of one sentence, and a PDF that is declared one and broken. -/
theorem index_summary_is_summarized_of_letter :
    let seas : Text := "Rising seas reach the old harbour.".toList
    let letter : IndexRequest := ⟨"letter.txt".toList, none, none, none, none, none⟩
    let report : IndexRequest :=
      ⟨"report.pdf".toList, none, some ContentType.pdf, none, none, none⟩
    let files : Files := fun path =>
      some (if path = letter.path then Utf8.encode seas else Body.asciiBytes "%PDF-1.7")
    let e : Environment := fun _ => none
    let printed : Request → Except Failure Text := fun request =>
      run Body.noReaders files e ⟨none, request⟩
    (∀ path ∈ letter.tagged, (files path).isSome = true) ∧
    (∀ path ∈ report.tagged, (files path).isSome = true) ∧ loadSettings files none e = .ok {} ∧
    files letter.path = some (Utf8.encode seas) ∧ ContentType.isPdf letter.contentType = false ∧
    files report.path = some (Body.asciiBytes "%PDF-1.7") ∧
    ContentType.isPdf report.contentType = true ∧
    Body.HasPdfMark (Body.asciiBytes "%PDF-1.7") ∧
    (∃ summarized indexed fields,
      printed (.summarize letter.path none none .json) = .ok summarized ∧
      printed (.index letter) = .ok indexed ∧
      printedAt? summarized ["summary".toList] = some (.string seas) ∧
      printedMetadata? indexed "fields".toList = some fields ∧
      fields.find? Key.summary = some [seas]) ∧
    ∃ summarized indexed fields,
      printed (.summarize report.path none report.contentType .json) = .ok summarized ∧
      printed (.index report) = .ok indexed ∧
      printedAt? summarized ["summary".toList] = some (.string []) ∧
      printedMetadata? indexed "fields".toList = some fields ∧
      (fields.find? Key.summary = some [[]] ∨ fields.find? Key.summary = none) := by
  intro seas letter report files e printed
  have hletterTagged : ∀ path ∈ letter.tagged, (files path).isSome = true := by simp [letter]
  have hreportTagged : ∀ path ∈ report.tagged, (files path).isSome = true := by simp [report]
  have hsettings : loadSettings files none e = .ok {} := rfl
  have hletter : files letter.path = some (Utf8.encode seas) := by
    simp only [files, if_true]
  have hreport : files report.path = some (Body.asciiBytes "%PDF-1.7") := by decide
  have hplain : ContentType.isPdf letter.contentType = false := by decide
  have hmark : Body.HasPdfMark (Body.asciiBytes "%PDF-1.7") := by decide
  obtain ⟨summarized, indexed, summary, fields, hsummarized, hindexed, hread, hfields, hsummary⟩ :=
    ((index_summary_is_summarized Body.noReaders files e none letter hletterTagged).2 {}
      hsettings).2 _ hletter (by simp [hplain])
  obtain ⟨summarized', indexed', summary', fields', hsummarized', hindexed', hread', hfields',
    hsummary'⟩ :=
    ((index_summary_is_summarized Body.noReaders files e none report hreportTagged).2 {}
      hsettings).2 _ hreport (fun _ => hmark)
  obtain rfl := eq_printedSummary Body.noReaders files hsettings hletter hsummarized hread
  obtain rfl := eq_printedSummary Body.noReaders files hsettings hreport hsummarized' hread'
  have hseas : printedSummary Body.noReaders {} (Utf8.encode seas) none none = seas := by
    have htext : (Body.read Body.noReaders (Utf8.encode seas) none).text = seas := by decide +kernel
    have hone : (({} : SummarySettings).sentencesOf seas).map Sentence.text = [seas] := by
      decide +kernel
    rw [printedSummary, htext, SummarySettings.toText_summary_of_one hone (by decide)]
    decide +kernel
  have hnone : printedSummary Body.noReaders {} (Body.asciiBytes "%PDF-1.7") none
      report.contentType = [] := by
    rw [printedSummary, SummarySettings.toText_summary_of_length_le (by decide +kernel)]
    decide +kernel
  have hplainType : letter.contentType = none := rfl
  rw [hplainType, hseas] at hread hsummary
  rw [hnone] at hread' hsummary'
  refine ⟨hletterTagged, hreportTagged, hsettings, hletter, hplain, hreport, by decide, hmark,
    ⟨summarized, indexed, fields, hsummarized, hindexed, hread, hfields, ?_⟩,
    summarized', indexed', fields', hsummarized', hindexed', hread', hfields',
    hsummary'.imp_right And.left⟩
  exact hsummary.resolve_right fun h => absurd h.2 (by decide)

end Command
end Precis
