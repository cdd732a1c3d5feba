import Precis.Proofs.Command.Summary
import Precis.Proofs.Document.Heading
import Precis.Proofs.Heading.FromSpans

/-!
Two ways to one heading. A tagged stream gives the same heading on its own and as part of a PDF
document: the language reaches it through the metadata of the document, and an entry that starts
from nothing takes what was derived before it looks into the text.
-/

namespace Precis
namespace Command

open Json (printedAt? printedMetadata?)

/-- A body that is taken for a PDF's when it is indexed: it is declared one, or nothing is declared
and it has the mark of one. -/
def IndexRequest.IsPdf (request : IndexRequest) (bytes : Bytes) : Prop :=
  match request.contentType with
  | some type => Text.eqIgnoringAsciiCase type.trim ContentType.pdf = true
  | none => Body.HasPdfMark bytes

section

variable (readers : Readers)

def indexedDocument (request : IndexRequest) (bytes : Bytes) (taggedText : Option Text) :
    Document :=
  indexDocument request (indexBody readers bytes request.contentType).1
    (indexBody readers bytes request.contentType).2.1 taggedText

theorem index_eq (s : Settings) (request : IndexRequest) (bytes : Bytes)
    (taggedText : Option Text) :
    index readers s request bytes taggedText =
      let entry := (indexedDocument readers request bytes taggedText).process s .empty
      .index entry.1.url entry.1.parseMeta entry.2
        (indexBody readers bytes request.contentType).2.2 :=
  rfl

theorem isPdf_indexedDocument (request : IndexRequest) (bytes : Bytes)
    (taggedText : Option Text) :
    (indexedDocument readers request bytes taggedText).isPdf = true ↔ request.IsPdf bytes := by
  simp only [Document.isPdf, indexedDocument, indexDocument, IndexRequest.IsPdf]
  cases request.contentType with
  | some type => rfl
  | none =>
      have hundeclared : ContentType.isPdf none = false := by decide
      have hpdf : Text.eqIgnoringAsciiCase (Text.trim ContentType.pdf) ContentType.pdf = true := by
        decide
      rw [← Body.looksLikePdf_iff]
      unfold indexBody
      cases hmagic : Body.looksLikePdf bytes with
      | true => simpa using hpdf
      | false => simp [hundeclared]

variable {request : IndexRequest} {bytes : Bytes}

theorem get?_language_indexedDocument (taggedText : Option Text) :
    (indexedDocument readers request bytes taggedText).parseMeta.get? Key.language =
      request.language := by
  change (Metadata.empty.setSome Key.language request.language).get? Key.language = _
  rw [Metadata.get?, Metadata.find?_setSome, if_pos rfl]
  cases request.language <;> rfl

theorem find?_heading_indexedDocument (taggedText : Option Text) :
    (indexedDocument readers request bytes taggedText).parseMeta.find? Key.heading = none := by
  change (Metadata.empty.setSome Key.language request.language).find? Key.heading = none
  rw [Metadata.find?_setSome, if_neg (by decide)]
  rfl

variable (s : Settings)

theorem headingFromFonts?_indexedDocument (hpdf : request.IsPdf bytes) (stream : Text) :
    (indexedDocument readers request bytes (some stream)).headingFromFonts? s.heading =
      s.heading.heading? stream request.language := by
  rw [Document.headingFromFonts?,
    if_pos ((isPdf_indexedDocument readers request bytes _).2 hpdf),
    get?_language_indexedDocument readers]
  rfl

theorem find?_heading_parseMeta (hpdf : request.IsPdf bytes) (stream : Text) :
    ((indexedDocument readers request bytes (some stream)).process s .empty).1.parseMeta.find?
        Key.heading =
      (s.heading.heading? stream request.language).map fun h => [h.tagged] := by
  rw [Document.process, Document.find?_parseMeta, Document.parsedValue?_heading,
    headingFromFonts?_indexedDocument readers s hpdf, find?_heading_indexedDocument readers,
    Option.or_none, Option.map_map]
  rfl

/-- The entry has a heading in the text only where the stream gives none. -/
theorem find?_heading_fields (hpdf : request.IsPdf bytes) (stream : Text) :
    let document := indexedDocument readers request bytes (some stream)
    (document.process s .empty).2.find? Key.heading =
      ((s.heading.heading? stream request.language).or (document.headingFromText? s)).map
        fun h => [h.tagged] := by
  intro document
  have hearlier : document.parseMeta.get? Key.heading = none := by
    rw [Metadata.get?, find?_heading_indexedDocument readers]
    rfl
  rw [Document.find?_process_of_other document s .empty (by decide) (by decide),
    Metadata.find?_empty, Option.none_or, Document.newValue?_heading,
    headingFromFonts?_indexedDocument readers s hpdf, hearlier, Option.or_none, ← Option.map_or,
    Option.map_map]
  rfl

theorem run_heading {files : Files} {e : Environment} {config : Option Text}
    (h : loadSettings files config e = .ok s) {path : Text} {tagged : Bytes}
    (htagged : files path = some tagged) (language : Option Text) :
    let printed : OutputFormat → Except Failure Text := fun output =>
      run readers files e ⟨config, .heading path language output⟩
    let heading := (s.heading.heading? (Utf8.decodeLossy tagged) language).map Heading.tagged
    (∃ json, printed .json = .ok json ∧
      printedAt? json ["tagged".toList] = some (.ofOption .string heading)) ∧
    printed .text = .ok (heading.elim [] fun line => line ++ ['\n']) := by
  intro printed heading
  let r := Report.heading (s.heading.heading? (Utf8.decodeLossy tagged) language)
  have hprinted : ∀ output, printed output = .ok (r.render output) := by
    intro output
    simp [printed, r, run_eq, reported_of_settings readers files h, report, fontHeading, readText,
      readFile, htagged, bind, Except.bind, pure, Except.pure, Except.map]
  refine ⟨⟨_, hprinted .json, printedAt?_renderJson r _⟩, ?_⟩
  rw [hprinted]
  exact congrArg Except.ok (renderText_heading _)

end

/-- A tagged stream that goes with a PDF gives the entry the heading that is printed for it alone,
and the derived metadata too. Where none is printed the metadata have none, and the entry has the
one that is found in the text, if any. -/
theorem index_heading_is_reported (readers : Readers) (files : Files) (e : Environment)
    (config : Option Text) (request : IndexRequest) (path : Text) (s : Settings)
    (tagged bytes : Bytes) (hpath : request.tagged = some path)
    (hsettings : loadSettings files config e = .ok s) (htagged : files path = some tagged)
    (hbytes : files request.path = some bytes) :
    let inspecting : OutputFormat → Invocation := fun output =>
      ⟨config, .heading path request.language output⟩
    let indexing : Invocation := ⟨config, .index request⟩
    let document := indexedDocument readers request bytes (some (Utf8.decodeLossy tagged))
    (document.isPdf = true ↔ request.IsPdf bytes) ∧
    (request.IsPdf bytes → ∃ inspected indexed heading parseMeta fields,
      run readers files e (inspecting .json) = .ok inspected ∧
      printedAt? inspected ["tagged".toList] = some (.ofOption .string heading) ∧
      run readers files e (inspecting .text) =
        .ok (heading.elim [] fun line => line ++ ['\n']) ∧
      run readers files e indexing = .ok indexed ∧
      printedMetadata? indexed "parse_meta".toList = some parseMeta ∧
      printedMetadata? indexed "fields".toList = some fields ∧
      (heading = none →
        parseMeta.find? Key.heading = none ∧
        fields.find? Key.heading = (document.headingFromText? s).map fun h => [h.tagged]) ∧
      ∀ line, heading = some line →
        parseMeta.find? Key.heading = some [line] ∧ fields.find? Key.heading = some [line]) := by
  intro inspecting indexing document
  refine ⟨isPdf_indexedDocument readers request bytes _, fun hpdf => ?_⟩
  obtain ⟨⟨inspected, hjson, hread⟩, htext⟩ :=
    run_heading readers s hsettings htagged request.language
  have hindexing := reported_of_settings readers files hsettings (.index request)
  rw [report_index_of_tagged readers files hbytes hpath htagged, index_eq] at hindexing
  obtain ⟨hmeta, hfields⟩ := printedMetadata?_of_index _ _ _ _
  have hparsed := find?_heading_parseMeta readers s hpdf (Utf8.decodeLossy tagged)
  have hentry := find?_heading_fields readers s hpdf (Utf8.decodeLossy tagged)
  refine ⟨inspected, _, _, _, _, hjson, hread, htext, ?_, hmeta, hfields, ?_, ?_⟩
  · rw [run_eq, hindexing]
    rfl
  · intro hnone
    rw [Option.map_eq_none_iff] at hnone
    rw [hparsed, hentry, hnone]
    exact ⟨rfl, rfl⟩
  · intro line hsome
    obtain ⟨h, hfound, rfl⟩ := Option.map_eq_some_iff.1 hsome
    rw [hparsed, hentry, hfound]
    exact ⟨rfl, rfl⟩

/-- A heading in Hebrew, in front of a body that has the mark of a PDF and no declared type. -/
theorem index_heading_is_reported_turned_round :
    let readers := Body.noReaders
    let path : Text := "page.tags".toList
    let tagged := Body.asciiBytes "[0 36.0]ABC"
    let bytes := Body.asciiBytes "%PDF-1.7"
    let files : Files := fun p => some (if p = path then tagged else bytes)
    let e : Environment := fun _ => none
    let request : IndexRequest :=
      ⟨"page.pdf".toList, some path, none, some "he".toList, none, none⟩
    let line : Text := "CBA [from PDF fonts]".toList
    request.tagged = some path ∧ loadSettings files none e = .ok {} ∧ files path = some tagged ∧
    files request.path = some bytes ∧ request.IsPdf bytes ∧
    ∃ inspected indexed parseMeta fields,
      run readers files e ⟨none, .heading path request.language .json⟩ = .ok inspected ∧
      printedAt? inspected ["tagged".toList] = some (.string line) ∧
      run readers files e ⟨none, .heading path request.language .text⟩ = .ok (line ++ ['\n']) ∧
      run readers files e ⟨none, .index request⟩ = .ok indexed ∧
      printedMetadata? indexed "parse_meta".toList = some parseMeta ∧
      printedMetadata? indexed "fields".toList = some fields ∧
      parseMeta.find? Key.heading = some [line] ∧ fields.find? Key.heading = some [line] := by
  intro readers path tagged bytes files e request line
  have hsettings : loadSettings files none e = .ok {} := rfl
  have htagged : files path = some tagged := by decide
  have hbytes : files request.path = some bytes := by decide
  have hpdf : request.IsPdf bytes := by
    unfold IndexRequest.IsPdf
    decide
  have hscan : Span.scan (Utf8.decodeLossy tagged) = [⟨0, ⟨0x42100000⟩, "ABC".toList⟩] := by
    decide +kernel
  have hfound : (HeadingSettings.heading? {} (Utf8.decodeLossy tagged) request.language).map
      Heading.tagged = some line := by
    rw [HeadingSettings.heading?, hscan, HeadingSettings.headingText_singleton _ (by decide)
      (by decide) (by decide) (by decide)]
    decide +kernel
  obtain ⟨inspected, indexed, heading, parseMeta, fields, hjson, hread, htext, hindex, hmeta,
    hfields, -, hsome⟩ :=
    (index_heading_is_reported readers files e none request path {} tagged bytes rfl hsettings
      htagged hbytes).2 hpdf
  obtain ⟨⟨json, hprinted, hline⟩, -⟩ :=
    run_heading readers {} hsettings htagged request.language
  obtain rfl : json = inspected := Except.ok.inj (hprinted.symm.trans hjson)
  rw [hfound] at hline
  obtain rfl : heading = some line :=
    Json.ofOption_string_injective (Option.some.inj (hread.symm.trans hline))
  obtain ⟨hparsed, hentry⟩ := hsome line rfl
  exact ⟨rfl, hsettings, htagged, hbytes, hpdf, json, indexed, parseMeta, fields, hjson, hline,
    htext, hindex, hmeta, hfields, hparsed, hentry⟩

end Command
end Precis
