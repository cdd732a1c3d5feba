import Precis.Document.Process
import Precis.Proofs.ContentType
import Precis.Proofs.Metadata.Extensional
import Precis.Proofs.Metadata.Fill

/-!
What parsing does to a document. It sets three keys of the derived metadata and reads none of them,
so a document that was parsed before comes out as it went in.
-/

namespace Precis.Document

/-- The heading that the largest sizes of the first page give. -/
def headingFromFonts? (d : Document) (s : HeadingSettings) : Option Heading :=
  if d.isPdf then
    d.taggedText.bind fun stream => s.heading? stream (d.parseMeta.get? Key.language)
  else none

/-- What parsing sets a key to. -/
def parsedValue? (d : Document) (s : HeadingSettings) (key : Text) : Option Text :=
  if d.isPdf then
    if key = Key.heading then d.fontHeading? s
    else if key = Key.pages then d.pages?
    else if key = Key.lastModified then d.date?
    else none
  else none

/-- The documents agree in all that parsing reads: not in what was derived from them before, but for
the language. -/
structure SameSources (d d' : Document) : Prop where
  isPdf : d'.isPdf = d.isPdf
  taggedText : d'.taggedText = d.taggedText
  text : d'.text = d.text
  readerMeta : d'.readerMeta = d.readerMeta
  language : d'.parseMeta.get? Key.language = d.parseMeta.get? Key.language

theorem SameSources.refl (d : Document) : SameSources d d :=
  ⟨rfl, rfl, rfl, rfl, rfl⟩

section

variable (d : Document) (s : HeadingSettings)

theorem parsedValue?_heading :
    d.parsedValue? s Key.heading = (d.headingFromFonts? s).map Heading.tagged := by
  unfold parsedValue? headingFromFonts?
  cases d.isPdf <;> rfl

theorem parsedValue?_of_not_mem {key : Text} (h : key ∉ handedOver) :
    d.parsedValue? s key = none := by
  simp only [handedOver, List.mem_cons, List.not_mem_nil, or_false, not_or] at h
  simp [parsedValue?, h]

theorem find?_parseMeta (key : Text) :
    (d.withParseMetadata s).parseMeta.find? key =
      ((d.parsedValue? s key).map fun v => [v]).or (d.parseMeta.find? key) := by
  have hph : Key.pages ≠ Key.heading := by decide
  have hlh : Key.lastModified ≠ Key.heading := by decide
  have hlp : Key.lastModified ≠ Key.pages := by decide
  unfold withParseMetadata parsedValue?
  cases d.isPdf with
  | false => rfl
  | true =>
      simp only [if_true, Metadata.find?_setSome]
      by_cases hh : key = Key.heading
      · simp [hh, hph.symm, hlh.symm]
      by_cases hp : key = Key.pages
      · simp [hp, hph, hlp.symm]
      by_cases hl : key = Key.lastModified
      · simp [hl, hlh, hlp]
      · simp [hh, hp, hl]

theorem get?_parseMeta (key : Text) :
    (d.withParseMetadata s).parseMeta.get? key =
      (d.parsedValue? s key).or (d.parseMeta.get? key) := by
  rw [Metadata.get?, find?_parseMeta]
  cases d.parsedValue? s key <;> rfl

theorem withParseMetadata_eq :
    d.withParseMetadata s = { d with parseMeta := (d.withParseMetadata s).parseMeta } := by
  unfold withParseMetadata
  cases d.isPdf <;> rfl

theorem text_withParseMetadata : (d.withParseMetadata s).text = d.text := by
  rw [withParseMetadata_eq]

/-- Parsing finds the same in both documents, whatever was derived from them before. -/
theorem SameSources.parsedValue?_eq {d d' : Document} (h : SameSources d d') (s : HeadingSettings)
    (key : Text) : d'.parsedValue? s key = d.parsedValue? s key := by
  have hfonts : d'.fontHeading? s = d.fontHeading? s := by
    rw [fontHeading?, h.taggedText, h.language, fontHeading?]
  have hpages : d'.pages? = d.pages? := by
    rw [pages?, h.readerMeta, h.text, pages?]
  have hdate : d'.date? = d.date? := by
    rw [date?, h.readerMeta, date?]
  rw [parsedValue?, h.isPdf, hfonts, hpages, hdate, parsedValue?]

theorem sameSources_withParseMetadata : SameSources d (d.withParseMetadata s) where
  isPdf := isPdf_withParseMetadata d s
  taggedText := by rw [withParseMetadata_eq]
  text := text_withParseMetadata d s
  readerMeta := by rw [withParseMetadata_eq]
  language := by rw [get?_parseMeta, parsedValue?_of_not_mem d s (by decide), Option.none_or]

/-- A document that is parsed already stays as it is. -/
theorem withParseMetadata_withParseMetadata :
    (d.withParseMetadata s).withParseMetadata s = d.withParseMetadata s := by
  have hmeta : ((d.withParseMetadata s).withParseMetadata s).parseMeta =
      (d.withParseMetadata s).parseMeta := by
    apply Metadata.ext_find?
    intro key
    rw [find?_parseMeta (d.withParseMetadata s), (sameSources_withParseMetadata d s).parsedValue?_eq,
      find?_parseMeta]
    cases d.parsedValue? s key <;> rfl
  rw [withParseMetadata_eq (d.withParseMetadata s), hmeta]

end

/-- Parsing changes nothing about a document that is no PDF, and of a PDF nothing but three keys of
its derived metadata. Each of them gets one value or is left as it was; the value comes from what
parsing reads, so documents that agree in that get the same one over whatever they had before. -/
theorem parsing_sets_derived_keys (d : Document) (s : HeadingSettings) :
    let parsed := d.withParseMetadata s
    (d.isPdf = false → parsed = d) ∧
    parsed = { d with parseMeta := parsed.parseMeta } ∧
    (∀ key, key ∉ [Key.heading, Key.pages, Key.lastModified] →
      parsed.parseMeta.find? key = d.parseMeta.find? key) ∧
    (∀ key ∈ [Key.heading, Key.pages, Key.lastModified], ∀ d', SameSources d d' →
      (d'.withParseMetadata s).parseMeta.find? key =
        ((d.parsedValue? s key).map fun value => [value]).or (d'.parseMeta.find? key)) ∧
    parsed.withParseMetadata s = parsed := by
  intro parsed
  refine ⟨fun hplain => ?_, withParseMetadata_eq d s, fun key hkey => ?_, fun key _ d' h => ?_,
    withParseMetadata_withParseMetadata d s⟩
  · simp [parsed, withParseMetadata, hplain]
  · rw [find?_parseMeta, parsedValue?_of_not_mem d s hkey, Option.map_none, Option.none_or]
  · rw [find?_parseMeta, h.parsedValue?_eq]

/-- A page that is no PDF, and one PDF before and after another reader counted its pages and found a
heading. -/
theorem parsing_sets_derived_keys_stale_pages :
    let plain : Document := ⟨[], some "text/plain".toList, "Tides.".toList, none, .empty, .empty⟩
    let pdf : Document := { plain with
      contentType := some ContentType.pdf
      readerMeta := Metadata.empty.set Key.reportedPages "12".toList }
    let stale : Document := { pdf with
      parseMeta := ((Metadata.empty.set Key.heading "Low Water".toList).set Key.pages
        "3".toList).add Key.pages "4".toList }
    plain.isPdf = false ∧ plain.withParseMetadata {} = plain ∧ SameSources stale pdf ∧
    (stale.withParseMetadata {}).parseMeta.find? Key.pages = some ["12".toList] ∧
    (pdf.withParseMetadata {}).parseMeta.find? Key.pages = some ["12".toList] ∧
    (stale.withParseMetadata {}).parseMeta.find? Key.heading = some ["Low Water".toList] ∧
    Key.language ∉ [Key.heading, Key.pages, Key.lastModified] ∧
    (stale.withParseMetadata {}).parseMeta.find? Key.language = none := by
  intro plain pdf stale
  have hplain : plain.isPdf = false := by decide
  have hsources : SameSources stale pdf := ⟨rfl, rfl, rfl, rfl, by decide⟩
  have hlanguage : Key.language ∉ [Key.heading, Key.pages, Key.lastModified] := by decide
  have hpages : stale.parsedValue? {} Key.pages = some "12".toList := by decide +kernel
  have hheading : stale.parsedValue? {} Key.heading = none := by decide
  obtain ⟨hkept, -⟩ := parsing_sets_derived_keys plain {}
  obtain ⟨-, -, hother, hset, -⟩ := parsing_sets_derived_keys stale {}
  refine ⟨hplain, hkept hplain, hsources, ?_, ?_, ?_, hlanguage, ?_⟩
  · rw [hset Key.pages (by decide) stale (.refl stale), hpages]
    rfl
  · rw [hset Key.pages (by decide) pdf hsources, hpages]
    rfl
  · rw [hset Key.heading (by decide) stale (.refl stale), hheading]
    decide
  · rw [hother Key.language hlanguage]
    decide

end Precis.Document
