import Precis.Proofs.Document.ParseMetadata
import Precis.Proofs.Document.Process
import Precis.Proofs.Heading.FromSpans

/-!
Where the heading of an index entry comes from. The entry's own is kept; after it the heading in the
largest sizes comes first, then one that was derived before, and only then one in the text.
-/

namespace Precis

/-- The two rubrics differ near their ends, so it does not matter what stands before them. -/
theorem Provenance.append_rubric_ne (a b : Text) :
    a ++ Provenance.fonts.rubric ≠ b ++ Provenance.text.rubric := by
  have hfonts : Provenance.fonts.rubric = "[from PDF fon".toList ++ "ts]".toList := by decide
  have htext : Provenance.text.rubric = "[from PDF te".toList ++ "xt]".toList := by decide
  intro heq
  rw [hfonts, htext, ← List.append_assoc, ← List.append_assoc] at heq
  have hend : "ts]".toList = "xt]".toList := List.append_inj_right' heq (by decide)
  exact absurd hend (by decide)

/-- The provenance of a heading can be told from what is stored. -/
theorem Heading.provenance_eq_of_tagged_eq {h h' : Heading} (heq : h.tagged = h'.tagged) :
    h.provenance = h'.provenance := by
  have happend : ∀ (t : Text) (p : Provenance),
      (Heading.mk t p).tagged = (t ++ [' ']) ++ p.rubric := by
    intro t p
    rw [tagged, List.append_assoc, List.singleton_append]
  obtain ⟨t, p⟩ := h
  obtain ⟨t', p'⟩ := h'
  rw [happend, happend] at heq
  cases p with
  | fonts =>
      cases p' with
      | fonts => rfl
      | text => exact absurd heq (Provenance.append_rubric_ne _ _)
  | text =>
      cases p' with
      | fonts => exact absurd heq.symm (Provenance.append_rubric_ne _ _)
      | text => rfl

theorem HeadingSettings.provenance_of_heading? {s : HeadingSettings} {stream : Text}
    {language : Option Text} {h : Heading} (hh : s.heading? stream language = some h) :
    h.provenance = .fonts := by
  simp only [heading?] at hh
  split at hh
  · simp at hh
  · split at hh
    · rw [← Option.some.inj hh]
    · rw [← Option.some.inj hh]

namespace Document

theorem provenance_of_headingFromFonts? {d : Document} {s : HeadingSettings} {h : Heading}
    (hh : d.headingFromFonts? s = some h) : h.provenance = .fonts := by
  unfold headingFromFonts? at hh
  split at hh
  · obtain ⟨stream, -, hstream⟩ := Option.bind_eq_some_iff.1 hh
    exact HeadingSettings.provenance_of_heading? hstream
  · simp at hh

theorem headingFromText?_withParseMetadata (d : Document) (s : Settings) :
    (d.withParseMetadata s.heading).headingFromText? s = d.headingFromText? s := by
  rw [headingFromText?, isPdf_withParseMetadata, text_withParseMetadata, headingFromText?]

theorem newValue?_heading (d : Document) (s : Settings) :
    (d.withParseMetadata s.heading).newValue? s Key.heading =
      (((d.headingFromFonts? s.heading).map Heading.tagged).or
        (d.parseMeta.get? Key.heading)).or ((d.headingFromText? s).map Heading.tagged) := by
  rw [newValue?, if_pos (by decide), get?_parseMeta, parsedValue?_heading, textValue?, if_pos rfl,
    headingFromText?_withParseMetadata]

/-- A heading is taken from the first place that has one: the entry, the largest sizes, the derived
metadata, the text. So a heading in the text is never used where the sizes give one. -/
theorem process_heading_precedence (d : Document) (s : Settings) (fields : Metadata) :
    let entry := (d.process s fields).2
    let fromFonts : Option Heading :=
      if d.isPdf then
        d.taggedText.bind fun stream => s.heading.heading? stream (d.parseMeta.get? Key.language)
      else none
    let fromText : Option Heading :=
      if d.isPdf ∧ s.filter.textHeadingMinChars.toNat < d.text.length then
        s.summary.heading? (d.text.filter fun c => c ≠ '\uFFFD')
      else none
    entry.find? Key.heading =
      (fields.find? Key.heading).or
        ((((fromFonts.map Heading.tagged).or (d.parseMeta.get? Key.heading)).or
          (fromText.map Heading.tagged)).map fun value => [value]) ∧
    ∀ h, fields.find? Key.heading = none → fromFonts = some h →
      entry.find? Key.heading = some [h.tagged] ∧
        ∀ h' : Heading, h'.provenance = .text → entry.find? Key.heading ≠ some [h'.tagged] := by
  intro entry fromFonts fromText
  have hentry : entry.find? Key.heading = (fields.find? Key.heading).or
      ((((fromFonts.map Heading.tagged).or (d.parseMeta.get? Key.heading)).or
        (fromText.map Heading.tagged)).map fun value => [value]) := by
    rw [find?_process_of_other d s fields (by decide) (by decide), newValue?_heading]
    rfl
  refine ⟨hentry, fun h hnone hfonts => ?_⟩
  have hvalue : entry.find? Key.heading = some [h.tagged] := by
    rw [hentry, hnone, hfonts]
    rfl
  refine ⟨hvalue, fun h' htext heq => ?_⟩
  rw [hvalue, Option.some_inj, List.singleton_inj] at heq
  have hprovenance := Heading.provenance_eq_of_tagged_eq heq
  rw [provenance_of_headingFromFonts? hfonts, htext] at hprovenance
  exact absurd hprovenance (by decide)

/-- A PDF whose derived metadata still hold a heading from its text, and one that has nothing but its
text. -/
theorem process_heading_precedence_text_last :
    let s : Settings := { filter := { textHeadingMinChars := 20 } }
    let body : Text := "Contents of\uFFFD this page".toList
    let stale : Heading := ⟨"Contents of this page".toList, .text⟩
    let found : Heading := ⟨"Annual Report".toList, .fonts⟩
    let pdf : Document :=
      ⟨[], some ContentType.pdf, body, some "[0 36.0]Annual Report".toList, .empty,
        Metadata.empty.set Key.heading stale.tagged⟩
    let bare : Document := { pdf with taggedText := none, parseMeta := .empty }
    let entry := (pdf.process s .empty).2
    Metadata.empty.find? Key.heading = none ∧ pdf.isPdf = true ∧
    s.heading.heading? "[0 36.0]Annual Report".toList none = some found ∧
    entry.find? Key.heading = some ["Annual Report [from PDF fonts]".toList] ∧
    entry.find? Key.heading ≠ some [stale.tagged] ∧
    (bare.process s .empty).2.find? Key.heading =
      some ["Contents of this page [from PDF text]".toList] := by
  intro s body stale found pdf bare entry
  have hscan : Span.scan "[0 36.0]Annual Report".toList =
      [⟨0, ⟨0x42100000⟩, "Annual Report".toList⟩] := by decide +kernel
  have hfonts : s.heading.heading? "[0 36.0]Annual Report".toList none = some found := by
    rw [HeadingSettings.heading?, hscan, HeadingSettings.headingText_singleton _ (by decide)
      (by decide) (by decide) (by decide)]
    decide +kernel
  obtain ⟨hvalue, hother⟩ := (process_heading_precedence pdf s .empty).2 found rfl hfonts
  refine ⟨rfl, rfl, hfonts, hvalue, hother stale rfl, ?_⟩
  obtain ⟨hentry, -⟩ := process_heading_precedence bare s .empty
  rw [hentry]
  decide +kernel

end Document
end Precis
