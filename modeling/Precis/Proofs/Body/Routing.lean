import Precis.Proofs.Body.Read
import Precis.Proofs.Text.Utf8

/-!
Which way a body is read. The first bytes decide before the declared type, the mark of a PDF before
the opening of a page, and a text without faults is read as it stands whatever else it is declared.
A body is left without an engine exactly if all four ways are closed to it.
-/

namespace Precis

theorem Text.replacement_not_mem_dropReplacements (t : Text) :
    replacement ∉ t.dropReplacements := by
  simp [dropReplacements]

/-- What holds of a body in whichever way it is read. -/
structure BodyText.IsSound (body : BodyText) : Prop where
  clean : Text.replacement ∉ body.text
  text_eq_nil_of_warned : body.warnings ≠ [] → body.text = []
  length_warnings_le : body.warnings.length ≤ 1

theorem BodyText.isSound_of_text (engine : Engine) (text : Text) :
    (BodyText.mk engine text.dropReplacements []).IsSound :=
  ⟨text.replacement_not_mem_dropReplacements, fun h => absurd rfl h, Nat.zero_le 1⟩

theorem BodyText.isSound_of_warning (engine : Engine) (warning : BodyWarning) :
    (BodyText.mk engine [] [warning]).IsSound :=
  ⟨List.not_mem_nil, fun _ => rfl, Nat.le_refl 1⟩

namespace Body

/-- The body is taken for a PDF's by its type or by its first bytes. -/
def TakesPdf (bytes : Bytes) (type : Text) : Prop :=
  type = ContentType.pdf ∨ HasPdfMark bytes

/-- The body is taken for a page by its type or by its first bytes, if it is not a PDF's. -/
def TakesHtml (bytes : Bytes) (type : Text) : Prop :=
  ContentType.isHtml type = true ∨ looksLikeHtml bytes = true

instance (bytes : Bytes) (type : Text) : Decidable (TakesPdf bytes type) :=
  inferInstanceAs (Decidable (_ ∨ _))

instance (bytes : Bytes) (type : Text) : Decidable (TakesHtml bytes type) :=
  inferInstanceAs (Decidable (_ ∨ _))

variable (readers : Readers) (bytes : Bytes) {declared declared' : Option Text}

theorem read_of_looksLikeHtml (hpdf : ¬HasPdfMark bytes)
    (hhtml : looksLikeHtml bytes = true) (h : ContentType.essence declared ≠ ContentType.pdf) :
    read readers bytes declared =
      ⟨.html, (readers.html (Utf8.decodeLossy bytes)).dropReplacements, []⟩ := by
  rw [← looksLikePdf_iff, Bool.not_eq_true] at hpdf
  simp [read, h, hpdf, hhtml]

/-- The two ways of decoding agree on a text without faults, so its type does not choose between
them. -/
theorem read_encode (text : Text) (hpdf : ¬HasPdfMark (Utf8.encode text))
    (hhtml : looksLikeHtml (Utf8.encode text) = false)
    (h : ContentType.essence declared ≠ ContentType.pdf)
    (h' : ContentType.isHtml (ContentType.essence declared) = false) :
    read readers (Utf8.encode text) declared = ⟨.text, text.dropReplacements, []⟩ := by
  have hdecode : Utf8.decode? (Utf8.encode text) = some text := Utf8.decode?_eq_some_iff.2 rfl
  rw [← looksLikePdf_iff, Bool.not_eq_true] at hpdf
  simp [read, h, h', hpdf, hhtml, hdecode, Utf8.decodeLossy_encode]

theorem isSound_read (declared : Option Text) : (read readers bytes declared).IsSound := by
  simp only [read]
  split
  · cases readers.pdf bytes with
    | ok text => exact BodyText.isSound_of_text _ text
    | error _ => exact BodyText.isSound_of_warning _ _
  split
  · exact BodyText.isSound_of_text _ _
  split
  · exact BodyText.isSound_of_text _ _
  · cases Utf8.decode? bytes with
    | some text => exact BodyText.isSound_of_text _ text
    | none => exact BodyText.isSound_of_warning _ _

theorem engine_read_eq_none_iff (declared : Option Text) :
    (read readers bytes declared).engine = .none ↔
      ¬TakesPdf bytes (ContentType.essence declared) ∧
      ¬TakesHtml bytes (ContentType.essence declared) ∧
      ContentType.isTextLike (ContentType.essence declared) = false ∧
      ∀ text, bytes ≠ Utf8.encode text := by
  rw [← Utf8.decode?_eq_none_iff]
  simp only [read, TakesPdf, TakesHtml, ← looksLikePdf_iff, Bool.or_eq_true, beq_iff_eq]
  split
  · next h => cases readers.pdf bytes <;> simp [h]
  · next hpdf =>
    split
    · next h => simp [h]
    · next hhtml =>
      cases ContentType.isTextLike (ContentType.essence declared) with
      | true => simp
      | false => cases Utf8.decode? bytes <;> simp [hpdf, hhtml]

/-- The way a body is read, for any readers of PDFs and of pages. -/
theorem read_routes :
    (HasPdfMark bytes → ∀ declared declared',
      read readers bytes declared = read readers bytes declared') ∧
    (¬HasPdfMark bytes → looksLikeHtml bytes = true → ∀ declared declared',
      ContentType.essence declared ≠ ContentType.pdf →
      ContentType.essence declared' ≠ ContentType.pdf →
        read readers bytes declared = read readers bytes declared') ∧
    (¬HasPdfMark bytes → looksLikeHtml bytes = false →
      ∀ text, bytes = Utf8.encode text → ∀ declared,
      ContentType.essence declared ≠ ContentType.pdf →
      ContentType.isHtml (ContentType.essence declared) = false →
        read readers bytes declared = ⟨.text, text.dropReplacements, []⟩) ∧
    ∀ declared, (read readers bytes declared).IsSound ∧
      ((read readers bytes declared).engine = .none ↔
        ¬TakesPdf bytes (ContentType.essence declared) ∧
        ¬TakesHtml bytes (ContentType.essence declared) ∧
        ContentType.isTextLike (ContentType.essence declared) = false ∧
        ∀ text, bytes ≠ Utf8.encode text) := by
  refine ⟨read_of_hasPdfMark readers bytes, ?_, ?_, fun declared =>
    ⟨isSound_read readers bytes declared, engine_read_eq_none_iff readers bytes declared⟩⟩
  · intro hpdf hhtml declared declared' h h'
    rw [read_of_looksLikeHtml readers bytes hpdf hhtml h,
      read_of_looksLikeHtml readers bytes hpdf hhtml h']
  · rintro hpdf hhtml text rfl declared h h'
    exact read_encode readers text hpdf hhtml h h'

/-- A PDF declared a text, a page behind a blank line declared data, and a letter declared a picture:
each is read as its bytes say. Bytes that are no text have no engine. -/
theorem read_routes_by_bytes :
    let pdf := asciiBytes "%PDF-1.7"
    let page := asciiBytes "\n<Body>Rising seas."
    let letter := Utf8.encode "Grüße".toList
    read noReaders pdf (some "text/plain".toList) = read noReaders pdf none ∧
    (read noReaders pdf none).engine = .pdf ∧
    read noReaders page (some "application/JSON; v=1".toList) =
      read noReaders page none ∧
    read noReaders letter (some "image/png".toList) = ⟨.text, "Grüße".toList, []⟩ ∧
    (read noReaders [0x47, 0xFC] none).engine = .none := by
  have hfault : ∀ text, [0x47, 0xFC] ≠ Utf8.encode text :=
    Utf8.decode?_eq_none_iff.1 (by decide +kernel)
  exact ⟨(read_routes noReaders _).1 (by decide) _ _, by decide,
    (read_routes noReaders _).2.1 (by decide) (by decide) _ _ (by decide) (by decide),
    (read_routes noReaders _).2.2.1 (by decide) (by decide) _ rfl _ (by decide) (by decide),
    ((read_routes noReaders _).2.2.2 _).2.2 ⟨by decide, by decide, by decide, hfault⟩⟩

end Body
end Precis
