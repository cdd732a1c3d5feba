import Precis.Body.Basic

/-!
Reading a body. The mark of a PDF counts for more than any declared type, and whichever way the text
is obtained, no replacement character is left in it.
-/

namespace Precis

theorem Text.dropReplacements_dropReplacements (t : Text) :
    t.dropReplacements.dropReplacements = t.dropReplacements := by
  simp [dropReplacements, List.filter_filter]

namespace Body

/-- Readers that find nothing: every PDF is broken and every page is empty. -/
def noReaders : Readers :=
  ⟨fun _ => .error (.extract []), fun _ => []⟩

/-- The body begins as a PDF does, with `%PDF-`. -/
def HasPdfMark (bytes : Bytes) : Prop :=
  [0x25, 0x50, 0x44, 0x46, 0x2D] <+: bytes

instance (bytes : Bytes) : Decidable (HasPdfMark bytes) :=
  inferInstanceAs (Decidable (_ <+: _))

variable (readers : Readers) (bytes : Bytes)

theorem looksLikePdf_iff : looksLikePdf bytes = true ↔ HasPdfMark bytes := by
  have hmark : asciiBytes "%PDF-" = [0x25, 0x50, 0x44, 0x46, 0x2D] := by decide
  rw [looksLikePdf, hmark, List.isPrefixOf_iff_prefix, HasPdfMark]

theorem read_of_hasPdfMark (h : HasPdfMark bytes) (declared declared' : Option Text) :
    read readers bytes declared = read readers bytes declared' := by
  simp [read, (looksLikePdf_iff bytes).2 h]

theorem dropReplacements_text_read (declared : Option Text) :
    (read readers bytes declared).text.dropReplacements = (read readers bytes declared).text := by
  simp only [read]
  split
  · cases readers.pdf bytes with
    | ok text => exact text.dropReplacements_dropReplacements
    | error _ => rfl
  split
  · exact Text.dropReplacements_dropReplacements _
  split
  · exact Text.dropReplacements_dropReplacements _
  · cases Utf8.decode? bytes with
    | some text => exact text.dropReplacements_dropReplacements
    | none => rfl

end Body
end Precis
