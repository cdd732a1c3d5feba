import Precis.Command.Run
import Precis.Proofs.Body.Read
import Precis.Proofs.Text.Words

/-!
The two readings of a declared content type. A body is taken for a PDF's by its type without the
parameters, a document only by its whole type, so they part on every PDF type with parameters and
nowhere else.
-/

namespace Precis

namespace ContentType

theorem isPdf_of_not_mem {type : Text} (h : ';' ∉ type) :
    isPdf (some type) = (Text.asciiLower (Text.trim type) == pdf) := by
  rw [isPdf, essence, Option.getD_some, List.splitOn_eq_singleton h]

end ContentType

namespace Document

theorem isPdf_of_declared {d : Document} {type : Text} (h : d.contentType = some type) :
    d.isPdf = (Text.asciiLower (Text.trim type) == ContentType.pdf) := by
  have hlower : Text.asciiLower ContentType.pdf = ContentType.pdf := by decide
  rw [isPdf, h, Option.any_some, Text.eqIgnoringAsciiCase, hlower]

/-- A semicolon is no white space and no capital, so it is still there when the types are
compared. -/
theorem isPdf_eq_false_of_mem {d : Document} {type : Text} (h : d.contentType = some type)
    (hmem : ';' ∈ type) : d.isPdf = false := by
  have htrim : ';' ∈ Text.trim type := Text.mem_trim (by decide) hmem
  have hlower : ';' ∈ Text.asciiLower (Text.trim type) :=
    List.mem_map.2 ⟨';', htrim, by decide⟩
  rw [isPdf_of_declared h, beq_eq_false_iff_ne]
  intro heq
  rw [heq] at hlower
  exact absurd hlower (by decide)

theorem isPdf_iff_of_declared {d : Document} {type : Text} (h : d.contentType = some type) :
    d.isPdf = true ↔ ContentType.isPdf (some type) = true ∧ ';' ∉ type := by
  by_cases hmem : ';' ∈ type
  · simp [isPdf_eq_false_of_mem h hmem, hmem]
  · simp [isPdf_of_declared h, ContentType.isPdf_of_not_mem hmem, hmem]

theorem isPdf_withParseMetadata (d : Document) (s : HeadingSettings) :
    (d.withParseMetadata s).isPdf = d.isPdf := by
  unfold withParseMetadata
  split <;> rfl

/-- A document is a PDF by its declared type exactly if a body is one by that type and the type has
no parameters. So it is with every document that is indexed, before and after it is parsed. -/
theorem isPdf_iff_without_parameters (type : Text) (d : Document) (s : HeadingSettings)
    (request : Command.IndexRequest) (text : Text) (sniffed taggedText : Option Text) :
    let declared : Document := { d with contentType := some type }
    let indexed := Command.indexDocument { request with contentType := some type } text sniffed
      taggedText
    (declared.isPdf = true ↔ ContentType.isPdf (some type) = true ∧ ';' ∉ type) ∧
    (indexed.isPdf = true ↔ ContentType.isPdf (some type) = true ∧ ';' ∉ type) ∧
    ((indexed.withParseMetadata s).isPdf = true ↔
      ContentType.isPdf (some type) = true ∧ ';' ∉ type) := by
  intro declared indexed
  have hindexed := isPdf_iff_of_declared (show indexed.contentType = some type from rfl)
  refine ⟨isPdf_iff_of_declared rfl, hindexed, ?_⟩
  rw [isPdf_withParseMetadata]
  exact hindexed

/-- A page that is declared a PDF with its version is read as the text of a PDF and indexed as
something else. -/
theorem isPdf_differs_on_parameters :
    let type : Text := "application/pdf; version=1.7".toList
    let page : Text := "<html>Rising seas.".toList
    let request : Command.IndexRequest :=
      ⟨"page.txt".toList, none, some type, none, none, none⟩
    ContentType.isPdf (some type) = true ∧
    Command.indexBody Body.noReaders (Body.asciiBytes (String.ofList page)) (some type) =
      (page, none, []) ∧
    (Command.indexDocument request page none none).isPdf = false := by
  decide +kernel

end Document
end Precis
