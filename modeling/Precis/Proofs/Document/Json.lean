import Precis.Document.Json
import Precis.Heading.Json
import Precis.Proofs.Metadata.Json

/-!
Headings and documents read back. An object may be edited as long as it keeps every field that has
to be given; a field that may be null is absent if it is left out, whatever it was.
-/

namespace Precis

open Json (Edit unlessDeleted)

variable {deleted : List Text} {json : Json}

theorem Provenance.ofJson?_toJson (p : Provenance) : ofJson? p.toJson = some p := by
  cases p <;> decide

theorem Json.toText?_string (t : Text) : toText? (.string t) = some t := rfl

namespace Heading

theorem ofJson?_of_edit (h : Heading) (hedit : Edit fieldNames deleted h.toJson json) :
    ofJson? json = if fieldNames.any deleted.contains then none else some h := by
  obtain ⟨r, hrecord, hr⟩ := hedit.exists_record rfl (by decide)
  have htext := hr.required?_eq "text" (by simp) (Json.toText?_string h.text)
  have hprovenance := hr.required?_eq "provenance" (by simp) h.provenance.ofJson?_toJson
  rw [ofJson?, hrecord]
  simp only [bind, Option.bind_some, htext, hprovenance, fieldNames, List.map_cons, List.map_nil,
    List.any_cons, List.any_nil]
  cases deleted.contains "text".toList <;> cases deleted.contains "provenance".toList <;> rfl

theorem readable_toJson (h : Heading) : h.toJson.Readable := by
  simp [toJson, Provenance.toJson, Json.readable_object_iff, Json.Readable.string]

end Heading

namespace Document

/-- The fields that have to be given. -/
def requiredNames : List Text :=
  ["url", "text", "doc_meta", "parse_meta"].map String.toList

def optionalFields (d : Document) : List (Text × Option Text) :=
  [("content_type".toList, d.contentType), ("tagged_text".toList, d.taggedText)]

/-- The fields that are written as null. -/
def nullNames (d : Document) : List Text :=
  (d.optionalFields.filter fun f => f.2.isNone).map Prod.fst

/-- The document without the optional fields that are deleted. -/
def without (d : Document) (deleted : List Text) : Document :=
  { d with
    contentType := unlessDeleted deleted "content_type" d.contentType none
    taggedText := unlessDeleted deleted "tagged_text" d.taggedText none }

theorem ofJson?_of_edit (d : Document) (hedit : Edit fieldNames deleted d.toJson json) :
    ofJson? json =
      if requiredNames.any deleted.contains then none else some (d.without deleted) := by
  obtain ⟨r, hrecord, hr⟩ := hedit.exists_record rfl (by decide)
  have hread : ∀ t : Text, Json.string t ≠ .null ∧ Json.toText? (.string t) = some t :=
    fun t => ⟨nofun, rfl⟩
  have hurl := hr.required?_eq "url" (by simp) (Json.toText?_string d.url)
  have hcontentType := hr.optional?_eq (a := d.contentType) "content_type" (by simp) hread
  have htext := hr.required?_eq "text" (by simp) (Json.toText?_string d.text)
  have htaggedText := hr.optional?_eq (a := d.taggedText) "tagged_text" (by simp) hread
  have hreaderMeta := hr.required?_eq "doc_meta" (by simp) d.readerMeta.ofJson?_toJson
  have hparseMeta := hr.required?_eq "parse_meta" (by simp) d.parseMeta.ofJson?_toJson
  rw [ofJson?, hrecord]
  simp only [bind, Option.bind_some, hurl, hcontentType, htext, htaggedText, hreaderMeta,
    hparseMeta, requiredNames, List.map_cons, List.map_nil, List.any_cons, List.any_nil]
  cases deleted.contains "url".toList <;> cases deleted.contains "text".toList <;>
    cases deleted.contains "doc_meta".toList <;> cases deleted.contains "parse_meta".toList <;> rfl

theorem mem_nullNames_iff {d : Document} {name : Text} :
    name ∈ d.nullNames ↔ (name, none) ∈ d.optionalFields := by
  simp [nullNames]

theorem unlessDeleted_of_null {d : Document} (h : ∀ name ∈ deleted, name ∈ d.nullNames)
    {name : String} {a : Option Text} (ha : (name.toList, a) ∈ d.optionalFields) :
    unlessDeleted deleted name a none = a := by
  rw [unlessDeleted]
  split
  · next hmem =>
    have hkeys : (d.optionalFields.map Prod.fst).Nodup := by simp [optionalFields]
    have hnull := mem_nullNames_iff.1 (h name.toList (by simpa using hmem))
    exact congrArg Prod.snd (List.inj_on_of_nodup_map hkeys hnull ha rfl)
  · rfl

theorem without_of_null {d : Document} (h : ∀ name ∈ deleted, name ∈ d.nullNames) :
    d.without deleted = d := by
  rw [without, unlessDeleted_of_null h (by simp [optionalFields]),
    unlessDeleted_of_null h (by simp [optionalFields])]

theorem not_mem_nullNames {d : Document} {name : Text} (h : name ∈ requiredNames) :
    name ∉ d.nullNames := by
  intro hnull
  have hdisjoint : ∀ name ∈ requiredNames, name ≠ "content_type".toList ∧
      name ≠ "tagged_text".toList := by decide
  have hoptional := mem_nullNames_iff.1 hnull
  simp only [optionalFields, List.mem_cons, Prod.mk.injEq, List.not_mem_nil, or_false] at hoptional
  rcases hoptional with ⟨rfl, -⟩ | ⟨rfl, -⟩
  · exact (hdisjoint _ h).1 rfl
  · exact (hdisjoint _ h).2 rfl

theorem ofJson?_of_null_deleted {d : Document} (hedit : Edit fieldNames deleted d.toJson json)
    (h : ∀ name ∈ deleted, name ∈ d.nullNames) : ofJson? json = some d := by
  have hkept : requiredNames.any deleted.contains = false := by
    refine List.any_eq_false.2 fun name hname hmem => not_mem_nullNames hname (h name ?_)
    simpa using hmem
  rw [ofJson?_of_edit d hedit, hkept, without_of_null h]
  rfl

theorem readable_toJson (d : Document) : d.toJson.Readable := by
  have hoption : ∀ t : Option Text, (Json.ofOption .string t).Readable := by
    rintro (_ | t)
    · exact .null
    · exact .string t
  simp [toJson, Json.readable_object_iff, Json.Readable.string, hoption,
    Metadata.readable_toJson]

/-- What was written is read back, also if the members of metadata are moved, and the members of
headings and documents are moved and foreign ones are put between them. Fields that are null may be
left out; any other field that may be null is absent then, and without a field that has to be given
nothing can be read. -/
theorem written_is_read_back (m : Metadata) (h : Heading) (d : Document) :
    (∀ entries : List (Text × List Text), entries.Perm m.toList →
      Metadata.ofJson? (.object (entries.map Metadata.member)) = some m) ∧
    (∀ deleted json, Edit Heading.fieldNames deleted h.toJson json →
      Heading.ofJson? json =
        if Heading.fieldNames.any deleted.contains then none else some h) ∧
    (∀ deleted json, Edit fieldNames deleted d.toJson json →
      ((∀ name ∈ deleted, name ∈ d.nullNames) → ofJson? json = some d) ∧
      ofJson? json =
        if requiredNames.any deleted.contains then none else some (d.without deleted)) ∧
    (Json.ofText? m.toJson.render).bind Metadata.ofJson? = some m ∧
    (Json.ofText? h.toJson.render).bind Heading.ofJson? = some h ∧
    (Json.ofText? d.toJson.render).bind ofJson? = some d := by
  refine ⟨fun _ => Metadata.ofJson?_of_perm, fun _ _ => h.ofJson?_of_edit,
    fun _ _ hedit => ⟨ofJson?_of_null_deleted hedit, d.ofJson?_of_edit hedit⟩, ?_, ?_, ?_⟩
  · rw [Json.ofText?_render m.readable_toJson, Option.bind_some, m.ofJson?_toJson]
  · rw [Json.ofText?_render h.readable_toJson, Option.bind_some]
    exact h.ofJson?_of_edit .refl
  · rw [Json.ofText?_render d.readable_toJson, Option.bind_some]
    exact ofJson?_of_null_deleted .refl (by simp)

/-- All members stand the other way round behind a foreign one, and the document has no type to
write. -/
theorem written_is_read_back_turned_round :
    let m : Metadata :=
      .ofList [("title".toList, ["Tides".toList, "Ebb".toList]), ("lang".toList, [])]
    let h : Heading := ⟨"Rising tides".toList, .text⟩
    let d : Document :=
      ⟨"tides.txt".toList, none, "Tides.".toList, some "[0 9.5]Tides".toList, .empty, m⟩
    let heading : List (Text × Json) := [("rank".toList, .natural 1),
      ("provenance".toList, h.provenance.toJson), ("text".toList, .string h.text)]
    let document : List (Text × Json) := [("Url".toList, .null), ("parse_meta".toList, m.toJson),
      ("doc_meta".toList, .object []), ("tagged_text".toList, .string "[0 9.5]Tides".toList),
      ("text".toList, .string d.text), ("url".toList, .string d.url)]
    Metadata.ofJson? (.object (m.toList.reverse.map Metadata.member)) = some m ∧
    Edit Heading.fieldNames [] h.toJson (.object heading) ∧
    Heading.ofJson? (.object heading) = some h ∧
    Edit fieldNames ["content_type".toList] d.toJson (.object document) ∧
    "content_type".toList ∈ d.nullNames ∧ ofJson? (.object document) = some d := by
  intro m h d heading document
  have hheading : Edit Heading.fieldNames [] h.toJson (.object heading) := by
    have hforeign : ∀ f ∈ [("rank".toList, Json.natural 1)], f.1 ∉ Heading.fieldNames := by
      simp [Heading.fieldNames]
    exact .object hforeign (List.reverse_perm heading).symm
  have hdocument : Edit fieldNames ["content_type".toList] d.toJson (.object document) := by
    have hforeign : ∀ f ∈ [("Url".toList, Json.null)], f.1 ∉ fieldNames := by
      simp [fieldNames]
    exact .object hforeign (List.reverse_perm document).symm
  have hnull : "content_type".toList ∈ d.nullNames := by decide
  obtain ⟨hmetadata, hheadings, hdocuments, -⟩ := written_is_read_back m h d
  exact ⟨hmetadata _ (List.reverse_perm _), hheading, hheadings [] _ hheading, hdocument,
    hnull, (hdocuments _ _ hdocument).1 (by simpa using hnull)⟩

/-- A declared type that is left out is no error: the document is read without a type. -/
theorem content_type_left_out_is_read :
    let d : Document :=
      ⟨"tides.pdf".toList, some "application/pdf".toList, "Tides.".toList, none, .empty, .empty⟩
    let json : Json := .object [("url".toList, .string "tides.pdf".toList),
      ("text".toList, .string "Tides.".toList), ("tagged_text".toList, .null),
      ("doc_meta".toList, .object []), ("parse_meta".toList, .object [])]
    "content_type".toList ∈ fieldNames ∧ "content_type".toList ∉ d.nullNames ∧
    Edit fieldNames ["content_type".toList] d.toJson json ∧
    ofJson? json = some { d with contentType := none } := by
  intro d json
  have hedit : Edit fieldNames ["content_type".toList] d.toJson json := by
    have hforeign : ∀ m ∈ ([] : List (Text × Json)), m.1 ∉ fieldNames := by simp
    exact .object hforeign (.refl _)
  refine ⟨by decide, by decide, hedit, ?_⟩
  rw [d.ofJson?_of_edit hedit]
  rfl

end Document
end Precis
