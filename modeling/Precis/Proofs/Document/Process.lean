import Precis.Document.Process
import Precis.Proofs.Document.IndexFields

/-!
The index entry of a document beside the one that it started from. What the entry has is never
written over: absent keys are filled in, lengths are put behind those recorded before, and
descriptions are left alone unless the one that counts has no text.
-/

namespace Precis.Document

open Metadata (descriptionKeys)

section

variable (d : Document) (s : Settings) (fields : Metadata)

/-- What a parsed document gives for a key that its entry lacks. What was derived from it is
preferred to what its text gives. -/
def newValue? (key : Text) : Option Text :=
  (if key ∈ handedOver then d.parseMeta.get? key else none).or (d.textValue? s key)

/-- The keys under which an entry may get its first value. -/
def derivedKeys : List Text :=
  [Key.heading, Key.pages, Key.lastModified, Key.summary, Key.contentLength, Key.titleLength,
    Key.headingLength, Key.anchorLength]

theorem find?_handOver (key : Text) :
    (d.handOver fields).find? key =
      if key ∈ handedOver then (fields.find? key).or ((d.parseMeta.get? key).map fun v => [v])
      else fields.find? key :=
  fields.find?_fillAll d.parseMeta.get? handedOver key

theorem find?_handOver_of_description {key : Text} (h : key ∈ descriptionKeys) :
    (d.handOver fields).find? key = fields.find? key := by
  have hdisjoint : ∀ k ∈ descriptionKeys, k ∉ handedOver := by decide
  rw [find?_handOver, if_neg (hdisjoint key h)]

theorem isDescribed_handOver : (d.handOver fields).IsDescribed ↔ fields.IsDescribed :=
  Metadata.isDescribed_congr fun _ hkey => find?_handOver_of_description d fields hkey

theorem find?_process_of_description {key : Text} (h : key ∈ descriptionKeys) :
    (d.process s fields).2.find? key =
      if fields.IsDescribed then fields.find? key
      else if key = Key.summary then
        ((d.withParseMetadata s.heading).newSummary? s).map fun v => [v]
      else none := by
  simp only [process, find?_indexFields_of_description _ _ _ h, isDescribed_handOver,
    find?_handOver_of_description _ _ h]

theorem find?_process_of_measured {key source : Text} (h : (key, source) ∈ measuredKeys) :
    (d.process s fields).2.find? key =
      some (fields.values key ++
        [Text.ofNat ((d.process s fields).2.joinedLength source)]) := by
  have hdisjoint : ∀ p ∈ measuredKeys, p.1 ∉ handedOver := by decide
  simp only [process, find?_indexFields_of_measured _ _ _ h, Metadata.values, find?_handOver,
    if_neg (hdisjoint _ h)]

theorem find?_process_of_other {key : Text} (hdescription : key ∉ descriptionKeys)
    (hlength : key ∉ lengthKeys) :
    (d.process s fields).2.find? key =
      (fields.find? key).or
        (((d.withParseMetadata s.heading).newValue? s key).map fun v => [v]) := by
  simp only [process, find?_indexFields_of_other _ _ _ hdescription hlength, find?_handOver,
    newValue?]
  split
  · rw [Option.or_assoc, Option.map_or]
  · rw [Option.none_or]

theorem mem_derivedKeys_of_newValue? {key value : Text} (h : d.newValue? s key = some value) :
    key ∈ derivedKeys := by
  rw [newValue?, Option.or_eq_some_iff] at h
  rcases h with hparsed | ⟨-, htext⟩
  · have hall : ∀ key ∈ handedOver, key ∈ derivedKeys := by decide
    refine hall key ?_
    by_contra hkey
    simp [hkey] at hparsed
  · unfold textValue? at htext
    split at htext
    · next heq => simp [heq, derivedKeys]
    · split at htext
      · next heq => simp [heq.1, derivedKeys]
      · simp at htext

theorem find?_process_of_mem_lengthKeys {key : Text} (h : key ∈ lengthKeys) :
    ∃ length, (d.process s fields).2.find? key = some (fields.values key ++ [length]) := by
  obtain ⟨⟨key, source⟩, hmem, rfl⟩ := List.mem_map.1 h
  exact ⟨_, find?_process_of_measured d s fields hmem⟩

theorem mem_derivedKeys_of_new {key : Text} {values : List Text} (hnone : fields.find? key = none)
    (hvalues : (d.process s fields).2.find? key = some values) :
    key ∈ derivedKeys ∧ ∃ value, values = [value] := by
  by_cases hlength : key ∈ lengthKeys
  · obtain ⟨length, hmeasured⟩ := find?_process_of_mem_lengthKeys d s fields hlength
    have hall : ∀ key ∈ lengthKeys, key ∈ derivedKeys := by decide
    rw [hmeasured, Metadata.values, hnone, Option.some_inj] at hvalues
    exact ⟨hall key hlength, length, hvalues.symm⟩
  by_cases hdescription : key ∈ descriptionKeys
  · rw [find?_process_of_description d s fields hdescription, hnone, Option.ite_none_left_eq_some,
      Option.ite_none_right_eq_some, Option.map_eq_some_iff] at hvalues
    obtain ⟨-, rfl, value, -, rfl⟩ := hvalues
    exact ⟨by decide, value, rfl⟩
  · rw [find?_process_of_other d s fields hdescription hlength, hnone, Option.none_or,
      Option.map_eq_some_iff] at hvalues
    obtain ⟨value, hvalue, rfl⟩ := hvalues
    exact ⟨mem_derivedKeys_of_newValue? _ s hvalue, value, rfl⟩

end

/-- An entry keeps what it has. Only a description without text gives way to a new summary, only
lengths are recorded again, and a key that is new has one value. -/
theorem process_keeps_fields (d : Document) (s : Settings) (fields : Metadata) :
    let entry := (d.process s fields).2
    let descriptions := [Key.summary, Key.description, Key.twitterDescription]
    let lengths := [Key.titleLength, Key.headingLength, Key.anchorLength]
    (∀ key values, key ∉ descriptions → key ∉ lengths →
      fields.find? key = some values → entry.find? key = some values) ∧
    (∀ key ∈ lengths, ∃ length, entry.find? key = some (fields.values key ++ [length])) ∧
    (fields.IsDescribed → ∀ key ∈ descriptions, entry.find? key = fields.find? key) ∧
    (¬ fields.IsDescribed →
      entry.find? Key.description = none ∧ entry.find? Key.twitterDescription = none ∧
      (entry.find? Key.summary = none ∨ ∃ summary, entry.find? Key.summary = some [summary])) ∧
    ∀ key values, fields.find? key = none → entry.find? key = some values →
      key ∈ [Key.heading, Key.pages, Key.lastModified, Key.summary, Key.contentLength,
        Key.titleLength, Key.headingLength, Key.anchorLength] ∧ ∃ value, values = [value] := by
  intro entry descriptions lengths
  refine ⟨?_, fun _ => find?_process_of_mem_lengthKeys d s fields, ?_, ?_,
    fun _ _ => mem_derivedKeys_of_new d s fields⟩
  · intro key values hdescription hlength hvalues
    rw [find?_process_of_other d s fields hdescription hlength, hvalues, Option.some_or]
  · intro hdescribed key hkey
    rw [find?_process_of_description d s fields hkey, if_pos hdescribed]
  · intro hdescribed
    have herased : ∀ key ∈ descriptionKeys, key ≠ Key.summary → entry.find? key = none := by
      intro key hkey hne
      rw [find?_process_of_description d s fields hkey, if_neg hdescribed, if_neg hne]
    refine ⟨herased _ (by decide) (by decide), herased _ (by decide) (by decide), ?_⟩
    rw [find?_process_of_description d s fields (by decide), if_neg hdescribed, if_pos rfl]
    cases (d.withParseMetadata s.heading).newSummary? s with
    | none => exact .inl rfl
    | some summary => exact .inr ⟨summary, rfl⟩

/-- An entry with a page count and a summary of its own, and one whose description has no text. -/
theorem process_keeps_fields_given_and_bare :
    let pdf : Document :=
      ⟨[], some ContentType.pdf, "Plain text of the page.".toList, none, .empty, .empty⟩
    let given := ((Metadata.empty.set Key.pages "7".toList).set Key.titleLength "4".toList).set
      Key.summary "Words of the publisher.".toList
    let bare := Metadata.empty.set Key.description []
    let entry := (pdf.process {} given).2
    entry.find? Key.pages = some ["7".toList] ∧
    (∃ length, entry.find? Key.titleLength = some ["4".toList, length]) ∧
    given.IsDescribed ∧ entry.find? Key.summary = given.find? Key.summary ∧
    ¬ bare.IsDescribed ∧ (pdf.process {} bare).2.find? Key.description = none ∧
    given.find? Key.anchorLength = none ∧
    ∃ length, entry.find? Key.anchorLength = some [length] ∧ Key.anchorLength ∈ derivedKeys := by
  intro pdf given bare entry
  obtain ⟨hkept, hmeasured, hdescribed, -, hnew⟩ := process_keeps_fields pdf {} given
  obtain ⟨-, -, -, hbare, -⟩ := process_keeps_fields pdf {} bare
  have hgiven : given.IsDescribed := by decide
  have hnone : given.find? Key.anchorLength = none := by decide
  have hempty : ¬ bare.IsDescribed := by decide
  have hpages : entry.find? Key.pages = some ["7".toList] :=
    hkept Key.pages ["7".toList] (by decide) (by decide) (by decide)
  obtain ⟨anchorLength, hanchor⟩ := hmeasured Key.anchorLength (by decide)
  obtain ⟨hmem, length, hsingle⟩ := hnew Key.anchorLength _ hnone hanchor
  exact ⟨hpages, hmeasured Key.titleLength (by decide), hgiven,
    hdescribed hgiven Key.summary (by decide), hempty, (hbare hempty).1, hnone, length,
    hsingle ▸ hanchor, hmem⟩

end Precis.Document
