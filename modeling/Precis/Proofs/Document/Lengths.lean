import Precis.Proofs.Document.ParseMetadata
import Precis.Proofs.Document.Process
import Precis.Proofs.Text.Numeral

/-!
The lengths in an index entry. They are taken last, when all that is measured is in the entry, and
recording them changes nothing that is measured; so they are the lengths of what the entry holds in
the end, a heading that was just filled in included.
-/

namespace Precis

theorem Metadata.joinedLength_eq (m : Metadata) (key : Text) :
    m.joinedLength key = (m.values key).flatten.length := by
  rw [joinedLength, joined?, values]
  cases m.find? key <;> rfl

namespace Document

section

variable (d : Document) (s : Settings) (fields : Metadata)

theorem textValue?_contentLength :
    d.textValue? s Key.contentLength =
      if d.text = [] then none else some (Text.ofNat d.text.length) := by
  have hne : Key.contentLength ≠ Key.heading := by decide
  rw [textValue?, if_neg hne]
  by_cases htext : d.text = []
  · simp [htext]
  · simp [htext]

theorem find?_contentLength_indexFields (h : fields.find? Key.contentLength = none) :
    (d.indexFields s fields).find? Key.contentLength =
      if d.text = [] then none else some [Text.ofNat d.text.length] := by
  rw [find?_indexFields_of_other d s fields (by decide) (by decide), h, Option.none_or,
    textValue?_contentLength]
  split <;> rfl

theorem find?_contentLength_process (h : fields.find? Key.contentLength = none) :
    (d.process s fields).2.find? Key.contentLength =
      if d.text = [] then none else some [Text.ofNat d.text.length] := by
  have hkept : Key.contentLength ∉ handedOver := by decide
  have hnone : ((d.withParseMetadata s.heading).handOver fields).find? Key.contentLength = none := by
    rw [find?_handOver, if_neg hkept, h]
  have hindex := find?_contentLength_indexFields (d.withParseMetadata s.heading) s _ hnone
  rwa [text_withParseMetadata] at hindex

end

/-- In the entry that the index stage makes, alone or in the whole process, each length that is
recorded last is the number of characters that the entry itself holds under the key that is measured.
The length of the text is there if there is any text, unless it was there before. -/
theorem lengths_of_entry (d : Document) (s : Settings) (fields : Metadata) :
    ∀ entry ∈ [d.indexFields s fields, (d.process s fields).2],
      (∀ p ∈ [(Key.titleLength, Key.title), (Key.headingLength, Key.heading),
          (Key.anchorLength, Key.anchor)],
        entry.find? p.1 =
          some (fields.values p.1 ++ [Nat.toDigits 10 (entry.values p.2).flatten.length])) ∧
      (fields.find? Key.contentLength = none →
        entry.find? Key.contentLength =
          if d.text = [] then none else some [Nat.toDigits 10 d.text.length]) := by
  simp only [← Text.ofNat_eq_toDigits, ← Metadata.joinedLength_eq]
  intro entry hentry
  rcases List.mem_pair.1 hentry with rfl | rfl
  · exact ⟨fun _ => find?_indexFields_of_measured d s fields,
      find?_contentLength_indexFields d s fields⟩
  · exact ⟨fun _ => find?_process_of_measured d s fields, find?_contentLength_process d s fields⟩

/-- A heading that is found in the text is measured with its rubric, and an anchor with all its
values. -/
theorem lengths_of_entry_new_heading :
    let s : Settings := { filter := { textHeadingMinChars := 10 } }
    let pdf : Document :=
      ⟨[], some ContentType.pdf, "Tables of the tides".toList, none, .empty, .empty⟩
    let fields := (Metadata.empty.add Key.anchor "high".toList).add Key.anchor "low".toList
    let entry := (pdf.process s fields).2
    entry.find? Key.heading = some ["Tables of the tides [from PDF text]".toList] ∧
    entry.find? Key.headingLength = some ["35".toList] ∧
    entry.find? Key.anchorLength = some ["7".toList] ∧
    fields.find? Key.contentLength = none ∧ entry.find? Key.contentLength = some ["19".toList] := by
  intro s pdf fields entry
  have hheading : entry.find? Key.heading = some ["Tables of the tides [from PDF text]".toList] := by
    rw [find?_process_of_other pdf s fields (by decide) (by decide)]
    decide +kernel
  have hanchor : entry.find? Key.anchor = some ["high".toList, "low".toList] := by
    rw [find?_process_of_other pdf s fields (by decide) (by decide)]
    decide +kernel
  have hnone : fields.find? Key.contentLength = none := by decide
  obtain ⟨hlengths, hcontent⟩ := lengths_of_entry pdf s fields entry (by simp [entry])
  have hheadingLength := hlengths (Key.headingLength, Key.heading) (by decide)
  have hanchorLength := hlengths (Key.anchorLength, Key.anchor) (by decide)
  rw [Metadata.values, Metadata.values, hheading] at hheadingLength
  rw [Metadata.values, Metadata.values, hanchor] at hanchorLength
  exact ⟨hheading, hheadingLength.trans (by decide), hanchorLength.trans (by decide), hnone,
    (hcontent hnone).trans (by decide)⟩

end Document
end Precis
