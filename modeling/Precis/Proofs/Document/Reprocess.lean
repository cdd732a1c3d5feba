import Precis.Proofs.Document.ParseMetadata
import Precis.Proofs.Document.Process

/-!
Processing a document once more, with the index entry that came out of the first time. Whatever was
filled in then is there now, and what was left out is left out for the same reason, so only the
lengths are recorded again.
-/

namespace Precis.Document

open Metadata (descriptionKeys)

section

variable (d : Document) (s : Settings) (fields : Metadata)

theorem isDescribed_process (h : fields.IsDescribed) : (d.process s fields).2.IsDescribed := by
  refine (Metadata.isDescribed_congr fun key hkey => ?_).1 h
  rw [find?_process_of_description d s fields hkey, if_pos h]

theorem find?_process_again {key : Text} (hlength : key ∉ lengthKeys) :
    ((d.process s fields).1.process s (d.process s fields).2).2.find? key =
      (d.process s fields).2.find? key := by
  have hparsed : (d.process s fields).1 = d.withParseMetadata s.heading := rfl
  by_cases hdescription : key ∈ descriptionKeys
  · rw [find?_process_of_description _ s _ hdescription]
    split
    · rfl
    · next hagain =>
      have hfirst : ¬ fields.IsDescribed := fun h => hagain (isDescribed_process d s fields h)
      rw [find?_process_of_description d s fields hdescription, if_neg hfirst, hparsed,
        withParseMetadata_withParseMetadata]
  · rw [find?_process_of_other _ s _ hdescription hlength,
      find?_process_of_other d s fields hdescription hlength, hparsed,
      withParseMetadata_withParseMetadata, Option.or_assoc, Option.or_self]

theorem joinedLength_process_again {source : Text} (hsource : source ∉ lengthKeys) :
    ((d.process s fields).1.process s (d.process s fields).2).2.joinedLength source =
      (d.process s fields).2.joinedLength source := by
  rw [Metadata.joinedLength, Metadata.joined?, find?_process_again d s fields hsource]
  rfl

end

/-- A document that is processed again stays as it is, and so does its entry but for the lengths, of
which the last is recorded once more. -/
theorem process_again (d : Document) (s : Settings) (fields : Metadata) :
    let first := d.process s fields
    let second := first.1.process s first.2
    second.1 = first.1 ∧
    (∀ key, key ∉ lengthKeys → second.2.find? key = first.2.find? key) ∧
    ∀ key ∈ lengthKeys, ∃ earlier last,
      first.2.find? key = some (earlier ++ [last]) ∧
      second.2.find? key = some (earlier ++ [last] ++ [last]) := by
  intro first second
  refine ⟨withParseMetadata_withParseMetadata d s.heading,
    fun _ => find?_process_again d s fields, ?_⟩
  intro key hkey
  have hdisjoint : ∀ p ∈ measuredKeys, p.2 ∉ lengthKeys := by decide
  obtain ⟨⟨key, source⟩, hmeasured, rfl⟩ := List.mem_map.1 hkey
  have hfirst := find?_process_of_measured d s fields hmeasured
  have hsecond := find?_process_of_measured first.1 s first.2 hmeasured
  have hvalues : first.2.values key =
      fields.values key ++ [Text.ofNat (first.2.joinedLength source)] := by
    rw [Metadata.values, hfirst, Option.getD_some]
  rw [hvalues, joinedLength_process_again d s fields (hdisjoint _ hmeasured)] at hsecond
  exact ⟨_, _, hfirst, hsecond⟩

/-- A PDF whose text is one link, of which its summary keeps nothing, and an entry with a length of an
earlier title. -/
theorem process_again_lone_link :
    let pdf : Document :=
      ⟨[], some ContentType.pdf, "https://example.org/reports/annual".toList,
        some "[0 36.0]Annual Report".toList, .empty, .empty⟩
    let fields := Metadata.empty.set Key.titleLength "4".toList
    let first := pdf.process {} fields
    let second := first.1.process {} first.2
    second.1 = first.1 ∧
    Key.summary ∉ lengthKeys ∧ second.2.find? Key.summary = first.2.find? Key.summary ∧
    Key.titleLength ∈ lengthKeys ∧ ∃ earlier last,
      first.2.find? Key.titleLength = some (earlier ++ [last]) ∧
      second.2.find? Key.titleLength = some (earlier ++ [last] ++ [last]) := by
  intro pdf fields first second
  obtain ⟨hdocument, hkept, hmeasured⟩ := process_again pdf {} fields
  have hsummary : Key.summary ∉ lengthKeys := by decide
  have htitle : Key.titleLength ∈ lengthKeys := by decide
  exact ⟨hdocument, hsummary, hkept Key.summary hsummary, htitle,
    hmeasured Key.titleLength htitle⟩

end Precis.Document
