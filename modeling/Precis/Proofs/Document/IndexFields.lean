import Precis.Proofs.Metadata.Description

/-!
What an index entry holds under each key. Every stage of making it is told by what is found under a
key before and after it: the description keys are erased together or left alone together, the
heading and the length of the text are filled in, and each length is put behind those recorded
before.
-/

namespace Precis.Document

open Metadata (descriptionKeys)

variable (d : Document) (s : Settings) (fields : Metadata)

/-- The summary for an entry without a description. It has some text before it is cleaned, and may
have none afterwards. -/
def newSummary? : Option Text :=
  if (d.rawSummary s).isEmpty then none else some (d.rawSummary s).clean

/-- The heading in the text of a PDF that is long enough, without the characters that stand for
faults. -/
def headingFromText? : Option Heading :=
  if d.isPdf ∧ s.filter.textHeadingMinChars.toNat < d.text.length then
    s.summary.heading? (d.text.filter fun c => c ≠ '\uFFFD')
  else none

/-- The keys that are filled in from the text of a document. -/
def textKeys : List Text :=
  [Key.heading, Key.contentLength]

def textValue? (key : Text) : Option Text :=
  if key = Key.heading then (d.headingFromText? s).map Heading.tagged
  else if key = Key.contentLength ∧ d.text ≠ [] then some (Text.ofNat d.text.length)
  else none

/-- The keys under which lengths are recorded, each with the key whose values are measured. -/
def measuredKeys : List (Text × Text) :=
  [(Key.titleLength, Key.title), (Key.headingLength, Key.heading), (Key.anchorLength, Key.anchor)]

def lengthKeys : List Text :=
  measuredKeys.map Prod.fst

theorem addSummary_eq :
    d.addSummary s fields =
      if fields.IsDescribed then fields
      else fields.eraseDescriptions.setSome Key.summary (d.newSummary? s) := by
  have hnone : fields.eraseDescriptions.find? Key.summary = none := by
    rw [Metadata.find?_eraseDescriptions, if_pos (by simp [descriptionKeys])]
  rw [addSummary]
  by_cases hdescribed : fields.IsDescribed
  · have hne := Metadata.describedAs_ne_nil_iff.2 hdescribed
    rw [if_neg (by simpa using hne), if_pos hdescribed]
  · have hnil : fields.describedAs = [] :=
      not_not.1 (mt Metadata.describedAs_ne_nil_iff.1 hdescribed)
    rw [if_pos (by simp [hnil]), if_neg hdescribed, newSummary?]
    cases hraw : (d.rawSummary s).isEmpty with
    | true => simp only [hraw, if_true, Metadata.setSome]
    | false =>
        simp only [hraw, Bool.false_eq_true, if_false, Metadata.setSome]
        exact Metadata.add_of_find?_eq_none _ hnone

theorem find?_addSummary (key : Text) :
    (d.addSummary s fields).find? key =
      if fields.IsDescribed ∨ key ∉ descriptionKeys then fields.find? key
      else if key = Key.summary then (d.newSummary? s).map fun v => [v]
      else none := by
  rw [addSummary_eq]
  by_cases hdescribed : fields.IsDescribed
  · simp [hdescribed]
  · simp only [hdescribed, if_false, false_or, Metadata.find?_setSome,
      Metadata.find?_eraseDescriptions]
    by_cases hkey : key ∈ descriptionKeys
    · simp [hkey]
    · have hne : key ≠ Key.summary := by
        rintro rfl
        simp [descriptionKeys] at hkey
      simp [hkey, hne]

theorem textHeading?_eq : d.textHeading? s = d.headingFromText? s := by
  have hclean : d.text.dropReplacements = d.text.filter fun c => c ≠ '\uFFFD' :=
    List.filter_congr fun c _ => by rw [decide_not]; rfl
  rw [textHeading?, headingFromText?, hclean]
  simp only [Bool.and_eq_true, decide_eq_true_eq]

theorem addTextHeading_eq :
    d.addTextHeading s fields = fields.fill Key.heading (d.textValue? s Key.heading) := by
  unfold addTextHeading Metadata.fill
  split
  · rfl
  · next hcontains =>
    have hnone := Metadata.contains_eq_false_iff.1 (by simpa using hcontains)
    rw [textValue?, if_pos rfl, textHeading?_eq]
    cases d.headingFromText? s with
    | none => rfl
    | some h => exact Metadata.add_of_find?_eq_none _ hnone

theorem addContentLength_eq :
    d.addContentLength fields =
      fields.fill Key.contentLength (d.textValue? s Key.contentLength) := by
  have hne : Key.contentLength ≠ Key.heading := by decide
  unfold addContentLength Metadata.fill
  cases hcontains : fields.contains Key.contentLength with
  | true => rfl
  | false =>
      have hnone := Metadata.contains_eq_false_iff.1 hcontains
      rw [textValue?, if_neg hne]
      cases d.text with
      | nil => rfl
      | cons c text => exact Metadata.add_of_find?_eq_none _ hnone

/-- The lengths are recorded in an entry that is otherwise complete. -/
theorem indexFields_eq :
    d.indexFields s fields =
      addLengths ((d.addSummary s fields).fillAll (d.textValue? s) textKeys) := by
  rw [indexFields, addTextHeading_eq, addContentLength_eq d s]
  rfl

theorem find?_addLengths_of_not_mem {key : Text} (h : key ∉ lengthKeys) :
    (addLengths fields).find? key = fields.find? key := by
  simp only [lengthKeys, measuredKeys, List.map_cons, List.map_nil, List.mem_cons,
    List.not_mem_nil, or_false, not_or] at h
  simp [addLengths, Metadata.find?_add, h]

theorem find?_addLengths_of_mem {key source : Text} (h : (key, source) ∈ measuredKeys) :
    (addLengths fields).find? key =
      some (fields.values key ++ [Text.ofNat (fields.joinedLength source)]) := by
  have hth : Key.titleLength ≠ Key.headingLength := by decide
  have hta : Key.titleLength ≠ Key.anchorLength := by decide
  have hha : Key.headingLength ≠ Key.anchorLength := by decide
  simp only [measuredKeys, List.mem_cons, Prod.mk.injEq, List.not_mem_nil, or_false] at h
  rcases h with ⟨rfl, rfl⟩ | ⟨rfl, rfl⟩ | ⟨rfl, rfl⟩
  · simp [addLengths, Metadata.find?_add, hth, hta]
  · simp [addLengths, Metadata.find?_add, Metadata.values, hth.symm, hha]
  · simp [addLengths, Metadata.find?_add, Metadata.values, hta.symm, hha.symm]

theorem find?_indexFields_of_description {key : Text} (h : key ∈ descriptionKeys) :
    (d.indexFields s fields).find? key =
      if fields.IsDescribed then fields.find? key
      else if key = Key.summary then (d.newSummary? s).map fun v => [v]
      else none := by
  have hlength : ∀ k ∈ descriptionKeys, k ∉ lengthKeys := by decide
  have htext : ∀ k ∈ descriptionKeys, k ∉ textKeys := by decide
  rw [indexFields_eq, find?_addLengths_of_not_mem _ (hlength key h), Metadata.find?_fillAll,
    if_neg (htext key h), find?_addSummary]
  simp [h]

theorem find?_indexFields_of_other {key : Text} (hdescription : key ∉ descriptionKeys)
    (hlength : key ∉ lengthKeys) :
    (d.indexFields s fields).find? key =
      (fields.find? key).or ((d.textValue? s key).map fun v => [v]) := by
  rw [indexFields_eq, find?_addLengths_of_not_mem _ hlength, Metadata.find?_fillAll,
    find?_addSummary, if_pos (Or.inr hdescription)]
  by_cases htext : key ∈ textKeys
  · rw [if_pos htext]
  · rw [if_neg htext]
    simp only [textKeys, List.mem_cons, List.not_mem_nil, or_false, not_or] at htext
    simp [textValue?, htext]

/-- A length that is recorded is the length of what the entry holds in the end. -/
theorem find?_indexFields_of_measured {key source : Text} (h : (key, source) ∈ measuredKeys) :
    (d.indexFields s fields).find? key =
      some (fields.values key ++
        [Text.ofNat ((d.indexFields s fields).joinedLength source)]) := by
  have hkey : ∀ p ∈ measuredKeys, p.1 ∉ descriptionKeys ∧ p.1 ∉ textKeys := by decide
  have hsource : ∀ p ∈ measuredKeys, p.2 ∉ lengthKeys := by decide
  obtain ⟨hdescription, htext⟩ := hkey _ h
  rw [indexFields_eq, find?_addLengths_of_mem _ h]
  simp only [Metadata.values, Metadata.joinedLength, Metadata.joined?, Metadata.find?_fillAll,
    find?_addLengths_of_not_mem _ (hsource _ h), if_neg htext, find?_addSummary,
    if_pos (Or.inr hdescription)]

end Precis.Document
