import Precis.Heading.FromText
import Precis.Proofs.Sentence.Breaks
import Precis.Proofs.Text.Words

/-!
The heading of a running text. Among the lines that may hold it the first one decides that is long
enough for a heading or too long for one: it is the heading, or there is none. Breaks are repaired
within lines, so what stands behind the line that decides, or behind the last line that is looked
at, has no part in this.
-/

namespace Precis

namespace SummarySettings

variable (s : SummarySettings)

/-- Long enough for a heading, or too long for one. -/
def isDecisive (line : Text) : Bool :=
  decide (s.minHeadingChars.toNat ≤ line.length) || decide (s.maxHeadingChars.toNat < line.length)

theorem firstHeading?_eq (lines : List Text) :
    s.firstHeading? lines = (lines.find? s.isDecisive).bind fun line =>
      if line.length ≤ s.maxHeadingChars.toNat then some ⟨line, .text⟩ else none := by
  induction lines with
  | nil => rfl
  | cons line rest ih =>
      rw [firstHeading?, List.find?_cons]
      by_cases hlong : s.maxHeadingChars.toNat < line.length
      · simp [isDecisive, hlong]
      by_cases henough : s.minHeadingChars.toNat ≤ line.length
      · simp [isDecisive, hlong, henough, Nat.le_of_not_lt hlong]
      · simp [isDecisive, hlong, henough, ih]

theorem headingLines_append (front rest : Text) :
    s.headingLines (front ++ '\n' :: rest) = s.headingLines front ++
      (rest.repairBreaks.lines.take (s.maxHeadingLines.toNat - front.lines.length)).map
        Text.trim := by
  rw [headingLines, Text.lines_repairBreaks_append, List.take_append, List.map_append,
    Text.length_lines_repairBreaks]
  rfl

/-- The search does not go on behind the line that decides, nor behind the last line that is looked
at. -/
theorem find?_headingLines_append {front : Text} (rest : Text)
    (h : (∃ line ∈ s.headingLines front, s.isDecisive line = true) ∨
      s.maxHeadingLines.toNat ≤ front.lines.length) :
    (s.headingLines (front ++ '\n' :: rest)).find? s.isDecisive =
      (s.headingLines front).find? s.isDecisive := by
  rw [headingLines_append, List.find?_append]
  rcases h with hdecided | hlimit
  · obtain ⟨line, hline⟩ := Option.isSome_iff_exists.1 (List.find?_isSome.2 hdecided)
    rw [hline, Option.some_or]
  · rw [Nat.sub_eq_zero_of_le hlimit, List.take_zero, List.map_nil, List.find?_nil, Option.or_none]

/-- The heading is the first line that is long enough or too long, if it is not too long. It lies
within the bounds and is trimmed, and nothing behind it or behind the last line that is looked at
has any influence on it. -/
theorem heading_is_first_decisive_line (text : Text) :
    let lines : List Text :=
      ((text.repairBreaks.splitOn '\n').take s.maxHeadingLines.toNat).map Text.trim
    (∀ h, s.heading? text = some h ↔
      ∃ line, lines.find? s.isDecisive = some line ∧
        line.length ≤ s.maxHeadingChars.toNat ∧ h = ⟨line, .text⟩) ∧
    (∀ rest, (∃ line ∈ lines, s.isDecisive line = true) ∨
        s.maxHeadingLines.toNat ≤ (text.splitOn '\n').length →
      s.heading? (text ++ '\n' :: rest) = s.heading? text) ∧
    ∀ h, s.heading? text = some h → s.minHeadingChars.toNat ≤ h.text.length ∧
      h.text.length ≤ s.maxHeadingChars.toNat ∧ Text.IsTrimmed h.text := by
  intro lines
  have hfirst : ∀ h, s.heading? text = some h ↔
      ∃ line, lines.find? s.isDecisive = some line ∧
        line.length ≤ s.maxHeadingChars.toNat ∧ h = ⟨line, .text⟩ := by
    intro h
    change s.heading? text = some h ↔ ∃ line, (s.headingLines text).find? s.isDecisive = some line ∧
      line.length ≤ s.maxHeadingChars.toNat ∧ h = ⟨line, .text⟩
    rw [heading?, firstHeading?_eq, Option.bind_eq_some_iff]
    refine exists_congr fun line => and_congr_right fun _ => ?_
    rw [Option.ite_none_right_eq_some, Option.some_inj, eq_comm (b := h)]
  refine ⟨hfirst, fun rest hdecided => ?_, fun h hh => ?_⟩
  · rw [heading?, heading?, firstHeading?_eq, firstHeading?_eq,
      s.find?_headingLines_append rest hdecided]
  · obtain ⟨line, hline, hshort, rfl⟩ := (hfirst h).1 hh
    have hdecisive : s.isDecisive line = true := List.find?_some hline
    obtain ⟨raw, -, rfl⟩ := List.mem_map.1 (List.mem_of_find?_eq_some hline)
    refine ⟨?_, hshort, Text.isTrimmed_trim raw⟩
    rw [isDecisive, Bool.or_eq_true, decide_eq_true_iff, decide_eq_true_iff] at hdecisive
    exact hdecisive.resolve_right (Nat.not_lt_of_le hshort)

/-- A line that is too short, and one that is long enough once its break is repaired and the white
space around it is gone. -/
theorem heading_is_first_decisive_line_second :
    let s : SummarySettings := {}
    let text : Text := "Page 4\n Rising seas.Old harbours \r".toList
    let rest : Text := "A line behind the heading.\nAnd one more.".toList
    let found : Heading := ⟨"Rising seas. Old harbours".toList, .text⟩
    let lines : List Text :=
      ((text.repairBreaks.splitOn '\n').take s.maxHeadingLines.toNat).map Text.trim
    (∃ line ∈ lines, s.isDecisive line = true) ∧
    s.heading? (text ++ '\n' :: rest) = s.heading? text ∧
    s.heading? text = some found ∧ s.minHeadingChars.toNat ≤ found.text.length ∧
      found.text.length ≤ s.maxHeadingChars.toNat ∧ Text.IsTrimmed found.text := by
  intro s text rest found lines
  have hlines : lines = ["Page 4".toList, found.text] := by decide +kernel
  have hshort : s.isDecisive "Page 4".toList = false := by decide
  have henough : s.isDecisive found.text = true := by decide
  have hdecided : ∃ line ∈ lines, s.isDecisive line = true :=
    ⟨found.text, by simp [hlines], henough⟩
  have hfirst : lines.find? s.isDecisive = some found.text := by
    rw [hlines, List.find?_cons, hshort, List.find?_cons, henough]
  obtain ⟨hiff, hrest, hbounds⟩ := heading_is_first_decisive_line s text
  have hfound : s.heading? text = some found :=
    (hiff found).2 ⟨found.text, hfirst, by decide, rfl⟩
  exact ⟨hdecided, hrest rest (.inl hdecided), hfound, hbounds found hfound⟩

end SummarySettings
end Precis
