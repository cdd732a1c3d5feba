import Precis.Proofs.Heading.FromSpans
import Precis.Proofs.Unicode.WhiteSpace

/-!
White space at the ends of a heading. A heading is trimmed before it is put into reading order, and
resolving its characters comes last. What is last on the page is first in reading order, so white
space appears at the front of a heading if its last character on the page stands for a space with a
mark, and nowhere else.
-/

namespace Precis

namespace Text

theorem isTrimmed_iff {t : Text} :
    IsTrimmed t ↔ t.head?.any isSpace = false ∧ t.getLast?.any isSpace = false := by
  simp only [IsTrimmed, Option.any_eq_false, Option.mem_def]

/-- Turning a trimmed text round and resolving it leaves something of it, and no white space behind
it. -/
theorem IsTrimmed.logicalOrder_ends {t : Text} (h : IsTrimmed t) (hne : t ≠ []) :
    logicalOrder t ≠ [] ∧ (logicalOrder t).getLast?.any isSpace = false ∧
      (logicalOrder t).head?.any isSpace = t.getLast?.any Unicode.opensWithSpace := by
  obtain ⟨hfirst, hlast⟩ := h
  obtain ⟨a, front, rfl⟩ := List.exists_cons_of_ne_nil hne
  obtain ⟨back, b, hback⟩ := List.eq_nil_or_concat (a :: front) |>.resolve_left hne
  have ha : isSpace a = false := hfirst a rfl
  have hb : isSpace b = false := hlast b (by simp [hback])
  have hreverse : (a :: front).reverse = b :: back.reverse := by simp [hback]
  refine ⟨?_, ?_, ?_⟩
  · rw [logicalOrder, hreverse]
    exact Unicode.compatibilityForm_ne_nil _ hb
  · rw [logicalOrder, List.reverse_cons]
    exact Unicode.endsWithSpace_compatibilityForm _ ha
  · rw [logicalOrder, hreverse, Unicode.startsWithSpace_compatibilityForm _ hb, hback]
    simp

end Text

namespace HeadingSettings

/-- No heading is empty or ends in white space. It begins with white space exactly if it is turned
round and the last character of the trimmed text stands for something that does. -/
theorem heading_isTrimmed_iff {s : HeadingSettings} {stream : Text} {language : Option Text}
    {h : Heading} (hh : s.heading? stream language = some h) :
    h.text ≠ [] ∧ (∀ c ∈ h.text.getLast?, Text.isSpace c = false) ∧
      (Text.IsTrimmed h.text ↔
        ¬ (language.any s.isRightToLeft = true ∧
          ∃ c ∈ (s.headingText (Span.scan stream)).getLast?, Unicode.opensWithSpace c = true)) := by
  have htrimmed : Text.IsTrimmed (s.headingText (Span.scan stream)) := Text.isTrimmed_trim _
  simp only [heading?] at hh
  split at hh
  · simp at hh
  next hne =>
  rw [List.isEmpty_iff] at hne
  split at hh
  · next hturned =>
    obtain rfl := Option.some.inj hh
    obtain ⟨hsome, hends, hstarts⟩ := htrimmed.logicalOrder_ends hne
    refine ⟨hsome, (Option.any_eq_false _ _).1 hends, ?_⟩
    rw [Text.isTrimmed_iff, hends, hstarts, and_iff_left rfl, Option.any_eq_false]
    simp [hturned]
  · next hstraight =>
    obtain rfl := Option.some.inj hh
    exact ⟨hne, htrimmed.2, iff_of_true htrimmed fun hturned => hstraight hturned.1⟩

/-- Arabic letters in the forms that they have on the page. -/
theorem heading_isTrimmed_iff_joined_letters :
    let stream : Text := "[0 36.0]\uFEE1\uFEFC\uFEB3".toList
    let found : Heading := ⟨"\u0633\u0644\u0627\u0645".toList, .fonts⟩
    heading? {} stream (some "ar".toList) = some found ∧ found.text ≠ [] ∧
      Text.IsTrimmed found.text := by
  intro stream found
  have hscan : Span.scan stream = [⟨0, ⟨0x42100000⟩, "\uFEE1\uFEFC\uFEB3".toList⟩] := by
    decide +kernel
  have htext : headingText {} (Span.scan stream) = "\uFEE1\uFEFC\uFEB3".toList := by
    rw [hscan, headingText_singleton _ (by decide) (by decide) (by decide) (by decide)]
    decide
  have hfound : heading? {} stream (some "ar".toList) = some found := by
    rw [heading?, htext]
    decide +kernel
  obtain ⟨hne, -, htrimmed⟩ := heading_isTrimmed_iff hfound
  refine ⟨hfound, hne, htrimmed.2 ?_⟩
  rw [htext]
  rintro ⟨-, c, hc, hopens⟩
  obtain rfl := Option.some.inj hc
  exact absurd hopens (by decide +kernel)

/-- Hebrew letters behind which an acute accent stands on the page. -/
theorem heading_begins_with_space_of_accent :
    let stream : Text := "[0 36.0]\u05D0\u05D1\u00B4".toList
    ∃ h, heading? {} stream (some "he".toList) = some h ∧ ¬ Text.IsTrimmed h.text := by
  intro stream
  have hscan : Span.scan stream = [⟨0, ⟨0x42100000⟩, "\u05D0\u05D1\u00B4".toList⟩] := by
    decide +kernel
  have htext : headingText {} (Span.scan stream) = "\u05D0\u05D1\u00B4".toList := by
    rw [hscan, headingText_singleton _ (by decide) (by decide) (by decide) (by decide)]
    decide
  have hfound : heading? {} stream (some "he".toList) =
      some ⟨" \u0301\u05D1\u05D0".toList, .fonts⟩ := by
    rw [heading?, htext]
    decide +kernel
  refine ⟨_, hfound, fun htrimmed => ?_⟩
  exact absurd (htrimmed.1 ' ' rfl) (by decide)

end HeadingSettings
end Precis
