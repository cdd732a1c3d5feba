import Precis.Heading.FromSpans
import Precis.Proofs.Font.Encoding
import Precis.Proofs.Font.Largest

/-!
Small print does not reach the heading. A step that meets small print leaves the draft as it is, and
what counts as small print stays the same when small print is added or left out. So the heading is
made of the large print alone, and not of the numbers that the spans have on their page.
-/

namespace Precis

/-- A span but for its number. -/
def Span.unnumbered (q : Span) : Span :=
  { q with index := 0 }

theorem Span.largestSizes_map_unnumbered (spans : List Span) (n : Nat) :
    largestSizes (spans.map unnumbered) n = largestSizes spans n := by
  have hsizes : (spans.map unnumbered).map size = spans.map size := List.map_map
  rw [largestSizes, largestSizes, sortedSizes, sortedSizes, hsizes]

theorem Span.areNumbers_scan (stream : Text) : AreNumbers (scan stream) := by
  intro q hq
  obtain ⟨run, hreads, -⟩ := (readsSegments_scan stream).exists_run q hq
  exact FontSize.isNaN_of_isFinite hreads.size.finite

namespace HeadingSettings

variable (s : HeadingSettings)

theorem compose_of_isComplete {sizes : List FontSize} {d : HeadingDraft} (h : s.isComplete d = true)
    (spans : List Span) : s.compose sizes d spans = d := by
  cases spans with
  | nil => rfl
  | cons q rest => rw [compose, if_pos h]

theorem step_of_small {sizes : List FontSize} {q : Span} (h : sizes.any (·.same q.size) = false)
    (d : HeadingDraft) : s.step sizes d q = d := by
  rw [step, h, Bool.not_false, if_pos rfl]

theorem compose_filter (sizes : List FontSize) (d : HeadingDraft) (spans : List Span) :
    s.compose sizes d (spans.filter fun q => sizes.any (·.same q.size)) =
      s.compose sizes d spans := by
  induction spans generalizing d with
  | nil => rfl
  | cons q rest ih =>
      cases hq : sizes.any (·.same q.size) with
      | true => rw [List.filter_cons, if_pos hq, compose, compose, ih]
      | false =>
          rw [List.filter_cons, if_neg (by simp [hq]), ih, compose, s.step_of_small hq]
          split
          · next hcomplete => exact s.compose_of_isComplete hcomplete rest
          · rfl

theorem compose_congr {sizes sizes' : List FontSize} {spans : List Span}
    (h : ∀ q ∈ spans, sizes.any (·.same q.size) = sizes'.any (·.same q.size)) (d : HeadingDraft) :
    s.compose sizes d spans = s.compose sizes' d spans := by
  induction spans generalizing d with
  | nil => rfl
  | cons q rest ih =>
      obtain ⟨hq, hrest⟩ := List.forall_mem_cons.1 h
      have hstep : s.step sizes d q = s.step sizes' d q := by rw [step, step, hq]
      rw [compose, compose, hstep, ih hrest]

theorem compose_map_unnumbered (sizes : List FontSize) (d : HeadingDraft) (spans : List Span) :
    s.compose sizes d (spans.map Span.unnumbered) = s.compose sizes d spans := by
  induction spans generalizing d with
  | nil => rfl
  | cons q rest ih =>
      have hstep : s.step sizes d q.unnumbered = s.step sizes d q := rfl
      rw [List.map_cons, compose, compose, hstep, ih]

theorem headingText_map_unnumbered (spans : List Span) :
    s.headingText (spans.map Span.unnumbered) = s.headingText spans := by
  rw [headingText, headingText, Span.largestSizes_map_unnumbered, compose_map_unnumbered]

theorem headingText_largePrint {spans : List Span} (h : Span.AreNumbers spans) :
    s.headingText (Span.largePrint spans s.fontSizes.toNat) = s.headingText spans := by
  let n := s.fontSizes.toNat
  have hsizes : ∀ q ∈ Span.largePrint spans n,
      Span.isLargePrint (Span.largePrint spans n) n q = Span.isLargePrint spans n q :=
    fun q hq => h.isLargePrint_largePrint n (h.largePrint n q hq)
  have hdraft : s.compose (Span.largestSizes (Span.largePrint spans n) n) {}
      (Span.largePrint spans n) = s.compose (Span.largestSizes spans n) {} spans :=
    calc _ = s.compose (Span.largestSizes spans n) {} (Span.largePrint spans n) :=
          s.compose_congr hsizes {}
      _ = s.compose (Span.largestSizes spans n) {} spans :=
          s.compose_filter (Span.largestSizes spans n) {} spans
  rw [headingText, headingText, hdraft]

/-- The heading is that of the large print alone. So pages that have the same spans in their largest
sizes have the same heading, whatever small print stands between them and moves their numbers, and
streams as well. -/
theorem heading_ignores_small_print :
    (∀ spans, Span.AreNumbers spans →
      s.headingText (Span.largePrint spans s.fontSizes.toNat) = s.headingText spans) ∧
    (∀ spans spans', Span.AreNumbers spans → Span.AreNumbers spans' →
      (Span.largePrint spans s.fontSizes.toNat).map Span.unnumbered =
        (Span.largePrint spans' s.fontSizes.toNat).map Span.unnumbered →
      s.headingText spans = s.headingText spans') ∧
    ∀ stream stream' language,
      (Span.largePrint (Span.scan stream) s.fontSizes.toNat).map Span.unnumbered =
        (Span.largePrint (Span.scan stream') s.fontSizes.toNat).map Span.unnumbered →
      s.heading? stream language = s.heading? stream' language := by
  have hpages : ∀ spans spans', Span.AreNumbers spans → Span.AreNumbers spans' →
      (Span.largePrint spans s.fontSizes.toNat).map Span.unnumbered =
        (Span.largePrint spans' s.fontSizes.toNat).map Span.unnumbered →
      s.headingText spans = s.headingText spans' := by
    intro spans spans' h h' heq
    rw [← s.headingText_largePrint h, ← s.headingText_map_unnumbered, heq,
      s.headingText_map_unnumbered, s.headingText_largePrint h']
  refine ⟨fun spans => s.headingText_largePrint, hpages, ?_⟩
  intro stream stream' language heq
  rw [heading?, heading?,
    hpages _ _ (Span.areNumbers_scan stream) (Span.areNumbers_scan stream') heq]

/-- Two sizes count, and what stands in a smaller one between them does not, though the spans behind
it have other numbers for it. -/
theorem heading_ignores_small_print_between :
    let s : HeadingSettings := { fontSizes := 2 }
    let stream : Text :=
      "[0 36.0]Coastal Towns[1 12.0]a note[2 24.0]A Second Line[3 36.0]and More".toList
    let bare : Text := "[0 36.0]Coastal Towns[1 24.0]A Second Line[2 36.0]and More".toList
    Span.AreNumbers (Span.scan stream) ∧ Span.AreNumbers (Span.scan bare) ∧
      (Span.largePrint (Span.scan stream) 2).map Span.unnumbered =
        (Span.largePrint (Span.scan bare) 2).map Span.unnumbered ∧
      s.headingText (Span.largePrint (Span.scan stream) 2) = s.headingText (Span.scan stream) ∧
      s.headingText (Span.scan stream) = s.headingText (Span.scan bare) ∧
      s.heading? stream none = s.heading? bare none := by
  intro s stream bare
  let first : Span := ⟨0, .nearest 36 1, "Coastal Towns".toList⟩
  let note : Span := ⟨1, .nearest 12 1, "a note".toList⟩
  let second (number : Nat) : Span := ⟨number, .nearest 24 1, "A Second Line".toList⟩
  let last (number : Nat) : Span := ⟨number, .nearest 36 1, "and More".toList⟩
  have hstream : Span.AreNumbers (Span.scan stream) := Span.areNumbers_scan stream
  have hbare : Span.AreNumbers (Span.scan bare) := Span.areNumbers_scan bare
  have hstreamScan : Span.scan stream = [first, note, second 2, last 3] := by decide +kernel
  have hbareScan : Span.scan bare = [first, second 1, last 2] := by decide +kernel
  have hstreamSizes : Span.sortedSizes [first, note, second 2, last 3] =
      [first.size, first.size, (second 2).size, note.size] :=
    Span.sortedSizes_eq (by decide +kernel) (by decide +kernel)
  have hbareSizes : Span.sortedSizes [first, second 1, last 2] =
      [first.size, first.size, (second 1).size] :=
    Span.sortedSizes_eq (by decide +kernel) (by decide +kernel)
  have heq : (Span.largePrint (Span.scan stream) 2).map Span.unnumbered =
      (Span.largePrint (Span.scan bare) 2).map Span.unnumbered := by
    rw [hstreamScan, hbareScan, Span.largePrint_of_sortedSizes hstreamSizes,
      Span.largePrint_of_sortedSizes hbareSizes]
    decide +kernel
  obtain ⟨hself, hpages, hstreams⟩ := heading_ignores_small_print s
  exact ⟨hstream, hbare, heq, hself _ hstream, hpages _ _ hstream hbare heq,
    hstreams stream bare none heq⟩

end HeadingSettings
end Precis
