import Precis.Heading.FromSpans
import Precis.Proofs.Font.Largest

/-!
Headings and the order of sizes. Of two sizes a heading asks only which is the larger one and
whether they are equal. So if every span gets another size and the sizes still compare as they did,
the draft of the heading takes the same steps: the same spans are in the largest sizes, and the size
changes at the same places.
-/

namespace Precis

namespace Span

/-- The spans of a page in the sizes that are given beside them. -/
def resized (page : List (Span × FontSize)) : List Span :=
  page.map fun p => { p.1 with size := p.2 }

/-- The sizes beside the spans compare with one another as those of the spans do, and all of them are
numbers. -/
structure KeepsOrder (page : List (Span × FontSize)) : Prop where
  isNaN_size : ∀ p ∈ page, p.1.size.isNaN = false
  isNaN_given : ∀ p ∈ page, p.2.isNaN = false
  less : ∀ p ∈ page, ∀ q ∈ page, p.2.less q.2 = p.1.size.less q.1.size
  same : ∀ p ∈ page, ∀ q ∈ page, p.2.same q.2 = p.1.size.same q.1.size

namespace KeepsOrder

variable {page : List (Span × FontSize)}

theorem areNumbers (h : KeepsOrder page) : AreNumbers (page.map Prod.fst) :=
  List.forall_mem_map.2 h.isNaN_size

theorem areNumbers_resized (h : KeepsOrder page) : AreNumbers (resized page) :=
  List.forall_mem_map.2 h.isNaN_given

theorem rank_lt_iff (h : KeepsOrder page) {p q : Span × FontSize} (hp : p ∈ page) (hq : q ∈ page) :
    p.2.rank < q.2.rank ↔ p.1.size.rank < q.1.size.rank := by
  rw [← FontSize.less_iff (h.isNaN_given p hp) (h.isNaN_given q hq), h.less p hp q hq,
    FontSize.less_iff (h.isNaN_size p hp) (h.isNaN_size q hq)]

theorem rank_eq_iff (h : KeepsOrder page) {p q : Span × FontSize} (hp : p ∈ page) (hq : q ∈ page) :
    p.2.rank = q.2.rank ↔ p.1.size.rank = q.1.size.rank := by
  rw [← FontSize.same_iff (h.isNaN_given p hp) (h.isNaN_given q hq), h.same p hp q hq,
    FontSize.same_iff (h.isNaN_size p hp) (h.isNaN_size q hq)]

/-- Equal sizes have equal sizes beside them, so the one is a function of the other. -/
theorem exists_scale (h : KeepsOrder page) :
    ∃ scale : Int → Int, ∀ p ∈ page, scale p.1.size.rank = p.2.rank := by
  let before (p : { p // p ∈ page }) : Int := p.1.1.size.rank
  let after (p : { p // p ∈ page }) : Int := p.1.2.rank
  have hfactors : after.FactorsThrough before := fun p q hrank =>
    (h.rank_eq_iff p.2 q.2).2 hrank
  exact ⟨Function.extend before after 0, fun p hp => hfactors.extend_apply 0 ⟨p, hp⟩⟩

theorem mem_map_rank_distinctSizes_resized (h : KeepsOrder page) {rank : Int} :
    rank ∈ (distinctSizes (resized page)).map FontSize.rank ↔ ∃ p ∈ page, p.2.rank = rank := by
  rw [h.areNumbers_resized.mem_map_rank_distinctSizes]
  simp [resized]

theorem mem_map_rank_distinctSizes (h : KeepsOrder page) {rank : Int} :
    rank ∈ (distinctSizes (page.map Prod.fst)).map FontSize.rank ↔
      ∃ p ∈ page, p.1.size.rank = rank := by
  simp [h.areNumbers.mem_map_rank_distinctSizes]

/-- The distinct sizes of the resized page are those of the page on the new scale, for both lists are
in strictly descending order and have the same members. -/
theorem map_rank_distinctSizes_resized (h : KeepsOrder page) {scale : Int → Int}
    (hscale : ∀ p ∈ page, scale p.1.size.rank = p.2.rank) :
    (distinctSizes (resized page)).map FontSize.rank =
      ((distinctSizes (page.map Prod.fst)).map FontSize.rank).map scale := by
  have hdesc : (((distinctSizes (page.map Prod.fst)).map FontSize.rank).map scale).Pairwise
      (· > ·) := by
    rw [List.pairwise_map]
    refine h.areNumbers.pairwise_distinctSizes.imp_of_mem fun {a b} ha hb hlt => ?_
    obtain ⟨p, hp, rfl⟩ := h.mem_map_rank_distinctSizes.1 ha
    obtain ⟨q, hq, rfl⟩ := h.mem_map_rank_distinctSizes.1 hb
    rw [hscale p hp, hscale q hq]
    exact (h.rank_lt_iff hq hp).2 hlt
  refine h.areNumbers_resized.pairwise_distinctSizes.eq_of_mem_iff hdesc fun rank => ?_
  rw [h.mem_map_rank_distinctSizes_resized, List.mem_map]
  constructor
  · rintro ⟨p, hp, rfl⟩
    exact ⟨p.1.size.rank, h.mem_map_rank_distinctSizes.2 ⟨p, hp, rfl⟩, hscale p hp⟩
  · rintro ⟨before, hbefore, rfl⟩
    obtain ⟨p, hp, rfl⟩ := h.mem_map_rank_distinctSizes.1 hbefore
    exact ⟨p, hp, (hscale p hp).symm⟩

theorem isLargePrint_resized (h : KeepsOrder page) (n : Nat) {p : Span × FontSize}
    (hp : p ∈ page) :
    isLargePrint (resized page) n { p.1 with size := p.2 } =
      isLargePrint (page.map Prod.fst) n p.1 := by
  obtain ⟨scale, hscale⟩ := h.exists_scale
  rw [Bool.eq_iff_iff, h.areNumbers_resized.isLargePrint_iff (h.isNaN_given p hp),
    h.areNumbers.isLargePrint_iff (h.isNaN_size p hp), largestSizes_eq_take, largestSizes_eq_take,
    List.map_take, List.map_take, h.map_rank_distinctSizes_resized hscale, ← List.map_take,
    List.mem_map, ← hscale p hp]
  constructor
  · rintro ⟨before, hbefore, heq⟩
    obtain ⟨q, hq, rfl⟩ := h.mem_map_rank_distinctSizes.1 (List.mem_of_mem_take hbefore)
    rw [hscale q hq, hscale p hp, h.rank_eq_iff hq hp] at heq
    rwa [← heq]
  · intro hrank
    exact ⟨p.1.size.rank, hrank, rfl⟩

end KeepsOrder
end Span

namespace HeadingSettings

open Precis.Span (KeepsOrder resized)

variable {page : List (Span × FontSize)} {sizes sizes' : List FontSize} {d d' : HeadingDraft}

/-- Two drafts that are the same but for the last size, which each compares to the sizes of its page
alike. -/
structure Alike (page : List (Span × FontSize)) (d d' : HeadingDraft) : Prop where
  text : d'.text = d.text
  fragments : d'.fragments = d.fragments
  words : d'.words = d.words
  lastSize : ∀ p ∈ page, d'.lastSize.any (·.same p.2) = d.lastSize.any (·.same p.1.size)

theorem alike_empty : Alike page {} {} :=
  ⟨rfl, rfl, rfl, fun _ _ => by rw [Option.any_none, Option.any_none]⟩

variable (s : HeadingSettings)

theorem Alike.isComplete_eq (h : Alike page d d') : s.isComplete d' = s.isComplete d := by
  rw [isComplete, h.fragments, h.words, isComplete]

theorem Alike.append (h : Alike page d d') (hpage : KeepsOrder page) {p : Span × FontSize}
    (hp : p ∈ page) : Alike page (s.append d p.1) (s.append d' { p.1 with size := p.2 }) where
  text := by
    have hjoint : joint d'.lastSize { p.1 with size := p.2 } = joint d.lastSize p.1 := by
      rw [joint, h.lastSize p hp, joint]
    simp only [HeadingSettings.append, h.text, hjoint]
    rfl
  fragments := congrArg (· + 1) h.fragments
  words := congrArg (· + (s.keptWords p.1).length) h.words
  lastSize := fun q hq => hpage.same p hp q hq

theorem Alike.step (h : Alike page d d') (hpage : KeepsOrder page) {p : Span × FontSize}
    (hp : p ∈ page) (hlarge : sizes'.any (·.same p.2) = sizes.any (·.same p.1.size)) :
    Alike page (s.step sizes d p.1) (s.step sizes' d' { p.1 with size := p.2 }) := by
  rw [HeadingSettings.step, HeadingSettings.step, hlarge]
  split
  · exact h
  · split
    · exact h
    · exact h.append s hpage hp

/-- Both drafts are complete at the same span, for they are alike all the way. -/
theorem Alike.compose (h : Alike page d d') (hpage : KeepsOrder page)
    (hlarge : ∀ p ∈ page, sizes'.any (·.same p.2) = sizes.any (·.same p.1.size))
    {rest : List (Span × FontSize)} (hrest : ∀ p ∈ rest, p ∈ page) :
    Alike page (s.compose sizes d (rest.map Prod.fst)) (s.compose sizes' d' (resized rest)) := by
  induction rest generalizing d d' with
  | nil => exact h
  | cons p rest ih =>
      obtain ⟨hp, htail⟩ := List.forall_mem_cons.1 hrest
      rw [resized, List.map_cons, List.map_cons, HeadingSettings.compose, HeadingSettings.compose,
        h.isComplete_eq]
      split
      · exact h
      · exact ih (h.step s hpage hp (hlarge p hp)) htail

/-- A heading depends on the order of the sizes alone: in other sizes that compare as the ones of the
page do, the page has the same heading. -/
theorem heading_of_size_order (h : KeepsOrder page) :
    s.headingText (resized page) = s.headingText (page.map Prod.fst) := by
  have hlarge : ∀ p ∈ page,
      (Span.largestSizes (resized page) s.fontSizes.toNat).any (·.same p.2) =
        (Span.largestSizes (page.map Prod.fst) s.fontSizes.toNat).any (·.same p.1.size) :=
    fun p hp => h.isLargePrint_resized s.fontSizes.toNat hp
  have hdrafts := alike_empty.compose s h hlarge fun _ hp => hp
  rw [headingText, hdrafts.text, headingText]

/-- The title gets an infinite size, the subtitle size one, and two lines of small print the two zeros. -/
theorem heading_of_size_order_infinite :
    let page : List (Span × FontSize) := [
      (⟨0, .nearest 36 1, "Coastal Towns".toList⟩, ⟨0x7F800000⟩),
      (⟨1, .nearest 12 1, "page 1".toList⟩, ⟨0⟩),
      (⟨2, .nearest 12 1, "a note".toList⟩, ⟨0x80000000⟩),
      (⟨3, .nearest 24 1, "A Second Line".toList⟩, ⟨0x3F800000⟩)]
    let s : HeadingSettings := { fontSizes := 2 }
    KeepsOrder page ∧ resized page ≠ page.map Prod.fst ∧
      s.headingText (resized page) = s.headingText (page.map Prod.fst) := by
  intro page s
  have hpage : KeepsOrder page :=
    ⟨by decide +kernel, by decide +kernel, by decide +kernel, by decide +kernel⟩
  exact ⟨hpage, by decide +kernel, heading_of_size_order s hpage⟩

end HeadingSettings
end Precis
