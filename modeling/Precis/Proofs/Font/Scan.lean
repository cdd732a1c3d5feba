import Mathlib.Data.List.TakeWhile
import Precis.Font.Tag

/-!
Reading a tag is the inverse of writing one: it finds exactly the tags in the text, with the whole
run behind them. The search for tags never looks past an opening bracket, so what stands before a
bracket and what stands behind it are searched apart.
-/

namespace Precis
namespace Tag

/-- A tag with the digits that it needs, of any script, and a run that no other tag can start in. -/
structure IsTagged (tag : Tag) : Prop where
  index : ∀ c ∈ tag.index, Unicode.isDigit c = true
  whole : ∀ c ∈ tag.whole, Unicode.isDigit c = true
  fraction : ∀ c ∈ tag.fraction, Unicode.isDigit c = true
  text : '[' ∉ tag.text
  wellFormed : tag.isWellFormed = true

/-- Nothing, or a text that starts with an opening bracket. -/
def StartsTag (t : Text) : Prop :=
  ∀ c ∈ t.head?, c = '['

theorem isDigit_of_digitsBefore? {stop : Char} {t digits rest : Text}
    (h : digitsBefore? stop t = some (digits, rest)) : ∀ c ∈ digits, Unicode.isDigit c = true := by
  unfold digitsBefore? at h
  split at h
  · simp at h
  · simp only [Option.ite_none_right_eq_some, Option.some.injEq, Prod.mk.injEq] at h
    obtain ⟨-, rfl, -⟩ := h
    intro c hc
    exact List.mem_takeWhile_imp hc

theorem digitsBefore?_append {stop : Char} {digits : Text} (rest : Text)
    (hstop : Unicode.isDigit stop = false) (hdigits : ∀ c ∈ digits, Unicode.isDigit c = true) :
    digitsBefore? stop (digits ++ stop :: rest) = some (digits, rest) := by
  have hneg : ¬ Unicode.isDigit stop = true := by simp [hstop]
  have htake : (digits ++ stop :: rest).takeWhile Unicode.isDigit = digits := by
    rw [List.takeWhile_append_of_pos hdigits, List.takeWhile_cons_of_neg hneg, List.append_nil]
  have hdrop : (digits ++ stop :: rest).dropWhile Unicode.isDigit = stop :: rest := by
    rw [List.dropWhile_append_of_pos hdigits, List.dropWhile_cons_of_neg hneg]
  simp [digitsBefore?, htake, hdrop]

private theorem run_append {run rest : Text} (hrun : '[' ∉ run) (hrest : StartsTag rest) :
    (run ++ rest).takeWhile (· != '[') = run ∧ (run ++ rest).dropWhile (· != '[') = rest := by
  have hpos : ∀ c ∈ run, (c != '[') = true := by
    intro c hc
    have hne : c ≠ '[' := fun h => hrun (h ▸ hc)
    simpa using hne
  rw [List.takeWhile_append_of_pos hpos, List.dropWhile_append_of_pos hpos]
  cases rest with
  | nil => simp
  | cons c rest => simp [hrest c rfl]

private theorem startsTag_dropWhile (t : Text) : StartsTag (t.dropWhile (· != '[')) := by
  intro c hc
  have h := List.head?_dropWhile_not (· != '[') t
  rw [Option.mem_def.1 hc] at h
  simpa using h

theorem isTagged_of_read? {t rest : Text} {tag : Tag} (h : read? t = some (tag, rest)) :
    tag.IsTagged ∧ StartsTag rest := by
  unfold read? at h
  split at h
  · next t =>
    obtain ⟨⟨index, t₁⟩, hindex, h⟩ := Option.bind_eq_some_iff.1 h
    obtain ⟨⟨whole, t₂⟩, hwhole, h⟩ := Option.bind_eq_some_iff.1 h
    obtain ⟨⟨fraction, t₃⟩, hfraction, h⟩ := Option.bind_eq_some_iff.1 h
    simp only [Option.ite_none_right_eq_some, Option.some.injEq, Prod.mk.injEq] at h
    obtain ⟨hwf, rfl, rfl⟩ := h
    refine ⟨⟨isDigit_of_digitsBefore? hindex, isDigit_of_digitsBefore? hwhole,
      isDigit_of_digitsBefore? hfraction, ?_, hwf⟩, startsTag_dropWhile t₃⟩
    intro hmem
    simpa using List.mem_takeWhile_imp hmem
  · simp at h

theorem read?_render {tag : Tag} {rest : Text} (htag : tag.IsTagged) (hrest : StartsTag rest) :
    read? (tag.render ++ rest) = some (tag, rest) := by
  obtain ⟨index, whole, fraction, text⟩ := tag
  obtain ⟨htake, hdrop⟩ := run_append htag.text hrest
  have hspace : Unicode.isDigit ' ' = false := by decide
  have hpoint : Unicode.isDigit '.' = false := by decide
  have hclose : Unicode.isDigit ']' = false := by decide
  simp only [render, List.append_assoc, List.cons_append, read?, Option.bind_eq_bind,
    digitsBefore?_append _ hspace htag.index, digitsBefore?_append _ hpoint htag.whole,
    digitsBefore?_append _ hclose htag.fraction, Option.bind_some, htake, hdrop,
    htag.wellFormed, ite_true]

/-- Reading finds a tag exactly where one is written, and leaves what follows its run. -/
theorem read?_eq_some_iff {t rest : Text} {tag : Tag} :
    read? t = some (tag, rest) ↔ tag.IsTagged ∧ StartsTag rest ∧ t = tag.render ++ rest := by
  constructor
  · intro h
    obtain ⟨htag, hrest⟩ := isTagged_of_read? h
    exact ⟨htag, hrest, eq_of_read? h⟩
  · rintro ⟨htag, hrest, rfl⟩
    exact read?_render htag hrest

theorem IsTagged.render_eq {tag : Tag} (h : tag.IsTagged) :
    ∃ body, tag.render = '[' :: body ∧ '[' ∉ body := by
  refine ⟨_, rfl, ?_⟩
  have hdigit : ∀ digits : Text, (∀ c ∈ digits, Unicode.isDigit c = true) → '[' ∉ digits := by
    intro digits hdigits hmem
    exact absurd (hdigits _ hmem) (by decide)
  simp [hdigit _ h.index, hdigit _ h.whole, hdigit _ h.fraction, h.text]

/-- A tag that starts before a bracket ends before it. -/
theorem read?_of_append {a b rest : Text} {tag : Tag} (ha : a ≠ [])
    (h : read? (a ++ '[' :: b) = some (tag, rest)) : ∃ left, read? a = some (tag, left) := by
  obtain ⟨htag, hrest, heq⟩ := read?_eq_some_iff.1 h
  obtain ⟨body, hbody, hbracket⟩ := htag.render_eq
  obtain ⟨c, a, rfl⟩ := List.exists_cons_of_ne_nil ha
  rw [hbody, List.cons_append, List.cons_append, List.cons.injEq] at heq
  obtain ⟨rfl, heq⟩ := heq
  obtain ⟨left, rfl⟩ : ∃ left, a = body ++ left := by
    cases List.append_eq_append_iff.1 heq with
    | inl hbeyond =>
        obtain ⟨more, rfl, hmore⟩ := hbeyond
        cases more with
        | nil => exact ⟨[], by simp⟩
        | cons d more =>
            obtain ⟨rfl, -⟩ := List.cons.inj hmore
            simp at hbracket
    | inr hbefore =>
        obtain ⟨more, rfl, -⟩ := hbefore
        exact ⟨more, rfl⟩
  have hleft : StartsTag left := by
    rw [List.append_assoc, List.append_cancel_left_eq] at heq
    intro d hd
    refine hrest d ?_
    rw [← heq, List.head?_append, Option.mem_def.1 hd]
    rfl
  exact ⟨left, read?_eq_some_iff.2 ⟨htag, hleft, by rw [hbody, List.cons_append]⟩⟩

/-- A bracket behind a text changes nothing about the tag that the text starts with. -/
theorem read?_append {a : Text} (ha : a ≠ []) (b : Text) :
    read? (a ++ '[' :: b) = (read? a).map fun found => (found.1, found.2 ++ '[' :: b) := by
  cases hread : read? a with
  | some found =>
      obtain ⟨tag, rest⟩ := found
      obtain ⟨htag, hrest, rfl⟩ := read?_eq_some_iff.1 hread
      refine read?_eq_some_iff.2 ⟨htag, ?_, by simp⟩
      cases rest with
      | nil => intro c hc; simpa using hc.symm
      | cons d rest => exact hrest
  | none =>
      cases hfound : read? (a ++ '[' :: b) with
      | none => rfl
      | some found =>
          obtain ⟨left, hleft⟩ := read?_of_append ha hfound
          rw [hread] at hleft
          exact absurd hleft (by simp)

theorem read?_eq_none_of_not_mem {t : Text} (h : '[' ∉ t) : read? t = none := by
  cases hread : read? t with
  | none => rfl
  | some found =>
      obtain ⟨tag, rest⟩ := found
      rw [eq_of_read? hread] at h
      simp [render] at h

end Tag

namespace Span

theorem scan_of_read? {t rest : Text} {tag : Tag} (h : Tag.read? t = some (tag, rest)) :
    scan t = tag.span?.toList ++ scan rest := by
  cases t with
  | nil => simp [Tag.read?] at h
  | cons c t =>
      rw [scan]
      split
      · next hread =>
        obtain ⟨rfl, rfl⟩ := Prod.mk.inj (Option.some.inj (h.symm.trans hread))
        rfl
      · next hread => simp [h] at hread

theorem scan_cons_of_read?_eq_none {c : Char} {t : Text} (h : Tag.read? (c :: t) = none) :
    scan (c :: t) = scan t := by
  rw [scan]
  split
  · next hread => simp [h] at hread
  · rfl

theorem scan_append_bracket (a b : Text) : scan (a ++ '[' :: b) = scan a ++ scan ('[' :: b) := by
  fun_induction scan a with
  | case1 => rfl
  | case2 c t tag rest hread ih =>
      have happend := Tag.read?_append (List.cons_ne_nil c t) b
      rw [hread] at happend
      rw [scan_of_read? happend, ih, List.append_assoc]
  | case3 c t hread ih =>
      have happend := Tag.read?_append (List.cons_ne_nil c t) b
      rw [hread] at happend
      exact (scan_cons_of_read?_eq_none happend).trans ih

theorem scan_eq_nil_of_not_mem {t : Text} (h : '[' ∉ t) : scan t = [] := by
  induction t with
  | nil => rw [scan]
  | cons c t ih =>
      rw [scan_cons_of_read?_eq_none (Tag.read?_eq_none_of_not_mem h)]
      exact ih fun hmem => h (List.mem_cons_of_mem c hmem)

theorem length_scan_segment {segment : Text} (h : '[' ∉ segment) :
    (scan ('[' :: segment)).length ≤ 1 := by
  cases hread : Tag.read? ('[' :: segment) with
  | none =>
      rw [scan_cons_of_read?_eq_none hread, scan_eq_nil_of_not_mem h]
      simp
  | some found =>
      obtain ⟨tag, rest⟩ := found
      have hrest : '[' ∉ rest := by
        have heq := Tag.eq_of_read? hread
        rw [Tag.render, List.cons_append, List.cons.injEq] at heq
        intro hmem
        exact h (heq.2 ▸ List.mem_append_right _ hmem)
      rw [scan_of_read? hread, scan_eq_nil_of_not_mem hrest, List.append_nil]
      cases tag.span? <;> simp

theorem scan_append_segments (a : Text) (segments : List Text) :
    scan (a ++ segments.flatMap ('[' :: ·)) =
      scan a ++ segments.flatMap fun segment => scan ('[' :: segment) := by
  induction segments generalizing a with
  | nil => simp
  | cons segment segments ih =>
      rw [List.flatMap_cons, List.flatMap_cons, List.cons_append, scan_append_bracket,
        ← List.cons_append, ih]

theorem splitOn_bracket (t : Text) :
    ∃ front segments, t.splitOn '[' = front :: segments ∧ '[' ∉ front ∧
      t = front ++ segments.flatMap ('[' :: ·) := by
  induction t with
  | nil => exact ⟨[], [], by simp⟩
  | cons c t ih =>
      obtain ⟨front, segments, hsplit, hfront, heq⟩ := ih
      rw [List.splitOn_cons_eq_if_modifyHead, hsplit]
      by_cases hc : c = '['
      · refine ⟨[], front :: segments, by simp [hc], by simp, ?_⟩
        rw [List.nil_append, List.flatMap_cons, List.cons_append, ← heq, hc]
      · refine ⟨c :: front, segments, by simp [hc], ?_, by rw [List.cons_append, ← heq]⟩
        simpa [hfront] using fun h => hc h.symm

/-- Scanning is local to the segments between brackets: the first one yields nothing, each other one
yields on its own what it yields in its place. -/
theorem scan_local :
    (∀ a b : Text, scan (a ++ '[' :: b) = scan a ++ scan ('[' :: b)) ∧
    (∀ t : Text, scan t = (t.splitOn '[').tail.flatMap fun segment => scan ('[' :: segment)) ∧
    (∀ front : Text, '[' ∉ front → scan front = []) ∧
    ∀ segment : Text, '[' ∉ segment → (scan ('[' :: segment)).length ≤ 1 := by
  refine ⟨scan_append_bracket, ?_, fun _ => scan_eq_nil_of_not_mem, fun _ => length_scan_segment⟩
  intro t
  obtain ⟨front, segments, hsplit, hfront, heq⟩ := splitOn_bracket t
  calc scan t = scan (front ++ segments.flatMap ('[' :: ·)) := congrArg scan heq
    _ = scan front ++ segments.flatMap fun segment => scan ('[' :: segment) :=
      scan_append_segments front segments
    _ = (t.splitOn '[').tail.flatMap fun segment => scan ('[' :: segment) := by
      rw [scan_eq_nil_of_not_mem hfront, List.nil_append, hsplit, List.tail_cons]

/-- A tag that breaks off stands before one with digits of another script, which is found and
dropped. -/
theorem scan_local_broken_tag :
    let broken := "[1 12.5]a[2 30".toList
    let dropped := "3 \u0663\u0660.0]b".toList
    scan (broken ++ '[' :: dropped) = scan broken ++ scan ('[' :: dropped) ∧
    '[' ∉ "front".toList ∧ scan "front".toList = [] ∧
    '[' ∉ dropped ∧ (scan ('[' :: dropped)).length ≤ 1 := by
  intro broken dropped
  have hfront : '[' ∉ "front".toList := by decide
  have hdropped : '[' ∉ dropped := by decide
  exact ⟨scan_local.1 broken dropped, hfront, scan_local.2.2.1 _ hfront, hdropped,
    scan_local.2.2.2 _ hdropped⟩

end Span
end Precis
