import Mathlib.Data.List.Infix
import Precis.Text.Link

/-!
Where links stand in a text. The search for links finds one wherever one starts, and what it writes
in place of a link no link can hold, so none is left when it is through.
-/

namespace Precis.Text

def schemes : List Text :=
  ["http://".toList, "https://".toList]

/-- A scheme, characters that a link may hold, and one that it may end with. -/
def IsLink (l : Text) : Prop :=
  ∃ scheme ∈ schemes, ∃ (body : Text) (last : Char), l = scheme ++ (body ++ [last]) ∧
    (∀ c ∈ body, continuesLink c = true) ∧ endsLink last = true

def HasLink (t : Text) : Prop :=
  ∃ l, IsLink l ∧ l <:+: t

theorem dropFront?_eq_some_iff {front t rest : Text} :
    dropFront? front t = some rest ↔ t = front ++ rest := by
  induction front generalizing t with
  | nil => simp [dropFront?]
  | cons c front ih =>
      cases t with
      | nil => simp [dropFront?]
      | cons d t =>
          simp only [dropFront?, List.cons_append, List.cons.injEq]
          by_cases hc : c = d
          · simp [hc, ih]
          · simp [hc, Ne.symm hc]

theorem dropScheme?_eq_some_iff {t rest : Text} :
    dropScheme? t = some rest ↔ ∃ scheme ∈ schemes, t = scheme ++ rest := by
  constructor
  · intro h
    unfold dropScheme? at h
    split at h
    · simp at h
    · next hfront =>
      obtain rfl := dropFront?_eq_some_iff.1 hfront
      obtain rfl := dropFront?_eq_some_iff.1 h
      exact ⟨"https://".toList, by decide, rfl⟩
    · next hfront =>
      obtain rfl := dropFront?_eq_some_iff.1 hfront
      obtain rfl := dropFront?_eq_some_iff.1 h
      exact ⟨"http://".toList, by decide, rfl⟩
  · rintro ⟨scheme, hscheme, rfl⟩
    simp only [schemes, List.mem_cons, List.not_mem_nil, or_false] at hscheme
    cases hscheme with
    | inl heq => rw [heq]; rfl
    | inr heq => rw [heq]; rfl

theorem continuesLink_of_endsLink {c : Char} (h : endsLink c = true) : continuesLink c = true := by
  simp [continuesLink, h]

theorem exists_of_dropAddress? {t rest : Text} (h : dropAddress? t = some rest) :
    ∃ (body : Text) (last : Char), t = body ++ last :: rest ∧
      (∀ c ∈ body, continuesLink c = true) ∧ endsLink last = true := by
  induction t with
  | nil => simp [dropAddress?] at h
  | cons c t ih =>
      simp only [dropAddress?] at h
      split at h
      · next hc =>
        split at h
        · next left hleft =>
          obtain ⟨body, last, rfl, hbody, hlast⟩ := ih (hleft.trans h)
          exact ⟨c :: body, last, rfl, List.forall_mem_cons.2 ⟨hc, hbody⟩, hlast⟩
        · split at h
          · next hend =>
            obtain rfl := Option.some.inj h
            exact ⟨[], c, rfl, by simp, hend⟩
          · simp at h
      · simp at h

theorem dropAddress?_ne_none {body : Text} {last : Char} (t : Text)
    (hbody : ∀ c ∈ body, continuesLink c = true) (hlast : endsLink last = true) :
    dropAddress? (body ++ last :: t) ≠ none := by
  induction body with
  | nil =>
      simp only [List.nil_append, dropAddress?, continuesLink_of_endsLink hlast, hlast, ite_true]
      split <;> simp
  | cons c body ih =>
      obtain ⟨hc, hbody⟩ := List.forall_mem_cons.1 hbody
      have hrest := ih hbody
      simp only [List.cons_append, dropAddress?, hc, ite_true]
      split
      · simp
      · next hnone => exact absurd hnone hrest

theorem exists_of_dropLink? {t rest : Text} (h : dropLink? t = some rest) :
    ∃ l, IsLink l ∧ t = l ++ rest := by
  obtain ⟨address, hdrop, haddress⟩ := Option.bind_eq_some_iff.1 h
  obtain ⟨scheme, hscheme, rfl⟩ := dropScheme?_eq_some_iff.1 hdrop
  obtain ⟨body, last, rfl, hbody, hlast⟩ := exists_of_dropAddress? haddress
  exact ⟨scheme ++ (body ++ [last]), ⟨scheme, hscheme, body, last, rfl, hbody, hlast⟩, by simp⟩

/-- The search finds a link exactly where one starts. -/
theorem dropLink?_eq_none_iff {t : Text} :
    dropLink? t = none ↔ ∀ l, IsLink l → ¬ l <+: t := by
  constructor
  · rintro hnone l ⟨scheme, hscheme, body, last, rfl, hbody, hlast⟩ ⟨rest, rfl⟩
    have hdrop : dropScheme? (scheme ++ (body ++ [last]) ++ rest) = some (body ++ last :: rest) :=
      dropScheme?_eq_some_iff.2 ⟨scheme, hscheme, by simp⟩
    rw [dropLink?, hdrop, Option.bind_some] at hnone
    exact dropAddress?_ne_none rest hbody hlast hnone
  · intro hno
    cases hlink : dropLink? t with
    | none => rfl
    | some rest =>
        obtain ⟨l, hl, rfl⟩ := exists_of_dropLink? hlink
        exact absurd (List.prefix_append l rest) (hno l hl)

theorem IsLink.continuesLink_of_mem {l : Text} (h : IsLink l) {c : Char} (hc : c ∈ l) :
    continuesLink c = true := by
  obtain ⟨scheme, hscheme, body, last, rfl, hbody, hlast⟩ := h
  have hschemes : schemes.all (fun s => s.all continuesLink) = true := by decide
  simp only [List.mem_append, List.mem_singleton] at hc
  rcases hc with hc | hc | rfl
  · exact List.all_eq_true.1 (List.all_eq_true.1 hschemes scheme hscheme) c hc
  · exact hbody c hc
  · exact continuesLink_of_endsLink hlast

theorem IsLink.not_mem_space {l : Text} (h : IsLink l) : ' ' ∉ l := by
  intro hmem
  exact absurd (h.continuesLink_of_mem hmem) (by decide)

theorem IsLink.ne_nil {l : Text} (h : IsLink l) : l ≠ [] := by
  obtain ⟨scheme, -, body, last, rfl, -, -⟩ := h
  simp

theorem dropLinks_of_none {c : Char} {t : Text} (h : dropLink? (c :: t) = none) :
    dropLinks (c :: t) = c :: dropLinks t := by
  rw [dropLinks]
  split
  · next hlink => simp [h] at hlink
  · rfl

theorem length_dropLinks_le (t : Text) : (dropLinks t).length ≤ t.length := by
  fun_induction dropLinks t with
  | case1 => simp
  | case2 c t rest hlink ih =>
      have := length_of_dropLink? hlink
      simp only [List.length_cons] at *
      omega
  | case3 c t hlink ih => simpa using ih

/-- What no link can hold is never taken out. -/
theorem mem_dropLinks {t : Text} {c : Char} (hc : continuesLink c = false) (h : c ∈ t) :
    c ∈ dropLinks t := by
  fun_induction dropLinks t with
  | case1 => exact h
  | case2 d t rest hlink ih =>
      obtain ⟨l, hl, heq⟩ := exists_of_dropLink? hlink
      rw [heq, List.mem_append] at h
      refine List.mem_cons_of_mem ' ' (ih (h.resolve_left fun hmem => ?_))
      simp [hl.continuesLink_of_mem hmem] at hc
  | case3 d t hlink ih =>
      rw [List.mem_cons] at h ⊢
      exact h.imp_right ih

/-- Up to the first space nothing has been taken out. -/
theorem prefix_of_prefix_dropLinks {l t : Text} (hl : ' ' ∉ l) (h : l <+: dropLinks t) :
    l <+: t := by
  fun_induction dropLinks t generalizing l with
  | case1 => exact h
  | case2 c t rest hlink ih =>
      cases l with
      | nil => exact List.nil_prefix
      | cons d l =>
          obtain ⟨rfl, -⟩ := List.cons_prefix_cons.1 h
          simp at hl
  | case3 c t hlink ih =>
      cases l with
      | nil => exact List.nil_prefix
      | cons d l =>
          obtain ⟨rfl, hstart⟩ := List.cons_prefix_cons.1 h
          have hrest : ' ' ∉ l := fun hmem => hl (List.mem_cons_of_mem d hmem)
          exact List.cons_prefix_cons.2 ⟨rfl, ih hrest hstart⟩

theorem not_hasLink_dropLinks (t : Text) : ¬ HasLink (dropLinks t) := by
  rintro ⟨l, hl, hin⟩
  fun_induction dropLinks t with
  | case1 => exact hl.ne_nil (List.infix_nil.1 hin)
  | case2 c t rest hlink ih =>
      cases List.infix_cons_iff.1 hin with
      | inl hstart =>
          obtain ⟨d, l, rfl⟩ := List.exists_cons_of_ne_nil hl.ne_nil
          obtain ⟨rfl, -⟩ := List.cons_prefix_cons.1 hstart
          exact hl.not_mem_space List.mem_cons_self
      | inr hin => exact ih hin
  | case3 c t hlink ih =>
      cases List.infix_cons_iff.1 hin with
      | inl hstart =>
          -- the link starts where the search has just failed
          rw [← dropLinks_of_none hlink] at hstart
          have hgiven := prefix_of_prefix_dropLinks hl.not_mem_space hstart
          exact dropLink?_eq_none_iff.1 hlink l hl hgiven
      | inr hin => exact ih hin

theorem dropLinks_of_not_hasLink {t : Text} (h : ¬ HasLink t) : dropLinks t = t := by
  induction t with
  | nil => rw [dropLinks]
  | cons c t ih =>
      have hnone : dropLink? (c :: t) = none :=
        dropLink?_eq_none_iff.2 fun l hl hstart => h ⟨l, hl, hstart.isInfix⟩
      rw [dropLinks_of_none hnone, ih]
      rintro ⟨l, hl, hin⟩
      exact h ⟨l, hl, hin.trans (List.suffix_cons c t).isInfix⟩

end Precis.Text
