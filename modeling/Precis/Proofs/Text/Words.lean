import Mathlib.Data.List.DropRight
import Precis.Text.Basic

/-!
The words of a text. White space parts words wherever it stands, so what stands on both sides of it
can be taken apart, and trimming keeps the words.
-/

namespace Precis.Text

/-- What white space can part from its neighbours and not within itself. -/
def IsWord (w : Text) : Prop :=
  w ≠ [] ∧ ∀ c ∈ w, isSpace c = false

/-- No white space at either end. -/
def IsTrimmed (t : Text) : Prop :=
  (∀ c ∈ t.head?, isSpace c = false) ∧ ∀ c ∈ t.getLast?, isSpace c = false

@[simp]
theorem words_nil : words [] = [] := by
  simp [words]

theorem words_append_space {c : Char} (hc : isSpace c = true) (a b : Text) :
    words (a ++ c :: b) = words a ++ words b := by
  unfold words
  rw [List.splitOnP_append_cons a b hc, List.filter_append]

theorem words_cons_space {c : Char} (hc : isSpace c = true) (t : Text) :
    words (c :: t) = words t := by
  have h := words_append_space hc [] t
  rwa [List.nil_append, words_nil, List.nil_append] at h

theorem words_of_isWord {w : Text} (h : IsWord w) : words w = [w] := by
  have hne : w.isEmpty = false := by simpa using h.1
  rw [words, List.splitOnP_eq_singleton h.2]
  simp [hne]

/-- The first piece starts the text, all pieces lie in it, and none holds what parts them. -/
theorem splitOnP_pieces (p : Char → Bool) (t : Text) :
    ∃ front pieces, t.splitOnP p = front :: pieces ∧ front <+: t ∧ (∀ c ∈ front, p c = false) ∧
      ∀ w ∈ pieces, w <:+: t ∧ ∀ c ∈ w, p c = false := by
  induction t with
  | nil => exact ⟨[], [], by simp, by simp, by simp, by simp⟩
  | cons c t ih =>
      obtain ⟨front, pieces, hsplit, hfront, hclear, hpieces⟩ := ih
      have htail : ∀ w ∈ pieces, w <:+: c :: t ∧ ∀ d ∈ w, p d = false := by
        intro w hw
        exact ⟨(hpieces w hw).1.trans (List.suffix_cons c t).isInfix, (hpieces w hw).2⟩
      rw [List.splitOnP_cons_eq_if_modifyHead, hsplit]
      cases hc : p c with
      | true =>
          refine ⟨[], front :: pieces, by simp, List.nil_prefix, by simp, ?_⟩
          have hin : front <:+: c :: t := hfront.isInfix.trans (List.suffix_cons c t).isInfix
          exact List.forall_mem_cons.2 ⟨⟨hin, hclear⟩, htail⟩
      | false =>
          refine ⟨c :: front, pieces, by simp, List.cons_prefix_cons.2 ⟨rfl, hfront⟩, ?_, htail⟩
          exact List.forall_mem_cons.2 ⟨hc, hclear⟩

theorem mem_splitOnP {p : Char → Bool} {t w : Text} (h : w ∈ t.splitOnP p) :
    w <:+: t ∧ ∀ c ∈ w, p c = false := by
  obtain ⟨front, pieces, hsplit, hfront, hclear, hpieces⟩ := splitOnP_pieces p t
  rw [hsplit] at h
  exact List.forall_mem_cons.2 ⟨⟨hfront.isInfix, hclear⟩, hpieces⟩ w h

theorem mem_words {t w : Text} (h : w ∈ words t) : IsWord w ∧ w <:+: t := by
  obtain ⟨hmem, hne⟩ := List.mem_filter.1 h
  obtain ⟨hin, hclear⟩ := mem_splitOnP hmem
  exact ⟨⟨by simpa using hne, hclear⟩, hin⟩

theorem words_cons_ne_nil {c : Char} (hc : isSpace c = false) (t : Text) :
    words (c :: t) ≠ [] := by
  obtain ⟨front, pieces, hsplit, -⟩ := splitOnP_pieces isSpace t
  simp [words, List.splitOnP_cons_eq_if_modifyHead, hsplit, hc]

theorem words_eq_nil_iff {t : Text} : words t = [] ↔ ∀ c ∈ t, isSpace c = true := by
  induction t with
  | nil => simp
  | cons c t ih =>
      cases hc : isSpace c with
      | false => simp [words_cons_ne_nil hc, hc]
      | true =>
          rw [words_cons_space hc, ih]
          simp [hc]

theorem words_trimStart (t : Text) : words (trimStart t) = words t := by
  induction t with
  | nil => rfl
  | cons c t ih =>
      cases hc : isSpace c with
      | false => simp [trimStart, hc]
      | true =>
          rw [words_cons_space hc, ← ih]
          simp [trimStart, hc]

theorem words_trimEnd (t : Text) : words (trimEnd t) = words t := by
  induction t using List.reverseRecOn with
  | nil => rfl
  | append_singleton t c ih =>
      cases hc : isSpace c with
      | false => simp [trimEnd, hc]
      | true =>
          rw [words_append_space hc, words_nil, List.append_nil, ← ih]
          simp [trimEnd, hc]

theorem words_trim (t : Text) : words (trim t) = words t := by
  rw [trim, words_trimEnd, words_trimStart]

theorem trim_eq_nil_iff {t : Text} : trim t = [] ↔ words t = [] := by
  constructor
  · intro h
    rw [← words_trim, h, words_nil]
  · intro h
    have hall := words_eq_nil_iff.1 h
    have hstart : trimStart t = [] := List.dropWhile_eq_nil_iff.2 hall
    rw [trim, hstart]
    rfl

theorem trim_prefix_trimStart (t : Text) : trim t <+: trimStart t :=
  List.rdropWhile_prefix isSpace _

theorem length_trim_le (t : Text) : (trim t).length ≤ t.length :=
  calc (trim t).length ≤ (trimStart t).length := (trim_prefix_trimStart t).length_le
    _ ≤ t.length := (List.dropWhile_suffix isSpace).length_le

theorem mem_trim {t : Text} {c : Char} (hc : isSpace c = false) (h : c ∈ t) : c ∈ trim t := by
  have hdrop : ∀ u : Text, c ∈ u → c ∈ u.dropWhile isSpace := by
    intro u hu
    rw [← List.takeWhile_append_dropWhile (p := isSpace) (l := u), List.mem_append] at hu
    refine hu.resolve_left fun htake => ?_
    simp [List.mem_takeWhile_imp htake] at hc
  rw [trim, trimEnd, List.mem_reverse]
  exact hdrop _ (List.mem_reverse.2 (hdrop t h))

theorem isEmpty_trim (t : Text) : (trim t).isEmpty = isBlank t := by
  rw [Bool.eq_iff_iff, List.isEmpty_iff, trim_eq_nil_iff, words_eq_nil_iff, isBlank,
    List.all_eq_true]

theorem isTrimmed_trim (t : Text) : IsTrimmed (trim t) := by
  constructor
  · intro c hc
    obtain ⟨rest, hrest⟩ := trim_prefix_trimStart t
    have h := List.head?_dropWhile_not isSpace t
    rw [show t.dropWhile isSpace = trim t ++ rest from hrest.symm, List.head?_append,
      Option.mem_def.1 hc] at h
    simpa using h
  · intro c hc
    have h := List.head?_dropWhile_not isSpace (trimStart t).reverse
    rw [trim, trimEnd, List.getLast?_reverse] at hc
    rw [Option.mem_def.1 hc] at h
    simpa using h

end Precis.Text
