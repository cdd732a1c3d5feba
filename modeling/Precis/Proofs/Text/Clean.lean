import Precis.Proofs.Text.Join
import Precis.Proofs.Text.Link
import Precis.Text.Clean

/-!
Cleaning a text brings it to a normal form and keeps a text that is in it. What is taken out leaves
a space behind, and no link holds a space, so a link in the clean text would have been left over by
the search for links.
-/

namespace Precis.Text

theorem not_isUnprintable_of_mem_blankUnprintable {t : Text} {c : Char}
    (h : c ∈ blankUnprintable t) : Unicode.isUnprintable c = false := by
  obtain ⟨d, -, rfl⟩ := List.mem_map.1 h
  cases hd : Unicode.isUnprintable d with
  | true =>
      rw [if_pos rfl]
      decide
  | false => simpa using hd

theorem blankUnprintable_of_forall {t : Text} (h : ∀ c ∈ t, Unicode.isUnprintable c = false) :
    blankUnprintable t = t := by
  rw [blankUnprintable]
  refine (List.map_congr_left fun c hc => ?_).trans (List.map_id t)
  simp [h c hc]

/-- What holds no space has been left as it was. -/
theorem isInfix_of_isInfix_blankUnprintable {l t : Text} (hl : ' ' ∉ l)
    (h : l <:+: blankUnprintable t) : l <:+: t := by
  obtain ⟨front, back, heq⟩ := h
  obtain ⟨left, after, rfl, hleft, -⟩ := List.append_eq_map_iff.1 heq
  obtain ⟨before, kept, rfl, -, hkept⟩ := List.map_eq_append_iff.1 hleft
  have hsame : kept = l := by
    rw [← hkept]
    refine ((List.map_congr_left fun c hc => ?_).trans (List.map_id kept)).symm
    cases hd : Unicode.isUnprintable c with
    | false => simp
    | true =>
        refine absurd ?_ hl
        rw [← hkept]
        exact List.mem_map.2 ⟨c, hc, by simp [hd]⟩
  exact hsame ▸ List.infix_append before kept after

/-- Single spaces, no link and nothing that cannot be printed. -/
structure IsClean (t : Text) : Prop extends IsSpaced t where
  noLink : ¬ HasLink t
  printable : ∀ c ∈ t, Unicode.isUnprintable c = false

theorem not_hasLink_clean (t : Text) : ¬ HasLink (clean t) := by
  rintro ⟨l, hl, hin⟩
  obtain ⟨w, hw, hword⟩ := exists_mem_of_isInfix_join hl.ne_nil hl.not_mem_space hin
  have hblank : l <:+: blankUnprintable (dropLinks t) := hword.trans (mem_words hw).2
  exact not_hasLink_dropLinks t
    ⟨l, hl, isInfix_of_isInfix_blankUnprintable hl.not_mem_space hblank⟩

theorem not_isUnprintable_of_mem_clean {t : Text} {c : Char} (h : c ∈ clean t) :
    Unicode.isUnprintable c = false := by
  cases mem_join h with
  | inl heq =>
      rw [heq]
      decide
  | inr hword =>
      obtain ⟨w, hw, hc⟩ := hword
      exact not_isUnprintable_of_mem_blankUnprintable ((mem_words hw).2.mem hc)

theorem isClean_clean (t : Text) : IsClean (clean t) where
  toIsSpaced := isSpaced_collapse _
  noLink := not_hasLink_clean t
  printable := fun _ => not_isUnprintable_of_mem_clean

theorem length_clean_le (t : Text) : (clean t).length ≤ t.length :=
  calc (clean t).length ≤ (blankUnprintable (dropLinks t)).length := length_collapse_le _
    _ = (dropLinks t).length := List.length_map _
    _ ≤ t.length := length_dropLinks_le t

theorem IsClean.clean_eq {t : Text} (h : IsClean t) : clean t = t := by
  rw [clean, dropLinks_of_not_hasLink h.noLink, blankUnprintable_of_forall h.printable,
    collapse_of_isSpaced h.toIsSpaced]

@[simp]
theorem clean_nil : clean [] = [] := by
  rw [clean, dropLinks]
  rfl

/-- Some character that is printed stands outside all links. -/
def IsVisible (t : Text) : Prop :=
  ∃ c ∈ dropLinks t, isSpace c = false ∧ Unicode.isUnprintable c = false

theorem collapse_eq_nil_iff {t : Text} : collapse t = [] ↔ ∀ c ∈ t, isSpace c = true := by
  rw [← words_eq_nil_iff, collapse]
  constructor
  · intro h
    rw [← words_join fun _ hw => (mem_words hw).1, h, words_nil]
  · intro h
    rw [h]
    rfl

theorem clean_ne_nil_iff {t : Text} : clean t ≠ [] ↔ IsVisible t := by
  rw [clean, ne_eq, collapse_eq_nil_iff, IsVisible]
  have hblank : ∀ c, isSpace (if Unicode.isUnprintable c then ' ' else c) = true ↔
      ¬ (isSpace c = false ∧ Unicode.isUnprintable c = false) := by
    intro c
    cases Unicode.isUnprintable c with
    | true => simpa using show isSpace ' ' = true by decide
    | false => simp
  simp [blankUnprintable, hblank]

/-- Cleaning is a projection onto the clean texts, and lengthens no text. -/
theorem clean_projection :
    (∀ t : Text, IsClean (clean t) ∧ (clean t).length ≤ t.length) ∧
    (∀ t : Text, IsClean t → clean t = t) ∧
    ∀ t : Text, clean (clean t) = clean t :=
  ⟨fun t => ⟨isClean_clean t, length_clean_le t⟩, fun _ h => h.clean_eq,
    fun t => (isClean_clean t).clean_eq⟩

/-- A link and a tab are removed, the mark behind the link stays, and there is nothing to remove any
more. -/
theorem clean_projection_kept_text :
    let given : Text := "See https://a.io/b, for\t details.".toList
    let cleaned : Text := "See , for details.".toList
    HasLink given ∧ clean given = cleaned ∧ IsClean cleaned ∧ cleaned.length ≤ given.length ∧
      clean cleaned = cleaned := by
  intro given cleaned
  have hgiven : clean given = cleaned := by decide +kernel
  have hlink : IsLink "https://a.io/b".toList :=
    ⟨"https://".toList, by decide, "a.io/".toList, 'b', rfl, List.all_eq_true.1 rfl, by decide⟩
  obtain ⟨hclean, hlength⟩ := clean_projection.1 given
  rw [hgiven] at hclean hlength
  exact ⟨⟨_, hlink, "See ".toList, ", for\t details.".toList, by decide +kernel⟩, hgiven,
    hclean, hlength, clean_projection.2.1 _ hclean⟩

end Precis.Text
