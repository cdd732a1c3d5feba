import Precis.Proofs.Text.Words

/-!
Trimming. A text is what it is trimmed to with white space at its ends, and more white space there
makes no difference. What parts the pieces of a list is no white space, so trimming the list first
makes no difference to its trimmed pieces.
-/

namespace Precis.Text

variable {sep c : Char}

theorem trim_cons_of_isSpace (hc : isSpace c = true) (t : Text) : trim (c :: t) = trim t := by
  rw [trim, trimStart, List.dropWhile_cons_of_pos hc]
  rfl

theorem trim_concat_of_isSpace (hc : isSpace c = true) (t : Text) : trim (t ++ [c]) = trim t := by
  rw [trim, trimStart, List.dropWhile_append]
  split
  · next hnil =>
    rw [List.dropWhile_cons_of_pos hc, List.dropWhile_nil, trim, trimStart,
      List.isEmpty_iff.1 hnil]
  · exact List.rdropWhile_concat_pos isSpace _ _ hc

theorem trim_of_forall {t : Text} (h : ∀ c ∈ t, isSpace c = false) : trim t = t := by
  have hstart : ∀ u : Text, (∀ c ∈ u, isSpace c = false) → u.dropWhile isSpace = u := by
    intro u hu
    cases u with
    | nil => rfl
    | cons d u => simp [hu d List.mem_cons_self]
  rw [trim, trimStart, hstart t h, trimEnd, hstart t.reverse (by simpa using h),
    List.reverse_reverse]

theorem exists_blank_append_trim (t : Text) :
    ∃ before after, isBlank before = true ∧ isBlank after = true ∧
      t = before ++ trim t ++ after := by
  have hblank : ∀ u : Text, isBlank (u.takeWhile isSpace) = true := fun u =>
    List.all_eq_true.2 fun _ hc => List.mem_takeWhile_imp hc
  refine ⟨t.takeWhile isSpace, ((trimStart t).reverse.takeWhile isSpace).reverse, hblank t, ?_, ?_⟩
  · rw [isBlank, List.all_reverse]
    exact hblank _
  · have hends : (trimStart t).reverse =
        (trimStart t).reverse.takeWhile isSpace ++ (trimStart t).reverse.dropWhile isSpace :=
      List.takeWhile_append_dropWhile.symm
    rw [trim, trimEnd, List.append_assoc, ← List.reverse_append, ← hends, List.reverse_reverse]
    exact List.takeWhile_append_dropWhile.symm

/-- What depends on the trimmed text alone does so whatever white space is added at its ends. -/
theorem eq_of_blank_ends {α : Type} {f : Text → α}
    (hfront : ∀ {c}, isSpace c = true → ∀ t, f (c :: t) = f t)
    (hback : ∀ {c}, isSpace c = true → ∀ t, f (t ++ [c]) = f t) {before after : Text}
    (hbefore : isBlank before = true) (hafter : isBlank after = true) (t : Text) :
    f (before ++ t ++ after) = f t := by
  induction after using List.reverseRecOn with
  | nil =>
      rw [List.append_nil]
      induction before with
      | nil => rfl
      | cons c before ih =>
          rw [isBlank, List.all_cons, Bool.and_eq_true] at hbefore
          rw [List.cons_append, hfront hbefore.1, ih hbefore.2]
  | append_singleton after c ih =>
      rw [isBlank, List.all_append, Bool.and_eq_true] at hafter
      rw [← List.append_assoc, hback (by simpa using hafter.2), ih hafter.1]

theorem trim_append_append {before after : Text} (hbefore : isBlank before = true)
    (hafter : isBlank after = true) (t : Text) : trim (before ++ t ++ after) = trim t :=
  eq_of_blank_ends trim_cons_of_isSpace trim_concat_of_isSpace hbefore hafter t

/-! ## Pieces -/

/-- A character that parts nothing goes to the last piece. -/
theorem splitOn_concat (hc : c ≠ sep) (t : Text) :
    ∃ front last, t.splitOn sep = front ++ [last] ∧
      (t ++ [c]).splitOn sep = front ++ [last ++ [c]] := by
  induction t with
  | nil => exact ⟨[], [], rfl, List.splitOn_eq_singleton (by simpa using hc.symm)⟩
  | cons d t ih =>
      obtain ⟨front, last, hsplit, hmore⟩ := ih
      rw [List.splitOn] at hsplit hmore
      rw [List.splitOn, List.cons_append, List.splitOn, List.splitOnP_cons_eq_if_modifyHead,
        List.splitOnP_cons_eq_if_modifyHead, hsplit, hmore]
      split
      · exact ⟨[] :: front, last, rfl, rfl⟩
      · cases front with
        | nil => exact ⟨[], d :: last, rfl, rfl⟩
        | cons piece front => exact ⟨(d :: piece) :: front, last, rfl, rfl⟩

theorem map_trim_splitOn_trim (hsep : isSpace sep = false) (t : Text) :
    ((trim t).splitOn sep).map trim = (t.splitOn sep).map trim := by
  have hne : ∀ {c}, isSpace c = true → c ≠ sep := by
    rintro c hc rfl
    rw [hc] at hsep
    exact Bool.noConfusion hsep
  obtain ⟨before, after, hbefore, hafter, heq⟩ := exists_blank_append_trim t
  conv_rhs => rw [heq]
  refine (eq_of_blank_ends (f := fun t => (t.splitOn sep).map trim) (fun {c} hc t => ?_)
    (fun {c} hc t => ?_) hbefore hafter (trim t)).symm
  · obtain ⟨front, pieces, hsplit, -⟩ := splitOnP_pieces (· == sep) t
    simp only [List.splitOn, List.splitOnP_cons_eq_if_modifyHead, hsplit, beq_iff_eq, hne hc,
      if_false, List.modifyHead_cons, List.map_cons, trim_cons_of_isSpace hc]
  · obtain ⟨front, last, hsplit, hmore⟩ := splitOn_concat (hne hc) t
    simp only [hsplit, hmore, List.map_append, List.map_cons, List.map_nil,
      trim_concat_of_isSpace hc]

end Precis.Text
