import Mathlib.Data.List.Chain
import Mathlib.Data.List.Flatten
import Precis.Proofs.Text.Words

/-!
Words that are joined by spaces. They are read back as they were, and a text is made of joined words
exactly if its white space is single spaces between other characters.
-/

namespace Precis.Text

theorem join_cons_cons (separator w w' : Text) (ws : List Text) :
    join separator (w :: w' :: ws) = w ++ (separator ++ join separator (w' :: ws)) := by
  rw [join, List.intercalate_cons_cons, List.append_assoc]
  rfl

theorem join_cons (separator w : Text) (ws : List Text) :
    join separator (w :: ws) = w ++ ws.flatMap (separator ++ ·) := by
  induction ws generalizing w with
  | nil => simp [join]
  | cons w' ws ih => rw [join_cons_cons, ih, List.flatMap_cons, List.append_assoc]

/-- Words that are joined by spaces are read back. -/
theorem words_join {ws : List Text} (h : ∀ w ∈ ws, IsWord w) : words (join [' '] ws) = ws := by
  induction ws with
  | nil => exact words_nil
  | cons w ws ih =>
      obtain ⟨hw, hws⟩ := List.forall_mem_cons.1 h
      cases ws with
      | nil => simpa [join] using words_of_isWord hw
      | cons w' ws =>
          have hspace : isSpace ' ' = true := by decide
          rw [join_cons_cons, List.singleton_append, words_append_space hspace, words_of_isWord hw,
            ih hws, List.singleton_append]

theorem mem_join {ws : List Text} {c : Char} (h : c ∈ join [' '] ws) :
    c = ' ' ∨ ∃ w ∈ ws, c ∈ w := by
  induction ws with
  | nil => simp [join] at h
  | cons w ws ih =>
      cases ws with
      | nil => exact .inr ⟨w, by simp, by simpa [join] using h⟩
      | cons w' ws =>
          rw [join_cons_cons, List.mem_append, List.singleton_append, List.mem_cons] at h
          cases h with
          | inl hw => exact .inr ⟨w, by simp, hw⟩
          | inr h =>
              cases h with
              | inl hc => exact .inl hc
              | inr hws =>
                  refine (ih hws).imp_right ?_
                  rintro ⟨v, hv, hmem⟩
                  exact ⟨v, List.mem_cons_of_mem w hv, hmem⟩

theorem mem_join_of_mem {ws : List Text} {w : Text} {c : Char} (hw : w ∈ ws) (hc : c ∈ w) :
    c ∈ join [' '] ws := by
  induction ws with
  | nil => simp at hw
  | cons v ws ih =>
      cases ws with
      | nil => simpa [join, List.mem_singleton.1 hw] using hc
      | cons v' ws =>
          rw [join_cons_cons, List.mem_append, List.mem_append]
          cases List.mem_cons.1 hw with
          | inl heq => exact .inl (heq ▸ hc)
          | inr hw => exact .inr (.inr (ih hw))

theorem join_append {vs ws : List Text} (hv : vs ≠ []) (hw : ws ≠ []) :
    join [' '] (vs ++ ws) = join [' '] vs ++ ' ' :: join [' '] ws := by
  induction vs with
  | nil => exact absurd rfl hv
  | cons v vs ih =>
      cases vs with
      | nil =>
          obtain ⟨w, ws, rfl⟩ := List.exists_cons_of_ne_nil hw
          simp [join]
      | cons v' vs =>
          rw [List.cons_append, List.cons_append, join_cons_cons, ← List.cons_append,
            ih (List.cons_ne_nil v' vs), join_cons_cons]
          simp

theorem length_join_le (separator : Text) {ts : List Text} {m : Nat} (h : ∀ t ∈ ts, t.length ≤ m) :
    (join separator ts).length ≤ ts.length * m + separator.length * (ts.length - 1) := by
  induction ts with
  | nil => simp [join]
  | cons t ts ih =>
      obtain ⟨ht, hts⟩ := List.forall_mem_cons.1 h
      cases ts with
      | nil => simpa [join] using ht
      | cons t' ts =>
          have hrest := ih hts
          rw [join_cons_cons, List.length_append, List.length_append]
          simp only [List.length_cons, Nat.add_sub_cancel, Nat.add_mul, Nat.mul_add, Nat.one_mul,
            Nat.mul_one] at hrest ⊢
          omega

theorem join_eq_tail (ws : List Text) : join [' '] ws = (ws.flatMap (' ' :: ·)).tail := by
  cases ws with
  | nil => rfl
  | cons w ws =>
      rw [join_cons]
      rfl

theorem length_flatMap_splitOnP (t : Text) :
    ((t.splitOnP isSpace).flatMap (' ' :: ·)).length = t.length + 1 := by
  induction t with
  | nil => simp
  | cons c t ih =>
      obtain ⟨front, pieces, hsplit, -⟩ := splitOnP_pieces isSpace t
      rw [hsplit] at ih
      rw [List.splitOnP_cons_eq_if_modifyHead, hsplit]
      cases isSpace c
      all_goals
        simp only [Bool.false_eq_true, ite_false, ite_true, List.modifyHead_cons, List.flatMap_cons,
          List.length_append, List.length_cons, List.length_nil] at *
        omega

theorem length_flatMap_words_le (t : Text) :
    ((words t).flatMap (' ' :: ·)).length ≤ t.length + 1 := by
  have hwords : (words t).Sublist (t.splitOnP isSpace) := List.filter_sublist
  rw [← length_flatMap_splitOnP]
  exact (hwords.flatMap (' ' :: ·)).length_le

theorem length_collapse_le (t : Text) : (collapse t).length ≤ t.length := by
  rw [collapse, join_eq_tail, List.length_tail]
  exact Nat.sub_le_iff_le_add.2 (length_flatMap_words_le t)

theorem isInfix_append_cons {l a b : Text} {x : Char} (hx : x ∉ l) (h : l <:+: a ++ x :: b) :
    l <:+: a ∨ l <:+: b := by
  obtain ⟨front, back, heq⟩ := h
  rw [List.append_assoc] at heq
  cases List.append_eq_append_iff.1 heq with
  | inl hbefore =>
      obtain ⟨mid, rfl, hmid⟩ := hbefore
      cases List.append_eq_append_iff.1 hmid with
      | inl hends =>
          obtain ⟨more, rfl, -⟩ := hends
          exact .inl ⟨front, more, by simp⟩
      | inr hreaches =>
          obtain ⟨more, rfl, hmore⟩ := hreaches
          cases more with
          | nil => exact .inl ⟨front, [], by simp⟩
          | cons y more =>
              obtain ⟨rfl, -⟩ := List.cons.inj hmore
              simp at hx
  | inr hbehind =>
      obtain ⟨mid, rfl, hmid⟩ := hbehind
      cases mid with
      | nil =>
          cases l with
          | nil => exact .inr List.nil_infix
          | cons y l =>
              obtain ⟨rfl, -⟩ := List.cons.inj hmid
              simp at hx
      | cons y mid =>
          obtain ⟨-, rfl⟩ := List.cons.inj hmid
          exact .inr ⟨mid, back, by simp⟩

/-- What holds no space lies in one of the words. -/
theorem exists_mem_of_isInfix_join {l : Text} {ws : List Text} (hne : l ≠ []) (hl : ' ' ∉ l)
    (h : l <:+: join [' '] ws) : ∃ w ∈ ws, l <:+: w := by
  induction ws with
  | nil => exact absurd (List.infix_nil.1 h) hne
  | cons w ws ih =>
      cases ws with
      | nil => exact ⟨w, by simp, by simpa [join] using h⟩
      | cons w' ws =>
          rw [join_cons_cons] at h
          cases isInfix_append_cons hl h with
          | inl hw => exact ⟨w, by simp, hw⟩
          | inr hws =>
              obtain ⟨v, hv, hin⟩ := ih hws
              exact ⟨v, List.mem_cons_of_mem w hv, hin⟩

/-- White space stands between other characters only, one space at a time. -/
structure IsSpaced (t : Text) : Prop where
  onlySpaces : ∀ c ∈ t, isSpace c = true → c = ' '
  notDoubled : ¬ [' ', ' '] <:+: t
  notLeading : t.head? ≠ some ' '
  notTrailing : t.getLast? ≠ some ' '

theorem join_ne_nil {w : Text} (hw : IsWord w) (ws : List Text) : join [' '] (w :: ws) ≠ [] := by
  obtain ⟨c, hc⟩ := List.exists_mem_of_ne_nil w hw.1
  exact List.ne_nil_of_mem (mem_join_of_mem List.mem_cons_self hc)

theorem isTrimmed_join {ws : List Text} (h : ∀ w ∈ ws, IsWord w) : IsTrimmed (join [' '] ws) := by
  induction ws with
  | nil => exact ⟨by simp [join], by simp [join]⟩
  | cons w ws ih =>
      obtain ⟨hw, hws⟩ := List.forall_mem_cons.1 h
      cases ws with
      | nil =>
          rw [join, List.intercalate_singleton]
          exact ⟨fun c hc => hw.2 c (List.mem_of_mem_head? hc),
            fun c hc => hw.2 c (List.mem_of_getLast? hc)⟩
      | cons w' ws =>
          have hne := join_ne_nil (hws w' List.mem_cons_self) ws
          rw [join_cons_cons]
          constructor
          · intro c hc
            rw [List.head?_append_of_ne_nil w hw.1] at hc
            exact hw.2 c (List.mem_of_mem_head? hc)
          · intro c hc
            rw [← List.append_assoc, List.getLast?_append_of_ne_nil _ hne] at hc
            exact (ih hws).2 c hc

theorem isChain_join {ws : List Text} (h : ∀ w ∈ ws, IsWord w) :
    (join [' '] ws).IsChain fun a b => ¬ (a = ' ' ∧ b = ' ') := by
  have hword : ∀ w : Text, IsWord w → w.IsChain fun a b => ¬ (a = ' ' ∧ b = ' ') := by
    intro w hw
    refine (List.pairwise_of_forall_mem_list fun a ha b _ => ?_).isChain
    rintro ⟨rfl, -⟩
    exact absurd (hw.2 _ ha) (by decide)
  induction ws with
  | nil => exact .nil
  | cons w ws ih =>
      obtain ⟨hw, hws⟩ := List.forall_mem_cons.1 h
      cases ws with
      | nil =>
          rw [join, List.intercalate_singleton]
          exact hword w hw
      | cons w' ws =>
          rw [join_cons_cons, List.singleton_append]
          refine (hword w hw).append ((ih hws).cons ?_) ?_
          · rintro c hc ⟨-, rfl⟩
            exact absurd ((isTrimmed_join hws).1 _ hc) (by decide)
          · rintro c hc d - ⟨rfl, -⟩
            exact absurd (hw.2 _ (List.mem_of_getLast? hc)) (by decide)

theorem isSpaced_join {ws : List Text} (h : ∀ w ∈ ws, IsWord w) : IsSpaced (join [' '] ws) := by
  obtain ⟨hhead, hlast⟩ := isTrimmed_join h
  refine ⟨?_, ?_, ?_, ?_⟩
  · intro c hc hspace
    cases mem_join hc with
    | inl heq => exact heq
    | inr hword =>
        obtain ⟨w, hw, hmem⟩ := hword
        exact absurd hspace (by simp [(h w hw).2 c hmem])
  · intro hin
    obtain ⟨before, after, heq⟩ := hin
    have hchain := isChain_join h
    rw [← heq, List.append_assoc] at hchain
    simpa using (List.isChain_append_cons_cons.1 hchain).2.1
  · intro heq
    exact absurd (hhead _ heq) (by decide)
  · intro heq
    exact absurd (hlast _ heq) (by decide)

theorem IsSpaced.exists_words {t : Text} (h : IsSpaced t) :
    ∃ ws, (∀ w ∈ ws, IsWord w) ∧ t = join [' '] ws := by
  by_cases hne : t = []
  · exact ⟨[], by simp, hne⟩
  have hjoin : join [' '] (t.splitOn ' ') = t := List.intercalate_splitOn ' '
  refine ⟨t.splitOn ' ', fun w hw => ⟨?_, ?_⟩, hjoin.symm⟩
  · -- an empty piece would lie at an end or between two spaces
    rintro rfl
    obtain ⟨before, after, hsplit⟩ := List.append_of_mem hw
    rw [hsplit] at hjoin
    cases before with
    | nil =>
        cases after with
        | nil => exact hne (by simpa [join] using hjoin.symm)
        | cons v after =>
            rw [List.nil_append, join_cons_cons] at hjoin
            exact h.notLeading (by simp [← hjoin])
    | cons v before =>
        rw [join_append (List.cons_ne_nil v before) (List.cons_ne_nil [] after)] at hjoin
        cases after with
        | nil => exact h.notTrailing (by simp [← hjoin, join])
        | cons v' after =>
            rw [join_cons_cons] at hjoin
            refine h.notDoubled ⟨join [' '] (v :: before), join [' '] (v' :: after), ?_⟩
            rw [← hjoin]
            simp
  · intro c hc
    cases hspace : isSpace c with
    | false => rfl
    | true =>
        have hmem : c ∈ t := hjoin ▸ mem_join_of_mem hw hc
        obtain rfl := h.onlySpaces c hmem hspace
        rw [List.splitOn_eq_splitOnP] at hw
        simpa using (mem_splitOnP hw).2 _ hc

theorem isSpaced_collapse (t : Text) : IsSpaced (collapse t) :=
  isSpaced_join fun _ hw => (mem_words hw).1

theorem collapse_of_isSpaced {t : Text} (h : IsSpaced t) : collapse t = t := by
  obtain ⟨ws, hws, rfl⟩ := h.exists_words
  rw [collapse, words_join hws]

end Precis.Text
