import Precis.Heading.FromText
import Precis.Proofs.Sentence.Breaks

/-!
Where breaks are repaired. The repair goes through a text once and writes as it reads; the same text
comes out when all places are found beforehand, and when every full stop is taken together with the
capital behind it. A capital is no full stop, so no two such pairs overlap, and what is written
between them makes no new one. Repairing a second time therefore changes nothing.
-/

namespace Precis

namespace Text

/-- A full stop stands before the place and a capital behind it. -/
def isLostBreak (t : Text) (place : Nat) : Bool :=
  decide (1 ≤ place) && t[place - 1]?.any (· == '.') && t[place]?.any Unicode.isUppercase

/-- A text with a space put in at each of the places where it has lost a break. -/
def spaceLostBreaks (t : Text) : Text :=
  (t.mapIdx fun place c => if t.isLostBreak place then [' ', c] else [c]).flatten

/-- Writes the pairs of a full stop and a capital anew, from left to right and each from behind the
one before. -/
def replaceLostBreaks : Text → Text
  | c :: d :: t =>
      if c = '.' && Unicode.isUppercase d then c :: ' ' :: d :: replaceLostBreaks t
      else c :: replaceLostBreaks (d :: t)
  | t => t

theorem isLostBreak_cons_one (c : Char) (t : Text) :
    isLostBreak (c :: t) 1 = (decide (c = '.') && t.head?.any Unicode.isUppercase) := by
  rw [List.head?_eq_getElem?]
  rfl

theorem isLostBreak_cons_add_two (c : Char) (t : Text) (place : Nat) :
    isLostBreak (c :: t) (place + 2) = isLostBreak t (place + 1) := by
  simp [isLostBreak]

theorem isLostBreak_eq_false_cons_iff {c : Char} {t : Text} :
    (∀ place, isLostBreak (c :: t) place = false) ↔
      (decide (c = '.') && t.head?.any Unicode.isUppercase) = false ∧
        ∀ place, isLostBreak t place = false := by
  constructor
  · intro h
    refine ⟨isLostBreak_cons_one c t ▸ h 1, fun place => ?_⟩
    cases place with
    | zero => rfl
    | succ place => exact isLostBreak_cons_add_two c t place ▸ h (place + 2)
  · rintro ⟨hfirst, hrest⟩ place
    match place with
    | 0 => rfl
    | 1 => rw [isLostBreak_cons_one, hfirst]
    | place + 2 => rw [isLostBreak_cons_add_two, hrest]

theorem spaceLostBreaks_cons (c : Char) (t : Text) :
    spaceLostBreaks (c :: t) =
      if c = '.' && t.head?.any Unicode.isUppercase then c :: ' ' :: spaceLostBreaks t
      else c :: spaceLostBreaks t := by
  cases t with
  | nil => simp [spaceLostBreaks, isLostBreak]
  | cons d t =>
      have hzero : ∀ t, isLostBreak t 0 = false := fun _ => rfl
      simp only [spaceLostBreaks, List.mapIdx_cons, hzero, Nat.zero_add, isLostBreak_cons_one,
        isLostBreak_cons_add_two, Bool.false_eq_true, if_false]
      split
      · rfl
      · rfl

theorem repairBreaks_eq_spaceLostBreaks (t : Text) : t.repairBreaks = t.spaceLostBreaks := by
  induction t with
  | nil => rfl
  | cons c t ih => rw [repairBreaks, spaceLostBreaks_cons, ih]

theorem repairBreaks_eq_replaceLostBreaks (t : Text) : t.repairBreaks = t.replaceLostBreaks := by
  fun_induction replaceLostBreaks t with
  | case1 c d t hpair ih =>
      obtain ⟨-, hcapital⟩ := Bool.and_eq_true_iff.1 hpair
      -- the capital is not the full stop of another pair
      have hplain : d ≠ '.' := by
        rintro rfl
        exact absurd hcapital (by decide)
      rw [repairBreaks, List.head?_cons, Option.any_some, if_pos hpair, repairBreaks]
      simp [hplain, ih]
  | case2 c d t hpair ih =>
      rw [repairBreaks, List.head?_cons, Option.any_some, if_neg hpair, ih]
  | case3 t hshort =>
      cases t with
      | nil => rfl
      | cons c t =>
          cases t with
          | nil => simp [repairBreaks]
          | cons d t => exact absurd rfl (hshort c d t)

theorem head?_repairBreaks (t : Text) : t.repairBreaks.head? = t.head? := by
  cases t with
  | nil => rfl
  | cons c t =>
      rw [repairBreaks]
      split
      · rfl
      · rfl

/-- A space and a full stop are no capitals, so what is put in parts a pair and makes none. -/
theorem isLostBreak_repairBreaks (t : Text) (place : Nat) :
    t.repairBreaks.isLostBreak place = false := by
  induction t generalizing place with
  | nil => simp [repairBreaks, isLostBreak]
  | cons c t ih =>
      revert place
      rw [repairBreaks]
      split
      · have hspace : Unicode.isUppercase ' ' = false := by decide
        refine isLostBreak_eq_false_cons_iff.2 ⟨?_, isLostBreak_eq_false_cons_iff.2 ⟨rfl, ih⟩⟩
        rw [List.head?_cons, Option.any_some, hspace, Bool.and_false]
      · next hpair =>
        refine isLostBreak_eq_false_cons_iff.2 ⟨?_, ih⟩
        rw [head?_repairBreaks]
        exact Bool.eq_false_iff.2 hpair

theorem repairBreaks_of_forall {t : Text} (h : ∀ place, t.isLostBreak place = false) :
    t.repairBreaks = t := by
  induction t with
  | nil => rfl
  | cons c t ih =>
      obtain ⟨hfirst, hrest⟩ := isLostBreak_eq_false_cons_iff.1 h
      rw [repairBreaks, if_neg (Bool.eq_false_iff.1 hfirst), ih hrest]

theorem repairBreaks_repairBreaks (t : Text) : t.repairBreaks.repairBreaks = t.repairBreaks :=
  repairBreaks_of_forall (isLostBreak_repairBreaks t)

/-- A text is repaired by one space at every place where a full stop meets a capital, all of them
told by the text as it is, and by nothing else. The same comes out when pairs are taken one after
the other. No such place is left, so a second repair changes nothing, neither by itself nor in front
of the search for sentences or for a heading. Texts may be repaired apart unless a full stop at the
end of one meets a capital at the start of the other. -/
theorem repair_spaces_lost_breaks :
    (∀ t : Text,
      t.repairBreaks = t.spaceLostBreaks ∧ t.repairBreaks = t.replaceLostBreaks ∧
      (∀ place, t.repairBreaks.isLostBreak place = false) ∧
      t.repairBreaks.repairBreaks = t.repairBreaks ∧
      ∀ s : SummarySettings,
        s.sentencesOf t.repairBreaks = s.sentencesOf t ∧ s.heading? t.repairBreaks = s.heading? t) ∧
    ∀ a b : Text, a.getLast? ≠ some '.' ∨ b.head?.any Unicode.isUppercase = false →
      repairBreaks (a ++ b) = a.repairBreaks ++ b.repairBreaks := by
  refine ⟨fun t => ⟨repairBreaks_eq_spaceLostBreaks t, repairBreaks_eq_replaceLostBreaks t,
    isLostBreak_repairBreaks t, repairBreaks_repairBreaks t, fun s => ⟨?_, ?_⟩⟩, fun a b h => ?_⟩
  · rw [SummarySettings.sentencesOf, SummarySettings.candidates, repairBreaks_repairBreaks]
    rfl
  · rw [SummarySettings.heading?, SummarySettings.headingLines, repairBreaks_repairBreaks]
    rfl
  · exact repairBreaks_append fun hstop => h.resolve_left fun hne => hne hstop

/-- A chain of capitals, a run of full stops, and two parts of which the first one ends with a full
stop. -/
theorem repair_spaces_lost_breaks_chain :
    let a : Text := "So...A.B.".toList
    let b : Text := "c.D".toList
    a.isLostBreak 5 = true ∧ a.isLostBreak 7 = true ∧
    (a.getLast? ≠ some '.' ∨ b.head?.any Unicode.isUppercase = false) ∧
    repairBreaks (a ++ b) = "So... A. B.c. D".toList ∧
    repairBreaks "So... A. B.c. D".toList = "So... A. B.c. D".toList := by
  intro a b
  have hmeet : a.getLast? ≠ some '.' ∨ b.head?.any Unicode.isUppercase = false := by decide +kernel
  have ha : a.repairBreaks = "So... A. B.".toList := by decide +kernel
  have hb : b.repairBreaks = "c. D".toList := by decide +kernel
  obtain ⟨hrepair, hparts⟩ := repair_spaces_lost_breaks
  have hwhole : repairBreaks (a ++ b) = "So... A. B.c. D".toList := by
    rw [hparts a b hmeet, ha, hb]
    rfl
  obtain ⟨-, -, -, hagain, -⟩ := hrepair (a ++ b)
  rw [hwhole] at hagain
  exact ⟨by decide +kernel, by decide +kernel, hmeet, hwhole, hagain⟩

end Text
end Precis
