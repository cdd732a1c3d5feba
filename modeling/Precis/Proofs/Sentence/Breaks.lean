import Precis.Sentence.Basic

/-!
Repairing breaks piece by piece. Whether a space goes behind a full stop depends on the next
character alone, so a text can be taken apart wherever no full stop meets a capital. The end of a line
is such a place, and no line ends are written or lost.
-/

namespace Precis.Text

theorem repairBreaks_append {a b : Text}
    (h : a.getLast? = some '.' → b.head?.any Unicode.isUppercase = false) :
    repairBreaks (a ++ b) = repairBreaks a ++ repairBreaks b := by
  induction a with
  | nil => rfl
  | cons c a ih =>
      cases a with
      | nil =>
          have hjoint : (decide (c = '.') && b.head?.any Unicode.isUppercase) = false := by
            by_cases hc : c = '.'
            · rw [h (congrArg some hc), Bool.and_false]
            · simp [hc]
          simp [repairBreaks, hjoint]
      | cons d a =>
          have hhead : (d :: a ++ b).head? = (d :: a).head? := rfl
          rw [List.cons_append, repairBreaks, repairBreaks, ih h, hhead]
          split
          · rfl
          · rfl

theorem lines_append_newline (a b : Text) : lines (a ++ '\n' :: b) = lines a ++ lines b :=
  List.splitOnP_append_cons a b (beq_self_eq_true '\n')

theorem length_lines_cons {c : Char} (h : c ≠ '\n') (t : Text) :
    (lines (c :: t)).length = (lines t).length := by
  rw [lines, List.splitOn, List.splitOnP_cons_eq_if_modifyHead, if_neg (by simpa using h),
    List.length_modifyHead]
  rfl

theorem lines_repairBreaks_append (a b : Text) :
    lines (repairBreaks (a ++ '\n' :: b)) = lines (repairBreaks a) ++ lines (repairBreaks b) := by
  have hplain : ('\n' :: b).head?.any Unicode.isUppercase = false := by
    rw [List.head?_cons, Option.any_some]
    decide
  have hbreak : repairBreaks ('\n' :: b) = '\n' :: repairBreaks b := rfl
  rw [repairBreaks_append fun _ => hplain, hbreak, lines_append_newline]

theorem length_lines_repairBreaks (t : Text) :
    (lines (repairBreaks t)).length = (lines t).length := by
  induction t with
  | nil => rfl
  | cons c t ih =>
      by_cases hc : c = '\n'
      · have hrepaired := lines_repairBreaks_append [] t
        have hlines := lines_append_newline [] t
        rw [List.nil_append] at hrepaired hlines
        rw [hc, hrepaired, hlines, List.length_append, List.length_append, ih]
        rfl
      rw [length_lines_cons hc, repairBreaks]
      split
      · rw [length_lines_cons hc, length_lines_cons (by decide), ih]
      · rw [length_lines_cons hc, ih]

end Precis.Text
