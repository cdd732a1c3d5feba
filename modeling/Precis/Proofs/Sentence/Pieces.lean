import Precis.Sentence.Basic

/-!
Where a text is cut into candidates. The scan keeps one bit, whether it is inside a word, and looks
one character ahead. Its pieces are the slices between the places that are the ends of sentences by
their neighbours alone.
-/

namespace Precis

namespace Text

/-- The place is behind a full stop or question mark that a character other than white space stands
before, and white space stands behind. -/
def endsSentence (t : Text) (place : Nat) : Bool :=
  decide (2 ≤ place) && t[place - 2]?.any (fun c => !isSpace c) &&
    t[place - 1]?.any (fun c => c == '.' || c == '?') && t[place]?.any isSpace

/-- The end of a sentence or of the text. -/
def isCut (t : Text) (place : Nat) : Bool :=
  t.endsSentence place || place == t.length

/-- The start of a text and all places behind it where the text is cut. -/
def cuts (t : Text) : List Nat :=
  (List.range (t.length + 1)).filter fun place => place == 0 || t.isCut place

/-- The parts of a text between neighbouring places. -/
def slices (t : Text) : List Nat → List Text
  | start :: stop :: places => (t.drop start).take (stop - start) :: slices t (stop :: places)
  | _ => []

variable {t : Text} {c : Char}

theorem endsSentence_append_cons (before t : Text) (c : Char) :
    endsSentence (before ++ c :: t) (before.length + 1) =
      ((before.getLast?.any fun b => !isSpace b) && (c == '.' || c == '?') &&
        t.head?.any isSpace) := by
  have hmark : (before ++ c :: t)[before.length]? = some c := by simp
  have hnext : (before ++ c :: t)[before.length + 1]? = t.head? := by
    simp [List.getElem?_append_right, List.head?_eq_getElem?]
  rw [endsSentence, Nat.add_sub_cancel, hmark, hnext, Option.any_some]
  rcases List.eq_nil_or_concat before with rfl | ⟨front, b, rfl⟩
  · rfl
  · simp

theorem slices_cons {start stop : Nat} (places : List Nat) (hstart : t[start]? = some c)
    (hlt : start < stop) :
    slices t (start :: stop :: places) =
      extendFirst c (slices t ((start + 1) :: stop :: places)) := by
  obtain ⟨hbound, rfl⟩ := List.getElem?_eq_some_iff.1 hstart
  have hlength : stop - start = stop - (start + 1) + 1 := by omega
  rw [slices, slices, extendFirst, List.drop_eq_getElem_cons hbound, hlength, List.take_succ_cons]

theorem isCut_append_cons (before t : Text) (c : Char) :
    isCut (before ++ c :: t) (before.length + 1) =
      ((before.getLast?.any fun b => !isSpace b) && (c == '.' || c == '?') &&
        t.head?.any isSpace || t.isEmpty) := by
  rw [isCut, endsSentence_append_cons]
  cases t <;> simp

theorem exists_next_cut {first count : Nat} (hcount : 0 < count)
    (hend : first + count = t.length + 1) :
    ∃ stop places, (List.range' first count).filter t.isCut = stop :: places ∧ first ≤ stop := by
  have hlast : t.length ∈ (List.range' first count).filter t.isCut :=
    List.mem_filter.2 ⟨List.mem_range'_1.2 (by omega), by simp [isCut]⟩
  obtain ⟨stop, places, heq⟩ := List.exists_cons_of_ne_nil (List.ne_nil_of_mem hlast)
  have hstop : stop ∈ List.range' first count := (List.mem_filter.1 (heq ▸ List.mem_cons_self)).1
  exact ⟨stop, places, heq, (List.mem_range'_1.1 hstop).1⟩

/-- The places are those of the whole text, of which `before` has been scanned. -/
theorem piecesFrom_eq_slices (before t : Text) :
    piecesFrom (before.getLast?.any fun b => !isSpace b) t =
      slices (before ++ t) (before.length ::
        (List.range' (before.length + 1) t.length).filter (isCut (before ++ t))) := by
  induction t generalizing before with
  | nil => rfl
  | cons c t ih =>
      have hrest : piecesFrom (!isSpace c) t = slices (before ++ c :: t) ((before.length + 1) ::
          (List.range' (before.length + 2) t.length).filter (isCut (before ++ c :: t))) := by
        simpa using ih (before ++ [c])
      have hstart : (before ++ c :: t)[before.length]? = some c := by simp
      rw [piecesFrom, List.length_cons, List.range'_succ, List.filter_cons, isCut_append_cons,
        hrest]
      split
      case isTrue hends =>
        rw [hends, Bool.true_or, if_pos rfl]
        simp [slices]
      case isFalse hgoes =>
        rw [Bool.eq_false_iff.2 hgoes, Bool.false_or]
        cases t with
        | nil => simp [slices, extendFirst]
        | cons d t =>
            have hpos : 0 < (d :: t).length := Nat.succ_pos t.length
            have hend : before.length + 2 + (d :: t).length =
                (before ++ c :: d :: t).length + 1 := by
              simp only [List.length_append, List.length_cons]
              omega
            obtain ⟨stop, places, heq, hle⟩ := exists_next_cut hpos hend
            rw [heq]
            exact (slices_cons places hstart (by omega)).symm

theorem cuts_eq (t : Text) : t.cuts = 0 :: (List.range' 1 t.length).filter t.isCut := by
  rw [cuts, List.range_eq_range', List.range'_succ, List.filter_cons_of_pos (by simp)]
  refine congrArg (0 :: ·) (List.filter_congr fun place hplace => ?_)
  have hne : place ≠ 0 := Nat.one_le_iff_ne_zero.1 (List.mem_range'_1.1 hplace).1
  rw [beq_eq_false_iff_ne.2 hne, Bool.false_or]

theorem pieces_eq_slices (t : Text) : t.pieces = t.slices t.cuts := by
  rw [cuts_eq]
  exact piecesFrom_eq_slices [] t

theorem ne_nil_of_mem_extendFirst {pieces : List Text} (h : ∀ piece ∈ pieces, piece ≠ [])
    {piece : Text} (hpiece : piece ∈ extendFirst c pieces) : piece ≠ [] := by
  cases pieces with
  | nil => simp [List.mem_singleton.1 hpiece]
  | cons first rest =>
      rcases List.mem_cons.1 hpiece with rfl | hpiece
      · exact List.cons_ne_nil _ _
      · exact h piece (List.mem_cons_of_mem _ hpiece)

theorem ne_nil_of_mem_piecesFrom {inWord : Bool} {piece : Text} (h : piece ∈ piecesFrom inWord t) :
    piece ≠ [] := by
  induction t generalizing inWord piece with
  | nil => exact absurd h List.not_mem_nil
  | cons c t ih =>
      rw [piecesFrom] at h
      split at h
      · rcases List.mem_cons.1 h with rfl | h
        · exact List.cons_ne_nil _ _
        · exact ih h
      · exact ne_nil_of_mem_extendFirst (fun _ => ih) h

theorem flatten_pieces (t : Text) : t.pieces.flatten = t :=
  flatten_piecesFrom false t

/-- The candidates are the first slices of the text between the ends of its sentences. None is
empty, and run together they are the text up to some place, all of it if there are fewer than
might be. -/
theorem candidates_are_slices (t : Text) (max : Nat) :
    let candidates := t.pieces.take max
    candidates = (t.slices t.cuts).take max ∧
    (∀ candidate ∈ candidates, candidate ≠ []) ∧
    candidates.length ≤ max ∧ candidates.flatten <+: t ∧
    (candidates.length < max → candidates.flatten = t) := by
  intro candidates
  refine ⟨?_, fun candidate h => ?_, List.length_take_le max t.pieces, ?_, fun hfew => ?_⟩
  · rw [← pieces_eq_slices]
  · exact ne_nil_of_mem_piecesFrom (List.mem_of_mem_take h)
  · refine ⟨(t.pieces.drop max).flatten, ?_⟩
    rw [← List.flatten_append, List.take_append_drop, flatten_pieces]
  · have hall : candidates = t.pieces := by
      refine List.take_of_length_le ?_
      rw [List.length_take] at hfew
      omega
    rw [hall, flatten_pieces]

/-- Of two marks in a row the second one ends a sentence, and a mark that stands alone ends none. -/
theorem candidates_are_slices_few :
    let t := "Up? Yes..\u2003No . So".toList
    let candidates := (pieces t).take 4
    cuts t = [0, 3, 9, 17] ∧ candidates.length < 4 ∧ candidates.flatten = t ∧
    candidates = slices t [0, 3, 9, 17] ∧ " Yes..".toList ∈ candidates ∧ " Yes..".toList ≠ [] := by
  intro t candidates
  have hcuts : cuts t = [0, 3, 9, 17] := by decide +kernel
  have hfew : candidates.length < 4 := by decide +kernel
  have hmem : " Yes..".toList ∈ candidates := by decide +kernel
  obtain ⟨hslices, hne, -, -, hall⟩ := candidates_are_slices t 4
  rw [hcuts] at hslices
  exact ⟨hcuts, hfew, hall hfew, hslices, hmem, hne _ hmem⟩

end Text

theorem SummarySettings.candidates_eq_slices (s : SummarySettings) (text : Text) :
    s.candidates text =
      (text.repairBreaks.slices text.repairBreaks.cuts).take s.maxCandidates.toNat := by
  rw [candidates, Text.pieces_eq_slices]

end Precis
