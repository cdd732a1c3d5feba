import Precis.Unicode.CompatibilityForm
import Precis.Unicode.WhiteSpace

/-!
White space at the ends of a compatibility form. Marks are put in order and composed between the
white space of a text: a white space character is no mark, takes part in no composition and is the
result of none, so it neither comes to an end of the text nor leaves it. Only a decomposition can
bring it there, and in none does it stand last unless the character is white space itself.
-/

namespace Precis.Unicode

theorem exists_of_inRanges {ranges : List (Nat × Nat)} {n : Nat} (h : inRanges ranges n = true) :
    ∃ r ∈ ranges, r.1 ≤ n ∧ n ≤ r.2 := by
  induction ranges with
  | nil => simp [inRanges] at h
  | cons r ranges ih =>
      simp only [inRanges] at h
      split at h
      · simp at h
      · next hfirst =>
        simp only [Bool.or_eq_true, decide_eq_true_eq] at h
        cases h with
        | inl hlast => exact ⟨r, by simp, Nat.le_of_not_lt hfirst, hlast⟩
        | inr hrest =>
            obtain ⟨r', hr', hbounds⟩ := ih hrest
            exact ⟨r', List.mem_cons_of_mem r hr', hbounds⟩

theorem mem_of_find? {α : Type} {table : List (Nat × α)} {n : Nat} {value : α}
    (h : find? table n = some value) : (n, value) ∈ table := by
  induction table with
  | nil => simp [find?] at h
  | cons entry table ih =>
      simp only [find?] at h
      split at h
      · simp at h
      · split at h
        · next hkey =>
          obtain rfl := Option.some.inj h
          subst hkey
          exact List.mem_cons_self
        · exact List.mem_cons_of_mem entry (ih h)

theorem exists_of_image? {runs : List (Nat × Nat × Nat)} {n image : Nat}
    (h : image? runs n = some image) :
    ∃ r ∈ runs, r.1 ≤ n ∧ n ≤ r.2.1 ∧ image = r.2.2 + (n - r.1) := by
  induction runs with
  | nil => simp [image?] at h
  | cons r runs ih =>
      simp only [image?] at h
      split at h
      · simp at h
      · next hfirst =>
        split at h
        · next hlast =>
          exact ⟨r, by simp, Nat.le_of_not_lt hfirst, hlast, (Option.some.inj h).symm⟩
        · obtain ⟨r', hr', hbounds⟩ := ih h
          exact ⟨r', List.mem_cons_of_mem r hr', hbounds⟩

def isSpaceCode (n : Nat) : Bool :=
  inRanges whiteSpaceRanges n

def spaceCodes : List Nat :=
  whiteSpaceRanges.flatMap fun r => List.range' r.1 (r.2 + 1 - r.1)

theorem mem_spaceCodes {n : Nat} (h : isSpaceCode n = true) : n ∈ spaceCodes := by
  obtain ⟨r, hr, hfirst, hlast⟩ := exists_of_inRanges h
  refine List.mem_flatMap.2 ⟨r, hr, List.mem_range'_1.2 ?_⟩
  omega

theorem isSpaceCode_of_between {n : Nat} (h : 0xA0 < n ∧ n < 0x1680 ∨ 0x3000 < n) :
    isSpaceCode n = false := by
  have hbounds : ∀ m ∈ spaceCodes, m ≤ 0xA0 ∨ 0x1680 ≤ m ∧ m ≤ 0x3000 := by decide
  cases hn : isSpaceCode n with
  | false => rfl
  | true =>
      have := hbounds n (mem_spaceCodes hn)
      omega

/-- White space is never a mark. -/
theorem isSpaceCode_of_mark {n : Nat} (h : combiningClass n ≠ 0) : isSpaceCode n = false := by
  have hstarters : ∀ m ∈ spaceCodes, combiningClass m = 0 := by decide +kernel
  cases hn : isSpaceCode n with
  | false => rfl
  | true => exact absurd (hstarters n (mem_spaceCodes hn)) h

theorem isSpaceCode_hangul_composite? {a b c : Nat} (h : Hangul.composite? a b = some c) :
    isSpaceCode a = false ∧ isSpaceCode b = false ∧ isSpaceCode c = false := by
  unfold Hangul.composite? at h
  split at h
  · next hletters =>
    obtain rfl := Option.some.inj h
    simp only [Hangul.isLead, Hangul.isVowel, Bool.and_eq_true, decide_eq_true_eq] at hletters
    simp only [Hangul.vowelCount] at hletters ⊢
    refine ⟨isSpaceCode_of_between ?_, isSpaceCode_of_between ?_, isSpaceCode_of_between ?_⟩ <;>
      omega
  · split at h
    · next hsyllable =>
      obtain rfl := Option.some.inj h
      simp only [Hangul.isOpenSyllable, Hangul.isSyllable, Hangul.isTrail, Bool.and_eq_true,
        decide_eq_true_eq] at hsyllable
      simp only [Hangul.trailCount] at hsyllable
      refine ⟨isSpaceCode_of_between ?_, isSpaceCode_of_between ?_, isSpaceCode_of_between ?_⟩ <;>
        omega
    · simp at h

/-- No white space is listed among compositions. -/
def hasNoSpace (entry : Nat × List (Nat × Nat)) : Bool :=
  !isSpaceCode entry.1 && entry.2.all fun pair => !isSpaceCode pair.1 && !isSpaceCode pair.2

theorem isSpaceCode_listedComposite? {a b c : Nat} (h : listedComposite? a b = some c) :
    isSpaceCode a = false ∧ isSpaceCode b = false ∧ isSpaceCode c = false := by
  have hlatin : latinCompositions.all hasNoSpace = true := by decide +kernel
  have hother : otherCompositions.all hasNoSpace = true := by decide +kernel
  have hall : ∀ entry ∈ (if a < 0x370 then latinCompositions else otherCompositions),
      hasNoSpace entry = true := by
    split
    · exact List.all_eq_true.1 hlatin
    · exact List.all_eq_true.1 hother
  unfold listedComposite? at h
  split at h
  · next pairs hpairs =>
    have hentry := hall _ (mem_of_find? hpairs)
    simp only [hasNoSpace, Bool.and_eq_true, Bool.not_eq_true', List.all_eq_true] at hentry
    exact ⟨hentry.1, hentry.2 _ (mem_of_find? h)⟩
  · simp at h

theorem isSpaceCode_composite? {a b c : Nat} (h : composite? a b = some c) :
    isSpaceCode a = false ∧ isSpaceCode b = false ∧ isSpaceCode c = false := by
  unfold composite? at h
  split at h
  · next n hn =>
    obtain rfl := Option.some.inj h
    exact isSpaceCode_hangul_composite? hn
  · exact isSpaceCode_listedComposite? h

def startsWithSpace (ns : List Nat) : Bool :=
  ns.head?.any isSpaceCode

def endsWithSpace (ns : List Nat) : Bool :=
  ns.getLast?.any isSpaceCode

@[simp]
theorem startsWithSpace_cons (n : Nat) (ns : List Nat) :
    startsWithSpace (n :: ns) = isSpaceCode n :=
  rfl

@[simp]
theorem endsWithSpace_cons_cons (n m : Nat) (ns : List Nat) :
    endsWithSpace (n :: m :: ns) = endsWithSpace (m :: ns) :=
  rfl

theorem endsWithSpace_append (front : List Nat) {back : List Nat} (h : back ≠ []) :
    endsWithSpace (front ++ back) = endsWithSpace back := by
  rw [endsWithSpace, List.getLast?_append, List.getLast?_eq_some_getLast h, Option.some_or,
    endsWithSpace, List.getLast?_eq_some_getLast h]

theorem startsWithSpace_insertMark (n : Nat) (ns : List Nat) :
    startsWithSpace (insertMark n ns) = isSpaceCode n := by
  cases ns with
  | nil => rfl
  | cons m ns =>
      simp only [insertMark]
      split
      · next hmarks =>
        rw [startsWithSpace_cons, isSpaceCode_of_mark (Nat.ne_of_gt hmarks.1),
          isSpaceCode_of_mark (Nat.ne_of_gt (Nat.lt_trans hmarks.1 hmarks.2))]
      · rfl

theorem startsWithSpace_canonicalOrder (ns : List Nat) :
    startsWithSpace (canonicalOrder ns) = startsWithSpace ns := by
  cases ns with
  | nil => rfl
  | cons n ns => exact startsWithSpace_insertMark n (canonicalOrder ns)

theorem insertMark_ne_nil (n : Nat) (ns : List Nat) : insertMark n ns ≠ [] := by
  cases ns with
  | nil => simp [insertMark]
  | cons m ns =>
      simp only [insertMark]
      split <;> simp

/-- A mark passes nothing but marks. -/
theorem endsWithSpace_insertMark (n : Nat) (ns : List Nat) :
    endsWithSpace (insertMark n ns) = endsWithSpace (n :: ns) := by
  induction ns with
  | nil => rfl
  | cons m ns ih =>
      simp only [insertMark]
      split
      · next hmarks =>
        have hm : isSpaceCode m = false := isSpaceCode_of_mark (Nat.ne_of_gt hmarks.1)
        have hn : isSpaceCode n = false :=
          isSpaceCode_of_mark (Nat.ne_of_gt (Nat.lt_trans hmarks.1 hmarks.2))
        have htail : endsWithSpace (m :: insertMark n ns) = endsWithSpace (insertMark n ns) :=
          endsWithSpace_append [m] (insertMark_ne_nil n ns)
        rw [htail, ih, endsWithSpace_cons_cons]
        cases ns with
        | nil => simp [endsWithSpace, hm, hn]
        | cons m' ns => rfl
      · rfl

theorem canonicalOrder_ne_nil {ns : List Nat} (h : ns ≠ []) : canonicalOrder ns ≠ [] := by
  cases ns with
  | nil => exact absurd rfl h
  | cons n ns => exact insertMark_ne_nil n (canonicalOrder ns)

theorem endsWithSpace_canonicalOrder (ns : List Nat) :
    endsWithSpace (canonicalOrder ns) = endsWithSpace ns := by
  induction ns with
  | nil => rfl
  | cons n ns ih =>
      refine (endsWithSpace_insertMark n (canonicalOrder ns)).trans ?_
      cases ns with
      | nil => rfl
      | cons m ns =>
          have hne := canonicalOrder_ne_nil (List.cons_ne_nil m ns)
          rw [endsWithSpace_cons_cons, ← ih]
          exact endsWithSpace_append [n] hne

theorem startsWithSpace_composeAfter (starter : Nat) (marks rest : List Nat) :
    startsWithSpace (composeAfter starter marks rest) = isSpaceCode starter := by
  induction rest generalizing starter marks with
  | nil => rfl
  | cons n rest ih =>
      simp only [composeAfter]
      split
      · next composed hcomposed =>
        obtain ⟨-, hcomposite⟩ := Option.ite_none_right_eq_some.1 hcomposed
        obtain ⟨hstarter, -, hresult⟩ := isSpaceCode_composite? hcomposite
        rw [ih, hresult, hstarter]
      · split
        · rfl
        · exact ih starter (n :: marks)

theorem startsWithSpace_compose (ns : List Nat) :
    startsWithSpace (compose ns) = startsWithSpace ns := by
  cases ns with
  | nil => rfl
  | cons n ns =>
      simp only [compose]
      split
      · exact startsWithSpace_composeAfter n [] ns
      · rfl

theorem endsWithSpace_of_forall {ns : List Nat} (h : ∀ n ∈ ns, isSpaceCode n = false) :
    endsWithSpace ns = false := by
  rw [endsWithSpace, Option.any_eq_false]
  intro n hn
  simp [h n (List.mem_of_mem_getLast? hn)]

theorem composeAfter_ne_nil (starter : Nat) (marks rest : List Nat) :
    composeAfter starter marks rest ≠ [] := by
  induction rest generalizing starter marks with
  | nil => simp [composeAfter]
  | cons n rest ih =>
      simp only [composeAfter]
      split
      · exact ih _ marks
      · split
        · simp
        · exact ih starter (n :: marks)

/-- The marks that stayed uncomposed are no white space, nor is anything that is composed. -/
theorem endsWithSpace_composeAfter (starter : Nat) {marks : List Nat} (rest : List Nat)
    (h : ∀ m ∈ marks, isSpaceCode m = false) :
    endsWithSpace (composeAfter starter marks rest) =
      endsWithSpace (starter :: marks.reverse ++ rest) := by
  induction rest generalizing starter marks with
  | nil => rw [composeAfter, List.append_nil]
  | cons n rest ih =>
      rw [endsWithSpace_append _ (List.cons_ne_nil n rest)]
      simp only [composeAfter]
      split
      · next composed hcomposed =>
        obtain ⟨-, hcomposite⟩ := Option.ite_none_right_eq_some.1 hcomposed
        obtain ⟨-, hn, hresult⟩ := isSpaceCode_composite? hcomposite
        rw [ih composed h]
        cases rest with
        | nil =>
            rw [List.append_nil, endsWithSpace_of_forall, endsWithSpace_of_forall]
            · simpa using hn
            · simpa [hresult] using h
        | cons m rest =>
            rw [endsWithSpace_append _ (List.cons_ne_nil m rest), endsWithSpace_cons_cons]
      · split
        · rw [← List.cons_append, endsWithSpace_append _ (composeAfter_ne_nil n [] rest),
            ih n (by simp)]
          rfl
        · next hmark =>
          have hmarks : ∀ m ∈ n :: marks, isSpaceCode m = false :=
            List.forall_mem_cons.2 ⟨isSpaceCode_of_mark hmark, h⟩
          rw [ih starter hmarks, List.reverse_cons, ← List.cons_append, List.append_assoc,
            List.singleton_append, endsWithSpace_append _ (List.cons_ne_nil n rest)]

theorem compose_ne_nil {ns : List Nat} (h : ns ≠ []) : compose ns ≠ [] := by
  cases ns with
  | nil => exact absurd rfl h
  | cons n ns =>
      simp only [compose]
      split
      · exact composeAfter_ne_nil n [] ns
      · simp

theorem endsWithSpace_compose (ns : List Nat) : endsWithSpace (compose ns) = endsWithSpace ns := by
  induction ns with
  | nil => rfl
  | cons n ns ih =>
      simp only [compose]
      split
      · exact endsWithSpace_composeAfter n ns (by simp)
      · cases ns with
        | nil => rfl
        | cons m ns =>
            rw [endsWithSpace_cons_cons, ← ih]
            exact endsWithSpace_append [n] (compose_ne_nil (List.cons_ne_nil m ns))

/-- The images of a run are no white space, unless the run is one white space character. -/
def isClearOfSpace (run : Nat × Nat × Nat) : Bool :=
  (whiteSpaceRanges.all fun r => Nat.blt (run.2.2 + (run.2.1 - run.1)) r.1 || Nat.blt r.2 run.2.2)
    || run.1 == run.2.1 && isSpaceCode run.1

theorem isSpaceCode_image {run : Nat × Nat × Nat} {n : Nat} (h : isClearOfSpace run = true)
    (hfirst : run.1 ≤ n) (hlast : n ≤ run.2.1) (hn : isSpaceCode n = false) :
    isSpaceCode (run.2.2 + (n - run.1)) = false := by
  simp only [isClearOfSpace, Bool.or_eq_true, Bool.and_eq_true, List.all_eq_true, Nat.blt_eq,
    beq_iff_eq] at h
  cases h with
  | inl hclear =>
      rw [Bool.eq_false_iff]
      intro himage
      obtain ⟨r, hr, hfrom, hto⟩ := exists_of_inRanges himage
      have := hclear r hr
      omega
  | inr hspace =>
      obtain rfl : n = run.1 := by omega
      simp [hspace.2] at hn

theorem isSpaceCode_letters {n m : Nat} (hn : Hangul.isSyllable n = true)
    (h : m ∈ Hangul.letters n) : isSpaceCode m = false := by
  simp only [Hangul.isSyllable, Bool.and_eq_true, decide_eq_true_eq] at hn
  simp only [Hangul.syllableCount, Hangul.vowelCount, Hangul.trailCount] at hn
  apply isSpaceCode_of_between
  simp only [Hangul.letters] at h
  split at h
  all_goals
    simp only [List.mem_cons, List.not_mem_nil, or_false, Hangul.vowelCount, Hangul.trailCount] at h
    omega

/-- Nothing is taken apart to nothing, and white space comes last only of white space. -/
theorem decompose_ends {n : Nat} (hn : isSpaceCode n = false) :
    decompose n ≠ [] ∧ endsWithSpace (decompose n) = false := by
  have hsequences : Decomposition.sequences.all fun e => !e.2.isEmpty && !endsWithSpace e.2 := by
    decide +kernel
  have hruns : Decomposition.runs.all isClearOfSpace = true := by decide +kernel
  unfold decompose
  split
  · next hsyllable =>
    refine ⟨?_, endsWithSpace_of_forall fun m => isSpaceCode_letters hsyllable⟩
    unfold Hangul.letters
    simp only
    split <;> simp
  · unfold Decomposition.listed?
    split
    · next ns hns =>
      have hentry := List.all_eq_true.1 hsequences _ (mem_of_find? hns)
      simpa using hentry
    · cases himage : image? Decomposition.runs n with
      | none => exact ⟨by simp, by simpa [endsWithSpace] using hn⟩
      | some image =>
          obtain ⟨run, hrun, hfirst, hlast, rfl⟩ := exists_of_image? himage
          have hclear := isSpaceCode_image (List.all_eq_true.1 hruns run hrun) hfirst hlast hn
          exact ⟨by simp, by simpa [endsWithSpace] using hclear⟩

theorem isWhiteSpace_ofNat (n : Nat) : isWhiteSpace (Char.ofNat n) = isSpaceCode n := by
  by_cases hvalid : n.isValidChar
  · rw [Char.ofNat, dif_pos hvalid]
    rfl
  · have hn : isSpaceCode n = false := by
      refine isSpaceCode_of_between (.inr (Nat.lt_of_not_le fun hle => hvalid (.inl ?_)))
      omega
    rw [Char.ofNat, dif_neg hvalid, hn]
    decide

theorem any_head?_map_ofNat (ns : List Nat) :
    (ns.map Char.ofNat).head?.any isWhiteSpace = startsWithSpace ns := by
  rw [List.head?_map, Option.any_map, startsWithSpace]
  simp only [isWhiteSpace_ofNat]

theorem any_getLast?_map_ofNat (ns : List Nat) :
    (ns.map Char.ofNat).getLast?.any isWhiteSpace = endsWithSpace ns := by
  rw [List.getLast?_map, Option.any_map, endsWithSpace]
  simp only [isWhiteSpace_ofNat]

/-- What the character stands for begins with white space: so do the spacing forms of marks, which
stand for a space that carries the mark. -/
def opensWithSpace (c : Char) : Bool :=
  startsWithSpace (decompose c.toNat)

variable {c : Char} (cs : List Char)

theorem compatibilityForm_ne_nil (hc : isWhiteSpace c = false) :
    compatibilityForm (c :: cs) ≠ [] := by
  have hne : ((c :: cs).flatMap fun c => decompose c.toNat) ≠ [] := by
    rw [List.flatMap_cons]
    exact List.append_ne_nil_of_left_ne_nil (decompose_ends hc).1 _
  rw [compatibilityForm, ne_eq, List.map_eq_nil_iff]
  exact compose_ne_nil (canonicalOrder_ne_nil hne)

theorem startsWithSpace_compatibilityForm (hc : isWhiteSpace c = false) :
    (compatibilityForm (c :: cs)).head?.any isWhiteSpace = opensWithSpace c := by
  obtain ⟨n, ns, hns⟩ := List.exists_cons_of_ne_nil (decompose_ends hc).1
  rw [compatibilityForm, any_head?_map_ofNat, startsWithSpace_compose,
    startsWithSpace_canonicalOrder, List.flatMap_cons, opensWithSpace, hns]
  rfl

theorem endsWithSpace_compatibilityForm (hc : isWhiteSpace c = false) :
    (compatibilityForm (cs ++ [c])).getLast?.any isWhiteSpace = false := by
  obtain ⟨hne, hends⟩ := decompose_ends hc
  rw [compatibilityForm, any_getLast?_map_ofNat, endsWithSpace_compose,
    endsWithSpace_canonicalOrder, List.flatMap_append, List.flatMap_singleton,
    endsWithSpace_append _ hne, hends]

end Precis.Unicode
