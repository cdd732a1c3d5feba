import Precis.Proofs.Font.Nearest
import Precis.Proofs.Font.Scan
import Precis.Proofs.Text.Numeral
import Precis.Proofs.Text.Words

/-!
The stream as a writer of runs encodes it. What is written is read back run by run, and nothing but
what could have been written is read: a span stands for the encoding of a run that fills a whole
segment between brackets.
-/

namespace Precis

theorem FontSize.value_thousand : FontSize.value ⟨0x447A0000⟩ = 1000 := by
  have hsteps : FontSize.stepsOf (135 * 2 ^ 23 + 16384000) = 16384000 * 2 ^ 135 :=
    FontSize.stepsOf_add (.inr (by decide)) (by decide)
  have hbits : (0x447A0000 : UInt32).toNat = 135 * 2 ^ 23 + 16384000 := by decide
  rw [FontSize.value, FontSize.steps_of_lt (by decide), hbits, hsteps]
  norm_num

theorem Unicode.isDigit_of_isDigit {c : Char} (h : c.isDigit = true) : isDigit c = true := by
  obtain ⟨hlow, hhigh⟩ := Text.isDigit_iff.1 h
  rw [isDigit, digitRanges, inRanges, if_neg (by omega), decide_eq_true (by omega), Bool.true_or]

/-- A run of text with the numbers of its tag, as a writer gives them. -/
structure Run where
  zeros : Nat
  index : UInt64
  whole : Text
  fraction : Text
  text : Text
  whole_digits : ∀ c ∈ whole, c.isDigit = true
  whole_length : whole.length = 2 ∨ whole.length = 3
  fraction_digits : ∀ c ∈ fraction, c.isDigit = true
  fraction_ne_nil : fraction ≠ []
  text_bracket : '[' ∉ text

namespace Run

def tag (run : Run) : Tag where
  index := List.replicate run.zeros '0' ++ Text.ofNat run.index.toNat
  whole := run.whole
  fraction := run.fraction
  text := run.text

def encode (run : Run) : Text :=
  run.tag.render

/-- The number that the digits of the size are written for. -/
def decimal (run : Run) : ℚ :=
  Text.valueOfDigits run.whole + Text.valueOfDigits run.fraction / 10 ^ run.fraction.length

/-- The span that a run has to be read as. -/
structure Reads (run : Run) (span : Span) : Prop where
  index : span.index = run.index.toNat
  size : FontSize.IsNearest run.decimal span.size
  text : span.text = run.text

def size (run : Run) : FontSize :=
  FontSize.nearest (Text.valueOfDigits (run.whole ++ run.fraction))
    (Nat.pow 10 run.fraction.length)

def span (run : Run) : Span :=
  ⟨run.index.toNat, run.size, run.text⟩

theorem decimal_eq (run : Run) :
    run.decimal =
      (Text.valueOfDigits (run.whole ++ run.fraction) : ℚ) / (10 ^ run.fraction.length : Nat) := by
  rw [decimal, Text.valueOfDigits_append, Nat.cast_add, Nat.cast_mul, add_div, Nat.cast_pow,
    Nat.cast_ofNat, mul_div_cancel_right₀ _ (by positivity)]

theorem isDigit_of_mem_size (run : Run) :
    ∀ c ∈ run.whole ++ run.fraction, c.isDigit = true := by
  intro c hc
  exact (List.mem_append.1 hc).elim (run.whole_digits c) (run.fraction_digits c)

theorem decimal_lt (run : Run) : run.decimal < 1000 := by
  have hlength : (run.whole ++ run.fraction).length ≤ 3 + run.fraction.length := by
    rw [List.length_append]
    have hwhole := run.whole_length
    omega
  have hvalue : Text.valueOfDigits (run.whole ++ run.fraction) < 10 ^ (3 + run.fraction.length) :=
    (Text.valueOfDigits_lt run.isDigit_of_mem_size).trans_le
      (Nat.pow_le_pow_right (by decide) hlength)
  rw [decimal_eq, div_lt_iff₀ (by positivity)]
  rw [Nat.pow_add] at hvalue
  exact_mod_cast hvalue

theorem isNearest_size (run : Run) : FontSize.IsNearest run.decimal run.size := by
  have hlt : run.decimal < 2 ^ 127 := run.decimal_lt.trans (by norm_num)
  rw [decimal_eq] at hlt ⊢
  exact FontSize.isNearest_nearest (Nat.pow_pos (by decide)).ne' hlt

theorem reads_span (run : Run) : run.Reads run.span :=
  ⟨rfl, run.isNearest_size, rfl⟩

/-- A run has one reading only. -/
theorem reads_iff {run : Run} {span : Span} : run.Reads span ↔ span = run.span := by
  constructor
  · intro h
    cases span
    simp only [Run.span, Span.mk.injEq]
    exact ⟨h.index, h.size.unique run.isNearest_size, h.text⟩
  · rintro rfl
    exact run.reads_span

theorem forall₂_reads_iff {runs : List Run} {spans : List Span} :
    List.Forall₂ Run.Reads runs spans ↔ spans = runs.map Run.span := by
  have hreads : Run.Reads = fun run span => run.span = span :=
    funext₂ fun _ _ => propext (reads_iff.trans eq_comm)
  rw [hreads, ← List.forall₂_map_left_iff (R := Eq) (f := Run.span), List.forall₂_eq_eq_eq,
    eq_comm]

theorem Reads.size_le {run : Run} {span : Span} (h : run.Reads span) :
    span.size.value ≤ 1000 := by
  rw [← FontSize.value_thousand]
  exact h.size.le_of_le (by decide) (FontSize.value_thousand ▸ run.decimal_lt.le)

-- 999.99999 is already read as 1000
example : FontSize.nearest 99999999 100000 = ⟨0x447A0000⟩ := by decide +kernel

theorem isDigit_of_mem_index (run : Run) : ∀ c ∈ run.tag.index, c.isDigit = true :=
  (Text.isNumeral_iff.1 (Text.isNumeral_zeros_append_ofNat run.zeros run.index.toNat)).2

theorem isTagged (run : Run) : run.tag.IsTagged where
  index c hc := Unicode.isDigit_of_isDigit (run.isDigit_of_mem_index c hc)
  whole c hc := Unicode.isDigit_of_isDigit (run.whole_digits c hc)
  fraction c hc := Unicode.isDigit_of_isDigit (run.fraction_digits c hc)
  text := run.text_bracket
  wellFormed := by
    have hwhole := run.whole_length
    simp [Tag.isWellFormed, tag, Text.ofNat_ne_nil, run.fraction_ne_nil, hwhole]

theorem span?_tag (run : Run) : run.tag.span? = some run.span := by
  have hindex : run.tag.index? = some run.index.toNat := by
    rw [Tag.index?, tag, Text.toNat?_zeros_append_ofNat, Option.filter_some,
      if_pos (decide_eq_true run.index.toNat_lt)]
  have hsize : run.tag.size? = some run.size :=
    if_pos (List.all_eq_true.2 run.isDigit_of_mem_size)
  rw [Tag.span?, hindex, hsize]
  exact if_pos run.isNearest_size.finite

end Run

namespace Tag

/-- Whatever size can be read could have been written, with any index in front of it. -/
theorem IsTagged.exists_run_of_size? {tag : Tag} (htag : tag.IsTagged) {size : FontSize}
    (h : tag.size? = some size) (zeros : Nat) (index : UInt64) :
    ∃ run : Run, run.size = size ∧
      run.tag = { tag with index := List.replicate zeros '0' ++ Text.ofNat index.toNat } := by
  obtain ⟨hdigits, hsize⟩ := Option.ite_none_right_eq_some.1 h
  obtain ⟨hwhole, hfraction⟩ := Bool.and_eq_true_iff.1 (List.all_append ▸ hdigits)
  have hwf := htag.wellFormed
  simp only [isWellFormed, Bool.and_eq_true, Bool.or_eq_true, beq_iff_eq, Bool.not_eq_true',
    List.isEmpty_eq_false_iff] at hwf
  exact ⟨⟨zeros, index, tag.whole, tag.fraction, tag.text, List.all_eq_true.1 hwhole, hwf.1.2,
    List.all_eq_true.1 hfraction, hwf.2, htag.text⟩, Option.some.inj hsize, rfl⟩

theorem IsTagged.exists_run {tag : Tag} (htag : tag.IsTagged) {span : Span}
    (h : tag.span? = some span) : ∃ run : Run, run.tag = tag := by
  unfold span? at h
  split at h
  · next n size hindex hsize =>
    obtain ⟨hvalue, hfits⟩ := Option.filter_eq_some_iff.1 hindex
    obtain ⟨zeros, hzeros⟩ := Text.toNat?_eq_some_iff.1 hvalue
    obtain ⟨run, -, hrun⟩ :=
      htag.exists_run_of_size? hsize zeros (UInt64.ofNatLT n (of_decide_eq_true hfits))
    exact ⟨run, hrun.trans (by rw [UInt64.toNat_ofNatLT, ← hzeros])⟩
  · simp at h

theorem IsTagged.isFinite_of_size? {tag : Tag} (htag : tag.IsTagged) {size : FontSize}
    (h : tag.size? = some size) : size.isFinite = true := by
  obtain ⟨run, rfl, -⟩ := htag.exists_run_of_size? h 0 0
  exact run.isNearest_size.finite

end Tag

namespace Run

theorem startsTag_flatMap_encode (runs : List Run) : Tag.StartsTag (runs.flatMap encode) := by
  cases runs with
  | nil => simp [Tag.StartsTag]
  | cons run runs =>
      intro c hc
      exact (Option.some.inj hc).symm

theorem scan_encode_append (run : Run) {rest : Text} (hrest : Tag.StartsTag rest) :
    Span.scan (run.encode ++ rest) = run.span :: Span.scan rest := by
  rw [encode, Span.scan_of_read? (Tag.read?_render run.isTagged hrest), run.span?_tag]
  rfl

theorem scan_encode (run : Run) : Span.scan run.encode = [run.span] := by
  have h := run.scan_encode_append (startsTag_flatMap_encode [])
  rwa [List.flatMap_nil, List.append_nil, Span.scan] at h

theorem scan_flatMap_encode (runs : List Run) :
    Span.scan (runs.flatMap encode) = runs.map span := by
  induction runs with
  | nil => rw [List.flatMap_nil, Span.scan, List.map_nil]
  | cons run runs ih =>
      rw [List.flatMap_cons, run.scan_encode_append (startsTag_flatMap_encode runs), ih,
        List.map_cons]

end Run

namespace Span

theorem scan_append_of_not_mem {front rest : Text} (hfront : '[' ∉ front)
    (hrest : Tag.StartsTag rest) : scan (front ++ rest) = scan rest := by
  cases rest with
  | nil => rw [List.append_nil, scan_eq_nil_of_not_mem hfront, scan]
  | cons c rest =>
      rw [hrest c rfl, scan_append_bracket, scan_eq_nil_of_not_mem hfront, List.nil_append]

theorem eq_nil_of_startsTag {t : Text} (h : Tag.StartsTag t) (hbracket : '[' ∉ t) : t = [] := by
  cases t with
  | nil => rfl
  | cons c t =>
      rw [h c rfl] at hbracket
      simp at hbracket

/-- A segment that is no encoding yields nothing. -/
theorem scan_segment_eq_nil {segment : Text} (hbracket : '[' ∉ segment)
    (h : ∀ run : Run, run.encode ≠ '[' :: segment) : scan ('[' :: segment) = [] := by
  cases hread : Tag.read? ('[' :: segment) with
  | none => rw [scan_cons_of_read?_eq_none hread, scan_eq_nil_of_not_mem hbracket]
  | some found =>
      obtain ⟨tag, rest⟩ := found
      obtain ⟨htag, hrest, heq⟩ := Tag.read?_eq_some_iff.1 hread
      have hnil : rest = [] := by
        refine eq_nil_of_startsTag hrest fun hmem => hbracket ?_
        rw [Tag.render, List.cons_append, List.cons.injEq] at heq
        exact heq.2 ▸ List.mem_append_right _ hmem
      subst hnil
      rw [scan_of_read? hread, scan, List.append_nil]
      cases hspan : tag.span? with
      | none => rfl
      | some span =>
          obtain ⟨run, rfl⟩ := htag.exists_run hspan
          exact absurd (heq.trans (List.append_nil _)).symm (h run)

/-- Segments between brackets and the spans that they are read as: one for each encoding, in order,
and none for a segment that is no encoding. -/
inductive ReadsSegments : List Text → List Span → Prop
  | nil : ReadsSegments [] []
  | read {segment : Text} {segments : List Text} {span : Span} {spans : List Span} (run : Run) :
      run.encode = '[' :: segment → run.Reads span → ReadsSegments segments spans →
      ReadsSegments (segment :: segments) (span :: spans)
  | skip {segment : Text} {segments : List Text} {spans : List Span} :
      (∀ run : Run, run.encode ≠ '[' :: segment) → ReadsSegments segments spans →
      ReadsSegments (segment :: segments) spans

theorem ReadsSegments.exists_run {segments : List Text} {spans : List Span}
    (h : ReadsSegments segments spans) :
    ∀ span ∈ spans, ∃ run : Run, run.Reads span ∧
      ∃ segment ∈ segments, run.encode = '[' :: segment := by
  induction h with
  | nil => simp
  | read run hencode hreads _ ih =>
      intro span hspan
      rcases List.mem_cons.1 hspan with rfl | hspan
      · exact ⟨run, hreads, _, List.mem_cons_self, hencode⟩
      · obtain ⟨other, hother, segment, hsegment, hencode⟩ := ih span hspan
        exact ⟨other, hother, segment, List.mem_cons_of_mem _ hsegment, hencode⟩
  | skip _ _ ih =>
      intro span hspan
      obtain ⟨other, hother, segment, hsegment, hencode⟩ := ih span hspan
      exact ⟨other, hother, segment, List.mem_cons_of_mem _ hsegment, hencode⟩

theorem readsSegments_flatMap {segments : List Text} (h : ∀ segment ∈ segments, '[' ∉ segment) :
    ReadsSegments segments (segments.flatMap fun segment => scan ('[' :: segment)) := by
  induction segments with
  | nil => exact .nil
  | cons segment segments ih =>
      have hsegments := ih fun other hother => h other (List.mem_cons_of_mem _ hother)
      rw [List.flatMap_cons]
      by_cases hrun : ∃ run : Run, run.encode = '[' :: segment
      · obtain ⟨run, hencode⟩ := hrun
        rw [← hencode, run.scan_encode]
        exact .read run hencode run.reads_span hsegments
      · have hnone := not_exists.1 hrun
        rw [scan_segment_eq_nil (h segment List.mem_cons_self) hnone]
        exact .skip hnone hsegments

theorem not_mem_of_mem_splitOn {t segment : Text} (h : segment ∈ t.splitOn '[') :
    '[' ∉ segment := by
  rw [List.splitOn_eq_splitOnP] at h
  intro hmem
  simpa using (Text.mem_splitOnP h).2 '[' hmem

theorem readsSegments_scan (t : Text) : ReadsSegments (t.splitOn '[').tail (scan t) := by
  obtain ⟨front, segments, hsplit, hfront, heq⟩ := splitOn_bracket t
  have hsegments : ∀ segment ∈ segments, '[' ∉ segment := by
    intro segment hsegment
    exact not_mem_of_mem_splitOn (hsplit ▸ List.mem_cons_of_mem front hsegment)
  have hscan : scan t = segments.flatMap fun segment => scan ('[' :: segment) := by
    rw [heq, scan_append_segments, scan_eq_nil_of_not_mem hfront, List.nil_append]
  rw [hscan, hsplit, List.tail_cons]
  exact readsSegments_flatMap hsegments

/-- The stream is read back as it was written: one span for each run, in order, with its index, the
size nearest to its number and its text. Whatever else a text holds, its spans are the readings of
the encodings among its segments, and every size is a number from 0 to 1000, so that none that can
be read is ever rejected. -/
theorem scan_reads_encodings :
    (∀ (front : Text) (runs : List Run), '[' ∉ front → ∀ spans,
      List.Forall₂ Run.Reads runs spans ↔ spans = scan (front ++ runs.flatMap Run.encode)) ∧
    (∀ t : Text, ReadsSegments (t.splitOn '[').tail (scan t)) ∧
    (∀ t : Text, ∀ span ∈ scan t, span.size.isFinite = true ∧ span.size.isNaN = false ∧
      0 ≤ span.size.value ∧ span.size.value ≤ 1000) ∧
    ∀ (t rest : Text) (tag : Tag) (size : FontSize), Tag.read? t = some (tag, rest) →
      tag.size? = some size → size.isFinite = true := by
  refine ⟨?_, readsSegments_scan, ?_, ?_⟩
  · intro front runs hfront spans
    rw [scan_append_of_not_mem hfront (Run.startsTag_flatMap_encode runs), Run.scan_flatMap_encode]
    exact Run.forall₂_reads_iff
  · intro t span hspan
    obtain ⟨run, hreads, -⟩ := (readsSegments_scan t).exists_run span hspan
    exact ⟨hreads.size.finite, FontSize.isNaN_of_isFinite hreads.size.finite,
      FontSize.value_nonneg hreads.size.unsigned, hreads.size_le⟩
  · intro t rest tag size hread hsize
    exact (Tag.isTagged_of_read? hread).1.isFinite_of_size? hsize

theorem scan_reads_encodings_leading_zeros :
    let run : Run := ⟨2, 7, ['1', '2'], ['5', '0'], "Annual report".toList,
      List.all_eq_true.1 rfl, .inl rfl, List.all_eq_true.1 rfl, by decide, by decide⟩
    '[' ∉ "front".toList ∧
    List.Forall₂ Run.Reads [run] (scan ("front".toList ++ [run].flatMap Run.encode)) ∧
    ReadsSegments (run.encode.splitOn '[').tail (scan run.encode) ∧
    run.span ∈ scan run.encode ∧ run.span.size.value ≤ 1000 ∧
    Tag.read? (run.encode ++ []) = some (run.tag, []) ∧ run.tag.size? = some run.size ∧
    run.size.isFinite = true := by
  intro run
  obtain ⟨hencodings, hsegments, hsizes, haccepts⟩ := scan_reads_encodings
  have hfront : '[' ∉ "front".toList := by decide
  have hspan : run.span ∈ scan run.encode := by
    rw [run.scan_encode]
    exact List.mem_singleton_self run.span
  have hread : Tag.read? (run.encode ++ []) = some (run.tag, []) :=
    Tag.read?_render run.isTagged (Run.startsTag_flatMap_encode [])
  have hsize : run.tag.size? = some run.size := rfl
  exact ⟨hfront, (hencodings _ _ hfront _).2 rfl, hsegments _, hspan, (hsizes _ _ hspan).2.2.2,
    hread, hsize, haccepts _ _ _ _ hread hsize⟩

end Span
end Precis
