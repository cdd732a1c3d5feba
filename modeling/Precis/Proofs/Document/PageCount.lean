import Precis.Proofs.Document.ParseMetadata
import Precis.Proofs.Document.Process
import Precis.Proofs.Text.Numeral
import Precis.Proofs.Text.Trim

/-!
Page counts. What a reader reports is the decimal numeral of a positive number of 32 bits, perhaps
with zeros or a plus sign in front and with white space around it; whatever else it reports counts
as nothing. What is written for a count is the numeral alone.
-/

namespace Precis

namespace Text

/-- The decimal numeral of the number behind some zeros and perhaps a plus sign, with white space
around all of it. -/
def PadsNumeral (t : Text) (n : Nat) : Prop :=
  ∃ before sign zeros after, isBlank before = true ∧ (sign = [] ∨ sign = ['+']) ∧
    isBlank after = true ∧
    t = before ++ (sign ++ List.replicate zeros '0' ++ Nat.toDigits 10 n) ++ after

theorem spells_iff {t : Text} {n : Nat} :
    t.Spells n ↔ ∃ sign zeros, (sign = [] ∨ sign = ['+']) ∧
      t = sign ++ List.replicate zeros '0' ++ Nat.toDigits 10 n := by
  have hdigits : ∀ digits : Text,
      (digits ≠ [] ∧ (∀ c ∈ digits, c.isDigit = true) ∧ valueOfDigits digits = n) ↔
        ∃ zeros, digits = List.replicate zeros '0' ++ Nat.toDigits 10 n := by
    intro digits
    rw [← toNat?_eq_some_iff_digits, toNat?_eq_some_iff, ofNat_eq_toDigits]
  simp only [Spells, hdigits]
  constructor
  · rintro ⟨digits, rfl | rfl, zeros, rfl⟩
    · exact ⟨[], zeros, .inl rfl, rfl⟩
    · exact ⟨['+'], zeros, .inr rfl, rfl⟩
  · rintro ⟨sign, zeros, rfl | rfl, rfl⟩
    · exact ⟨_, .inl rfl, zeros, rfl⟩
    · exact ⟨_, .inr rfl, zeros, rfl⟩

theorem isSpace_of_isDigit {c : Char} (h : c.isDigit = true) : isSpace c = false := by
  have hrange := isDigit_iff.1 h
  have hdigits : ∀ n < 58, 48 ≤ n → Unicode.inRanges Unicode.whiteSpaceRanges n = false := by
    decide
  exact hdigits c.toNat (by omega) hrange.1

theorem Spells.trim_eq {t : Text} {n : Nat} (h : t.Spells n) : trim t = t := by
  obtain ⟨digits, ht, -, hdigits, -⟩ := h
  refine trim_of_forall fun c hc => ?_
  rcases ht with rfl | rfl
  · exact isSpace_of_isDigit (hdigits c hc)
  · rcases List.mem_cons.1 hc with rfl | hc
    · decide
    · exact isSpace_of_isDigit (hdigits c hc)

theorem spells_trim_iff {t : Text} {n : Nat} : (trim t).Spells n ↔ t.PadsNumeral n := by
  constructor
  · intro h
    obtain ⟨sign, zeros, hsign, htrim⟩ := spells_iff.1 h
    obtain ⟨before, after, hbefore, hafter, heq⟩ := exists_blank_append_trim t
    exact ⟨before, sign, zeros, after, hbefore, hsign, hafter, htrim ▸ heq⟩
  · rintro ⟨before, sign, zeros, after, hbefore, hsign, hafter, rfl⟩
    have hspells : Spells (sign ++ List.replicate zeros '0' ++ Nat.toDigits 10 n) n :=
      spells_iff.2 ⟨sign, zeros, hsign, rfl⟩
    rwa [trim_append_append hbefore hafter, hspells.trim_eq]

end Text

theorem reportedPages?_eq_some_iff {reported : Text} {n : Nat} :
    reportedPages? reported = some n ↔ 1 ≤ n ∧ n < 2 ^ 32 ∧ reported.PadsNumeral n := by
  rw [reportedPages?, Option.bind_eq_some_iff]
  simp only [Text.toNatSigned?_eq_some_iff, Text.spells_trim_iff, Option.ite_none_right_eq_some,
    Option.some_inj]
  constructor
  · rintro ⟨m, hm, ⟨hpos, hlt⟩, rfl⟩
    exact ⟨hpos, hlt, hm⟩
  · rintro ⟨hpos, hlt, hn⟩
    exact ⟨n, hn, ⟨hpos, hlt⟩, rfl⟩

theorem pageCount?_of_padsNumeral {reported : Text} {n : Nat} (hpos : 1 ≤ n) (hlt : n < 2 ^ 32)
    (h : reported.PadsNumeral n) (body : Text) : pageCount? (some reported) body = some n := by
  rw [pageCount?, Option.bind_some, reportedPages?_eq_some_iff.2 ⟨hpos, hlt, h⟩]

theorem pageCount?_of_not_padsNumeral {reported : Option Text}
    (h : ∀ t ∈ reported, ∀ n, 1 ≤ n → n < 2 ^ 32 → ¬ t.PadsNumeral n) (body : Text) :
    pageCount? reported body = if body.isBlank then none else some 1 := by
  have hnone : reported.bind reportedPages? = none := by
    refine Option.bind_eq_none_iff.2 fun t ht => Option.eq_none_iff_forall_ne_some.2 fun n hn => ?_
    obtain ⟨hpos, hlt, hpads⟩ := reportedPages?_eq_some_iff.1 hn
    exact h t ht n hpos hlt hpads
  rw [pageCount?, hnone]

theorem pageCount?_bounds {reported : Option Text} {body : Text} {n : Nat}
    (h : pageCount? reported body = some n) : 1 ≤ n ∧ n < 2 ^ 32 := by
  unfold pageCount? at h
  split at h
  · next m hm =>
    obtain ⟨t, -, ht⟩ := Option.bind_eq_some_iff.1 hm
    obtain ⟨hpos, hlt, -⟩ := reportedPages?_eq_some_iff.1 ht
    exact Option.some.inj h ▸ ⟨hpos, hlt⟩
  · rw [Option.ite_none_left_eq_some, Option.some_inj] at h
    rw [← h.2]
    decide

namespace Document

/-- The number of pages that parsing writes. -/
def writtenPages? (d : Document) : Option Nat :=
  if d.isPdf then pageCount? (d.readerMeta.get? Key.reportedPages) d.text else none

theorem parsedValue?_pages (d : Document) (s : HeadingSettings) :
    d.parsedValue? s Key.pages = d.writtenPages?.map (Nat.toDigits 10) := by
  have hne : Key.pages ≠ Key.heading := by decide
  simp only [parsedValue?, writtenPages?, if_neg hne, if_true, pages?]
  split
  · exact congrArg (Option.map · _) (funext Text.ofNat_eq_toDigits)
  · rfl

theorem find?_pages_parseMeta (d : Document) (s : HeadingSettings) :
    (d.withParseMetadata s).parseMeta.find? Key.pages =
      (d.writtenPages?.map fun n => [Nat.toDigits 10 n]).or (d.parseMeta.find? Key.pages) := by
  rw [find?_parseMeta, parsedValue?_pages, Option.map_map]
  rfl

theorem find?_pages_process_empty {d : Document} {n : Nat} (h : d.writtenPages? = some n)
    (s : Settings) : (d.process s .empty).2.find? Key.pages = some [Nat.toDigits 10 n] := by
  rw [find?_process_of_other d s .empty (by decide) (by decide), Metadata.find?_empty,
    Option.none_or, newValue?, if_pos (by decide), get?_parseMeta, parsedValue?_pages, h]
  rfl

end Document
end Precis
