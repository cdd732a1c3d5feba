import Mathlib.Data.List.Forall2
import Mathlib.Logic.Relation
import Mathlib.Tactic.SplitIfs
import Precis.Proofs.Settings.Layer
import Precis.Proofs.Text.Trim

/-!
Languages that the environment lists. The list is brought to a normal form when it is loaded and the
language that is asked for is trimmed when it is asked for; the two meet wherever a piece of the
list and the language agree up to white space around them and the case of ASCII letters. So only the
languages that are listed matter, and not how the list is written.
-/

namespace Precis

namespace Text

/-- The same character, or one ASCII letter in its two cases. -/
def SameLetter (c d : Char) : Prop :=
  c = d ∨ c.isUpper = true ∧ d.toNat = c.toNat + 32 ∨ d.isUpper = true ∧ c.toNat = d.toNat + 32

theorem isUpper_iff {c : Char} : c.isUpper = true ↔ 65 ≤ c.toNat ∧ c.toNat ≤ 90 :=
  decide_eq_true_iff

theorem toNat_toLower (c : Char) :
    c.toLower.toNat = if c.isUpper then c.toNat + 32 else c.toNat := by
  have hupper : c.isUpper = true ↔ c.val ≥ 'A'.val ∧ c.val ≤ 'Z'.val := decide_eq_true_iff
  unfold Char.toLower
  split
  · next h =>
    have hrange := isUpper_iff.1 (hupper.2 h)
    have hsum : (c.val + 32).toNat = c.toNat + 32 := Nat.mod_eq_of_lt (by simp; omega)
    rw [if_pos (hupper.2 h), ← hsum]
    rfl
  · next h => rw [if_neg (mt hupper.1 h)]

theorem toLower_eq_toLower_iff {c d : Char} : c.toLower = d.toLower ↔ SameLetter c d := by
  rw [SameLetter, ← Char.toNat_inj, ← Char.toNat_inj, toNat_toLower, toNat_toLower]
  simp only [isUpper_iff]
  split_ifs <;> omega

theorem toLower_toLower (c : Char) : c.toLower.toLower = c.toLower := by
  refine toLower_eq_toLower_iff.2 ?_
  have hlower := toNat_toLower c
  split at hlower
  · next hupper => exact .inr (.inr ⟨hupper, hlower⟩)
  · exact .inl (Char.toNat_inj.1 hlower)

/-- No letter is white space in either case. -/
theorem isSpace_toLower (c : Char) : isSpace c.toLower = isSpace c := by
  have hletters : ∀ n < 123, 65 ≤ n →
      Unicode.inRanges Unicode.whiteSpaceRanges n = false := by decide
  rw [isSpace, Unicode.isWhiteSpace, toNat_toLower]
  split
  · next hupper =>
    have hrange := isUpper_iff.1 hupper
    rw [isSpace, Unicode.isWhiteSpace, hletters _ (by omega) (by omega),
      hletters _ (by omega) (by omega)]
  · rfl

theorem asciiLower_asciiLower (t : Text) : asciiLower (asciiLower t) = asciiLower t := by
  rw [asciiLower, asciiLower, List.map_map]
  exact List.map_congr_left fun c _ => toLower_toLower c

theorem asciiLower_eq_iff {a b : Text} :
    a.asciiLower = b.asciiLower ↔ List.Forall₂ SameLetter a b := by
  rw [asciiLower, asciiLower, ← List.forall₂_eq_eq_eq, List.forall₂_map_left_iff,
    List.forall₂_map_right_iff]
  simp only [toLower_eq_toLower_iff]

theorem trim_asciiLower (t : Text) : trim (asciiLower t) = asciiLower (trim t) := by
  have hspace : isSpace ∘ Char.toLower = isSpace := funext isSpace_toLower
  simp only [trim, trimStart, trimEnd, asciiLower, List.dropWhile_map, ← List.map_reverse, hspace]

end Text

/-- The language that a piece of a list stands for; empty if the piece is blank. -/
def languageOf (piece : Text) : Text :=
  (Text.trim piece).asciiLower

def languagesOf (pieces : List Text) : List Text :=
  (pieces.map languageOf).filter (!·.isEmpty)

/-- One step from one way to write a list of languages to another. -/
inductive Respelling : List Text → List Text → Prop
  | padded {a b : Text} (front back : List Text) (h : a.trim = b.trim) :
      Respelling (front ++ a :: back) (front ++ b :: back)
  | recased {a b : Text} (front back : List Text) (h : List.Forall₂ Text.SameLetter a b) :
      Respelling (front ++ a :: back) (front ++ b :: back)
  | emptied {a : Text} (front back : List Text) (h : a.isBlank = true) :
      Respelling (front ++ a :: back) (front ++ back)
  | repeated {a : Text} (front back : List Text) (h : a ∈ front ++ back) :
      Respelling (front ++ a :: back) (front ++ back)
  | reordered {pieces pieces' : List Text} (h : pieces.Perm pieces') : Respelling pieces pieces'

variable {pieces pieces' : List Text} {language v : Text} {e : Environment}

theorem mem_languagesOf_iff :
    language ∈ languagesOf pieces ↔
      language ≠ [] ∧ ∃ piece ∈ pieces, languageOf piece = language := by
  simp [languagesOf, and_comm]

theorem languageOf_of_forall₂ {a b : Text} (h : List.Forall₂ Text.SameLetter a b) :
    languageOf a = languageOf b := by
  rw [languageOf, languageOf, ← Text.trim_asciiLower, ← Text.trim_asciiLower,
    Text.asciiLower_eq_iff.2 h]

theorem languageOf_of_isBlank {a : Text} (h : a.isBlank = true) : languageOf a = [] := by
  rw [← Text.isEmpty_trim, List.isEmpty_iff] at h
  rw [languageOf, h]
  rfl

/-- A piece adds its language, if it is not blank. -/
theorem mem_languagesOf_append_cons {front back : List Text} {a : Text} :
    language ∈ languagesOf (front ++ a :: back) ↔
      (language ≠ [] ∧ languageOf a = language) ∨ language ∈ languagesOf (front ++ back) := by
  simp only [mem_languagesOf_iff, ← and_or_left, List.mem_append, List.mem_cons]
  refine and_congr_right fun _ => ⟨?_, ?_⟩
  · rintro ⟨piece, hfront | rfl | hback, hpiece⟩
    · exact .inr ⟨piece, .inl hfront, hpiece⟩
    · exact .inl hpiece
    · exact .inr ⟨piece, .inr hback, hpiece⟩
  · rintro (ha | ⟨piece, hmem, hpiece⟩)
    · exact ⟨a, .inr (.inl rfl), ha⟩
    · exact ⟨piece, hmem.imp_right .inr, hpiece⟩

theorem Respelling.mem_languagesOf (h : Respelling pieces pieces') :
    language ∈ languagesOf pieces ↔ language ∈ languagesOf pieces' := by
  cases h with
  | padded front back h =>
      rw [mem_languagesOf_append_cons, mem_languagesOf_append_cons, languageOf, h, languageOf]
  | recased front back h =>
      rw [mem_languagesOf_append_cons, mem_languagesOf_append_cons, languageOf_of_forall₂ h]
  | emptied front back h =>
      rw [mem_languagesOf_append_cons, or_iff_right]
      rintro ⟨hne, heq⟩
      exact hne (heq.symm.trans (languageOf_of_isBlank h))
  | repeated front back h =>
      rw [mem_languagesOf_append_cons, or_iff_right_iff_imp]
      rintro ⟨hne, heq⟩
      exact mem_languagesOf_iff.2 ⟨hne, _, h, heq⟩
  | reordered h => simp only [mem_languagesOf_iff, h.mem_iff]

theorem mem_languagesOf_of_eqvGen (h : Relation.EqvGen Respelling pieces pieces') :
    language ∈ languagesOf pieces ↔ language ∈ languagesOf pieces' := by
  induction h with
  | rel _ _ hstep => exact hstep.mem_languagesOf
  | refl _ => exact Iff.rfl
  | symm _ _ _ ih => exact ih.symm
  | trans _ _ _ _ _ hfirst hsecond => exact hfirst.trans hsecond

/-- The settings that were there before are not looked at. -/
theorem rtlLanguages_withEnvironment (h : e "DOCGIST_RTL_LANGS".toList = some v)
    (hv : v.isBlank = false) (s : Settings) :
    (s.withEnvironment e).heading.rtlLanguages = languagesOf (v.splitOn ',') := by
  have hgiven : e.languages? "DOCGIST_RTL_LANGS" = some (languagesOf (v.splitOn ',')) := by
    rw [Environment.languages?_eq_some_iff]
    refine ⟨v.trim, ⟨v, h, hv, rfl⟩, ?_⟩
    have hmap : ∀ ps : List Text, ps.map languageOf = (ps.map Text.trim).map Text.asciiLower :=
      fun ps => List.map_map.symm
    have hcomma : Text.isSpace ',' = false := by decide
    rw [languagesOf, hmap, ← Text.map_trim_splitOn_trim hcomma, ← hmap]
    rfl
  rw [Settings.withEnvironment, hgiven, Option.getD_some]

theorem isRightToLeft_withEnvironment_iff (h : e "DOCGIST_RTL_LANGS".toList = some v)
    (hv : v.isBlank = false) (s : Settings) :
    (s.withEnvironment e).heading.isRightToLeft language = true ↔
      language.trim.asciiLower ∈ languagesOf (v.splitOn ',') := by
  have hlower : ∀ l ∈ languagesOf (v.splitOn ','), Text.asciiLower l = l := by
    intro l hl
    obtain ⟨-, piece, -, rfl⟩ := mem_languagesOf_iff.1 hl
    rw [languageOf, Text.asciiLower_asciiLower]
  rw [HeadingSettings.isRightToLeft, rtlLanguages_withEnvironment h hv, List.any_eq_true]
  simp only [Text.eqIgnoringAsciiCase, beq_iff_eq]
  constructor
  · rintro ⟨l, hl, heq⟩
    rwa [← heq, hlower l hl]
  · exact fun hmem => ⟨_, hmem, hlower _ hmem⟩

/-- A list of languages in the environment alone decides which are written from right to left: those
that equal a piece of it but for white space around either and for the case of ASCII letters. The
answer stays the same if white space around pieces, the case of their letters or their order is
changed, or if empty or repeated pieces are left out or put in. -/
theorem right_to_left_by_environment :
    (∀ (s : Settings) (e : Environment) (v language : Text),
      e "DOCGIST_RTL_LANGS".toList = some v → v.isBlank = false →
        ((s.withEnvironment e).heading.isRightToLeft language = true ↔
          language.trim ≠ [] ∧
            ∃ piece ∈ v.splitOn ',',
              List.Forall₂ Text.SameLetter (Text.trim piece) language.trim)) ∧
    ∀ (s s' : Settings) (e e' : Environment) (v v' language : Text),
      e "DOCGIST_RTL_LANGS".toList = some v → v.isBlank = false →
      e' "DOCGIST_RTL_LANGS".toList = some v' → v'.isBlank = false →
      Relation.EqvGen Respelling (v.splitOn ',') (v'.splitOn ',') →
        (s.withEnvironment e).heading.isRightToLeft language =
          (s'.withEnvironment e').heading.isRightToLeft language := by
  constructor
  · intro s e v language h hv
    rw [isRightToLeft_withEnvironment_iff h hv, mem_languagesOf_iff]
    simp only [languageOf, Text.asciiLower_eq_iff]
    refine and_congr_left fun _ => not_congr ?_
    exact List.map_eq_nil_iff
  · intro s s' e e' v v' language h hv h' hv' hrespelled
    rw [Bool.eq_iff_iff, isRightToLeft_withEnvironment_iff h hv,
      isRightToLeft_withEnvironment_iff h' hv', mem_languagesOf_of_eqvGen hrespelled]

/-- Two ways to list Hebrew and Arabic in place of Yiddish. -/
theorem right_to_left_by_environment_respelled :
    let v : Text := " he, AR ,,ar".toList
    let v' : Text := "ar,he".toList
    let e : Environment := fun _ => some v
    let e' : Environment := fun _ => some v'
    let s : Settings := { heading := { rtlLanguages := ["yi".toList] } }
    let language : Text := "\tAr ".toList
    e "DOCGIST_RTL_LANGS".toList = some v ∧ v.isBlank = false ∧
    e' "DOCGIST_RTL_LANGS".toList = some v' ∧ v'.isBlank = false ∧
    Relation.EqvGen Respelling (v.splitOn ',') (v'.splitOn ',') ∧
    (s.withEnvironment e).heading.isRightToLeft language = true ∧
    (Settings.withEnvironment {} e').heading.isRightToLeft language = true ∧
    (s.withEnvironment e).heading.isRightToLeft "yi".toList = false := by
  intro v v' e e' s language
  have hv : v.isBlank = false := by decide
  have hv' : v'.isBlank = false := by decide
  have hpieces : v.splitOn ',' = [" he".toList, " AR ".toList, [], "ar".toList] := by decide
  have hpieces' : v'.splitOn ',' = ["ar".toList, "he".toList] := by decide
  have hrespelled : Relation.EqvGen Respelling (v.splitOn ',') (v'.splitOn ',') := by
    have hpadded := Respelling.padded (a := " he".toList) (b := "he".toList) []
      [" AR ".toList, [], "ar".toList] (by decide)
    have hrecased := Respelling.recased (a := " AR ".toList) (b := " ar ".toList) ["he".toList]
      [[], "ar".toList] (Text.asciiLower_eq_iff.1 (by decide))
    have htrimmed := Respelling.padded (a := " ar ".toList) (b := "ar".toList) ["he".toList]
      [[], "ar".toList] (by decide)
    have hemptied := Respelling.emptied (a := []) ["he".toList, "ar".toList] ["ar".toList]
      (by decide)
    have hrepeated := Respelling.repeated (a := "ar".toList) ["he".toList, "ar".toList] []
      (by decide)
    have hreordered := Respelling.reordered (List.Perm.swap "ar".toList "he".toList [])
    rw [hpieces, hpieces']
    exact .trans _ _ _ (.rel _ _ hpadded) <| .trans _ _ _ (.rel _ _ hrecased) <|
      .trans _ _ _ (.rel _ _ htrimmed) <| .trans _ _ _ (.rel _ _ hemptied) <|
      .trans _ _ _ (.rel _ _ hrepeated) (.rel _ _ hreordered)
  obtain ⟨hasked, hsame⟩ := right_to_left_by_environment
  have harabic : (s.withEnvironment e).heading.isRightToLeft language = true := by
    refine (hasked s e v language rfl hv).2 ⟨by decide, " AR ".toList, by decide, ?_⟩
    exact Text.asciiLower_eq_iff.1 (by decide)
  refine ⟨rfl, hv, rfl, hv', hrespelled, harabic, ?_, ?_⟩
  · rw [← harabic, hsame s {} e e' v v' language rfl hv rfl hv' hrespelled]
  · rw [Bool.eq_false_iff, ne_eq, hasked s e v "yi".toList rfl hv, hpieces]
    simp only [← Text.asciiLower_eq_iff]
    decide

end Precis
