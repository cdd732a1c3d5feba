import Precis.Proofs.Json.Record
import Precis.Proofs.Text.Numeral
import Precis.Settings.File

/-!
Settings in layers. A settings file stands above the defaults and the environment above both; a
layer replaces the values that it gives and leaves those that it does not give. The environment
gives at most three, and what it gives does not depend on the layers below.
-/

namespace Precis

/-- What is given takes the place of what was there before. If nothing is given, that stays. -/
structure Overridden {α : Type} (given : α → Prop) (before after : α) : Prop where
  replaced : ∀ a, given a → after = a
  kept : (∀ a, ¬ given a) → after = before

theorem overridden_getD {α : Type} {given : α → Prop} {a? : Option α}
    (h : ∀ a, a? = some a ↔ given a) (before : α) : Overridden given before (a?.getD before) where
  replaced := fun a ha => by rw [(h a).2 ha, Option.getD_some]
  kept := fun hnone => by
    rw [Option.eq_none_iff_forall_ne_some.2 fun a ha => hnone a ((h a).1 ha), Option.getD_none]

namespace Environment

variable (e : Environment)

/-- The variable is set to more than white space, and this is its value without the white space
around it. -/
def Holds (name : String) (t : Text) : Prop :=
  ∃ v, e name.toList = some v ∧ v.isBlank = false ∧ t = v.trim

/-- The variable is set to a number of 64 bits. -/
def GivesNumber (name : String) (n : UInt64) : Prop :=
  ∃ t, e.Holds name t ∧ t.Spells n.toNat

/-- The variable is set to the languages in a list with commas, of which the empty ones do not
count. -/
def GivesLanguages (name : String) (languages : List Text) : Prop :=
  ∃ t, e.Holds name t ∧
    languages = ((t.splitOn ',').map fun l => (Text.trim l).asciiLower).filter (!·.isEmpty)

variable {e} {name : String}

theorem value?_eq_some_iff {t : Text} : e.value? name = some t ↔ e.Holds name t := by
  rw [value?, Option.bind_eq_some_iff]
  refine exists_congr fun v => and_congr_right fun _ => ?_
  rw [Option.ite_none_left_eq_some, Bool.not_eq_true, Option.some_inj, eq_comm (a := t)]

theorem number?_eq_some_iff {n : UInt64} : e.number? name = some n ↔ e.GivesNumber name n := by
  simp only [number?, Option.bind_eq_some_iff, value?_eq_some_iff, Text.toNatSigned?_eq_some_iff,
    Text.word64?_eq_some_iff]
  constructor
  · rintro ⟨m, ⟨t, ht, hm⟩, rfl⟩
    exact ⟨t, ht, hm⟩
  · rintro ⟨t, ht, hn⟩
    exact ⟨n.toNat, ⟨t, ht, hn⟩, rfl⟩

theorem languages?_eq_some_iff {languages : List Text} :
    e.languages? name = some languages ↔ e.GivesLanguages name languages := by
  rw [languages?, Option.map_eq_some_iff]
  refine exists_congr fun t => ?_
  rw [value?_eq_some_iff, eq_comm (b := languages)]

end Environment

namespace Settings

variable (s : Settings) (e : Environment)

/-- Three values of the settings may change, each with its own variable. -/
structure Layered (s : Settings) (e : Environment) (layered : Settings) : Prop where
  frame : layered = {
    heading := { s.heading with rtlLanguages := layered.heading.rtlLanguages }
    summary := { s.summary with sentences := layered.summary.sentences }
    filter := { s.filter with textHeadingMinChars := layered.filter.textHeadingMinChars } }
  sentences : Overridden (e.GivesNumber "DOCGIST_SUMMARY_SENTENCES") s.summary.sentences
    layered.summary.sentences
  rtlLanguages : Overridden (e.GivesLanguages "DOCGIST_RTL_LANGS") s.heading.rtlLanguages
    layered.heading.rtlLanguages
  textHeadingMinChars : Overridden (e.GivesNumber "DOCGIST_TEXT_HEADING_MIN_CHARS")
    s.filter.textHeadingMinChars layered.filter.textHeadingMinChars

theorem layered_withEnvironment : s.Layered e (s.withEnvironment e) where
  frame := rfl
  sentences := overridden_getD (fun _ => Environment.number?_eq_some_iff) _
  rtlLanguages := overridden_getD (fun _ => Environment.languages?_eq_some_iff) _
  textHeadingMinChars := overridden_getD (fun _ => Environment.number?_eq_some_iff) _

/-- What the environment gave once it gives again. -/
theorem withEnvironment_withEnvironment :
    (s.withEnvironment e).withEnvironment e = s.withEnvironment e := by
  have hagain : ∀ {α : Type} (a? : Option α) (a : α), a?.getD (a?.getD a) = a?.getD a := by
    intro α a? a
    cases a? <;> rfl
  simp only [withEnvironment, hagain]

/-- The number of sentences in a summary that a settings file gives, if it gives one. -/
def fileSentences? (bytes : Bytes) : Option UInt64 := do
  let json ← (Utf8.decode? bytes).bind Json.ofText?
  let sections ← json.record? fieldNames
  let summary ← sections "summary".toList
  let fields ← summary.record? SummarySettings.fieldNames
  (fields "sentences".toList).bind Json.toUInt64?

variable {s}

theorem sentences_of_ofJson? {json : Json} {summary : SummarySettings}
    (h : SummarySettings.ofJson? json = some summary) :
    summary.sentences = ((json.record? SummarySettings.fieldNames).bind fun fields =>
      (fields "sentences".toList).bind Json.toUInt64?).getD ({} : SummarySettings).sentences := by
  simp only [SummarySettings.ofJson?, bind, Option.bind_eq_some_iff] at h
  obtain ⟨fields, hfields, sentences, hsentences, _, -, _, -, _, -, _, -, _, -, _, -, hread⟩ := h
  rw [hfields, Option.bind_some, ← Json.Record.eq_of_orDefault? hsentences, ← Option.some.inj hread]

theorem sentences_of_ofFile {path : Text} {bytes : Bytes} (h : ofFile path (some bytes) = .ok s) :
    s.summary.sentences = (fileSentences? bytes).getD ({} : Settings).summary.sentences := by
  rw [ofFile] at h
  split at h
  · simp at h
  next text htext =>
  split at h
  · simp at h
  next read hread =>
  obtain rfl := Except.ok.inj h
  obtain ⟨json, hjson, h⟩ := Option.bind_eq_some_iff.1 hread
  simp only [ofJson?, bind, Option.bind_eq_some_iff] at h
  obtain ⟨sections, hsections, _, -, summary, hsummary, _, -, hread⟩ := h
  rw [← Option.some.inj hread]
  simp only [fileSentences?, bind, htext, hjson, hsections, Option.bind_some]
  unfold Json.Record.orDefault? at hsummary
  split at hsummary
  · next hnone => rw [hnone, Option.bind_none, Option.getD_none, ← Option.some.inj hsummary]
  · next value hvalue => rw [hvalue, Option.bind_some, sentences_of_ofJson? hsummary]

end Settings
end Precis
