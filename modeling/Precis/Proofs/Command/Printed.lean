import Precis.Command.Report
import Precis.Proofs.Metadata.Json

/-!
What a reader of printed reports finds. A report that is printed as JSON is read back as the value
that it was printed from, so it can be asked for each of its members.
-/

namespace Precis

namespace Json

/-- The value that is reached by a key of an object, a key of the object under it, and so on. -/
def at? : List Text → Json → Option Json
  | [], json => some json
  | key :: path, .object members => (member? key members).bind (at? path)
  | _ :: _, _ => none

/-- The value that a reader of printed JSON finds along keys. -/
def printedAt? (printed : Text) (path : List Text) : Option Json :=
  (ofText? printed).bind (at? path)

/-- The metadata that a reader of printed JSON finds under a key. -/
def printedMetadata? (printed key : Text) : Option Metadata :=
  (printedAt? printed [key]).bind Metadata.ofJson?

theorem readable_ofOption {α : Type} {encode : α → Json} (h : ∀ a, (encode a).Readable)
    (a? : Option α) : (ofOption encode a?).Readable := by
  cases a? with
  | none => exact .null
  | some a => exact h a

theorem ofOption_string_injective : Function.Injective (ofOption string) := by
  intro a b h
  cases a <;> cases b <;> simp_all [ofOption]

end Json

open Json (printedAt? printedMetadata?)

theorem Metadata.at?_toJson (m : Metadata) (key : Text) :
    m.toJson.at? [key] = (m.find? key).map Json.ofTexts := by
  have hentries : ∀ entries : Metadata.Entries,
      Json.member? key (entries.map fun e => (e.1, Json.ofTexts e.2)) =
        (entries.find? key).map Json.ofTexts := by
    intro entries
    induction entries with
    | nil => rfl
    | cons e entries ih =>
        rw [List.map_cons, Json.member?, Metadata.Entries.find?, ih]
        split <;> rfl
  rw [toJson, Json.at?, toList, hentries, find?]
  cases m.entries.find? key <;> rfl

namespace Command

theorem Report.readable_toJson (r : Report) : r.toJson.Readable := by
  have hstring : ∀ t : Text, (Json.string t).Readable := .string
  have hprovenance : ∀ p : Provenance, p.toJson.Readable := fun p => .string p.name
  have hwarnings : ∀ ws, (ofWarnings ws).Readable := fun ws => Json.readable_ofTexts _
  cases r <;>
    simp [Report.toJson, Json.readable_object_iff, Json.Readable.bool, Json.Readable.natural,
      hstring, hwarnings, Json.readable_ofOption hstring, Json.readable_ofOption hprovenance,
      Metadata.readable_toJson]

theorem printedAt?_renderJson (r : Report) (path : List Text) :
    printedAt? r.renderJson path = r.toJson.at? path := by
  have hnewline : ∀ c ∈ ['\n'], Json.Token.isSpace c = true := List.forall_mem_singleton.2 rfl
  rw [printedAt?, Report.renderJson, Json.ofText?_render_append r.readable_toJson hnewline,
    Option.bind_some]

theorem printedMetadata?_of_index (url : Text) (parseMeta fields : Metadata)
    (warnings : List BodyWarning) :
    let printed := (Report.index url parseMeta fields warnings).renderJson
    printedMetadata? printed "parse_meta".toList = some parseMeta ∧
      printedMetadata? printed "fields".toList = some fields := by
  intro printed
  rw [printedMetadata?, printedMetadata?, printedAt?_renderJson, printedAt?_renderJson]
  exact ⟨parseMeta.ofJson?_toJson, fields.ofJson?_toJson⟩

theorem printedAt?_of_index (url : Text) (parseMeta fields : Metadata)
    (warnings : List BodyWarning) (key : Text) :
    let printed := (Report.index url parseMeta fields warnings).renderJson
    printedAt? printed ["parse_meta".toList, key] = (parseMeta.find? key).map Json.ofTexts ∧
      printedAt? printed ["fields".toList, key] = (fields.find? key).map Json.ofTexts := by
  intro printed
  rw [printedAt?_renderJson, printedAt?_renderJson, ← parseMeta.at?_toJson, ← fields.at?_toJson]
  exact ⟨rfl, rfl⟩

theorem renderText_summary (engine : Engine) (count : Nat) (text : Text)
    (warnings : List BodyWarning) :
    (Report.summary engine count text warnings).renderText =
      if text = [] then [] else text ++ ['\n'] := by
  rw [Report.renderText, Report.line?]
  cases text <;> rfl

theorem renderText_heading (heading : Option Heading) :
    (Report.heading heading).renderText =
      (heading.map Heading.tagged).elim [] fun tagged => tagged ++ ['\n'] := by
  cases heading <;> rfl

end Command
end Precis
