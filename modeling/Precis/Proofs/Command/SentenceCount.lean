import Precis.Proofs.Command.Summary
import Precis.Proofs.Settings.Layer
import Precis.Proofs.Settings.Partial

/-!
How many sentences are asked for. The defaults, the settings file, the environment and the command
line may each say it; the environment is laid over the settings when they are loaded, and the
command line over the settings when the body is summarised.
-/

namespace Precis.Command

open Settings (fileSentences?)

theorem exists_base_of_loadSettings {files : Files} {e : Environment} {config : Option Text}
    {s : Settings} (h : loadSettings files config e = .ok s) :
    ∃ base : Settings, s = base.withEnvironment e ∧ base.summary.sentences =
      ((config.bind files).bind fileSentences?).getD ({} : Settings).summary.sentences := by
  cases config with
  | none => exact ⟨{}, (Except.ok.inj h).symm, rfl⟩
  | some path =>
      rw [Option.bind_some]
      unfold loadSettings Settings.loadFile at h
      cases hfile : files path with
      | none => simp [hfile, Settings.ofFile, Except.map, Except.mapError] at h
      | some bytes =>
          cases hread : Settings.ofFile path (some bytes) with
          | error failure => simp [hfile, hread, Except.map, Except.mapError] at h
          | ok base =>
              simp only [hfile, hread, Except.map, Except.mapError] at h
              exact ⟨base, (Except.ok.inj h).symm, Settings.sentences_of_ofFile hread⟩

/-- The environment replaces at most three values of the settings, each by what its own variable
gives, and replaces them by the same once more. The number of sentences in a summary is that of the
command line, or else that of the environment, or else that of the settings file, or else the
default. -/
theorem settings_are_layered :
    (∀ (s : Settings) (e : Environment), s.Layered e (s.withEnvironment e) ∧
      (s.withEnvironment e).withEnvironment e = s.withEnvironment e) ∧
    ∀ (readers : Readers) (files : Files) (e : Environment) (config : Option Text) (s : Settings)
      (path : Text) (bytes : Bytes) (sentences : Option UInt64) (contentType : Option Text)
      (output : OutputFormat),
      loadSettings files config e = .ok s → files path = some bytes →
      ∃ fromFile fromEnvironment count,
        Overridden (fun n => (config.bind files).bind fileSentences? = some n)
          ({} : Settings).summary.sentences fromFile ∧
        Overridden (e.GivesNumber "DOCGIST_SUMMARY_SENTENCES") fromFile fromEnvironment ∧
        Overridden (fun n => sentences = some n) fromEnvironment count ∧
        let body := Body.read readers bytes contentType
        let made := s.summary.summary body.text count.toNat
        run readers files e ⟨config, .summarize path sentences contentType output⟩ =
          .ok ((Report.summary body.engine made.sentences.length made.toText.clean
            body.warnings).render output) := by
  refine ⟨fun s e => ⟨s.layered_withEnvironment e, s.withEnvironment_withEnvironment e⟩, ?_⟩
  intro readers files e config s path bytes sentences contentType output hsettings hbytes
  obtain ⟨base, rfl, hbase⟩ := exists_base_of_loadSettings hsettings
  refine ⟨base.summary.sentences, (base.withEnvironment e).summary.sentences,
    sentences.getD (base.withEnvironment e).summary.sentences, ?_, ?_, ?_, ?_⟩
  · rw [hbase]
    exact overridden_getD (fun _ => Iff.rfl) _
  · exact (base.layered_withEnvironment e).sentences
  · exact overridden_getD (fun _ => Iff.rfl) _
  · rw [run_eq, reported_of_settings readers files hsettings, report_summarize readers files hbytes]
    rfl

/-- The file asks for two sentences and the environment for seven, with a plus sign and a zero in
front. -/
theorem settings_are_layered_seven_sentences :
    let readers : Readers := ⟨fun _ => .ok [], id⟩
    let json : Json := .object [("summary".toList, .object [("sentences".toList, .natural 2)])]
    let path : Text := "page.txt".toList
    let config : Text := "cfg.json".toList
    let bytes := Body.asciiBytes "Rising seas reach the old harbour."
    let files : Files := fun p =>
      if p = config then some (Utf8.encode json.render) else if p = path then some bytes else none
    let e : Environment := fun name =>
      if name = "DOCGIST_SUMMARY_SENTENCES".toList then some " +07\n".toList else none
    let s : Settings := { summary := { sentences := 7 } }
    loadSettings files (some config) e = .ok s ∧ files path = some bytes ∧
    e.GivesNumber "DOCGIST_SUMMARY_SENTENCES" 7 ∧
    (Settings.withEnvironment {} e).withEnvironment e = Settings.withEnvironment {} e ∧
    let body := Body.read readers bytes none
    let made := s.summary.summary body.text 7
    run readers files e ⟨some config, .summarize path none none .json⟩ =
      .ok ((Report.summary body.engine made.sentences.length made.toText.clean
        body.warnings).render .json) := by
  intro readers json path config bytes files e s
  have hgiven : e.GivesNumber "DOCGIST_SUMMARY_SENTENCES" 7 :=
    ⟨['+', '0', '7'], ⟨" +07\n".toList, rfl, by decide +kernel, by decide +kernel⟩, ['0', '7'],
      .inr rfl, by decide, by simp, by decide +kernel⟩
  have hreadable : json.Readable := by
    simp [json, Json.readable_object_iff, Json.Readable.natural]
  have hfile : Settings.ofFile config (some (Utf8.encode json.render)) =
      .ok { summary := { sentences := 2 } } :=
    Settings.ofFile_of_ofJson? config (Json.ofText?_render hreadable) (by decide)
  have hsettings : loadSettings files (some config) e = .ok s := by
    have hconfig : files config = some (Utf8.encode json.render) := if_pos rfl
    have hlayered : Settings.withEnvironment { summary := { sentences := 2 } } e = s := by
      decide +kernel
    rw [← hlayered, loadSettings, Settings.loadFile, hconfig, hfile]
    rfl
  have hbytes : files path = some bytes := (if_neg (by decide)).trans (if_pos rfl)
  obtain ⟨hlayers, hcount⟩ := settings_are_layered
  obtain ⟨fromFile, fromEnvironment, count, -, henvironment, hoption, hrun⟩ :=
    hcount readers files e (some config) s path bytes none none .json hsettings hbytes
  have hseven : count = 7 := by
    rw [hoption.kept (by simp), henvironment.replaced 7 hgiven]
  rw [hseven] at hrun
  exact ⟨hsettings, hbytes, hgiven, (hlayers {} e).2, hrun⟩

end Precis.Command
