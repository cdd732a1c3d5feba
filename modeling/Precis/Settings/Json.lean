import Precis.Json.Reader
import Precis.Json.Record
import Precis.Settings

/-!
Settings in JSON. Every section and every threshold may be left out and has its default then.
-/

namespace Precis

open Json (Record)

namespace HeadingSettings

def fieldNames : List Text :=
  ["font_sizes", "min_fragments", "min_words", "max_fragment_words", "rtl_languages"].map
    String.toList

def toJson (s : HeadingSettings) : Json :=
  .object [
    ("font_sizes".toList, .natural s.fontSizes.toNat),
    ("min_fragments".toList, .natural s.minFragments.toNat),
    ("min_words".toList, .natural s.minWords.toNat),
    ("max_fragment_words".toList, .natural s.maxFragmentWords.toNat),
    ("rtl_languages".toList, .ofTexts s.rtlLanguages)]

def ofJson? (json : Json) : Option HeadingSettings := do
  let r ← json.record? fieldNames
  let default : HeadingSettings := {}
  return {
    fontSizes := ← r.orDefault? "font_sizes" default.fontSizes Json.toUInt64?
    minFragments := ← r.orDefault? "min_fragments" default.minFragments Json.toUInt64?
    minWords := ← r.orDefault? "min_words" default.minWords Json.toUInt64?
    maxFragmentWords := ← r.orDefault? "max_fragment_words" default.maxFragmentWords Json.toUInt64?
    rtlLanguages := ←
      r.orDefault? "rtl_languages" default.rtlLanguages (Json.toList? Json.toText?) }

end HeadingSettings

namespace SummarySettings

def fieldNames : List Text :=
  ["sentences", "max_candidates", "min_sentence_chars", "max_sentence_chars",
    "max_heading_lines", "min_heading_chars", "max_heading_chars"].map String.toList

def toJson (s : SummarySettings) : Json :=
  .object [
    ("sentences".toList, .natural s.sentences.toNat),
    ("max_candidates".toList, .natural s.maxCandidates.toNat),
    ("min_sentence_chars".toList, .natural s.minSentenceChars.toNat),
    ("max_sentence_chars".toList, .natural s.maxSentenceChars.toNat),
    ("max_heading_lines".toList, .natural s.maxHeadingLines.toNat),
    ("min_heading_chars".toList, .natural s.minHeadingChars.toNat),
    ("max_heading_chars".toList, .natural s.maxHeadingChars.toNat)]

def ofJson? (json : Json) : Option SummarySettings := do
  let r ← json.record? fieldNames
  let default : SummarySettings := {}
  return {
    sentences := ← r.orDefault? "sentences" default.sentences Json.toUInt64?
    maxCandidates := ← r.orDefault? "max_candidates" default.maxCandidates Json.toUInt64?
    minSentenceChars := ← r.orDefault? "min_sentence_chars" default.minSentenceChars Json.toUInt64?
    maxSentenceChars := ← r.orDefault? "max_sentence_chars" default.maxSentenceChars Json.toUInt64?
    maxHeadingLines := ← r.orDefault? "max_heading_lines" default.maxHeadingLines Json.toUInt64?
    minHeadingChars := ← r.orDefault? "min_heading_chars" default.minHeadingChars Json.toUInt64?
    maxHeadingChars := ← r.orDefault? "max_heading_chars" default.maxHeadingChars Json.toUInt64? }

end SummarySettings

namespace FilterSettings

def fieldNames : List Text :=
  ["text_heading_min_chars".toList]

def toJson (s : FilterSettings) : Json :=
  .object [("text_heading_min_chars".toList, .natural s.textHeadingMinChars.toNat)]

def ofJson? (json : Json) : Option FilterSettings := do
  let r ← json.record? fieldNames
  let default : FilterSettings := {}
  return {
    textHeadingMinChars := ←
      r.orDefault? "text_heading_min_chars" default.textHeadingMinChars Json.toUInt64? }

end FilterSettings

namespace Settings

def fieldNames : List Text :=
  ["heading", "summary", "filter"].map String.toList

def toJson (s : Settings) : Json :=
  .object [
    ("heading".toList, s.heading.toJson),
    ("summary".toList, s.summary.toJson),
    ("filter".toList, s.filter.toJson)]

def ofJson? (json : Json) : Option Settings := do
  let r ← json.record? fieldNames
  return {
    heading := ← r.orDefault? "heading" {} HeadingSettings.ofJson?
    summary := ← r.orDefault? "summary" {} SummarySettings.ofJson?
    filter := ← r.orDefault? "filter" {} FilterSettings.ofJson? }

def ofText? (t : Text) : Option Settings :=
  (Json.ofText? t).bind ofJson?

end Settings
end Precis
