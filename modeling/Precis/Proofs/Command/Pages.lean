import Precis.Proofs.Command.Heading
import Precis.Proofs.Document.PageCount

/-!
The number of pages from the command line to the index entry. The option takes numbers of 32 bits,
the number goes to the document as its reader's report, and what is printed for the document has it
as a decimal numeral in two places.
-/

namespace Precis

open Json (printedAt?)

namespace Command

theorem Arguments.pages?_lt {t : Text} {n : Nat} (h : Arguments.pages? t = some n) :
    n < 2 ^ 32 := by
  unfold Arguments.pages? at h
  split at h
  · obtain ⟨m, -, hm⟩ := Option.bind_eq_some_iff.1 h
    rw [Option.ite_none_right_eq_some, Option.some_inj] at hm
    omega
  · obtain ⟨m, -, hm⟩ := Option.bind_eq_some_iff.1 h
    rw [Option.ite_none_right_eq_some, Option.some_inj] at hm
    exact hm.2 ▸ hm.1

theorem Request.valueAs?_pages {name : Text} {a : Arguments} {request : IndexRequest}
    (h : Request.ofArguments? name a = some (.index request)) :
    a.valueAs? .pages Arguments.pages? = some request.pages := by
  unfold Request.ofArguments? at h
  split_ifs at h
  all_goals
    simp only [bind, pure, Option.bind_eq_some_iff, Option.some_inj, reduceCtorEq, and_false,
      exists_false] at h
  obtain ⟨path, -, tagged, -, pages, hpages, hrequest⟩ := h
  rw [hpages, ← (Request.index.inj hrequest)]

theorem pages_lt_of_ofArguments? {arguments : List Text} {e : Environment} {config : Option Text}
    {request : IndexRequest} {n : Nat}
    (h : Invocation.ofArguments? arguments e = some ⟨config, .index request⟩)
    (hn : request.pages = some n) : n < 2 ^ 32 := by
  simp only [Invocation.ofArguments?, bind, pure, Option.bind_eq_some_iff, Option.some_inj] at h
  obtain ⟨outer, -, name, -, flags, -, inner, -, path, -, read, hread, hinvocation⟩ := h
  obtain ⟨rfl, rfl⟩ := Invocation.mk.inj hinvocation
  have hvalue := Request.valueAs?_pages hread
  rw [hn, Arguments.valueAs?] at hvalue
  split at hvalue
  · simp at hvalue
  · obtain ⟨m, hm, heq⟩ := Option.map_eq_some_iff.1 hvalue
    exact Option.some.inj heq ▸ Arguments.pages?_lt hm

section

variable (readers : Readers) {request : IndexRequest} {bytes : Bytes} {n : Nat}

theorem writtenPages?_indexedDocument (hpdf : request.IsPdf bytes)
    (hpages : request.pages = some n) (hpos : 1 ≤ n) (hlt : n < 2 ^ 32) (taggedText : Option Text) :
    (indexedDocument readers request bytes taggedText).writtenPages? = some n := by
  have hreported : (indexedDocument readers request bytes taggedText).readerMeta.get?
      Key.reportedPages = some (Text.ofNat n) := by
    change (Metadata.empty.setSome Key.reportedPages (request.pages.map Text.ofNat)).get? _ = _
    rw [Metadata.get?, Metadata.find?_setSome, if_pos rfl, hpages]
    rfl
  have hpads : Text.PadsNumeral (Text.ofNat n) n :=
    ⟨[], [], 0, [], rfl, .inl rfl, rfl, by simp [Text.ofNat_eq_toDigits]⟩
  rw [Document.writtenPages?, if_pos ((isPdf_indexedDocument readers request bytes _).2 hpdf),
    hreported, pageCount?_of_padsNumeral hpos hlt hpads]

theorem printed_pages_of_index (s : Settings) (hpdf : request.IsPdf bytes)
    (hpages : request.pages = some n) (hpos : 1 ≤ n) (hlt : n < 2 ^ 32) (taggedText : Option Text) :
    let printed := (index readers s request bytes taggedText).renderJson
    let numeral := Json.ofTexts [Nat.toDigits 10 n]
    printedAt? printed ["parse_meta".toList, Key.pages] = some numeral ∧
      printedAt? printed ["fields".toList, Key.pages] = some numeral := by
  intro printed numeral
  let document := indexedDocument readers request bytes taggedText
  let entry := document.process s .empty
  have hwritten : document.writtenPages? = some n :=
    writtenPages?_indexedDocument readers hpdf hpages hpos hlt taggedText
  have hparsed : entry.1.parseMeta.find? Key.pages = some [Nat.toDigits 10 n] := by
    rw [show entry.1 = document.withParseMetadata s.heading from rfl,
      Document.find?_pages_parseMeta, hwritten]
    rfl
  have hentry : entry.2.find? Key.pages = some [Nat.toDigits 10 n] :=
    Document.find?_pages_process_empty hwritten s
  have hprinted := printedAt?_of_index entry.1.url entry.1.parseMeta entry.2
    (indexBody readers bytes request.contentType).2.2 Key.pages
  rw [hparsed, hentry] at hprinted
  exact hprinted

end

/-- A report that pads the numeral of a positive number of 32 bits gives that number, and any other
report, or none, gives one page to a text and no number where there is no text. So what parsing
writes is the numeral of such a number, and a number that the command line gives for a PDF is
printed as it was given. -/
theorem page_counts :
    (∀ (reported body : Text) (n : Nat), 1 ≤ n → n < 2 ^ 32 → reported.PadsNumeral n →
      pageCount? (some reported) body = some n) ∧
    (∀ (reported : Option Text) (body : Text),
      (∀ t ∈ reported, ∀ n, 1 ≤ n → n < 2 ^ 32 → ¬ t.PadsNumeral n) →
        ((∃ c ∈ body, Text.isSpace c = false) → pageCount? reported body = some 1) ∧
        ((∀ c ∈ body, Text.isSpace c = true) → pageCount? reported body = none)) ∧
    (∀ (d : Document) (s : HeadingSettings),
      let written :=
        if d.isPdf then pageCount? (d.readerMeta.get? Key.reportedPages) d.text else none
      (∀ n ∈ written, 1 ≤ n ∧ n < 2 ^ 32) ∧
      (d.withParseMetadata s).parseMeta.find? Key.pages =
        (written.map fun n => [Nat.toDigits 10 n]).or (d.parseMeta.find? Key.pages)) ∧
    ∀ (readers : Readers) (files : Files) (e : Environment) (arguments : List Text)
      (config : Option Text) (request : IndexRequest) (s : Settings) (bytes : Bytes) (n : Nat),
      Invocation.ofArguments? arguments e = some ⟨config, .index request⟩ →
      request.pages = some n → 1 ≤ n →
      loadSettings files config e = .ok s → files request.path = some bytes →
      (∀ path ∈ request.tagged, (files path).isSome = true) → request.IsPdf bytes →
        let numeral := Json.ofTexts [Nat.toDigits 10 n]
        ∃ printed, run readers files e ⟨config, .index request⟩ = .ok printed ∧
          printedAt? printed ["parse_meta".toList, Key.pages] = some numeral ∧
          printedAt? printed ["fields".toList, Key.pages] = some numeral := by
  refine ⟨fun reported body n hpos hlt h => pageCount?_of_padsNumeral hpos hlt h body,
    fun reported body h => ?_, fun d s => ?_, ?_⟩
  · rw [pageCount?_of_not_padsNumeral h]
    constructor
    · rintro ⟨c, hmem, hc⟩
      refine if_neg fun hblank => ?_
      rw [List.all_eq_true.1 hblank c hmem] at hc
      exact Bool.noConfusion hc
    · exact fun hspace => if_pos (List.all_eq_true.2 hspace)
  · refine ⟨fun n hn => ?_, d.find?_pages_parseMeta s⟩
    exact pageCount?_bounds (Option.ite_none_right_eq_some.1 hn).2
  · intro readers files e arguments config request s bytes n hread hpages hpos hsettings hbytes
      htagged hpdf
    obtain ⟨taggedText, hreport⟩ := report_index readers files (s := s) hbytes htagged
    refine ⟨(index readers s request bytes taggedText).renderJson, ?_,
      printed_pages_of_index readers s hpdf hpages hpos (pages_lt_of_ofArguments? hread hpages) _⟩
    rw [run_eq, reported_of_settings readers files hsettings, hreport]
    rfl

/-- The largest number with all that may stand around its numeral, the number behind it, and twelve
pages of a PDF. -/
theorem page_counts_at_the_limit :
    let reported : Text := "\u2003+004294967295\n".toList
    let beyond : Text := "4294967296".toList
    let body : Text := "Tides.".toList
    let pdf : Document := ⟨[], some ContentType.pdf, body, none,
      Metadata.empty.set Key.reportedPages reported, .empty⟩
    let bytes := Body.asciiBytes "%PDF-1.7"
    let files : Files := fun _ => some bytes
    let e : Environment := fun _ => none
    let arguments : List Text := ["index", "report.pdf", "--pages", "012"].map String.toList
    let request : IndexRequest := ⟨"report.pdf".toList, none, none, none, some 12, none⟩
    reported.PadsNumeral 4294967295 ∧ pageCount? (some reported) [] = some 4294967295 ∧
    (∀ t ∈ some beyond, ∀ n, 1 ≤ n → n < 2 ^ 32 → ¬ t.PadsNumeral n) ∧
    pageCount? (some beyond) body = some 1 ∧ pageCount? (some beyond) " \n".toList = none ∧
    (pdf.withParseMetadata {}).parseMeta.find? Key.pages = some ["4294967295".toList] ∧
    Invocation.ofArguments? arguments e = some ⟨none, .index request⟩ ∧
    loadSettings files none e = .ok {} ∧ files request.path = some bytes ∧
    (∀ path ∈ request.tagged, (files path).isSome = true) ∧ request.IsPdf bytes ∧
    ∃ printed, run Body.noReaders files e ⟨none, .index request⟩ = .ok printed ∧
      printedAt? printed ["fields".toList, Key.pages] = some (.ofTexts ["12".toList]) := by
  intro reported beyond body pdf bytes files e arguments request
  have hdigits : Nat.toDigits 10 4294967295 = "4294967295".toList := by decide +kernel
  have hreported : reported.PadsNumeral 4294967295 := by
    refine ⟨['\u2003'], ['+'], 2, ['\n'], by decide, .inr rfl, by decide, ?_⟩
    rw [hdigits]
    decide
  have hbeyond : ∀ t ∈ some beyond, ∀ n, 1 ≤ n → n < 2 ^ 32 → ¬ t.PadsNumeral n := by
    rintro t ⟨⟩ n hpos hlt hpads
    have hread : reportedPages? beyond = some n := reportedPages?_eq_some_iff.2 ⟨hpos, hlt, hpads⟩
    have hnone : reportedPages? beyond = none := by decide +kernel
    rw [hnone] at hread
    cases hread
  have hread : Invocation.ofArguments? arguments e = some ⟨none, .index request⟩ := rfl
  have htagged : ∀ path ∈ request.tagged, (files path).isSome = true := by simp [request]
  have hpdf : request.IsPdf bytes := by
    unfold IndexRequest.IsPdf
    decide
  obtain ⟨hpadded, hother, hwritten, hindex⟩ := page_counts
  have hsome := (hother (some beyond) body hbeyond).1
  have hnone := (hother (some beyond) " \n".toList hbeyond).2
  obtain ⟨printed, hrun, -, hprinted⟩ := hindex Body.noReaders files e arguments none request
    {} bytes 12 hread rfl (by decide) rfl rfl htagged hpdf
  refine ⟨hreported, hpadded reported [] 4294967295 (by decide) (by decide) hreported, hbeyond,
    hsome ⟨'T', by decide, by decide⟩, hnone (List.all_eq_true.1 rfl), ?_, hread, rfl, rfl, htagged,
    hpdf, printed, hrun, hprinted⟩
  obtain ⟨-, hfound⟩ := hwritten pdf {}
  have hcount : pageCount? (pdf.readerMeta.get? Key.reportedPages) pdf.text = some 4294967295 :=
    hpadded reported body 4294967295 (by decide) (by decide) hreported
  rw [hfound, if_pos (by decide), hcount, Option.map_some, hdigits]
  rfl

end Command
end Precis
