import Precis.Command.Invocation
import Precis.Command.Report
import Precis.Document.Process
import Precis.Settings.File

/-!
Running a command over files. The settings are loaded first, whatever the command, then the body is
read, then the tagged stream.
-/

namespace Precis.Command

/-- The files that there are, by path. -/
abbrev Files := Text → Option Bytes

inductive Failure where
  | settings (path : Text) (cause : Error)
  | missing (path : Text)

def Failure.message : Failure → Text
  | .settings path _ => "load config ".toList ++ path
  | .missing path => "read ".toList ++ path

def Failure.cause : Failure → Text
  | .settings _ cause => cause.message
  | .missing _ => "No such file or directory (os error 2)".toList

variable (readers : Readers) (files : Files)

def readFile (path : Text) : Except Failure Bytes :=
  match files path with
  | none => .error (.missing path)
  | some bytes => .ok bytes

def readText (path : Text) : Except Failure Text :=
  (readFile files path).map Utf8.decodeLossy

def loadSettings (config : Option Text) (e : Environment) : Except Failure Settings :=
  match config with
  | none => .ok (.ofEnvironment e)
  | some path => (Settings.loadFile path (files path) e).mapError (.settings path)

/-- The summary of a body; without a number of sentences the settings say how many. -/
def summarize (s : Settings) (bytes : Bytes) (sentences : Option UInt64)
    (contentType : Option Text) : Report :=
  let body := Body.read readers bytes contentType
  let summary := s.summary.summary body.text (sentences.getD s.summary.sentences).toNat
  .summary body.engine summary.sentences.length summary.toText.clean body.warnings

def fontHeading (s : Settings) (stream : Text) (language : Option Text) : Report :=
  .heading (s.heading.heading? stream language)

def textHeading (s : Settings) (bytes : Bytes) (contentType : Option Text) : Report :=
  let body := Body.read readers bytes contentType
  .textHeading (s.summary.heading? body.text) body.warnings

/-- The text of the body of a document, and the content type of an undeclared one. A body that is
declared a PDF and is none is the text that a reader found in it. -/
def indexBody (bytes : Bytes) (declared : Option Text) :
    Text × Option Text × List BodyWarning :=
  if Body.looksLikePdf bytes then
    let body := Body.read readers bytes (some ContentType.pdf)
    (body.text, some ContentType.pdf, body.warnings)
  else if ContentType.isPdf declared then
    ((Utf8.decodeLossy bytes).dropReplacements, none, [])
  else
    let body := Body.read readers bytes declared
    (body.text, none, body.warnings)

/-- The document that is indexed. A document without a URL goes by its path. -/
def indexDocument (request : IndexRequest) (text : Text) (sniffed taggedText : Option Text) :
    Document where
  url := request.url.getD request.path
  contentType := request.contentType <|> sniffed
  text := text
  taggedText := taggedText
  readerMeta := Metadata.empty.setSome Key.reportedPages (request.pages.map Text.ofNat)
  parseMeta := Metadata.empty.setSome Key.language request.language

def index (s : Settings) (request : IndexRequest) (bytes : Bytes) (taggedText : Option Text) :
    Report :=
  let (text, sniffed, warnings) := indexBody readers bytes request.contentType
  let document := indexDocument request text sniffed taggedText
  let (parsed, fields) := document.process s .empty
  .index parsed.url parsed.parseMeta fields warnings

/-- What the request reports, and the format that it asks for. -/
def report (s : Settings) : Request → Except Failure (Report × OutputFormat)
  | .summarize path sentences contentType output => do
    let bytes ← readFile files path
    return (summarize readers s bytes sentences contentType, output)
  | .heading path language output => do
    let stream ← readText files path
    return (fontHeading s stream language, output)
  | .textHeading path contentType output => do
    let bytes ← readFile files path
    return (textHeading readers s bytes contentType, output)
  | .index request => do
    let bytes ← readFile files request.path
    let taggedText ← request.tagged.mapM (readText files)
    return (index readers s request bytes taggedText, .json)
  | .version output => return (.version, output)

def run (e : Environment) (invocation : Invocation) : Except Failure Text := do
  let s ← loadSettings files invocation.config e
  let (report, output) ← report readers files s invocation.request
  match output with
  | .json => return report.renderJson
  | .text => return report.renderText

def Invocation.paths (invocation : Invocation) : List Text :=
  invocation.config.toList ++ match invocation.request with
    | .summarize path .. | .heading path .. | .textHeading path .. => [path]
    | .index request => request.path :: request.tagged.toList
    | .version _ => []

end Precis.Command
