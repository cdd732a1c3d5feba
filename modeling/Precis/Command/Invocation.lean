import Precis.Command.Arguments
import Precis.Settings.Environment

/-!
What a command line asks for. An invocation is complete: every option has been read as what it
stands for, and no path is empty.
-/

namespace Precis.Command

inductive OutputFormat where
  | json
  | text
deriving DecidableEq

/-- Any other word than text, in any letter case, asks for JSON. -/
def OutputFormat.ofText (t : Text) : OutputFormat :=
  if t.eqIgnoringAsciiCase "text".toList then .text else .json

structure IndexRequest where
  path : Text
  tagged : Option Text
  contentType : Option Text
  language : Option Text
  pages : Option Nat
  url : Option Text

inductive Request where
  | summarize (path : Text) (sentences : Option UInt64) (contentType : Option Text)
    (output : OutputFormat)
  | heading (path : Text) (language : Option Text) (output : OutputFormat)
  | textHeading (path : Text) (contentType : Option Text) (output : OutputFormat)
  | index (request : IndexRequest)
  | version (output : OutputFormat)

structure Invocation where
  /-- The settings file. -/
  config : Option Text
  request : Request

namespace Arguments

/-- Reads a value if it is given; an ill-formed one makes the whole command line ill-formed. -/
def valueAs? {α : Type} (a : Arguments) (flag : Flag) (read : Text → Option α) :
    Option (Option α) :=
  match a.value? flag with
  | none => some none
  | some value => (read value).map some

def path? (t : Text) : Option Text :=
  if t.isEmpty then none else some t

def sentences? (t : Text) : Option UInt64 :=
  t.toNatSigned?.bind Text.word64?

/-- A number of 32 bits; minus zero is one. -/
def pages? (t : Text) : Option Nat :=
  match t with
  | '-' :: digits => (Text.toNat? digits).bind fun n => if n = 0 then some 0 else none
  | _ => t.toNatSigned?.bind fun n => if n < UInt32.size then some n else none

def operandPath? (a : Arguments) : Option Text :=
  match a.operands with
  | [path] => path? path
  | _ => none

def outputFormat (a : Arguments) : OutputFormat :=
  match a.value? .output with
  | none => .json
  | some t => .ofText t

end Arguments

namespace Request

def flags? (name : Text) : Option (List Flag) :=
  if name = "summarize".toList then some [.config, .sentences, .contentType, .output]
  else if name = "heading".toList then some [.config, .language, .output]
  else if name = "text-heading".toList then some [.config, .contentType, .output]
  else if name = "index".toList then some [.config, .tagged, .contentType, .language, .pages, .url]
  else if name = "version".toList then some [.config, .output]
  else none

def ofArguments? (name : Text) (a : Arguments) : Option Request :=
  if name = "summarize".toList then do
    let path ← a.operandPath?
    let sentences ← a.valueAs? .sentences Arguments.sentences?
    return .summarize path sentences (a.value? .contentType) a.outputFormat
  else if name = "heading".toList then do
    let path ← a.operandPath?
    return .heading path (a.value? .language) a.outputFormat
  else if name = "text-heading".toList then do
    let path ← a.operandPath?
    return .textHeading path (a.value? .contentType) a.outputFormat
  else if name = "index".toList then do
    let path ← a.operandPath?
    let tagged ← a.valueAs? .tagged Arguments.path?
    let pages ← a.valueAs? .pages Arguments.pages?
    return .index
      ⟨path, tagged, a.value? .contentType, a.value? .language, pages, a.value? .url⟩
  else if name = "version".toList ∧ a.operands = [] then some (.version a.outputFormat)
  else none

end Request

namespace Invocation

/-- The settings file: as named behind the subcommand, else before it, else in the environment. Each
place that is looked at must name a path if it names anything, and the environment is looked at
unless both others name one. -/
def configPath? (outer inner fromEnvironment : Option Text) : Option (Option Text) :=
  let places := if outer.isSome && inner.isSome then [inner, outer]
    else [inner, outer, fromEnvironment]
  if places.any (·.any List.isEmpty) then none else some (places.findSome? id)

/-- Nothing for a command line that is no proper use of the program. -/
def ofArguments? (arguments : List Text) (e : Environment) : Option Invocation := do
  let outer ← Arguments.read? [.config] true arguments
  let name ← outer.operands.head?
  let flags ← Request.flags? name
  let inner ← Arguments.read? flags false outer.operands.tail
  let config ← configPath? (outer.value? .config) (inner.value? .config)
    (e "DOCGIST_CONFIG".toList)
  let request ← Request.ofArguments? name inner
  return ⟨config, request⟩

end Invocation
end Precis.Command
