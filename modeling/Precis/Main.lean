import Precis.Body.Readers
import Precis.Command.Run

/-!
The program: it hands the command line, the environment and the files that are named to
`Precis.Command.run`, and prints what that returns.
-/

namespace Precis.Command

def environmentNames : List String :=
  ["DOCGIST_CONFIG", "DOCGIST_SUMMARY_SENTENCES", "DOCGIST_RTL_LANGS",
    "DOCGIST_TEXT_HEADING_MIN_CHARS"]

def readEnvironment : IO Environment := do
  let values ← environmentNames.filterMapM fun name => do
    return (← IO.getEnv name).map fun value => (name.toList, value.toList)
  return fun name => (values.find? fun v => v.1 == name).map Prod.snd

/-- A file that cannot be read counts as missing. -/
def readFiles (paths : List Text) : IO Files := do
  let contents ← paths.filterMapM fun path => do
    try
      let bytes ← IO.FS.readBinFile (String.ofList path)
      return some (path, bytes.toList)
    catch _ => return none
  return fun path => (contents.find? fun c => c.1 == path).map Prod.snd

def usage : String :=
  "usage: docgist [--config FILE] summarize|heading|text-heading|index|version [OPTIONS] [FILE]"

end Precis.Command

open Precis Precis.Command

def main (arguments : List String) : IO UInt32 := do
  let e ← readEnvironment
  match Invocation.ofArguments? (arguments.map String.toList) e with
  | none =>
      IO.eprintln usage
      return 2
  | some invocation =>
      let files ← readFiles invocation.paths
      match run Body.standardReaders files e invocation with
      | .ok output =>
          IO.print (String.ofList output)
          return 0
      | .error failure =>
          IO.eprintln (String.ofList ("Error: ".toList ++ failure.message))
          IO.eprintln (String.ofList ("\nCaused by:\n    ".toList ++ failure.cause))
          return 1
