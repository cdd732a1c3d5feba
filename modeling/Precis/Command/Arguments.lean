import Precis.Text.Basic

/-!
Arguments on the command line. An option is written `--name=value`, or as `--name` and its value in
the next argument; two dashes alone end the options. A value that starts with a dash has to follow an
equals sign, but for the dash alone.
-/

namespace Precis.Command

inductive Flag where
  | config
  | sentences
  | contentType
  | output
  | language
  | tagged
  | pages
  | url
deriving DecidableEq

namespace Flag

def names : List (Text × Flag) := [
  ("config".toList, .config), ("sentences".toList, .sentences),
  ("content-type".toList, .contentType), ("output".toList, .output), ("format".toList, .output),
  ("lang".toList, .language), ("tagged".toList, .tagged), ("pages".toList, .pages),
  ("url".toList, .url)]

def ofName? (name : Text) : Option Flag :=
  (names.find? fun n => n.1 == name).map Prod.snd

end Flag

structure Arguments where
  options : List (Flag × Text)
  operands : List Text

namespace Arguments

def isPlain (argument : Text) : Bool :=
  argument == ['-'] || argument.head? != some '-'

def addOption (flag : Flag) (value : Text) (a : Arguments) : Arguments :=
  { a with options := (flag, value) :: a.options }

def addOperand (operand : Text) (a : Arguments) : Arguments :=
  { a with operands := operand :: a.operands }

/-- The option that an argument behind its two dashes names, and the value it has if one is given in
the same argument. -/
def option? (allowed : List Flag) (argument : Text) : Option (Flag × Option Text) :=
  match Flag.ofName? (argument.takeWhile (· != '=')) with
  | none => none
  | some flag =>
      if allowed.contains flag then
        match argument.dropWhile (· != '=') with
        | [] => some (flag, none)
        | _ :: value => some (flag, some value)
      else none

/-- Reads the arguments of a command; `pending` is an option whose value comes next. A command with
subcommands has no operands of its own: the first plain argument is a subcommand, and all that
follow are that one's. -/
def readFrom (allowed : List Flag) (hasSubcommands : Bool) (pending : Option Flag) :
    List Text → Option Arguments
  | [] => if pending.isSome then none else some ⟨[], []⟩
  | argument :: rest =>
      match pending with
      | some flag =>
          if isPlain argument then
            (readFrom allowed hasSubcommands none rest).map (addOption flag argument)
          else none
      | none =>
          if isPlain argument then
            if hasSubcommands then some ⟨[], argument :: rest⟩
            else (readFrom allowed hasSubcommands none rest).map (addOperand argument)
          else match Text.dropFront? ['-', '-'] argument with
            | none => none
            | some [] => if hasSubcommands then none else some ⟨[], rest⟩
            | some name =>
                match option? allowed name with
                | none => none
                | some (flag, some value) =>
                    (readFrom allowed hasSubcommands none rest).map (addOption flag value)
                | some (flag, none) => readFrom allowed hasSubcommands (some flag) rest

/-- Nothing if an option is unknown, lacks its value or is repeated. -/
def read? (allowed : List Flag) (hasSubcommands : Bool) (arguments : List Text) :
    Option Arguments :=
  (readFrom allowed hasSubcommands none arguments).bind fun a =>
    if (a.options.map Prod.fst).Nodup then some a else none

def value? (a : Arguments) (flag : Flag) : Option Text :=
  (a.options.find? fun o => o.1 == flag).map Prod.snd

end Arguments
end Precis.Command
