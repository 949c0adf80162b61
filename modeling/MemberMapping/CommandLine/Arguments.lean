import MemberMapping.Options

/-!
The arguments of a command line: a command, a file, and options with one or two dashes.

Arguments are read from left to right. A value that stands apart from its option is taken over only
when the next argument that is understood is reached, or the end; so an argument that is not
understood is reported before a wrong value in front of it.
-/

namespace MemberMapping.CommandLine

inductive Action
  | generate | check | explain
deriving DecidableEq, Repr

def Action.ofName? : String → Option Action
  | "generate" => some .generate
  | "check" => some .check
  | "explain" => some .explain
  | _ => none

/-- The options of generated code that are given as flags or properties. -/
structure Flags where
  access : Option Access := none
  noDocs : Bool := false
  nullable : Bool := false
  properties : List (String × String) := []
deriving DecidableEq, Repr

structure Command where
  action : Action
  file : String
  /-- The file that is written in place of the standard output. -/
  output : Option String := none
  flags : Flags := {}
deriving DecidableEq, Repr

inductive ValueName
  | file | output | access | property
deriving DecidableEq, Repr

/-- Why arguments are no command. -/
inductive UsageFault
  /-- Help or the version is asked for, not a command. -/
  | helpAsked
  | versionAsked
  | nothingGiven
  | unknownCommand (text : String)
  | unknownArgument (text : String)
  | fileMissing
  /-- There is no value, or it is empty where it names a file. -/
  | valueMissing (name : ValueName)
  | valueRefused (name : ValueName) (text : String)
  | givenTwice (argument : String)
  /-- A flag has a value. -/
  | valueUnneeded (argument : String)
deriving DecidableEq, Repr

def ValueName.text : ValueName → String
  | file => "<FILE>"
  | output => "--output"
  | access => "--access"
  | property => "--property"

def UsageFault.message : UsageFault → String
  | helpAsked | nothingGiven =>
    "Usage: mapto <generate|check|explain> [OPTIONS] <FILE>\n\n" ++
      "Options:\n" ++
      "  -o, --output <FILE>         Write the expanded file here (generate)\n" ++
      "      --access <ACCESS>       Visibility of generated methods\n" ++
      "      --no-docs               Do not attach documentation\n" ++
      "      --nullable              Also convert optional sources\n" ++
      "      --property <KEY=VALUE>  Build property"
  | versionAsked => "mapto 0.1.0"
  | unknownCommand text => "error: unrecognized subcommand '" ++ text ++ "'"
  | unknownArgument text => "error: unexpected argument '" ++ text ++ "' found"
  | fileMissing => "error: the file is missing"
  | valueMissing name => "error: a value is required for '" ++ name.text ++ "'"
  | valueRefused name text => "error: invalid value '" ++ text ++ "' for '" ++ name.text ++ "'"
  | givenTwice argument => "error: '" ++ argument ++ "' cannot be used multiple times"
  | valueUnneeded argument => "error: '" ++ argument ++ "' takes no value"

inductive Meaning
  | value (name : ValueName)
  | noDocs
  | nullable
  | help
deriving DecidableEq, Repr

namespace Meaning

def ofLong? (action : Action) : String → Option Meaning
  | "output" => if action = .generate then some (.value .output) else none
  | "access" => some (.value .access)
  | "property" => some (.value .property)
  | "no-docs" => some .noDocs
  | "nullable" => some .nullable
  | "help" => some .help
  | _ => none

def ofShort? (action : Action) : Char → Option Meaning
  | 'o' => if action = .generate then some (.value .output) else none
  | 'h' => some .help
  | _ => none

end Meaning

inductive Argument
  /-- Two dashes alone: all further arguments are words. -/
  | separator
  /-- Two dashes, a name, and perhaps a value behind an equals sign. -/
  | long (name : String) (value : Option String)
  /-- One dash, a letter, and what is attached to it. -/
  | short (letter : Char) (attached : List Char)
  | word
deriving DecidableEq, Repr

/-- Splits at the first equals sign. -/
def splitAtEquals (cs : List Char) : List Char × Option (List Char) :=
  match cs.dropWhile (· ≠ '=') with
  | [] => (cs, none)
  | _ :: value => (cs.takeWhile (· ≠ '='), some value)

def Argument.ofText (text : String) : Argument :=
  match text.toList with
  | ['-', '-'] => .separator
  | '-' :: '-' :: rest =>
    let (name, value) := splitAtEquals rest
    .long (String.ofList name) (value.map String.ofList)
  | '-' :: letter :: attached => .short letter attached
  | _ => .word

/-- A property: a key, which is not blank, and a value behind the first equals sign. -/
def property? (text : String) : Option (String × String) :=
  match splitAtEquals text.toList with
  | (key, some value) =>
    let key := Text.trim (String.ofList key)
    if key.isEmpty then none else some (key, Text.trim (String.ofList value))
  | (_, none) => none

structure Given where
  file : Option String := none
  output : Option String := none
  flags : Flags := {}

namespace Given

/-- Takes over a value. An option that cannot be repeated must be new, before its value counts. -/
def take (g : Given) (text : String) : ValueName → Except UsageFault Given
  | .file =>
    if text.isEmpty then .error (.valueMissing .file) else .ok { g with file := some text }
  | .output =>
    if g.output.isSome then .error (.givenTwice ValueName.output.text)
    else if text.isEmpty then .error (.valueMissing .output)
    else .ok { g with output := some text }
  | .access =>
    if g.flags.access.isSome then .error (.givenTwice ValueName.access.text)
    else
      match Access.ofName? text with
      | some access => .ok { g with flags.access := some access }
      | none => .error (.valueRefused .access text)
  | .property =>
    match property? text with
    | some property => .ok { g with flags.properties := g.flags.properties ++ [property] }
    | none => .error (.valueRefused .property text)

end Given

structure Progress where
  action : Action
  given : Given := {}
  /-- A value that is named and not taken over, with its text where that has been reached. -/
  pending : Option (ValueName × Option String) := none
  /-- The file has been reached. -/
  filePassed : Bool := false
  /-- All further arguments are words. -/
  wordsOnly : Bool := false

namespace Progress

def settle (p : Progress) : Except UsageFault Progress :=
  match p.pending with
  | none => .ok p
  | some (name, none) => .error (.valueMissing name)
  | some (name, some text) => do
    return { p with given := ← p.given.take text name, pending := none }

def setNoDocs (p : Progress) : Except UsageFault Progress :=
  if p.given.flags.noDocs then .error (.givenTwice "--no-docs")
  else .ok { p with given.flags.noDocs := true }

def setNullable (p : Progress) : Except UsageFault Progress :=
  if p.given.flags.nullable then .error (.givenTwice "--nullable")
  else .ok { p with given.flags.nullable := true }

/-- Follows an option without a value attached to it. -/
def follow (p : Progress) (meaning : Meaning) : Except UsageFault Progress := do
  let p ← p.settle
  match meaning with
  | .value name => return { p with pending := some (name, none) }
  | .noDocs => p.setNoDocs
  | .nullable => p.setNullable
  | .help => throw .helpAsked

def attach (p : Progress) (name : ValueName) (text : String) : Except UsageFault Progress := do
  let p ← p.settle
  return { p with given := ← p.given.take text name }

def long (p : Progress) (name : String) (value : Option String) : Except UsageFault Progress :=
  match Meaning.ofLong? p.action name, value with
  | none, _ => .error (.unknownArgument ("--" ++ name))
  | some meaning, none => p.follow meaning
  | some (.value valueName), some text => p.attach valueName text
  | some _, some _ => .error (.valueUnneeded ("--" ++ name))

/-- Reads an option with one dash. An equals sign before an attached value does not count. -/
def short (p : Progress) (letter : Char) (attached : List Char) : Except UsageFault Progress :=
  match Meaning.ofShort? p.action letter, attached with
  | none, _ => .error (.unknownArgument (String.ofList ['-', letter]))
  | some (.value name), '=' :: text => p.attach name (String.ofList text)
  | some (.value name), c :: text => p.attach name (String.ofList (c :: text))
  | some meaning, _ => p.follow meaning

/-- Reads a word: the value of the option before it, or else the file. -/
def word (p : Progress) (text : String) : Except UsageFault Progress :=
  match p.pending, p.wordsOnly with
  | some (name, none), false => .ok { p with pending := some (name, some text) }
  | _, _ =>
    if p.filePassed then .error (.unknownArgument text)
    else do
      let p ← p.settle
      return { p with pending := some (.file, some text), filePassed := true }

def step (p : Progress) (text : String) : Except UsageFault Progress :=
  if p.wordsOnly then p.word text
  else
    match Argument.ofText text with
    | .separator => .ok { p with wordsOnly := true }
    | .long name value => p.long name value
    | .short letter attached => p.short letter attached
    | .word => p.word text

/-- The command, once all arguments have been read. -/
def finish (p : Progress) : Except UsageFault Command := do
  let p ← p.settle
  match p.given.file with
  | some file => return ⟨p.action, file, p.given.output, p.given.flags⟩
  | none => throw .fileMissing

end Progress

/-- The outcome of a request for help on a command: there is help for commands alone. -/
def helpOn : List String → UsageFault
  | [] => .helpAsked
  | [topic] =>
    if (Action.ofName? topic).isSome || topic = "help" then .helpAsked else .unknownCommand topic
  | topic :: further :: _ =>
    if (Action.ofName? topic).isSome || topic = "help" then .unknownCommand further
    else .unknownCommand topic

/-- Why there is no command where two dashes stand in its place. -/
def faultBehindSeparator : List String → UsageFault
  | [] => .nothingGiven
  | text :: _ =>
    if (Action.ofName? text).isSome || text = "help" then .unknownArgument text
    else .unknownCommand text

/-- Why there is no command where an argument of another form stands in its place. -/
def faultOf (text : String) (rest : List String) : UsageFault :=
  match Argument.ofText text with
  | .separator => faultBehindSeparator rest
  | .long name value =>
    match name, value with
    | "help", none => .helpAsked
    | "version", none => .versionAsked
    | "help", some _ | "version", some _ => .valueUnneeded text
    | _, _ => .unknownArgument text
  | .short 'h' _ => .helpAsked
  | .short 'V' _ => .versionAsked
  | .short _ _ => .unknownArgument text
  | .word => if text = "help" then helpOn rest else .unknownCommand text

def Command.ofArguments : List String → Except UsageFault Command
  | [] => .error .nothingGiven
  | text :: rest =>
    match Action.ofName? text with
    | some action => do
      let progress ← rest.foldlM Progress.step { action := action }
      progress.finish
    | none => .error (faultOf text rest)

end MemberMapping.CommandLine
