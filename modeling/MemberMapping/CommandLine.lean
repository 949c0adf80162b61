import MemberMapping.CommandLine.Arguments
import MemberMapping.Expansion
import MemberMapping.Report

/-!
Running a command: a file is read and expanded, and the expanded program, its diagnostics or its
plans are put out.

Files are reached through operations that are handed in, so that a run is defined for a folder that
is a mere value as well as for one on a disk.
-/

namespace MemberMapping.CommandLine

/-- The options that a command asks for. Properties replace the defaults altogether, and flags
apply last. -/
def Flags.options (flags : Flags) (defaults : Options) : Except Fault Options := do
  let start ←
    if flags.properties.isEmpty then pure defaults else Options.ofProperties flags.properties
  return {
    access := flags.access.getD start.access
    nullable := start.nullable || flags.nullable
    docs := start.docs && !flags.noDocs }

inductive RunFault
  | option (fault : Fault)
  | notRead (file : String)
  | notParsed (file : String)
  | notExpanded (file : String) (fault : ExpansionFault)
  | notWritten (file : String)
deriving DecidableEq, Repr

namespace RunFault

def message : RunFault → String
  | option fault => fault.message
  | notRead file => "failed to read " ++ file
  | notParsed file => "failed to parse " ++ file
  | notExpanded file _ => "invalid mapping declarations in " ++ file
  | notWritten file => "failed to write " ++ file

/-- What lies behind the fault: the first thing said about declarations. -/
def cause? : RunFault → Option String
  | notExpanded _ fault => fault.messages.head?
  | _ => none

end RunFault

structure FileAccess (m : Type → Type) where
  /-- The text of a file, where there is one. -/
  read : String → m (Option String)
  /-- Sets the text of a file, and tells whether that was possible. -/
  write : String → String → m Bool

structure Output where
  /-- There are no errors in the mappings. -/
  ok : Bool
  text : String
  /-- What is said beside the output. -/
  notes : List String := []

def summary (g : Generation) : String :=
  let lines := g.diagnostics.map fun d => d.display ++ "\n"
  let last := match (g.diagnostics.filter (·.isError)).length with
    | 0 => "ok: " ++ toString g.models.length ++ " mapped types"
    | 1 => "failed: 1 error"
    | n => "failed: " ++ toString n ++ " errors"
  String.join lines ++ last ++ "\n"

def report (action : Action) (expanded : ExpandedFile) : String :=
  match action with
  | .generate => expanded.file.text ++ "\n"
  | .check => summary expanded.generation
  | .explain => expanded.generation.toJson.pretty ++ "\n"

/-- What a command says beside its output: the diagnostics, unless they are put out themselves. -/
def notes (action : Action) (g : Generation) : List String :=
  match action with
  | .generate => g.diagnostics.map (·.display)
  | .check | .explain => []

def expandText (file text : String) (options : Options) : Except RunFault ExpandedFile :=
  match SourceFile.ofText? text with
  | none => .error (.notParsed file)
  | some source => (source.expand options).mapError (.notExpanded file)

/-- Runs a command. The options are checked before the file is read. -/
def run {m : Type → Type} [Monad m] (files : FileAccess m) (defaults : Options)
    (command : Command) : ExceptT RunFault m Output := do
  let options ← liftExcept ((command.flags.options defaults).mapError .option)
  match ← ExceptT.lift (files.read command.file) with
  | none => throw (.notRead command.file)
  | some text =>
    let expanded ← liftExcept (expandText command.file text options)
    let output (text : String) : Output :=
      ⟨expanded.generation.isOk, text, notes command.action expanded.generation⟩
    match command.output with
    | none => return output (report command.action expanded)
    | some target =>
      if ← ExceptT.lift (files.write target expanded.file.text) then return output ""
      else throw (.notWritten target)
where
  /-- An outcome without effects. -/
  liftExcept {α : Type} : Except RunFault α → ExceptT RunFault m α
    | .ok value => pure value
    | .error fault => throw fault

end MemberMapping.CommandLine
