import MemberMapping.Expansion.Emission
import MemberMapping.Expansion.Placement
import MemberMapping.Inventory.Survey
import MemberMapping.Program.Reading.File

/-!
Expanding a program: its mappings are resolved, the attributes that steer them are removed, and
the generated code is added, to a source file or to a single module.
-/

namespace MemberMapping

inductive ExpansionFault
  | declarations (faults : List DeclarationFault)
  /-- Generated code has no written form: an infinite number. -/
  | unprintable
deriving DecidableEq, Repr

/-- What is said about a fault; nothing about code without a written form. -/
def ExpansionFault.messages : ExpansionFault → List String
  | declarations faults => faults.map (·.message)
  | unprintable => []

structure Expansion where
  items : List Item
  generation : Generation

/-- Expands the items of a tree of modules. -/
def expandItems (root : Namespace) (items : List Item) (options : Options) :
    Except ExpansionFault Expansion := do
  let inventory ← (Inventory.ofItems root items).mapError .declarations
  let generation := generate inventory.schema options
  let pending := inventory.codeOf generation.models
  if pending.all (·.2.isPrintable) then
    return ⟨(place root pending (Item.strippedAll items)).1, generation⟩
  else throw .unprintable

structure ExpandedFile where
  file : SourceFile
  generation : Generation

/-- Expands a source file, which is the root of its modules. -/
def SourceFile.expand (file : SourceFile) (options : Options) :
    Except ExpansionFault ExpandedFile := do
  let expansion ← expandItems ⟨"crate"⟩ file.items options
  return ⟨{ file with items := expansion.items }, expansion.generation⟩

def Options.setting (options : Options) (name : NamePath) : ArgumentReader Options := do
  if name.isName "access" then
    match Access.read (← ArgumentReader.textValue) with
    | .ok access => return { options with access := access }
    | .error fault => throw (.refused fault)
  else if name.isName "docs" then
    return { options with docs := ← ArgumentReader.truthValue }
  else if name.isName "nullable" then
    return { options with nullable := ← ArgumentReader.truthValue }
  else throw .expectedOption

def Options.ofTokens (tokens : List Token) : Except AttributeFault Options :=
  ArgumentReader.all (ArgumentReader.settings Options.setting {}) tokens

inductive ModuleFault
  | options (fault : AttributeFault)
  | unreadable (fault : SyntaxFault)
  /-- The module stands in a file of its own. -/
  | elsewhere
  | expansion (fault : ExpansionFault)
deriving DecidableEq, Repr

def ModuleFault.messages : ModuleFault → List String
  | options fault => [fault.message]
  | unreadable fault => [fault.message]
  | elsewhere => ["#[mappings] requires an inline module"]
  | expansion fault => fault.messages

def Diagnostic.tokens (d : Diagnostic) : List Token :=
  NamePath.tokens ⟨true, ["core", "compile_error"]⟩ ++ Token.operator "!" ++
    [.group .brace [.literal (Text.quotedInSource d.display)]]

/-- Expands a module with the options given at it. Diagnostics stand behind it. -/
def expandModule (arguments input : List Token) : Except ModuleFault (List Token) := do
  let options ← (Options.ofTokens arguments).mapError .options
  match ← (Grammar.read Grammar.moduleAlone input).mapError .unreadable with
  | .module attributes front name innerAttributes items =>
    let expansion ← (expandItems (.ofText name) items options).mapError .expansion
    let expanded := Item.module attributes front name innerAttributes expansion.items
    return Code.tokensOf expanded.code ++ expansion.generation.diagnostics.flatMap (·.tokens)
  | _ => throw .elsewhere

end MemberMapping
