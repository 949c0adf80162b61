import MemberMapping.WellKnown

/-!
The namespaces that generated code refers to, in the order of their first use.

They begin with those of the runtime and the support library. The global namespace and the one the
code belongs to are never imported.
-/

namespace MemberMapping

structure Imports where
  /-- The namespace the code belongs to. -/
  current : Namespace
  entries : List Namespace

namespace Imports

/-- `ns` would be a new entry. -/
def admits (imports : Imports) (ns : Namespace) : Bool :=
  !ns.isGlobal && ns != imports.current && !imports.entries.contains ns

/-- Adds a namespace at the end where it would be a new entry, and tells whether it was added. -/
def insert (imports : Imports) (ns : Namespace) : Imports × Bool :=
  if imports.admits ns then ({ imports with entries := imports.entries ++ [ns] }, true)
  else (imports, false)

/-- What is left when a namespace is added and nobody asks whether it is new. -/
def register (imports : Imports) (ns : Namespace) : Imports := (imports.insert ns).1

/-- Adds several namespaces in order. -/
def registerAll (imports : Imports) (namespaces : List Namespace) : Imports :=
  namespaces.foldl register imports

/-- The imports of code in `current` before anything is mapped. -/
def initial (current : Namespace) (known : WellKnown) : Imports :=
  (Imports.mk current []).registerAll [known.runtimeScope, known.supportScope]

end Imports

mutual

/-- The scopes of a type and its arguments, each type before its arguments. -/
def Ty.scopes : Ty → List Namespace
  | .primitive _ => []
  | .path target => target.scopes
  | .dyn interface => interface.scopes

def TypePath.scopes : TypePath → List Namespace
  | ⟨scope, _, args⟩ => scope :: Ty.scopesOf args

def Ty.scopesOf : List Ty → List Namespace
  | [] => []
  | ty :: rest => ty.scopes ++ Ty.scopesOf rest

end

def Imports.registerTy (imports : Imports) (ty : Ty) : Imports :=
  imports.registerAll ty.scopes

end MemberMapping
