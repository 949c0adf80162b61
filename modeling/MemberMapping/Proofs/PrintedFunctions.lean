import MemberMapping.Proofs.PrintedExpressions

/-!
Where expressions stand in generated code.

The functions of the target stand in its implementation. The one that takes a context binds the
context, the source and the further parameters, and its body is the construction of the target. The
one that takes none binds all of them but the context and hands them on; the update assigns fields.
-/

namespace MemberMapping

/-! ## Parts of code -/

namespace Token

/-- Tokens stand somewhere in others, at any depth of brackets. -/
inductive StandsIn (part : List Token) : List Token → Prop
  | here (before after : List Token) : StandsIn part (before ++ part ++ after)
  | within (before after : List Token) (delimiter : Delimiter) {inner : List Token}
      (deeper : StandsIn part inner) : StandsIn part (before ++ .group delimiter inner :: after)

namespace StandsIn

variable {part whole : List Token}

lemma refl (part : List Token) : StandsIn part part := by
  have itself : StandsIn part ([] ++ part ++ []) := .here [] []
  rwa [List.nil_append, List.append_nil] at itself

lemma amid (stands : StandsIn part whole) (before after : List Token) :
    StandsIn part (before ++ whole ++ after) := by
  cases stands with
  | here front back =>
    have again : StandsIn part (before ++ front ++ part ++ (back ++ after)) := .here _ _
    simpa only [List.append_assoc] using again
  | within front back delimiter deeper =>
    have again := deeper.within (before ++ front) (back ++ after) delimiter
    simpa only [List.append_assoc, List.cons_append] using again

lemma behind (stands : StandsIn part whole) (before : List Token) :
    StandsIn part (before ++ whole) := by
  have amid := stands.amid before []
  rwa [List.append_nil] at amid

lemma trans {outer : List Token} (stands : StandsIn part whole) (deeper : StandsIn whole outer) :
    StandsIn part outer := by
  induction deeper with
  | here before after => exact stands.amid before after
  | within before after delimiter _ ih =>
    -- The brackets around the middle one are those around the inner one, too.
    exact ih.within before after delimiter

end StandsIn

lemma Listed.stands {parts : List (List Token)} {tokens : List Token} (listed : Listed parts tokens)
    {part : List Token} (among : part ∈ parts) : StandsIn part tokens := by
  induction listed with
  | none => cases among
  | last => cases List.mem_singleton.mp among; exact .refl part
  | closed => cases List.mem_singleton.mp among; exact .here [] [comma]
  | more first _ ih =>
    rcases List.mem_cons.mp among with rfl | behind
    · exact .here [] _
    · have later := (ih behind).amid (first ++ [comma]) []
      simpa only [List.append_assoc, List.cons_append, List.nil_append, List.append_nil] using later

end Token

/-! ## Functions -/

structure FunctionCode where
  name : String
  generics : List Token
  parameters : List Token
  result : List Token
  body : List Token

namespace FunctionCode

def tokens (f : FunctionCode) : List Token :=
  [.ident "fn", .ident f.name] ++ f.generics ++ .group .paren f.parameters :: f.result ++
    [.group .brace f.body]

end FunctionCode

/-- A list of parameters binds these names, each with a type. -/
def Token.Binds (names : List String) (parameters : List Token) : Prop :=
  ∃ each, List.Forall₂ (fun name parameter => ∃ ty,
    parameter = .ident name :: operator ":" ++ ty) names each ∧ Listed each parameters

lemma Token.Binds.before {names : List String} {parameters : List Token}
    (binds : Binds names parameters) (name : String) (ty : List Token) :
    Binds (name :: names) (.ident name :: operator ":" ++ ty ++ comma :: parameters) := by
  obtain ⟨each, bound, listed⟩ := binds
  exact ⟨_, .cons ⟨ty, rfl⟩ bound, listed.before _⟩

namespace MappingCode

/-- The names that are bound in the parameter list of a generated constructor. The one that makes a
context of its own binds all of them but the first. -/
def bindings (code : MappingCode) : List String :=
  context :: code.source :: code.parameters.map (·.1)

/-- The function stands in the implementation of the target. -/
def Has (code : MappingCode) (f : FunctionCode) : Prop :=
  ∃ before after, Token.StandsIn
    [.ident "impl", .ident code.target, .group .brace (before ++ f.tokens ++ after)] code.tokens

/-- The function is the constructor that takes a context: it binds the context, the source and the
further parameters, and builds the target. -/
structure Constructs (code : MappingCode) (f : FunctionCode) : Prop where
  stands : code.Has f
  name : f.name = code.contextConstructorName
  bound : Token.Binds code.bindings f.parameters
  result : f.result = Token.operator "->" ++ [.ident "Self"]
  built : code.construction.Written code.source f.body

/-- The function is the constructor that takes no context: it binds the source and the further
parameters, and hands a new context and all of them on. -/
structure Delegates (code : MappingCode) (f : FunctionCode) : Prop where
  stands : code.Has f
  name : f.name = code.constructorName
  bound : Token.Binds code.bindings.tail f.parameters
  result : f.result = Token.operator "->" ++ [.ident "Self"]
  delegated : ∃ arguments, f.body = .ident "Self" :: Token.steps [code.contextConstructorName] ++
      [.group .paren arguments] ∧
    Token.Listed (Token.newContext :: code.bindings.tail.map fun name => [.ident name]) arguments

/-- The function is the update: it takes the target and the source, and assigns fields. -/
structure Updates (code : MappingCode) (update : UpdateCode) (f : FunctionCode) : Prop where
  stands : code.Has f
  name : f.name = code.updateName
  takes : ∃ ty, Token.Listed [Token.operator "&" ++ [.ident "mut", .ident "self"],
    .ident code.source :: Token.operator ":" ++ ty] f.parameters
  assigns : update.Written f.body

end MappingCode

namespace Printing

variable (code : MappingCode)

lemma has_of_methods {f : FunctionCode} {before after : List Token}
    (printed : methods code = before ++ f.tokens ++ after) : code.Has f := by
  refine ⟨before, after, ?_⟩
  rw [← printed]
  have inside : Token.StandsIn [.ident "impl", .ident code.target, .group .brace (methods code)]
      (name "use" ++ rootPath ["mapto"] ++ namesOf ["as", "_mapto"] ++ op ";" ++
        [.ident "impl", .ident code.target, .group .brace (methods code)] ++ conversions code) :=
    .here _ _
  have whole := inside.within
    (extensionTrait code ++ namesOf ["const", "_"] ++ op ":" ++ parens [] ++ op "=") (op ";") .brace
  rw [MappingCode.tokens]
  simp only [List.append_assoc, List.cons_append, List.nil_append] at whole ⊢
  exact whole

lemma parameters_bind : Token.Binds (code.parameters.map (·.1)) (parameters code) := by
  refine ⟨_, ?_, commas_listed _⟩
  rw [List.forall₂_map_left_iff, List.forall₂_map_right_iff, List.forall₂_same]
  exact fun parameter _ => ⟨parameter.2.tokens, rfl⟩

/-- The constructor that takes a context, from its name on. -/
def contextFunction : FunctionCode where
  name := code.contextConstructorName
  generics := op "<" ++ lifetime ++ op ">"
  parameters := contextParameter ++ op "," ++ contextSource code ++ op "," ++ parameters code
  result := returnsSelf
  body := construction code.source code.construction

/-- The constructor that takes no context, from its name on. -/
def plainFunction : FunctionCode where
  name := code.constructorName
  generics := []
  parameters := sourceParameter code ++ op "," ++ parameters code
  result := returnsSelf
  body := localPath ["Self", code.contextConstructorName] ++
    parens (newContext ++ op "," ++ name code.source ++ op "," ++ arguments code)

def updateFunction (update : UpdateCode) : FunctionCode where
  name := code.updateName
  generics := []
  parameters := op "&" ++ namesOf ["mut", "self"] ++ op "," ++ sourceParameter code
  result := []
  body := (if update.needsContext then
      name "let" ++ name MappingCode.context ++ op "=" ++ newContext ++ op ";" else []) ++
    update.assignments.flatMap fun setting =>
      name "self" ++ op "." ++ [setting.1.token] ++ op "=" ++ value setting.2 ++ op ";"

lemma contextConstructor_ends :
    ∃ front, contextConstructor code = front ++ (contextFunction code).tokens := by
  rw [contextConstructor, contextFunction, FunctionCode.tokens]
  simp only [List.append_assoc, List.cons_append, List.nil_append]
  exact ⟨_, (List.append_assoc ..).symm⟩

lemma plainConstructor_ends :
    ∃ front, plainConstructor code = front ++ (plainFunction code).tokens := by
  rw [plainConstructor, plainFunction, FunctionCode.tokens]
  simp only [List.append_assoc, List.cons_append, List.nil_append]
  exact ⟨_, (List.append_assoc ..).symm⟩

lemma updateMethod_ends (update : UpdateCode) :
    ∃ front, updateMethod code update = front ++ (updateFunction code update).tokens := by
  rw [updateMethod, updateFunction, FunctionCode.tokens]
  simp only [List.append_assoc, List.cons_append, List.nil_append]
  exact ⟨_, (List.append_assoc ..).symm⟩

lemma bindings_listed :
    Token.Listed (code.parameters.map fun parameter => [.ident parameter.1]) (arguments code) :=
  commas_listed _

/-- The constructor that takes a context is printed as one that builds the target. -/
theorem constructs : code.Constructs (contextFunction code) where
  stands := by
    obtain ⟨front, printed⟩ := contextConstructor_ends code
    have whole : methods code = front ++ (contextFunction code).tokens ++
        ((if code.secondary then plainConstructor code else []) ++
          ((code.update.map (updateMethod code)).getD [] ++
            if code.writesJson then jsonMethod code else [])) := by
      simp only [methods, printed, List.append_assoc]
    exact has_of_methods code whole
  name := rfl
  bound := by
    have bound := ((parameters_bind code).before code.source
      (op "&" ++ lifetime ++ code.sourcePath.tokens)).before MappingCode.context
        (op "&" ++ name "mut" ++ support ["MappingContext"] ++ op "<" ++ lifetime ++ op ">")
    rw [contextFunction, contextParameter, contextSource]
    simp only [List.append_assoc, List.cons_append] at bound ⊢
    exact bound
  result := rfl
  built := construction_written _ _

lemma newContext_eq : newContext = Token.newContext := by
  rw [newContext, Token.newContext, support, localPath_cons]
  rfl

/-- The constructor that takes no context is printed as one that hands on what it takes. -/
theorem delegates (secondary : code.secondary = true) : code.Delegates (plainFunction code) where
  stands := by
    obtain ⟨front, printed⟩ := plainConstructor_ends code
    have whole : methods code = contextConstructor code ++ front ++ (plainFunction code).tokens ++
        ((code.update.map (updateMethod code)).getD [] ++
          if code.writesJson then jsonMethod code else []) := by
      simp only [methods, if_pos secondary, printed, List.append_assoc]
    exact has_of_methods code whole
  name := rfl
  bound := by
    have bound := (parameters_bind code).before code.source (op "&" ++ code.sourcePath.tokens)
    rw [plainFunction, sourceParameter]
    simp only [List.append_assoc, List.cons_append] at bound ⊢
    exact bound
  result := rfl
  delegated := by
    refine ⟨newContext ++ op "," ++ name code.source ++ op "," ++ arguments code, ?_, ?_⟩
    · rw [plainFunction, localPath_cons]
      rfl
    · -- The source and the parameters are handed on by name, as in the list of bindings, with a new
      -- context in the place of the first.
      have listed := ((bindings_listed code).before [.ident code.source]).before newContext
      rw [newContext_eq] at listed ⊢
      have names : code.bindings.tail.map (fun binding => [Token.ident binding]) =
          [.ident code.source] :: code.parameters.map fun parameter => [.ident parameter.1] := by
        rw [MappingCode.bindings, List.tail_cons, List.map_cons, List.map_map]
        rfl
      rw [names]
      simp only [List.append_assoc, List.cons_append] at listed ⊢
      exact listed

/-- The update is printed as one that makes its assignments. -/
theorem updates {update : UpdateCode} (asked : code.update = some update) :
    code.Updates update (updateFunction code update) where
  stands := by
    obtain ⟨front, printed⟩ := updateMethod_ends code update
    have whole : methods code =
        contextConstructor code ++ (if code.secondary then plainConstructor code else []) ++
          front ++ (updateFunction code update).tokens ++
          if code.writesJson then jsonMethod code else [] := by
      simp only [methods, asked, Option.map_some, Option.getD_some, printed, List.append_assoc]
    exact has_of_methods code whole
  name := rfl
  takes := by
    refine ⟨op "&" ++ code.sourcePath.tokens, ?_⟩
    have listed := (Token.Listed.last (name code.source ++ op ":" ++
      (op "&" ++ code.sourcePath.tokens))).before (op "&" ++ namesOf ["mut", "self"])
    rw [updateFunction, sourceParameter]
    simp only [List.append_assoc, List.cons_append] at listed ⊢
    exact listed
  assigns := by
    refine ⟨update.assignments.map fun setting =>
      name "self" ++ op "." ++ [setting.1.token] ++ op "=" ++ value setting.2 ++ op ";", ?_, ?_⟩
    · rw [List.forall₂_map_right_iff, List.forall₂_same]
      exact fun setting _ => ⟨value setting.2, value_written setting.2, rfl⟩
    · rw [updateFunction, List.flatMap_def, newContext_eq]
      rfl

end Printing

/-! ## Values in code -/

/-- A value has an expression, which stands in the code if the code sets anything to the value. -/
structure MappingCode.Shows (code : MappingCode) (value : MemberValue) (expression : List Token) :
    Prop where
  written : value.Written expression
  stands : value ∈ code.values → Token.StandsIn expression code.tokens

lemma MappingCode.Has.body {code : MappingCode} {f : FunctionCode} (has : code.Has f) :
    Token.StandsIn f.body code.tokens := by
  obtain ⟨before, after, stands⟩ := has
  have body : Token.StandsIn f.body f.tokens := (Token.StandsIn.refl f.body).within _ [] .brace
  have methods := (body.amid before after).within [.ident "impl", .ident code.target] [] .brace
  exact methods.trans stands

namespace Printing

lemma value_in_construction (source : String) {built : Construction} {v : MemberValue}
    (set : v ∈ built.values) : Token.StandsIn (value v) (construction source built) := by
  cases built with
  | fields base values =>
    obtain ⟨setting, among, rfl⟩ := List.mem_map.mp set
    have entry := (Token.StandsIn.refl (value setting.2)).behind ([setting.1.token] ++ op ":")
    have fields := (commas_listed (values.map fun setting =>
      [setting.1.token] ++ op ":" ++ value setting.2)).stands (List.mem_map_of_mem among)
    exact ((entry.trans fields).behind _).within (name "Self") [] .brace
  | call constructor values =>
    have arguments := (commas_listed (values.map value)).stands (List.mem_map_of_mem set)
    exact arguments.within _ [] .paren
  | unit => cases set

lemma value_in_update {update : UpdateCode} {v : MemberValue}
    (set : v ∈ update.assignments.map (·.2)) (code : MappingCode) :
    Token.StandsIn (value v) (updateFunction code update).body := by
  obtain ⟨setting, among, rfl⟩ := List.mem_map.mp set
  obtain ⟨first, rest, split⟩ := List.append_of_mem among
  have statement := (Token.StandsIn.refl (value setting.2)).amid
    (name "self" ++ op "." ++ [setting.1.token] ++ op "=") (op ";")
  rw [updateFunction, split, List.flatMap_append, List.flatMap_cons]
  exact ((statement.amid [] _).behind _).behind _

/-- A value is printed as its expression, which stands where the value is set. -/
theorem shows (code : MappingCode) (v : MemberValue) : code.Shows v (value v) where
  written := value_written v
  stands := by
    intro set
    rcases List.mem_append.mp set with built | assigned
    · exact (value_in_construction code.source built).trans (constructs code).stands.body
    · cases asked : code.update with
      | none => rw [asked] at assigned; cases assigned
      | some update =>
        rw [asked] at assigned
        exact (value_in_update assigned code).trans (updates code asked).stands.body

end Printing

lemma Construction.Written.inherited {source : String} {part : String × TypeExpr × PartSource}
    {values : List (FieldName × MemberValue)} {tokens : List Token}
    (written : (Construction.fields (some part) values).Written source tokens) :
    ∃ entry, PartSource.Sets source part entry ∧ Token.StandsIn entry tokens := by
  obtain ⟨first, rest, entries, rfl, inherited, _, listed⟩ := written.literal
  cases inherited with
  | @cons _ entry _ _ sets others =>
    have stands := listed.stands (List.mem_append_left rest List.mem_cons_self)
    exact ⟨entry, sets, stands.within [.ident "Self"] [] .brace⟩

end MemberMapping
