import MemberMapping.Resolver

/-!
Assembling the plan of a mapped type, and the plans of all mapped types of a schema.

Members are resolved twice: each target member against the source, for construction, and each
source member against the target, for updates. A type either gets a plan or the diagnostics that
say why not.
-/

namespace MemberMapping

/-- The members without the ignored ones. -/
def mappable (members : List Member) : List Member :=
  members.filter (!·.isIgnored)

namespace Schema

/-- The members that take part in a mapping by the kind of the type: with the inherited ones for
classes, unless `declaredOnly`; the parameters of the widest constructor for records. -/
def kindMembers (s : Schema) (d : TypeDef) (declaredOnly : Bool) : List Member :=
  match d.kind with
  | .classType => s.members d declaredOnly
  | .recordType => d.constructionMembers
  | .structType | .interfaceType => d.members

/-- The direct base, where it is a mapped type itself. -/
def mappedBase? (s : Schema) (target : TypeDef) : Option TypeDef :=
  (s.baseOf? target).filter (·.mapFrom?.isSome)

/-- The target members to be mapped. A class leaves what it inherits to a mapped base. -/
def targetMembers (s : Schema) (target : TypeDef) : List Member :=
  mappable (s.kindMembers target ((s.mappedBase? target).isSome && target.kind == .classType))

def sourceCandidates (s : Schema) (source : TypeDef) : List Member :=
  mappable (s.kindMembers source false)

end Schema

structure ForwardPass where
  mapped : List MappedMember := []
  extra : List ExtraParameter := []
  resolver : Resolver

def ForwardPass.step (s : Schema) (target : TypeDef) (candidates : List Member)
    (pass : ForwardPass) (member : Member) : ForwardPass :=
  match pass.resolver.resolve s target member candidates with
  | (.mapped mapped, r) => { pass with mapped := pass.mapped ++ [mapped], resolver := r }
  | (.unmatched, r) =>
    { pass with extra := pass.extra ++ [⟨member.name, member.ty, member.readOnly⟩], resolver := r }
  | (.unresolved, r) => { pass with resolver := r }

/-- Resolves the target members in order. -/
def forwardPass (s : Schema) (target : TypeDef) (candidates targets : List Member)
    (r : Resolver) : ForwardPass :=
  targets.foldl (ForwardPass.step s target candidates) { resolver := r }

structure ReversePass where
  mapped : List MappedMember := []
  resolver : Resolver

def ReversePass.step (s : Schema) (target : TypeDef) (targets : List Member)
    (pass : ReversePass) (source : Member) : ReversePass :=
  match pass.resolver.resolveReverse s target source targets with
  | (some mapped, r) => ⟨pass.mapped ++ [mapped], r⟩
  | (none, r) => { pass with resolver := r }

/-- Resolves the source members in order. -/
def reversePass (s : Schema) (target : TypeDef) (candidates targets : List Member)
    (r : Resolver) : ReversePass :=
  candidates.foldl (ReversePass.step s target targets) { resolver := r }

def isSource (source : TypeDef) (ty : Ty) : Bool :=
  match ty.asPath? with
  | some path => path.definitionName == source.fullName
  | none => false

/-- The first written constructor that takes the source alone. -/
def sourceConstructor? (target source : TypeDef) : Option Constructor :=
  target.constructors.find? fun c =>
    !c.implicit &&
      match c.params with
      | [param] => isSource source param.ty
      | _ => false

def handsOnSource (known : WellKnown) (source : TypeDef) (c : Constructor) : Bool :=
  match c.initializer with
  | some [some context, some inst] =>
    context.asPath?.any known.isMappingContext && isSource source inst
  | _ => false

/-- Whether a constructor that takes the source alone has to be generated, and the diagnostic
where one is written that does not hand on what it must. -/
def secondaryConstructor (s : Schema) (target source : TypeDef) : Bool × Option Diagnostic :=
  match sourceConstructor? target source with
  | none => (true, none)
  | some c =>
    if handsOnSource s.known source c then (false, none)
    else (false, some (.missingConstructorArgument target source))

def assembleFrom (s : Schema) (target source : TypeDef) (options : Options) :
    Except Diagnostics MappingModel :=
  let base := s.mappedBase? target
  let targets := s.targetMembers target
  let candidates := s.sourceCandidates source
  let start := (Resolver.initial s target).register source.scope
  let forward := forwardPass s target candidates targets start
  let reverse := reversePass s target candidates targets forward.resolver
  let unmatched := forward.mapped.isEmpty && !candidates.isEmpty && base.isNone &&
    reverse.resolver.diagnostics.isEmpty
  let secondary := secondaryConstructor s target source
  let diagnostics := reverse.resolver.diagnostics ++
    (if unmatched then [.noMatchingPropertyFound target source] else []) ++ secondary.2.toList
  if diagnostics.isEmpty then
    .ok
      { options := options
        scope := target.scope
        kind := target.kind
        typeName := target.name
        sourceScope := source.scope
        sourceTypeName := source.name
        sourceFullName := source.fullName
        updatable := target.markers.has .useUpdate
        jsonExtension := target.markers.has .jsonExtension
        hasBaseClass := base.isSome
        baseType := base.map (·.path)
        baseSource := base.bind (·.mapFrom?)
        sourceMembers := forward.mapped
        typeMembers := reverse.mapped
        extraParameters := forward.extra
        imports := reverse.resolver.imports.entries
        generateSecondaryConstructor := secondary.1 }
  else .error diagnostics

/-- The plan of a target, or every diagnostic raised for it. -/
def assemble (s : Schema) (target : TypeDef) (options : Options) :
    Except Diagnostics MappingModel :=
  match target.mapFrom?.bind s.typeDef? with
  | none => .error [.mapFromAttributeNotFound target]
  | some source => assembleFrom s target source options

def assembleByName (s : Schema) (name : String) (options : Options) :
    Except Diagnostics MappingModel :=
  match s.resolve? name with
  | none => .error [.typeNotFound name]
  | some target => assemble s target options

/-- The plans of the types that resolved and the diagnostics of those that did not, each in
declaration order. -/
structure Generation where
  models : List MappingModel := []
  diagnostics : Diagnostics := []

namespace Generation

def add (g : Generation) : Except Diagnostics MappingModel → Generation
  | .ok model => { g with models := g.models ++ [model] }
  | .error diagnostics => { g with diagnostics := g.diagnostics ++ diagnostics }

def isOk (g : Generation) : Bool := !g.diagnostics.hasErrors

/-- The plan of the first type of that name. -/
def model? (g : Generation) (typeName : String) : Option MappingModel :=
  g.models.find? (·.typeName == typeName)

end Generation

/-- Resolves every mapped type of a schema. -/
def generate (s : Schema) (options : Options) : Generation :=
  (s.types.filter (·.isMapped)).foldl (fun g target => g.add (assemble s target options)) {}

end MemberMapping
