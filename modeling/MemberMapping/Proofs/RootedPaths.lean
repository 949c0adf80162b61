import MemberMapping.Inventory.Names
import MemberMapping.Proofs.ModuleWalk
import MemberMapping.Token.Keyword

/-!
Paths that begin with `crate`, `self` or `super`.

By the rules of modules such a path denotes a type that a certain module declares. The lookup goes
by the last name, and what is written before it only chooses among the modules that declare the
name. So the type is found exactly if its module is the one that is chosen.
-/

namespace MemberMapping

/-- The module that names lead to from a module: out of it by each `super` in front, then into
modules by name. -/
inductive Climbs : List String → List String → List String → Prop
  | into {here names : List String} (plain : ∀ name ∈ names, Token.isKeyword name = false) :
      Climbs here names (here ++ names)
  | out {outer names target : List String} {name : String} (further : Climbs outer names target) :
      Climbs (outer ++ [name]) ("super" :: names) target

/-- The module that a rooted path leads to from the module `current`. -/
inductive Rooted (current : List String) : List String → List String → Prop
  | fromCrate {names : List String} (plain : ∀ name ∈ names, Token.isKeyword name = false) :
      Rooted current ("crate" :: names) names
  | fromSelf {names target : List String} (further : Climbs current names target) :
      Rooted current ("self" :: names) target
  | fromSuper {names target : List String} (outward : Climbs current ("super" :: names) target) :
      Rooted current ("super" :: names) target

/-- In the module `current` of a tree, the path `written` with the last name `last` denotes the type
`name` that the module at `target` declares. Raw names stand for plain ones. -/
structure Denotes (items : List Item) (current written : List String) (last : String)
    (target : List String) (name : String) : Prop where
  rooted : ∃ spelled, Rooted current written spelled ∧
    spelled.map Token.plainName = target.map Token.plainName
  declares : Item.Declares items target name
  named : Token.plainName last = name

/-- The module that is chosen among those that declare a name: the only one; else the first whose
path ends in what is written; else the current one; else the first. -/
inductive Preferred (scopes : List Namespace) (written current : Namespace) : Namespace → Prop
  | only {scope : Namespace} (all : ∀ other ∈ scopes, other = scope) :
      Preferred scopes written current scope
  | ending {scope : Namespace} {before after : List Namespace}
      (order : scopes = before ++ scope :: after)
      (ends : DeclaredNames.endsWith scope written = true)
      (first : ∀ other ∈ before, DeclaredNames.endsWith other written = false) :
      Preferred scopes written current scope
  | own (unmatched : ∀ other ∈ scopes, DeclaredNames.endsWith other written = false)
      (declares : current ∈ scopes) : Preferred scopes written current current
  | first {scope : Namespace} {others : List Namespace}
      (unmatched : ∀ other ∈ scopes, DeclaredNames.endsWith other written = false)
      (absent : current ∉ scopes) (order : scopes = scope :: others) :
      Preferred scopes written current scope

/-! ## What is written -/

namespace Namespace

lemma ofText_not_global {text : String} {first : Char} {rest : List Char}
    (begins : text.toList = first :: rest) (solid : first ≠ ':') :
    (ofText text).isGlobal = false := by
  have kept : (first :: rest).dropWhile (· == ':') = first :: rest := by
    rw [List.dropWhile_cons, beq_false_of_ne solid]
    rfl
  have present : first ∈ trimColons text.toList := by
    rw [begins, trimColons, kept, List.mem_reverse, List.reverse_cons,
      List.dropWhile_append]
    split
    · simp [solid]
    · simp
  have filled : (ofText text).text ≠ "" := by
    intro empty
    have none : trimColons text.toList = [] := by
      simpa [ofText] using congrArg String.toList empty
    rw [none] at present
    cases present
  simpa [isGlobal] using filled

lemma ofNames_not_global {current written target : List String}
    (rooted : Rooted current written target) : (ofNames written).isGlobal = false := by
  have begins : ∀ (head : String) (names : List String), ∃ rest,
      ("::".intercalate (head :: names)).toList = head.toList ++ rest := by
    intro head names
    cases names with
    | nil => exact ⟨[], by simp⟩
    | cons next names =>
      refine ⟨("::" ++ "::".intercalate (next :: names)).toList, ?_⟩
      rw [String.intercalate_cons_cons, String.append_assoc, String.toList_append]
  cases rooted with
  | fromCrate plain =>
    obtain ⟨rest, letters⟩ := begins "crate" target
    exact ofText_not_global letters (by decide)
  | @fromSelf names _ further =>
    obtain ⟨rest, letters⟩ := begins "self" names
    exact ofText_not_global letters (by decide)
  | @fromSuper names _ outward =>
    obtain ⟨rest, letters⟩ := begins "super" names
    exact ofText_not_global letters (by decide)

end Namespace

/-! ## The lookup -/

/-- A path refers to its last name in the module that is looked up with the names before it. -/
lemma Segment.typePathOf_eq {names : DeclaredNames} {current : Namespace} {segments : List Segment}
    {before written : List String} {last : String}
    (spelled : segments.map Segment.name = written ++ [last]) :
    (Segment.typePathOf names current before segments).scope =
        names.scopeOf current (.ofNames (before ++ written)) last ∧
      (Segment.typePathOf names current before segments).name = last := by
  induction segments generalizing before written with
  | nil => simp at spelled
  | cons segment rest ih =>
    cases rest with
    | nil =>
      obtain ⟨rfl, rfl⟩ : written = [] ∧ segment.name = last := by
        cases written with
        | nil => simpa using spelled
        | cons first others => simp at spelled
      rw [List.append_nil, Segment.typePathOf]
      cases segment <;> exact ⟨rfl, rfl⟩
    | cons next rest =>
      cases written with
      | nil => simp at spelled
      | cons first others =>
        simp only [List.map_cons, List.cons_append, List.cons.injEq] at spelled
        obtain ⟨rfl, further⟩ := spelled
        have found := @ih (before ++ [segment.name]) others (by simpa using further)
        rw [Segment.typePathOf]
        · simpa using found
        · exact List.cons_ne_nil next rest

lemma PathExpr.typePath_eq (names : DeclaredNames) (current : Namespace) {written : List String}
    {last : String} {path : PathExpr}
    (spelled : path.segments.map Segment.name = written ++ [last]) :
    (path.typePath names current).scope = names.scopeOf current (.ofNames written) last ∧
      (path.typePath names current).name = last := by
  obtain ⟨rooted, segments⟩ := path
  exact Segment.typePathOf_eq spelled

namespace DeclaredNames

variable {names : DeclaredNames} {current written scope : Namespace} {name : String}

lemma preferred_iff_of_ending {scopes : List Namespace} {ending : Namespace}
    (found : scopes.find? (endsWith · written) = some ending) :
    ending = scope ↔ Preferred scopes written current scope := by
  obtain ⟨ends, before, after, order, earlier⟩ := List.find?_eq_some_iff_append.mp found
  have listed := List.mem_of_find?_eq_some found
  constructor
  · rintro rfl
    exact .ending order ends (by simpa using earlier)
  · rintro (all | ⟨order', ends', earlier'⟩ | ⟨unmatched, _⟩ | ⟨unmatched, _, _⟩)
    · exact all ending listed
    · have again : scopes.find? (endsWith · written) = some scope :=
        List.find?_eq_some_iff_append.mpr ⟨ends', _, _, order', by simpa using earlier'⟩
      exact Option.some.inj (found.symm.trans again)
    · rw [unmatched ending listed] at ends
      cases ends
    · rw [unmatched ending listed] at ends
      cases ends

/-- Where no path ends in what is written, the current module is chosen or the first one. -/
lemma preferred_iff_of_unmatched {first : Namespace} {others : List Namespace}
    (unmatched : ∀ other ∈ first :: others, endsWith other written = false) :
    ((first :: others).find? (· == current)).getD first = scope ↔
      Preferred (first :: others) written current scope := by
  by_cases declares : current ∈ first :: others
  · have found : (first :: others).find? (· == current) = some current := by
      cases found : (first :: others).find? (· == current) with
      | none => simpa using List.find?_eq_none.mp found current declares
      | some other =>
        have same := List.find?_some found
        rw [beq_iff_eq.mp same]
    rw [found, Option.getD_some]
    constructor
    · rintro rfl
      exact .own unmatched declares
    · rintro (all | ⟨order, ends, _⟩ | _ | ⟨_, absent, _⟩)
      · exact all current declares
      · rw [unmatched scope (by simp [order])] at ends
        cases ends
      · rfl
      · exact absurd declares absent
  · have missing : (first :: others).find? (· == current) = none := by
      refine List.find?_eq_none.mpr fun other listed same => declares ?_
      rw [← beq_iff_eq.mp same]
      exact listed
    rw [missing, Option.getD_none]
    constructor
    · rintro rfl
      exact .first unmatched declares rfl
    · rintro (all | ⟨order, ends, _⟩ | ⟨_, declares'⟩ | ⟨_, _, order⟩)
      · exact all first List.mem_cons_self
      · rw [unmatched scope (by simp [order])] at ends
        cases ends
      · exact absurd declares' declares
      · exact (List.cons.inj order).1

lemma scopeOf_eq_iff (rooted : written.isGlobal = false) (declared : scope ∈ names.scopesOf name) :
    names.scopeOf current written name = scope ↔
      Preferred (names.scopesOf name) written current scope := by
  rw [scopeOf]
  cases order : names.scopesOf name with
  | nil => rw [order] at declared; cases declared
  | cons first others =>
    rw [order] at declared
    cases others with
    | nil =>
      cases List.mem_singleton.mp declared
      exact iff_of_true rfl (.only fun other listed => List.mem_singleton.mp listed)
    | cons second others =>
      simp only [rooted, Bool.not_false, Bool.true_and]
      cases found : (first :: second :: others).find? (endsWith · written) with
      | some ending => exact preferred_iff_of_ending found
      | none => exact preferred_iff_of_unmatched (by simpa using List.find?_eq_none.mp found)

end DeclaredNames

def crateRoot : Namespace := ⟨"crate"⟩

/-- The modules of a source file that declare a name, in the order of their declarations. -/
def Item.declaringScopes (items : List Item) (name : String) : List Namespace :=
  (Survey.declaredNames (scopedItems crateRoot items)).scopesOf name

def Item.reference (items : List Item) (current : List String) (path : PathExpr) : TypePath :=
  path.typePath (Survey.declaredNames (scopedItems crateRoot items)) (crateRoot.descend current)

lemma Item.reference_eq (items : List Item) (current : List String) {written : List String}
    {last : String} {path : PathExpr}
    (spelled : path.segments.map Segment.name = written ++ [last]) :
    (Item.reference items current path).scope =
        (Survey.declaredNames (scopedItems crateRoot items)).scopeOf (crateRoot.descend current)
          (.ofNames written) last ∧
      (Item.reference items current path).name = last :=
  PathExpr.typePath_eq _ _ spelled

/-- A rooted path refers to the type it denotes exactly if its last name is not a raw one and the
module that declares the type is the preferred one of those that declare the name. -/
theorem rooted_path_refers_iff {items : List Item} {current written target : List String}
    {last name : String} {path : PathExpr}
    (spelled : path.segments.map Segment.name = written ++ [last])
    (denotes : Denotes items current written last target name) :
    ((Item.reference items current path).scope = crateRoot.descend target ∧
        (Item.reference items current path).name = name) ↔
      (last = name ∧
        Preferred (Item.declaringScopes items name) (.ofNames written) (crateRoot.descend current)
          (crateRoot.descend target)) := by
  obtain ⟨scope, called⟩ := Item.reference_eq items current spelled
  obtain ⟨_, rooted, _⟩ := denotes.rooted
  have outside := Namespace.ofNames_not_global rooted
  have declared : crateRoot.descend target ∈ Item.declaringScopes items name :=
    Survey.mem_scopesOf.mpr ⟨target, denotes.declares, rfl⟩
  rw [scope, called]
  constructor
  · rintro ⟨found, rfl⟩
    exact ⟨rfl, (DeclaredNames.scopeOf_eq_iff outside declared).mp found⟩
  · rintro ⟨rfl, preferred⟩
    exact ⟨(DeclaredNames.scopeOf_eq_iff outside declared).mpr preferred, rfl⟩

/-- A type `X`, and a module with another type `X` that is mapped from the one outside. -/
def twins : List Item :=
  [.struct ⟨[], [], "X", [], [], .unit⟩,
    .module [] [] "child" []
      [.struct ⟨[⟨⟨false, ["map_from"]⟩, .arguments .paren
        (.ident "super" :: Token.operator "::" ++ [.ident "X"])⟩], [], "X", [], [], .unit⟩]]

lemma twins_declare_outside : Item.Declares twins [] "X" :=
  .here List.mem_cons_self (by decide)

lemma twins_declare_inside : Item.Declares twins ["child"] "X" :=
  .inside (List.mem_cons_of_mem _ List.mem_cons_self) (.here List.mem_cons_self (by decide))

/-- The path `crate::child::X` refers to the type that it denotes. -/
theorem crate_child_path_refers :
    Denotes twins [] ["crate", "child"] "X" ["child"] "X" ∧
    (Item.reference twins [] ⟨false, [.plain "crate", .plain "child", .plain "X"]⟩).scope =
      crateRoot.descend ["child"] ∧
    (Item.reference twins [] ⟨false, [.plain "crate", .plain "child", .plain "X"]⟩).name = "X" := by
  have denotes : Denotes twins [] ["crate", "child"] "X" ["child"] "X" :=
    ⟨⟨["child"], .fromCrate (by decide), rfl⟩, twins_declare_inside, by decide⟩
  have order : Item.declaringScopes twins "X" = [crateRoot, crateRoot.descend ["child"]] := by
    decide +kernel
  have preferred : Preferred (Item.declaringScopes twins "X") (.ofNames ["crate", "child"])
      (crateRoot.descend []) (crateRoot.descend ["child"]) := by
    rw [order]
    have split : [crateRoot, crateRoot.descend ["child"]] =
        [crateRoot] ++ crateRoot.descend ["child"] :: [] := rfl
    exact .ending split (by decide +kernel) (by decide +kernel)
  exact ⟨denotes, (rooted_path_refers_iff rfl denotes).mpr ⟨rfl, preferred⟩⟩

/-- The path `super::X` denotes the type outside, and refers to the one that it is written at, which
so is mapped from itself. -/
theorem super_path_refers_to_own_name :
    Denotes twins ["child"] ["super"] "X" [] "X" ∧
    Item.reference twins ["child"] ⟨false, [.plain "super", .plain "X"]⟩ =
      .plain (crateRoot.descend ["child"]) "X" ∧
    crateRoot.descend ["child"] ≠ crateRoot.descend [] ∧
    ((Inventory.ofItems crateRoot twins).toOption.bind fun inv =>
        (inv.schema.find? "crate::child::X").bind TypeDef.mapFrom?) =
      some (.plain (crateRoot.descend ["child"]) "X") := by
  have here : Climbs [] [] [] := .into (by decide)
  have outward : Climbs ([] ++ ["child"]) ["super"] [] := .out here
  have denotes : Denotes twins ["child"] ["super"] "X" [] "X" :=
    ⟨⟨[], .fromSuper outward, rfl⟩, twins_declare_outside, by decide⟩
  exact ⟨denotes, by decide +kernel, by decide +kernel, by decide +kernel⟩

end MemberMapping
