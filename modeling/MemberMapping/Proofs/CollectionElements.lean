import MemberMapping.Proofs.BaseChain

/-!
What the elements of a collection are.

A type is a collection by its own name or by an interface of its declaration. The elements are read
off the arguments of the type in both cases. So a collection that is declared, and referred to
without arguments, has none: those of its interface are not looked at.
-/

namespace MemberMapping

namespace Schema

/-- The declaration of the type, or one that it inherits from, has the interface. -/
def Implements (s : Schema) (path interface : TypePath) : Prop :=
  ∃ d holder, s.typeDef? path = some d ∧ (holder = d ∨ s.Inherits d holder) ∧
    interface ∈ holder.interfaces

/-- A collection: well-known and of one argument, or declared with a collection for an
interface. -/
inductive IsCollection (s : Schema) : Ty → Prop
  | wellKnown {path : TypePath} {element : Ty} (known : s.known.isEnumerable path = true)
      (single : path.args = [element]) : IsCollection s (.path path)
  | declared {path interface : TypePath} (implemented : s.Implements path interface)
      (known : s.known.isEnumerable interface = true) : IsCollection s (.path path)

/-- What the elements of a collection are: its argument where it is well-known; where it is
declared, and referred to without arguments, the argument of the interface. -/
inductive HasElement (s : Schema) : Ty → Ty → Prop
  | wellKnown {path : TypePath} {element : Ty} (known : s.known.isEnumerable path = true)
      (single : path.args = [element]) : HasElement s (.path path) element
  | declared {path interface : TypePath} {element : Ty} (bare : path.args = [])
      (implemented : s.Implements path interface) (known : s.known.isEnumerable interface = true)
      (single : interface.args = [element]) : HasElement s (.path path) element

/-- A type is given an element if it is a collection, that of the collection, and none if not. -/
structure ElementGiven (s : Schema) (ty : Ty) : Prop where
  exists_element : s.isGenericEnumerable ty = true →
    ∃ element, s.enumerableElement? ty = some element
  own : ∀ element, s.HasElement ty element → s.enumerableElement? ty = some element
  others : s.isGenericEnumerable ty = false → s.enumerableElement? ty = none

variable {s : Schema}

lemma mem_allInterfaces_iff (checked : s.checkBases = .ok ()) {d : TypeDef}
    {interface : TypePath} :
    interface ∈ s.allInterfaces d ↔
      ∃ holder, (holder = d ∨ s.Inherits d holder) ∧ interface ∈ holder.interfaces := by
  simp only [allInterfaces, List.mem_flatMap, List.mem_cons, (chain_bases checked d).mem_iff]

lemma isGenericEnumerable_iff (checked : s.checkBases = .ok ()) {ty : Ty} :
    s.isGenericEnumerable ty = true ↔ s.IsCollection ty := by
  constructor
  · intro holds
    cases ty with
    | primitive | dyn => cases holds
    | path path =>
      rw [isGenericEnumerable, Bool.or_eq_true, Bool.and_eq_true, beq_iff_eq,
        List.length_eq_one_iff] at holds
      rcases holds with ⟨⟨element, single⟩, known⟩ | declared
      · exact .wellKnown known single
      · cases found : s.typeDef? path with
        | none => simp [found] at declared
        | some d =>
          simp only [found, List.any_eq_true] at declared
          obtain ⟨interface, listed, known⟩ := declared
          obtain ⟨holder, held, own⟩ := (mem_allInterfaces_iff checked).mp listed
          exact .declared ⟨d, holder, found, held, own⟩ known
  · intro collection
    cases collection with
    | wellKnown known single => simp [isGenericEnumerable, known, single]
    | declared implemented known =>
      obtain ⟨d, holder, found, held, own⟩ := implemented
      have listed := (mem_allInterfaces_iff checked).mpr ⟨holder, held, own⟩
      rw [isGenericEnumerable, found, Bool.or_eq_true]
      exact Or.inr (List.any_eq_true.mpr ⟨_, listed, known⟩)

lemma enumerableElement?_eq_some_iff (checked : s.checkBases = .ok ()) {ty element : Ty} :
    s.enumerableElement? ty = some element ↔
      s.IsCollection ty ∧ ∃ path, ty = .path path ∧ path.args.head? = some element := by
  rw [enumerableElement?, ← isGenericEnumerable_iff checked]
  cases s.isGenericEnumerable ty with
  | false => simp
  | true => cases ty <;> simp [Ty.asPath?]

lemma IsCollection.exists_path {ty : Ty} (collection : s.IsCollection ty) :
    ∃ path, ty = .path path := by
  cases collection with
  | wellKnown | declared => exact ⟨_, rfl⟩

lemma HasElement.isCollection {ty element : Ty} (has : s.HasElement ty element) :
    s.IsCollection ty := by
  cases has with
  | wellKnown known single => exact .wellKnown known single
  | declared _ implemented known => exact .declared implemented known

/-- The element that a reference with arguments has is the first of them. -/
lemma HasElement.head?_args {path : TypePath} {element : Ty}
    (has : s.HasElement (.path path) element) (argued : path.args ≠ []) : path.args.head? = some element := by
  cases has with
  | wellKnown _ single => rw [single, List.head?_cons]
  | declared bare => exact absurd bare argued

end Schema

/-- In a built schema the collections are told apart from other types, and what is given as the
element of a collection is the first argument of the reference to it. So a type is given its element
exactly where it is no collection that is referred to without arguments. -/
theorem collection_element_given_iff {b : Builder} {s : Schema} (built : b.build = .ok s)
    (ty : Ty) :
    (s.isGenericEnumerable ty = true ↔ s.IsCollection ty) ∧
    (∀ element, s.enumerableElement? ty = some element ↔
      s.IsCollection ty ∧ ∃ path, ty = .path path ∧ path.args.head? = some element) ∧
    (s.ElementGiven ty ↔ ¬ (s.IsCollection ty ∧ ∃ path, ty = .path path ∧ path.args = [])) := by
  obtain ⟨_, _, checked⟩ := Builder.build_ok built
  have told : s.isGenericEnumerable ty = true ↔ s.IsCollection ty :=
    Schema.isGenericEnumerable_iff checked
  have first : ∀ element, s.enumerableElement? ty = some element ↔
      s.IsCollection ty ∧ ∃ path, ty = .path path ∧ path.args.head? = some element :=
    fun _ => Schema.enumerableElement?_eq_some_iff checked
  refine ⟨told, first, ?_⟩
  constructor
  · rintro given ⟨collection, path, rfl, bare⟩
    obtain ⟨element, found⟩ := given.exists_element (told.mpr collection)
    obtain ⟨_, _, ⟨⟩, head⟩ := (first element).mp found
    rw [bare] at head
    cases head
  · intro argued
    have reference : s.IsCollection ty → ∃ path, ty = .path path ∧ path.args ≠ [] := by
      intro collection
      obtain ⟨path, rfl⟩ := collection.exists_path
      exact ⟨path, rfl, fun bare => argued ⟨collection, path, rfl, bare⟩⟩
    refine ⟨fun holds => ?_, fun element has => ?_, fun fails => ?_⟩
    · obtain ⟨path, rfl, filled⟩ := reference (told.mp holds)
      obtain ⟨element, rest, args⟩ := List.exists_cons_of_ne_nil filled
      exact ⟨element, (first element).mpr ⟨told.mp holds, path, rfl, by rw [args, List.head?_cons]⟩⟩
    · obtain ⟨path, rfl, filled⟩ := reference has.isCollection
      exact (first element).mpr ⟨has.isCollection, path, rfl, has.head?_args filled⟩
    · rw [Schema.enumerableElement?, fails, if_neg (by decide)]

def tags : TypeDef :=
  { path := .plain ⟨"app"⟩ "Tags"
    kind := .structType
    interfaces := [⟨⟨"std::vec"⟩, "Vec", [.primitive .string]⟩] }

def tagged : Builder := { types := [tags] }

def taggedSchema : Schema := { known := {}, types := [tags.stamped] }

/-- The elements of a vector of tags are tags. -/
theorem tags_vector_element_given :
    tagged.build = .ok taggedSchema ∧
    taggedSchema.isGenericEnumerable (.path ⟨⟨"std::vec"⟩, "Vec", [tags.ty]⟩) = true ∧
    taggedSchema.ElementGiven (.path ⟨⟨"std::vec"⟩, "Vec", [tags.ty]⟩) ∧
    taggedSchema.enumerableElement? (.path ⟨⟨"std::vec"⟩, "Vec", [tags.ty]⟩) = some tags.ty := by
  have built : tagged.build = .ok taggedSchema := by rfl
  obtain ⟨told, first, given⟩ :=
    collection_element_given_iff built (.path ⟨⟨"std::vec"⟩, "Vec", [tags.ty]⟩)
  have collection : taggedSchema.IsCollection (.path ⟨⟨"std::vec"⟩, "Vec", [tags.ty]⟩) :=
    .wellKnown (by decide) rfl
  refine ⟨built, told.mpr collection, given.mpr ?_, (first tags.ty).mpr ⟨collection, _, rfl, rfl⟩⟩
  rintro ⟨_, _, ⟨⟩, bare⟩
  cases bare

/-- Tags themselves are a collection of texts and are given no element. -/
theorem tags_lack_element :
    tagged.build = .ok taggedSchema ∧ taggedSchema.isGenericEnumerable tags.ty = true ∧
    taggedSchema.HasElement tags.ty (.primitive .string) ∧
    taggedSchema.enumerableElement? tags.ty = none ∧ ¬ taggedSchema.ElementGiven tags.ty := by
  have implemented :
      taggedSchema.Implements tags.path ⟨⟨"std::vec"⟩, "Vec", [.primitive .string]⟩ :=
    ⟨tags.stamped, tags.stamped, by rfl, Or.inl rfl, .head _⟩
  have holds : taggedSchema.HasElement tags.ty (.primitive .string) :=
    .declared rfl implemented (by decide) rfl
  have lacking : taggedSchema.enumerableElement? tags.ty = none := by rfl
  refine ⟨by rfl, by rfl, holds, lacking, fun given => ?_⟩
  cases lacking.symm.trans (given.own _ holds)

end MemberMapping
