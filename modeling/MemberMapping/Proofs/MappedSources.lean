import MemberMapping.Proofs.Calls
import MemberMapping.Proofs.PathTexts
import MemberMapping.Proofs.ResolverCalls

/-!
What a nested mapping is called for.

A member, or the elements of one, are mapped where the declaration of their type names the type
that they are mapped from. Only the definition names of the two are compared. So the source has the
right scope and name, and whatever arguments.
-/

namespace MemberMapping

namespace Resolver

variable {s : Schema} {target : TypeDef} {r : Resolver}

lemma conversion?_of_resolvePair {member source : Member} {reports : Bool} {entry : MappedMember}
    (mapped : (resolvePair s target r member source reports).1 = some entry) :
    ∃ c, s.conversion? source member = some c ∧ entry = mappedMember member source c := by
  by_cases clean : r.diagnostics = []
  · rw [resolvePair_of_clean s target member source reports clean] at mapped
    cases conversion : s.conversion? source member with
    | none => rw [conversion] at mapped; cases mapped
    | some c =>
      rw [conversion] at mapped
      exact ⟨c, rfl, (Option.some.inj mapped).symm⟩
  · rw [resolvePair, conversion_of_failed s target member source clean] at mapped
    by_cases direct : s.isCompatible source.ty member.ty = true
    · rw [if_pos direct] at mapped
      exact ⟨.direct, by rw [Schema.conversion?, if_pos direct], (Option.some.inj mapped).symm⟩
    · rw [if_neg direct] at mapped
      cases mapped

lemma conversion?_of_perform {call : Call} {entry : MappedMember}
    (yields : (r.perform s target call).1.mapping? = some entry) :
    ∃ member source c, s.conversion? source member = some c ∧
      entry = mappedMember member source c := by
  cases call with
  | resolve member candidates =>
    simp only [perform, resolve] at yields
    cases found : findSource? candidates member with
    | none => simp [found, Answer.mapping?] at yields
    | some source =>
      simp only [found] at yields
      cases answer : resolvePair s target r member source true with
      | mk outcome after =>
        cases outcome with
        | none => simp [answer, Answer.mapping?] at yields
        | some mapped =>
          obtain rfl : mapped = entry := by simpa [answer, Answer.mapping?] using yields
          exact ⟨member, source, conversion?_of_resolvePair (congrArg Prod.fst answer)⟩
  | resolveReverse source targets =>
    simp only [perform, resolveReverse] at yields
    cases found : findTarget? targets source with
    | none => simp [found, Answer.mapping?] at yields
    | some member =>
      simp only [found] at yields
      exact ⟨member, source, conversion?_of_resolvePair yields⟩
  | report | register | registerTy => cases yields

/-- A fresh resolver maps a member of the one type from a candidate of the other: directly, or by
the mapping of its type. -/
def Accepts (s : Schema) (target : TypeDef) (ty source : Ty) : Prop :=
  ∀ member candidate : Member, member.ty = ty → candidate.ty = source → member.converter? = none →
    candidate.name = member.lookupName →
    ∃ c, (c = .direct ∨ c = .nested source) ∧
      ((initial s target).resolve s target member [candidate]).1 =
        .mapped (mappedMember member candidate c)

lemma accepts_of_mappedFrom {ty source : Ty} (mapped : s.MappedFrom ty source) :
    Accepts s target ty source := by
  rintro member candidate rfl rfl plain named
  have found : findSource? [candidate] member = some candidate := by
    rw [findSource?, List.find?_cons, beq_iff_eq.mpr named]
  have converted : ∃ c, (c = .direct ∨ c = .nested candidate.ty) ∧
      s.conversion? candidate member = some c := by
    rw [Schema.conversion?, plain]
    by_cases direct : s.isCompatible candidate.ty member.ty = true
    · exact ⟨.direct, Or.inl rfl, if_pos direct⟩
    · exact ⟨.nested candidate.ty, Or.inr rfl, by rw [if_neg direct]; exact if_pos mapped⟩
  obtain ⟨c, form, conversion⟩ := converted
  refine ⟨c, form, ?_⟩
  rw [resolve_of_clean s target member [candidate] rfl, Schema.reading?, found, Option.bind_some,
    conversion, Option.map_some]

end Resolver

/-- Where a resolver yields a nested or element-wise mapping, in whatever state and direction, the
declaration of the type that is built names a source of the same definition name. Among names
without colons this is a source of the same scope and name; it is the very type that is handed over
if and only if the arguments are the same. Any other arguments would have been accepted as well. -/
theorem mapped_source_exact_iff {s : Schema} {target : TypeDef} {r : Resolver} {call : Call}
    {entry : MappedMember} {inner : MappingCall}
    (yields : (r.perform s target call).1.mapping? = some entry)
    (calls : entry.call? = some inner) :
    ∃ d path mapped, s.typeOf? inner.target = some d ∧ inner.source = .path path ∧
      d.mapFrom? = some mapped ∧ mapped.definitionName = path.definitionName ∧
      (':' ∉ mapped.name.toList → ':' ∉ path.name.toList →
        mapped.scope = path.scope ∧ mapped.name = path.name ∧
          (mapped = path ↔ mapped.args = path.args)) ∧
      ∀ args, Resolver.Accepts s target inner.target (.path { path with args := args }) := by
  obtain ⟨member, source, c, conversion, rfl⟩ := Resolver.conversion?_of_perform yields
  obtain ⟨path, d, mapped, handed, behind, marked, same⟩ :=
    Schema.mappedFrom_of_conversion? conversion calls
  refine ⟨d, path, mapped, behind, handed, marked, same, ?_, ?_⟩
  · intro plain plain'
    obtain ⟨scope, name⟩ := TypePath.eq_of_definitionName plain plain' same
    refine ⟨scope, name, fun equal => by rw [equal], fun args => ?_⟩
    cases mapped
    cases path
    cases scope
    cases name
    cases args
    rfl
  · intro args
    -- Arguments do not take part in a definition name.
    exact Resolver.accepts_of_mappedFrom
      ⟨{ path with args := args }, d, mapped, rfl, behind, marked, same⟩

/-- What a page holds is left open. -/
def page : TypeDef :=
  { path := .plain ⟨"app"⟩ "Page"
    kind := .structType
    members := [{ name := "number", ty := .primitive .i32 }] }

def pageOf (content : Ty) : Ty := .path ⟨⟨"app"⟩, "Page", [content]⟩

def pageView : TypeDef :=
  { path := .plain ⟨"app"⟩ "PageView"
    kind := .structType
    members := [{ name := "number", ty := .primitive .i32 }]
    markers := [.mapFrom ⟨⟨"app"⟩, "Page", [.primitive .i32]⟩] }

def textPage : Member :=
  { name := "page", ty := pageOf (.primitive .string), declaredIn := "app::Book" }

def viewedPage : Member :=
  { name := "page", ty := pageView.ty, declaredIn := "app::BookView" }

def book : TypeDef :=
  { path := .plain ⟨"app"⟩ "Book"
    kind := .structType
    members := [textPage] }

def bookView : TypeDef :=
  { path := .plain ⟨"app"⟩ "BookView"
    kind := .structType
    members := [viewedPage]
    markers := [.mapFrom book.path] }

def shelf : Builder := { types := [page, pageView, book, bookView] }

def shelfSchema : Schema := { known := {}, types := shelf.types.map TypeDef.stamped }

def numberPage : Member :=
  { textPage with ty := pageOf (.primitive .i32) }

def numberCall : MappingCall := ⟨pageView.ty, numberPage.ty⟩

/-- Asked for what is written from a page that holds a number, a resolver answers with a call of the
view for exactly its source. -/
theorem number_page_exact :
    ∃ entry, ((Resolver.initial shelfSchema bookView).perform shelfSchema bookView
        (.resolveReverse numberPage [viewedPage])).1.mapping? = some entry ∧
      entry.call? = some numberCall ∧
      ∃ d mapped, shelfSchema.typeOf? numberCall.target = some d ∧ d.mapFrom? = some mapped ∧
        numberCall.source = .path mapped := by
  have yields : ((Resolver.initial shelfSchema bookView).perform shelfSchema bookView
      (.resolveReverse numberPage [viewedPage])).1.mapping? =
        some (mappedMember viewedPage numberPage (.nested numberPage.ty)) := by rfl
  have calls : (mappedMember viewedPage numberPage (.nested numberPage.ty)).call? =
      some numberCall := by rfl
  obtain ⟨d, path, mapped, behind, handed, marked, _, exact_iff, _⟩ :=
    mapped_source_exact_iff yields calls
  obtain rfl : pageView.stamped = d := by
    have declared : shelfSchema.typeOf? numberCall.target = some pageView.stamped := by rfl
    exact Option.some.inj (declared.symm.trans behind)
  cases handed
  cases marked
  have same := (exact_iff (by decide) (by decide)).2.2.mpr rfl
  exact ⟨_, yields, calls, _, _, behind, rfl, by rw [same]; rfl⟩

/-- The view of a page of numbers is called for a page of text. -/
theorem text_page_accepted :
    shelf.build = .ok shelfSchema ∧
    ∃ model entry mapped, assemble shelfSchema bookView.stamped {} = .ok model ∧
      entry ∈ model.sourceMembers ∧
      ((Resolver.initial shelfSchema bookView).resolve shelfSchema bookView viewedPage
        [textPage]).1 = .mapped entry ∧
      entry.call? = some ⟨pageView.ty, pageOf (.primitive .string)⟩ ∧
      shelfSchema.typeOf? pageView.ty = some pageView.stamped ∧
      pageView.stamped.mapFrom? = some mapped ∧ pageOf (.primitive .string) ≠ .path mapped := by
  have ready : assemble shelfSchema bookView.stamped {} =
      .ok (shelfSchema.plan bookView.stamped book.stamped {}) := by rfl
  exact ⟨by rfl, _, _, _, ready, .head _, by rfl, by rfl, by rfl, by rfl, by decide⟩

end MemberMapping
