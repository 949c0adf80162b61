import MemberMapping.Proofs.PathTexts
import MemberMapping.Proofs.RootedPaths

/-!
What is written before a name that several modules declare.

The names before it pick out a module where its path is the only one that ends in them. The lookup
goes by text, though, and takes the first module whose path ends in what is written. So a module
that comes before is taken for the one that is meant if its path ends inside a name.
-/

namespace MemberMapping

namespace DeclaredNames

/-- Of the modules that declare a name, that at `scope` is the only one whose path ends in the names
written before it. -/
structure PicksOut (names : DeclaredNames) (name : String) (written : List String)
    (scope : Namespace) : Prop where
  filled : written ≠ []
  solid : ∀ segment ∈ written, IsSegment segment
  paths : ∀ other ∈ names.scopesOf name, other.IsPath
  declared : scope ∈ names.scopesOf name
  ends : written <:+ scope.segments
  alone : ∀ other ∈ names.scopesOf name, written <:+ other.segments → other = scope

variable {names reordered : DeclaredNames} {current scope other : Namespace} {name : String}
  {written : List String}

lemma mem_scopesOf_iff : scope ∈ names.scopesOf name ↔ (name, scope) ∈ names := by
  rw [scopesOf, List.mem_map]
  constructor
  · rintro ⟨⟨_, _⟩, listed, rfl⟩
    obtain ⟨present, same⟩ := List.mem_filter.mp listed
    cases beq_iff_eq.mp same
    exact present
  · intro present
    exact ⟨(name, scope), List.mem_filter.mpr ⟨present, beq_iff_eq.mpr rfl⟩, rfl⟩

lemma scopesOf_perm (order : reordered.Perm names) :
    (reordered.scopesOf name).Perm (names.scopesOf name) :=
  (order.filter _).map _

/-- Whether a module is picked out does not depend on the order of the declarations. -/
lemma PicksOut.of_perm (picked : names.PicksOut name written scope)
    (order : reordered.Perm names) : reordered.PicksOut name written scope := by
  have same : (reordered.scopesOf name).Perm (names.scopesOf name) := scopesOf_perm order
  exact
    { filled := picked.filled
      solid := picked.solid
      paths := fun other listed => picked.paths other (same.mem_iff.mp listed)
      declared := same.mem_iff.mpr picked.declared
      ends := picked.ends
      alone := fun other listed => picked.alone other (same.mem_iff.mp listed) }

/-- The text of a path other than the one that is meant ends in what is written only inside a
name. -/
lemma PicksOut.endsWith_iff (picked : names.PicksOut name written scope)
    (listed : other ∈ names.scopesOf name) :
    endsWith other (.ofNames written) = true ↔ other = scope ∨ other.EndsInside written := by
  rw [DeclaredNames.endsWith_iff (picked.paths other listed) picked.filled picked.solid]
  refine or_congr_left ⟨picked.alone other listed, ?_⟩
  rintro rfl
  exact picked.ends

/-- The module that is picked out is found unless one before it ends inside a name. -/
lemma PicksOut.scopeOf_eq_iff (picked : names.PicksOut name written scope) :
    names.scopeOf current (.ofNames written) name = scope ↔
      ∃ before after, names.scopesOf name = before ++ scope :: after ∧
        ∀ other ∈ before, ¬ other.EndsInside written := by
  have outside := Namespace.ofNames_isGlobal picked.filled picked.solid
  have own := (picked.endsWith_iff picked.declared).mpr (Or.inl rfl)
  rw [DeclaredNames.scopeOf_eq_iff outside picked.declared]
  constructor
  · rintro (all | ⟨order, _, first⟩ | ⟨unmatched, _⟩ | ⟨unmatched, _, _⟩)
    · obtain ⟨before, after, order⟩ := List.append_of_mem picked.declared
      refine ⟨before, after, order, fun other among => ?_⟩
      rw [all other (order ▸ List.mem_append_left _ among)]
      exact Namespace.not_endsInside_of_suffix picked.ends
    · refine ⟨_, _, order, fun other among inside => ?_⟩
      have matched :=
        (picked.endsWith_iff (order ▸ List.mem_append_left _ among)).mpr (Or.inr inside)
      rw [first other among] at matched
      cases matched
    · rw [unmatched _ picked.declared] at own
      cases own
    · rw [unmatched _ picked.declared] at own
      cases own
  · rintro ⟨before, after, order, clear⟩
    -- The module may be declared there more than once; what counts is its first declaration.
    obtain ⟨front, later, split, new⟩ :=
      List.eq_append_cons_of_mem (List.mem_append_right before (List.mem_singleton.mpr rfl))
    have listed : names.scopesOf name = front ++ scope :: (later ++ after) := by
      rw [order, ← List.singleton_append, ← List.append_assoc, split, List.append_assoc,
        List.cons_append]
    refine .ending listed own fun other among => Bool.eq_false_iff.mpr fun matched => ?_
    have apart : other ≠ scope := fun same => new (same ▸ among)
    have earlier : other ∈ before := by
      have present : other ∈ before ++ [scope] := split ▸ List.mem_append_left _ among
      simpa [apart] using present
    rcases (picked.endsWith_iff (order ▸ List.mem_append_left _ earlier)).mp matched with
      same | inside
    · exact apart same
    · exact clear other earlier inside

/-- Where names written before a name pick out a module, the name refers to its type exactly if no
module that is declared before it has a path that ends in them inside a name. So it does in every
order of the declarations exactly if no module at all has. -/
theorem written_names_find_iff {path : PathExpr} {last : String}
    (spelled : path.segments.map Segment.name = written ++ [last])
    (picked : names.PicksOut last written scope) :
    (path.typePath names current).name = last ∧
    ((path.typePath names current).scope = scope ↔
      ∃ before after, names.scopesOf last = before ++ scope :: after ∧
        ∀ other ∈ before, ¬ other.EndsInside written) ∧
    ((∀ reordered : DeclaredNames, reordered.Perm names →
        (path.typePath reordered current).scope = scope) ↔
      ∀ other ∈ names.scopesOf last, ¬ other.EndsInside written) := by
  have found := fun table => PathExpr.typePath_eq table current spelled
  refine ⟨(found names).2, by rw [(found names).1, picked.scopeOf_eq_iff], ?_⟩
  constructor
  · intro always other listed inside
    -- The other module is declared before all else.
    have moved : List.Perm ((last, other) :: names.erase (last, other)) names :=
      (List.perm_cons_erase (mem_scopesOf_iff.mp listed)).symm
    have missed := always _ moved
    rw [(found _).1, (picked.of_perm moved).scopeOf_eq_iff] at missed
    obtain ⟨before, after, order, clear⟩ := missed
    simp only [scopesOf, List.filter_cons, beq_self_eq_true, if_true, List.map_cons] at order
    cases before with
    | nil =>
      obtain ⟨rfl, -⟩ := List.cons.inj order
      exact Namespace.not_endsInside_of_suffix picked.ends inside
    | cons head before =>
      obtain ⟨rfl, -⟩ := List.cons.inj order
      exact clear other List.mem_cons_self inside
  · intro clear reordered order
    have picked' := picked.of_perm order
    obtain ⟨before, after, split⟩ := List.append_of_mem picked'.declared
    rw [(found reordered).1, picked'.scopeOf_eq_iff]
    refine ⟨before, after, split, fun other among => clear other ?_⟩
    have listed : other ∈ reordered.scopesOf last := split ▸ List.mem_append_left _ among
    exact (scopesOf_perm order).mem_iff.mp listed

end DeclaredNames

/-- An item that is ordered again, an item in stock, and a view of the one in stock. -/
def depot : List Item :=
  [.module [] [] "restock" [] [.struct ⟨[], [], "Item", [], [], .unit⟩],
    .module [] [] "stock" [] [.struct ⟨[], [], "Item", [], [], .unit⟩],
    .struct ⟨[⟨⟨false, ["map_from"]⟩, .arguments .paren
      (.ident "stock" :: Token.operator "::" ++ [.ident "Item"])⟩], [], "ItemView", [], [], .unit⟩]

def depotNames : DeclaredNames :=
  [("Item", ⟨"crate::restock"⟩), ("Item", ⟨"crate::stock"⟩), ("ItemView", crateRoot)]

lemma depotNames_paths : ∀ other ∈ depotNames.scopesOf "Item", other.IsPath := by
  intro other listed
  have paths : depotNames.scopesOf "Item" =
      [.ofNames ["crate", "restock"], .ofNames ["crate", "stock"]] := by decide +kernel
  rw [paths, List.mem_pair] at listed
  rcases listed with rfl | rfl
  · exact ⟨_, by decide, rfl⟩
  · exact ⟨_, by decide, rfl⟩

/-- The path `restock::Item` refers to the type that it picks out, whatever is declared first. -/
theorem restock_path_finds :
    depotNames.PicksOut "Item" ["restock"] ⟨"crate::restock"⟩ ∧
    ∀ reordered : DeclaredNames, reordered.Perm depotNames →
      (PathExpr.typePath reordered crateRoot ⟨false, [.plain "restock", .plain "Item"]⟩).scope =
        ⟨"crate::restock"⟩ := by
  have picked : depotNames.PicksOut "Item" ["restock"] ⟨"crate::restock"⟩ :=
    ⟨by decide, by decide, depotNames_paths, by decide, by decide +kernel, by decide +kernel⟩
  refine ⟨picked, (DeclaredNames.written_names_find_iff rfl picked).2.2.mpr ?_⟩
  have ends : ∀ other ∈ depotNames.scopesOf "Item",
      DeclaredNames.endsWith other (.ofNames ["restock"]) = true → other = ⟨"crate::restock"⟩ := by
    decide +kernel
  intro other listed inside
  have meant := ends other listed ((picked.endsWith_iff listed).mpr (Or.inr inside))
  exact Namespace.not_endsInside_of_suffix picked.ends (meant ▸ inside)

/-- The path `stock::Item` picks out the item in stock, and refers to the one that is ordered again,
from which the view is mapped. -/
theorem stock_path_misses :
    Survey.declaredNames (scopedItems crateRoot depot) = depotNames ∧
    depotNames.PicksOut "Item" ["stock"] ⟨"crate::stock"⟩ ∧
    PathExpr.typePath depotNames crateRoot ⟨false, [.plain "stock", .plain "Item"]⟩ =
      .plain ⟨"crate::restock"⟩ "Item" ∧
    ((Inventory.ofItems crateRoot depot).toOption.bind fun inv =>
        (inv.schema.find? "crate::ItemView").bind TypeDef.mapFrom?) =
      some (.plain ⟨"crate::restock"⟩ "Item") := by
  have picked : depotNames.PicksOut "Item" ["stock"] ⟨"crate::stock"⟩ :=
    ⟨by decide, by decide, depotNames_paths, by decide, by decide +kernel, by decide +kernel⟩
  exact ⟨by decide +kernel, picked, by decide +kernel, by decide +kernel⟩

end MemberMapping
