import Mathlib.Data.List.Basic
import MemberMapping.Inventory.Names

/-!
Paths as text and as names.

Names without colons that are joined by `::` can be read back. So a path that is compared as text is
compared by its names, up to one place: where it has to end in others, the first of these may be the
end of a longer name. A definition name can be read back as well, to the scope and the name.
-/

namespace MemberMapping

/-- A name that can stand between `::`, as every identifier can. -/
def IsSegment (name : String) : Prop :=
  name ≠ "" ∧ ':' ∉ name.toList

instance : DecidablePred IsSegment := fun _ => inferInstanceAs (Decidable (_ ∧ _))

lemma IsSegment.head? {name : String} (solid : IsSegment name) (rest : List Char) :
    (name.toList ++ rest).head? ≠ some ':' := by
  cases letters : name.toList with
  | nil => exact absurd (String.toList_eq_nil_iff.mp letters) solid.1
  | cons c more =>
    rintro ⟨⟩
    exact solid.2 (letters ▸ List.mem_cons_self)

lemma IsSegment.getLast? {name : String} (solid : IsSegment name) (front : List Char) :
    (front ++ name.toList).getLast? ≠ some ':' := by
  have filled : name.toList ≠ [] := fun empty => solid.1 (String.toList_eq_nil_iff.mp empty)
  rw [List.getLast?_append_of_ne_nil front filled]
  exact fun last => solid.2 (List.mem_of_getLast? last)

namespace Namespace

/-! ## Pieces of a text -/

lemma splitPath_cons {c : Char} {path : List Char}
    (inner : ∀ rest, c = ':' → path = ':' :: rest → False) {piece : List Char}
    {pieces : List (List Char)} (known : splitPath path = piece :: pieces) :
    splitPath (c :: path) = (c :: piece) :: pieces := by
  rw [splitPath, known]
  exact inner

/-- What stands before a text is cut apart from it, and at its end goes to the first piece. -/
lemma splitPath_append {text : List Char} (solid : text.head? ≠ some ':') (before : List Char)
    {first : List Char} {rest : List (List Char)} (pieces : splitPath text = first :: rest) :
    ∃ front more, splitPath (before ++ text) = front ++ (more ++ first) :: rest := by
  fun_induction splitPath before with
  | case1 => exact ⟨[], [], pieces⟩
  | case2 before ih =>
    obtain ⟨front, more, split⟩ := ih
    exact ⟨[] :: front, more, by rw [List.cons_append, List.cons_append, splitPath, split]; rfl⟩
  | case3 c before inner _ ih | case4 c before inner _ _ _ ih =>
    obtain ⟨front, more, split⟩ := ih
    have still : ∀ rest, c = ':' → before ++ text = ':' :: rest → False := by
      intro rest colon begins
      cases before with
      | nil => exact solid (by rw [List.nil_append] at begins; rw [begins]; rfl)
      | cons d before =>
        obtain ⟨rfl, -⟩ := List.cons.inj begins
        exact inner before colon rfl
    cases front with
    | nil => exact ⟨[], c :: more, splitPath_cons still split⟩
    | cons piece front => exact ⟨(c :: piece) :: front, more, splitPath_cons still split⟩

lemma splitPath_name {name : List Char} (solid : ':' ∉ name) : splitPath name = [name] := by
  induction name with
  | nil => rfl
  | cons c name ih =>
    have other : c ≠ ':' := (List.ne_of_not_mem_cons solid).symm
    exact splitPath_cons (fun _ colon => absurd colon other)
      (ih (List.not_mem_of_not_mem_cons solid))

lemma splitPath_name_append {name : List Char} (solid : ':' ∉ name) (path : List Char) :
    splitPath (name ++ ':' :: ':' :: path) = name :: splitPath path := by
  induction name with
  | nil => rfl
  | cons c name ih =>
    have other : c ≠ ':' := (List.ne_of_not_mem_cons solid).symm
    exact splitPath_cons (fun _ colon => absurd colon other)
      (ih (List.not_mem_of_not_mem_cons solid))

lemma splitPath_intercalate {names : List String} (filled : names ≠ [])
    (solid : ∀ name ∈ names, IsSegment name) :
    splitPath ("::".intercalate names).toList = names.map String.toList := by
  induction names with
  | nil => exact absurd rfl filled
  | cons name names ih =>
    obtain ⟨own, others⟩ := List.forall_mem_cons.mp solid
    cases names with
    | nil => simpa using splitPath_name own.2
    | cons next names =>
      have joined : ("::".intercalate (name :: next :: names)).toList =
          name.toList ++ ':' :: ':' :: ("::".intercalate (next :: names)).toList := by
        rw [String.intercalate_cons_cons, String.toList_append, String.toList_append,
          List.append_assoc]
        rfl
      rw [joined, splitPath_name_append own.2, ih (List.cons_ne_nil _ _) others]
      rfl

/-! ## Paths of names -/

lemma exists_intercalate_cons (name : String) (names : List String) :
    ∃ rest, ("::".intercalate (name :: names)).toList = name.toList ++ rest := by
  cases names with
  | nil => exact ⟨[], by simp⟩
  | cons next names =>
    refine ⟨("::" ++ "::".intercalate (next :: names)).toList, ?_⟩
    rw [String.intercalate_cons_cons, String.append_assoc, String.toList_append]

lemma exists_intercalate_append (front : List String) {names : List String} (filled : names ≠ []) :
    ∃ before, "::".intercalate (front ++ names) = before ++ "::".intercalate names := by
  by_cases alone : front = []
  · exact ⟨"", by rw [alone, List.nil_append, String.empty_append]⟩
  · exact ⟨_, String.intercalate_append_of_ne_nil alone filled⟩

lemma dropWhile_of_head? {path : List Char} (solid : path.head? ≠ some ':') :
    path.dropWhile (· == ':') = path := by
  cases path with
  | nil => rfl
  | cons c path =>
    rw [List.dropWhile_cons, beq_false_of_ne fun colon => solid (congrArg some colon)]
    rfl

lemma ofText_eq {text : String} (begins : text.toList.head? ≠ some ':')
    (ends : text.toList.getLast? ≠ some ':') : ofText text = ⟨text⟩ := by
  have back : text.toList.reverse.head? ≠ some ':' := by rwa [List.head?_reverse]
  rw [ofText, trimColons, dropWhile_of_head? begins, dropWhile_of_head? back, List.reverse_reverse,
    String.ofList_toList]

lemma ofNames_eq {names : List String} (solid : ∀ name ∈ names, IsSegment name) :
    ofNames names = ⟨"::".intercalate names⟩ := by
  rcases names.eq_nil_or_concat' with rfl | ⟨front, last, rfl⟩
  · rfl
  · refine ofText_eq ?_ ?_
    · cases front with
      | nil => simpa using (solid last (by simp)).head? []
      | cons first front =>
        obtain ⟨rest, letters⟩ := exists_intercalate_cons first (front ++ [last])
        rw [List.cons_append, letters]
        exact (solid first (by simp)).head? rest
    · obtain ⟨before, letters⟩ := exists_intercalate_append front (List.cons_ne_nil last [])
      rw [letters, String.toList_append, String.intercalate_singleton]
      exact (solid last (by simp)).getLast? before.toList

lemma segments_ofNames {names : List String} (solid : ∀ name ∈ names, IsSegment name) :
    (ofNames names).segments = names := by
  rw [ofNames_eq solid, segments]
  by_cases filled : names = []
  · rw [filled]; rfl
  · have kept : (names.map String.toList).filter (· ≠ []) = names.map String.toList := by
      refine List.filter_eq_self.mpr fun letters present => ?_
      obtain ⟨name, among, rfl⟩ := List.mem_map.mp present
      simpa using (solid name among).1
    rw [splitPath_intercalate filled solid, kept, List.map_map]
    simp

lemma ofNames_isGlobal {names : List String} (filled : names ≠ [])
    (solid : ∀ name ∈ names, IsSegment name) : (ofNames names).isGlobal = false := by
  cases global : (ofNames names).isGlobal with
  | false => rfl
  | true =>
    have outside : ofNames names = ofNames [] := by
      rw [isGlobal, beq_iff_eq] at global
      exact congrArg Namespace.mk global
    have none := congrArg segments outside
    rw [segments_ofNames solid, segments_ofNames (by simp)] at none
    exact absurd none filled

def IsPath (scope : Namespace) : Prop :=
  ∃ names, (∀ name ∈ names, IsSegment name) ∧ scope = ofNames names

/-- The path ends in the names, but the first of them is only the end of a longer name. -/
def EndsInside (scope : Namespace) (written : List String) : Prop :=
  ∃ front more first rest, more ≠ "" ∧ written = first :: rest ∧
    scope.segments = front ++ (more ++ first) :: rest

/-- A path of names does not end in names both as a whole and inside a name. -/
lemma not_endsInside_of_suffix {scope : Namespace} {written : List String}
    (suffix : written <:+ scope.segments) : ¬ scope.EndsInside written := by
  rintro ⟨front, more, first, rest, longer, rfl, path⟩
  obtain ⟨front', path'⟩ := suffix
  obtain ⟨-, same⟩ := List.append_inj' (path'.trans path) rfl
  have length := congrArg String.length (List.cons.inj same).1
  rw [String.length_append] at length
  exact longer (String.length_eq_zero_iff.mp (by omega))

end Namespace

/-- Names joined by `::` end in others as text exactly if they end in these, of which the first may
be the end of a longer name. -/
lemma Namespace.text_suffix_iff {names rest : List String} {first : String}
    (plain : ∀ name ∈ names, IsSegment name) (solid : ∀ name ∈ first :: rest, IsSegment name) :
    ("::".intercalate (first :: rest)).toList <:+ ("::".intercalate names).toList ↔
      ∃ front more, names = front ++ (more ++ first) :: rest := by
  obtain ⟨letters, begins⟩ := exists_intercalate_cons first rest
  have head := (List.forall_mem_cons.mp solid).1.head? letters
  constructor
  · rintro ⟨before, whole⟩
    have filled : names ≠ [] := by
      rintro rfl
      rw [String.intercalate_nil, String.toList_empty, begins] at whole
      have empty := (List.append_eq_nil_iff.mp (List.append_eq_nil_iff.mp whole).2).1
      exact (List.forall_mem_cons.mp solid).1.1 (String.toList_eq_nil_iff.mp empty)
    obtain ⟨front, more, split⟩ := splitPath_append (by rw [begins]; exact head) before
      (splitPath_intercalate (List.cons_ne_nil first rest) solid)
    rw [whole, splitPath_intercalate filled plain] at split
    obtain ⟨front, others, rfl, rfl, behind⟩ := List.map_eq_append_iff.mp split
    obtain ⟨name, rest', rfl, called, same⟩ := List.map_eq_cons_iff.mp behind
    obtain rfl := List.map_injective_iff.mpr (fun _ _ => String.toList_injective) same
    have joined : name = String.ofList more ++ first := by
      rw [← String.toList_inj, called, String.toList_append, String.toList_ofList]
    exact ⟨front, String.ofList more, by rw [joined]⟩
  · rintro ⟨front, more, rfl⟩
    obtain ⟨before, whole⟩ := exists_intercalate_append front
      (List.cons_ne_nil (more ++ first) rest)
    refine ⟨(before ++ more).toList, ?_⟩
    rw [whole, String.intercalate_cons_append, ← String.append_assoc, ← String.toList_append]

lemma DeclaredNames.endsWith_iff {scope : Namespace} (path : scope.IsPath) {written : List String}
    (filled : written ≠ []) (solid : ∀ name ∈ written, IsSegment name) :
    endsWith scope (.ofNames written) = true ↔
      written <:+ scope.segments ∨ scope.EndsInside written := by
  obtain ⟨names, plain, rfl⟩ := path
  obtain ⟨first, rest, rfl⟩ := List.exists_cons_of_ne_nil filled
  rw [endsWith, List.isSuffixOf_iff_suffix, Namespace.ofNames_eq plain, Namespace.ofNames_eq solid]
  refine (Namespace.text_suffix_iff plain solid).trans ?_
  rw [← Namespace.ofNames_eq plain, Namespace.EndsInside, Namespace.segments_ofNames plain]
  constructor
  · rintro ⟨front, more, split⟩
    by_cases whole : more = ""
    · rw [whole, String.empty_append] at split
      exact Or.inl ⟨front, split.symm⟩
    · exact Or.inr ⟨front, more, first, rest, whole, rfl, split⟩
  · rintro (⟨front, split⟩ | ⟨front, more, _, _, -, same, split⟩)
    · exact ⟨front, "", by rw [String.empty_append, split]⟩
    · cases same
      exact ⟨front, more, split⟩

/-! ## Definition names -/

/-- Texts with something else behind the first colon in them agree up to it. -/
lemma eq_of_before_colon {one two rest rest' : List Char} (plain : ':' ∉ one) (plain' : ':' ∉ two)
    (same : one ++ ':' :: rest = two ++ ':' :: rest') : one = two ∧ rest = rest' := by
  induction one generalizing two with
  | nil =>
    cases two with
    | nil => exact ⟨rfl, (List.cons.inj same).2⟩
    | cons c two => exact absurd (List.cons.inj same).1 (List.ne_of_not_mem_cons plain')
  | cons c one ih =>
    cases two with
    | nil => exact absurd (List.cons.inj same).1.symm (List.ne_of_not_mem_cons plain)
    | cons d two =>
      obtain ⟨rfl, further⟩ := List.cons.inj same
      obtain ⟨rfl, behind⟩ := ih (List.not_mem_of_not_mem_cons plain)
        (List.not_mem_of_not_mem_cons plain') further
      exact ⟨rfl, behind⟩

lemma TypePath.definitionName_of_global {path : TypePath} (outside : path.scope.isGlobal = true) :
    path.definitionName = path.name := by
  rw [definitionName, if_pos outside]

lemma TypePath.toList_definitionName {path : TypePath} (inside : path.scope.isGlobal = false) :
    path.definitionName.toList = path.scope.text.toList ++ ':' :: ':' :: path.name.toList := by
  rw [definitionName, inside, if_neg (by decide), String.toList_append, String.toList_append,
    List.append_assoc]
  rfl

lemma TypePath.definitionName_ne_name {path : TypePath} (inside : path.scope.isGlobal = false)
    {name : String} (plain : ':' ∉ name.toList) : path.definitionName ≠ name := by
  rintro rfl
  rw [toList_definitionName inside] at plain
  exact plain (List.mem_append_right _ List.mem_cons_self)

/-- Where names have no colons, a definition name tells scope and name. -/
lemma TypePath.eq_of_definitionName {one two : TypePath} (plain : ':' ∉ one.name.toList)
    (plain' : ':' ∉ two.name.toList) (same : one.definitionName = two.definitionName) :
    one.scope = two.scope ∧ one.name = two.name := by
  cases outside : one.scope.isGlobal with
  | true =>
    rw [definitionName_of_global outside] at same
    cases outside' : two.scope.isGlobal with
    | true =>
      rw [Namespace.isGlobal, beq_iff_eq] at outside outside'
      rw [definitionName_of_global (by rw [Namespace.isGlobal, outside']; rfl)] at same
      exact ⟨congrArg Namespace.mk (outside.trans outside'.symm), same⟩
    | false => exact absurd same.symm (definitionName_ne_name outside' plain)
  | false =>
    cases outside' : two.scope.isGlobal with
    | true =>
      rw [definitionName_of_global outside'] at same
      exact absurd same (definitionName_ne_name outside plain')
    | false =>
      -- Read from the end, what stands before the first colon is the name.
      have letters := congrArg (fun name => name.toList.reverse) same
      simp only [toList_definitionName outside, toList_definitionName outside',
        List.reverse_append, List.reverse_cons, List.append_assoc, List.singleton_append] at letters
      obtain ⟨name, rest⟩ := eq_of_before_colon (by rwa [List.mem_reverse])
        (by rwa [List.mem_reverse]) letters
      have scope := List.reverse_inj.mp (List.cons.inj rest).2
      exact ⟨congrArg Namespace.mk (String.toList_inj.mp scope),
        String.toList_inj.mp (List.reverse_inj.mp name)⟩

end MemberMapping
