import Mathlib.Data.List.Sort
import Mathlib.Data.List.TakeWhile
import MemberMapping.Expansion.MappingCode
import MemberMapping.Proofs.FieldNames

/-!
The characters of names that are made of other names.

Every character that an identifier can go on with stays one in lowercase and in uppercase. So names
made of the words of an identifier go on like identifiers, and only with their first character can
they fail to be one.
-/

namespace MemberMapping

namespace Text

/-! ## Tables of code points -/

/-- One range of the table holds all code points from the first to the last. -/
def CodePoints.covers (table : CodePoints) (first last : Nat) : Bool :=
  table.any fun range => Nat.ble range.1 first && Nat.ble last range.2

lemma CodePoints.exists_of_covers {table : CodePoints} {first last : Nat}
    (covered : table.covers first last = true) :
    ∃ range ∈ table, range.1 ≤ first ∧ last ≤ range.2 := by
  obtain ⟨range, listed, bounds⟩ := List.any_eq_true.mp covered
  rw [Bool.and_eq_true] at bounds
  exact ⟨range, listed, Nat.le_of_ble_eq_true bounds.1, Nat.le_of_ble_eq_true bounds.2⟩

/-- Every range lies within one of the table. Both are gone through once, in ascending order. -/
def CodePoints.within : CodePoints → CodePoints → Bool
  | ranges, [] => ranges.isEmpty
  | ranges, outer :: rest =>
    match ranges.dropWhile fun range => covers [outer] range.1 range.2 with
    | [] => true
    | range :: later => CodePoints.within (range :: later) rest

lemma CodePoints.exists_of_within {ranges table : CodePoints}
    (inside : ranges.within table = true) {range : Nat × Nat} (listed : range ∈ ranges) :
    ∃ outer ∈ table, outer.1 ≤ range.1 ∧ range.2 ≤ outer.2 := by
  induction table generalizing ranges with
  | nil =>
    rw [List.isEmpty_iff.mp inside] at listed
    cases listed
  | cons outer rest ih =>
    let here := fun range : Nat × Nat => covers [outer] range.1 range.2
    rw [← List.takeWhile_append_dropWhile (p := here) (l := ranges)] at listed
    rcases List.mem_append.mp listed with first | later
    · have covered := List.mem_takeWhile_imp (p := here) first
      obtain ⟨other, same, bounds⟩ := exists_of_covers covered
      exact ⟨other, List.mem_cons.mpr (.inl (List.mem_singleton.mp same)), bounds⟩
    · rw [CodePoints.within] at inside
      split at inside
      · rename_i none
        rw [none] at later
        cases later
      · rename_i next others left
        obtain ⟨other, known, bounds⟩ := ih inside (left ▸ later)
        exact ⟨other, List.mem_cons_of_mem outer known, bounds⟩

lemma toNat_ofNat {n : Nat} (valid : n.isValidChar) : (Char.ofNat n).toNat = n := by
  rw [Char.ofNat, dif_pos valid]
  rfl

lemma identifierParts_valid : ∀ range ∈ identifierParts,
    128 ≤ range.1 ∧ (range.2 < 0xd800 ∨ 0xdfff < range.1 ∧ range.2 < 0x110000) := by
  decide +kernel

lemma isIdentifierPart_of_range {range : Nat × Nat} (listed : range ∈ identifierParts) {n : Nat}
    (low : range.1 ≤ n) (high : n ≤ range.2) : isIdentifierPart (Char.ofNat n) = true := by
  obtain ⟨beyond, valid⟩ := identifierParts_valid range listed
  have code : (Char.ofNat n).toNat = n := toNat_ofNat (by rw [Nat.isValidChar]; omega)
  rw [isIdentifierPart, code, if_neg (by omega), CodePoints.contains, List.any_eq_true]
  refine ⟨range, listed, ?_⟩
  rw [code, Bool.and_eq_true, decide_eq_true_iff, decide_eq_true_iff]
  omega

/-- The code point is that of a character in identifiers. -/
def isPartCode (n : Nat) : Bool :=
  if n < 128 then isIdentifierPart (Char.ofNat n) else identifierParts.covers n n

lemma isIdentifierPart_of_code {n : Nat} (part : isPartCode n = true) :
    isIdentifierPart (Char.ofNat n) = true := by
  rw [isPartCode] at part
  split at part
  · exact part
  · obtain ⟨range, listed, low, high⟩ := CodePoints.exists_of_covers part
    exact isIdentifierPart_of_range listed low high

/-! ## Letter case -/

/-- The code points from the image of the first code point of a row to that of the last. -/
def imageRange : Nat × Nat × Nat × Nat → Nat × Nat
  | (first, last, _, target) => (target, target + (last - first))

/-- A row keeps characters in identifiers: none of its code points is one, or each image is. -/
def rowKeeps : Nat × Nat × Nat × Nat → Bool
  | (first, last, step, target) =>
    (identifierParts.all fun range => Nat.blt range.2 first || Nat.blt last range.1) ||
      (List.range (last - first + 1)).all fun i => i % step != 0 || isPartCode (target + i)

/-- A case table keeps characters in identifiers: the images of all rows are such, but for some rows
that are looked at one by one. -/
def keepsParts (apart ranges : CaseRanges) : Bool :=
  apart.all rowKeeps &&
    CodePoints.within
      (((ranges.filter (!apart.contains ·)).map imageRange).insertionSort (·.1 ≤ ·.1))
      identifierParts

/-- The Kelvin sign is the letter k in lowercase. Two letters are ASCII in uppercase, and of four
Greek ones every second code point counts. Circled letters are in no identifier. -/
lemma caseRanges_keep :
    keepsParts [(8490, 8490, 1, 107), (9398, 9423, 1, 9424)] lowerRanges = true ∧
      keepsParts
        [(305, 305, 1, 73), (383, 383, 1, 83), (8017, 8023, 2, 8025), (9424, 9449, 1, 9398)]
        upperRanges = true := by
  decide +kernel

lemma caseExpansions_parts :
    (lowerExpansions.all fun entry => entry.2.all isPartCode) = true ∧
      (upperExpansions.all fun entry => entry.2.all isPartCode) = true := by
  decide +kernel

lemma image_part_of_rowKeeps {first last step target : Nat} {c : Char}
    (keeps : rowKeeps (first, last, step, target) = true) (part : isIdentifierPart c = true)
    (beyond : ¬ c.toNat < 128) (low : first ≤ c.toNat) (high : c.toNat ≤ last)
    (spaced : (c.toNat - first) % step = 0) :
    isIdentifierPart (Char.ofNat (target + (c.toNat - first))) = true := by
  rw [rowKeeps, Bool.or_eq_true] at keeps
  rcases keeps with apart | each
  · rw [isIdentifierPart, if_neg beyond, CodePoints.contains, List.any_eq_true] at part
    obtain ⟨range, listed, within⟩ := part
    have out := List.all_eq_true.mp apart range listed
    simp only [Bool.and_eq_true, Bool.or_eq_true, decide_eq_true_iff, Nat.blt_eq] at within out
    omega
  · have known := List.all_eq_true.mp each (c.toNat - first) (List.mem_range.mpr (by omega))
    rw [spaced] at known
    exact isIdentifierPart_of_code known

lemma CaseRanges.image_part {apart ranges : CaseRanges} (keep : keepsParts apart ranges = true)
    {c : Char} (part : isIdentifierPart c = true) (beyond : ¬ c.toNat < 128) :
    isIdentifierPart (ranges.image c) = true := by
  rw [image]
  split
  · rename_i first last step target found
    have bounds := List.find?_some found
    simp only [Bool.and_eq_true, decide_eq_true_iff, beq_iff_eq] at bounds
    obtain ⟨⟨low, high⟩, spaced⟩ := bounds
    have listed := List.mem_of_find?_eq_some found
    rw [keepsParts, Bool.and_eq_true, List.all_eq_true] at keep
    by_cases alone : (first, last, step, target) ∈ apart
    · exact image_part_of_rowKeeps (keep.1 _ alone) part beyond low high spaced
    · have among : imageRange (first, last, step, target) ∈
          ((ranges.filter (!apart.contains ·)).map imageRange).insertionSort (·.1 ≤ ·.1) := by
        rw [List.mem_insertionSort]
        exact List.mem_map_of_mem (List.mem_filter.mpr ⟨listed, by simpa using alone⟩)
      obtain ⟨outer, known, least, most⟩ := CodePoints.exists_of_within keep.2 among
      simp only [imageRange] at least most
      exact isIdentifierPart_of_range known (by omega) (by omega)
  · exact part

lemma mem_of_lookup {entries : List (Nat × List Nat)} {n : Nat} {image : List Nat}
    (found : entries.lookup n = some image) : (n, image) ∈ entries := by
  induction entries with
  | nil => cases found
  | cons entry rest ih =>
    obtain ⟨key, value⟩ := entry
    rw [List.lookup_cons] at found
    split at found
    · rename_i same
      cases found
      rw [beq_iff_eq.mp same]
      exact List.mem_cons_self
    · exact List.mem_cons_of_mem _ (ih found)

/-- The image of a character is made of characters in identifiers if the table of ranges keeps such
characters and all expansions are made of them. -/
lemma images_part {expansions : List (Nat × List Nat)} {apart ranges : CaseRanges}
    (expand : (expansions.all fun entry => entry.2.all isPartCode) = true)
    (keep : keepsParts apart ranges = true) {c : Char} (part : isIdentifierPart c = true)
    (beyond : ¬ c.toNat < 128) {d : Char}
    (present : d ∈ match expansions.lookup c.toNat with
      | some image => image.map Char.ofNat
      | none => [ranges.image c]) :
    isIdentifierPart d = true := by
  cases found : expansions.lookup c.toNat with
  | some image =>
    rw [found] at present
    obtain ⟨n, listed, rfl⟩ := List.mem_map.mp present
    have parts := List.all_eq_true.mp expand _ (mem_of_lookup found)
    exact isIdentifierPart_of_code (List.all_eq_true.mp parts n listed)
  | none =>
    rw [found] at present
    rw [List.mem_singleton.mp present]
    exact CaseRanges.image_part keep part beyond

lemma ascii_parts : ∀ n < 128,
    (isIdentifierStart (Char.ofNat n) = true → isIdentifierPart (Char.ofNat n) = true) ∧
      (isIdentifierPart (Char.ofNat n) = true →
        isIdentifierPart (Char.ofNat n).toLower = true ∧
          isIdentifierPart (Char.ofNat n).toUpper = true) := by
  decide +kernel

lemma lowercase_parts {c : Char} (part : isIdentifierPart c = true) :
    ∀ d ∈ lowercase c, isIdentifierPart d = true := by
  intro d present
  rw [lowercase] at present
  split at present
  · rename_i ascii
    rw [List.mem_singleton.mp present, ← Char.ofNat_toNat c]
    exact ((ascii_parts c.toNat ascii).2 ((Char.ofNat_toNat c).symm ▸ part)).1
  · rename_i beyond
    exact images_part caseExpansions_parts.1 caseRanges_keep.1 part beyond present

lemma uppercase_parts {c : Char} (part : isIdentifierPart c = true) :
    ∀ d ∈ uppercase c, isIdentifierPart d = true := by
  intro d present
  rw [uppercase] at present
  split at present
  · rename_i ascii
    rw [List.mem_singleton.mp present, ← Char.ofNat_toNat c]
    exact ((ascii_parts c.toNat ascii).2 ((Char.ofNat_toNat c).symm ▸ part)).2
  · rename_i beyond
    exact images_part caseExpansions_parts.2 caseRanges_keep.2 part beyond present

/-! ## Words -/

/-- Every character is one that an identifier can go on with. -/
def Parts (cs : List Char) : Prop := ∀ c ∈ cs, isIdentifierPart c = true

lemma Parts.append {cs ds : List Char} (front : Parts cs) (back : Parts ds) : Parts (cs ++ ds) :=
  fun c present => (List.mem_append.mp present).elim (front c) (back c)

lemma identifierStarts_within : identifierStarts.within identifierParts = true := by decide +kernel

lemma isIdentifierPart_of_start {c : Char} (start : isIdentifierStart c = true) :
    isIdentifierPart c = true := by
  rw [← Char.ofNat_toNat c] at start ⊢
  by_cases ascii : c.toNat < 128
  · exact (ascii_parts c.toNat ascii).1 start
  · rw [Char.ofNat_toNat, isIdentifierStart, if_neg ascii, CodePoints.contains,
      List.any_eq_true] at start
    obtain ⟨range, listed, within⟩ := start
    rw [Bool.and_eq_true, decide_eq_true_iff, decide_eq_true_iff] at within
    obtain ⟨outer, known, least, most⟩ :=
      CodePoints.exists_of_within identifierStarts_within listed
    exact isIdentifierPart_of_range known (by omega) (by omega)

lemma Parts.of_identifier {cs : List Char} (identifier : isIdentifierText cs = true) :
    Parts cs := by
  cases cs with
  | nil => cases identifier
  | cons first rest =>
    rw [isIdentifierText, Bool.and_eq_true, List.all_eq_true] at identifier
    intro c present
    rcases List.mem_cons.mp present with rfl | later
    · exact isIdentifierPart_of_start identifier.1
    · exact identifier.2 c later

lemma mem_of_splitRuns {cs run : List Char} {c : Char} (among : run ∈ splitRuns cs)
    (present : c ∈ run) : c ∈ cs := by
  induction cs generalizing run with
  | nil =>
    rw [splitRuns, List.mem_singleton] at among
    rw [among] at present
    cases present
  | cons first rest ih =>
    rw [splitRuns] at among
    split at among
    · split at among
      · rw [List.mem_singleton.mp among, List.mem_singleton] at present
        rw [present]
        exact List.mem_cons_self
      · rename_i front others runs
        rcases List.mem_cons.mp among with rfl | later
        · rcases List.mem_cons.mp present with rfl | within
          · exact List.mem_cons_self
          · exact List.mem_cons_of_mem first (ih (runs ▸ List.mem_cons_self) within)
        · exact List.mem_cons_of_mem first (ih (runs ▸ List.mem_cons_of_mem front later) present)
    · rcases List.mem_cons.mp among with rfl | later
      · cases present
      · exact List.mem_cons_of_mem first (ih later present)

/-- Characters of the words of a run are those that its first word begins with, or characters of
the run. -/
lemma mem_of_splitCase {mode : CaseMode} {current cs word : List Char} {c : Char}
    (among : word ∈ splitCase mode current cs) (present : c ∈ word) : c ∈ current ++ cs := by
  fun_induction splitCase mode current cs with
  | case1 mode current =>
    rw [List.mem_singleton.mp among] at present
    rwa [List.append_nil]
  | case2 mode current d =>
    rwa [List.mem_singleton.mp among] at present
  | case3 mode current d next rest _ ih =>
    rw [List.append_cons]
    rcases List.mem_cons.mp among with rfl | later
    · exact List.mem_append_left _ present
    · exact List.mem_append_right _ (ih later)
  | case4 mode current d next rest _ _ ih =>
    rcases List.mem_cons.mp among with rfl | later
    · exact List.mem_append_left _ present
    · exact List.mem_append_right current (ih later)
  | case5 mode current d next rest _ _ ih =>
    rw [List.append_cons]
    exact ih among

lemma words_parts {name : String} (parts : Parts name.toList) {word : List Char}
    (among : word ∈ words name) : Parts word := by
  intro c present
  obtain ⟨run, listed, within⟩ := List.mem_flatMap.mp among
  have held := mem_of_splitCase within present
  rw [List.nil_append] at held
  exact parts c (mem_of_splitRuns (List.mem_filter.mp listed).1 held)

lemma lowerWord_parts {word : List Char} (parts : Parts word) : Parts (lowerWord word) := by
  fun_induction lowerWord word with
  | case1 => exact parts
  | case2 =>
    intro c present
    rw [List.mem_singleton.mp present]
    decide
  | case3 c _ => exact lowercase_parts (parts c List.mem_cons_self)
  | case4 c rest _ ih =>
    exact Parts.append (lowercase_parts (parts c List.mem_cons_self))
      (ih fun d later => parts d (List.mem_cons_of_mem c later))

lemma capitalWord_parts {word : List Char} (parts : Parts word) : Parts (capitalWord word) := by
  cases word with
  | nil => exact parts
  | cons c rest =>
    exact Parts.append (uppercase_parts (parts c List.mem_cons_self))
      (lowerWord_parts fun d later => parts d (List.mem_cons_of_mem c later))

lemma Parts.intercalate {separator : String} (between : Parts separator.toList)
    {texts : List String} (parts : ∀ text ∈ texts, Parts text.toList) :
    Parts (separator.intercalate texts).toList := by
  induction texts with
  | nil => intro c present; cases present
  | cons first rest ih =>
    have later := ih fun text listed => parts text (List.mem_cons_of_mem first listed)
    cases rest with
    | nil => exact parts first List.mem_cons_self
    | cons second others =>
      rw [String.intercalate_cons_cons, String.toList_append, String.toList_append]
      exact ((parts first List.mem_cons_self).append between).append later

lemma snakeCase_parts {name : String} (parts : Parts name.toList) :
    Parts (snakeCase name).toList := by
  refine Parts.intercalate (Parts.of_identifier rfl) ?_
  intro text listed
  obtain ⟨word, among, rfl⟩ := List.mem_map.mp listed
  rw [String.toList_ofList]
  exact lowerWord_parts (words_parts parts among)

lemma camelCase_parts {name : String} (parts : Parts name.toList) :
    Parts (camelCase name).toList := by
  intro c present
  rw [camelCase, String.toList_join] at present
  obtain ⟨text, listed, within⟩ := List.mem_flatMap.mp present
  obtain ⟨word, among, rfl⟩ := List.mem_map.mp listed
  rw [String.toList_ofList] at within
  exact capitalWord_parts (words_parts parts among) c within

/-! ## How names in snake case begin -/

/-- The text begins, and with no underscore. -/
def LeadsWord (cs : List Char) : Prop :=
  ∃ first rest, cs = first :: rest ∧ first ≠ '_'

lemma LeadsWord.append {cs : List Char} (leads : LeadsWord cs) (back : List Char) :
    LeadsWord (cs ++ back) := by
  obtain ⟨first, rest, rfl, other⟩ := leads
  exact ⟨first, rest ++ back, rfl, other⟩

lemma ofNat_ne_underscore {n : Nat} (other : n ≠ 95) : Char.ofNat n ≠ '_' := by
  intro same
  by_cases valid : n.isValidChar
  · exact other ((toNat_ofNat valid).symm.trans (congrArg Char.toNat same))
  · rw [Char.ofNat, dif_neg valid] at same
    revert same
    decide

lemma ascii_leads : ∀ n < 128, isAlphanumeric (Char.ofNat n) = true →
    (Char.ofNat n).toLower ≠ '_' := by
  decide +kernel

lemma lowerRanges_beyond : ∀ row ∈ lowerRanges, 95 < row.2.2.2 := by decide +kernel

lemma lowerExpansions_lead : ∀ entry ∈ lowerExpansions, ∃ n ∈ entry.2.head?, n ≠ 95 := by
  decide +kernel

lemma lowercase_leads {c : Char} (letter : isAlphanumeric c = true) : LeadsWord (lowercase c) := by
  rw [lowercase]
  split
  · rename_i ascii
    have other := ascii_leads c.toNat ascii
    rw [Char.ofNat_toNat] at other
    exact ⟨_, [], rfl, other letter⟩
  · rename_i beyond
    cases found : lowerExpansions.lookup c.toNat with
    | some image =>
      obtain ⟨n, first, other⟩ := lowerExpansions_lead _ (mem_of_lookup found)
      obtain ⟨rest, rfl⟩ := List.head?_eq_some_iff.mp first
      exact ⟨Char.ofNat n, rest.map Char.ofNat, rfl, ofNat_ne_underscore other⟩
    | none =>
      refine ⟨_, [], rfl, ?_⟩
      rw [CaseRanges.image]
      split
      · rename_i first last step target found
        have low : 95 < target := lowerRanges_beyond _ (List.mem_of_find?_eq_some found)
        exact ofNat_ne_underscore (by omega)
      · rintro rfl
        exact beyond (by decide)

lemma lowerWord_leads {c : Char} (letter : isAlphanumeric c = true) (rest : List Char) :
    LeadsWord (lowerWord (c :: rest)) := by
  cases rest with
  | nil =>
    rw [lowerWord]
    split
    · exact ⟨'ς', [], rfl, by decide⟩
    · exact lowercase_leads letter
  | cons next others => exact (lowercase_leads letter).append _

lemma alphanumeric_of_splitRuns {cs run : List Char} {c : Char} (among : run ∈ splitRuns cs)
    (present : c ∈ run) : isAlphanumeric c = true := by
  induction cs generalizing run with
  | nil =>
    rw [splitRuns, List.mem_singleton] at among
    rw [among] at present
    cases present
  | cons first rest ih =>
    rw [splitRuns] at among
    split at among
    · rename_i letter
      split at among
      · rw [List.mem_singleton.mp among, List.mem_singleton] at present
        exact present ▸ letter
      · rename_i front others runs
        rcases List.mem_cons.mp among with rfl | later
        · rcases List.mem_cons.mp present with rfl | within
          · exact letter
          · exact ih (runs ▸ List.mem_cons_self) within
        · exact ih (runs ▸ List.mem_cons_of_mem front later) present
    · rcases List.mem_cons.mp among with rfl | later
      · cases present
      · exact ih later present

/-- A word that is cut off before an uppercase letter has one before it, so no word is empty. -/
lemma splitCase_ne_nil {mode : CaseMode} {current cs word : List Char}
    (upper : mode = .upper → current ≠ []) (some : cs = [] → current ≠ [])
    (among : word ∈ splitCase mode current cs) : word ≠ [] := by
  -- Both conditions hold at the start of a word: it is empty and has no case, and a letter follows.
  fun_induction splitCase mode current cs with
  | case1 mode current => exact List.mem_singleton.mp among ▸ some rfl
  | case2 mode current d => simp [List.mem_singleton.mp among]
  | case3 mode current d next rest _ ih =>
    rcases List.mem_cons.mp among with rfl | later
    · simp
    · exact ih (fun boundary => by cases boundary) (fun none => by cases none) later
  | case4 mode current d next rest _ cut ih =>
    rcases List.mem_cons.mp among with rfl | later
    · exact upper cut.1
    · exact ih (fun boundary => by cases boundary) (fun none => by cases none) later
  | case5 mode current d next rest _ _ ih =>
    exact ih (fun _ => by simp) (fun none => by cases none) among

lemma words_begin {name : String} {word : List Char} (among : word ∈ words name) :
    ∃ c rest, word = c :: rest ∧ isAlphanumeric c = true := by
  obtain ⟨run, listed, within⟩ := List.mem_flatMap.mp among
  obtain ⟨known, some⟩ := List.mem_filter.mp listed
  have nonempty : word ≠ [] :=
    splitCase_ne_nil (fun boundary => by cases boundary)
      (fun none => absurd none (of_decide_eq_true some)) within
  obtain ⟨c, rest, rfl⟩ := List.exists_cons_of_ne_nil nonempty
  refine ⟨c, rest, rfl, alphanumeric_of_splitRuns known ?_⟩
  have held := mem_of_splitCase within List.mem_cons_self
  rwa [List.nil_append] at held

lemma head?_snakeCase (name : String) : (snakeCase name).toList.head? ≠ some '_' := by
  rw [snakeCase]
  cases split : words name with
  | nil => exact fun begins => by cases begins
  | cons word others =>
    obtain ⟨c, rest, rfl, letter⟩ := words_begin (split ▸ List.mem_cons_self)
    have leads : LeadsWord ("_".intercalate (((c :: rest) :: others).map fun word =>
        String.ofList (lowerWord word))).toList := by
      cases others with
      | nil =>
        rw [List.map_singleton, String.intercalate_singleton, String.toList_ofList]
        exact lowerWord_leads letter rest
      | cons next more =>
        rw [List.map_cons, List.map_cons, String.intercalate_cons_cons, String.toList_append,
          String.toList_append, String.toList_ofList, List.append_assoc]
        exact (lowerWord_leads letter rest).append _
    obtain ⟨first, more, begins, other⟩ := leads
    rw [begins]
    exact fun same => other (Option.some.inj same)

end Text

/-! ## Names of generated code -/

lemma Token.plainName_of_parts {name : String} (parts : Text.Parts name.toList) :
    plainName name = name := by
  rw [plainName, if_neg]
  intro marked
  obtain ⟨rest, letters⟩ := (String.startsWith_string_iff (s := name)).mp marked
  have mark : '#' ∈ name.toList := by
    rw [← letters]
    simp
  have part := parts '#' mark
  revert part
  decide

/-- A text that goes on like an identifier is one if it begins like one. -/
lemma isPrintableName_of_parts {name : String} (parts : Text.Parts name.toList) :
    isPrintableName name = name.toList.head?.any Text.isIdentifierStart := by
  rw [isPrintableName, Token.plainName_of_parts parts]
  cases letters : name.toList with
  | nil => rfl
  | cons first rest =>
    have later : rest.all Text.isIdentifierPart = true :=
      List.all_eq_true.mpr fun c present => parts c (letters ▸ List.mem_cons_of_mem first present)
    rw [Text.isIdentifierText, later, Bool.and_true]
    rfl

lemma isPrintableName_append {front back : String}
    (identifier : Text.isIdentifierText front.toList = true) (parts : Text.Parts back.toList) :
    isPrintableName (front ++ back) = true := by
  have whole : Text.Parts (front ++ back).toList := by
    rw [String.toList_append]
    exact (Text.Parts.of_identifier identifier).append parts
  rw [isPrintableName_of_parts whole, String.toList_append]
  cases letters : front.toList with
  | nil => rw [letters] at identifier; cases identifier
  | cons first rest =>
    rw [letters, Text.isIdentifierText, Bool.and_eq_true] at identifier
    exact identifier.1

namespace MappingCode

variable {code : MappingCode}

/-- The name of the extension trait begins like an identifier. -/
def traitBegins (code : MappingCode) : Bool :=
  code.traitName.toList.head?.any Text.isIdentifierStart

/-- Of the names made for the code only that of the extension trait can fail to be an identifier,
and that only with its first character. -/
lemma names_printable_iff (source : Text.Parts code.sourceName.toList)
    (target : Text.Parts code.targetName.toList) :
    code.names.all isPrintableName = true ↔ (code.converts = true → code.traitBegins = true) := by
  have snake := Text.snakeCase_parts source
  have constructor : isPrintableName code.constructorName = true :=
    isPrintableName_append rfl snake
  have context : isPrintableName code.contextConstructorName = true := by
    rw [contextConstructorName, constructorName, String.append_assoc]
    refine isPrintableName_append rfl ?_
    rw [String.toList_append]
    exact snake.append (Text.Parts.of_identifier rfl)
  have update : isPrintableName code.updateName = true :=
    isPrintableName_append rfl snake
  have method : isPrintableName code.methodName = true :=
    isPrintableName_append rfl (Text.snakeCase_parts target)
  have trait : isPrintableName code.traitName = code.traitBegins := by
    refine isPrintableName_of_parts ?_
    rw [traitName, String.toList_append, String.toList_append]
    have middle : Text.Parts "To".toList := Text.Parts.of_identifier rfl
    exact ((Text.camelCase_parts source).append middle).append (Text.camelCase_parts target)
  rw [names]
  cases code.update.isSome <;> cases code.converts <;>
    simp [constructor, context, update, method, trait]

end MappingCode

end MemberMapping
