import MemberMapping.CommandLine
import MemberMapping.Proofs.Lists

/-!
Which source of an option counts: a flag before build properties, a later property before an earlier
one, and any property before the default.

Properties are read one by one and change the options of the ones before. A value that cannot be
read is a fault even where a later property sets the option again, and the first such value is
reported.
-/

namespace MemberMapping

def Access.spellings : List (String × Access) :=
  [("public", .publicAccess), ("pub", .publicAccess), ("internal", .internalAccess),
    ("crate", .internalAccess), ("pub(crate)", .internalAccess), ("private", .privateAccess)]

def boolSpellings : List (String × Bool) := [("true", true), ("false", false)]

namespace OptionName

/-- The name of an option in lower case, without underscores. -/
def word : OptionName → String
  | access => "generatedmethodsaccessmodifier"
  | nullable => "supportnullablereferencetypes"
  | docs => "generatexmldocument"

def Value : OptionName → Type
  | access => Access
  | nullable | docs => Bool

/-- The values of an option as they are written in lower case. -/
def spellings : (option : OptionName) → List (String × option.Value)
  | access => Access.spellings
  | nullable | docs => boolSpellings

/-- A key names an option if, without the blanks around it and in lower case, it is made of the
prefixes and the name of the option, with underscores anywhere in the name. -/
def NamedBy (option : OptionName) (key : String) : Prop :=
  ∃ front ∈ ["", "build_property."], ∃ rest : List Char,
    (Text.asciiLower (Text.trim key)).toList = front.toList ++ "mapto_".toList ++ rest ∧
      rest.filter (· ≠ '_') = option.word.toList

/-- The text is a value of the option, in any letter case. -/
def Reads (option : OptionName) (text : String) (value : option.Value) : Prop :=
  (Text.asciiLower text, value) ∈ option.spellings

end OptionName

def Options.get (o : Options) : (option : OptionName) → option.Value
  | .access => o.access
  | .nullable => o.nullable
  | .docs => o.docs

/-- The property names an option and has no value of it. -/
def IsInvalid (property : String × String) : Prop :=
  ∃ option : OptionName, option.NamedBy property.1 ∧
    ∀ value, ¬ option.Reads (Text.trim property.2) value

/-- The value of an option after properties: that of the last property naming it, or the default
where none does. -/
inductive LastValue (properties : List (String × String)) (option : OptionName) :
    option.Value → Prop
  | unset (unnamed : ∀ property ∈ properties, ¬ option.NamedBy property.1) :
      LastValue properties option (Options.get {} option)
  | set {before after : List (String × String)} {property : String × String}
      {value : option.Value} (split : properties = before ++ property :: after)
      (named : option.NamedBy property.1) (last : ∀ later ∈ after, ¬ option.NamedBy later.1)
      (reads : option.Reads (Text.trim property.2) value) :
      LastValue properties option value

/-- The fault is that of the first invalid property; it names the property by its key and quotes the
value. -/
def FirstInvalid (properties : List (String × String)) (fault : Fault) : Prop :=
  ∃ before property after, properties = before ++ property :: after ∧ IsInvalid property ∧
    (∀ earlier ∈ before, ¬ IsInvalid earlier) ∧
    fault = .invalidOption (Text.asciiLower (Text.trim property.1)) (Text.trim property.2)

namespace CommandLine.Flags

/-- The value that a flag gives an option, where it is given. -/
def given? (flags : Flags) : (option : OptionName) → Option option.Value
  | .access => flags.access
  | .nullable => if flags.nullable then some true else none
  | .docs => if flags.noDocs then some false else none

end CommandLine.Flags

/-! ## Keys and values -/

lemma afterPrefix?_eq_some_iff {front : String} {text rest : List Char} :
    afterPrefix? front text = some rest ↔ text = front.toList ++ rest := by
  rw [afterPrefix?]
  constructor
  · intro found
    split at found
    · rename_i begins
      obtain ⟨tail, rfl⟩ := List.isPrefixOf_iff_prefix.mp begins
      rw [← String.length_toList, List.drop_left] at found
      rw [Option.some.inj found]
    · cases found
  · rintro rfl
    have begins : front.toList.isPrefixOf (front.toList ++ rest) = true :=
      List.isPrefixOf_iff_prefix.mpr (List.prefix_append _ _)
    rw [if_pos begins, ← String.length_toList, List.drop_left]

lemma Access.ofName?_eq_some_iff {text : String} {value : Access} :
    ofName? text = some value ↔ (Text.asciiLower text, value) ∈ spellings := by
  unfold ofName?
  simp only [spellings, List.mem_cons, Prod.mk.injEq, List.not_mem_nil, or_false]
  split <;> cases value <;> simp_all

lemma readBool?_eq_some_iff {text : String} {value : Bool} :
    readBool? text = some value ↔ (Text.asciiLower text, value) ∈ boolSpellings := by
  unfold readBool?
  simp only [boolSpellings, List.mem_cons, Prod.mk.injEq, List.not_mem_nil, or_false]
  split <;> cases value <;> simp_all

namespace OptionName

lemma ofName?_eq_some_iff {name : String} {option : OptionName} :
    ofName? name = some option ↔ name = option.word := by
  unfold ofName?
  split <;> cases option <;> simp_all [word]

lemma inner_eq_some_iff {text rest : List Char} :
    afterPrefix? "mapto_" ((afterPrefix? "build_property." text).getD text) = some rest ↔
      ∃ front ∈ ["", "build_property."], text = front.toList ++ "mapto_".toList ++ rest := by
  simp only [List.mem_cons, List.not_mem_nil, or_false, exists_eq_or_imp, exists_eq_left]
  cases outer : afterPrefix? "build_property." text with
  | none =>
    have other : ∀ tail, text ≠ "build_property.".toList ++ tail := by
      intro tail same
      cases outer.symm.trans (afterPrefix?_eq_some_iff.mpr same)
    rw [Option.getD_none, afterPrefix?_eq_some_iff]
    constructor
    · exact Or.inl
    · rintro (same | same)
      · exact same
      · exact absurd (same.trans (List.append_assoc ..)) (other _)
  | some tail =>
    obtain rfl := afterPrefix?_eq_some_iff.mp outer
    rw [Option.getD_some, afterPrefix?_eq_some_iff]
    constructor
    · rintro rfl
      exact Or.inr (List.append_assoc ..).symm
    · rintro (same | same)
      · -- The two prefixes begin with different letters.
        cases (List.cons.inj same).1
      · exact List.append_cancel_left (same.trans (List.append_assoc ..))

lemma optionOf?_eq_some_iff {key : String} {option : OptionName} :
    optionOf? key = some option ↔ option.NamedBy key := by
  have named : optionOf? key = some option ↔ ∃ rest,
      afterPrefix? "mapto_" ((afterPrefix? "build_property." (propertyKey key).toList).getD
        (propertyKey key).toList) = some rest ∧
      rest.filter (· ≠ '_') = option.word.toList := by
    rw [optionOf?]
    split
    · rename_i absent
      simp [absent]
    · rename_i rest found
      rw [ofName?_eq_some_iff, ← String.toList_inj, String.toList_ofList]
      simp only [found, Option.some.injEq, exists_eq_left', bne, ne_eq, decide_not]
      rfl
  simp only [named, inner_eq_some_iff, NamedBy, propertyKey]
  constructor
  · rintro ⟨rest, ⟨front, listed, same⟩, word⟩
    exact ⟨front, listed, rest, same, word⟩
  · rintro ⟨front, listed, rest, same, word⟩
    exact ⟨rest, ⟨front, listed, same⟩, word⟩

end OptionName

/-! ## One property -/

namespace Options

def set (o : Options) : (option : OptionName) → option.Value → Options
  | .access, value => { o with access := value }
  | .nullable, value => { o with nullable := value }
  | .docs, value => { o with docs := value }

variable {o : Options}

@[simp] lemma get_set_self {option : OptionName} {value : option.Value} :
    (o.set option value).get option = value := by
  cases option <;> rfl

lemma get_set_of_ne {option other : OptionName} {value : option.Value} (apart : other ≠ option) :
    (o.set option value).get other = o.get other := by
  cases option <;> cases other <;> first | rfl | exact absurd rfl apart

lemma eq_of_get {other : Options} (same : ∀ option, o.get option = other.get option) :
    o = other := by
  cases o
  cases other
  rw [Options.mk.injEq]
  exact ⟨same .access, same .nullable, same .docs⟩

lemma set?_eq_some_iff {changed : Options} {option : OptionName} {text : String} :
    o.set? option text = some changed ↔
      ∃ value, option.Reads text value ∧ o.set option value = changed := by
  cases option with
  | access =>
    rw [set?, Option.map_eq_some_iff]
    exact exists_congr fun value => and_congr_left fun _ => Access.ofName?_eq_some_iff
  | nullable | docs =>
    rw [set?, Option.map_eq_some_iff]
    exact exists_congr fun value => and_congr_left fun _ => readBool?_eq_some_iff

variable {property : String × String}

lemma apply_of_unnamed (unnamed : ∀ option : OptionName, ¬ option.NamedBy property.1) :
    o.apply property = .ok o := by
  have none : optionOf? property.1 = none :=
    Option.eq_none_iff_forall_ne_some.mpr fun option found =>
      unnamed option (OptionName.optionOf?_eq_some_iff.mp found)
  rw [apply, none]

lemma apply_of_reads {option : OptionName} {value : option.Value}
    (named : option.NamedBy property.1) (reads : option.Reads (Text.trim property.2) value) :
    o.apply property = .ok (o.set option value) := by
  have set := set?_eq_some_iff (o := o).mpr ⟨value, reads, rfl⟩
  simp only [apply, OptionName.optionOf?_eq_some_iff.mpr named, set]

lemma apply_of_invalid (invalid : IsInvalid property) :
    o.apply property = .error
      (.invalidOption (Text.asciiLower (Text.trim property.1)) (Text.trim property.2)) := by
  obtain ⟨option, named, unread⟩ := invalid
  have unset : o.set? option (Text.trim property.2) = none :=
    Option.eq_none_iff_forall_ne_some.mpr fun changed set => by
      obtain ⟨value, reads, _⟩ := set?_eq_some_iff.mp set
      exact unread value reads
  simp only [apply, OptionName.optionOf?_eq_some_iff.mpr named, unset, propertyKey]

/-- A property that is not invalid changes at most the option that it names. -/
lemma apply_of_valid (o : Options) (valid : ¬ IsInvalid property) :
    ∃ changed, o.apply property = .ok changed ∧
      ∀ option : OptionName, ¬ option.NamedBy property.1 → changed.get option = o.get option := by
  by_cases named : ∃ option : OptionName, option.NamedBy property.1
  · obtain ⟨option, named⟩ := named
    by_cases reads : ∃ value, option.Reads (Text.trim property.2) value
    · obtain ⟨value, reads⟩ := reads
      refine ⟨o.set option value, apply_of_reads named reads, ?_⟩
      intro other unnamed
      exact get_set_of_ne fun same => unnamed (same ▸ named)
    · exact absurd ⟨option, named, not_exists.mp reads⟩ valid
  · exact ⟨o, apply_of_unnamed (not_exists.mp named), fun _ _ => rfl⟩

/-! ## All properties -/

variable {properties : List (String × String)}

/-- Properties that are not invalid change at most the options that they name. -/
lemma foldlM_of_valid (o : Options) (valid : ∀ property ∈ properties, ¬ IsInvalid property) :
    ∃ changed, properties.foldlM apply o = .ok changed ∧
      ∀ option : OptionName, (∀ property ∈ properties, ¬ option.NamedBy property.1) →
        changed.get option = o.get option := by
  induction properties generalizing o with
  | nil => exact ⟨o, rfl, fun _ _ => rfl⟩
  | cons property rest ih =>
    obtain ⟨here, later⟩ := List.forall_mem_cons.mp valid
    obtain ⟨next, applied, kept⟩ := o.apply_of_valid here
    obtain ⟨changed, read, keeps⟩ := ih next later
    refine ⟨changed, ?_, ?_⟩
    · rw [List.foldlM_cons, applied]
      exact read
    · intro option unnamed
      obtain ⟨here, later⟩ := List.forall_mem_cons.mp unnamed
      exact (keeps option later).trans (kept option here)

lemma foldlM_of_firstInvalid (o : Options) {fault : Fault}
    (first : FirstInvalid properties fault) : properties.foldlM apply o = .error fault := by
  obtain ⟨before, property, after, rfl, invalid, valid, rfl⟩ := first
  obtain ⟨next, read, _⟩ := o.foldlM_of_valid valid
  rw [List.foldlM_append, read]
  change (property :: after).foldlM apply next = _
  rw [List.foldlM_cons, apply_of_invalid invalid]
  rfl

lemma valid_or_firstInvalid (properties : List (String × String)) :
    (∀ property ∈ properties, ¬ IsInvalid property) ∨ ∃ fault, FirstInvalid properties fault := by
  induction properties with
  | nil => exact Or.inl (by simp)
  | cons property rest ih =>
    by_cases invalid : IsInvalid property
    · exact Or.inr ⟨_, [], property, rest, rfl, invalid, by simp, rfl⟩
    · rcases ih with valid | ⟨fault, before, other, after, rfl, wrong, valid, named⟩
      · exact Or.inl (List.forall_mem_cons.mpr ⟨invalid, valid⟩)
      · exact Or.inr ⟨fault, property :: before, other, after, rfl, wrong,
          List.forall_mem_cons.mpr ⟨invalid, valid⟩, named⟩

lemma get_of_lastValue (valid : ∀ property ∈ properties, ¬ IsInvalid property) {o : Options}
    (read : ofProperties properties = .ok o) {option : OptionName} {value : option.Value}
    (last : LastValue properties option value) : o.get option = value := by
  cases last with
  | unset unnamed =>
    obtain ⟨changed, read', kept⟩ := foldlM_of_valid {} valid
    obtain rfl := Except.ok.inj (read'.symm.trans read)
    exact kept option unnamed
  | @set before after property _ split named last reads =>
    rw [split, List.forall_mem_append, List.forall_mem_cons] at valid
    obtain ⟨start, first, _⟩ := foldlM_of_valid {} valid.1
    obtain ⟨changed, rest, kept⟩ := (start.set option value).foldlM_of_valid valid.2.2
    have whole : ofProperties properties = .ok changed := by
      rw [ofProperties, split, List.foldlM_append, first]
      change (property :: after).foldlM apply start = _
      rw [List.foldlM_cons, apply_of_reads named reads]
      exact rest
    obtain rfl := Except.ok.inj (whole.symm.trans read)
    exact (kept option last).trans get_set_self

lemma exists_lastValue (valid : ∀ property ∈ properties, ¬ IsInvalid property)
    (option : OptionName) : ∃ value, LastValue properties option value := by
  by_cases named : ∃ property ∈ properties, option.NamedBy property.1
  · obtain ⟨before, property, after, split, named, last⟩ := exists_last named
    have known : property ∈ properties := split ▸ List.mem_append_right before List.mem_cons_self
    by_contra none
    refine valid property known ⟨option, named, fun value reads => ?_⟩
    exact none ⟨value, .set split named last reads⟩
  · exact ⟨_, .unset fun property known names => named ⟨property, known, names⟩⟩

theorem ofProperties_eq_error_iff {fault : Fault} :
    ofProperties properties = .error fault ↔ FirstInvalid properties fault := by
  constructor
  · intro failed
    rcases valid_or_firstInvalid properties with valid | ⟨first, wrong⟩
    · obtain ⟨_, read, _⟩ := foldlM_of_valid {} valid
      cases read.symm.trans failed
    · obtain rfl := Except.error.inj ((foldlM_of_firstInvalid {} wrong).symm.trans failed)
      exact wrong
  · exact foldlM_of_firstInvalid {}

theorem ofProperties_eq_ok_iff {o : Options} :
    ofProperties properties = .ok o ↔ (∀ property ∈ properties, ¬ IsInvalid property) ∧
      ∀ option, LastValue properties option (o.get option) := by
  constructor
  · intro read
    rcases valid_or_firstInvalid properties with valid | ⟨first, wrong⟩
    · refine ⟨valid, fun option => ?_⟩
      obtain ⟨value, last⟩ := exists_lastValue valid option
      rw [get_of_lastValue valid read last]
      exact last
    · cases (foldlM_of_firstInvalid {} wrong).symm.trans read
  · rintro ⟨valid, last⟩
    obtain ⟨other, read, _⟩ := foldlM_of_valid {} valid
    obtain rfl : other = o := eq_of_get fun option => get_of_lastValue valid read (last option)
    exact read

lemma ofProperties_of_unnamed {before after : List (String × String)}
    {property : String × String} (unnamed : ∀ option : OptionName, ¬ option.NamedBy property.1) :
    ofProperties (before ++ property :: after) = ofProperties (before ++ after) := by
  rw [ofProperties, ofProperties, List.foldlM_append, List.foldlM_append]
  refine congrArg _ (funext fun o => ?_)
  rw [List.foldlM_cons, apply_of_unnamed unnamed]
  rfl

end Options

/-! ## Flags -/

namespace CommandLine.Flags

def above (flags : Flags) (start : Options) : Options :=
  ⟨flags.access.getD start.access, start.nullable || flags.nullable, start.docs && !flags.noDocs⟩

variable {flags : Flags} {start : Options}

lemma get_above (option : OptionName) :
    (flags.above start).get option = (flags.given? option).getD (start.get option) := by
  obtain ⟨access, noDocs, nullable, _⟩ := flags
  obtain ⟨_, startNullable, startDocs⟩ := start
  cases option with
  | access => rfl
  | nullable => cases nullable <;> cases startNullable <;> rfl
  | docs => cases noDocs <;> cases startDocs <;> rfl

lemma eq_above_iff (flags : Flags) {o : Options} :
    flags.above start = o ↔
      ∀ option, o.get option = (flags.given? option).getD (start.get option) := by
  constructor
  · rintro rfl
    exact get_above
  · intro same
    exact Options.eq_of_get fun option => (get_above option).trans (same option).symm

/-- Flags are applied to the options of the properties, or to the defaults where there are none. -/
lemma options_eq (defaults : Options) :
    flags.options defaults =
      (if flags.properties = [] then .ok defaults
        else Options.ofProperties flags.properties).map flags.above := by
  rw [options]
  cases flags.properties with
  | nil => rfl
  | cons property rest => cases Options.ofProperties (property :: rest) <;> rfl

end CommandLine.Flags

/-- Properties are refused exactly for an invalid one, and then for the first. Otherwise each option
has the value of the last property naming it, or its default where there is none, and properties
that name no option can be left out. For a command, each option has the value of its flag where the
flag is given, else the value from the properties where there are any, else that of the defaults
handed in. -/
theorem options_precedence (properties : List (String × String)) :
    (∀ fault, Options.ofProperties properties = .error fault ↔ FirstInvalid properties fault) ∧
    (∀ o, Options.ofProperties properties = .ok o ↔
      (∀ property ∈ properties, ¬ IsInvalid property) ∧
        ∀ option, LastValue properties option (o.get option)) ∧
    (∀ before property after, properties = before ++ property :: after →
      (∀ option : OptionName, ¬ option.NamedBy property.1) →
      Options.ofProperties properties = Options.ofProperties (before ++ after)) ∧
    ∀ (flags : CommandLine.Flags) (defaults : Options),
      (∀ fault, CommandLine.Flags.options { flags with properties := properties } defaults =
        .error fault ↔ Options.ofProperties properties = .error fault) ∧
      (∀ o, CommandLine.Flags.options { flags with properties := properties } defaults = .ok o ↔
        ∃ start, (if properties = [] then start = defaults
            else Options.ofProperties properties = .ok start) ∧
          ∀ option, o.get option = (flags.given? option).getD (start.get option)) := by
  refine ⟨fun _ => Options.ofProperties_eq_error_iff, fun _ => Options.ofProperties_eq_ok_iff, ?_,
    ?_⟩
  · rintro before property after rfl unnamed
    exact Options.ofProperties_of_unnamed unnamed
  · intro flags defaults
    rw [CommandLine.Flags.options_eq]
    by_cases none : properties = []
    · subst none
      refine ⟨fun fault => ⟨fun failed => (by cases failed), fun failed => (by cases failed)⟩, ?_⟩
      intro o
      simp only [if_true, exists_eq_left]
      exact (Except.ok.injEq ..).to_iff.trans flags.eq_above_iff
    · simp only [if_neg none]
      cases Options.ofProperties properties with
      | error fault =>
        refine ⟨fun other => by simp [Except.map], fun o => ?_⟩
        simp [Except.map]
      | ok start =>
        refine ⟨fun fault => by simp [Except.map], fun o => ?_⟩
        simp only [Except.ok.injEq, exists_eq_left']
        exact (Except.ok.injEq ..).to_iff.trans flags.eq_above_iff

/-- A value that cannot be read is a fault although a later property sets the option. -/
example : Options.ofProperties
    [("Build_Property.MapTo_GenerateXmlDocument", "maybe"),
      ("mapto_generate_xml_document", "false")] =
    .error (.invalidOption "build_property.mapto_generatexmldocument" "maybe") := by
  decide +kernel

end MemberMapping
