import Mathlib.Data.List.Forall2
import Mathlib.Data.List.Induction
import MemberMapping.Expansion.Printing
import MemberMapping.Proofs.FieldNames

/-!
What the expressions of generated code are printed as.

Each form of value has its form in code: what is read at a place is cloned, and the clone is put
into a box, lifted or converted, or the place is mapped through the context. A target is built by a
literal, which lists the inherited part first and then the fields, or by a call.
-/

namespace MemberMapping

/-! ## Paths and lists -/

namespace Token

def steps (names : List String) : List Token :=
  names.flatMap fun name => operator "::" ++ [.ident name]

/-- A call of the function at a path from the root of all crates. -/
def call (names : List String) (arguments : List Token) : List Token :=
  steps names ++ [.group .paren arguments]

/-- Parts with commas between them. One more may stand behind the last part. -/
inductive Listed : List (List Token) → List Token → Prop
  | none : Listed [] []
  | last (part : List Token) : Listed [part] part
  | closed (part : List Token) : Listed [part] (part ++ [comma])
  | more (part : List Token) {next : List Token} {rest : List (List Token)} {tokens : List Token}
      (behind : Listed (next :: rest) tokens) :
      Listed (part :: next :: rest) (part ++ comma :: tokens)

lemma Listed.before {parts : List (List Token)} {tokens : List Token} (listed : Listed parts tokens)
    (part : List Token) : Listed (part :: parts) (part ++ comma :: tokens) := by
  cases parts with
  | nil =>
    cases listed
    exact .closed part
  | cons next rest => exact .more part listed

lemma listed_separated (trailing : Bool) (parts : List (List Token)) :
    Listed parts (separated (operator ",") trailing parts) := by
  induction parts with
  | nil => exact .none
  | cons part rest ih =>
    cases rest with
    | nil =>
      cases trailing with
      | true => exact .closed part
      | false =>
        rw [separated, if_neg Bool.false_ne_true, List.append_nil]
        exact .last part
    | cons next others =>
      have behind : separated (operator ",") trailing (part :: next :: others) =
          part ++ comma :: separated (operator ",") trailing (next :: others) := by
        rw [separated, List.append_assoc]
        · rfl
        · exact fun none => nomatch none
      rw [behind]
      exact .more part ih

end Token

lemma NamePath.separated_names (name : String) (rest : List String) :
    separated (Token.operator "::") false ((name :: rest).map fun text => [Token.ident text]) =
      .ident name :: Token.steps rest := by
  induction rest generalizing name with
  | nil => rfl
  | cons next others ih =>
    have behind := congrArg ([Token.ident name] ++ Token.operator "::" ++ ·) (ih next)
    exact behind

namespace Printing

lemma rootPath_cons (name : String) (rest : List String) :
    rootPath (name :: rest) = Token.steps (name :: rest) := by
  rw [rootPath, NamePath.tokens, NamePath.separated_names]
  rfl

lemma localPath_cons (name : String) (rest : List String) :
    localPath (name :: rest) = .ident name :: Token.steps rest := by
  rw [localPath, NamePath.tokens, NamePath.separated_names]
  rfl

lemma rootPath_parens (name : String) (rest : List String) (arguments : List Token) :
    rootPath (name :: rest) ++ parens arguments = Token.call (name :: rest) arguments := by
  rw [rootPath_cons]
  rfl

lemma commas_listed (parts : List (List Token)) : Token.Listed parts (commas parts) :=
  Token.listed_separated false parts

end Printing

/-! ## Places and literals -/

/-- A binding, and each field behind a dot. -/
inductive FieldPath.Written : FieldPath → List Token → Prop
  | binding (name : String) : Written ⟨name, []⟩ [.ident name]
  | field {place : FieldPath} {tokens : List Token} (written : Written place tokens)
      (name : FieldName) : Written (place.push name) (tokens ++ Token.operator "." ++ [name.token])

/-- A number with the name of its type. The sign is a token of its own. -/
inductive Token.Numeral (suffix : String) : String → List Token → Prop
  | unsigned {text : String} (free : text.toList.head? ≠ some '-') :
      Numeral suffix text [.literal (text ++ suffix)]
  | negative (digits : String) :
      Numeral suffix ("-" ++ digits) (Token.operator "-" ++ [.literal (digits ++ suffix)])

inductive Literal.Written : Literal → List Token → Prop
  | yes : Written (.bool true) [.ident "true"]
  | no : Written (.bool false) [.ident "false"]
  | int {n : Int64} {tokens : List Token}
      (written : Token.Numeral "i64" (toString n.toInt) tokens) : Written (.int n) tokens
  | float {x : Float} {tokens : List Token}
      (written : Token.Numeral "f64" (Decimal.NumberForm.source.write x) tokens) :
      Written (.float x) tokens
  | string (text : String) : Written (.string text) [.literal (Text.quotedInSource text)]
  | char (c : Char) : Written (.char c) [.literal (Text.quotedChar c)]

namespace Printing

lemma place_push (p : FieldPath) (name : FieldName) :
    place (p.push name) = place p ++ Token.operator "." ++ [name.token] := by
  simp only [place, FieldPath.push, List.flatMap_append, List.flatMap_singleton, op,
    List.cons_append, List.append_assoc]

lemma place_written (p : FieldPath) : p.Written (place p) := by
  obtain ⟨binding, fields⟩ := p
  -- A place is written from the binding on, so its last field is taken off first.
  induction fields using List.reverseRecOn with
  | nil => exact .binding binding
  | append_singleton fields name ih =>
    have pushed : (⟨binding, fields ++ [name]⟩ : FieldPath) =
        FieldPath.push ⟨binding, fields⟩ name := rfl
    rw [pushed, place_push]
    exact .field ih name

lemma numeral_int (n : Int) (suffix : String) :
    Token.Numeral suffix (toString n)
      ((if n < 0 then Token.operator "-" else []) ++ [.literal (toString n.natAbs ++ suffix)]) := by
  cases n with
  | ofNat size =>
    have natural : ¬ Int.ofNat size < 0 := Int.not_lt.mpr (Int.natCast_nonneg size)
    rw [if_neg natural]
    obtain ⟨digit, rest, digits, number⟩ := head_toString size
    refine .unsigned ?_
    change (toString size).toList.head? ≠ _
    rw [digits]
    rintro ⟨⟩
    cases number
  | negSucc size =>
    rw [if_pos (Int.negSucc_lt_zero size)]
    exact .negative (toString (size + 1))

lemma literal_written (parameter : Literal) : parameter.Written (literal parameter) := by
  cases parameter with
  | bool b =>
    cases b with
    | true => exact .yes
    | false => exact .no
  | int n =>
    have sign : n < 0 ↔ n.toInt < 0 := Int64.lt_iff_toInt_lt
    have written := numeral_int n.toInt "i64"
    rw [← if_congr sign rfl rfl] at written
    exact .int written
  | float x =>
    refine .float ?_
    rw [literal]
    split
    · rename_i digits letters
      have text : Decimal.NumberForm.source.write x = "-" ++ String.ofList digits :=
        String.toList_inj.mp (letters.trans (by simp))
      rw [text]
      exact .negative _
    · rename_i free
      rw [String.ofList_toList]
      refine .unsigned fun first => ?_
      obtain ⟨rest, letters⟩ := List.head?_eq_some_iff.mp first
      exact free rest letters
  | string text => exact .string text
  | char c => exact .char c

end Printing

/-! ## Values -/

inductive Literal.Passed (parameter : Literal) : List Token → Prop
  | from {tokens : List Token} (written : parameter.Written tokens) :
      Passed parameter
        (.ident "_mapto" :: Token.steps ["Param", "from"] ++ [.group .paren tokens])

/-- The call that maps what an expression refers to through the context. -/
def Token.mapped (argument : List Token) : List Token :=
  .ident MappingCode.context :: operator "." ++
    [.ident "map_from_with_context", .group .paren argument]

def PathExpr.defaultTokens (converter : PathExpr) : List Token :=
  Token.operator "<" ++ converter.tokens ++ .ident "as" ::
    Token.steps ["core", "default", "Default"] ++ Token.operator ">" ++
    Token.steps ["default"] ++ [.group .paren []]

/-- The expression of a value. -/
inductive MemberValue.Written : MemberValue → List Token → Prop
  | cloned {place : FieldPath} {tokens : List Token} (read : place.Written tokens) :
      Written (.cloned place)
        (Token.call ["core", "clone", "Clone", "clone"] (Token.operator "&" ++ tokens))
  | boxed {place : FieldPath} {clone : List Token} (written : Written (.cloned place) clone) :
      Written (.boxed place) (Token.call ["std", "boxed", "Box", "new"] clone)
  | lifted {place : FieldPath} {clone : List Token} (written : Written (.cloned place) clone) :
      Written (.lifted place) (Token.call ["core", "convert", "Into", "into"] clone)
  | converted {converter : PathExpr} {place : FieldPath} {parameters : List Literal}
      {clone passed arguments : List Token} {each : List (List Token)}
      (written : Written (.cloned place) clone)
      (literals : List.Forall₂ Literal.Passed parameters each) (all : Token.Listed each passed)
      (listed : Token.Listed [Token.operator "&" ++ converter.defaultTokens, clone,
        Token.operator "&" ++ [.group .bracket passed]] arguments) :
      Written (.converted converter place parameters)
        (.ident "_mapto" :: Token.steps ["TypeConverter", "convert"] ++ [.group .paren arguments])
  | mapped {place : FieldPath} {tokens : List Token} (read : place.Written tokens) :
      Written (.mapped place) (Token.mapped (Token.operator "&" ++ tokens))
  | mappedEach {place : FieldPath} {tokens : List Token} (read : place.Written tokens) :
      Written (.mappedEach place)
        (tokens ++ Token.operator "." ++ [.ident "iter", .group .paren []] ++
          Token.operator "." ++ [.ident "map", .group .paren (Token.operator "|" ++
            [.ident "element"] ++ Token.operator "|" ++ Token.mapped [.ident "element"])] ++
          Token.operator "." ++ [.ident "collect", .group .paren []])
  | parameter (name : String) : Written (.parameter name) [.ident name]
  | unset : Written .unset (Token.call ["core", "default", "Default", "default"] [])

namespace Printing

lemma clone_written (p : FieldPath) : (MemberValue.cloned p).Written (clone p) := by
  rw [clone, rootPath_parens]
  exact .cloned (place_written p)

lemma literals_passed (parameters : List Literal) :
    List.Forall₂ Literal.Passed parameters
      (parameters.map fun parameter =>
        support ["Param", "from"] ++ parens (literal parameter)) := by
  rw [List.forall₂_map_right_iff, List.forall₂_same]
  intro parameter _
  rw [support, localPath_cons]
  exact .from (literal_written parameter)

theorem value_written (v : MemberValue) : v.Written (value v) := by
  cases v with
  | cloned p => exact clone_written p
  | boxed p =>
    rw [value, rootPath_parens]
    exact .boxed (clone_written p)
  | lifted p =>
    rw [value, rootPath_parens]
    exact .lifted (clone_written p)
  | converted converter p parameters =>
    have listed := (Token.Listed.closed (op "&" ++ brackets (commas (parameters.map fun parameter =>
      support ["Param", "from"] ++ parens (literal parameter))))).before (clone p) |>.before
        (Token.operator "&" ++ converter.defaultTokens)
    have written := MemberValue.Written.converted (clone_written p) (literals_passed parameters)
      (commas_listed _) listed
    rw [PathExpr.defaultTokens] at written
    rw [value, support, localPath_cons, rootPath_cons]
    simp only [List.append_assoc, List.cons_append] at written ⊢
    exact written
  | mapped p => exact .mapped (place_written p)
  | mappedEach p =>
    have written := MemberValue.Written.mappedEach (place_written p)
    simp only [List.append_assoc, List.cons_append, List.nil_append] at written
    simp only [value, List.append_assoc]
    exact written
  | parameter binding => exact .parameter binding
  | unset =>
    rw [value, rootPath_parens]
    exact .unset

end Printing

/-! ## Constructions -/

/-- The expression of what the inherited part is mapped from. -/
inductive PartSource.Written (source : String) : PartSource → List Token → Prop
  | whole : Written source .whole [.ident source]
  | part {place : FieldPath} {tokens : List Token} (read : place.Written tokens) :
      Written source (.part place) (Token.operator "&" ++ tokens)
  | view : Written source .view
      (Token.call ["core", "convert", "AsRef", "as_ref"] [.ident source])

/-- The call that maps an inherited part of a type from what it is mapped from. -/
def Token.mappedPart (ty : TypeExpr) (origin : List Token) : List Token :=
  operator "<" ++ ty.tokens ++ [.ident "as", .ident "_mapto"] ++ steps ["MapFrom"] ++
    operator "<" ++ [.ident "_"] ++ operator ">>" ++ steps ["map_from_with_context"] ++
    [.group .paren (.ident MappingCode.context :: comma :: origin)]

/-- A field of a literal and its value, the inherited part mapped from its origin. -/
def PartSource.Sets (source : String) (part : String × TypeExpr × PartSource)
    (entry : List Token) : Prop :=
  ∃ origin, part.2.2.Written source origin ∧
    entry = .ident part.1 :: Token.operator ":" ++ Token.mappedPart part.2.1 origin

def MemberValue.Sets (setting : FieldName × MemberValue) (entry : List Token) : Prop :=
  ∃ tokens, setting.2.Written tokens ∧ entry = setting.1.token :: Token.operator ":" ++ tokens

/-- The expression that builds the target. A literal lists the inherited part, if there is one, and
behind it the fields in their order. -/
inductive Construction.Written (source : String) : Construction → List Token → Prop
  | fields {base : Option (String × TypeExpr × PartSource)}
      {values : List (FieldName × MemberValue)} {first rest : List (List Token)} {entries : List Token}
      (inherited : List.Forall₂ (PartSource.Sets source) base.toList first)
      (settings : List.Forall₂ MemberValue.Sets values rest)
      (listed : Token.Listed (first ++ rest) entries) :
      Written source (.fields base values) [.ident "Self", .group .brace entries]
  | call {constructor : Option String} {values : List MemberValue} {each : List (List Token)}
      {arguments : List Token} (given : List.Forall₂ MemberValue.Written values each)
      (listed : Token.Listed each arguments) :
      Written source (.call constructor values)
        (.ident "Self" :: Token.steps constructor.toList ++ [.group .paren arguments])
  | unit : Written source .unit [.ident "Self"]

lemma Construction.Written.literal {source : String}
    {base : Option (String × TypeExpr × PartSource)} {values : List (FieldName × MemberValue)}
    {tokens : List Token} (written : (Construction.fields base values).Written source tokens) :
    ∃ first rest entries, tokens = [.ident "Self", .group .brace entries] ∧
      List.Forall₂ (PartSource.Sets source) base.toList first ∧
      List.Forall₂ MemberValue.Sets values rest ∧ Token.Listed (first ++ rest) entries := by
  cases written with
  | fields inherited settings listed => exact ⟨_, _, _, rfl, inherited, settings, listed⟩

lemma Construction.Written.arguments {source : String} {constructor : Option String}
    {values : List MemberValue} {tokens : List Token}
    (written : (Construction.call constructor values).Written source tokens) :
    ∃ each arguments, tokens =
        .ident "Self" :: Token.steps constructor.toList ++ [.group .paren arguments] ∧
      List.Forall₂ MemberValue.Written values each ∧ Token.Listed each arguments := by
  cases written with
  | call given listed => exact ⟨_, _, rfl, given, listed⟩

def MemberValue.Assigns (setting : FieldName × MemberValue) (statement : List Token) : Prop :=
  ∃ tokens, setting.2.Written tokens ∧ statement =
    .ident "self" :: Token.operator "." ++ setting.1.token :: Token.operator "=" ++ tokens ++
      Token.operator ";"

def Token.newContext : List Token :=
  operator "&" ++ [.ident "mut", .ident "_mapto"] ++ steps ["MappingContext", "new"] ++
    [.group .paren []]

/-- The body of an update: a context where one is used, then one statement for each assignment, in
their order. -/
def UpdateCode.Written (update : UpdateCode) (body : List Token) : Prop :=
  ∃ statements, List.Forall₂ MemberValue.Assigns update.assignments statements ∧
    body = (if update.needsContext then
      [.ident "let", .ident MappingCode.context] ++ Token.operator "=" ++ Token.newContext ++
        Token.operator ";" else []) ++ statements.flatten

namespace Printing

theorem partSource_written (source : String) (origin : PartSource) :
    origin.Written source (partSource source origin) := by
  cases origin with
  | whole => exact .whole
  | part p => exact .part (place_written p)
  | view =>
    rw [partSource, rootPath_parens]
    exact .view

lemma partValue_eq (source : String) (ty : TypeExpr) (origin : PartSource) :
    partValue source ty origin = Token.mappedPart ty (partSource source origin) := by
  rw [partValue, Token.mappedPart, support, localPath_cons]
  simp only [List.append_assoc, List.cons_append]
  rfl

lemma values_written (values : List MemberValue) :
    List.Forall₂ MemberValue.Written values (values.map value) := by
  rw [List.forall₂_map_right_iff, List.forall₂_same]
  exact fun v _ => value_written v

lemma fields_set (values : List (FieldName × MemberValue)) :
    List.Forall₂ MemberValue.Sets values
      (values.map fun setting => [setting.1.token] ++ op ":" ++ value setting.2) := by
  rw [List.forall₂_map_right_iff, List.forall₂_same]
  exact fun setting _ => ⟨value setting.2, value_written setting.2, rfl⟩

theorem construction_written (source : String) (built : Construction) :
    built.Written source (construction source built) := by
  cases built with
  | fields base values =>
    cases base with
    | none =>
      exact .fields .nil (fields_set values) (commas_listed _)
    | some part =>
      obtain ⟨field, ty, origin⟩ := part
      have entry : PartSource.Sets source (field, ty, origin)
          (name field ++ op ":" ++ partValue source ty origin) :=
        ⟨_, partSource_written source origin, by rw [partValue_eq]; rfl⟩
      have listed := (commas_listed (values.map fun setting =>
        [setting.1.token] ++ op ":" ++ value setting.2)).before
          (name field ++ op ":" ++ partValue source ty origin)
      have inherited : List.Forall₂ (PartSource.Sets source) (some (field, ty, origin)).toList
          [name field ++ op ":" ++ partValue source ty origin] := .cons entry .nil
      have written := Construction.Written.fields inherited (fields_set values) listed
      rw [construction]
      simp only [List.append_assoc, List.cons_append] at written ⊢
      exact written
  | call constructor values =>
    cases constructor with
    | none => exact .call (values_written values) (commas_listed _)
    | some called =>
      rw [construction]
      simp only [localPath_cons]
      exact .call (values_written values) (commas_listed _)
  | unit => exact .unit

end Printing

end MemberMapping
