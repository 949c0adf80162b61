import Mathlib.Algebra.Group.Int.Defs
import Mathlib.Algebra.Group.Nat.Defs
import MemberMapping.Expansion.Printing
import MemberMapping.Inventory.Marks
import MemberMapping.Proofs.WrittenIntegers

/-!
Integer parameters of converters.

Expressions are read down to the literal, and the integer is made on the way back, sign by sign. The
magnitude is checked where the literal is read, before any sign counts. So the least integer of 64
bits cannot be written, though every other one can, and negation never leaves the range.
-/

namespace MemberMapping

/-! ## Literals -/

namespace Literal

lemma textOf?_of_integerValue? {written : String} {n : Nat}
    (number : Token.integerValue? written.toList = some n) :
    ArgumentReader.textOf? written = none := by
  rw [ArgumentReader.textOf?]
  cases letters : written.toList with
  | nil => rfl
  | cons c rest =>
    have digit : c.isDigit = true := by
      by_contra other
      rw [letters] at number
      simp [Token.integerValue?, other] at number
    rw [Token.readString]
    · rfl
    · rintro _ same
      cases same
      cases digit
    · rintro _ same
      cases same
      cases digit

lemma ofText_of_integerValue? {written : String} {n : Nat}
    (number : Token.integerValue? written.toList = some n) :
    Literal.ofText written = Literal.ofMagnitude n := by
  rw [Literal.ofText, textOf?_of_integerValue? number, number]

/-- The magnitude alone has to fit, whatever signs stand before it. -/
lemma ofTokens_of_integer? {tokens : List Token} {n : Int}
    (written : Token.integer? tokens = some n) :
    Literal.ofTokens tokens =
      if n.natAbs < 2 ^ 63 then .ok (.int (Int64.ofInt n)) else .error (.unreadable .tooLarge) := by
  fun_induction Token.integer? tokens generalizing n with
  | case1 joint rest ih =>
    obtain ⟨m, inner, rfl⟩ := Option.map_eq_some_iff.mp written
    have step : Literal.ofTokens (.mark '-' joint :: rest) =
        Literal.ofTokens rest >>= Literal.negated := rfl
    rw [step, ih inner, Int.natAbs_neg]
    split
    · rw [Int64.ofInt_neg]
      rfl
    · rfl
  | case2 text =>
    obtain ⟨m, number, rfl⟩ := Option.map_eq_some_iff.mp written
    exact ofText_of_integerValue? number
  | case3 => cases written

lemma ofMagnitude_int {n : Nat} {v : Int64} (read : Literal.ofMagnitude n = .ok (.int v)) :
    0 ≤ v.toInt := by
  rw [Literal.ofMagnitude] at read
  split at read
  · rename_i small
    cases read
    rw [Int64.toInt_ofNat_of_lt small]
    exact Int.natCast_nonneg n
  · cases read

lemma ofText_int {written : String} {v : Int64} (read : Literal.ofText written = .ok (.int v)) :
    0 ≤ v.toInt := by
  rw [Literal.ofText] at read
  split at read
  · cases read
  · exact ofMagnitude_int read
  · cases read
  · split at read <;> cases read
  · cases read

lemma toInt_neg_of_lt {v : Int64} (above : -2 ^ 63 < v.toInt) : (-v).toInt = -v.toInt := by
  have below := v.toInt_lt
  rw [Int64.toInt_neg]
  exact Int.bmod_eq_of_le (by omega) (by omega)

/-- An integer that is accepted is never the least one of 64 bits, so that its negation is one as
well. -/
lemma least_lt_of_ofTokens {tokens : List Token} {v : Int64}
    (read : Literal.ofTokens tokens = .ok (.int v)) : -2 ^ 63 < v.toInt := by
  fun_induction Literal.ofTokens tokens generalizing v with
  | case1 _ _ _ ih => exact ih read
  | case2 _ rest ih =>
    cases inner : Literal.ofTokens rest with
    | error fault => rw [inner] at read; cases read
    | ok literal =>
      rw [inner] at read
      cases literal with
      | int u =>
        cases read
        have above := ih inner
        have below := u.toInt_lt
        rw [toInt_neg_of_lt above]
        omega
      | _ => cases read
  | case3 written => have positive := ofText_int read; omega
  | _ => cases read

end Literal

/-! ## Reading -/

lemma bind_of_ok {σ ε α β : Type} {first : StateT σ (Except ε) α}
    {next : α → StateT σ (Except ε) β} {state left : σ} {value : α}
    (read : first state = .ok (value, left)) : (first >>= next) state = next value left := by
  change (first state >>= fun (value, left) => next value left) = _
  rw [read]
  rfl

namespace Grammar

open Reader

lemma operandRule_minus (g : Grammar) (braces joint : Bool) (rest : List Token) :
    operandRule g braces (.mark '-' joint :: rest) =
      (g.operand braces rest).map fun (e, behind) =>
        ({ code := .token (.mark '-' false) :: e.code }, behind) := by
  have step : operandRule g braces (.mark '-' joint :: rest) = (do
      let (e, behind) ← g.operand braces rest
      return ({ code := .token (.mark '-' false) :: e.code }, behind)) := rfl
  rw [step]
  cases g.operand braces rest <;> rfl

/-- Signs and a literal as code. The signs no longer belong to one operator. -/
def signedCode (signs : List Bool) (written : String) : List Code :=
  Code.ofTokens (signs.map (fun _ => .mark '-' false) ++ [.literal written])

lemma operand_signed (signs : List Bool) (written : String) (braces : Bool) {depth : Nat}
    (deep : signs.length < depth) :
    (within depth).operand braces (signs.map (.mark '-') ++ [.literal written]) =
      .ok ({ code := signedCode signs written }, []) := by
  induction signs generalizing depth with
  | nil =>
    obtain ⟨depth, rfl⟩ := Nat.exists_eq_succ_of_ne_zero (Nat.ne_of_gt deep)
    rfl
  | cons joint signs ih =>
    obtain ⟨depth, rfl⟩ := Nat.exists_eq_succ_of_ne_zero (Nat.ne_of_gt (Nat.zero_lt_of_lt deep))
    have inner := ih (Nat.lt_of_succ_lt_succ deep)
    have step := operandRule_minus (within depth) braces joint
      (signs.map (.mark '-') ++ [.literal written])
    rw [inner] at step
    exact step

/-- Nothing follows the operand, so that it is the whole expression. -/
lemma expression_signed (signs : List Bool) (written : String) (braces : Bool) {depth : Nat}
    (deep : signs.length + 1 < depth) :
    (within depth).expression braces (signs.map (.mark '-') ++ [.literal written]) =
      .ok ({ code := signedCode signs written }, []) := by
  obtain ⟨depth, rfl⟩ := Nat.exists_eq_succ_of_ne_zero (Nat.ne_of_gt (Nat.zero_lt_of_lt deep))
  have inner := operand_signed signs written braces (Nat.lt_of_succ_lt_succ deep)
  exact bind_of_ok inner

end Grammar

namespace Reader

variable {α : Type}

/-- One element alone is a list without a comma. -/
lemma commaList_single {element : Reader α} {tokens : List Token} {value : α}
    (filled : tokens ≠ []) (read : element tokens = .ok (value, [])) :
    commaList element tokens = .ok (([value], false), []) := by
  have more : ahead (·.isEmpty) tokens = .ok (false, tokens) := by
    change Except.ok (tokens.isEmpty, tokens) = _
    rw [List.isEmpty_eq_false_iff.mpr filled]
  have nothing : ahead (·.isEmpty) [] = .ok (true, []) := rfl
  have list : listWithin (·.isEmpty) "," element (tokens.length + 1) tokens =
      .ok (([value], false), []) := by
    rw [listWithin, bind_of_ok more, if_neg Bool.false_ne_true, bind_of_ok read,
      bind_of_ok nothing, if_pos rfl]
    rfl
  have all : (get : Reader (List Token)) tokens = .ok (tokens, tokens) := rfl
  rw [commaList, listUntil, bind_of_ok all, bind_of_ok list]
  rfl

lemma inside_of_ok {rule : Reader α} {inner rest : List Token} {value : α}
    (read : rule inner = .ok (value, [])) :
    inside .paren rule (.group .paren inner :: rest) = .ok (value, rest) := by
  have whole : all rule inner = .ok value := by
    rw [all, read]
    rfl
  have lifted : (liftM (all rule inner) : Reader α) (.group .paren inner :: rest) =
      .ok (value, .group .paren inner :: rest) := by
    rw [whole]
    rfl
  have ahead : (get : Reader (List Token)) (.group .paren inner :: rest) =
      .ok (.group .paren inner :: rest, .group .paren inner :: rest) := rfl
  rw [inside, bind_of_ok ahead]
  exact (bind_of_ok lifted).trans rfl

end Reader

/-- The arguments of a converter behind its path: a comma and one parameter. -/
def parameterPart (joint : Bool) (parameter : List Token) : List Token :=
  [.mark ',' joint, .ident "params", .group .paren parameter]

lemma lift_of_ok {α : Type} {rule : Reader α} {tokens : List Token} {outcome : α × List Token}
    (read : rule tokens = .ok outcome) :
    (liftM rule : ArgumentReader α) tokens = .ok outcome := by
  change (rule tokens).mapError _ = _
  rw [read]
  rfl

lemma ConverterMark.rule_of_path {g : Grammar} {front parameter : List Token} {joint : Bool}
    {path : PathExpr} {code : List Code}
    (reads : g.path false front = .ok (path, parameterPart joint parameter))
    (filled : parameter ≠ []) (read : g.expression true parameter = .ok ({ code := code }, [])) :
    ConverterMark.rule g front =
      (Literal.ofTokens (Code.tokensOf code)).map fun value => (⟨path, [value]⟩, []) := by
  have comma : Reader.mark? "," (parameterPart joint parameter) =
      .ok (Code.ofTokens [Token.comma], [.ident "params", .group .paren parameter]) := rfl
  have further : Reader.atEnd [.ident "params", .group .paren parameter] =
      .ok (false, [.ident "params", .group .paren parameter]) := rfl
  have label : Reader.name [.ident "params", .group .paren parameter] =
      .ok ("params", [.group .paren parameter]) := rfl
  have element : (do return Code.tokensOf (← g.expression true).code : Reader (List Token))
      parameter = .ok (Code.tokensOf code, []) := (bind_of_ok read).trans rfl
  have inner := @Reader.inside_of_ok _ _ _ [] _ (Reader.commaList_single filled element)
  rw [rule, bind_of_ok (lift_of_ok reads), bind_of_ok (lift_of_ok comma),
    bind_of_ok (lift_of_ok further), if_neg (by decide), bind_of_ok (lift_of_ok label)]
  refine (bind_of_ok (lift_of_ok inner)).trans ?_
  simp only [List.mapM_cons, List.mapM_nil]
  cases Literal.ofTokens (Code.tokensOf code) with
  | error fault => rfl
  | ok value => rfl

/-! ## Attributes -/

lemma Token.countAll_append (first second : List Token) :
    Token.countAll (first ++ second) = Token.countAll first + Token.countAll second := by
  induction first with
  | nil => exact (Nat.zero_add _).symm
  | cons token rest ih => rw [List.cons_append, countAll, countAll, ih, Nat.add_assoc]

lemma Token.length_le_countAll (tokens : List Token) : tokens.length ≤ Token.countAll tokens := by
  induction tokens with
  | nil => exact Nat.zero_le _
  | cons token rest ih =>
    have one : 1 ≤ token.count := by cases token <;> simp [count]
    rw [List.length_cons, countAll]
    omega

lemma Token.contains_of_free {name : String} (free : Token.isKeyword name = false)
    {words : List String} (reserved : words ⊆ Token.keywords) : words.contains name = false := by
  by_contra listed
  have known := reserved (List.contains_iff_mem.mp (Bool.not_eq_false _ ▸ listed))
  rw [Token.isKeyword, List.contains_iff_mem.mpr known] at free
  cases free

lemma Grammar.path_of_name (g : Grammar) {name : String} (free : Token.isKeyword name = false)
    (joint : Bool) (parameter : List Token) :
    g.path false (.ident name :: parameterPart joint parameter) =
      .ok (.ofName name, parameterPart joint parameter) := by
  have special : Reader.ahead (Reader.beginsAnyWord ["super", "self", "crate", "try"])
      (.ident name :: parameterPart joint parameter) =
        .ok (false, .ident name :: parameterPart joint parameter) := by
    change Except.ok (List.contains _ name, _) = _
    rw [Token.contains_of_free free (by decide)]
  have self : Reader.isNextWord "Self" (.ident name :: parameterPart joint parameter) =
      .ok (false, .ident name :: parameterPart joint parameter) := by
    have other : ["Self"].contains name = false := Token.contains_of_free free (by decide)
    rw [List.contains_cons, List.contains_nil, Bool.or_false] at other
    change Except.ok (name == "Self", _) = _
    rw [other]
  have named : Reader.name (.ident name :: parameterPart joint parameter) =
      .ok (name, parameterPart joint parameter) := by
    change (if Token.isKeyword name = true then _ else _ : Reader String) _ = _
    rw [free]
    rfl
  have first : segment g (argumentBounds g) false (.ident name :: parameterPart joint parameter) =
      .ok (.plain name, parameterPart joint parameter) := by
    rw [segment, bind_of_ok special, if_neg Bool.false_ne_true, bind_of_ok self]
    exact (bind_of_ok named).trans rfl
  have unrooted : Reader.mark? "::" (.ident name :: parameterPart joint parameter) =
      .ok ([], .ident name :: parameterPart joint parameter) := rfl
  rw [path, pathWith, bind_of_ok unrooted]
  exact (bind_of_ok first).trans rfl

lemma Code.tokensOf_ofTokens (tokens : List Token) :
    Code.tokensOf (Code.ofTokens tokens) = tokens := by
  induction tokens with
  | nil => rfl
  | cons token rest ih => exact congrArg (token :: ·) ih

/-- The path of a converter is read from its arguments, up to the comma before the parameter. -/
def NamesConverter (named : List Token) (path : PathExpr) (joint : Bool) (parameter : List Token) :
    Prop :=
  (Grammar.ofTokens (named ++ parameterPart joint parameter)).path false
      (named ++ parameterPart joint parameter) =
    .ok (path, parameterPart joint parameter)

lemma namesConverter_of_name {name : String} (free : Token.isKeyword name = false) (joint : Bool)
    (parameter : List Token) :
    NamesConverter [.ident name] (.ofName name) joint parameter :=
  Grammar.path_of_name _ free joint parameter

def converterAttribute (named : List Token) (joint : Bool) (parameter : List Token) : Attribute :=
  ⟨⟨false, ["converter"]⟩, .arguments .paren (named ++ parameterPart joint parameter)⟩

lemma MemberMarks.add_converterAttribute {marks : MemberMarks} (free : marks.converter = none)
    (named : List Token) (joint : Bool) (parameter : List Token) :
    marks.add (converterAttribute named joint parameter) =
      ((converterAttribute named joint parameter).readArguments "converter"
        ConverterMark.rule).map fun converter => { marks with converter := some converter } := by
  have other : (converterAttribute named joint parameter).path.isName "map_property" = false := rfl
  have own : (converterAttribute named joint parameter).path.isName "converter" = true := rfl
  rw [add, other, own, free]
  cases (converterAttribute named joint parameter).readArguments "converter"
    ConverterMark.rule <;> rfl

lemma length_lt_depth (named : List Token) (joint : Bool) (parameter : List Token) :
    parameter.length < 3 * Token.countAll (named ++ parameterPart joint parameter) + 10 := by
  have whole := Token.length_le_countAll parameter
  have inside : Token.countAll (parameterPart joint parameter) = Token.countAll parameter + 3 := by
    simp [parameterPart, Token.countAll, Token.count]
    omega
  rw [Token.countAll_append, inside]
  omega

/-- An integer is accepted as a parameter if its magnitude fits, and as itself. -/
lemma MemberMarks.add_integer {named : List Token} {path : PathExpr} {joint : Bool}
    {parameter : List Token} {n : Int} {signs : List Bool} {written : String} {marks : MemberMarks}
    (form : parameter = signs.map (.mark '-') ++ [.literal written])
    (denotes : Token.integer? parameter = some n)
    (reads : NamesConverter named path joint parameter) (free : marks.converter = none) :
    marks.add (converterAttribute named joint parameter) =
      if n.natAbs < 2 ^ 63 then
        .ok { marks with converter := some ⟨path, [.int (Int64.ofInt n)]⟩ }
      else .error (.unreadable .tooLarge) := by
  have length : parameter.length = signs.length + 1 := by simp [form]
  have deep := length_lt_depth named joint parameter
  rw [length] at deep
  have read := Grammar.expression_signed signs written true deep
  rw [← form] at read
  have outcome := ConverterMark.rule_of_path reads (by simp [form]) read
  have again : Token.integer? (Code.tokensOf (Grammar.signedCode signs written)) = some n := by
    rw [Grammar.signedCode, Code.tokensOf_ofTokens, Token.integer?_joint, ← form, denotes]
  rw [Literal.ofTokens_of_integer? again] at outcome
  have arguments : (converterAttribute named joint parameter).readArguments "converter"
      ConverterMark.rule = ArgumentReader.all
        (ConverterMark.rule (Grammar.ofTokens (named ++ parameterPart joint parameter)))
        (named ++ parameterPart joint parameter) := rfl
  rw [add_converterAttribute free, arguments, ArgumentReader.all, outcome]
  split <;> rfl

/-! ## Generated code -/

lemma Printing.integer?_literal (v : Int64) :
    Token.integer? (Printing.literal (.int v)) = some v.toInt := by
  have number : Token.integerValue? (toString v.toInt.natAbs ++ "i64").toList =
      some v.toInt.natAbs := by
    rw [String.toList_append]
    exact Token.integerValue?_toString _ (by decide)
  have code : Printing.literal (.int v) =
      (if v < 0 then [false] else []).map (.mark '-') ++
        [.literal (toString v.toInt.natAbs ++ "i64")] := by
    rw [literal]
    split <;> rfl
  have sign : v < 0 ↔ v.toInt < 0 := Int64.lt_iff_toInt_lt
  rw [code, Token.integer?_signed number]
  refine congrArg some ?_
  by_cases negative : v < 0
  · have below := sign.mp negative
    rw [if_pos negative]
    change (-v.toInt.natAbs : Int) = v.toInt
    omega
  · have above := sign.not.mp negative
    rw [if_neg negative]
    change (v.toInt.natAbs : Int) = v.toInt
    omega

/-- Every integer of 64 bits but the least one is accepted as the parameter of a converter when it
is written in decimal, and as itself; the least one is said to be too large. An integer that is
accepted can be negated, whatever expression it comes from, and the code that is generated for an
integer denotes it. -/
theorem integer_parameter_accepted_iff {named : List Token} {path : PathExpr} {joint : Bool}
    {n : Int} {pairs : Nat} {marks : MemberMarks} (least : -2 ^ 63 ≤ n) (most : n < 2 ^ 63)
    (reads : NamesConverter named path joint (Token.decimalTokens n pairs))
    (free : marks.converter = none) :
    Token.scan (Token.decimalText n pairs) = some (Token.decimalTokens n pairs) ∧
    (Int64.ofInt n).toInt = n ∧
    (marks.add (converterAttribute named joint (Token.decimalTokens n pairs)) =
        .ok { marks with converter := some ⟨path, [.int (Int64.ofInt n)]⟩ } ↔ n ≠ -2 ^ 63) ∧
    (n = -2 ^ 63 → marks.add (converterAttribute named joint (Token.decimalTokens n pairs)) =
        .error (.unreadable .tooLarge)) ∧
    (∀ expression v, Literal.ofTokens expression = .ok (.int v) → (-v).toInt = -v.toInt) ∧
    Token.integer? (Printing.literal (.int (Int64.ofInt n))) = some n := by
  obtain ⟨signs, _, operator⟩ := Token.operatorMarks_replicate (2 * pairs + if n < 0 then 1 else 0)
  have form : Token.decimalTokens n pairs =
      signs.map (.mark '-') ++ [.literal (toString n.natAbs)] :=
    congrArg (· ++ [Token.literal (toString n.natAbs)]) operator
  have outcome := MemberMarks.add_integer form (Token.integer?_decimalTokens n pairs) reads free
  have fits : (Int64.ofInt n).toInt = n := Int64.toInt_ofInt_of_le least most
  refine ⟨Token.scan_decimalText n pairs, fits, ?_, ?_, ?_, ?_⟩
  · rw [outcome]
    constructor
    · rintro accepted rfl
      cases accepted
    · intro other
      rw [if_pos (by omega)]
  · rintro rfl
    exact outcome
  · exact fun expression v read =>
      Literal.toInt_neg_of_lt (Literal.least_lt_of_ofTokens read)
  · rw [Printing.integer?_literal, fits]

/-- The integer behind the least one is accepted, with further signs before it. -/
theorem integer_behind_least_accepted :
    NamesConverter [.ident "Scale"] (.ofName "Scale") false
      (Token.decimalTokens (-9223372036854775807) 1) ∧
    Token.decimalText (-9223372036854775807) 1 = "---9223372036854775807" ∧
    MemberMarks.add {} (converterAttribute [.ident "Scale"] false
        (Token.decimalTokens (-9223372036854775807) 1)) =
      .ok { converter := some ⟨.ofName "Scale", [.int (-9223372036854775807)]⟩ } := by
  have reads : NamesConverter [.ident "Scale"] (.ofName "Scale") false
      (Token.decimalTokens (-9223372036854775807) 1) :=
    namesConverter_of_name (by decide) false _
  have free : MemberMarks.converter {} = none := rfl
  obtain ⟨_, _, accepted, _⟩ :=
    integer_parameter_accepted_iff (by decide) (by decide) reads free
  exact ⟨reads, by decide, accepted.mpr (by decide)⟩

/-- The least integer of 64 bits is refused. -/
theorem least_integer_refused :
    Token.scan "-9223372036854775808" = some (Token.decimalTokens (-9223372036854775808) 0) ∧
    Token.integer? (Token.decimalTokens (-9223372036854775808) 0) =
      some (-9223372036854775808) ∧
    Int64.minValue.toInt = -9223372036854775808 ∧
    MemberMarks.add {} (converterAttribute [.ident "Scale"] false
        (Token.decimalTokens (-9223372036854775808) 0)) =
      .error (.unreadable .tooLarge) := by
  have text : Token.decimalText (-9223372036854775808) 0 = "-9223372036854775808" := by decide
  have digits : toString (Int.natAbs (-9223372036854775808)) = "9223372036854775808" := by decide
  have form : Token.decimalTokens (-9223372036854775808) 0 =
      [false].map (.mark '-') ++ [.literal "9223372036854775808"] := by
    rw [Token.decimalTokens, digits]
    rfl
  have denotes := Token.integer?_decimalTokens (-9223372036854775808) 0
  have reads : NamesConverter [.ident "Scale"] (.ofName "Scale") false
      (Token.decimalTokens (-9223372036854775808) 0) :=
    namesConverter_of_name (by decide) false _
  have free : MemberMarks.converter {} = none := rfl
  have outcome := MemberMarks.add_integer form denotes reads free
  rw [if_neg (by decide)] at outcome
  exact ⟨text ▸ Token.scan_decimalText (-9223372036854775808) 0, denotes, by decide, outcome⟩

end MemberMapping
