import MemberMapping.Proofs.Lists
import MemberMapping.Token.Scan
import Mathlib.Tactic.FinCases

/-!
Integers in source text.

An integer is a literal, possibly behind minus signs, each of which turns it around. In decimal it
is written as its digits, which denote it with the suffix of its type or without, behind one minus
sign if it is negative. More minus signs in pairs leave it as it is.
-/

namespace MemberMapping.Token

/-! ## Decimal digits -/

def decimalDigits : List Char := ['0', '1', '2', '3', '4', '5', '6', '7', '8', '9']

lemma mem_decimalDigits {c : Char} (digit : c.isDigit = true) : c ∈ decimalDigits := by
  have bounds : 48 ≤ c.toNat ∧ c.toNat ≤ 57 := Char.isDigit_iff_toNat.mp digit
  have codes : ∀ k ∈ List.range' 48 10, Char.ofNat k ∈ decimalDigits := by decide
  have known := codes c.toNat (List.mem_range'_1.mpr (by omega))
  rwa [Char.ofNat_toNat] at known

lemma hexValue?_of_digit {c : Char} (digit : c.isDigit = true) :
    hexValue? c = some (c.toNat - '0'.toNat) ∧ c.toNat - '0'.toNat < 10 := by
  have each : decimalDigits.all (fun c => hexValue? c = some (c.toNat - '0'.toNat) ∧
      c.toNat - '0'.toNat < 10) = true := by decide
  exact of_decide_eq_true (List.all_eq_true.mp each c (mem_decimalDigits digit))

lemma ne_gap_of_digit {c : Char} (digit : c.isDigit = true) : c ≠ '_' := by
  rintro rfl
  cases digit

structure IsDecimal (digits : List Char) : Prop where
  filled : digits ≠ []
  digit : ∀ c ∈ digits, c.isDigit = true

lemma isDecimal_toDigits (n : Nat) : IsDecimal (Nat.toDigits 10 n) :=
  ⟨Nat.toDigits_ne_nil, fun _ listed =>
    Nat.isDigit_of_mem_toDigits (by omega) (by omega) listed⟩

/-- What may stand behind the digits: nothing, or the type of 64 bits. -/
def intSuffixes : List (List Char) := [[], ['i', '6', '4']]

namespace IsDecimal

variable {digits suffix : List Char} (decimal : IsDecimal digits)

include decimal

lemma exists_cons : ∃ c rest, digits = c :: rest ∧ c.isDigit = true := by
  obtain ⟨c, rest, rfl⟩ := List.exists_cons_of_ne_nil decimal.filled
  exact ⟨c, rest, rfl, decimal.digit c List.mem_cons_self⟩

lemma splitBase_eq (known : suffix ∈ intSuffixes) :
    splitBase (digits ++ suffix) = (10, digits ++ suffix) := by
  have absent : ∀ mark, mark.isDigit = false → (∀ suffix ∈ intSuffixes, mark ∉ suffix) →
      mark ∉ digits ++ suffix := by
    intro mark other ends listed
    rcases List.mem_append.mp listed with front | behind
    · cases other.symm.trans (decimal.digit mark front)
    · exact ends suffix known behind
  have noHex := absent 'x' rfl (by decide)
  have noOctal := absent 'o' rfl (by decide)
  have noBinary := absent 'b' rfl (by decide)
  generalize digits ++ suffix = cs at noHex noOctal noBinary
  rw [splitBase]
  · rintro rest rfl
    exact noHex (by simp)
  · rintro rest rfl
    exact noOctal (by simp)
  · rintro rest rfl
    exact noBinary (by simp)

lemma fitsBase_eq : fitsBase 10 digits = true := by
  refine List.all_eq_true.mpr fun c listed => ?_
  obtain ⟨value, small⟩ := hexValue?_of_digit (decimal.digit c listed)
  rw [value]
  exact decide_eq_true small

lemma not_all_gaps : digits.all (· = '_') = false := by
  obtain ⟨c, rest, rfl, digit⟩ := decimal.exists_cons
  simp [ne_gap_of_digit digit]

lemma span_eq (known : suffix ∈ intSuffixes) :
    (digits ++ suffix).takeWhile (isIntegerPart 10) = digits ∧
      (digits ++ suffix).dropWhile (isIntegerPart 10) = suffix := by
  have parts : ∀ c ∈ digits, isIntegerPart 10 c = true := fun c listed => by
    simp [isIntegerPart, isDigitOrGap, decimal.digit c listed]
  have ends : ∀ suffix ∈ intSuffixes, suffix.takeWhile (isIntegerPart 10) = [] ∧
      suffix.dropWhile (isIntegerPart 10) = suffix := by decide
  rw [List.takeWhile_append_of_pos parts, List.dropWhile_append_of_pos parts, (ends suffix known).1,
    (ends suffix known).2, List.append_nil]
  exact ⟨rfl, rfl⟩

lemma integerValue?_eq (known : suffix ∈ intSuffixes) :
    integerValue? (digits ++ suffix) = some (Decimal.digitsValue 0 digits) := by
  have begins : (digits ++ suffix).head?.any Char.isDigit = true := by
    obtain ⟨c, rest, rfl, digit⟩ := decimal.exists_cons
    exact digit
  have ends : ∀ suffix ∈ intSuffixes, makesFloat suffix = false ∧ isSuffix suffix = true := by
    decide
  have value : (digits.filterMap hexValue?).foldl (fun n digit => 10 * n + digit) 0 =
      Decimal.digitsValue 0 digits := by
    rw [List.foldl_filterMap, Decimal.digitsValue]
    refine List.foldl_ext _ _ _ fun n c listed => ?_
    rw [(hexValue?_of_digit (decimal.digit c listed)).1]
  simp only [integerValue?, decimal.splitBase_eq known, decimal.span_eq known,
    decimal.fitsBase_eq, decimal.not_all_gaps, begins, ends suffix known, value]
  rfl

/-- Nothing follows decimal digits that stand alone. -/
lemma afterNumber_eq : afterNumber digits = some [] := by
  have alone : ([] : List Char) ∈ intSuffixes := by decide
  have base := decimal.splitBase_eq alone
  have span := decimal.span_eq alone
  rw [List.append_nil] at base span
  have whole : digits.dropWhile isDigitOrGap = [] := by
    have parts : ∀ c ∈ digits, isDigitOrGap c = true := fun c listed => by
      simp [isDigitOrGap, decimal.digit c listed]
    have all : (digits ++ []).dropWhile isDigitOrGap = [] := List.dropWhile_append_of_pos parts
    rwa [List.append_nil] at all
  have first : (digits.head? == some '_') = false := by
    obtain ⟨c, rest, rfl, digit⟩ := decimal.exists_cons
    simp [ne_gap_of_digit digit]
  have float : afterFloatDigits digits = none := by
    rw [afterFloatDigits, whole]
    split <;> rfl
  simp only [afterNumber, float, afterIntegerDigits, base, span, decimal.fitsBase_eq,
    decimal.not_all_gaps, first]
  rfl

end IsDecimal

/-! ## Scanning -/

/-- What begins with a minus sign or a digit is neither blank nor a comment, a bracket or text. -/
lemma plain_front {c : Char} (front : c ∈ '-' :: decimalDigits) (rest : List Char) :
    isSeparator c = false ∧ c ≠ '\r' ∧ afterComment? (c :: rest) = none ∧
      splitDoc? (c :: rest) = none ∧ openingOf? c = none ∧ closingOf? c = none ∧
      afterText? (c :: rest) = none := by
  have each : ('-' :: decimalDigits).all (fun c => isSeparator c = false ∧ c ≠ '\r') = true := by
    decide
  obtain ⟨apart, other⟩ := of_decide_eq_true (List.all_eq_true.mp each c front)
  refine ⟨apart, other, ?_⟩
  simp only [decimalDigits] at front
  fin_cases front <;> exact ⟨rfl, rfl, rfl, rfl, rfl⟩

lemma lexemes_plain {c : Char} (front : c ∈ '-' :: decimalDigits) {rest tail : List Char}
    {token : Token} (limit : Nat) (split : splitLeaf (c :: rest) = some (token, tail)) :
    lexemes (limit + 1) (c :: rest) = (lexemes limit tail).map (.leaf token :: ·) := by
  obtain ⟨apart, other, comment, doc, opening, closing, _⟩ := plain_front front rest
  rw [lexemes]
  simp only [apart, other, comment, doc, opening, closing, split, Bool.false_eq_true, false_and,
    if_false]
  change (lexemes limit tail >>= fun steps => some (.leaf token :: steps)) = _
  cases lexemes limit tail <;> rfl

lemma splitLeaf_minus (rest : List Char) :
    splitLeaf ('-' :: rest) = some (.mark '-' (beginsMark rest), rest) := rfl

lemma splitLeaf_digits {digits : List Char} (decimal : IsDecimal digits) :
    splitLeaf digits = some (.literal (String.ofList digits), []) := by
  have text : afterText? digits = none := by
    obtain ⟨c, rest, rfl, digit⟩ := decimal.exists_cons
    exact (plain_front (List.mem_cons_of_mem _ (mem_decimalDigits digit)) rest).2.2.2.2.2.2
  simp [splitLeaf, splitLiteral, text, decimal.afterNumber_eq]

lemma operatorMarks_minus {digits : List Char} (decimal : IsDecimal digits) (signs : Nat) :
    operatorMarks (List.replicate (signs + 1) '-') =
      .mark '-' (beginsMark (List.replicate signs '-' ++ digits)) ::
        operatorMarks (List.replicate signs '-') := by
  cases signs with
  | zero =>
    have last : ∀ c ∈ decimalDigits, ∀ rest, beginsMark (c :: rest) = false := by
      intro c listed rest
      simp only [decimalDigits] at listed
      fin_cases listed <;> rfl
    obtain ⟨c, rest, rfl, digit⟩ := decimal.exists_cons
    rw [List.replicate_zero, List.nil_append, last c (mem_decimalDigits digit)]
    rfl
  | succ signs => rfl

lemma lexemes_signed {digits : List Char} (decimal : IsDecimal digits) (signs extra : Nat) :
    lexemes (signs + extra + 2) (List.replicate signs '-' ++ digits) =
      some ((operatorMarks (List.replicate signs '-') ++
        [Token.literal (String.ofList digits)]).map Lexeme.leaf) := by
  induction signs with
  | zero =>
    have split := splitLeaf_digits decimal
    obtain ⟨c, rest, rfl, digit⟩ := decimal.exists_cons
    have front := List.mem_cons_of_mem '-' (mem_decimalDigits digit)
    rw [List.replicate_zero, List.nil_append, lexemes_plain front _ split]
    rfl
  | succ signs ih =>
    have length : signs + 1 + extra + 2 = signs + extra + 2 + 1 := by omega
    rw [operatorMarks_minus decimal, length, List.replicate_succ, List.cons_append,
      lexemes_plain List.mem_cons_self _ (splitLeaf_minus _), ih]
    rfl

lemma nest_leaves (tokens : List Token) : nest (tokens.map .leaf) = some tokens := by
  have steps : ∀ before, (tokens.map .leaf).foldlM OpenGroups.step ⟨[], before⟩ =
      some ⟨[], tokens.reverse ++ before⟩ := by
    induction tokens with
    | nil => exact fun before => rfl
    | cons token rest ih =>
      intro before
      rw [List.reverse_cons, List.append_assoc]
      exact ih (token :: before)
  have all := steps []
  rw [List.append_nil] at all
  rw [nest, all]
  exact congrArg some (List.reverse_reverse tokens)

/-! ## Integers in decimal -/

/-- The integer that tokens denote: a literal, possibly behind minus signs. -/
def integer? : List Token → Option Int
  | .mark '-' _ :: rest => (integer? rest).map (- ·)
  | [.literal written] => (integerValue? written.toList).map Int.ofNat
  | _ => none

lemma integer?_signed {written : String} {n : Nat}
    (number : integerValue? written.toList = some n) (signs : List Bool) :
    integer? (signs.map (.mark '-') ++ [.literal written]) =
      some (if signs.length % 2 = 0 then (n : Int) else -n) := by
  induction signs with
  | nil =>
    change (integerValue? written.toList).map Int.ofNat = _
    rw [number]
    rfl
  | cons joint signs ih =>
    change (integer? (signs.map (.mark '-') ++ [.literal written])).map (- ·) = _
    rw [ih, Option.map_some, List.length_cons]
    congr 1
    split <;> split <;> omega

lemma integer?_joint (signs : List Bool) (written : String) :
    integer? (signs.map (fun _ => .mark '-' false) ++ [.literal written]) =
      integer? (signs.map (.mark '-') ++ [.literal written]) := by
  induction signs with
  | nil => rfl
  | cons joint signs ih => exact congrArg (Option.map (- ·)) ih

/-- The minus signs before an integer: one if it is negative, and any number of pairs. -/
def minusSigns (n : Int) (pairs : Nat) : List Char :=
  List.replicate (2 * pairs + if n < 0 then 1 else 0) '-'

def decimalText (n : Int) (pairs : Nat) : String :=
  String.ofList (minusSigns n pairs) ++ toString n.natAbs

/-- The tokens of an integer in decimal. -/
def decimalTokens (n : Int) (pairs : Nat) : List Token :=
  operatorMarks (minusSigns n pairs) ++ [.literal (toString n.natAbs)]

lemma operatorMarks_replicate (count : Nat) : ∃ signs : List Bool, signs.length = count ∧
    operatorMarks (List.replicate count '-') = signs.map (.mark '-') := by
  induction count with
  | zero => exact ⟨[], rfl, rfl⟩
  | succ count ih =>
    obtain ⟨signs, length, marks⟩ := ih
    cases count with
    | zero => exact ⟨[false], rfl, rfl⟩
    | succ count =>
      refine ⟨true :: signs, congrArg (· + 1) length, ?_⟩
      rw [List.map_cons, ← marks]
      rfl

lemma toList_toString (n : Nat) : (toString n).toList = Nat.toDigits 10 n := by
  rw [Nat.toString_eq_repr, Nat.toList_repr]

lemma integerValue?_toString (n : Nat) {suffix : List Char} (known : suffix ∈ intSuffixes) :
    integerValue? ((toString n).toList ++ suffix) = some n := by
  rw [toList_toString, (isDecimal_toDigits n).integerValue?_eq known]
  exact congrArg some Nat.ofDigitChars_ten_toDigits

/-- An integer in decimal denotes itself, however many pairs of signs it has. -/
lemma integer?_decimalTokens (n : Int) (pairs : Nat) :
    integer? (decimalTokens n pairs) = some n := by
  have number : integerValue? ((toString n.natAbs).toList ++ []) = some n.natAbs :=
    integerValue?_toString n.natAbs (by decide)
  rw [List.append_nil] at number
  obtain ⟨signs, length, marks⟩ :=
    operatorMarks_replicate (2 * pairs + if n < 0 then 1 else 0)
  rw [decimalTokens, minusSigns, marks, integer?_signed number, length]
  congr 1
  split <;> split at * <;> omega

lemma scan_decimalText (n : Int) (pairs : Nat) :
    scan (decimalText n pairs) = some (decimalTokens n pairs) := by
  set signs := 2 * pairs + if n < 0 then 1 else 0 with count
  have letters : (decimalText n pairs).toList =
      List.replicate signs '-' ++ Nat.toDigits 10 n.natAbs := by
    rw [decimalText, String.toList_append, String.toList_ofList, toList_toString, minusSigns]
  have decimal := isDecimal_toDigits n.natAbs
  have steps := lexemes_signed decimal signs ((Nat.toDigits 10 n.natAbs).length - 1)
  have length : (List.replicate signs '-' ++ Nat.toDigits 10 n.natAbs).length + 1 =
      signs + ((Nat.toDigits 10 n.natAbs).length - 1) + 2 := by
    have some := List.length_pos_of_ne_nil decimal.filled
    rw [List.length_append, List.length_replicate]
    omega
  have unmarked : ∀ rest,
      List.replicate signs '-' ++ Nat.toDigits 10 n.natAbs ≠ '\ufeff' :: rest := by
    intro rest same
    have listed : '\ufeff' ∈ List.replicate signs '-' ++ Nat.toDigits 10 n.natAbs :=
      same ▸ List.mem_cons_self
    rcases List.mem_append.mp listed with sign | digit
    · cases List.eq_of_mem_replicate sign
    · cases decimal.digit _ digit
  rw [scan, letters]
  split
  · rename_i rest same
    exact absurd same (unmarked rest)
  · rw [length, steps]
    refine (nest_leaves _).trans ?_
    rw [decimalTokens, minusSigns, ← count, ← toList_toString, String.ofList_toList]

end MemberMapping.Token
