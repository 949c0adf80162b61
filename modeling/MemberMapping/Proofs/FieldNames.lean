import Mathlib.Data.List.Basic
import MemberMapping.Expansion.Emission

/-!
Names and numbers of fields.

An element of a tuple goes by its position and every other field by a name, which is no number.
-/

namespace MemberMapping

/-- What a field is called: its position, or its name without the mark of a raw one. -/
def FieldName.plain : FieldName → String
  | named name => Token.plainName name
  | position p => toString p

lemma toString_injective {m n : Nat} (same : toString m = toString n) : m = n := by
  have digits : m.repr.toList = n.repr.toList := congrArg String.toList same
  rw [Nat.toList_repr, Nat.toList_repr] at digits
  rw [← Nat.ofDigitChars_ten_toDigits (n := m), digits, Nat.ofDigitChars_ten_toDigits]

lemma head_toString (n : Nat) : ∃ digit rest, (toString n).toList = digit :: rest ∧
    digit.isDigit := by
  rw [Nat.toString_eq_repr, Nat.toList_repr]
  cases digits : Nat.toDigits 10 n with
  | nil => exact absurd digits Nat.toDigits_ne_nil
  | cons digit rest =>
    refine ⟨digit, rest, rfl, Nat.isDigit_of_mem_toDigits (b := 10) (n := n) ?_ ?_ ?_⟩
    · omega
    · omega
    · rw [digits]; exact List.mem_cons_self

lemma ne_toString_of_head {text : String} {first : Char} {rest : List Char}
    (begins : text.toList = first :: rest) (letter : first.isDigit = false) (n : Nat) :
    text ≠ toString n := by
  rintro rfl
  obtain ⟨digit, others, digits, number⟩ := head_toString n
  rw [begins] at digits
  cases digits
  rw [letter] at number
  cases number

lemma isAlpha_bounds {c : Char} (letter : c.isAlpha = true) : 65 ≤ c.toNat := by
  rcases (Bool.or_eq_true_iff.mp letter : c.isUpper = true ∨ c.isLower = true) with upper | lower
  · have bounds : 'A'.val ≤ c.val ∧ c.val ≤ 'Z'.val := of_decide_eq_true upper
    exact UInt32.le_iff_toNat_le.mp bounds.1
  · have bound : 'a'.val ≤ c.val := of_decide_eq_true (Bool.and_eq_true_iff.mp lower).1
    have least : 97 ≤ c.toNat := UInt32.le_iff_toNat_le.mp bound
    omega

lemma isDigit_of_isIdentifierStart {c : Char} (start : Text.isIdentifierStart c = true) :
    c.isDigit = false := by
  rw [Bool.eq_false_iff]
  intro digit
  obtain ⟨_, small⟩ : 48 ≤ c.toNat ∧ c.toNat ≤ 57 := Char.isDigit_iff_toNat.mp digit
  rw [Text.isIdentifierStart, if_pos (by omega), Bool.or_eq_true] at start
  rcases start with letter | underscore
  · have := isAlpha_bounds letter
    omega
  · rw [beq_iff_eq.mp underscore] at digit
    cases digit

lemma identifier_ne_toString {text : String} (identifier : Text.isIdentifierText text.toList = true)
    (n : Nat) : text ≠ toString n := by
  cases letters : text.toList with
  | nil => rw [letters] at identifier; cases identifier
  | cons first rest =>
    rw [letters, Text.isIdentifierText, Bool.and_eq_true] at identifier
    exact ne_toString_of_head letters (isDigit_of_isIdentifierStart identifier.1) n

/-- The name of a parameter without one is no number, whether it is taken for a raw one or not. -/
lemma plainName_argument_ne_toString (position n : Nat) :
    Token.plainName ("arg_" ++ toString position) ≠ toString n := by
  have letters : ("arg_" ++ toString position).toList =
      'a' :: 'r' :: 'g' :: '_' :: (toString position).toList := String.toList_append ..
  rw [Token.plainName]
  split
  · have dropped : (String.ofList (("arg_" ++ toString position).toList.drop 2)).toList =
        'g' :: '_' :: (toString position).toList := by
      rw [String.toList_ofList, letters]
      rfl
    exact ne_toString_of_head dropped rfl n
  · exact ne_toString_of_head letters rfl n

lemma plain_ofText_toString (n : Nat) : (FieldName.ofText (toString n)).plain = toString n := by
  have digits : (toString n).toList = Nat.toDigits 10 n := by
    rw [Nat.toString_eq_repr, Nat.toList_repr]
  have value : Decimal.digitsValue 0 (toString n).toList = n := by
    rw [digits]
    exact Nat.ofDigitChars_ten_toDigits
  rw [FieldName.ofText]
  simp only [value]
  split
  · rfl
  · obtain ⟨digit, rest, begins, number⟩ := head_toString n
    have unmarked : (toString n).startsWith "r#" = false := by
      rw [String.startsWith_string_eq_false_iff, begins]
      rintro ⟨others, same⟩
      cases (List.cons.inj same).1
      cases number
    rw [FieldName.plain, Token.plainName, unmarked]
    rfl

end MemberMapping
