import MemberMapping.Program.Reading.Items
import MemberMapping.Token.Scan

/-!
Reading a source file from its text.

A byte-order mark at the beginning is dropped, and so is a first line that names an interpreter.
-/

namespace MemberMapping

/-- Drops a byte-order mark. -/
def dropOrderMark : List Char → List Char
  | '\ufeff' :: rest => rest
  | cs => cs

/-- Drops blanks and comments, of at most `limit` characters. -/
def dropBlanks : Nat → List Char → List Char
  | 0, cs => cs
  | limit + 1, cs =>
    match Token.afterComment? cs with
    | some rest => dropBlanks limit rest
    | none =>
      match cs with
      | c :: rest => if c = '\r' ∨ Token.isSeparator c then dropBlanks limit rest else cs
      | [] => []

/-- Drops a first line that begins with `#!`, unless an attribute begins there. -/
def dropInterpreterLine (cs : List Char) : List Char :=
  match cs with
  | '#' :: '!' :: rest =>
    if (dropBlanks rest.length rest).head? = some '[' then cs else cs.dropWhile (· ≠ '\n')
  | _ => cs

/-- The file of a source text; none where the text is not one. -/
def SourceFile.ofText? (source : String) : Option SourceFile := do
  let text := String.ofList (dropInterpreterLine (dropOrderMark source.toList))
  let tokens ← Token.scan text
  (Grammar.read Grammar.fileRule tokens).toOption

end MemberMapping
