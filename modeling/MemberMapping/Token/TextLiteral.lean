import MemberMapping.Text.Blank

/-!
String and character literals of source text: where they end and which text they stand for.

A quoted literal holds characters and escapes. Which of them it may hold depends on whether it is
text, a sequence of bytes or text for a foreign interface; the value is the same for all.
-/

namespace MemberMapping.Token

inductive TextForm
  | text
  /-- ASCII alone, with escapes for every byte. -/
  | bytes
  /-- Text without NUL, with escapes for every byte. -/
  | foreign
deriving DecidableEq, Repr

def hexValue? (c : Char) : Option Nat :=
  if '0' ≤ c ∧ c ≤ '9' then some (c.toNat - '0'.toNat)
  else if 'a' ≤ c ∧ c ≤ 'f' then some (c.toNat - 'a'.toNat + 10)
  else if 'A' ≤ c ∧ c ≤ 'F' then some (c.toNat - 'A'.toNat + 10)
  else none

/-- The character of a code point, where it is one. -/
def charOf? (n : Nat) : Option Char :=
  if n < 0xD800 ∨ (0xDFFF < n ∧ n < 0x110000) then some (Char.ofNat n) else none

/-- The rest of a code point in braces, at most six digits with underscores between them. -/
def readCodePoint (count value : Nat) : List Char → Option (Char × List Char)
  | [] => none
  | c :: rest =>
    if c = '\x7d' then if count = 0 then none else (charOf? value).map (·, rest)
    else if c = '_' then if count = 0 then none else readCodePoint count value rest
    else
      match hexValue? c with
      | some digit =>
        if count = 6 then none else readCodePoint (count + 1) (16 * value + digit) rest
      | none => none

def simpleEscape? : Char → Option Char
  | 'n' => some '\n'
  | 'r' => some '\r'
  | 't' => some '\t'
  | '\\' => some '\\'
  | '\'' => some '\''
  | '"' => some '"'
  | '0' => some '\x00'
  | _ => none

namespace TextForm

def allows (form : TextForm) (c : Char) : Bool :=
  match form with
  | text => true
  | bytes => c.toNat < 128
  | foreign => c != '\x00'

/-- The literal may hold an escape for the value `n` given by two digits. -/
def allowsByte (form : TextForm) (n : Nat) : Bool :=
  match form with
  | text => n < 128
  | bytes => true
  | foreign => n != 0

def readEscape (form : TextForm) : List Char → Option (Char × List Char)
  | 'x' :: a :: b :: rest => do
    let n := 16 * (← hexValue? a) + (← hexValue? b)
    if form.allowsByte n then return (Char.ofNat n, rest) else none
  | 'u' :: '\x7b' :: rest => do
    if form = bytes then none
    let (c, rest) ← readCodePoint 0 0 rest
    if form.allows c then return (c, rest) else none
  | c :: rest => do
    let value ← simpleEscape? c
    if form.allows value then return (value, rest) else none
  | [] => none

end TextForm

def isLineBlank (c : Char) : Bool :=
  c == ' ' || c == '\t' || c == '\n' || c == '\r'

/-- A carriage return stands only before a line feed. -/
def returnsPaired : List Char → Bool
  | [] => true
  | '\r' :: '\n' :: rest => returnsPaired rest
  | '\r' :: _ => false
  | _ :: rest => returnsPaired rest

/-- Reads a string behind its opening quote to behind its closing one: its value and what follows.
No more than `limit` characters and escapes are read. -/
def readQuoted (form : TextForm) : Nat → List Char → Option (List Char × List Char)
  | 0, _ => none
  | _ + 1, [] => none
  | limit + 1, c :: rest =>
    if c = '"' then some ([], rest)
    else if c = '\r' then
      match rest with
      | '\n' :: rest => (readQuoted form limit rest).map fun (value, rest) => ('\n' :: value, rest)
      | _ => none
    else if c = '\\' then
      match rest with
      | '\n' :: _ | '\r' :: _ =>
        let skipped := rest.takeWhile isLineBlank
        let rest := rest.dropWhile isLineBlank
        if returnsPaired skipped && !rest.isEmpty then readQuoted form limit rest else none
      | _ => do
        let (value, rest) ← form.readEscape rest
        let (values, rest) ← readQuoted form limit rest
        return (value :: values, rest)
    else if form.allows c then
      (readQuoted form limit rest).map fun (value, rest) => (c :: value, rest)
    else none

/-- Reads a raw string behind its opening quote. It ends at a quote with `hashes` behind it. -/
def readRawBody (form : TextForm) (hashes : Nat) : List Char → Option (List Char × List Char)
  | [] => none
  | c :: rest =>
    if c = '"' ∧ (rest.take hashes).length = hashes ∧ (rest.take hashes).all (· = '#') then
      some ([], rest.drop hashes)
    else if c = '\r' ∧ rest.head? ≠ some '\n' then none
    else if form.allows c then
      (readRawBody form hashes rest).map fun (value, rest) => (c :: value, rest)
    else none

/-- Reads a raw string behind its letters: hashes, a quote, text, a quote, as many hashes. -/
def readRaw (form : TextForm) (cs : List Char) : Option (List Char × List Char) :=
  let hashes := (cs.takeWhile (· = '#')).length
  match cs.drop hashes with
  | '"' :: rest => if hashes ≤ 255 then readRawBody form hashes rest else none
  | _ => none

/-- Reads a string, raw or not, behind the letters of its kind. -/
def readString (form : TextForm) : List Char → Option (List Char × List Char)
  | '"' :: rest => readQuoted form (rest.length + 1) rest
  | 'r' :: rest => readRaw form rest
  | _ => none

/-- Reads a character in apostrophes behind the first of them. -/
def readCharacter (form : TextForm) : List Char → Option (Char × List Char)
  | [] => none
  | c :: rest => do
    let (value, rest) ←
      if c = '\\' then form.readEscape rest
      else if form.allows c then some (c, rest) else none
    match rest with
    | '\'' :: rest => return (value, rest)
    | _ => none

end MemberMapping.Token
