import PadLink.Json.Basic

set_option autoImplicit false

/-! # Reading JSON

The grammar is the strict one: blanks are space, tab, line feed and carriage return; numbers have no
leading zeros and no bare point; strings hold no raw control characters; nothing follows the value
but blanks. A text that breaks the grammar anywhere is refused as a whole, also inside values that
nobody asks for.

Escapes of sixteen-bit units are collected first and joined into characters afterwards, so a string
with half of a surrogate pair is a string of the grammar all the same; it only has no text. -/

namespace PadLink.Json

/-! ## Blanks and strings -/

/-- The characters that may stand between the parts of a value. -/
def isBlank (c : Char) : Bool := c == ' ' || c == '\t' || c == '\n' || c == '\r'

/-- The text behind the blanks at its front. -/
def skipBlanks (text : List Char) : List Char := text.dropWhile isBlank

/-- A part of a string: a character as it stands, or an escaped unit of sixteen bits. -/
inductive Piece where
  | char (c : Char)
  | unit (n : Nat)

/-- The character that a letter behind a backslash stands for. -/
def escaped? : Char → Option Char
  | '"' => some '"'
  | '\\' => some '\\'
  | '/' => some '/'
  | 'b' => some '\x08'
  | 'f' => some '\x0c'
  | 'n' => some '\n'
  | 'r' => some '\r'
  | 't' => some '\t'
  | _ => none

/-- The unit that four hexadecimal digits write. -/
def unit? (a b c d : Char) : Option Nat := do
  let a ← Digits.value? 16 a
  let b ← Digits.value? 16 b
  let c ← Digits.value? 16 c
  let d ← Digits.value? 16 d
  return ((a * 16 + b) * 16 + c) * 16 + d

/-- The pieces of a string up to its closing quote, and the text behind the quote. -/
def scanPieces? : List Char → Option (List Piece × List Char)
  | [] => none
  | '"' :: rest => some ([], rest)
  | '\\' :: 'u' :: a :: b :: c :: d :: rest =>
    match unit? a b c d, scanPieces? rest with
    | some n, some (pieces, rest) => some (.unit n :: pieces, rest)
    | _, _ => none
  | '\\' :: e :: rest =>
    match escaped? e, scanPieces? rest with
    | some c, some (pieces, rest) => some (.char c :: pieces, rest)
    | _, _ => none
  | c :: rest =>
    if c.toNat < 32 ∨ c = '\\' then none
    else
      match scanPieces? rest with
      | some (pieces, rest) => some (.char c :: pieces, rest)
      | none => none

/-- The characters of a string. A high surrogate must be followed by a low one, and a low one must
    not stand alone. -/
def joinPieces? : List Piece → Option (List Char)
  | [] => some []
  | .char c :: rest => (joinPieces? rest).map (c :: ·)
  | .unit n :: rest =>
    if n < 0xD800 ∨ 0xE000 ≤ n then (joinPieces? rest).map (Char.ofNat n :: ·)
    else if n < 0xDC00 then
      -- A high surrogate, which needs its other half right behind it.
      match rest with
      | .unit m :: rest =>
        if 0xDC00 ≤ m ∧ m < 0xE000 then
          (joinPieces? rest).map (Char.ofNat (0x10000 + (n - 0xD800) * 0x400 + (m - 0xDC00)) :: ·)
        else none
      | _ => none
    else none

/-- A string behind its opening quote. -/
def scanString? (text : List Char) : Option (Option String × List Char) :=
  (scanPieces? text).map fun (pieces, rest) => ((joinPieces? pieces).map String.ofList, rest)

/-! ## Numbers -/

/-- The decimal digits at the front of a text, and the rest. -/
def spanDigits (text : List Char) : List Char × List Char :=
  (text.takeWhile (Digits.isDigit 10), text.dropWhile (Digits.isDigit 10))

/-- The part of a number in front of its fraction: one zero, or digits that start with none. -/
def scanWhole? (text : List Char) : Option (List Char × List Char) :=
  match text with
  | '0' :: rest => some (['0'], rest)
  | _ =>
    match spanDigits text with
    | ([], _) => none
    | (digits, rest) => some (digits, rest)

/-- A fraction with its point, or nothing. -/
def scanFraction? (text : List Char) : Option (List Char × List Char) :=
  match text with
  | '.' :: rest =>
    match spanDigits rest with
    | ([], _) => none
    | (digits, rest) => some ('.' :: digits, rest)
  | _ => some ([], text)

/-- An exponent with its letter and its sign, or nothing. -/
def scanExponent? (text : List Char) : Option (List Char × List Char) :=
  match text with
  | c :: rest =>
    if c = 'e' ∨ c = 'E' then
      let (sign, rest) :=
        match rest with
        | '+' :: rest => (['+'], rest)
        | '-' :: rest => (['-'], rest)
        | _ => ([], rest)
      match spanDigits rest with
      | ([], _) => none
      | (digits, rest) => some (c :: sign ++ digits, rest)
    else some ([], text)
  | [] => some ([], [])

/-- A number without its sign, given the sign. -/
def scanUnsigned? (negative : Bool) (text : List Char) : Option (Json × List Char) := do
  let (digits, text) ← scanWhole? text
  let (fraction, text) ← scanFraction? text
  let (exponent, text) ← scanExponent? text
  let magnitude := Digits.ofDigits 10 digits
  -- A negative zero is no integer, so it keeps its text.
  if fraction = [] ∧ exponent = [] ∧ ¬(negative = true ∧ magnitude = 0) then
    return (.integer (if negative then -(magnitude : Int) else magnitude), text)
  else
    let sign := if negative then ['-'] else []
    return (.real (String.ofList (sign ++ digits ++ fraction ++ exponent)), text)

/-- A number. -/
def scanNumber? : List Char → Option (Json × List Char)
  | '-' :: rest => scanUnsigned? true rest
  | text => scanUnsigned? false text

/-! ## Values -/

mutual

/-- A value at the front of the text, blanks in front of it allowed. -/
def scanValue? : (fuel : Nat) → List Char → Option (Json × List Char)
  | 0, _ => none
  | fuel + 1, text =>
    match skipBlanks text with
    | 'n' :: 'u' :: 'l' :: 'l' :: rest => some (.null, rest)
    | 't' :: 'r' :: 'u' :: 'e' :: rest => some (.bool true, rest)
    | 'f' :: 'a' :: 'l' :: 's' :: 'e' :: rest => some (.bool false, rest)
    | '"' :: rest => (scanString? rest).map fun (s, rest) => (.string s, rest)
    | '[' :: rest =>
      match skipBlanks rest with
      | ']' :: rest => some (.array [], rest)
      | _ => (scanItems? fuel rest).map fun (items, rest) => (.array items, rest)
    | '{' :: rest =>
      match skipBlanks rest with
      | '}' :: rest => some (.object [], rest)
      | _ => (scanMembers? fuel rest).map fun (members, rest) => (.object members, rest)
    | text => scanNumber? text

/-- One or more items of an array, up to and with the closing bracket. -/
def scanItems? : (fuel : Nat) → List Char → Option (List Json × List Char)
  | 0, _ => none
  | fuel + 1, text =>
    match scanValue? fuel text with
    | none => none
    | some (item, rest) =>
      match skipBlanks rest with
      | ']' :: rest => some ([item], rest)
      | ',' :: rest => (scanItems? fuel rest).map fun (items, rest) => (item :: items, rest)
      | _ => none

/-- One or more members of an object, up to and with the closing brace. -/
def scanMembers? : (fuel : Nat) → List Char → Option (List (Option String × Json) × List Char)
  | 0, _ => none
  | fuel + 1, text =>
    match skipBlanks text with
    | '"' :: rest =>
      match scanString? rest with
      | none => none
      | some (key, rest) =>
        match skipBlanks rest with
        | ':' :: rest =>
          match scanValue? fuel rest with
          | none => none
          | some (value, rest) =>
            match skipBlanks rest with
            | '}' :: rest => some ([(key, value)], rest)
            | ',' :: rest =>
              (scanMembers? fuel rest).map fun (members, rest) => ((key, value) :: members, rest)
            | _ => none
        | _ => none
    | _ => none

end

/-- The value that a text is, if the text is of the grammar from its beginning to its end. Twice the
    length of the text bounds the depth of the recursion: every item costs a character, and every
    level of nesting two steps and a bracket. -/
def parse? (text : String) : Option Json :=
  match scanValue? (2 * text.toList.length + 2) text.toList with
  | some (json, rest) => if skipBlanks rest = [] then some json else none
  | none => none

end PadLink.Json
