import Reflex.Binary64.Decimal
import Reflex.Datum

/-!
# Scalars of TOML

This module reads the text of a single TOML value that holds no other values.

* `Toml.decodeBasic?` and `Toml.decodeLiteral?` give the text between the quotes of a string.
* `Toml.number?` reads integers in four bases, and floating numbers.
* `Toml.moment?` reads dates and times, and writes them in their usual form.
* `Toml.scalar?` reads anything that stands without quotes.
-/

namespace Reflex.Toml

/-! ### Strings -/

/-- Whether a character may stand in a string or a comment as it is: anything but the control
characters, of which the tab is allowed. -/
def isPlain (c : Char) : Bool :=
  c == '\t' || (0x20 ≤ c.toNat && c.toNat ≠ 0x7F)

/-- The character of a code point, unless it is a surrogate or out of range. -/
def scalarOfCode? (digits : List Char) : Option Char := do
  let n ← Text.baseValue? 16 digits
  if n.isValidChar then some (Char.ofNat n) else none

/-- The character that one letter after a backslash stands for. -/
def shortEscape? (c : Char) : Option Char :=
  if c == 'b' then some '\x08'
  else if c == 't' then some '\t'
  else if c == 'n' then some '\n'
  else if c == 'f' then some '\x0c'
  else if c == 'r' then some '\r'
  else if c == 'e' then some '\x1b'
  else if c == '\x22' || c == '\x5c' then some c
  else none

/-- Decodes the text between the quotes of a basic string, where `inner` says which characters stand
for themselves. -/
def decodeEscapes (inner : Char → Bool) : List Char → Option (List Char)
  | [] => some []
  | '\x5c' :: 'x' :: a :: b :: cs => do
    let c ← scalarOfCode? [a, b]
    let rest ← decodeEscapes inner cs
    return c :: rest
  | '\x5c' :: 'u' :: a :: b :: c :: d :: cs => do
    let c ← scalarOfCode? [a, b, c, d]
    let rest ← decodeEscapes inner cs
    return c :: rest
  | '\x5c' :: 'U' :: a :: b :: c :: d :: e :: f :: g :: h :: cs => do
    let c ← scalarOfCode? [a, b, c, d, e, f, g, h]
    let rest ← decodeEscapes inner cs
    return c :: rest
  | '\x5c' :: c :: cs => do
    let d ← shortEscape? c
    let rest ← decodeEscapes inner cs
    return d :: rest
  | c :: cs => if inner c then (decodeEscapes inner cs).map (c :: ·) else none

/-- Decodes a basic string that stands on one line. -/
def decodeBasic? (cs : List Char) : Option (List Char) :=
  decodeEscapes (fun c => isPlain c && c ≠ '\x5c') cs

/-- Decodes a literal string that stands on one line. -/
def decodeLiteral? (cs : List Char) : Option (List Char) :=
  if cs.all isPlain then some cs else none

/-- Whether every carriage return stands before a line feed. -/
def pairedReturns : List Char → Bool
  | [] => true
  | '\r' :: '\n' :: cs => pairedReturns cs
  | c :: cs => c ≠ '\r' && pairedReturns cs

/-- A text without the line break at its head. -/
def dropFirstBreak : List Char → List Char
  | '\n' :: cs => cs
  | '\r' :: '\n' :: cs => cs
  | cs => cs

/-- What is left when the white space after a backslash at the end of a line is taken away. Nothing
is given if there is no line break in it. -/
def afterLineEnd? (cs : List Char) : Option (List Char) :=
  let isSpace := fun c => c == ' ' || c == '\t'
  let rest := cs.dropWhile isSpace
  match rest with
  | '\n' :: _ => some (rest.dropWhile fun c => isSpace c || c == '\n' || c == '\r')
  | '\r' :: '\n' :: _ => some (rest.dropWhile fun c => isSpace c || c == '\n' || c == '\r')
  | _ => none

/-- Joins the lines of a basic string that end in a backslash; `skipped` counts the characters that
are still to be passed over. -/
def joinLines : Nat → List Char → List Char
  | _, [] => []
  | skipped + 1, _ :: cs => joinLines skipped cs
  | 0, '\x5c' :: c :: cs =>
    match afterLineEnd? (c :: cs) with
    | some rest => joinLines (cs.length - rest.length) cs
    | none => '\x5c' :: c :: joinLines 0 cs
  | 0, c :: cs => c :: joinLines 0 cs

/-- Decodes a basic string that may stand on several lines. -/
def decodeLongBasic? (cs : List Char) : Option (List Char) :=
  if pairedReturns cs then
    decodeEscapes (fun c => (isPlain c || c == '\n' || c == '\r') && c ≠ '\x5c')
      (joinLines 0 (dropFirstBreak cs))
  else none

/-- Decodes a literal string that may stand on several lines. -/
def decodeLongLiteral? (cs : List Char) : Option (List Char) :=
  if pairedReturns cs && cs.all (fun c => isPlain c || c == '\n' || c == '\r') then
    some (dropFirstBreak cs)
  else none

/-! ### Numbers -/

/-- Whether every underscore of a numeral stands between two digits; `isOpen` says whether one may
stand at the front. -/
def gapsFit (isDigit : Char → Bool) : Bool → List Char → Bool
  | _, [] => true
  | _, ['_'] => false
  | isOpen, '_' :: c :: cs => isOpen && isDigit c && gapsFit isDigit true cs
  | _, c :: cs => gapsFit isDigit (isDigit c) cs

/-- A numeral without its underscores. -/
def withoutGaps (cs : List Char) : List Char :=
  cs.filter (· ≠ '_')

/-- Whether a character is a hexadecimal digit. -/
def isHexDigit (c : Char) : Bool :=
  (Text.digitValue? 16 c).isSome

/-- An integer, kept as long as it fits into 128 bits. -/
def integer (negative : Bool) (n : Nat) : Datum :=
  if negative then
    (if n ≤ 0x80000000000000000000000000000000 then .integer (-(n : Int)) else .unreadable)
  else if n < 0x100000000000000000000000000000000 then .integer n
  else .unreadable

/-- A numeral in a base named by its letter. The digits may be missing, but then it stands for
nothing. -/
def based? (letter : Char) (cs : List Char) : Option Datum :=
  let base := if letter == 'x' then 16 else if letter == 'o' then 8 else 2
  if gapsFit isHexDigit false cs then
    match withoutGaps cs with
    | [] => some .unreadable
    | ds => (Text.baseValue? base ds).map (integer false)
  else none

/-- Whether a text has a needless zero at its head. -/
def hasLeadingZero (cs : List Char) : Bool :=
  cs.head? == some '0' && cs.length > 1

/-- A decimal integer whose sign has been taken off. The gaps of a numeral may be followed by other
characters than digits, but then it stands for nothing. -/
def decimal? (negative : Bool) (cs : List Char) : Option Datum :=
  if hasLeadingZero cs then none
  else
    match Text.natural? (withoutGaps cs) with
    | some n => some (integer negative n)
    | none => some .unreadable

/-- Whether a character belongs to the digits of a numeral. -/
def isDigitOrGap (c : Char) : Bool :=
  c.isDigit || c == '_'

/-- Splits a run of digits and underscores off the front; there must be a digit in it. -/
def splitDigits? (cs : List Char) : Option (List Char × List Char) :=
  let run := cs.takeWhile isDigitOrGap
  if run.any Char.isDigit then some (run, cs.dropWhile isDigitOrGap) else none

/-- The exponent of a floating number, in the form in which numbers are read. -/
def exponentText? (cs : List Char) : Option (List Char) :=
  match cs with
  | [] => some []
  | c :: cs =>
    if c == 'e' || c == 'E' then
      let (down, cs) := Extended.splitSign cs
      match splitDigits? cs with
      | some (run, []) => some ('e' :: (if down then '-' :: run else run))
      | _ => none
    else none

/-- A floating number whose sign has been taken off: a whole part with a fraction, an exponent, or
both. One beyond the largest number stands for nothing. -/
def unsignedFloat? (negative : Bool) (cs : List Char) : Option Datum := do
  let (whole, rest) ← splitDigits? cs
  if hasLeadingZero whole then none
  let text ← match rest with
    | '.' :: ds => do
      let (part, rest) ← splitDigits? ds
      let exponent ← exponentText? rest
      pure ('.' :: part ++ exponent)
    | ds => exponentText? ds
  match ← Extended.unsigned? negative (withoutGaps (whole ++ text)) with
  | .finite x => return .float (.finite x)
  | _ => return .unreadable

/-- Whether a character makes a number a floating one. -/
def isFloatMark (c : Char) : Bool :=
  c == '.' || c == 'e' || c == 'E'

/-- A number. A sign may stand before a decimal one, and an underscore after the sign. -/
def number? (cs : List Char) : Option Datum :=
  let isSigned := cs.head? == some '+' || cs.head? == some '-'
  let negative := cs.head? == some '-'
  let body := if isSigned then cs.tail else cs
  let rest := body.dropWhile Char.isDigit
  if body == ['i', 'n', 'f'] then some (.float (.infinite negative))
  else if body == ['n', 'a', 'n'] then some (.float .nan)
  else match body with
    | [] => none
    | '0' :: 'x' :: ds => if isSigned then none else based? 'x' ds
    | '0' :: 'o' :: ds => if isSigned then none else based? 'o' ds
    | '0' :: 'b' :: ds => if isSigned then none else based? 'b' ds
    | _ =>
      if rest.isEmpty then decimal? negative body
      else if rest.any isFloatMark then
        if gapsFit Char.isDigit isSigned body then unsignedFloat? negative body else none
      else if rest.head? == some '_' && gapsFit isHexDigit isSigned body then
        decimal? negative body
      else none

/-! ### Dates and times -/

/-- The number that a run of digits stands for, if it has the given length and does not exceed a
largest number. -/
def field? (width largest : Nat) (cs : List Char) : Option Nat :=
  if cs.length = width then (Text.natural? cs).filter (· ≤ largest) else none

/-- How many days a month has. -/
def daysOfMonth (year month : Nat) : Nat :=
  if month = 2 then
    (if year % 4 = 0 && (year % 100 ≠ 0 || year % 400 = 0) then 29 else 28)
  else if month = 4 || month = 6 || month = 9 || month = 11 then 30
  else 31

/-- Whether a text of ten characters is a date of the calendar. -/
def isDate (cs : List Char) : Bool :=
  match cs with
  | [y₁, y₂, y₃, y₄, '-', m₁, m₂, '-', d₁, d₂] =>
    match Text.natural? [y₁, y₂, y₃, y₄], Text.natural? [m₁, m₂], Text.natural? [d₁, d₂] with
    | some year, some month, some day =>
      1 ≤ month && month ≤ 12 && 1 ≤ day && day ≤ daysOfMonth year month
    | _, _, _ => false
  | _ => false

/-- The fraction of a second: at most nine digits, and no zeros at the end. -/
def fraction? (cs : List Char) : Option (List Char) :=
  match cs with
  | [] => some []
  | '.' :: ds =>
    if !ds.isEmpty && ds.all Char.isDigit then
      let kept := Text.dropEndWhile (· == '0') (ds.take 9)
      some (if kept.isEmpty then [] else '.' :: kept)
    else none
  | _ => none

/-- A time of day in its usual form. Seconds that are left out are zero. -/
def time? (cs : List Char) : Option (List Char) :=
  match cs with
  | h₁ :: h₂ :: ':' :: m₁ :: m₂ :: rest => do
    let _ ← field? 2 23 [h₁, h₂]
    let _ ← field? 2 59 [m₁, m₂]
    let seconds ← match rest with
      | [] => some [':', '0', '0']
      | ':' :: s₁ :: s₂ :: ds => do
        let _ ← field? 2 60 [s₁, s₂]
        let part ← fraction? ds
        pure (':' :: s₁ :: s₂ :: part)
      | _ => none
    return [h₁, h₂, ':', m₁, m₂] ++ seconds
  | _ => none

/-- The offset of a time zone in its usual form. -/
def offset? (cs : List Char) : Option (List Char) :=
  match cs with
  | [] => some []
  | ['Z'] => some ['Z']
  | ['z'] => some ['Z']
  | [sign, h₁, h₂, ':', m₁, m₂] => do
    let hours ← field? 2 23 [h₁, h₂]
    let minutes ← field? 2 59 [m₁, m₂]
    if sign ≠ '+' && sign ≠ '-' then none
    let sign := if hours = 0 && minutes = 0 then '+' else sign
    return [sign, h₁, h₂, ':', m₁, m₂]
  | _ => none

/-- A date, a time of day, or both, in the usual form. -/
def momentText? (cs : List Char) : Option (List Char) :=
  if isDate (cs.take 10) then
    match cs.drop 10 with
    | [] => some cs
    | c :: rest =>
      if c == 'T' || c == 't' || c == ' ' then do
        let isTime := fun c => !(c == 'Z' || c == 'z' || c == '+' || c == '-')
        let time ← time? (rest.takeWhile isTime)
        let offset ← offset? (rest.dropWhile isTime)
        return cs.take 10 ++ 'T' :: (time ++ offset)
      else none
  else time? cs

/-- A date or time as a datum: a table with its text under a name of its own. -/
def moment? (cs : List Char) : Option Datum :=
  (momentText? cs).map fun text =>
    .table [("$__toml_private_datetime", .string (String.ofList text))]

/-- A value that stands without quotes. -/
def scalar? (cs : List Char) : Option Datum :=
  if cs == "true".toList then some (.bool true)
  else if cs == "false".toList then some (.bool false)
  else number? cs <|> moment? cs

end Reflex.Toml
