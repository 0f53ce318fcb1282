import Reflex.Binary64.Decimal
import Reflex.Expr.Basic
import Reflex.Text.Blank
import Reflex.Text.Word

/-!
# Tokens of the formula language

A source text is cut into tokens, each of which keeps the piece of text it was cut from and the
byte offset where that piece begins. White space separates tokens and is dropped.

* `lexeme` cuts one token off a text that does not begin with white space. Its result carries the
  proof that the piece and the rest make up the text.
* `Tokens.ofSource` cuts a whole source text, or says where and why it cannot.

A point belongs to a number only when a digit follows it, so that `1.x` reads a member; and digits
after a point are a path segment, so that `$grid.0.1` reads two.
-/

namespace Reflex

/-- Why a source text is not an expression. -/
inductive SourceFault where
  | unterminatedString
  | nameExpected (sigil : Char)
  | assignment
  | unexpectedCharacter (c : Char)
  | emptyExpression
  | trailingInput
  | tooDeep
  | colonExpected
  | segmentExpected
  | parenExpected
  | argumentEndExpected
  | unexpectedEnd
  | unexpectedToken
  | unexpectedKeyword
deriving DecidableEq

/-- The fault in words. -/
def SourceFault.message : SourceFault → String
  | .unterminatedString => "unterminated string"
  | .nameExpected sigil => "expected a name after `" ++ sigil.toString ++ "`"
  | .assignment => "assignment is not an expression; use `==`"
  | .unexpectedCharacter c => "unexpected character `" ++ c.toString ++ "`"
  | .emptyExpression => "empty expression"
  | .trailingInput => "unexpected trailing input"
  | .tooDeep => "expression nested too deeply"
  | .colonExpected => "expected `:` in conditional"
  | .segmentExpected => "expected a field name after `.`"
  | .parenExpected => "expected `)`"
  | .argumentEndExpected => "expected `,` or `)` in argument list"
  | .unexpectedEnd => "unexpected end of expression"
  | .unexpectedToken => "unexpected token"
  | .unexpectedKeyword => "unexpected keyword"

/-- A fault and the byte offset in the source text that it is reported at. -/
structure SourceFlaw where
  offset : Nat
  fault : SourceFault
deriving DecidableEq

/-- What a token is. -/
inductive TokenKind where
  | number (x : Extended)
  | string (s : String)
  /-- A state variable, with its `$`. -/
  | state (name : String)
  /-- A field of the event data, without its `#`. -/
  | field (name : String)
  | ident (name : String)
  | leftParen | rightParen | comma | dot | question | colon
  | plus | minus | star | slash | percent
  | equal | notEqual | less | lessEqual | greater | greaterEqual
  | and | or | not
deriving DecidableEq

/-- A token of a source text. -/
structure Token where
  kind : TokenKind
  /-- The byte offset of its first character. -/
  offset : Nat
  /-- The piece of the source text it was cut from. -/
  text : List Char

/-- The number of bytes that a text takes in UTF-8. -/
def Text.width : List Char → Nat
  | [] => 0
  | c :: cs => c.utf8Size + width cs

/-- A token at the front of a text, and what follows it. -/
structure Lexeme (input : List Char) where
  kind : TokenKind
  /-- The piece of text that the token takes. -/
  text : List Char
  /-- What follows the token. -/
  rest : List Char
  text_append_rest : text ++ rest = input
  text_ne_nil : text ≠ []

namespace Lexeme

theorem length_rest_lt {input : List Char} (l : Lexeme input) :
    l.rest.length < input.length := by
  have pos := List.length_pos_iff.2 l.text_ne_nil
  have total := congrArg List.length l.text_append_rest
  rw [List.length_append] at total
  omega

/-- A token of one character. -/
def single (kind : TokenKind) (c : Char) (cs : List Char) : Lexeme (c :: cs) :=
  ⟨kind, [c], cs, rfl, by simp⟩

/-- A token of two characters. -/
def double (kind : TokenKind) (c d : Char) (cs : List Char) : Lexeme (c :: d :: cs) :=
  ⟨kind, [c, d], cs, rfl, by simp⟩

/-- A token of three characters. -/
def triple (kind : TokenKind) (c d e : Char) (cs : List Char) : Lexeme (c :: d :: e :: cs) :=
  ⟨kind, [c, d, e], cs, rfl, by simp⟩

/-- A token that begins with `c` and takes the name characters after it. -/
def word (kind : String → TokenKind) (c : Char) (cs : List Char) : Lexeme (c :: cs) :=
  ⟨kind (String.ofList (cs.takeWhile Text.isName)), c :: cs.takeWhile Text.isName,
    cs.dropWhile Text.isName, by simp, by simp⟩

end Lexeme

/-- The character that a backslash and `c` stand for in a string. -/
def unescape (c : Char) : Char :=
  if c == 'n' then '\n' else if c == 't' then '\t' else c

/-- Splits a text after the closing quote of a string whose opening quote has been read. Gives the
characters of the string and the text they were read from. -/
def closeString (quote : Char) :
    (cs : List Char) → Option { r : List Char × List Char × List Char // r.2.1 ++ r.2.2 = cs }
  | [] => none
  | c :: cs =>
    if c == quote then some ⟨([], [c], cs), rfl⟩
    else if c == '\x5c' then
      match cs with
      | [] => none
      | e :: cs =>
        (closeString quote cs).map fun ⟨(value, text, rest), h⟩ =>
          ⟨(unescape e :: value, c :: e :: text, rest), by simpa using h⟩
    else
      (closeString quote cs).map fun ⟨(value, text, rest), h⟩ =>
        ⟨(c :: value, c :: text, rest), by simpa using h⟩

/-- Splits the fraction of a number off the front: its digits and its text, which is empty unless a
point stands there that a digit follows. -/
def splitFraction :
    (cs : List Char) → { r : List Char × List Char × List Char // r.2.1 ++ r.2.2 = cs }
  | '.' :: cs =>
    let ds := cs.takeWhile Char.isDigit
    if ds.isEmpty then ⟨([], [], '.' :: cs), rfl⟩
    else ⟨(ds, '.' :: ds, cs.dropWhile Char.isDigit), by simp [ds]⟩
  | cs => ⟨([], [], cs), rfl⟩

/-- A number that begins with the digit `c`; after a point it has no fraction. -/
def lexNumber (afterDot : Bool) (c : Char) (cs : List Char) : Lexeme (c :: cs) :=
  let whole := cs.takeWhile Char.isDigit
  let rest := cs.dropWhile Char.isDigit
  if afterDot then
    ⟨.number (Extended.ofDecimal false (Nat.ofDigitChars 10 (c :: whole) 0) 0), c :: whole, rest,
      by simp [whole, rest], by simp⟩
  else
    match splitFraction rest with
    | ⟨(ds, text, rest'), h⟩ =>
      ⟨.number (Extended.ofDecimal false (Nat.ofDigitChars 10 (c :: (whole ++ ds)) 0)
          (-(ds.length : Int))),
        c :: (whole ++ text), rest',
        by simp only at h; simp [h, whole, rest], by simp⟩

/-- A sign of one, two or three characters. -/
def lexSign (c : Char) (cs : List Char) : Except SourceFault (Lexeme (c :: cs)) :=
  match c, cs with
  | '(', cs => .ok (.single .leftParen _ cs)
  | ')', cs => .ok (.single .rightParen _ cs)
  | ',', cs => .ok (.single .comma _ cs)
  | '.', cs => .ok (.single .dot _ cs)
  | '?', cs => .ok (.single .question _ cs)
  | ':', cs => .ok (.single .colon _ cs)
  | '+', cs => .ok (.single .plus _ cs)
  | '-', cs => .ok (.single .minus _ cs)
  | '*', cs => .ok (.single .star _ cs)
  | '/', cs => .ok (.single .slash _ cs)
  | '%', cs => .ok (.single .percent _ cs)
  | '=', '=' :: '=' :: cs => .ok (.triple .equal _ _ _ cs)
  | '=', '=' :: cs => .ok (.double .equal _ _ cs)
  | '=', _ => .error .assignment
  | '!', '=' :: '=' :: cs => .ok (.triple .notEqual _ _ _ cs)
  | '!', '=' :: cs => .ok (.double .notEqual _ _ cs)
  | '!', cs => .ok (.single .not _ cs)
  | '<', '=' :: cs => .ok (.double .lessEqual _ _ cs)
  | '<', cs => .ok (.single .less _ cs)
  | '>', '=' :: cs => .ok (.double .greaterEqual _ _ cs)
  | '>', cs => .ok (.single .greater _ cs)
  | '&', '&' :: cs => .ok (.double .and _ _ cs)
  | '|', '|' :: cs => .ok (.double .or _ _ cs)
  | c, _ => .error (.unexpectedCharacter c)

/-- Cuts one token off a text whose first character `c` is not white space. `afterDot` says whether
the token before it is a point. -/
def lexeme (afterDot : Bool) (c : Char) (cs : List Char) :
    Except SourceFault (Lexeme (c :: cs)) :=
  if c.isDigit then .ok (lexNumber afterDot c cs)
  else if c == '\x22' || c == '\x27' then
    match closeString c cs with
    | some ⟨(value, text, rest), h⟩ =>
      .ok ⟨.string (String.ofList value), c :: text, rest, by simpa using h, by simp⟩
    | none => .error .unterminatedString
  else if c == '$' || c == '#' then
    if cs.takeWhile Text.isName = [] then .error (.nameExpected c)
    else .ok (.word (fun name => if c == '$' then .state ("$" ++ name) else .field name) c cs)
  else if Text.isNameStart c then
    .ok (.word (fun name => .ident (c.toString ++ name)) c cs)
  else lexSign c cs

/-- The tokens of a source text, and its length. -/
structure Tokens where
  list : List Token
  /-- The length of the source text in bytes. -/
  stop : Nat

namespace Tokens

/-- Cuts tokens off a text that begins at byte `offset` of the source. -/
def cut (offset : Nat) (afterDot : Bool) : List Char → Except SourceFlaw Tokens
  | [] => .ok ⟨[], offset⟩
  | c :: cs =>
    if Text.isBlank c then cut (offset + c.utf8Size) afterDot cs
    else
      match lexeme afterDot c cs with
      | .error fault => .error ⟨offset, fault⟩
      | .ok l =>
        match cut (offset + Text.width l.text) (l.kind == .dot) l.rest with
        | .error flaw => .error flaw
        | .ok ts => .ok ⟨⟨l.kind, offset, l.text⟩ :: ts.list, ts.stop⟩
termination_by cs => cs.length
decreasing_by
  · simp
  · exact l.length_rest_lt

/-- Cuts a whole source text into tokens. -/
def ofSource (source : String) : Except SourceFlaw Tokens :=
  cut 0 false source.toList

/-- The byte offset of the last token, or the end of a text without tokens. -/
def lastOffset (ts : Tokens) : Nat :=
  (ts.list.getLast?.map Token.offset).getD ts.stop

end Tokens

end Reflex
