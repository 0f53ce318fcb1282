import Reflex.Binary64.Decimal
import Reflex.Datum
import Reflex.Reading

/-!
# Reading JSON text

`Json.read` reads a whole text as one JSON datum, and `Json.readValue` as a value. White space is
the four characters that JSON names. An integer that fits into 64 bits stays an integer; any other
number becomes a binary64 number by `Extended.ofParts?`. The numeral `-0` is the negative zero.

A number beyond the largest one, a text with half of a surrogate pair, and an array or object
inside of 127 others are unreadable, and with them whatever they stand in as a value.
-/

namespace Reflex.Json

/-- Why a text is not JSON that can be read. -/
inductive Fault where
  | malformed
  /-- The text is JSON, but something in it stands for no value. -/
  | unreadable
deriving DecidableEq

/-- The fault in words. -/
def Fault.message : Fault → String
  | .malformed => "malformed JSON"
  | .unreadable => "JSON that stands for no value"

/-- The white space of JSON. -/
def isSpace (c : Char) : Bool :=
  c == ' ' || c == '\n' || c == '\t' || c == '\r'

/-- `cs` without the white space at its front. -/
def skip (cs : List Char) : List Char :=
  cs.dropWhile isSpace

theorem length_dropWhile_le (p : Char → Bool) (cs : List Char) :
    (cs.dropWhile p).length ≤ cs.length :=
  (List.dropWhile_sublist p).length_le

theorem length_skip_le (cs : List Char) : (skip cs).length ≤ cs.length :=
  length_dropWhile_le _ cs

/-- The character that a one-letter escape stands for. -/
def unescape? (c : Char) : Option Char :=
  if c == '\x22' || c == '\x5c' || c == '/' then some c
  else if c == 'b' then some '\x08'
  else if c == 'f' then some '\x0c'
  else if c == 'n' then some '\n'
  else if c == 'r' then some '\r'
  else if c == 't' then some '\t'
  else none

/-- The 16-bit unit that four hexadecimal digits stand for. -/
def unit? (a b c d : Char) : Option Nat :=
  Text.baseValue? 16 [a, b, c, d]

/-- The text of a string with one more character in front. -/
def putBefore (c : Char) : Option (List Char) → Option (List Char) :=
  Option.map (c :: ·)

/-- Reads the rest of a string whose opening quote has been read. A string with half of a surrogate
pair holds no text. -/
def stringRest : (cs : List Char) → Except Fault (Reading (Option (List Char)) cs)
  | [] => .error .malformed
  | '\x5c' :: 'u' :: a :: b :: c :: d :: cs =>
    match unit? a b c d with
    | none => .error .malformed
    | some n =>
      if n < 0xD800 || 0xE000 ≤ n then do
        let r ← stringRest cs
        return (r.map (putBefore (Char.ofNat n))).within (by simp; omega)
      else
        match cs with
        | '\x5c' :: 'u' :: e :: f :: g :: h :: cs' =>
          match unit? e f g h with
          | none => .error .malformed
          | some m =>
            if n < 0xDC00 && 0xDC00 ≤ m && m < 0xE000 then do
              let r ← stringRest cs'
              let c := Char.ofNat (0x10000 + (n - 0xD800) * 0x400 + (m - 0xDC00))
              return (r.map (putBefore c)).within (by simp; omega)
            else do
              let r ← stringRest cs'
              return (r.map fun _ => none).within (by simp; omega)
        | cs => do
          let r ← stringRest cs
          return (r.map fun _ => none).within (by simp; omega)
  | '\x5c' :: e :: cs =>
    match unescape? e with
    | none => .error .malformed
    | some c => do
      let r ← stringRest cs
      return (r.map (putBefore c)).within (by simp; omega)
  | c :: cs =>
    if c == '\x22' then .ok ⟨some [], cs, by simp⟩
    else if c == '\x5c' || c.toNat < 0x20 then .error .malformed
    else do
      let r ← stringRest cs
      return (r.map (putBefore c)).within (by simp)

/-- Takes digits into a significand as long as it stays below 2^64; gives the significand, how many
digits it took and how many it left. -/
def absorb (significand : Nat) : List Char → Nat × Nat × Nat
  | [] => (significand, 0, 0)
  | c :: cs =>
    let next := 10 * significand + (c.toNat - 48)
    if next < 0x10000000000000000 then
      let (s, taken, left) := absorb next cs
      (s, taken + 1, left)
    else (significand, 0, cs.length + 1)

/-- The parts of a numeral as they stand in the text. -/
structure Numeral where
  /-- Whether a minus sign stands in front. -/
  negative : Bool
  /-- The digits before the point. -/
  whole : List Char
  /-- The digits after the point, if there is one. -/
  fraction : Option (List Char)
  /-- The sign and the digits of the exponent, if there is one. -/
  exponent : Option (Bool × List Char)

/-- The number a numeral stands for. -/
def Numeral.datum (n : Numeral) : Datum :=
  let (s, _, left) := absorb 0 n.whole
  if left = 0 && n.fraction.isNone && n.exponent.isNone &&
      !(n.negative && (s = 0 || 0x8000000000000000 < s)) then
    .integer (if n.negative then -(s : Int) else s)
  else
    let (s, taken, _) := absorb s (n.fraction.getD [])
    let shift : Int := left - taken
    let (down, ds) := n.exponent.getD (false, ['0'])
    let e := Nat.ofDigitChars 10 ds 0
    let x? :=
      if 0x80000000 ≤ e then
        if s = 0 || down then some (Binary64.zero n.negative) else none
      else Extended.ofParts? n.negative s (if down then shift - e else shift + e)
    match x? with
    | some x => .float (.finite x)
    | none => .unreadable

/-- Splits a fraction off the front: a point and at least one digit, or nothing. -/
def splitFraction : List Char → Except Fault (Option (List Char) × List Char)
  | '.' :: cs =>
    let ds := cs.takeWhile Char.isDigit
    if ds.isEmpty then .error .malformed else .ok (some ds, cs.dropWhile Char.isDigit)
  | cs => .ok (none, cs)

/-- Splits an exponent off the front: `e`, a sign or none and at least one digit, or nothing. -/
def splitExponent : List Char → Except Fault (Option (Bool × List Char) × List Char)
  | c :: cs =>
    if c == 'e' || c == 'E' then
      let (down, cs) := Extended.splitSign cs
      let ds := cs.takeWhile Char.isDigit
      if ds.isEmpty then .error .malformed
      else .ok (some (down, ds), cs.dropWhile Char.isDigit)
    else .ok (none, c :: cs)
  | [] => .ok (none, [])

theorem splitFraction_length_le {cs rest : List Char} {ds? : Option (List Char)}
    (h : splitFraction cs = .ok (ds?, rest)) : rest.length ≤ cs.length := by
  unfold splitFraction at h
  split at h
  · dsimp only at h
    split at h <;> cases h
    exact Nat.le_succ_of_le (length_dropWhile_le _ _)
  · cases h
    exact Nat.le_refl _

theorem length_splitSign_le (cs : List Char) : (Extended.splitSign cs).2.length ≤ cs.length := by
  unfold Extended.splitSign
  split <;> simp

theorem splitExponent_length_le {cs rest : List Char} {e? : Option (Bool × List Char)}
    (h : splitExponent cs = .ok (e?, rest)) : rest.length ≤ cs.length := by
  unfold splitExponent at h
  split at h
  · split at h
    · dsimp only at h
      split at h <;> cases h
      exact Nat.le_succ_of_le (Nat.le_trans (length_dropWhile_le _ _) (length_splitSign_le _))
    · cases h
      exact Nat.le_refl _
  · cases h
    exact Nat.le_refl _

/-- Reads an unsigned numeral: a whole part without a leading zero, then a fraction and an exponent
or none. -/
def unsignedNumber (negative : Bool) (cs : List Char) : Except Fault (Datum × List Char) := do
  let whole := cs.takeWhile Char.isDigit
  if whole.isEmpty || (whole.head? == some '0' && whole.length > 1) then .error .malformed
  else
    let (fraction, cs) ← splitFraction (cs.dropWhile Char.isDigit)
    let (exponent, cs) ← splitExponent cs
    return (Numeral.datum ⟨negative, whole, fraction, exponent⟩, cs)

theorem unsignedNumber_length_lt {negative : Bool} {cs rest : List Char} {d : Datum}
    (h : unsignedNumber negative cs = .ok (d, rest)) : rest.length < cs.length := by
  unfold unsignedNumber at h
  dsimp only at h
  split at h
  · cases h
  · rename_i hw
    have split := congrArg List.length
      (List.takeWhile_append_dropWhile : cs.takeWhile Char.isDigit ++ cs.dropWhile Char.isDigit = cs)
    have pos : (cs.takeWhile Char.isDigit).length ≠ 0 := by
      intro h0
      simp [List.length_eq_zero_iff.1 h0] at hw
    rw [List.length_append] at split
    match hf : splitFraction (cs.dropWhile Char.isDigit) with
    | .error e => rw [hf] at h; cases h
    | .ok (fraction, more) =>
      rw [hf] at h
      match he : splitExponent more with
      | .error e => simp [he, bind, Except.bind] at h
      | .ok (exponent, rest') =>
        simp [he, bind, Except.bind, pure, Except.pure] at h
        have := splitFraction_length_le hf
        have := splitExponent_length_le he
        rw [← h.2]
        omega

/-- Reads a number, or one of the words `null`, `true` and `false`. -/
def scalar : List Char → Except Fault (Datum × List Char)
  | 'n' :: 'u' :: 'l' :: 'l' :: cs => .ok (.null, cs)
  | 't' :: 'r' :: 'u' :: 'e' :: cs => .ok (.bool true, cs)
  | 'f' :: 'a' :: 'l' :: 's' :: 'e' :: cs => .ok (.bool false, cs)
  | '-' :: cs => unsignedNumber true cs
  | cs => unsignedNumber false cs

theorem scalar_length_lt {cs rest : List Char} {d : Datum} (h : scalar cs = .ok (d, rest)) :
    rest.length < cs.length := by
  unfold scalar at h
  split at h
  · cases h; simp only [List.length_cons]; omega
  · cases h; simp only [List.length_cons]; omega
  · cases h; simp only [List.length_cons]; omega
  · exact Nat.lt_succ_of_lt (unsignedNumber_length_lt h)
  · exact unsignedNumber_length_lt h

/-- Reads the items of an array up to the closing bracket, the first of which is still to come. -/
def itemsRest (item : Reader Char Fault Datum) (cs : List Char) :
    Except Fault (Reading (List Datum) cs) := do
  let r ← item cs
  match h : skip r.rest with
  | ',' :: rest =>
    have : rest.length < cs.length := by
      have := length_skip_le r.rest; have := r.shorter; simp [h] at *; omega
    let more ← itemsRest item rest
    return (more.map (r.value :: ·)).within (Nat.le_of_lt this)
  | ']' :: rest =>
    return ⟨[r.value], rest, by
      have := length_skip_le r.rest; have := r.shorter; simp [h] at *; omega⟩
  | _ => .error .malformed
termination_by cs.length

/-- Reads the name of a field, if it is a text, and the colon after it. -/
def fieldName (cs : List Char) : Except Fault (Reading (Option String) cs) :=
  match h : skip cs with
  | '\x22' :: rest => do
    let name ← stringRest rest
    match h' : skip name.rest with
    | ':' :: rest' =>
      return ⟨name.value.map String.ofList, rest', by
        have := length_skip_le cs; have := length_skip_le name.rest; have := name.shorter
        simp [h, h'] at *; omega⟩
    | _ => .error .malformed
  | _ => .error .malformed

/-- Reads the fields of an object up to the closing brace, the first of which is still to come.
Nothing is given if some name is not a text. -/
def fieldsRest (item : Reader Char Fault Datum) (cs : List Char) :
    Except Fault (Reading (Option (List (String × Datum))) cs) := do
  let name ← fieldName cs
  let r ← item name.rest
  match h : skip r.rest with
  | ',' :: rest =>
    have : rest.length < cs.length := by
      have := length_skip_le r.rest; have := r.shorter; have := name.shorter
      simp [h] at *; omega
    let more ← fieldsRest item rest
    return (more.map fun fields? => do return (← name.value, r.value) :: (← fields?)).within
      (Nat.le_of_lt this)
  | '\x7d' :: rest =>
    return ⟨name.value.map fun name => [(name, r.value)], rest, by
      have := length_skip_le r.rest; have := r.shorter; have := name.shorter
      simp [h] at *; omega⟩
  | _ => .error .malformed
termination_by cs.length

/-- Reads the items of an array whose opening bracket has been read. -/
def arrayRest (item : Reader Char Fault Datum) (cs : List Char) :
    Except Fault (Reading Datum cs) :=
  match h : skip cs with
  | ']' :: rest =>
    .ok ⟨.array [], rest, by have := length_skip_le cs; simp [h] at *; omega⟩
  | _ => do
    let r ← itemsRest item cs
    return r.map .array

/-- Reads the fields of an object whose opening brace has been read. -/
def objectRest (item : Reader Char Fault Datum) (cs : List Char) :
    Except Fault (Reading Datum cs) :=
  match h : skip cs with
  | '\x7d' :: rest =>
    .ok ⟨.table [], rest, by have := length_skip_le cs; simp [h] at *; omega⟩
  | _ => do
    let r ← fieldsRest item cs
    return r.map fun fields? => (fields?.map .table).getD .unreadable

/-- Reads a datum inside of which arrays and objects open up to `depth` levels. Those beyond the
first `room` levels are unreadable. -/
def datum : Nat → Nat → Reader Char Fault Datum
  | depth, room => fun cs =>
    have le := length_skip_le cs
    match h : skip cs with
    | [] => .error .malformed
    | c :: rest =>
      have : rest.length < cs.length := by simp [h] at le; omega
      if c == '\x22' then do
        let r ← stringRest rest
        let text := fun cs? : Option (List Char) =>
          (cs?.map fun cs => Datum.string (String.ofList cs)).getD .unreadable
        return (r.map text).within (Nat.le_of_lt this)
      else if c == '[' || c == '\x7b' then
        match depth with
        | 0 => .error .malformed
        | depth + 1 => do
          let r ← (if c == '[' then arrayRest else objectRest) (datum depth (room - 1)) rest
          return (r.map fun d => if room = 0 then .unreadable else d).within (Nat.le_of_lt this)
      else
        match h' : scalar (c :: rest) with
        | .error fault => .error fault
        | .ok (d, rest') =>
          .ok ⟨d, rest', Nat.lt_of_lt_of_le (scalar_length_lt h') (h ▸ le)⟩

/-- How many arrays and objects may be open at once. -/
def maxDepth : Nat := 127

/-- Reads a whole text as one datum. -/
def read (s : String) : Except Fault Datum := do
  let r ← datum s.length maxDepth s.toList
  if (skip r.rest).isEmpty then return r.value else .error .malformed

/-- Reads a whole text as one value. -/
def readValue (s : String) : Except Fault Value := do
  match (← read s).toValue? with
  | some v => return v
  | none => .error .unreadable

end Reflex.Json
