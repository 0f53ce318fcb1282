import Reflex.Json.Printer
import Reflex.Json.Reader
import Reflex.Proofs.Json.Numerals
import Reflex.Proofs.Value.Data

/-!
# JSON text that is read back

The text of a value over several lines is read back as that value.  `Value.readValue_pretty` says so
of plain values, whose objects repeat no name and whose arrays and objects nest no deeper than a
reader goes.  Their numbers are legible: the reader rounds numerals in its own way, so that the text
of a floating number may stand for a number beside it.

* `Json.Gives` says what a reader gives and what it leaves, with one lemma for each reader.
* `Json.gives_quoted` is about texts between quotes, `Number.scalar_text` about numerals, and
  `Value.isRead` about values.
* `Value.read_pretty` is about whole texts.
-/

namespace Reflex

namespace Json

variable {α : Type} {input : List Char}

/-- What a reader gives, and what it leaves. -/
def Gives (result : Except Fault (Reading α input)) (value : α) (rest : List Char) : Prop :=
  ∃ r, result = .ok r ∧ r.value = value ∧ r.rest = rest

/-- Nothing but white space. -/
def IsBlank (blank : List Char) : Prop :=
  ∀ c ∈ blank, isSpace c = true

variable {blank cs rest middle tail text : List Char} {c e : Char}

lemma skip_blank (blanks : IsBlank blank) (solid : isSpace c = false) :
    skip (blank ++ c :: cs) = c :: cs := by
  rw [skip, List.dropWhile_append_of_pos blanks, List.dropWhile_cons_of_neg (by simp [solid])]

/-! ## Texts between quotes -/

lemma gives_closingQuote : Gives (stringRest ('\x22' :: rest)) (some []) rest := by
  rw [stringRest.eq_def]
  exact ⟨_, rfl, rfl, rfl⟩

/-- A one-letter escape is read as what it stands for. -/
lemma gives_shortEscape (known : unescape? e = some c)
    (more : Gives (stringRest cs) (some text) rest) :
    Gives (stringRest ('\x5c' :: e :: cs)) (some (c :: text)) rest := by
  obtain ⟨r, read, value, rfl⟩ := more
  have short : e ≠ 'u' := by
    rintro rfl
    cases known
  rw [stringRest.eq_3 e cs fun _ _ _ _ _ isU _ => short isU, known, read]
  exact ⟨_, rfl, by simp [putBefore, value], rfl⟩

/-- A character of the code that four digits give is read from them. -/
lemma gives_codeEscape {n : Nat} (low : n < 32) (more : Gives (stringRest cs) (some text) rest) :
    Gives (stringRest ('\x5c' :: 'u' :: '0' :: '0' :: Nat.digitChar (n / 16) ::
      Nat.digitChar (n % 16) :: cs)) (some (Char.ofNat n :: text)) rest := by
  obtain ⟨r, read, value, rfl⟩ := more
  have digits : ∀ n < 32,
      unit? '0' '0' (Nat.digitChar (n / 16)) (Nat.digitChar (n % 16)) = some n := by decide
  have notSurrogate : (decide (n < 0xD800) || decide (0xE000 ≤ n)) = true := by
    rw [decide_eq_true (by omega : n < 0xD800), Bool.true_or]
  rw [stringRest.eq_2, digits n low]
  simp only [if_pos notSurrogate, read]
  exact ⟨_, rfl, by simp [putBefore, value], rfl⟩

/-- A character that needs no escape is read as it is. -/
lemma gives_plain (notQuote : c ≠ '\x22') (notMark : c ≠ '\x5c') (printable : 32 ≤ c.toNat)
    (more : Gives (stringRest cs) (some text) rest) :
    Gives (stringRest (c :: cs)) (some (c :: text)) rest := by
  obtain ⟨r, read, value, rfl⟩ := more
  rw [stringRest.eq_4 c cs (fun _ _ _ _ _ isMark _ => notMark isMark)
    fun _ _ isMark _ => notMark isMark]
  have permitted : ¬(c == '\x5c' || decide (c.toNat < 0x20)) = true := by
    simp only [Bool.or_eq_true, beq_iff_eq, decide_eq_true_eq, not_or]
    exact ⟨notMark, by omega⟩
  rw [if_neg (by simpa using notQuote), if_neg permitted, read]
  exact ⟨_, rfl, by simp [putBefore, value], rfl⟩

/-- A character is written by a letter that stands for it, by its code, or as it is. -/
lemma escape_eq (c : Char) :
    (∃ e, escape c = ['\x5c', e] ∧ unescape? e = some c) ∨
    (c.toNat < 32 ∧ escape c = ['\x5c', 'u', '0', '0', Nat.digitChar (c.toNat / 16),
      Nat.digitChar (c.toNat % 16)]) ∨
    (c ≠ '\x22' ∧ c ≠ '\x5c' ∧ 32 ≤ c.toNat ∧ escape c = [c]) := by
  unfold escape
  split_ifs with marked newline tab carriage backspace feed control
  · exact .inl ⟨c, rfl, if_pos (by simp [marked])⟩
  · exact .inl ⟨'n', rfl, by rw [beq_iff_eq.1 newline]; rfl⟩
  · exact .inl ⟨'t', rfl, by rw [beq_iff_eq.1 tab]; rfl⟩
  · exact .inl ⟨'r', rfl, by rw [beq_iff_eq.1 carriage]; rfl⟩
  · exact .inl ⟨'b', rfl, by rw [beq_iff_eq.1 backspace]; rfl⟩
  · exact .inl ⟨'f', rfl, by rw [beq_iff_eq.1 feed]; rfl⟩
  · exact .inr (.inl ⟨control, rfl⟩)
  · rw [Bool.or_eq_true, not_or, beq_iff_eq, beq_iff_eq] at marked
    exact .inr (.inr ⟨marked.1, marked.2, Nat.not_lt.1 control, rfl⟩)

/-- A character is read from the way it is written. -/
lemma gives_escape (more : Gives (stringRest cs) (some text) rest) :
    Gives (stringRest (escape c ++ cs)) (some (c :: text)) rest := by
  rcases escape_eq c with ⟨e, written, stands⟩ | ⟨low, written⟩ | ⟨notQuote, notMark, high, written⟩
  · rw [written]
    exact gives_shortEscape stands more
  · rw [written, ← Char.ofNat_toNat c]
    have coded := gives_codeEscape low more
    rwa [Char.ofNat_toNat] at coded ⊢
  · rw [written]
    exact gives_plain notQuote notMark high more

/-- A text is read from the way its characters are written, up to the closing quote. -/
lemma gives_quoted (chars rest : List Char) :
    Gives (stringRest (chars.flatMap escape ++ '\x22' :: rest)) (some chars) rest := by
  induction chars with
  | nil => exact gives_closingQuote
  | cons c chars ih =>
    rw [List.flatMap_cons, List.append_assoc]
    exact gives_escape ih

/-! ## Data -/

variable {item : Reader Char Fault Datum} {d : Datum} {ds : List Datum} {depth room : Nat}
  {name : String} {entries : List (String × Datum)}

/-- The last item of an array. -/
lemma gives_lastItem (read : Gives (item cs) d (blank ++ ']' :: rest)) (blanks : IsBlank blank) :
    Gives (itemsRest item cs) [d] rest := by
  obtain ⟨r, read, rfl, rest_eq⟩ := read
  have closes : skip r.rest = ']' :: rest := by rw [rest_eq, skip_blank blanks rfl]
  rw [itemsRest, read]
  simp only [bind, Except.bind]
  split
  · rename_i opens
    cases closes.symm.trans opens
  · rename_i rest' closes'
    obtain ⟨-, rfl⟩ := List.cons.inj (closes.symm.trans closes')
    exact ⟨_, rfl, rfl, rfl⟩
  · rename_i other
    exact absurd closes (other _)

/-- An item of an array before others. -/
lemma gives_moreItems (read : Gives (item cs) d (',' :: tail))
    (more : Gives (itemsRest item tail) ds rest) :
    Gives (itemsRest item cs) (d :: ds) rest := by
  obtain ⟨r, read, rfl, rest_eq⟩ := read
  obtain ⟨r', more, rfl, rfl⟩ := more
  have goes_on : skip r.rest = ',' :: tail := by rw [rest_eq]; rfl
  rw [itemsRest, read]
  simp only [bind, Except.bind]
  split
  · rename_i tail' goes_on'
    obtain ⟨-, rfl⟩ := List.cons.inj (goes_on.symm.trans goes_on')
    rw [more]
    exact ⟨_, rfl, rfl, rfl⟩
  · rename_i closes
    cases goes_on.symm.trans closes
  · rename_i other _
    exact absurd goes_on (other _)

/-- The name of a field between quotes, and the colon after it. -/
lemma gives_fieldName (name : String) (blanks : IsBlank blank) (rest : List Char) :
    Gives (fieldName (blank ++ (quote name ++ ':' :: rest))) (some name) rest := by
  have opens : skip (blank ++ (quote name ++ ':' :: rest)) =
      '\x22' :: (name.toList.flatMap escape ++ '\x22' :: ':' :: rest) := by
    rw [quote, List.cons_append, skip_blank blanks rfl, List.append_assoc]
    rfl
  obtain ⟨r, read, value, rest_eq⟩ := gives_quoted name.toList (':' :: rest)
  unfold fieldName
  split
  · rename_i quoted opens'
    obtain ⟨-, rfl⟩ := List.cons.inj (opens.symm.trans opens')
    rw [read]
    simp only [bind, Except.bind]
    have colon : skip r.rest = ':' :: rest := by rw [rest_eq]; rfl
    split
    · rename_i rest' colon'
      obtain ⟨-, rfl⟩ := List.cons.inj (colon.symm.trans colon')
      exact ⟨_, rfl, by simp [value], rfl⟩
    · rename_i other
      exact absurd colon (other _)
  · rename_i other
    exact absurd opens (other _)

/-- The last field of an object. -/
lemma gives_lastField (named : Gives (fieldName cs) (some name) tail)
    (read : Gives (item tail) d (blank ++ '\x7d' :: rest)) (blanks : IsBlank blank) :
    Gives (fieldsRest item cs) (some [(name, d)]) rest := by
  obtain ⟨n, named, name_eq, rfl⟩ := named
  obtain ⟨r, read, rfl, rest_eq⟩ := read
  have closes : skip r.rest = '\x7d' :: rest := by rw [rest_eq, skip_blank blanks rfl]
  rw [fieldsRest, named]
  simp only [bind, Except.bind, read]
  split
  · rename_i opens
    cases closes.symm.trans opens
  · rename_i rest' closes'
    obtain ⟨-, rfl⟩ := List.cons.inj (closes.symm.trans closes')
    exact ⟨_, rfl, by rw [name_eq]; rfl, rfl⟩
  · rename_i other
    exact absurd closes (other _)

/-- A field of an object before others. -/
lemma gives_moreFields (named : Gives (fieldName cs) (some name) middle)
    (read : Gives (item middle) d (',' :: tail))
    (more : Gives (fieldsRest item tail) (some entries) rest) :
    Gives (fieldsRest item cs) (some ((name, d) :: entries)) rest := by
  obtain ⟨n, named, name_eq, rfl⟩ := named
  obtain ⟨r, read, rfl, rest_eq⟩ := read
  obtain ⟨r', more, more_eq, rfl⟩ := more
  have goes_on : skip r.rest = ',' :: tail := by rw [rest_eq]; rfl
  rw [fieldsRest, named]
  simp only [bind, Except.bind, read]
  split
  · rename_i tail' goes_on'
    obtain ⟨-, rfl⟩ := List.cons.inj (goes_on.symm.trans goes_on')
    rw [more]
    exact ⟨_, rfl, by simp [name_eq, more_eq], rfl⟩
  · rename_i closes
    cases goes_on.symm.trans closes
  · rename_i other _
    exact absurd goes_on (other _)

lemma gives_emptyArray : Gives (arrayRest item (']' :: rest)) (.array []) rest :=
  ⟨_, rfl, rfl, rfl⟩

lemma gives_array (opens : ∀ tail, skip cs ≠ ']' :: tail)
    (read : Gives (itemsRest item cs) ds rest) :
    Gives (arrayRest item cs) (.array ds) rest := by
  obtain ⟨r, read, rfl, rfl⟩ := read
  unfold arrayRest
  split
  · rename_i tail closes
    exact absurd closes (opens tail)
  · rw [read]
    exact ⟨_, rfl, rfl, rfl⟩

lemma gives_emptyObject : Gives (objectRest item ('\x7d' :: rest)) (.table []) rest :=
  ⟨_, rfl, rfl, rfl⟩

lemma gives_object (opens : ∀ tail, skip cs ≠ '\x7d' :: tail)
    (read : Gives (fieldsRest item cs) (some entries) rest) :
    Gives (objectRest item cs) (.table entries) rest := by
  obtain ⟨r, read, value, rfl⟩ := read
  unfold objectRest
  split
  · rename_i tail closes
    exact absurd closes (opens tail)
  · rw [read]
    exact ⟨_, rfl, by simp [value], rfl⟩

/-- A text as a datum. -/
lemma gives_text (opens : skip cs = '\x22' :: tail)
    (read : Gives (stringRest tail) (some text) rest) :
    Gives (datum depth room cs) (.string (String.ofList text)) rest := by
  obtain ⟨r, read, value, rfl⟩ := read
  rw [datum.eq_def]
  dsimp only
  split
  · rename_i nothing
    cases opens.symm.trans nothing
  · rename_i c tail' opens'
    obtain ⟨rfl, rfl⟩ := List.cons.inj (opens.symm.trans opens')
    rw [if_pos (beq_self_eq_true _), read]
    exact ⟨_, rfl, by simp [value], rfl⟩

/-- An array or an object as a datum. -/
lemma gives_container (opens : skip cs = c :: tail) (opening : c = '[' ∨ c = '\x7b')
    (allowed : 0 < room)
    (read : Gives ((if c == '[' then arrayRest else objectRest) (datum depth (room - 1)) tail) d
      rest) :
    Gives (datum (depth + 1) room cs) d rest := by
  obtain ⟨r, read, value, rfl⟩ := read
  have unquoted : ¬(c == '\x22') = true := by
    rcases opening with rfl | rfl <;> decide
  have opening' : (c == '[' || c == '\x7b') = true := by
    rcases opening with rfl | rfl <;> decide
  rw [datum.eq_def]
  dsimp only
  split
  · rename_i nothing
    cases opens.symm.trans nothing
  · rename_i c' tail' opens'
    obtain ⟨rfl, rfl⟩ := List.cons.inj (opens.symm.trans opens')
    rw [if_neg unquoted, if_pos opening', read]
    exact ⟨_, rfl, by simp [value, Nat.ne_of_gt allowed], rfl⟩

/-- A datum that holds no others. -/
lemma gives_scalar_iff (opens : skip cs = c :: tail)
    (other : c ≠ '\x22' ∧ c ≠ '[' ∧ c ≠ '\x7b') :
    Gives (datum depth room cs) d rest ↔ scalar (c :: tail) = .ok (d, rest) := by
  obtain ⟨unquoted, notArray, notObject⟩ := other
  rw [datum.eq_def]
  dsimp only
  split
  · rename_i nothing
    cases opens.symm.trans nothing
  · rename_i c' tail' opens'
    obtain ⟨rfl, rfl⟩ := List.cons.inj (opens.symm.trans opens')
    rw [if_neg (by simpa using unquoted), if_neg (by simp [notArray, notObject])]
    split
    · rename_i fails
      simp [Gives, fails]
    · rename_i d' rest' read'
      simp [Gives, read']

/-! ## Whole texts -/

lemma isBlank_nil : IsBlank [] :=
  List.forall_mem_nil _

lemma isBlank_lineEnd : IsBlank "\n".toList := by
  intro c mem
  rw [List.mem_singleton.1 mem]
  rfl

/-- A whole text is a datum with white space behind it. -/
lemma read_eq_ok_iff {s : String} : Json.read s = .ok d ↔
    ∃ rest, Gives (datum s.length maxDepth s.toList) d rest ∧ IsBlank rest := by
  have blank (rest : List Char) : (skip rest).isEmpty = true ↔ IsBlank rest := by
    rw [List.isEmpty_iff, skip, List.dropWhile_eq_nil_iff, IsBlank]
  rw [Json.read, bind_eq_ok_iff]
  constructor
  · rintro ⟨r, read, whole⟩
    split at whole
    · rename_i blanks
      cases whole
      exact ⟨r.rest, ⟨r, read, rfl, rfl⟩, (blank r.rest).1 blanks⟩
    · cases whole
  · rintro ⟨rest, ⟨r, read, rfl, rfl⟩, blanks⟩
    exact ⟨r, read, if_pos ((blank r.rest).2 blanks)⟩

lemma readValue_eq_ok_iff {s : String} {v : Value} :
    Json.readValue s = .ok v ↔ ∃ d, Json.read s = .ok d ∧ d.toValue? = some v := by
  rw [Json.readValue, bind_eq_ok_iff]
  refine exists_congr fun d => and_congr_right fun _ => ?_
  cases d.toValue? <;> simp [pure, Except.pure]

end Json

open Json

/-! ## Numbers -/

namespace Value

/-- The number that a value is. -/
def number? : Value → Option Number
  | .number n => some n
  | _ => none

lemma number?_eq_some_iff {v : Value} {n : Number} : v.number? = some n ↔ v = .number n := by
  cases v <;> simp [number?]

end Value

namespace Number

/-- A floating number is read back from its text.  An integer always is. -/
def IsLegible : Number → Prop
  | .int _ _ => True
  | .float x => Json.readValue (Value.number (.float x)).pretty = .ok (.number (.float x))

instance (n : Number) : Decidable n.IsLegible :=
  match n with
  | .int _ _ => .isTrue trivial
  | .float x =>
    decidable_of_iff
      ((Json.readValue (Value.number (.float x)).pretty).toOption.bind Value.number? =
        some (.float x)) <| by
      rw [IsLegible]
      cases Json.readValue (Value.number (.float x)).pretty <;>
        simp [Except.toOption, Value.number?_eq_some_iff]

/-- The text of a number begins with a minus sign or a digit. -/
lemma exists_text (n : Number) : ∃ c cs, n.text.toList = c :: cs ∧ (c = '-' ∨ c.isDigit) := by
  obtain ⟨⟨c, first, start⟩, -⟩ := n.isNumeral_text
  obtain ⟨cs, text⟩ := List.head?_eq_some_iff.1 (Option.mem_def.1 first)
  exact ⟨c, cs, text, start⟩

/-- Neither a text nor an array or object begins as a number does. -/
lemma not_opening {c : Char} (start : c = '-' ∨ c.isDigit) :
    c ≠ '\x22' ∧ c ≠ '[' ∧ c ≠ '\x7b' := by
  rcases start with rfl | digit
  · decide
  · refine ⟨?_, ?_, ?_⟩ <;> rintro rfl <;> cases digit

/-- What stands for a number is its datum. -/
lemma eq_ofValue_of_toValue? {n : Number} {d : Datum} (made : d.toValue? = some (.number n)) :
    d = Datum.ofValue (.number n) := by
  cases d with
  | integer m =>
    rw [Datum.toValue?] at made
    split at made <;> cases made
    rfl
  | float x =>
    cases x <;> cases made
    rfl
  | array items => cases h : Datum.toValues? items <;> simp [Datum.toValue?, h] at made
  | table entries => cases h : Datum.toFields? entries <;> simp [Datum.toValue?, h] at made
  | _ => cases made

/-- A legible number is read from its text. -/
lemma scalar_text {n : Number} (legible : n.IsLegible) :
    scalar n.text.toList = .ok (Datum.ofValue (.number n), []) := by
  cases n with
  | int n isWord => exact scalar_ofInt isWord
  | float x =>
    obtain ⟨d, read, made⟩ := readValue_eq_ok_iff.1 legible
    obtain rfl := eq_ofValue_of_toValue? made
    obtain ⟨rest, given, blanks⟩ := read_eq_ok_iff.1 read
    have chars : (Value.number (.float x)).pretty.toList = (float x).text.toList :=
      String.toList_ofList
    have solid := (float x).isNumeral_text.2
    obtain ⟨c, cs, split, start⟩ := (float x).exists_text
    rw [split] at solid ⊢
    rw [chars, split] at given
    have opens : skip (c :: cs) = c :: cs :=
      List.dropWhile_cons_of_neg (by simp [solid c List.mem_cons_self])
    have scanned := (gives_scalar_iff opens (not_opening start)).1 given
    -- No white space is in the text, so that none is left.
    have left : rest = [] := by
      refine List.eq_nil_iff_forall_not_mem.2 fun e mem => ?_
      have space := blanks e mem
      rw [solid e ((scalar_suffix start scanned).mem mem)] at space
      cases space
    rw [scanned, left]

end Number

/-! ## Values -/

mutual

/-- Every number in the value is legible. -/
def Value.Legible : Value → Prop
  | .number n => n.IsLegible
  | .array items => Value.LegibleItems items
  | .object fields => Fields.LegibleValues fields
  | _ => True

/-- Every number in the items is legible. -/
def Value.LegibleItems : List Value → Prop
  | [] => True
  | v :: items => v.Legible ∧ Value.LegibleItems items

/-- Every number in the values of the fields is legible. -/
def Fields.LegibleValues : List (String × Value) → Prop
  | [] => True
  | (_, v) :: fields => v.Legible ∧ Fields.LegibleValues fields

end

mutual

/-- How deep the arrays and objects of a value nest. -/
def Value.nesting : Value → Nat
  | .array items => Value.itemNesting items + 1
  | .object fields => Fields.valueNesting fields + 1
  | _ => 0

/-- How deep the items nest. -/
def Value.itemNesting : List Value → Nat
  | [] => 0
  | v :: items => max v.nesting (Value.itemNesting items)

/-- How deep the values of fields nest. -/
def Fields.valueNesting : List (String × Value) → Nat
  | [] => 0
  | (_, v) :: fields => max v.nesting (Fields.valueNesting fields)

end

namespace Value

lemma isBlank_newline (level : Nat) : IsBlank (newline level) := by
  intro c mem
  rcases List.mem_cons.1 mem with rfl | mem
  · rfl
  · rw [List.eq_of_mem_replicate mem]
    rfl

lemma stops_newline {rest : List Char} (level : Nat) : Stops (newline level ++ rest) :=
  stops_cons (by decide)

lemma stops_blank {blank : List Char} (blanks : IsBlank blank) : Stops blank := by
  cases blank with
  | nil => exact stops_nil
  | cons c blank =>
    have space : isSpace c = true := blanks c List.mem_cons_self
    simp only [isSpace, Bool.or_eq_true, beq_iff_eq] at space
    rcases space with ((rfl | rfl) | rfl) | rfl <;> exact stops_cons (by decide)

lemma stops_comma {rest : List Char} : Stops (',' :: rest) :=
  stops_cons (by decide)

/-- The text of a value begins neither with white space nor with a closing bracket. -/
lemma exists_prettyChars (v : Value) (level : Nat) :
    ∃ c cs, prettyChars level v = c :: cs ∧ isSpace c = false ∧ c ≠ ']' := by
  cases v with
  | null => exact ⟨'n', _, rfl, by decide, by decide⟩
  | bool b => cases b <;> exact ⟨_, _, rfl, by decide, by decide⟩
  | number n =>
    obtain ⟨c, cs, split, start⟩ := n.exists_text
    have solid : isSpace c = false := n.isNumeral_text.2 c (by rw [split]; exact List.mem_cons_self)
    have notClosing : c ≠ ']' := by
      rintro rfl
      rcases start with minus | digit
      · cases minus
      · cases digit
    exact ⟨c, cs, split, solid, notClosing⟩
  | string s => exact ⟨'\x22', _, rfl, by decide, by decide⟩
  | array items =>
    cases items <;> exact ⟨'[', _, rfl, by decide, by decide⟩
  | object fields =>
    cases fields <;> exact ⟨'\x7b', _, rfl, by decide, by decide⟩

/-- The text of a value is read as its datum, whatever white space stands before it, by a reader
that goes as deep as the value nests.  What follows may be anything that goes on with no numeral. -/
def IsRead (levels : Nat) (v : Value) : Prop :=
  ∀ (depth room level : Nat) (blank rest : List Char), levels ≤ depth → levels ≤ room →
    IsBlank blank → Stops rest →
      Gives (datum depth room (blank ++ (prettyChars level v ++ rest))) (Datum.ofValue v) rest

variable {levels more depth room : Nat} {items : List Value} {fields : Fields} {s : String}

lemma IsRead.mono {v : Value} (read : v.IsRead levels) (le : levels ≤ more) : v.IsRead more := by
  intro depth room level blank rest deep allowed blanks stops
  exact read depth room level blank rest (le.trans deep) (le.trans allowed) blanks stops

lemma isRead_scalar {v : Value} {word : List Char} {c : Char}
    (written : ∀ level, prettyChars level v = c :: word) (solid : isSpace c = false)
    (other : c ≠ '\x22' ∧ c ≠ '[' ∧ c ≠ '\x7b')
    (read : ∀ rest, Stops rest → scalar (c :: (word ++ rest)) = .ok (Datum.ofValue v, rest)) :
    v.IsRead levels := by
  intro depth room level blank rest deep allowed blanks stops
  rw [written, List.cons_append]
  exact (gives_scalar_iff (skip_blank blanks solid) other).2 (read rest stops)

/-- A legible number is read. -/
lemma isRead_number {n : Number} (legible : n.IsLegible) : (number n).IsRead levels := by
  obtain ⟨c, cs, split, start⟩ := n.exists_text
  have solid : isSpace c = false := n.isNumeral_text.2 c (by rw [split]; exact List.mem_cons_self)
  have read := Number.scalar_text legible
  rw [split] at read
  exact isRead_scalar (fun _ => split) solid (Number.not_opening start) fun rest stops =>
    scalar_append start stops read

lemma isRead_string : (string s).IsRead levels := by
  intro depth room level blank rest deep allowed blanks _
  have opens : skip (blank ++ (prettyChars level (string s) ++ rest)) =
      '\x22' :: (s.toList.flatMap escape ++ '\x22' :: rest) := by
    have text : prettyChars level (string s) ++ rest =
        '\x22' :: (s.toList.flatMap escape ++ '\x22' :: rest) := by
      simp [prettyChars, scalarChars, quote]
    rw [text, skip_blank blanks rfl]
  have read : Gives (datum depth room _) _ rest := gives_text opens (gives_quoted s.toList rest)
  rwa [String.ofList_toList] at read

/-- The items of an array are read one after the other. -/
lemma gives_prettyItems (each : ∀ v ∈ items, v.IsRead levels) (nonempty : items ≠ [])
    (deep : levels ≤ depth) (allowed : levels ≤ room) (level : Nat) (rest : List Char) :
    Gives (itemsRest (datum depth room) (prettyItems level items ++ rest)) (Datum.ofValues items)
      rest := by
  induction items with
  | nil => exact absurd rfl nonempty
  | cons v items ih =>
    obtain ⟨first, others⟩ := List.forall_mem_cons.1 each
    have read := fun after => first depth room (level + 1) (newline (level + 1)) after deep allowed
      (isBlank_newline (level + 1))
    cases items with
    | nil =>
      have text : prettyItems level [v] ++ rest = newline (level + 1) ++
          (prettyChars (level + 1) v ++ (newline level ++ ']' :: rest)) := by
        simp [prettyItems]
      rw [text]
      exact gives_lastItem (read _ (stops_newline level)) (isBlank_newline level)
    | cons w items =>
      have text : prettyItems level (v :: w :: items) ++ rest = newline (level + 1) ++
          (prettyChars (level + 1) v ++ ',' :: (prettyItems level (w :: items) ++ rest)) := by
        simp [prettyItems]
      rw [text]
      exact gives_moreItems (read _ stops_comma) (ih others (List.cons_ne_nil w items))

/-- The fields of an object are read one after the other. -/
lemma gives_prettyFields (each : ∀ field ∈ fields, field.2.IsRead levels) (nonempty : fields ≠ [])
    (deep : levels ≤ depth) (allowed : levels ≤ room) (level : Nat) (rest : List Char) :
    Gives (fieldsRest (datum depth room) (prettyFields level fields ++ rest))
      (some (Datum.ofFields fields)) rest := by
  induction fields with
  | nil => exact absurd rfl nonempty
  | cons field fields ih =>
    obtain ⟨key, v⟩ := field
    obtain ⟨first, others⟩ := List.forall_mem_cons.1 each
    have space : IsBlank [' '] := by
      intro c mem
      rw [List.mem_singleton.1 mem]
      rfl
    have named := gives_fieldName key (isBlank_newline (level + 1))
    have read := fun after => first depth room (level + 1) [' '] after deep allowed space
    cases fields with
    | nil =>
      have text : prettyFields level [(key, v)] ++ rest = newline (level + 1) ++
          (quote key ++ ':' ::
            ([' '] ++ (prettyChars (level + 1) v ++ (newline level ++ '\x7d' :: rest)))) := by
        simp [prettyFields]
      rw [text]
      exact gives_lastField (named _) (read _ (stops_newline level)) (isBlank_newline level)
    | cons other fields =>
      have text : prettyFields level ((key, v) :: other :: fields) ++ rest = newline (level + 1) ++
          (quote key ++ ':' :: ([' '] ++ (prettyChars (level + 1) v ++
            ',' :: (prettyFields level (other :: fields) ++ rest)))) := by
        simp [prettyFields]
      rw [text]
      exact gives_moreFields (named _) (read _ stops_comma)
        (ih others (List.cons_ne_nil other fields))

/-- An array is read when its items are. -/
lemma isRead_array (each : ∀ v ∈ items, v.IsRead levels) : (array items).IsRead (levels + 1) := by
  intro depth room level blank rest deep allowed blanks _
  obtain ⟨depth, rfl⟩ : ∃ below, depth = below + 1 := ⟨depth - 1, by omega⟩
  have within : levels ≤ depth := by omega
  have permitted : levels ≤ room - 1 := by omega
  have roomy : 0 < room := by omega
  cases items with
  | nil =>
    have read : Gives (arrayRest (datum depth (room - 1)) (']' :: rest)) (.array []) rest :=
      gives_emptyArray
    exact gives_container (skip_blank blanks rfl) (.inl rfl) roomy read
  | cons v items =>
    obtain ⟨c, text, begins, solid, notClosing⟩ := exists_prettyChars v (level + 1)
    -- What follows the opening bracket begins with the first item.
    have opens : ∀ tail, skip (prettyItems level (v :: items) ++ rest) ≠ ']' :: tail := by
      intro tail closes
      have first : ∃ after, prettyItems level (v :: items) ++ rest =
          newline (level + 1) ++ c :: after := by
        cases items <;> exact ⟨_, by simp [prettyItems, begins]; rfl⟩
      obtain ⟨after, first⟩ := first
      rw [first, skip_blank (isBlank_newline (level + 1)) solid] at closes
      exact notClosing (List.cons.inj closes).1
    have read := gives_array opens
      (gives_prettyItems each (List.cons_ne_nil v items) within permitted level rest)
    exact gives_container (skip_blank blanks rfl) (.inl rfl) roomy read

/-- An object is read when the values of its fields are. -/
lemma isRead_object (each : ∀ field ∈ fields, field.2.IsRead levels) :
    (object fields).IsRead (levels + 1) := by
  intro depth room level blank rest deep allowed blanks _
  obtain ⟨depth, rfl⟩ : ∃ below, depth = below + 1 := ⟨depth - 1, by omega⟩
  have within : levels ≤ depth := by omega
  have permitted : levels ≤ room - 1 := by omega
  have roomy : 0 < room := by omega
  cases fields with
  | nil =>
    have read : Gives (objectRest (datum depth (room - 1)) ('\x7d' :: rest)) (.table []) rest :=
      gives_emptyObject
    exact gives_container (skip_blank blanks rfl) (.inr rfl) roomy read
  | cons field fields =>
    have opens : ∀ tail, skip (prettyFields level (field :: fields) ++ rest) ≠ '\x7d' :: tail := by
      intro tail closes
      have first : ∃ after, prettyFields level (field :: fields) ++ rest =
          newline (level + 1) ++ '\x22' :: after := by
        cases fields <;> exact ⟨_, by simp [prettyFields, quote]; rfl⟩
      obtain ⟨after, first⟩ := first
      rw [first, skip_blank (isBlank_newline (level + 1)) rfl] at closes
      cases closes
    have read := gives_object opens
      (gives_prettyFields each (List.cons_ne_nil field fields) within permitted level rest)
    exact gives_container (skip_blank blanks rfl) (.inr rfl) roomy read

mutual

/-- The text of a value whose numbers are legible is read as its datum. -/
theorem isRead : ∀ v : Value, v.Legible → v.IsRead v.nesting
  | .null, _ => isRead_scalar (fun _ => rfl) rfl (by decide) fun _ _ => rfl
  | .bool true, _ => isRead_scalar (fun _ => rfl) rfl (by decide) fun _ _ => rfl
  | .bool false, _ => isRead_scalar (fun _ => rfl) rfl (by decide) fun _ _ => rfl
  | .number _, legible => isRead_number legible
  | .string _, _ => isRead_string
  | .array items, legible => isRead_array (areRead items legible)
  | .object fields, legible => isRead_object (fieldsAreRead fields legible)

/-- The text of every item is read as its datum. -/
theorem areRead : ∀ items : List Value, LegibleItems items →
    ∀ v ∈ items, v.IsRead (itemNesting items)
  | [], _ => List.forall_mem_nil _
  | v :: items, legible => List.forall_mem_cons.2
    ⟨(isRead v legible.1).mono (le_max_left _ _), fun w mem =>
      (areRead items legible.2 w mem).mono (le_max_right _ _)⟩

/-- The text of the value of every field is read as its datum. -/
theorem fieldsAreRead : ∀ fields : List (String × Value), Fields.LegibleValues fields →
    ∀ field ∈ fields, field.2.IsRead (Fields.valueNesting fields)
  | [], _ => List.forall_mem_nil _
  | (_, v) :: fields, legible => List.forall_mem_cons.2
    ⟨(isRead v legible.1).mono (le_max_left _ _), fun field mem =>
      (fieldsAreRead fields legible.2 field mem).mono (le_max_right _ _)⟩

end

/-! ## Lengths of texts -/

mutual

/-- A text is at least as long as the value nests deep. -/
theorem nesting_le_length : ∀ (v : Value) (level : Nat), v.nesting ≤ (prettyChars level v).length
  | .null, _ => Nat.zero_le _
  | .bool _, _ => Nat.zero_le _
  | .number _, _ => Nat.zero_le _
  | .string _, _ => Nat.zero_le _
  | .array [], _ => by simp [nesting, itemNesting, prettyChars]
  | .array (v :: items), level => by
    have below := itemNesting_le_length (v :: items) level
    rw [nesting, prettyChars, if_neg (by simp), List.length_cons]
    omega
  | .object [], _ => by simp [nesting, Fields.valueNesting, prettyChars]
  | .object (field :: fields), level => by
    have below := valueNesting_le_length (field :: fields) level
    rw [nesting, prettyChars, if_neg (by simp), List.length_cons]
    omega

theorem itemNesting_le_length : ∀ (items : List Value) (level : Nat),
    itemNesting items ≤ (prettyItems level items).length
  | [], _ => Nat.zero_le _
  | [v], level => by
    have here := nesting_le_length v (level + 1)
    simp only [itemNesting, prettyItems, List.length_append]
    omega
  | v :: w :: items, level => by
    have here := nesting_le_length v (level + 1)
    have others := itemNesting_le_length (w :: items) level
    rw [itemNesting, prettyItems]
    · simp only [List.length_append, List.length_cons]
      omega
    · exact List.cons_ne_nil w items

theorem valueNesting_le_length : ∀ (fields : List (String × Value)) (level : Nat),
    Fields.valueNesting fields ≤ (prettyFields level fields).length
  | [], _ => Nat.zero_le _
  | [(key, v)], level => by
    have here := nesting_le_length v (level + 1)
    simp only [Fields.valueNesting, prettyFields, List.length_append, List.length_cons]
    omega
  | (key, v) :: other :: fields, level => by
    have here := nesting_le_length v (level + 1)
    have others := valueNesting_le_length (other :: fields) level
    rw [Fields.valueNesting, prettyFields]
    · simp only [List.length_append, List.length_cons]
      omega
    · exact List.cons_ne_nil other fields

end

end Value

/-! ## Plain values -/

namespace Value

/-- The numbers in the value are legible, no object in it repeats a name, and it nests at most so
deep. -/
structure IsPlain (levels : Nat) (v : Value) : Prop where
  legible : v.Legible
  wellFormed : v.WellFormed
  nesting : v.nesting ≤ levels

variable {levels more : Nat} {items : List Value} {fields : Fields} {v : Value}

lemma IsPlain.mono (plain : v.IsPlain levels) (le : levels ≤ more) : v.IsPlain more where
  legible := plain.legible
  wellFormed := plain.wellFormed
  nesting := plain.nesting.trans le

lemma isPlain_string (s : String) : (string s).IsPlain levels :=
  ⟨trivial, trivial, Nat.zero_le levels⟩

lemma isPlain_array (each : ∀ v ∈ items, v.IsPlain levels) :
    (array items).IsPlain (levels + 1) := by
  suffices general : LegibleItems items ∧ WellFormedItems items ∧ itemNesting items ≤ levels from
    ⟨general.1, general.2.1, Nat.succ_le_succ general.2.2⟩
  induction items with
  | nil => exact ⟨trivial, trivial, Nat.zero_le levels⟩
  | cons v items ih =>
    obtain ⟨first, others⟩ := List.forall_mem_cons.1 each
    obtain ⟨legible, wellFormed, nesting⟩ := ih others
    exact ⟨⟨first.legible, legible⟩, ⟨first.wellFormed, wellFormed⟩,
      max_le first.nesting nesting⟩

lemma isPlain_object (named : fields.names.Nodup)
    (each : ∀ field ∈ fields, field.2.IsPlain levels) : (object fields).IsPlain (levels + 1) := by
  suffices general : Fields.LegibleValues fields ∧ Fields.WellFormedValues fields ∧
      Fields.valueNesting fields ≤ levels from
    ⟨general.1, ⟨named, general.2.1⟩, Nat.succ_le_succ general.2.2⟩
  clear named
  induction fields with
  | nil => exact ⟨trivial, trivial, Nat.zero_le levels⟩
  | cons field fields ih =>
    obtain ⟨first, others⟩ := List.forall_mem_cons.1 each
    obtain ⟨legible, wellFormed, nesting⟩ := ih others
    exact ⟨⟨first.legible, legible⟩, ⟨first.wellFormed, wellFormed⟩,
      max_le first.nesting nesting⟩

/-- **The text of a value is read back.**  The numbers in it are legible, and it nests no deeper
than a reader goes.  White space may follow the text. -/
theorem read_pretty (legible : v.Legible) (nesting : v.nesting ≤ Json.maxDepth) {blank : String}
    (blanks : IsBlank blank.toList) :
    Json.read (v.pretty ++ blank) = .ok (Datum.ofValue v) := by
  have chars : (v.pretty ++ blank).toList = prettyChars 0 v ++ blank.toList := by
    rw [String.toList_append, pretty, String.toList_ofList]
  have deep : v.nesting ≤ (v.pretty ++ blank).length := by
    rw [← String.length_toList, chars, List.length_append]
    exact (nesting_le_length v 0).trans (Nat.le_add_right _ _)
  have given := isRead v legible _ _ 0 [] blank.toList deep nesting isBlank_nil (stops_blank blanks)
  rw [List.nil_append, ← chars] at given
  exact read_eq_ok_iff.2 ⟨blank.toList, given, blanks⟩

/-- A plain value is read back as it is. -/
theorem readValue_pretty (plain : v.IsPlain Json.maxDepth) {blank : String}
    (blanks : IsBlank blank.toList) : Json.readValue (v.pretty ++ blank) = .ok v :=
  readValue_eq_ok_iff.2 ⟨_, read_pretty plain.legible plain.nesting blanks,
    Datum.toValue?_ofValue v plain.wellFormed⟩

end Value

end Reflex
