import Reflex.Expr.Eval
import Reflex.Proofs.Binary64
import Reflex.Proofs.Expr.Identity
import Reflex.Proofs.Expr.RoundTrip
import Reflex.State.Store

/-!
# Paths in expressions and in the store

A path such as `$grid.0.name` is read in two ways.  A store splits the text at its points and looks
up every segment as it is written; the expression language cuts the text into tokens, parses them
and takes one member after the other.  A numeral becomes a number on the way, and the member is the
one under the numeral of that number.  So the two readings agree as long as a numeral survives this,
which it does when its number is exact and it has no leading zeros.

* `Path.text` is the text of a path, `Path.IsSegment` says what its segments are.
* `Path.unpadded` is a segment without leading zeros.
* `Path.cut_points` cuts the tokens from the text, and `Path.derives_expr` parses them.
* `Value.member_eq` compares the two ways to take a member.
* `Path.reads_as_stored` is the result.
-/

namespace Reflex

open Grammar

/-! ## Numerals -/

section Numerals

variable {c : Char} {cs : List Char} {n : Nat}

lemma toDigits_of_isDigit (digit : c.isDigit) : Nat.toDigits 10 (c.toNat - '0'.toNat) = [c] := by
  have range := isDigit_iff.1 digit
  have zero : '0'.toNat = 48 := rfl
  have small : c.toNat - '0'.toNat < 10 := by omega
  rw [Nat.toDigits_of_lt_base small, List.singleton_inj]
  apply Char.toNat_inj.1
  rw [Nat.toNat_digitChar_of_lt_ten small]
  omega

/-- Digits behind a number that is not zero stay as they are. -/
lemma toDigits_ofDigitChars (pos : 0 < n) (digits : ∀ d ∈ cs, d.isDigit) :
    Nat.toDigits 10 (Nat.ofDigitChars 10 cs n) = Nat.toDigits 10 n ++ cs := by
  induction cs generalizing n with
  | nil => simp
  | cons d cs ih =>
    obtain ⟨digit, digits⟩ := List.forall_mem_cons.1 digits
    have range := isDigit_iff.1 digit
    have zero : '0'.toNat = 48 := rfl
    have small : d.toNat - '0'.toNat < 10 := by omega
    calc Nat.toDigits 10 (Nat.ofDigitChars 10 (d :: cs) n)
        = Nat.toDigits 10 (10 * n + (d.toNat - '0'.toNat)) ++ cs := by
          rw [Nat.ofDigitChars_cons, ih (by omega) digits]
      _ = (Nat.toDigits 10 n ++ [d]) ++ cs := by
          rw [← Nat.toDigits_append_toDigits (by decide) pos small, toDigits_of_isDigit digit]
      _ = Nat.toDigits 10 n ++ d :: cs := by rw [List.append_assoc, List.singleton_append]

end Numerals

/-! ## Texts of paths -/

namespace Path

/-- The text of a path: the name of a state variable without its sigil, and segments. -/
def text (name : List Char) (segments : List (List Char)) : String :=
  String.ofList (['.'].intercalate (('$' :: name) :: segments))

/-- The segments of a path: names, though not that of a length, and numerals. -/
inductive IsSegment : List Char → Prop
  | name {c : Char} {cs : List Char} (start : Text.isNameStart c) (more : ∀ d ∈ cs, Text.isName d)
      (other : c :: cs ≠ ['l', 'e', 'n', 'g', 't', 'h']) : IsSegment (c :: cs)
  | numeral {c : Char} {cs : List Char} (digits : ∀ d ∈ c :: cs, d.isDigit) : IsSegment (c :: cs)

/-- Whether a segment, if it is a numeral, has a number that needs no rounding. -/
def IsExact (segment : List Char) : Prop :=
  segment.all Char.isDigit → Nat.ofDigitChars 10 segment 0 ≤ 2 ^ 53

/-- Whether a segment is a numeral with leading zeros. -/
def IsPadded (segment : List Char) : Prop :=
  segment.all Char.isDigit ∧ ∃ c cs, segment = '0' :: c :: cs

/-- A segment without the leading zeros that it has as a numeral. -/
def unpadded (segment : List Char) : List Char :=
  if segment.all Char.isDigit then Nat.toDigits 10 (Nat.ofDigitChars 10 segment 0) else segment

/-- The token that a segment is cut into. -/
def kind (segment : List Char) : TokenKind :=
  if segment.all Char.isDigit then
    .number (Extended.ofDecimal false (Nat.ofDigitChars 10 segment 0) 0)
  else .ident (String.ofList segment)

variable {name segment rest : List Char} {segments : List (List Char)} {c : Char} {cs : List Char}

lemma not_all_isDigit (start : Text.isNameStart c) : ¬ (c :: cs).all Char.isDigit := by
  simp [isDigit_of_isNameStart start]

/-- What is no padded numeral stays as it is. -/
lemma unpadded_eq_self (h : IsSegment segment) (plain : ¬ IsPadded segment) :
    unpadded segment = segment := by
  cases h with
  | name start => exact if_neg (not_all_isDigit start)
  | @numeral c cs digits =>
    have all : (c :: cs).all Char.isDigit := List.all_eq_true.2 digits
    obtain ⟨digit, more⟩ := List.forall_mem_cons.1 digits
    rw [unpadded, if_pos all, Nat.ofDigitChars_cons, Nat.mul_zero, Nat.zero_add]
    by_cases zero : c = '0'
    · subst zero
      cases cs with
      | nil => rfl
      | cons d ds => exact absurd ⟨all, d, ds, rfl⟩ plain
    · have nonzero : c.toNat ≠ '0'.toNat := fun same => zero (Char.toNat_inj.1 same)
      have range := isDigit_iff.1 digit
      have pos : 0 < c.toNat - '0'.toNat := by
        have : '0'.toNat = 48 := rfl
        omega
      rw [toDigits_ofDigitChars pos more, toDigits_of_isDigit digit, List.singleton_append]

/-- A text is a state variable and, for each segment, a point and the segment. -/
lemma intercalate_eq (first : List Char) (segments : List (List Char)) :
    ['.'].intercalate (first :: segments) = first ++ segments.flatMap ('.' :: ·) := by
  induction segments generalizing first with
  | nil => simp
  | cons segment segments ih =>
    rw [List.intercalate_cons_of_ne_nil (List.cons_ne_nil _ _), ih, List.flatMap_cons]
    simp

lemma toList_text (name : List Char) (segments : List (List Char)) :
    (text name segments).toList = '$' :: (name ++ segments.flatMap ('.' :: ·)) := by
  rw [text, String.toList_ofList, intercalate_eq, List.cons_append]

/-- No name holds a point. -/
lemma point_notMem (named : ∀ c ∈ cs, Text.isName c) : '.' ∉ cs :=
  fun mem => absurd (named _ mem) (by decide)

/-- Segments are made of the characters of names. -/
lemma IsSegment.isName (h : IsSegment segment) : ∀ c ∈ segment, Text.isName c := by
  cases h with
  | name start more => exact List.forall_mem_cons.2 ⟨isName_of_isNameStart start, more⟩
  | numeral digits => exact fun c mem => isName_of_isDigit (digits c mem)

/-- A store splits the text into the segments. -/
lemma segments_text (named : ∀ c ∈ name, Text.isName c)
    (each : ∀ s ∈ segments, ∀ c ∈ s, Text.isName c) :
    Path.segments (text name segments) =
      String.ofList ('$' :: name) :: segments.map String.ofList := by
  have pointless : ∀ s ∈ ('$' :: name) :: segments, '.' ∉ s := by
    refine List.forall_mem_cons.2 ⟨?_, fun s mem => point_notMem (each s mem)⟩
    simpa using point_notMem named
  rw [Path.segments, text, String.toList_ofList,
    List.splitOn_intercalate '.' pointless (List.cons_ne_nil _ _), List.map_cons]

/-! ## Tokens of paths -/

/-- After a point, a segment is one token. -/
lemma IsSegment.lexeme (h : IsSegment (c :: cs)) (stop : ∀ d ∈ rest.head?, Text.isName d = false) :
    ∃ l, lexeme true c (cs ++ rest) = .ok l ∧ l.kind = kind (c :: cs) ∧ l.rest = rest := by
  cases h with
  | name start more =>
    rw [kind, if_neg (not_all_isDigit start)]
    have ident : TokenText (.ident (String.ofList (c :: cs))) (c :: cs) := .ident start more
    exact lexeme_of_text ident stop fun _ x => by simp
  | numeral digits =>
    obtain ⟨digit, more⟩ := List.forall_mem_cons.1 digits
    have stop' : ∀ d ∈ rest.head?, d.isDigit = false := by
      intro d head
      rw [← Bool.not_eq_true]
      exact fun digit => Bool.false_ne_true ((stop d head).symm.trans (isName_of_isDigit digit))
    have taken : (cs ++ rest).takeWhile Char.isDigit = cs := by
      rw [takeWhile_append_of_stop stop', List.takeWhile_eq_self_iff.2 more]
    have left : (cs ++ rest).dropWhile Char.isDigit = rest := by
      rw [dropWhile_append_of_stop stop', List.dropWhile_eq_nil_iff.2 more, List.nil_append]
    rw [Reflex.lexeme, if_pos digit]
    refine ⟨_, rfl, ?_, left⟩
    rw [kind, if_pos (List.all_eq_true.2 digits)]
    simp [lexNumber, taken]

lemma IsSegment.exists_cons (h : IsSegment segment) :
    ∃ c cs, segment = c :: cs ∧ ¬ Text.isBlank c := by
  cases h with
  | name start => exact ⟨_, _, rfl, not_isBlank_of_isNameStart start⟩
  | numeral digits => exact ⟨_, _, rfl, not_isBlank_of_isDigit (digits _ List.mem_cons_self)⟩

/-- No character of a name begins what follows a segment. -/
lemma stop_points (segments : List (List Char)) :
    ∀ d ∈ (segments.flatMap ('.' :: ·)).head?, Text.isName d = false := by
  cases segments with
  | nil => simp
  | cons segment segments => simp [Text.isName]

/-- Two tokens are cut for each segment, a point and the segment. -/
lemma cut_points (each : ∀ s ∈ segments, IsSegment s) (offset : Nat) :
    ∃ tokens, Tokens.cut offset false (segments.flatMap ('.' :: ·)) = .ok tokens ∧
      tokens.list.map Token.kind = segments.flatMap fun s => [.dot, kind s] := by
  induction segments generalizing offset with
  | nil => exact ⟨⟨[], offset⟩, by simp [Tokens.cut], rfl⟩
  | cons segment segments ih =>
    obtain ⟨here, others⟩ := List.forall_mem_cons.1 each
    obtain ⟨c, cs, rfl, notBlank⟩ := here.exists_cons
    obtain ⟨l, cutOff, isKind, after⟩ := here.lexeme (stop_points segments)
    have notDot : (l.kind == .dot) = false := by
      rw [isKind, kind]
      split <;> rfl
    obtain ⟨tokens, read, kinds⟩ :=
      ih others (offset + Text.width ['.'] + Text.width l.text)
    refine ⟨⟨⟨.dot, offset, ['.']⟩ :: ⟨l.kind, offset + Text.width ['.'], l.text⟩ :: tokens.list,
      tokens.stop⟩, ?_, ?_⟩
    · have point : Reflex.lexeme false '.' (c :: (cs ++ segments.flatMap ('.' :: ·))) =
          .ok (.single .dot '.' _) := rfl
      have pointed : (TokenKind.dot == TokenKind.dot) = true := by decide
      rw [List.flatMap_cons, List.cons_append, List.cons_append, Tokens.cut,
        if_neg (by decide : ¬ Text.isBlank '.' = true), point]
      simp only [Lexeme.single, pointed]
      rw [Tokens.cut, if_neg notBlank, cutOff]
      simp only [notDot, after, read]
    · simp only [List.map_cons, kinds, isKind, List.flatMap_cons, List.cons_append,
        List.nil_append]

/-! ## Trees of paths -/

/-- The tree of a path. -/
def expr (name : List Char) (segments : List (List Char)) : Expr :=
  segments.foldl (fun e s => .member e (String.ofList (unpadded s)))
    (.state (String.ofList ('$' :: name)))

/-- The token of a segment leads to the member of that name, written without leading zeros. -/
lemma IsSegment.spells (h : IsSegment segment) (exact : IsExact segment) :
    SpellsSegment (String.ofList (unpadded segment)) (kind segment) := by
  cases h with
  | name start =>
    rw [unpadded, kind, if_neg (not_all_isDigit start), if_neg (not_all_isDigit start)]
    exact .name _
  | @numeral c cs digits =>
    have all : (c :: cs).all Char.isDigit := List.all_eq_true.2 digits
    have le : Nat.ofDigitChars 10 (c :: cs) 0 ≤ 2 ^ 53 := exact all
    have nonneg : 0 ≤ (Binary64.ofNat _ le).scaled := by
      rw [Binary64.scaled_ofNat]
      exact Int.natCast_nonneg _
    have spells := SpellsSegment.number (Binary64.isInteger_ofNat le) nonneg
    rw [Binary64.truncate_ofNat, Int.natAbs_natCast, Nat.min_eq_left (by omega)] at spells
    rw [unpadded, kind, if_pos all, if_pos all, Extended.ofDecimal_of_le le]
    exact spells

/-- The tokens of a path are those of its tree. -/
lemma derives_expr (name : List Char) (each : ∀ s ∈ segments, IsSegment s)
    (exact : ∀ s ∈ segments, IsExact s) (d : Nat) :
    Derives d .path (.state (String.ofList ('$' :: name)) ::
      segments.flatMap fun s => [.dot, kind s]) (expr name segments) := by
  induction segments using List.reverseRecOn with
  | nil => exact .start (.state _)
  | append_singleton segments segment ih =>
    obtain ⟨each, here⟩ := List.forall_mem_append.1 each
    obtain ⟨exact, exactHere⟩ := List.forall_mem_append.1 exact
    have spells := (here _ List.mem_cons_self).spells (exactHere _ List.mem_cons_self)
    rw [expr, List.foldl_append, List.flatMap_append]
    exact .member (ih each exact) spells

/-- The tokens of a path make up an expression. -/
lemma derives_conditional {ts : List TokenKind} {e : Expr} (h : ∀ d, Derives d .path ts e) :
    Derives maxNesting .conditional ts e := by
  have operand : Derives 127 (.chain 6) ts e := .operand (.unsigned (h 126))
  exact .untested (.tighter (.tighter (.tighter (.tighter (.tighter (.tighter operand))))))

/-- The text of a path is cut into the tokens of its tree. -/
lemma exists_tokens (nonempty : name ≠ []) (named : ∀ c ∈ name, Text.isName c)
    (each : ∀ s ∈ segments, IsSegment s) : ∃ tokens, Tokens.ofSource (text name segments) =
      .ok tokens ∧ tokens.list.map Token.kind = .state (String.ofList ('$' :: name)) ::
        segments.flatMap fun s => [.dot, kind s] := by
  have sigil : "$" ++ String.ofList name = String.ofList ('$' :: name) := by
    rw [← List.singleton_append, String.ofList_append]
  have written : TokenText (.state (String.ofList ('$' :: name))) ('$' :: name) := by
    rw [← sigil]
    exact .state nonempty named
  have unpointed : false → ∀ x, TokenKind.state (String.ofList ('$' :: name)) ≠ .number x := nofun
  obtain ⟨l, cutOff, isKind, after⟩ := lexeme_of_text written (stop_points segments) unpointed
  have notDot : (l.kind == .dot) = false := by rw [isKind]; rfl
  obtain ⟨tokens, read, kinds⟩ := cut_points each (0 + Text.width l.text)
  refine ⟨⟨⟨l.kind, 0, l.text⟩ :: tokens.list, tokens.stop⟩, ?_, ?_⟩
  · rw [Tokens.ofSource, toList_text, Tokens.cut, if_neg (by decide : ¬ Text.isBlank '$' = true),
      cutOff]
    simp only [notDot, after, read]
  · rw [List.map_cons, kinds, isKind]

/-- A path is parsed to its tree. -/
lemma parse_text (nonempty : name ≠ []) (named : ∀ c ∈ name, Text.isName c)
    (each : ∀ s ∈ segments, IsSegment s) (exact : ∀ s ∈ segments, IsExact s) :
    Expr.parse (text name segments) = .ok (expr name segments) := by
  obtain ⟨tokens, tokenizes, kinds⟩ := exists_tokens nonempty named each
  rw [Expr.parse_eq_ok_iff tokenizes, Parser.ofTokens_eq_ok_iff, kinds]
  exact derives_conditional (derives_expr name each exact)

end Path

/-! ## Values of paths -/

namespace Value

variable {v : Value} {segment : String} {segments : List String}

/-- A member is the part that a store finds, or `null`. -/
lemma member_eq (v : Value) (other : segment ≠ "length") :
    v.member segment = (Path.step? v segment).getD .null := by
  have unmeasured : (segment == "length") = false := beq_false_of_ne other
  cases v <;> simp [member, Path.step?, unmeasured]

/-- There are no members of `null`. -/
lemma foldl_member_null (segments : List String) : segments.foldl member .null = .null := by
  induction segments with
  | nil => rfl
  | cons segment segments ih => exact ih

/-- Members of members are the part that a store finds along the segments, or `null`. -/
lemma foldl_member_eq (v : Value) (others : ∀ s ∈ segments, s ≠ "length") :
    segments.foldl member v = (segments.foldlM Path.step? v).getD .null := by
  induction segments generalizing v with
  | nil => rfl
  | cons segment segments ih =>
    obtain ⟨other, others⟩ := List.forall_mem_cons.1 others
    rw [List.foldl_cons, List.foldlM_cons, member_eq v other]
    cases Path.step? v segment with
    | none => exact foldl_member_null segments
    | some w => exact ih w others

end Value

namespace Expr

variable {scope : Scope} {segments : List String}

/-- The value of members of an expression that has one. -/
lemma eval_members {e : Expr} {v : Value} (h : e.eval scope = pure v) (segments : List String) :
    (segments.foldl .member e).eval scope = pure (segments.foldl Value.member v) := by
  induction segments generalizing e v with
  | nil => exact h
  | cons segment segments ih =>
    refine ih ?_
    rw [eval, h, pure_bind]

end Expr

namespace Path

variable {name : List Char} {segments : List (List Char)}

/-- No segment is that of a length, with or without leading zeros. -/
lemma IsSegment.ne_length {segment : List Char} (h : IsSegment segment) :
    String.ofList (unpadded segment) ≠ "length" := by
  intro same
  have chars : unpadded segment = ['l', 'e', 'n', 'g', 't', 'h'] := by
    rw [← String.toList_ofList (l := unpadded segment), same]
    rfl
  cases h with
  | name start _ other =>
    rw [unpadded, if_neg (not_all_isDigit start)] at chars
    exact other chars
  | numeral digits =>
    rw [unpadded, if_pos (List.all_eq_true.2 digits)] at chars
    have digit : ('l').isDigit :=
      Nat.isDigit_of_mem_toDigits (by decide) (by decide) (chars ▸ List.mem_cons_self)
    cases digit

/-- Without leading zeros a segment is still made of the characters of names. -/
lemma IsSegment.isName_unpadded {segment : List Char} (h : IsSegment segment) :
    ∀ c ∈ unpadded segment, Text.isName c := by
  intro c mem
  rw [unpadded] at mem
  split at mem
  · exact isName_of_isDigit (Nat.isDigit_of_mem_toDigits (by decide) (by decide) mem)
  · exact h.isName c mem

/-- The tree of a path has the value that a store finds under the path without leading zeros. -/
lemma eval_expr (library : Library) (store : Store) (named : ∀ c ∈ name, Text.isName c)
    (each : ∀ s ∈ segments, IsSegment s) :
    ((expr name segments).eval ⟨library, store.document, []⟩).collected =
      (.ok (store.get (text name (segments.map unpadded))), []) := by
  have tree : expr name segments = (segments.map fun s => String.ofList (unpadded s)).foldl
      .member (.state (String.ofList ('$' :: name))) := by
    rw [expr, List.foldl_map]
  have unmeasured : ∀ s ∈ segments.map fun s => String.ofList (unpadded s), s ≠ "length" :=
    List.forall_mem_map.2 fun s mem => (each s mem).ne_length
  have split : Path.segments (text name (segments.map unpadded)) = String.ofList ('$' :: name) ::
      segments.map fun s => String.ofList (unpadded s) := by
    rw [segments_text named (List.forall_mem_map.2 fun s mem => (each s mem).isName_unpadded),
      List.map_map]
    rfl
  have base : Expr.eval ⟨library, store.document, []⟩ (.state (String.ofList ('$' :: name))) =
      pure ((store.document.get? (String.ofList ('$' :: name))).getD .null) := by
    rw [Expr.eval]
    rfl
  have value : ((segments.map fun s => String.ofList (unpadded s)).foldl Value.member
      ((store.document.get? (String.ofList ('$' :: name))).getD .null)) =
      ((store.document.get? (String.ofList ('$' :: name))).bind fun v =>
        (segments.map fun s => String.ofList (unpadded s)).foldlM step? v).getD .null := by
    cases store.document.get? (String.ofList ('$' :: name)) with
    | some v => exact Value.foldl_member_eq v unmeasured
    | none => exact Value.foldl_member_null _
  rw [tree, Expr.eval_members base, value, Store.get, Store.getOr, lookup?, split]
  rfl

/-- **Expressions read paths as stores do.**  A path of names and numerals is an expression, and
without event data its value is the value that a store gives for the path, be it there or not.  The
numerals must not exceed `2 ^ 53`, and the expression reads them without leading zeros. -/
theorem reads_as_stored (library : Library) (store : Store) (nonempty : name ≠ [])
    (named : ∀ c ∈ name, Text.isName c) (each : ∀ s ∈ segments, IsSegment s)
    (exact : ∀ s ∈ segments, IsExact s) :
    ∃ e, Expr.parse (text name segments) = .ok e ∧
      (e.eval ⟨library, store.document, []⟩).collected =
        (.ok (store.get (text name (segments.map unpadded))), []) ∧
      ((∀ s ∈ segments, ¬ IsPadded s) → (e.eval ⟨library, store.document, []⟩).collected =
        (.ok (store.get (text name segments)), [])) := by
  refine ⟨expr name segments, parse_text nonempty named each exact,
    eval_expr library store named each, fun plain => ?_⟩
  have same : segments.map unpadded = segments := by
    refine (List.map_congr_left fun s mem => ?_).trans (List.map_id segments)
    exact unpadded_eq_self (each s mem) (plain s mem)
  rw [eval_expr library store named each, same]

/-- Both kinds of segments, through an array and an object. -/
theorem reads_as_stored_through_array :
    let document : Fields := [("$list", .array [.string "a", .object [("key", .bool true)]])]
    let store : Store := ⟨document, [], [], 0, 64, "4.state", .holding none⟩
    let path := text ['l', 'i', 's', 't'] [['1'], ['k', 'e', 'y']]
    ∃ e, Expr.parse path = .ok e ∧
      (e.eval ⟨.standard, document, []⟩).collected = (.ok (store.get path), []) ∧
        store.get path = .bool true := by
  intro document store path
  have named : ∀ c ∈ ['l', 'i', 's', 't'], Text.isName c := List.all_eq_true.1 rfl
  have each : ∀ s ∈ [['1'], ['k', 'e', 'y']], IsSegment s := by
    refine List.forall_mem_cons.2 ⟨.numeral (List.all_eq_true.1 rfl), ?_⟩
    exact List.forall_mem_singleton.2 (.name rfl (List.all_eq_true.1 rfl) (by decide))
  have exact : ∀ s ∈ [['1'], ['k', 'e', 'y']], IsExact s := by
    simp [IsExact, Nat.ofDigitChars_cons]
  have plain : ∀ s ∈ [['1'], ['k', 'e', 'y']], ¬ IsPadded s := by
    simp [IsPadded]
  obtain ⟨e, parses, -, value⟩ :=
    reads_as_stored .standard store (List.cons_ne_nil _ _) named each exact
  exact ⟨e, parses, value plain, by decide⟩

/-- A field whose name is a numeral with leading zeros is found by a store alone. -/
theorem padded_field_unread : ¬ ∀ (library : Library) (store : Store) (name : List Char)
    (segments : List (List Char)), name ≠ [] → (∀ c ∈ name, Text.isName c) →
    (∀ s ∈ segments, IsSegment s) → ∃ e, Expr.parse (text name segments) = .ok e ∧
      (e.eval ⟨library, store.document, []⟩).collected =
        (.ok (store.get (text name segments)), []) := by
  intro agree
  let store : Store := ⟨[("$a", .object [("007", .bool true)])], [], [], 0, 64, "4.state",
    .holding none⟩
  have each : ∀ s ∈ [['0', '0', '7']], IsSegment s :=
    List.forall_mem_singleton.2 (.numeral (List.all_eq_true.1 rfl))
  have exact : ∀ s ∈ [['0', '0', '7']], IsExact s := by
    simp [IsExact, Nat.ofDigitChars_cons]
  have named : ∀ c ∈ ['a'], Text.isName c := List.all_eq_true.1 rfl
  obtain ⟨e, parses, value⟩ :=
    agree .standard store ['a'] [['0', '0', '7']] (List.cons_ne_nil _ _) named each
  obtain rfl : expr ['a'] [['0', '0', '7']] = e := Except.ok.inj
    ((parse_text (List.cons_ne_nil _ _) named each exact).symm.trans parses)
  rw [eval_expr _ store named each] at value
  have unread : store.get (text ['a'] ([['0', '0', '7']].map unpadded)) = .null := by
    rfl
  have found : store.get (text ['a'] [['0', '0', '7']]) = .bool true := by
    rfl
  rw [unread, found] at value
  cases value

end Path

end Reflex
