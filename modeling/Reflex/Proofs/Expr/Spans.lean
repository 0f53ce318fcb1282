import Mathlib.Data.String.Basic
import Reflex.Proofs.Expr.Identity
import Reflex.Proofs.Expr.Layout
import Reflex.Proofs.Expr.Names

/-!
# The spans of the tokens

A token keeps the piece of the source text that it was cut from and the offset of that piece.
These pieces lie in the text one after the other, with nothing but white space outside of them, so
the lexer drops nothing.  It is blind to the white space as well: a token is cut off by looking at
most two characters beyond it, and white space there ends every token.

* `Tokens.Cuts` says how a text is cut into tokens.
* `Text.Looser` relates what follows a token to what may stand there instead, and `lexeme_of_looser`
  says that the token stays the same.
* `Tokens.spans_and_layout` is the main result.
-/

namespace Reflex

/-! ## Offsets -/

namespace Text

@[simp] lemma width_nil : width [] = 0 := rfl

@[simp] lemma width_cons (c : Char) (cs : List Char) : width (c :: cs) = c.utf8Size + width cs :=
  rfl

@[simp] lemma width_append (cs ds : List Char) : width (cs ++ ds) = width cs + width ds := by
  induction cs with
  | nil => simp
  | cons c cs ih => simp [ih, Nat.add_assoc]

lemma width_eq_utf8Len (cs : List Char) : width cs = String.utf8Len cs := by
  induction cs with
  | nil => rfl
  | cons c cs ih => rw [width_cons, ih, String.utf8Len_cons, Nat.add_comm]

lemma eq_nil_of_width {cs : List Char} (none : width cs = 0) : cs = [] := by
  cases cs with
  | nil => rfl
  | cons c cs =>
    have pos := Char.utf8Size_pos c
    rw [width_cons] at none
    omega

/-- Of two beginnings of a text the one that is no wider is a beginning of the other one. -/
lemma exists_append_of_width_le {as bs cs ds : List Char} (same : as ++ bs = cs ++ ds)
    (le : width as ≤ width cs) : ∃ gap, cs = as ++ gap ∧ bs = gap ++ ds := by
  rcases List.append_eq_append_iff.1 same with ⟨gap, wide, more⟩ | ⟨gap, wide, more⟩
  · exact ⟨gap, wide, more⟩
  · obtain rfl : gap = [] := eq_nil_of_width (by
      rw [wide, width_append] at le
      omega)
    exact ⟨[], by simpa using wide.symm, by simpa using more.symm⟩

/-- The width of a text is the number of its bytes. -/
lemma width_toList (s : String) : width s.toList = s.utf8ByteSize := by
  rw [width_eq_utf8Len, ← String.utf8ByteSize_ofList, String.ofList_toList]

end Text

/-- The byte offset behind a token. -/
def Token.stop (t : Token) : Nat :=
  t.offset + Text.width t.text

namespace Tokens

/-! ## How a text is cut -/

/-- How a text that begins at byte `offset` is cut into tokens: it is empty, or it begins with white
space or with a token. -/
inductive Cuts : (offset : Nat) → (afterDot : Bool) → (text : List Char) → Tokens → Prop
  | nil (offset : Nat) (afterDot : Bool) : Cuts offset afterDot [] ⟨[], offset⟩
  | blank {offset : Nat} {afterDot : Bool} {c : Char} {cs : List Char} {ts : Tokens}
      (isBlank : Text.isBlank c) (more : Cuts (offset + c.utf8Size) afterDot cs ts) :
      Cuts offset afterDot (c :: cs) ts
  | token {offset : Nat} {afterDot : Bool} {c : Char} {cs : List Char} {l : Lexeme (c :: cs)}
      {ts : Tokens} (notBlank : ¬ Text.isBlank c) (front : lexeme afterDot c cs = .ok l)
      (more : Cuts (offset + Text.width l.text) (l.kind == .dot) l.rest ts) :
      Cuts offset afterDot (c :: cs) ⟨⟨l.kind, offset, l.text⟩ :: ts.list, ts.stop⟩

variable {offset : Nat} {afterDot : Bool} {text : List Char} {ts : Tokens}

lemma cut_eq_ok_iff : cut offset afterDot text = .ok ts ↔ Cuts offset afterDot text ts := by
  constructor
  · intro h
    fun_induction cut offset afterDot text generalizing ts with
    | case1 offset afterDot =>
      cases h
      exact .nil offset afterDot
    | case2 offset afterDot c cs isBlank ih => exact .blank isBlank (ih h)
    | case3 => cases h
    | case4 => cases h
    | case5 offset afterDot c cs notBlank l front more read ih =>
      cases h
      exact .token notBlank front (ih read)
  · intro h
    induction h with
    | nil => rw [cut]
    | blank isBlank _ ih => rw [cut, if_pos isBlank, ih]
    | token notBlank front _ ih =>
      rw [cut, if_neg notBlank, front]
      dsimp only
      rw [ih]

/-! ## What the spans cover -/

namespace Cuts

lemma stop_eq (h : Cuts offset afterDot text ts) : ts.stop = offset + Text.width text := by
  induction h with
  | nil => rfl
  | blank _ _ ih => rw [ih, Text.width_cons, Nat.add_assoc]
  | @token _ _ _ _ l _ _ _ _ ih =>
    rw [ih, Nat.add_assoc, ← Text.width_append, l.text_append_rest]

/-- A token is cut from where its offset says. -/
lemma exists_span (h : Cuts offset afterDot text ts) : ∀ t ∈ ts.list, t.text ≠ [] ∧
    ∃ before after, text = before ++ (t.text ++ after) ∧
      t.offset = offset + Text.width before := by
  induction h with
  | nil => exact fun t mem => nomatch mem
  | @blank _ _ c _ _ _ _ ih =>
    intro t mem
    obtain ⟨nonempty, before, after, split, start⟩ := ih t mem
    refine ⟨nonempty, c :: before, after, congrArg (c :: ·) split, ?_⟩
    rw [start, Text.width_cons, Nat.add_assoc]
  | @token _ _ _ _ l _ _ _ _ ih =>
    intro t mem
    rcases List.mem_cons.1 mem with rfl | mem
    · exact ⟨l.text_ne_nil, [], l.rest, l.text_append_rest.symm, rfl⟩
    obtain ⟨nonempty, before, after, split, start⟩ := ih t mem
    refine ⟨nonempty, l.text ++ before, after, ?_, ?_⟩
    · exact l.text_append_rest.symm.trans (by rw [split, List.append_assoc])
    · rw [start, Text.width_append, Nat.add_assoc]

/-- No token begins before the text does. -/
lemma offset_le (h : Cuts offset afterDot text ts) {t : Token} (mem : t ∈ ts.list) :
    offset ≤ t.offset := by
  obtain ⟨-, before, -, -, start⟩ := h.exists_span t mem
  exact start ▸ Nat.le_add_right offset _

/-- No token begins before the one in front of it ends. -/
lemma pairwise (h : Cuts offset afterDot text ts) :
    ts.list.Pairwise fun t t' => t.stop ≤ t'.offset := by
  induction h with
  | nil => exact .nil
  | blank _ _ ih => exact ih
  | token _ _ more ih => exact List.pairwise_cons.2 ⟨fun t mem => more.offset_le mem, ih⟩

/-- What is outside of the tokens is white space. -/
lemma isBlank_or_mem (h : Cuts offset afterDot text ts) (before : List Char) (d : Char)
    (after : List Char) (split : text = before ++ d :: after) : Text.isBlank d ∨
      ∃ t ∈ ts.list, t.offset ≤ offset + Text.width before ∧
        offset + Text.width before < t.stop := by
  induction h generalizing before with
  | nil => simp at split
  | blank isBlank _ ih =>
    cases before with
    | nil =>
      obtain rfl := (List.cons.inj split).1
      exact .inl isBlank
    | cons b before =>
      obtain ⟨rfl, more⟩ := List.cons.inj split
      rw [Text.width_cons, ← Nat.add_assoc]
      exact ih before more
  | @token offset _ _ _ l ts _ _ _ ih =>
    rw [← l.text_append_rest] at split
    rcases List.append_eq_append_iff.1 split with ⟨gap, rfl, more⟩ | ⟨gap, text, more⟩
    · rw [Text.width_append, ← Nat.add_assoc]
      refine (ih gap more).imp_right fun ⟨t, mem, range⟩ => ?_
      exact ⟨t, List.mem_cons_of_mem _ mem, range⟩
    · cases gap with
      | nil =>
        rw [List.append_nil] at text
        subst text
        refine (ih [] more.symm).imp_right fun ⟨t, mem, range⟩ => ?_
        exact ⟨t, List.mem_cons_of_mem _ mem, range⟩
      | cons e gap =>
        refine .inr ⟨_, List.mem_cons_self, Nat.le_add_right offset _, ?_⟩
        have pos := Char.utf8Size_pos e
        simp only [Token.stop, text, Text.width_append, Text.width_cons]
        omega

/-- Where no token stands there is white space. -/
lemma isBlank_of_outside {before gap after : List Char} (h : Cuts 0 afterDot text ts)
    (split : text = before ++ (gap ++ after))
    (outside : ∀ t ∈ ts.list, t.stop ≤ Text.width before ∨ Text.width (before ++ gap) ≤ t.offset) :
    ∀ c ∈ gap, Text.isBlank c := by
  intro c mem
  obtain ⟨front, back, rfl⟩ := List.append_of_mem mem
  rcases h.isBlank_or_mem (before ++ front) c (back ++ after) (by simp [split]) with
    blank | ⟨t, mem, start, stop⟩
  · exact blank
  · have pos := Char.utf8Size_pos c
    have apart := outside t mem
    simp only [Text.width_append, Text.width_cons, Nat.zero_add] at apart start stop
    omega

end Cuts

end Tokens

/-! ## What may follow a token -/

namespace Text

/-- Whether a text begins as another one does, unless it ends or begins with white space. -/
def StartsLike (rest rest' : List Char) : Prop :=
  ∀ c ∈ rest'.head?, isBlank c ∨ c ∈ rest.head?

/-- Whether a text goes on for two characters as another one does, unless it ends or there is
white space sooner. -/
def Looser (rest rest' : List Char) : Prop :=
  ∀ c ∈ rest'.head?, isBlank c ∨ c ∈ rest.head? ∧ StartsLike rest.tail rest'.tail

variable {gap gap' rest rest' : List Char}

lemma Looser.startsLike (h : Looser rest rest') : StartsLike rest rest' :=
  fun c head => (h c head).imp_right And.left

/-- A class without white space still ends where it did. -/
lemma StartsLike.stop {p : Char → Bool} (h : StartsLike rest rest')
    (blankless : ∀ c, isBlank c → p c = false) (stop : ∀ c ∈ rest.head?, p c = false) :
    ∀ c ∈ rest'.head?, p c = false :=
  fun c head => (h c head).elim (blankless c) (stop c)

/-- White space may be put into a text, and what is there may be replaced. -/
lemma looser_of_gap (blank : ∀ c ∈ gap', isBlank c) (kept : gap ≠ [] → gap' ≠ [])
    (before after : List Char) :
    Looser (before ++ (gap ++ after)) (before ++ (gap' ++ after)) := by
  induction before with
  | cons b before ih => exact fun c head => .inr ⟨head, ih.startsLike⟩
  | nil =>
    cases gap' with
    | cons b gap' =>
      intro c head
      obtain rfl := Option.some.inj head
      exact .inl (blank b List.mem_cons_self)
    | nil =>
      obtain rfl : gap = [] := by simpa using kept
      exact fun c head => .inr ⟨head, fun d head => .inr head⟩

end Text

variable {c : Char} {cs cs' rest' text value : List Char} {afterDot : Bool}

/-- What is left when a class has been dropped does not begin with it. -/
lemma stop_of_dropWhile (p : Char → Bool) (cs : List Char) :
    ∀ c ∈ (cs.dropWhile p).head?, p c = false := by
  intro c head
  have not := cs.head?_dropWhile_not p
  rw [Option.mem_def.1 head] at not
  exact not

/-- Where a run of a class ends, white space may begin. -/
lemma takeWhile_of_startsLike {p : Char → Bool} (blankless : ∀ c, Text.isBlank c → p c = false)
    (like : Text.StartsLike (cs.dropWhile p) rest') :
    (cs.takeWhile p ++ rest').takeWhile p = cs.takeWhile p ∧
      (cs.takeWhile p ++ rest').dropWhile p = rest' :=
  takeWhile_run (fun _ mem => List.mem_takeWhile_imp mem)
    (like.stop blankless (stop_of_dropWhile p cs))

/-- The fraction of a number stays the same. -/
lemma splitFraction_of_looser (looser : Text.Looser (splitFraction cs).1.2.2 rest') :
    (splitFraction ((splitFraction cs).1.2.1 ++ rest')).1 =
      ((splitFraction cs).1.1, (splitFraction cs).1.2.1, rest') := by
  by_cases pointed : ∃ ds, cs = '.' :: ds ∧ (ds.takeWhile Char.isDigit).isEmpty = false
  · obtain ⟨ds, rfl, digits⟩ := pointed
    have digits' : ¬ (ds.takeWhile Char.isDigit).isEmpty := by simp [digits]
    rw [splitFraction_point, if_neg digits'] at looser ⊢
    obtain ⟨taken, dropped⟩ := takeWhile_of_startsLike (fun _ => isDigit_of_isBlank)
      looser.startsLike
    rw [List.cons_append, splitFraction_point, taken, dropped, if_neg digits']
  · have pointless : ∀ c ds, cs = '.' :: c :: ds → c.isDigit = false := by
      intro c ds split
      by_contra digit
      rw [Bool.not_eq_false] at digit
      exact pointed ⟨c :: ds, split, by simp [digit]⟩
    rw [splitFraction_of_pointless pointless] at looser ⊢
    refine splitFraction_of_pointless fun c ds split => ?_
    subst split
    rcases looser '.' rfl with blank | ⟨head, like⟩
    · cases blank
    obtain ⟨cs, rfl⟩ := List.head?_eq_some_iff.1 head
    refine like.stop (fun _ => isDigit_of_isBlank) (fun d head => ?_) c rfl
    obtain ⟨ds, tail⟩ := List.head?_eq_some_iff.1 head
    exact pointless d ds (congrArg ('.' :: ·) tail)

lemma text_lexNumber (c : Char) (cs : List Char) : (lexNumber false c cs).text =
    c :: (cs.takeWhile Char.isDigit ++ (splitFraction (cs.dropWhile Char.isDigit)).1.2.1) := rfl

/-- What follows the whole part of a number goes on as it did before. -/
lemma startsLike_of_fraction (looser : Text.Looser (splitFraction cs).1.2.2 rest') :
    Text.StartsLike cs ((splitFraction cs).1.2.1 ++ rest') := by
  have whole := (splitFraction cs).2
  cases text : (splitFraction cs).1.2.1 with
  | nil =>
    rw [text, List.nil_append] at whole
    exact whole ▸ looser.startsLike
  | cons d ds =>
    rw [text] at whole
    exact fun c head => .inr (whole ▸ head)

lemma lexNumber_of_looser (looser : Text.Looser (lexNumber afterDot c cs).rest rest')
    (whole : (lexNumber afterDot c cs).text ++ rest' = c :: cs') :
    (lexNumber afterDot c cs').kind = (lexNumber afterDot c cs).kind ∧
      (lexNumber afterDot c cs').rest = rest' := by
  cases afterDot with
  | true =>
    obtain rfl : cs.takeWhile Char.isDigit ++ rest' = cs' := (List.cons.inj whole).2
    obtain ⟨taken, dropped⟩ := takeWhile_of_startsLike (fun _ => isDigit_of_isBlank)
      looser.startsLike
    refine ⟨?_, dropped⟩
    simp only [lexNumber, if_true, taken]
  | false =>
    rw [rest_lexNumber] at looser
    rw [text_lexNumber, List.cons_append, List.append_assoc] at whole
    obtain rfl := (List.cons.inj whole).2
    obtain ⟨taken, dropped⟩ := takeWhile_of_startsLike (fun _ => isDigit_of_isBlank)
      (startsLike_of_fraction looser)
    rw [kind_lexNumber, kind_lexNumber, rest_lexNumber, taken, dropped,
      splitFraction_of_looser looser]
    exact ⟨rfl, rfl⟩

/-- A string ends at the same quote. -/
lemma closeString_append {quote : Char} {r : List Char × List Char × List Char} {whole}
    (closed : closeString quote cs = some ⟨r, whole⟩) (rest' : List Char) :
    (closeString quote (r.2.1 ++ rest')).map Subtype.val = some (r.1, r.2.1, rest') := by
  fun_induction closeString quote cs generalizing r with
  | case1 => cases closed
  | case2 c cs isQuote =>
    cases closed
    rw [List.singleton_append]
    unfold closeString
    rw [if_pos isQuote]
    rfl
  | case3 => cases closed
  | case4 c notQuote isMark e cs ih =>
    obtain ⟨⟨⟨value, text, rest⟩, inner⟩, more, same⟩ := Option.map_eq_some_iff.1 closed
    cases same
    obtain ⟨r', more', value'⟩ := Option.map_eq_some_iff.1 (ih more)
    rw [List.cons_append, List.cons_append]
    unfold closeString
    rw [if_neg notQuote, if_pos isMark]
    dsimp only
    rw [more', Option.map_some, Option.map_some]
    simp [value']
  | case5 c cs notQuote notMark ih =>
    obtain ⟨⟨⟨value, text, rest⟩, inner⟩, more, same⟩ := Option.map_eq_some_iff.1 closed
    cases same
    obtain ⟨r', more', value'⟩ := Option.map_eq_some_iff.1 (ih more)
    rw [List.cons_append]
    unfold closeString
    rw [if_neg notQuote, if_neg notMark, more', Option.map_some, Option.map_some]
    simp [value']

lemma lexSign_of_looser {l : Lexeme (c :: cs)} (front : lexSign c cs = .ok l)
    (looser : Text.Looser l.rest rest') (whole : l.text ++ rest' = c :: cs') :
    ∃ l', lexSign c cs' = .ok l' ∧ l'.kind = l.kind ∧ l'.rest = rest' := by
  -- Only an equals sign could go on with a sign.
  have notEqual (alone : ∀ ds, l.rest = '=' :: ds → False) {d : Char} {ds : List Char}
      (split : rest' = d :: ds) : d ≠ '=' := by
    rintro rfl
    rcases looser '=' (congrArg List.head? split) with blank | ⟨head, -⟩
    · cases blank
    · obtain ⟨ds, rest⟩ := List.head?_eq_some_iff.1 head
      exact alone ds rest
  unfold lexSign at front
  split at front <;> cases front <;> obtain ⟨-, rfl⟩ := List.cons.inj whole
  all_goals try exact ⟨_, rfl, rfl, rfl⟩
  all_goals
    cases rest' with
    | nil => exact ⟨_, rfl, rfl, rfl⟩
    | cons d ds =>
      have other : d ≠ '=' := notEqual ‹_› rfl
      simp [lexSign, other, Lexeme.double, Lexeme.single]

/-- A name stays the same. -/
lemma word_of_looser {kind : String → TokenKind}
    (looser : Text.Looser (cs.dropWhile Text.isName) rest')
    (whole : cs.takeWhile Text.isName ++ rest' = cs') :
    cs'.takeWhile Text.isName = cs.takeWhile Text.isName ∧
      (Lexeme.word kind c cs').kind = (Lexeme.word kind c cs).kind ∧
      (Lexeme.word kind c cs').rest = rest' := by
  subst whole
  obtain ⟨taken, dropped⟩ := takeWhile_of_startsLike (fun _ => isName_of_isBlank) looser.startsLike
  exact ⟨taken, congrArg (fun name => kind (String.ofList name)) taken, dropped⟩

/-- A token stays the same if what follows it begins with other white space. -/
theorem lexeme_of_looser {l : Lexeme (c :: cs)} (front : lexeme afterDot c cs = .ok l)
    (looser : Text.Looser l.rest rest') (whole : l.text ++ rest' = c :: cs') :
    ∃ l', lexeme afterDot c cs' = .ok l' ∧ l'.kind = l.kind ∧ l'.rest = rest' := by
  unfold lexeme at front ⊢
  split at front
  · cases front
    rename_i digit
    rw [if_pos digit]
    exact ⟨_, rfl, lexNumber_of_looser looser whole⟩
  rename_i notDigit
  rw [if_neg notDigit]
  split at front
  · rename_i isQuote
    rw [if_pos isQuote]
    split at front
    · rename_i value text rest inner closed
      cases front
      obtain rfl : text ++ rest' = cs' := (List.cons.inj whole).2
      obtain ⟨⟨r, inner'⟩, closed', same⟩ := Option.map_eq_some_iff.1
        (closeString_append closed rest')
      cases same
      rw [closed']
      exact ⟨_, rfl, rfl, rfl⟩
    · cases front
  rename_i notQuote
  rw [if_neg notQuote]
  split at front
  · rename_i isSigil
    rw [if_pos isSigil]
    split at front
    · cases front
    rename_i nonempty
    cases front
    obtain ⟨taken, same⟩ := word_of_looser looser (List.cons.inj whole).2
    rw [if_neg (taken.symm ▸ nonempty)]
    exact ⟨_, rfl, same⟩
  rename_i notSigil
  rw [if_neg notSigil]
  split at front
  · rename_i start
    rw [if_pos start]
    cases front
    exact ⟨_, rfl, (word_of_looser looser (List.cons.inj whole).2).2⟩
  · rename_i notStart
    rw [if_neg notStart]
    exact lexSign_of_looser front looser whole

/-! ## Other white space -/

namespace Tokens

variable {offset : Nat} {ts : Tokens} {gap gap' before after : List Char}

namespace Cuts

/-- The kinds of the tokens of a text do not depend on where it begins. -/
lemma at_offset (h : Cuts offset afterDot text ts) (offset' : Nat) :
    ∃ ts', Cuts offset' afterDot text ts' ∧
      ts'.list.map Token.kind = ts.list.map Token.kind := by
  induction h generalizing offset' with
  | nil => exact ⟨_, .nil offset' _, rfl⟩
  | blank isBlank _ ih =>
    obtain ⟨ts', cuts, kinds⟩ := ih _
    exact ⟨ts', .blank isBlank cuts, kinds⟩
  | @token _ _ _ _ l _ notBlank front _ ih =>
    obtain ⟨ts', cuts, kinds⟩ := ih (offset' + Text.width l.text)
    exact ⟨_, .token notBlank front cuts, congrArg (l.kind :: ·) kinds⟩

/-- White space in front of a text is as good as any other. -/
lemma front (blank : ∀ c ∈ gap, Text.isBlank c) (blank' : ∀ c ∈ gap', Text.isBlank c)
    (h : Cuts offset afterDot text ts) (split : text = gap ++ after) (offset' : Nat) :
    ∃ ts', Cuts offset' afterDot (gap' ++ after) ts' ∧
      ts'.list.map Token.kind = ts.list.map Token.kind := by
  subst split
  obtain ⟨_, skipped⟩ := Laid.cut_blanks blank after offset afterDot
  obtain ⟨start, skipped'⟩ := Laid.cut_blanks blank' after offset' afterDot
  have cuts : Cuts _ afterDot after ts := cut_eq_ok_iff.1 (skipped.symm.trans (cut_eq_ok_iff.2 h))
  obtain ⟨ts', cuts', kinds⟩ := cuts.at_offset start
  exact ⟨ts', cut_eq_ok_iff.1 (skipped'.trans (cut_eq_ok_iff.2 cuts')), kinds⟩

/-- White space outside of the tokens may be put into a text, and what is there may be replaced. -/
lemma replace (blank : ∀ c ∈ gap, Text.isBlank c) (blank' : ∀ c ∈ gap', Text.isBlank c)
    (kept : gap ≠ [] → gap' ≠ []) (h : Cuts offset afterDot text ts)
    (split : text = before ++ (gap ++ after))
    (outside : ∀ t ∈ ts.list, t.stop ≤ offset + Text.width before ∨
      offset + Text.width (before ++ gap) ≤ t.offset) (offset' : Nat) :
    ∃ ts', Cuts offset' afterDot (before ++ (gap' ++ after)) ts' ∧
      ts'.list.map Token.kind = ts.list.map Token.kind := by
  induction h generalizing before offset' with
  | nil =>
    obtain ⟨rfl, rest⟩ := List.append_eq_nil_iff.1 split.symm
    exact front blank blank' (.nil offset _) rest.symm offset'
  | blank isBlank more ih =>
    cases before with
    | nil => exact front blank blank' (.blank isBlank more) split offset'
    | cons b before =>
      obtain ⟨rfl, tail⟩ := List.cons.inj split
      obtain ⟨ts', cuts, kinds⟩ := ih tail
        (fun t mem => by simpa [Nat.add_assoc] using outside t mem) (offset' + _)
      exact ⟨ts', .blank isBlank cuts, kinds⟩
  | @token _ _ c _ l _ notBlank atFront more ih =>
    rcases outside _ List.mem_cons_self with behind | ahead
    · -- The token is cut off in front of the gap, which it may look into.
      obtain ⟨before, rfl, rest⟩ := Text.exists_append_of_width_le
        (l.text_append_rest.trans split) (Nat.le_of_add_le_add_left behind)
      obtain ⟨d, text, token⟩ := List.exists_cons_of_ne_nil l.text_ne_nil
      obtain rfl : d = c := by
        have head := l.text_append_rest
        rw [token] at head
        exact (List.cons.inj head).1
      have looser := Text.looser_of_gap blank' kept before after
      rw [← rest] at looser
      obtain ⟨l', atFront', kind, rest'⟩ := lexeme_of_looser atFront looser
        (congrArg (· ++ (before ++ (gap' ++ after))) token)
      have outside' : ∀ t ∈ _, _ := fun t mem => outside t (List.mem_cons_of_mem _ mem)
      obtain ⟨ts', cuts, kinds⟩ := ih rest
        (by simpa [Nat.add_assoc] using outside') (offset' + Text.width l'.text)
      have cuts' : Cuts (offset' + Text.width l'.text) (l'.kind == .dot) l'.rest ts' := by
        rw [kind, rest']
        exact cuts
      rw [List.append_assoc, token]
      exact ⟨_, .token notBlank atFront' cuts', by simp [kinds, kind]⟩
    · have nothing : before ++ gap = [] := Text.eq_nil_of_width (by simpa using ahead)
      obtain ⟨rfl, rfl⟩ := List.append_eq_nil_iff.1 nothing
      exact front blank blank' (.token notBlank atFront more) split offset'

end Cuts

/-- **The lexer drops nothing and is blind to white space.**  Each token is cut from a piece of the
source text that is not empty and begins at the offset of the token.  These pieces stand in the text
one after the other, what is outside of them is white space, and the text ends at the number of its
bytes.  Wherever no token stands, as at either end of each of them, white space may be put in, and
white space that is there may be replaced by any other that is not empty: the text is cut into the
same kinds of tokens. -/
theorem spans_and_layout {source : String} {tokens : Tokens}
    (tokenizes : ofSource source = .ok tokens) :
    (∀ t ∈ tokens.list, t.text ≠ [] ∧ ∃ before after,
      source.toList = before ++ (t.text ++ after) ∧ t.offset = Text.width before) ∧
    tokens.list.Pairwise (fun t t' => t.stop ≤ t'.offset) ∧
    (∀ before c after, source.toList = before ++ c :: after → Text.isBlank c ∨
      ∃ t ∈ tokens.list, t.offset ≤ Text.width before ∧ Text.width before < t.stop) ∧
    tokens.stop = source.utf8ByteSize ∧
    ∀ before gap after gap', source.toList = before ++ (gap ++ after) →
      (∀ t ∈ tokens.list, t.stop ≤ Text.width before ∨ Text.width (before ++ gap) ≤ t.offset) →
      (∀ c ∈ gap', Text.isBlank c) → (gap ≠ [] → gap' ≠ []) →
      ∃ tokens', ofSource (String.ofList (before ++ (gap' ++ after))) = .ok tokens' ∧
        tokens'.list.map Token.kind = tokens.list.map Token.kind := by
  have cuts : Cuts 0 false source.toList tokens := cut_eq_ok_iff.1 tokenizes
  refine ⟨fun t mem => ?_, cuts.pairwise, fun before c after split => ?_, ?_,
    fun before gap after gap' split outside blank' kept => ?_⟩
  · simpa using cuts.exists_span t mem
  · simpa using cuts.isBlank_or_mem before c after split
  · rw [cuts.stop_eq, Text.width_toList, Nat.zero_add]
  · have blank : ∀ c ∈ gap, Text.isBlank c := cuts.isBlank_of_outside split outside
    obtain ⟨tokens', cuts', kinds⟩ :=
      cuts.replace blank blank' kept split (by simpa using outside) 0
    refine ⟨tokens', ?_, kinds⟩
    rw [ofSource, String.toList_ofList, cut_eq_ok_iff]
    exact cuts'

/-- White space keeps a negation apart from the test for equality after it, and any other does. -/
theorem not_before_equal_stays :
    ofSource "! =='é'" = .ok ⟨[⟨.not, 0, ['!']⟩, ⟨.equal, 2, ['=', '=']⟩,
      ⟨.string "é", 4, ['\x27', 'é', '\x27']⟩], 8⟩ ∧
    (8 = "! =='é'".utf8ByteSize) ∧
    ∃ tokens', ofSource "!\u2003=='é'" = .ok tokens' ∧
      tokens'.list.map Token.kind = [.not, .equal, .string "é"] := by
  have tokenizes : ofSource "! =='é'" = .ok ⟨[⟨.not, 0, ['!']⟩, ⟨.equal, 2, ['=', '=']⟩,
      ⟨.string "é", 4, ['\x27', 'é', '\x27']⟩], 8⟩ := by decide +kernel
  obtain ⟨-, -, -, stop, relaid⟩ := spans_and_layout tokenizes
  have outside : ∀ t ∈ [Token.mk .not 0 ['!'], ⟨.equal, 2, ['=', '=']⟩,
      ⟨.string "é", 4, ['\x27', 'é', '\x27']⟩], t.stop ≤ 1 ∨ 2 ≤ t.offset := by
    simp [Token.stop, Char.utf8Size]
  exact ⟨tokenizes, stop, relaid ['!'] [' '] ['=', '=', '\x27', 'é', '\x27'] ['\u2003'] rfl outside
    (by simp [Text.isBlank]) (fun _ => List.cons_ne_nil _ _)⟩

end Tokens

end Reflex
