import SqlAccess.Proofs.Text.Literal
import SqlAccess.Proofs.Text.Token

/-!
# Counting placeholders

The placeholders of a statement are counted without taking its text apart: the count goes
through the characters and changes sides at each single quote.  What it should find are the
question marks outside of literals, and where a literal ends is not said by a single quote.
A literal reaches up to the first quote that is not followed by another one, and two quotes
inside of it stand for one (`readInside`).

So the text is taken apart by a reader that looks ahead (`lexemes`).  It knows what else may
hide a question mark: names between double quotes, between grave accents and in brackets, and
comments.  A text that has none of these is plain, and then the lexemes spell it (`Spells`).  It
may still end inside a literal.

At a pair of quotes inside a literal the count is outside for a moment, but there is nothing
between the two.  Behind the literal both are outside, and if it is never closed there is
nothing left to count (`placeholdersFrom_inside`).  With this they agree on each lexeme of a
plain text (`placeholdersFrom_lexeme`), and so on the whole of it (`placeholderCount_lexemes`).
-/

namespace SqlAccess

namespace Text

/-! ## Lexemes -/

/-- The parts that a text is read as, as far as it matters what encloses its characters. -/
inductive Lexeme where
  | char (c : Char)
  | enclosed (enclosure : Enclosure) (content : List Char)
  /-- What is still open at the end of the text. -/
  | unclosed (enclosure : Enclosure) (chars : List Char)
  | comment
  deriving DecidableEq, Repr

/-- Reads up to a character: what comes before it, and what comes behind it. -/
def readUpTo (closing : Char) : List Char → Option (List Char × List Char)
  | [] => none
  | c :: rest =>
    if c = closing then some ([], rest)
    else (readUpTo closing rest).map fun (read, left) => (c :: read, left)

/-- Reads the rest of what is enclosed: what it holds, and what comes behind it. -/
def Enclosure.read (enclosure : Enclosure) (chars : List Char) : Option (List Char × List Char) :=
  if enclosure.doubles then readInside enclosure.closing chars
  else readUpTo enclosure.closing chars

/-- What comes behind the end of a comment that may have several lines. -/
def behindComment : List Char → List Char
  | [] => []
  | c :: rest => if c = '*' ∧ rest.head? = some '/' then rest.tail else behindComment rest

/-- Reads the lexeme that a character begins, and gives what comes behind it. -/
def lexeme (c : Char) (rest : List Char) : Lexeme × List Char :=
  match Enclosure.openedBy? c with
  | some enclosure =>
    match enclosure.read rest with
    | some (content, left) => (.enclosed enclosure content, left)
    | none => (.unclosed enclosure rest, [])
  | none =>
    if c = '-' ∧ rest.head? = some '-' then (.comment, rest.dropWhile (· ≠ '\n'))
    else if c = '/' ∧ rest.head? = some '*' then (.comment, behindComment rest.tail)
    else (.char c, rest)

theorem length_of_readInside {quote : Char} {chars read left : List Char}
    (h : readInside quote chars = some (read, left)) : left.length ≤ chars.length := by
  rw [(eq_of_readInside h).1, List.length_append, List.length_cons]
  omega

theorem length_of_readUpTo {closing : Char} {chars read left : List Char}
    (h : readUpTo closing chars = some (read, left)) : left.length ≤ chars.length := by
  induction chars generalizing read with
  | nil => cases h
  | cons c chars ih =>
      rw [readUpTo] at h
      split at h
      · obtain ⟨-, rfl⟩ := Prod.mk.inj (Option.some.inj h)
        exact Nat.le_succ _
      · obtain ⟨⟨inner, behind⟩, hinner, hpair⟩ := Option.map_eq_some_iff.mp h
        obtain ⟨-, rfl⟩ := Prod.mk.inj hpair
        exact Nat.le_succ_of_le (ih hinner)

theorem length_behindComment (chars : List Char) : (behindComment chars).length ≤ chars.length := by
  induction chars with
  | nil => exact Nat.le_refl _
  | cons c chars ih =>
      rw [behindComment]
      split
      · exact (List.tail_suffix _).length_le.trans (Nat.le_succ _)
      · exact Nat.le_succ_of_le ih

theorem length_lexeme (c : Char) (rest : List Char) : (lexeme c rest).2.length ≤ rest.length := by
  unfold lexeme
  split
  · rename_i enclosure _
    split
    · rename_i content left hread
      unfold Enclosure.read at hread
      split at hread
      · exact length_of_readInside hread
      · exact length_of_readUpTo hread
    · exact Nat.zero_le _
  · split
    · exact (List.dropWhile_suffix _).length_le
    · split
      · exact (length_behindComment _).trans (List.tail_suffix _).length_le
      · exact Nat.le_refl _

/-- The lexemes of a text, one behind the other. -/
def lexemes : List Char → List Lexeme
  | [] => []
  | c :: rest => (lexeme c rest).1 :: lexemes (lexeme c rest).2
termination_by chars => chars.length
decreasing_by exact Nat.lt_succ_of_le (length_lexeme c rest)

/-- A lexeme is neither a name that is enclosed nor a comment. -/
def Lexeme.IsPlain : Lexeme → Prop
  | .char _ => True
  | .enclosed enclosure _ | .unclosed enclosure _ => enclosure = .text
  | .comment => False

instance : DecidablePred Lexeme.IsPlain
  | .char _ => inferInstanceAs (Decidable True)
  | .enclosed .. | .unclosed .. => inferInstanceAs (Decidable (_ = _))
  | .comment => inferInstanceAs (Decidable False)

example : lexemes "'it''s ?'[?]?--".toList = [.enclosed .text "it's ?".toList,
    .enclosed .bracket "?".toList, .char '?', .comment] := by
  decide +kernel

theorem lexeme_quote (rest : List Char) :
    lexeme '\'' rest = match readInside '\'' rest with
      | some (content, left) => (.enclosed .text content, left)
      | none => (.unclosed .text rest, []) := rfl

theorem eq_of_openedBy?_eq_text {c : Char} (h : Enclosure.openedBy? c = some .text) :
    c = '\'' := by
  unfold Enclosure.openedBy? at h
  split at h
  · rfl
  all_goals cases h

/-- Any other character that begins a plain lexeme is one itself. -/
theorem lexeme_of_ne {c : Char} {rest : List Char} (hc : c ≠ '\'')
    (h : (lexeme c rest).1.IsPlain) : lexeme c rest = (.char c, rest) := by
  unfold lexeme at h ⊢
  cases hopened : Enclosure.openedBy? c with
  | some enclosure =>
      have hname : enclosure ≠ .text := by
        rintro rfl
        exact hc (eq_of_openedBy?_eq_text hopened)
      simp only [hopened] at h
      split at h
      · exact absurd h hname
      · exact absurd h hname
  | none =>
      simp only [hopened] at h ⊢
      split at h
      · exact h.elim
      · rename_i hline
        rw [if_neg hline]
        split at h
        · exact h.elim
        · rename_i hlines
          rw [if_neg hlines]

/-- Lexemes spell a text that is made of them.  A literal reaches up to the first quote that is
not followed by another one, and one without such a quote up to the end.  Outside of literals
each character is a lexeme. -/
inductive Spells : List Lexeme → List Char → Prop
  | nil : Spells [] []
  | char {c : Char} {parts : List Lexeme} {rest : List Char} (hc : c ≠ '\'')
      (hrest : Spells parts rest) : Spells (.char c :: parts) (c :: rest)
  | literal {content : List Char} {parts : List Lexeme} {rest : List Char}
      (hend : rest.head? ≠ some '\'') (hrest : Spells parts rest) :
      Spells (.enclosed .text content :: parts)
        ('\'' :: (doubled ['\''] content ++ '\'' :: rest))
  | unclosed {chars : List Char}
      (hopen : ∀ content rest, rest.head? ≠ some '\'' →
        chars ≠ doubled ['\''] content ++ '\'' :: rest) :
      Spells [.unclosed .text chars] ('\'' :: chars)

/-- A plain text is spelled by its lexemes. -/
theorem spells_lexemes {chars : List Char} (h : ∀ part ∈ lexemes chars, part.IsPlain) :
    Spells (lexemes chars) chars := by
  induction chars using lexemes.induct with
  | case1 => rw [lexemes]; exact .nil
  | case2 c rest ih =>
      rw [lexemes, List.forall_mem_cons] at h
      have hrest := ih h.2
      rw [lexemes]
      by_cases hc : c = '\''
      · subst hc
        rw [lexeme_quote] at hrest ⊢
        cases hread : readInside '\'' rest with
        | some read =>
            obtain ⟨hrest', hend⟩ := eq_of_readInside hread
            rw [hread] at hrest
            rw [hrest']
            exact .literal hend hrest
        | none =>
            rw [lexemes]
            refine .unclosed fun content left hend heq => ?_
            rw [heq, readInside_doubled hend] at hread
            cases hread
      · rw [lexeme_of_ne hc h.1] at hrest ⊢
        exact .char hc hrest

end Text

open Text (lexeme lexemes readInside Spells)

namespace Statement

/-! ## The two readers -/

/-- The count inside a literal goes on where the literal ends; nothing is counted in one that
does not end. -/
theorem placeholdersFrom_inside (chars : List Char) :
    placeholdersFrom true chars =
      ((readInside '\'' chars).map fun read => placeholdersFrom false read.2).getD 0 := by
  induction chars using Text.readInside.induct '\'' with
  | case1 => rfl
  | case2 => rfl
  | case3 c hc => simp [placeholdersFrom, readInside, hc]
  | case4 rest ih =>
      -- the two quotes of a pair undo each other
      rw [Text.readInside_quote_quote, placeholdersFrom, if_pos rfl, Bool.not_true,
        placeholdersFrom, if_pos rfl, Bool.not_false, ih, Option.map_map]
      rfl
  | case5 d rest hd =>
      have hhead : (d :: rest).head? ≠ some '\'' := fun h => hd (Option.some.inj h)
      rw [Text.readInside_quote hhead, placeholdersFrom, if_pos rfl]
      rfl
  | case6 c d rest hc ih =>
      rw [Text.readInside_cons hc, placeholdersFrom, if_neg hc, if_neg (by simp), ih,
        Option.map_map]
      rfl

/-- A plain lexeme is one placeholder or none, and the count goes on behind it. -/
theorem placeholdersFrom_lexeme {c : Char} {rest : List Char} (h : (lexeme c rest).1.IsPlain) :
    placeholdersFrom false (c :: rest) =
      placeholdersFrom false (lexeme c rest).2 +
        if (lexeme c rest).1 = .char '?' then 1 else 0 := by
  rw [placeholdersFrom]
  by_cases hc : c = '\''
  · subst hc
    rw [if_pos rfl, Bool.not_false, placeholdersFrom_inside, Text.lexeme_quote]
    cases readInside '\'' rest with
    | none => rfl
    | some read => rfl
  · rw [if_neg hc, Text.lexeme_of_ne hc h]
    by_cases hmark : c = '?' <;> simp [hmark]

/-- Lexeme by lexeme, both readers count the same. -/
theorem placeholdersFrom_eq_count {chars : List Char}
    (h : ∀ lexeme ∈ lexemes chars, lexeme.IsPlain) :
    placeholdersFrom false chars = (lexemes chars).count (.char '?') := by
  induction chars using Text.lexemes.induct with
  | case1 => rw [lexemes]; rfl
  | case2 c rest ih =>
      rw [lexemes, List.forall_mem_cons] at h
      rw [lexemes, List.count_cons, placeholdersFrom_lexeme h.1, ih h.2]
      simp

/-- A plain text is spelled by its lexemes, and the count of its placeholders is that of the
lexemes that are a question mark, also if the text ends inside a literal.  And texts whose
literals are closed can be counted one by one: if there is an even number of quotes in the
first one of two texts, the count of both together is the sum of their counts. -/
theorem placeholderCount_lexemes :
    (∀ statement : Statement, (∀ lexeme ∈ lexemes statement.sql.toList, lexeme.IsPlain) →
      Spells (lexemes statement.sql.toList) statement.sql.toList ∧
        statement.placeholderCount = (lexemes statement.sql.toList).count (.char '?')) ∧
    ∀ (first second : Statement) (params : List Value), first.sql.toList.count '\'' % 2 = 0 →
      placeholderCount ⟨first.sql ++ second.sql, params⟩ =
        first.placeholderCount + second.placeholderCount := by
  refine ⟨fun statement h => ⟨Text.spells_lexemes h, placeholdersFrom_eq_count h⟩,
    fun first second params heven => ?_⟩
  have hclosed : literalAfter false first.sql.toList = false := by
    rw [literalAfter_eq, heven]
    rfl
  unfold placeholderCount
  rw [String.toList_append, placeholdersFrom_append, hclosed]

/-- There is a name's quote in the first literal, and the last one is not closed.  The text
can be counted in two parts as well, since the first of them has four quotes. -/
theorem placeholderCount_lexemes_unclosed :
    let first : Statement := ⟨"SELECT '\"it''s\" ?' WHERE a = ?", [.int 1]⟩
    let second : Statement := ⟨" AND b = '?", []⟩
    let both : Statement := ⟨first.sql ++ second.sql, [.int 1]⟩
    (∀ lexeme ∈ lexemes both.sql.toList, lexeme.IsPlain) ∧
      Spells (lexemes both.sql.toList) both.sql.toList ∧
      both.placeholderCount = (lexemes both.sql.toList).count (.char '?') ∧
      first.sql.toList.count '\'' % 2 = 0 ∧
      both.placeholderCount = first.placeholderCount + second.placeholderCount ∧
      both.placeholderCount = 1 := by
  intro first second both
  have hplain : ∀ lexeme ∈ lexemes both.sql.toList, lexeme.IsPlain := by decide +kernel
  have heven : first.sql.toList.count '\'' % 2 = 0 := by decide +kernel
  obtain ⟨hspells, hcount⟩ := placeholderCount_lexemes.1 both hplain
  exact ⟨hplain, hspells, hcount, heven, placeholderCount_lexemes.2 first second [.int 1] heven,
    by decide +kernel⟩

end Statement

end SqlAccess
