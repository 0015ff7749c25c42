import Mathlib.Data.List.Basic
import SqlAccess.Text.Case

/-!
# Tokens

A text in the language of the engine is a list of tokens: words, numbers, enclosed literals
and names, and marks.  Gaps and comments only separate them.  The reader goes through the
characters one by one and keeps what it is in the middle of (`Pending`), since a character
either goes on with this or ends it.

A text has tokens only if it ends by itself: if an enclosure or a comment is still open at
its end, whatever is written behind it becomes a part of it.  A text that ends by itself and
is followed by a blank keeps its tokens (`tokens_append_blank`), and one that does not is
still open behind characters that close nothing (`tokens_append_eq_none`).

Tokens are nested if each closing parenthesis has an opening one before it and none stays
open.  The parentheses around nested tokens find each other (`IsNested.eq_of_append_eq`).
-/

namespace SqlAccess.Text

/-! ## Tokens of a text -/

/-- What encloses a literal or a name. -/
inductive Enclosure where
  | text
  | bytes
  | name
  | grave
  | bracket
  deriving DecidableEq, Repr

/-- The character that ends what is enclosed. -/
def Enclosure.closing : Enclosure → Char
  | .text | .bytes => '\''
  | .name => '"'
  | .grave => '\x60'
  | .bracket => ']'

/-- Whether the closing character stands for itself if it is written twice. -/
def Enclosure.doubles : Enclosure → Bool
  | .text | .name | .grave => true
  | .bytes | .bracket => false

/-- The enclosure that a character opens. -/
def Enclosure.openedBy? : Char → Option Enclosure
  | '\'' => some .text
  | '"' => some .name
  | '\x60' => some .grave
  | '[' => some .bracket
  | _ => none

/-- The smallest parts of a text, of which its grammar speaks. -/
inductive Token where
  | word (spelling : String)
  | number (spelling : String)
  | enclosed (enclosure : Enclosure) (content : String)
  | mark (c : Char)
  deriving DecidableEq, Repr

/-- The characters that separate tokens. -/
def isGap (c : Char) : Bool :=
  [' ', '\t', '\n', '\x0c', '\r'].contains c

/-- The characters of words; all that are not in ASCII belong to them. -/
def isWordChar (c : Char) : Bool :=
  c.isAlphanum || c = '_' || c = '$' || 0x80 ≤ c.toNat

/-- Whether a sign goes on with a number, as the sign of its exponent. -/
def signsExponent (chars : List Char) (c : Char) : Bool :=
  -- among hexadecimal digits the letter is one of them
  let smalls := chars.map Char.toLower
  (c = '+' || c = '-') && smalls.getLast? = some 'e' && !List.isPrefixOf ['0', 'x'] smalls

/-- What a reader is in the middle of. -/
inductive Pending where
  | nothing
  | word (chars : List Char)
  | number (chars : List Char)
  | mark (c : Char)
  | opened (enclosure : Enclosure) (chars : List Char)
  | closed (enclosure : Enclosure) (chars : List Char)
  | lineComment
  | blockComment (starred : Bool)

namespace Pending

/-- What begins with a character. -/
def begun (c : Char) : Pending :=
  if isGap c then .nothing
  else if c.isDigit then .number [c]
  else if isWordChar c then .word [c]
  else match Enclosure.openedBy? c with
    | some enclosure => .opened enclosure []
    | none => .mark c

/-- What becomes of it with another character, unless this character ends it. -/
def continued : Pending → Char → Option Pending
  | .nothing, _ => none
  | .word chars, c =>
    -- a quote behind this letter alone opens bytes
    if isWordChar c then some (.word (chars ++ [c]))
    else if c = '\'' ∧ chars.map Char.toLower = ['x'] then some (.opened .bytes [])
    else none
  | .number chars, c =>
    if isWordChar c ∨ c = '.' ∨ signsExponent chars c then some (.number (chars ++ [c]))
    else none
  | .mark first, c =>
    if first = '-' ∧ c = '-' then some .lineComment
    else if first = '/' ∧ c = '*' then some (.blockComment false)
    else if first = '.' ∧ c.isDigit then some (.number [first, c])
    else none
  | .opened enclosure chars, c =>
    if c = enclosure.closing then some (.closed enclosure chars)
    else some (.opened enclosure (chars ++ [c]))
  | .closed enclosure chars, c =>
    if enclosure.doubles ∧ c = enclosure.closing then some (.opened enclosure (chars ++ [c]))
    else none
  | .lineComment, c => some (if c = '\n' then .nothing else .lineComment)
  | .blockComment starred, c =>
    some (if starred ∧ c = '/' then .nothing else .blockComment (c = '*'))

/-- The tokens that end here; there are none as long as something is open. -/
def ended : Pending → Option (List Token)
  | .nothing => some []
  | .word chars => some [.word (String.ofList chars)]
  | .number chars => some [.number (String.ofList chars)]
  | .mark c => some [.mark c]
  | .closed enclosure chars => some [.enclosed enclosure (String.ofList chars)]
  | .opened .. | .lineComment | .blockComment _ => none

end Pending

/-- The tokens of characters behind what is pending. -/
def tokensFrom (pending : Pending) : List Char → Option (List Token)
  | [] => pending.ended
  | c :: rest =>
    match pending.continued c with
    | some next => tokensFrom next rest
    | none => pending.ended.bind fun before => (tokensFrom (.begun c) rest).map (before ++ ·)

/-- The tokens of a text that ends by itself. -/
def tokens (text : String) : Option (List Token) :=
  tokensFrom .nothing text.toList

example : tokens "coalesce(-1.5e-3, 'it''s') -- no\n||x'0f'" =
    some [.word "coalesce", .mark '(', .mark '-', .number "1.5e-3", .mark ',',
      .enclosed .text "it's", .mark ')', .mark '|', .mark '|', .enclosed .bytes "0f"] := by
  decide +kernel

/-- A character that closes nothing that may be open. -/
def IsSilent (c : Char) : Prop :=
  c ∉ ['\'', '"', '\x60', ']', '\n', '/']

instance (c : Char) : Decidable (IsSilent c) :=
  inferInstanceAs (Decidable (_ ∉ _))

section

variable {pending : Pending} {c : Char} {chars others : List Char} {found : List Token}

/-- A blank ends whatever may end. -/
theorem Pending.continued_blank (h : pending.ended = some found) :
    pending.continued ' ' = none := by
  have hword : isWordChar ' ' = false := by decide
  cases pending with
  | nothing => rfl
  | word chars => simp [continued, hword]
  | number chars => simp [continued, hword, signsExponent]
  | mark first => simp [continued]
  | opened enclosure chars => cases h
  | closed enclosure chars =>
      cases enclosure <;> simp [continued, Enclosure.closing]
  | lineComment => cases h
  | blockComment starred => cases h

/-- What is open stays open. -/
theorem Pending.continued_of_isSilent (h : pending.ended = none) (hc : IsSilent c) :
    ∃ next, pending.continued c = some next ∧ next.ended = none := by
  simp only [IsSilent, List.mem_cons, List.not_mem_nil, or_false, not_or] at hc
  obtain ⟨hsingle, hdouble, hgrave, hbracket, hline, hslash⟩ := hc
  cases pending with
  | nothing => cases h
  | word chars => cases h
  | number chars => cases h
  | mark first => cases h
  | opened enclosure chars =>
      have hclosing : c ≠ enclosure.closing := by
        cases enclosure <;> assumption
      exact ⟨_, if_neg hclosing, rfl⟩
  | closed enclosure chars => cases h
  | lineComment => exact ⟨.lineComment, by simp [continued, hline], rfl⟩
  | blockComment starred => exact ⟨.blockComment (c = '*'), by simp [continued, hslash], rfl⟩

theorem tokensFrom_of_continued {next : Pending} (h : pending.continued c = some next) :
    tokensFrom pending (c :: chars) = tokensFrom next chars := by
  rw [tokensFrom, h]

theorem tokensFrom_of_ended (h : pending.continued c = none) :
    tokensFrom pending (c :: chars) =
      pending.ended.bind fun before => (tokensFrom (.begun c) chars).map (before ++ ·) := by
  rw [tokensFrom, h]

theorem tokensFrom_append_blank (h : tokensFrom pending chars = some found) :
    tokensFrom pending (chars ++ ' ' :: others) =
      (tokensFrom .nothing others).map (found ++ ·) := by
  induction chars generalizing pending found with
  | nil =>
      have hended : pending.ended = some found := h
      rw [List.nil_append, tokensFrom_of_ended (Pending.continued_blank hended), hended]
      rfl
  | cons c chars ih =>
      rw [List.cons_append]
      cases hnext : pending.continued c with
      | some next =>
          rw [tokensFrom_of_continued hnext] at h ⊢
          exact ih h
      | none =>
          rw [tokensFrom_of_ended hnext] at h ⊢
          obtain ⟨before, hbefore, hrest⟩ := Option.bind_eq_some_iff.mp h
          obtain ⟨behind, hbehind, rfl⟩ := Option.map_eq_some_iff.mp hrest
          rw [hbefore, Option.bind_some, ih hbehind, Option.map_map]
          exact congrArg (Option.map · _) (funext fun _ => (List.append_assoc ..).symm)

theorem tokensFrom_eq_none (h : pending.ended = none) (hchars : ∀ c ∈ chars, IsSilent c) :
    tokensFrom pending chars = none := by
  induction chars generalizing pending with
  | nil => exact h
  | cons c chars ih =>
      rw [List.forall_mem_cons] at hchars
      obtain ⟨next, hnext, hopen⟩ := Pending.continued_of_isSilent h hchars.1
      rw [tokensFrom_of_continued hnext]
      exact ih hopen hchars.2

theorem tokensFrom_append_eq_none (h : tokensFrom pending chars = none)
    (hothers : ∀ c ∈ others, IsSilent c) : tokensFrom pending (chars ++ others) = none := by
  induction chars generalizing pending with
  | nil => exact tokensFrom_eq_none h hothers
  | cons c chars ih =>
      rw [List.cons_append]
      cases hnext : pending.continued c with
      | some next =>
          rw [tokensFrom_of_continued hnext] at h ⊢
          exact ih h
      | none =>
          rw [tokensFrom_of_ended hnext] at h ⊢
          cases hended : pending.ended with
          | none => rfl
          | some before =>
              rw [hended, Option.bind_some, Option.map_eq_none_iff] at h
              rw [Option.bind_some, ih h, Option.map_none]

end

section

variable {text : String} {found : List Token}

theorem tokens_append_blank (h : tokens text = some found) (other : String) :
    tokens (text ++ " " ++ other) = (tokens other).map (found ++ ·) := by
  have hchars : (text ++ " " ++ other).toList = text.toList ++ ' ' :: other.toList := by
    simp
  rw [tokens, hchars, tokensFrom_append_blank h]
  rfl

theorem tokens_append_eq_none {other : String} (h : tokens text = none)
    (hother : ∀ c ∈ other.toList, IsSilent c) : tokens (text ++ other) = none := by
  rw [tokens, String.toList_append]
  exact tokensFrom_append_eq_none h hother

end

/-! ## Nested tokens -/

/-- The number of parentheses that are open behind a token; none of them can be closed if none
is open. -/
def Token.after : Token → Nat → Option Nat
  | .mark '(', depth => some (depth + 1)
  | .mark ')', 0 => none
  | .mark ')', depth + 1 => some depth
  | _, depth => some depth

/-- The number of parentheses that are open behind tokens. -/
def depthAfter : Nat → List Token → Option Nat
  | depth, [] => some depth
  | depth, token :: rest => (token.after depth).bind fun next => depthAfter next rest

/-- Each parenthesis among the tokens is closed and was opened there. -/
def IsNested (found : List Token) : Prop :=
  depthAfter 0 found = some 0

instance (found : List Token) : Decidable (IsNested found) :=
  inferInstanceAs (Decidable (_ = _))

theorem depthAfter_append (depth : Nat) (found others : List Token) :
    depthAfter depth (found ++ others) =
      (depthAfter depth found).bind fun next => depthAfter next others := by
  induction found generalizing depth with
  | nil => rfl
  | cons token found ih =>
      rw [List.cons_append, depthAfter, depthAfter, Option.bind_assoc]
      exact congrArg _ (funext ih)

theorem IsNested.not_isNested_append_closing {found : List Token} (h : IsNested found)
    (others : List Token) : ¬ IsNested (found ++ .mark ')' :: others) := by
  rw [IsNested, depthAfter_append, show depthAfter 0 found = some 0 from h]
  exact Option.some_ne_none 0 ∘ Eq.symm

/-- The parenthesis that closes what stands in front of nested tokens is found. -/
theorem IsNested.eq_of_append_eq {found found' others others' : List Token} (h : IsNested found)
    (h' : IsNested found') (heq : found ++ .mark ')' :: others = found' ++ .mark ')' :: others') :
    found = found' ∧ others = others' := by
  rcases List.append_eq_append_iff.mp heq with ⟨between, rfl, hrest⟩ | ⟨between, rfl, hrest⟩
  · cases between with
    | nil => exact ⟨(List.append_nil _).symm, by simpa using hrest⟩
    | cons token between =>
        obtain ⟨rfl, -⟩ := List.cons.inj hrest
        exact absurd h' (h.not_isNested_append_closing between)
  · cases between with
    | nil => exact ⟨List.append_nil _, by simpa using hrest.symm⟩
    | cons token between =>
        obtain ⟨rfl, -⟩ := List.cons.inj hrest
        exact absurd h (h'.not_isNested_append_closing between)

end SqlAccess.Text
