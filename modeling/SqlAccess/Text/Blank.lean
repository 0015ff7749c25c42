/-!
# Blank characters, trimming and words

`isBlank` is the set of characters that separate words and that surround a
text without belonging to it.  `trim` takes blanks off both ends, `words` cuts
a text into the maximal runs of other characters.

Main statements: a word is never empty and holds no blank
(`ne_nil_of_mem_wordsOf`, `not_isBlank_of_mem_wordsOf`).
-/

namespace SqlAccess.Text

/-- The blanks: the control characters that move the carriage, the four
information separators, and the space characters of every script. -/
def isBlank (c : Char) : Bool :=
  let code := c.toNat
  (0x09 ≤ code && code ≤ 0x0D) || (0x1C ≤ code && code ≤ 0x20) || code == 0x85 || code == 0xA0
    || code == 0x1680 || (0x2000 ≤ code && code ≤ 0x200A) || code == 0x2028 || code == 0x2029
    || code == 0x202F || code == 0x205F || code == 0x3000

/-- The blanks that may surround a numeral: the four information separators do
not count there. -/
def isSpace (c : Char) : Bool :=
  isBlank c && !(0x1C ≤ c.toNat && c.toNat ≤ 0x1F)

/-- Drops the characters that satisfy `skip` from both ends. -/
def trimChars (skip : Char → Bool) (chars : List Char) : List Char :=
  ((chars.dropWhile skip).reverse.dropWhile skip).reverse

/-- The text without the blanks around it. -/
def trim (text : String) : String :=
  String.ofList (trimChars isBlank text.toList)

/-- The text without the blanks after it. -/
def trimEnd (text : String) : String :=
  String.ofList (text.toList.reverse.dropWhile isBlank).reverse

/-- Whether a text holds nothing but blanks. -/
def isBlankText (text : String) : Bool :=
  text.toList.all isBlank

/-- Whether a run of bytes holds nothing but the blanks of ASCII. -/
def isBlankBytes (bytes : List UInt8) : Bool :=
  bytes.all fun byte => byte < 128 && isSpace (Char.ofNat byte.toNat)

/-! ## Words -/

/-- The words of a list of characters, where `current` holds the characters of
the word that is being read, last one first. -/
def wordsFrom (current : List Char) : List Char → List (List Char)
  | [] => if current.isEmpty then [] else [current.reverse]
  | c :: rest =>
    if isBlank c then
      if current.isEmpty then wordsFrom [] rest else current.reverse :: wordsFrom [] rest
    else wordsFrom (c :: current) rest

/-- The maximal runs of characters that are not blank, in order. -/
def wordsOf (chars : List Char) : List (List Char) :=
  wordsFrom [] chars

/-- The words of a text. -/
def words (text : String) : List String :=
  (wordsOf text.toList).map String.ofList

theorem ne_nil_of_mem_wordsFrom {current chars word : List Char}
    (h : word ∈ wordsFrom current chars) : word ≠ [] := by
  induction chars generalizing current with
  | nil =>
    cases current with
    | nil => simp [wordsFrom] at h
    | cons c current => simp [wordsFrom] at h; simp [h]
  | cons c rest ih =>
    cases current with
    | nil => by_cases hc : isBlank c <;> simp [wordsFrom, hc] at h <;> exact ih h
    | cons d current =>
      by_cases hc : isBlank c
      · simp [wordsFrom, hc] at h
        rcases h with rfl | h
        · simp
        · exact ih h
      · simp [wordsFrom, hc] at h
        exact ih h

theorem ne_nil_of_mem_wordsOf {chars word : List Char} (h : word ∈ wordsOf chars) : word ≠ [] :=
  ne_nil_of_mem_wordsFrom h

theorem not_isBlank_of_mem_wordsFrom {current chars word : List Char}
    (hcurrent : ∀ c ∈ current, isBlank c = false) (h : word ∈ wordsFrom current chars) :
    ∀ c ∈ word, isBlank c = false := by
  induction chars generalizing current with
  | nil =>
    by_cases hn : current.isEmpty <;> simp [wordsFrom, hn] at h
    subst h
    simpa using hcurrent
  | cons c rest ih =>
    by_cases hc : isBlank c
    · by_cases hn : current.isEmpty <;> simp [wordsFrom, hc, hn] at h
      · exact ih (by simp) h
      · rcases h with rfl | h
        · simpa using hcurrent
        · exact ih (by simp) h
    · simp [wordsFrom, hc] at h
      exact ih (by simpa [hc] using hcurrent) h

/-- No character of a word is blank. -/
theorem not_isBlank_of_mem_wordsOf {chars word : List Char} (h : word ∈ wordsOf chars) :
    ∀ c ∈ word, isBlank c = false :=
  not_isBlank_of_mem_wordsFrom (by simp) h

end SqlAccess.Text
