/-!
# SQL string literals

A literal stands between two quotes, and a quote inside it is written twice.
The quote may be any text: occurrences are found from left to right and do not
overlap.  With a quote of one character this is a character-wise rule
(`doubled_singleton`).
-/

namespace SqlAccess.Text

/-- Writes every occurrence of `quote` twice.  `skip` characters are copied
first: the rest of an occurrence that has already been written. -/
def doubledFrom (quote : List Char) : Nat → List Char → List Char
  | _, [] => []
  | skip + 1, _ :: rest => doubledFrom quote skip rest
  | 0, c :: rest =>
    if quote.isPrefixOf (c :: rest) then
      quote ++ quote ++ doubledFrom quote (quote.length - 1) rest
    else c :: doubledFrom quote 0 rest

/-- Writes every occurrence of `quote` twice; the empty quote occurs nowhere. -/
def doubled (quote chars : List Char) : List Char :=
  if quote.isEmpty then chars else doubledFrom quote 0 chars

/-- The characters of the literal that stands for `chars`. -/
def literalChars (quote chars : List Char) : List Char :=
  quote ++ doubled quote chars ++ quote

/-- The literal that stands for a text, between the given quotes. -/
def literalWithin (quote text : String) : String :=
  String.ofList (literalChars quote.toList text.toList)

/-- The SQL literal that stands for a text. -/
def literal (text : String) : String :=
  literalWithin "'" text

theorem doubledFrom_singleton (quote : Char) (chars : List Char) :
    doubledFrom [quote] 0 chars =
      chars.flatMap fun c => if c = quote then [quote, quote] else [c] := by
  induction chars with
  | nil => rfl
  | cons c rest ih =>
    by_cases h : c = quote
    · subst h; simp [doubledFrom, List.isPrefixOf, ih]
    · have h' : ¬ quote = c := fun e => h e.symm
      simp [doubledFrom, List.isPrefixOf, h, h', ih]

/-- With a quote of one character, that character is written twice and every
other character once. -/
theorem doubled_singleton (quote : Char) (chars : List Char) :
    doubled [quote] chars = chars.flatMap fun c => if c = quote then [quote, quote] else [c] := by
  simp [doubled, doubledFrom_singleton]

end SqlAccess.Text
