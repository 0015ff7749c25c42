import SqlAccess.Text.Printable

/-!
# Quoted texts

The display form of a text or of a run of bytes: quoted, on one line, and with
only printable characters.  Single quotes enclose it, unless it holds a single
quote and no double quote.  The enclosing quote and the backslash are written
with a backslash before them, the line feed, the carriage return and the tab
as `\n`, `\r` and `\t`, and any other character that cannot stand as itself by
its number in hexadecimal.
-/

namespace SqlAccess.Text

/-- A number in hexadecimal with small letters, padded with zeros to `width`. -/
def hex (width number : Nat) : List Char :=
  let digits := Nat.toDigits 16 number
  List.replicate (width - digits.length) '0' ++ digits

/-- The quote that encloses a text. -/
def enclosingQuote (hasSingle hasDouble : Bool) : Char :=
  if hasSingle && !hasDouble then '"' else '\''

/-- A character by its number: two, four or eight hexadecimal digits. -/
def escapeByNumber (number : Nat) : List Char :=
  if number < 0x100 then ['\\', 'x'] ++ hex 2 number
  else if number < 0x10000 then ['\\', 'u'] ++ hex 4 number
  else ['\\', 'U'] ++ hex 8 number

/-- The escapes that texts and bytes share; `other` gives all remaining
characters. -/
def escapeChar (quote : Char) (other : Char → List Char) (c : Char) : List Char :=
  if c = quote ∨ c = '\\' then ['\\', c]
  else if c = '\n' then ['\\', 'n']
  else if c = '\r' then ['\\', 'r']
  else if c = '\t' then ['\\', 't']
  else other c

/-- The display form of a list of characters. -/
def quotedChars (chars : List Char) : List Char :=
  let quote := enclosingQuote (chars.contains '\'') (chars.contains '"')
  let other := fun c => if isPrintable c then [c] else escapeByNumber c.toNat
  quote :: chars.flatMap (escapeChar quote other) ++ [quote]

/-- The display form of a text. -/
def quoted (text : String) : String :=
  String.ofList (quotedChars text.toList)

/-- The display form of bytes: a quoted text marked with `b`, in which only the
printable ASCII characters stand as themselves. -/
def quotedBytes (bytes : List UInt8) : String :=
  let chars := bytes.map fun byte => Char.ofNat byte.toNat
  let quote := enclosingQuote (chars.contains '\'') (chars.contains '"')
  let other := fun c : Char =>
    if 0x20 ≤ c.toNat ∧ c.toNat < 0x7F then [c] else escapeByNumber c.toNat
  String.ofList ('b' :: quote :: chars.flatMap (escapeChar quote other) ++ [quote])

end SqlAccess.Text
