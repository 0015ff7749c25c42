/-!
# Capital and small forms

Keywords are compared without regard to letter case.  Every keyword is spelled
with ASCII letters, so only the characters whose capital (or small) form lies
in ASCII can take part in a match: the ASCII letters, and the few others that
are listed here.  All remaining characters are left as they are, since neither
they nor their other form occur in a keyword.
-/

namespace SqlAccess.Text

/-- The capital form of a character, as far as it consists of ASCII letters. -/
def capital (c : Char) : List Char :=
  match c.toNat with
  | 0xDF => ['S', 'S']
  | 0x131 => ['I']
  | 0x17F => ['S']
  | 0xFB00 => ['F', 'F']
  | 0xFB01 => ['F', 'I']
  | 0xFB02 => ['F', 'L']
  | 0xFB03 => ['F', 'F', 'I']
  | 0xFB04 => ['F', 'F', 'L']
  | 0xFB05 => ['S', 'T']
  | 0xFB06 => ['S', 'T']
  | _ => [c.toUpper]

/-- The small form of a character, as far as it is an ASCII letter. -/
def small (c : Char) : Char :=
  if c.toNat = 0x212A then 'k' else c.toLower

/-- A text in capitals. -/
def capitals (text : String) : String :=
  String.ofList (text.toList.flatMap capital)

/-- A text in small letters. -/
def smalls (text : String) : String :=
  String.ofList (text.toList.map small)

/-- The small forms of the ASCII letters; nothing else changes. -/
def asciiSmalls (text : String) : String :=
  String.ofList (text.toList.map Char.toLower)

example : capitals "iſ not" = "IS NOT" := by decide
example : smalls "Off" = "off" := by decide

end SqlAccess.Text
