import RecordFamily.Text.Table

/-!
# Blank characters

The characters that count as blank, and cutting them off the ends of a text.

* `isBlank`: the control characters that move the writing position, the separators, and the space;
* `trimStart`, `trimEnd`, `trim`: a text without the blanks at its start, its end, or both;
* `isAllBlank`: nothing is left after trimming.
-/

namespace RecordFamily.Text

/-- The blank characters. -/
def blanks : List Span := [
  ⟨0x09, 0x0d, 1⟩, ⟨0x1c, 0x20, 1⟩, ⟨0x85, 0x85, 1⟩, ⟨0xa0, 0xa0, 1⟩, ⟨0x1680, 0x1680, 1⟩,
  ⟨0x2000, 0x200a, 1⟩, ⟨0x2028, 0x2029, 1⟩, ⟨0x202f, 0x202f, 1⟩, ⟨0x205f, 0x205f, 1⟩,
  ⟨0x3000, 0x3000, 1⟩]

/-- The character is blank. -/
def isBlank (c : Char) : Bool := inSpans blanks c

/-- The text from its first character that is not blank. -/
def trimStart (cs : List Char) : List Char := cs.dropWhile isBlank

/-- The text up to its last character that is not blank. -/
def trimEnd (cs : List Char) : List Char := (cs.reverse.dropWhile isBlank).reverse

/-- The text between its first and its last character that is not blank. -/
def trim (cs : List Char) : List Char := trimEnd (trimStart cs)

/-- The text holds no character but blanks. -/
def isAllBlank (cs : List Char) : Bool := cs.all isBlank

/-- `trim` on strings. -/
def trimmed (s : String) : String := String.ofList (trim s.toList)

end RecordFamily.Text
