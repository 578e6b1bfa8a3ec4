/-!
# Lines of a text

* `isLineBreak`: the characters that end a line;
* `lines`: the lines of a text, where a carriage return and the line feed after it end one line and a
  break at the very end opens no further line;
* `newlines`: the text with every kind of line end among `\r\n` and `\r` written `\n`.
-/

namespace RecordFamily.Text

/-- The character ends a line. -/
def isLineBreak (c : Char) : Bool :=
  let n := c.toNat
  (0x0a ≤ n && n ≤ 0x0d) || (0x1c ≤ n && n ≤ 0x1e) || n == 0x85 || n == 0x2028 || n == 0x2029

/-- The lines of the text, where `current` holds what was read of the current line, last character
first. -/
def linesFrom (current : List Char) : List Char → List (List Char)
  | [] => if current.isEmpty then [] else [current.reverse]
  | '\r' :: '\n' :: cs => current.reverse :: linesFrom [] cs
  | c :: cs => if isLineBreak c then current.reverse :: linesFrom [] cs else linesFrom (c :: current) cs

/-- The lines of a text, without their ends. -/
def lines (cs : List Char) : List (List Char) := linesFrom [] cs

/-- The text with each line end written as a line feed. -/
def newlines : List Char → List Char
  | [] => []
  | '\r' :: '\n' :: cs => '\n' :: newlines cs
  | c :: cs => (if c == '\r' then '\n' else c) :: newlines cs

end RecordFamily.Text
