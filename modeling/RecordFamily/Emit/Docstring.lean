import RecordFamily.Text.Blank
import RecordFamily.Text.Lines
import RecordFamily.Text.Quoted

/-!
# Documentation strings

A text between three quotation marks, in which each backslash and each quotation mark has a backslash
before it. A text of several lines is indented from its second line on and closed on a line of its
own.

* `docstringChar`: one character of the text;
* **`docstringLines`**: the lines of the documentation string.
-/

namespace RecordFamily

open Text

/-- One character of a documentation string. -/
def docstringChar (c : Char) : List Char :=
  if c == backslash || c == quotationMark then [backslash, c] else [c]

/-- The three quotation marks. -/
def docstringMark : List Char := [quotationMark, quotationMark, quotationMark]

/-- The lines of the documentation string of a text. -/
def docstringLineChars (indent text : List Char) : List (List Char) :=
  let body := (trim text).flatMap docstringChar
  if body.contains '\n' then
    match lines body with
    | [] => []
    | first :: rest =>
      (indent ++ docstringMark ++ first) :: rest.map (fun l => trimEnd (indent ++ l))
        ++ [indent ++ docstringMark]
  else [indent ++ docstringMark ++ body ++ docstringMark]

/-- **The lines of the documentation string of a text.** -/
def docstringLines (text indent : String) : List String :=
  (docstringLineChars indent.toList text.toList).map String.ofList

end RecordFamily
