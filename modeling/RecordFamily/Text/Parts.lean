/-!
# Parts of a text

* `parts`: what stands between the occurrences of a mark;
* `partsOf`: the parts of a string.
-/

namespace RecordFamily.Text

/-- The parts of a text between the characters `mark`, of which there is always one more than
marks. -/
def parts (mark : Char) : List Char → List (List Char)
  | [] => [[]]
  | c :: cs =>
    if c == mark then [] :: parts mark cs
    else match parts mark cs with
      | [] => [[c]]
      | part :: rest => (c :: part) :: rest

/-- The parts of a string between the characters `mark`. -/
def partsOf (mark : Char) (s : String) : List String := (parts mark s.toList).map String.ofList

end RecordFamily.Text
