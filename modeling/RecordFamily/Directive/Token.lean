import RecordFamily.Text.Blank
import RecordFamily.Text.Identifier
import RecordFamily.Text.Quoted

/-!
# Tokens of an annotation

An annotation is cut into string literals, words, parentheses and commas; blanks between them are
dropped, and any other character is a token of its own.

* `Token`, `Token.text`: the tokens, as they were written;
* `literalBody`: the inside of a literal up to its closing mark;
* **`Token.scan`**: the tokens of a text;
* `unquote`: the text that the inside of a literal stands for.
-/

namespace RecordFamily

open Text

/-- A token of an annotation. -/
inductive Token where
  /-- A string literal: its mark and what stands between the two marks, escapes unresolved. -/
  | literal (mark : Char) (body : List Char)
  | word (chars : List Char)
  | opening
  | closing
  | comma
  | other (c : Char)
  deriving DecidableEq, Repr

/-- The token as it was written. -/
def Token.text : Token → String
  | literal mark body => String.ofList (mark :: body ++ [mark])
  | word chars => String.ofList chars
  | opening => "("
  | closing => ")"
  | comma => ","
  | other c => String.singleton c

/-- The character opens and closes a string literal. -/
def isLiteralMark (c : Char) : Bool := c == quotationMark || c == apostrophe

/-- What stands before the first `mark` that no backslash escapes, and what stands after it. -/
def literalBody (mark : Char) : List Char → Option (List Char × List Char)
  | [] => none
  | [c] => if c == mark && c != backslash then some ([], []) else none
  | c :: d :: cs =>
    if c == backslash then (literalBody mark cs).map fun r => (c :: d :: r.1, r.2)
    else if c == mark then some ([], d :: cs)
    else (literalBody mark (d :: cs)).map fun r => (c :: r.1, r.2)

/-- What follows a literal is shorter than the text that the literal was read from. -/
theorem literalBody_length_lt {mark : Char} {cs body rest : List Char}
    (h : literalBody mark cs = some (body, rest)) : rest.length < cs.length := by
  fun_induction literalBody mark cs generalizing body rest with
  | case1 => simp at h
  | case2 c hc =>
    simp only [Option.some.injEq, Prod.mk.injEq] at h
    simp [← h.2]
  | case3 => simp at h
  | case4 c d cs hc ih =>
    obtain ⟨⟨b, r⟩, hr, he⟩ := Option.map_eq_some_iff.1 h
    simp only [Prod.mk.injEq] at he
    have := ih hr
    simp only [List.length_cons, ← he.2]
    omega
  | case5 c d cs hc hm =>
    simp only [Option.some.injEq, Prod.mk.injEq] at h
    simp [← h.2]
  | case6 c d cs hc hm ih =>
    obtain ⟨⟨b, r⟩, hr, he⟩ := Option.map_eq_some_iff.1 h
    simp only [Prod.mk.injEq] at he
    have := ih hr
    simp only [List.length_cons, ← he.2] at this ⊢
    omega

/-- Dropping characters makes no text longer. -/
theorem length_dropWhile_le (p : Char → Bool) (cs : List Char) :
    (cs.dropWhile p).length ≤ cs.length :=
  (List.dropWhile_sublist p).length_le

/-- The token of a character that begins neither a literal nor a word, unless it is blank. -/
def signToken? (c : Char) : Option Token :=
  if c == '(' then some .opening
  else if c == ')' then some .closing
  else if c == ',' then some .comma
  else if isBlank c then none
  else some (.other c)

set_option linter.unusedVariables false in
/-- **The tokens of a text.** -/
def Token.scan : List Char → List Token
  | [] => []
  | c :: cs =>
    if isLiteralMark c then
      match h : literalBody c cs with
      | some (body, rest) => .literal c body :: scan rest
      | none => .other c :: scan cs
    else if isWordStart c then
      .word (c :: cs.takeWhile isWordPart) :: scan (cs.dropWhile isWordPart)
    else
      (signToken? c).toList ++ scan cs
termination_by cs => cs.length
decreasing_by
  · have := literalBody_length_lt h
    simp only [List.length_cons]
    omega
  · simp
  · have := length_dropWhile_le isWordPart cs
    simp only [List.length_cons]
    omega
  · simp

/-- The text that the inside of a literal stands for: a backslash gives way to the character after
it, unless that is a line feed. -/
def unquote : List Char → List Char
  | [] => []
  | [c] => [c]
  | c :: d :: cs =>
    if c == backslash then
      if d == '\n' then c :: d :: unquote cs else d :: unquote cs
    else c :: unquote (d :: cs)

end RecordFamily
