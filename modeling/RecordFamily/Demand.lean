import RecordFamily.Error
import RecordFamily.Naming
import RecordFamily.Slot

/-!
# Demands on slots

Some steps ask more of a slot than that it is there: that it can be looked up, that its letters can be
gone through, that it can be put in order with others, that it holds a text. A slot that does not meet
a demand is a fault. Slots that hold text meet all of them.

* `textOr`: the text of a slot;
* `requireKeys`: slots that are looked up or told apart by look-up;
* `requireLetters`: a slot whose letters make a name;
* `sortedSlots`: distinct slots in order.
-/

namespace RecordFamily

variable {τ : Type} [BEq τ] [Slot τ]

/-- The text of a slot that has to hold one, or else the fault. -/
def textOr (fault : Fault) (x : τ) : Except Fault String :=
  match Slot.text? x with
  | some s => .ok s
  | none => .error fault

/-- The slots may be looked up: none of them holds a collection. -/
def requireKeys (xs : List τ) : Except Fault Unit :=
  if xs.all Slot.isKey then .ok () else .error .wrongShape

/-- The value is a text. -/
def Value.isText : Value → Bool
  | text _ => true
  | _ => false

/-- The letters of a slot may be gone through: those of a text, or the texts that a list holds. -/
def requireLetters (x : τ) : Except Fault Unit :=
  match (Slot.toValue x).bare with
  | .text _ => .ok ()
  | .list xs => if xs.all fun v => v.bare.isText then .ok () else .error .noMember
  | .map es => if es.all fun e => e.1.isText then .ok () else .error .noMember
  | _ => .error .wrongShape

/-- Distinct slots in order, which several of them have if all hold texts or all hold numbers. -/
def sortedSlots (xs : List τ) : Except Fault (List τ) :=
  let distinct := firstOccurrences [] xs
  let texts := distinct.filterMap fun x => (Slot.text? x).map fun s => (s, x)
  let numbers := distinct.filterMap fun x => (Slot.toValue x).number?.map fun n => (n, x)
  if distinct.length ≤ 1 then .ok distinct
  else if texts.length == distinct.length then
    .ok ((texts.mergeSort fun a b => decide (a.1 ≤ b.1)).map Prod.snd)
  else if numbers.length == distinct.length then
    .ok ((numbers.mergeSort fun a b => decide (a.1 ≤ b.1)).map Prod.snd)
  else .error .wrongShape

/-! ## Slots that hold text -/

@[simp] theorem textOr_string (fault : Fault) (s : String) : textOr fault s = .ok s := rfl

@[simp] theorem requireKeys_string (xs : List String) : requireKeys xs = .ok () := by
  simp [requireKeys]

@[simp] theorem requireLetters_string (s : String) : requireLetters s = .ok () := rfl

end RecordFamily
