import RecordFamily.Proofs.Tidy
import RecordFamily.Proofs.Wording
import RecordFamily.Yaml.Reader

/-!
# What documents hold

A JSON text is read as a value without names that has a wording: no collections stand in it too deep,
and no whole number in it is too long. In the value of a YAML text only collections have names: what a
scalar is read as stands in a cell of its own, and such a cell has no parts.

* `Json.IsReadable`: the values that may be read inside so many arrays and objects;
* `Json.natOf_lt`, `Json.number_cases`: how great a number with so many digits may be;
* `Json.ReadsJson`, **`Json.isReadable_of_read`**: the values of JSON texts;
* `Yaml.isTidy_scalarValue`: the values of YAML scalars;
* `Yaml.Read.Keeps`: steps of a reader that leave tidy values in the cells that hold no collections;
* **`Yaml.isTidy_of_read`**: the values of YAML texts.
-/

namespace RecordFamily

open Value

/-! ## JSON -/

namespace Value

/-- The entry has a text as its key, and a value with the property. -/
def IsMember (P : Value → Prop) (e : Value × Value) : Prop := e.1.isText = true ∧ P e.2

variable {P : Value → Prop}

theorem isMember_insert {k v : Value} (he : IsMember P (k, v)) {es : List (Value × Value)}
    (hes : ∀ e ∈ es, IsMember P e) : ∀ e ∈ insert k v es, IsMember P e := by
  induction es with
  | nil => exact List.forall_mem_singleton.mpr he
  | cons e es ih =>
    obtain ⟨hk, hes⟩ := List.forall_mem_cons.mp hes
    rw [insert]
    split_ifs
    · exact List.forall_mem_cons.mpr ⟨⟨hk.1, he.2⟩, hes⟩
    · exact List.forall_mem_cons.mpr ⟨hk, ih hes⟩

theorem exists_ofPairs {es : List (Value × Value)} (h : ∀ e ∈ es, IsMember P e) :
    ∃ fs, ofPairs es = map fs ∧ ∀ e ∈ fs, IsMember P e := by
  refine ⟨_, rfl, ?_⟩
  -- On the entries, after those that were written before.
  suffices hfold : ∀ done : List (Value × Value), (∀ e ∈ done, IsMember P e) →
      ∀ e ∈ es.foldl (fun es e => insert e.1 e.2 es) done, IsMember P e from hfold [] nofun
  induction es with
  | nil => exact fun done hdone => hdone
  | cons e es ih =>
    obtain ⟨he, hes⟩ := List.forall_mem_cons.mp h
    exact fun done hdone => ih hes _ (isMember_insert he hdone)

end Value

namespace Json

variable {depth : Nat} {cs rest : List Char} {v : Value}

/-- **The value may be read inside `depth` arrays and objects**: JSON knows it, its whole numbers can be
written, and its collections do not stand too deep. -/
structure IsReadable (depth : Nat) (v : Value) : Prop where
  isJson : v.isJson = true
  isWritable : v.isWritable = true
  height : v.height + depth < nestingBound

theorem isReadable_list {xs : List Value} (hdepth : depth + 1 < nestingBound)
    (h : ∀ x ∈ xs, IsReadable (depth + 1) x) : IsReadable depth (.list xs) where
  isJson := isJson_list.mpr fun x hx => (h x hx).isJson
  isWritable := isWritable_list.mpr fun x hx => (h x hx).isWritable
  height := by
    have hitems : itemsHeight xs ≤ nestingBound - (depth + 2) :=
      itemsHeight_le.mpr fun x hx => by have := (h x hx).height; omega
    rw [Value.height]
    omega

theorem isReadable_map {es : List (Value × Value)} (hdepth : depth + 1 < nestingBound)
    (h : ∀ e ∈ es, IsMember (IsReadable (depth + 1)) e) : IsReadable depth (.map es) where
  isJson := isJson_map.mpr fun e he => ⟨(h e he).1, (h e he).2.isJson⟩
  isWritable := isWritable_map.mpr fun e he => by
    obtain ⟨s, hs⟩ := eq_text (h e he).1
    exact ⟨by rw [hs]; rfl, (h e he).2.isWritable⟩
  height := by
    have hentries : entriesHeight es ≤ nestingBound - (depth + 2) :=
      entriesHeight_le.mpr fun e he => by have := (h e he).2.height; omega
    rw [Value.height]
    omega

/-! ### Numbers -/

/-- Digits denote a number with no more digits. -/
theorem natOf_lt {ds : List Char} (h : ∀ d ∈ ds, d.isDigit = true) :
    natOf ds < Nat.pow 10 ds.length := by
  -- On the digits, after those that were read before.
  suffices hfold : ∀ n, ds.foldl (fun n d => 10 * n + (d.toNat - 48)) n <
      (n + 1) * Nat.pow 10 ds.length by
    have hzero := hfold 0
    rwa [Nat.zero_add, Nat.one_mul] at hzero
  induction ds with
  | nil => exact fun n => by simp
  | cons d ds ih =>
    intro n
    obtain ⟨hd, hds⟩ := List.forall_mem_cons.mp h
    have hnine : d.toNat ≤ 57 := (Char.isDigit_iff_toNat.mp hd).2
    calc ds.foldl (fun n d => 10 * n + (d.toNat - 48)) (10 * n + (d.toNat - 48))
        < (10 * n + (d.toNat - 48) + 1) * Nat.pow 10 ds.length := ih hds _
      _ ≤ ((n + 1) * 10) * Nat.pow 10 ds.length := Nat.mul_le_mul_right _ (by omega)
      _ = (n + 1) * (Nat.pow 10 ds.length * 10) := by rw [Nat.mul_assoc, Nat.mul_comm 10]

/-- What a number is read as: a double, or a whole number of so many digits at most. -/
theorem numberFrom_cases {negative : Bool} {whole : List Char} (h : ∀ d ∈ whole, d.isDigit = true)
    (hv : numberFrom negative whole cs = (v, rest)) :
    (∃ x, v = .float x) ∨ ∃ n, v = .int n ∧ n.natAbs < Nat.pow 10 whole.length := by
  unfold numberFrom at hv
  rcases fraction cs with ⟨frac, after⟩
  dsimp only at hv
  rcases exponent after with ⟨power, rest⟩
  split_ifs at hv
  · cases hv
    refine .inr ⟨_, rfl, ?_⟩
    rw [Int.natAbs_neg]
    exact natOf_lt h
  · cases hv
    exact .inr ⟨_, rfl, natOf_lt h⟩
  · cases hv
    exact .inl ⟨_, rfl⟩

/-- A whole number has no more digits than stand at the start of the text. -/
theorem number_cases (h : number cs = some (v, rest)) :
    (∃ x, v = .float x) ∨ ∃ n, v = .int n ∧ n.natAbs < Nat.pow 10 (integerDigits cs).length := by
  have hdigits : ∀ ds : List Char, ∀ d ∈ ds.takeWhile Char.isDigit, d.isDigit = true :=
    fun ds => List.all_eq_true.mp List.all_takeWhile
  unfold number at h
  -- First the sign, then the digits.
  split at h
  next negative after hsigned =>
  have hall : integerDigits cs = after.takeWhile Char.isDigit := by
    unfold integerDigits
    split at hsigned <;> cases hsigned <;> rfl
  rw [hall]
  split at h
  · next after =>
    have hone : 1 ≤ (('0' :: after).takeWhile Char.isDigit).length := by simp [Char.isDigit]
    rcases numberFrom_cases (by simp) (Option.some.inj h) with hx | ⟨n, rfl, hn⟩
    · exact .inl hx
    · exact .inr ⟨n, rfl, Nat.lt_of_lt_of_le hn (Nat.pow_le_pow_right (by decide) hone)⟩
  · split at h
    · cases h
    · exact numberFrom_cases (hdigits after) (Option.some.inj h)

/-! ### Values -/

theorem isReadable_of_height (hdepth : depth < nestingBound) (hjson : v.isJson = true)
    (hwritable : v.isWritable = true) (hheight : v.height = 0) : IsReadable depth v :=
  ⟨hjson, hwritable, by rwa [hheight, Nat.zero_add]⟩

theorem isReadable_of_scalar (hdepth : depth < nestingBound) (h : scalar cs = .ok (v, rest)) :
    IsReadable depth v := by
  unfold scalar at h
  split at h
  · next w u hw =>
    cases h
    have hwords : ∀ w ∈ words, w.2.isJson = true ∧ w.2.isWritable = true ∧ w.2.height = 0 := by
      decide
    obtain ⟨hjson, hwritable, hheight⟩ := hwords _ (List.mem_of_find?_eq_some hw)
    exact isReadable_of_height hdepth hjson hwritable hheight
  · split at h
    · next n after hn =>
      dsimp only at h
      split_ifs at h with hcount
      · cases h
      · cases h
        rcases number_cases hn with ⟨x, hx⟩ | ⟨m, hm, hlt⟩
        · cases hx
        · cases hm
          -- For any bound, since the power of this one is not to be computed.
          have hbound : ∀ bound, (integerDigits cs).length ≤ bound → n.natAbs < Nat.pow 10 bound :=
            fun bound hle => Nat.lt_of_lt_of_le hlt (Nat.pow_le_pow_right (by decide) hle)
          have hlong : n.natAbs < longNumber := by
            unfold longNumber
            exact hbound digitBound (Nat.not_lt.mp hcount)
          exact isReadable_of_height hdepth rfl (decide_eq_true hlong) rfl
    · next r hint hr =>
      cases h
      rcases number_cases hr with ⟨x, rfl⟩ | ⟨n, rfl, -⟩
      · exact isReadable_of_height hdepth rfl rfl rfl
      · exact absurd rfl (hint n rest)
    · cases h

/-- What the readers of values read at a fuel. -/
structure ReadsJson (fuel : Nat) : Prop where
  value : ∀ {depth cs v rest}, depth < nestingBound → value fuel depth cs = .ok (v, rest) →
    IsReadable depth v
  members : ∀ {depth done cs v rest}, depth + 1 < nestingBound →
    (∀ e ∈ done, IsMember (IsReadable (depth + 1)) e) →
      members fuel (depth + 1) done cs = .ok (v, rest) → IsReadable depth v
  elements : ∀ {depth done cs v rest}, depth + 1 < nestingBound →
    (∀ x ∈ done, IsReadable (depth + 1) x) →
      elements fuel (depth + 1) done cs = .ok (v, rest) → IsReadable depth v

namespace ReadsJson

variable {fuel : Nat} (ih : ReadsJson fuel)

include ih

theorem of_value (hdepth : depth < nestingBound)
    (h : Json.value (fuel + 1) depth cs = .ok (v, rest)) : IsReadable depth v := by
  unfold Json.value at h
  split at h
  · split_ifs at h with hdeep
    · cases h
    · split at h
      · cases h
        exact isReadable_map (Nat.not_le.mp hdeep) (List.forall_mem_nil _)
      · exact ih.members (Nat.not_le.mp hdeep) (List.forall_mem_nil _) h
  · split_ifs at h with hdeep
    · cases h
    · split at h
      · cases h
        exact isReadable_list (Nat.not_le.mp hdeep) (List.forall_mem_nil _)
      · exact ih.elements (Nat.not_le.mp hdeep) (List.forall_mem_nil _) h
  · split_ifs at h
    · obtain ⟨r, _, h⟩ := bind_eq_ok.mp h
      cases h
      exact isReadable_of_height hdepth rfl rfl rfl
    · exact isReadable_of_scalar hdepth h
  · cases h

theorem of_members (hdepth : depth + 1 < nestingBound) {done : List (Value × Value)}
    (hdone : ∀ e ∈ done, IsMember (IsReadable (depth + 1)) e)
    (h : Json.members (fuel + 1) (depth + 1) done cs = .ok (v, rest)) : IsReadable depth v := by
  unfold Json.members at h
  split_ifs at h
  · cases h
  · obtain ⟨⟨name, _⟩, -, h⟩ := bind_eq_ok.mp h
    dsimp only at h
    split at h
    · obtain ⟨⟨x, _⟩, hx, h⟩ := bind_eq_ok.mp h
      have hdone' : ∀ e ∈ (Value.text name, x) :: done, IsMember (IsReadable (depth + 1)) e :=
        List.forall_mem_cons.mpr ⟨⟨rfl, ih.value hdepth hx⟩, hdone⟩
      dsimp only at h
      split at h
      · cases h
        obtain ⟨fs, hfs, hmembers⟩ := exists_ofPairs fun e he => hdone' e (List.mem_reverse.mp he)
        rw [hfs]
        exact isReadable_map hdepth hmembers
      · exact ih.members hdepth hdone' h
      · cases h
    · cases h

theorem of_elements (hdepth : depth + 1 < nestingBound) {done : List Value}
    (hdone : ∀ x ∈ done, IsReadable (depth + 1) x)
    (h : Json.elements (fuel + 1) (depth + 1) done cs = .ok (v, rest)) : IsReadable depth v := by
  unfold Json.elements at h
  obtain ⟨⟨x, _⟩, hx, h⟩ := bind_eq_ok.mp h
  have hdone' : ∀ y ∈ x :: done, IsReadable (depth + 1) y :=
    List.forall_mem_cons.mpr ⟨ih.value hdepth hx, hdone⟩
  dsimp only at h
  split at h
  · cases h
    exact isReadable_list hdepth fun y hy => hdone' y (List.mem_reverse.mp hy)
  · exact ih.elements hdepth hdone' h
  · cases h

end ReadsJson

theorem readsJson (fuel : Nat) : ReadsJson fuel := by
  induction fuel with
  | zero =>
    constructor
    · intro _ _ _ _ _ h
      cases h
    · intro _ _ _ _ _ _ _ h
      cases h
    · intro _ _ _ _ _ _ _ h
      cases h
  | succ fuel ih =>
    exact ⟨ih.of_value, fun hdepth => ih.of_members hdepth, fun hdepth => ih.of_elements hdepth⟩

/-- **The value of a JSON text is one that JSON knows, and it has a wording.** -/
theorem isReadable_of_read {s : String} (h : read s = .ok v) : IsReadable 0 v := by
  have hwhole := mapError_eq_ok.mp h
  unfold whole at hwhole
  split_ifs at hwhole
  · cases hwhole
  · obtain ⟨⟨x, _⟩, hx, hwhole⟩ := bind_eq_ok.mp hwhole
    dsimp only at hwhole
    split at hwhole
    · cases hwhole
      exact (readsJson _).value (by decide) hx
    · cases hwhole

theorem hasWording_of_read {s : String} (h : read s = .ok v) : v.HasWording :=
  have hreadable := isReadable_of_read h
  ⟨Nat.lt_trans hreadable.height (by decide), hreadable.isWritable⟩

end Json

/-! ## YAML scalars -/

namespace Yaml

namespace Scalar

variable {s : String} {v : Value}

theorem isTidy_of_int (h : int s = .ok v) : v.isTidy = true := by
  unfold int at h
  dsimp only at h
  split at h
  · cases h
  · obtain ⟨n, -, h⟩ := bind_eq_ok.mp h
    cases h
    rfl

theorem isTidy_of_float (h : float s = .ok v) : v.isTidy = true := by
  unfold float at h
  dsimp only at h
  split at h
  · cases h
  · obtain ⟨x, -, h⟩ := bind_eq_ok.mp h
    cases h
    rfl

theorem isTidy_of_bool (h : bool s = .ok v) : v.isTidy = true := by
  unfold bool at h
  dsimp only at h
  split at h <;> cases h
  rfl

theorem isTidy_of_timestamp (h : timestamp s = .ok v) : v.isTidy = true := by
  unfold timestamp at h
  split at h
  · cases h
  · have hparts := mapError_eq_ok.mp h
    unfold ofParts at hparts
    dsimp only at hparts
    split at hparts
    · obtain ⟨d, -, rfl⟩ := map_eq_ok.mp hparts
      rfl
    · obtain ⟨m, -, rfl⟩ := map_eq_ok.mp hparts
      rfl

theorem isTidy_of_binary (h : binary s = .ok v) : v.isTidy = true := by
  unfold binary at h
  split at h
  · cases h
  · split at h <;> cases h
    rfl

end Scalar

/-- **The value of a scalar is tidy.** -/
theorem isTidy_scalarValue {n : Node} {text : String} {v : Value} (h : n.scalarValue text = .ok v) :
    v.isTidy = true := by
  unfold Node.scalarValue at h
  split at h
  · cases h
    rfl
  · exact Scalar.isTidy_of_bool h
  · exact Scalar.isTidy_of_int h
  · exact Scalar.isTidy_of_float h
  · exact Scalar.isTidy_of_binary h
  · cases h
    rfl
  · split at h
    · exact Scalar.isTidy_of_timestamp h
    · cases h
  · cases h

/-! ## Steps of a reader -/

/-- What stands in the cells so far is tidy. -/
def Reading.IsTidy (r : Reading) : Prop :=
  ∀ (n : Nat) (v : Value), (r.cells[n]?).join = some (Cell.plain v) → v.isTidy = true

namespace Read

variable {α β : Type}

/-- **The step leaves tidy values in the cells** when it finds tidy values there. -/
def Keeps (x : Read α) : Prop :=
  ∀ r a r', r.IsTidy → x.run r = .ok (a, r') → r'.IsTidy

namespace Keeps

theorem pure (a : α) : Keeps (Pure.pure a : Read α) := by
  intro r b r' hr h
  cases h
  exact hr

theorem bind {x : Read α} {f : α → Read β} (hx : Keeps x) (hf : ∀ a, Keeps (f a)) :
    Keeps (x >>= f) := by
  intro r b r' hr h
  obtain ⟨⟨a, s⟩, hs, h⟩ := bind_eq_ok.mp h
  exact hf a s b r' (hx r a s hr hs) h

theorem lift {x : Except Fault α} {f : α → Read β} (hf : ∀ a, x = .ok a → Keeps (f a)) :
    Keeps ((liftM x : Read α) >>= f) := by
  intro r b r' hr h
  cases x with
  | error => cases h
  | ok a => exact hf a rfl r b r' hr h

theorem refuse : Keeps (refuse : Read α) := by
  intro r a r' _ h
  cases h

theorem get : Keeps (get : Read Reading) := by
  intro r a r' hr h
  cases h
  exact hr

theorem modify {f : Reading → Reading} (hf : ∀ r, r.IsTidy → (f r).IsTidy) :
    Keeps (modify f : Read PUnit) := by
  intro r a r' hr h
  cases h
  exact hf r hr

theorem modifyGet {f : Reading → α × Reading} (hf : ∀ r, r.IsTidy → (f r).2.IsTidy) :
    Keeps (modifyGet f : Read α) := by
  intro r a r' hr h
  have hpair : f r = (a, r') := Except.ok.inj h
  have htidy := hf r hr
  rwa [hpair] at htidy

theorem forM {f : α → Read PUnit} (hf : ∀ a, Keeps (f a)) (as : List α) : Keeps (as.forM f) := by
  induction as with
  | nil => exact pure _
  | cons a as ih => exact (hf a).bind fun _ => ih

theorem mapM {f : α → Read β} (hf : ∀ a, Keeps (f a)) (as : List α) : Keeps (as.mapM f) := by
  induction as with
  | nil => exact pure []
  | cons a as ih =>
    rw [List.mapM_cons]
    exact (hf a).bind fun b => ih.bind fun bs => pure (b :: bs)

end Keeps

/-! ## Readers of nodes -/

theorem keeps_setCell (n : Nat) {c : Cell} (hc : ∀ v, c = .plain v → v.isTidy = true) :
    Keeps (setCell n c) := by
  refine .modify fun r hr m v hv => ?_
  rw [Array.getElem?_setIfInBounds] at hv
  split_ifs at hv
  · exact hc v (Option.some.inj hv)
  · cases hv
  · exact hr m v hv

theorem keeps_await (n : Nat) {c : Cell} (hc : ∀ v, c = .plain v → v.isTidy = true) :
    Keeps (await n c) :=
  (keeps_setCell n hc).bind fun _ => .modify fun _ hr => hr

/-- The value of a scalar is all that comes into a cell without parts. -/
theorem keeps_meet (n : Nat) : Keeps (meet n) := by
  unfold meet
  refine Keeps.get.bind fun r => ?_
  split
  · exact .pure ()
  · dsimp only
    split
    · exact keeps_await n nofun
    · exact keeps_await n nofun
    · exact keeps_await n nofun
    · exact keeps_await n nofun
    · exact keeps_await n nofun
    · exact .refuse
    · exact .refuse
    · exact .refuse
    · refine .lift fun text _ => .lift fun v hv => keeps_setCell n ?_
      rintro _ ⟨⟩
      exact isTidy_scalarValue hv

theorem keeps_entriesFrom (done es : List (Nat × Nat)) : Keeps (entriesFrom done es) := by
  induction es generalizing done with
  | nil => exact .pure _
  | cons e es ih =>
    obtain ⟨k, v⟩ := e
    unfold entriesFrom
    refine (keeps_meet k).bind fun _ => Keeps.get.bind fun r => ?_
    split
    · exact .refuse
    · exact (keeps_meet v).bind fun _ => Keeps.get.bind fun r => ih _

theorem keeps_entries (n : Nat) : Keeps (entries n) := by
  unfold entries
  refine (Keeps.modifyGet fun _ hr => hr).bind fun nodes => .lift fun merged _ => ?_
  extract_lets es
  exact .bind (.modify fun _ hr => hr) fun _ => keeps_entriesFrom [] es

theorem keeps_pair (n : Nat) : Keeps (pair n) := by
  unfold pair
  refine Keeps.get.bind fun r => ?_
  split
  · next k v _ =>
    refine (keeps_meet k).bind fun _ => (keeps_meet v).bind fun _ => Keeps.get.bind fun r => ?_
    refine (Keeps.modify fun r hr m w hw => ?_).bind fun _ => .pure _
    rw [Array.getElem?_push] at hw
    split_ifs at hw
    · cases hw
    · exact hr m w hw
  · exact .refuse

theorem keeps_fill (n : Nat) : Keeps (fill n) := by
  unfold fill
  refine Keeps.get.bind fun r => ?_
  dsimp only
  split
  · exact (Keeps.forM keeps_meet _).bind fun _ => keeps_setCell n nofun
  · exact (Keeps.mapM keeps_pair _).bind fun _ => keeps_setCell n nofun
  · exact (Keeps.mapM keeps_pair _).bind fun _ => keeps_setCell n nofun
  · exact (keeps_entries n).bind fun _ => keeps_setCell n nofun
  · exact (keeps_entries n).bind fun _ => keeps_setCell n nofun
  · exact .refuse

theorem keeps_fillFrom (bound next : Nat) : Keeps (fillFrom bound next) := by
  induction bound generalizing next with
  | zero => exact .pure ()
  | succ bound ih =>
    unfold fillFrom
    refine Keeps.get.bind fun r => ?_
    split
    · exact .pure ()
    · next n _ => exact (keeps_fill n).bind fun _ => ih _

theorem keeps_all (n : Nat) : Keeps (all n) :=
  (keeps_meet n).bind fun _ => Keeps.get.bind fun _ => keeps_fillFrom _ 0

end Read

/-! ## YAML -/

theorem Document.isTidy_value {d : Document} {v : Value} (h : d.value = .ok v) : v.isTidy = true := by
  obtain ⟨⟨_, r⟩, hr, h⟩ := bind_eq_ok.mp h
  cases h
  have hstart : Reading.IsTidy ⟨d.nodes, Array.replicate d.nodes.size none, #[]⟩ := by
    intro n v hv
    rw [Array.getElem?_replicate] at hv
    split_ifs at hv <;> cases hv
  have hend : r.IsTidy := Read.keeps_all d.root _ _ r hstart hr
  refine Cells.isTidy_value (fun n v hv => ?_) d.root
  rw [Cells.cell, Array.getElem?_map] at hv
  cases hc : r.cells[n]? with
  | none =>
    rw [hc] at hv
    cases hv
    rfl
  | some c =>
    rw [hc] at hv
    cases c with
    | none =>
      cases hv
      rfl
    | some c =>
      refine hend n v ?_
      rw [hc]
      exact congrArg some hv

/-- **In the value of a YAML text only collections have names.** -/
theorem isTidy_of_read {s : String} {v : Value} (h : read s = .ok v) : v.isTidy = true := by
  unfold read at h
  obtain ⟨d, _, h⟩ := bind_eq_ok.mp h
  cases d with
  | none =>
    cases h
    rfl
  | some d => exact d.isTidy_value h

end Yaml

end RecordFamily
