import RecordFamily.Proofs.JsonString
import RecordFamily.Proofs.KeyOrder

/-!
# Written JSON is read back

A value of null, truth values, texts, lists and mappings of distinct texts is read back from its
indented text, with the keys of its mappings in order. The fuel of the reader is bounded by the
characters that are left.

* `margin`, `skip_margin`, `enclosed_indented`: the white space between items, and the text of a
  collection;
* `Reads`, `ReadsItem`: texts from which a value and an item of a collection are read;
* `run_intercalate`, `reads_enclosed`: items in a row, and collections of them;
* `reads_list`, `reads_record`, `reads_text` and the like: what is read from the texts of values;
* `reads_valueText`, **`read_write`**: the text of a plain value.
-/

namespace RecordFamily

open List

namespace Json

open Text

/-! ## White space -/

section Space

variable {c : Char} {cs pad : List Char}

/-- The character is white space between values. -/
def isSpace (c : Char) : Bool := c == ' ' || c == '\t' || c == '\n' || c == '\r'

theorem skip_eq (cs : List Char) : skip cs = cs.dropWhile isSpace := rfl

theorem skip_of_not_space (hc : isSpace c = false) : skip (c :: cs) = c :: cs := by
  rw [skip_eq, List.dropWhile_cons_of_neg (by simp [hc])]

theorem skip_append (hpad : ∀ c ∈ pad, isSpace c = true) : skip (pad ++ cs) = skip cs := by
  rw [skip_eq, skip_eq, List.dropWhile_append_of_pos hpad]

/-- The start of a new line, indented for a depth of nesting. -/
def margin (depth : Nat) : String := String.ofList ('\n' :: List.replicate (2 * depth) ' ')

theorem isSpace_margin (depth : Nat) : ∀ c ∈ (margin depth).toList, isSpace c = true := by
  intro c hc
  rw [margin, String.toList_ofList, List.mem_cons, List.mem_replicate] at hc
  rcases hc with rfl | ⟨_, rfl⟩
  · rfl
  · rfl

theorem skip_margin (depth : Nat) (hc : isSpace c = false) :
    skip ((margin depth).toList ++ c :: cs) = c :: cs := by
  rw [skip_append (isSpace_margin depth), skip_of_not_space hc]

theorem enclosed_indented {depth : Nat} {first last : String} {items : List String}
    (h : items ≠ []) : enclosed .indented depth first last items =
      first ++ margin (depth + 1) ++ ("," ++ margin (depth + 1)).intercalate items ++ margin depth
        ++ last := by
  obtain ⟨item, rest, rfl⟩ := List.exists_cons_of_ne_nil h
  rfl

end Space

/-! ## Texts that are read -/

/-- The text begins with a character that is neither white space, nor the end of a collection, nor
the mark of an encoding. -/
def Starts (cs : List Char) : Prop :=
  ∃ c rest, cs = c :: rest ∧ isSpace c = false ∧ c ∉ [']', '\x7d', '\ufeff']

/-- **The value is read from the text**, whatever follows. -/
structure Reads (nesting : Nat) (text : String) (v : Value) : Prop where
  starts : Starts text.toList
  value : ∀ fuel depth rest, text.toList.length ≤ fuel → depth + nesting < nestingBound →
    Json.value fuel depth (text.toList ++ rest) = .ok (v, rest)

theorem Starts.append {cs : List Char} (h : Starts cs) (ds : List Char) : Starts (cs ++ ds) := by
  obtain ⟨c, cs, rfl, hc⟩ := h
  exact ⟨c, cs ++ ds, rfl, hc⟩

theorem Starts.skip_margin {cs : List Char} (h : Starts cs) (depth : Nat) :
    skip ((margin depth).toList ++ cs) = cs := by
  obtain ⟨c, cs, rfl, hc, _⟩ := h
  exact Json.skip_margin depth hc

theorem Starts.intercalate {t : String} (h : Starts t.toList) (sep : String) (ts : List String) :
    Starts (sep.intercalate (t :: ts)).toList := by
  cases ts with
  | nil => rwa [String.intercalate_singleton]
  | cons u ts =>
    rw [String.intercalate_cons_cons, String.toList_append, String.toList_append, List.append_assoc]
    exact h.append _

/-! ## Items in a row -/

section Items

variable {ε : Type} {run : Nat → List ε → List Char → Except Stop (Value × List Char)}
  {close : Char} {finish : List ε → Value}

/-- **The item is read from the text** by a reader of collections, which goes on after a comma and
ends at the closing character. -/
structure ReadsItem (run : Nat → List ε → List Char → Except Stop (Value × List Char))
    (close : Char) (finish : List ε → Value) (text : String) (item : ε) : Prop where
  starts : Starts text.toList
  last : ∀ fuel done rest tail, text.toList.length ≤ fuel → skip rest = close :: tail →
    run (fuel + 1) done (text.toList ++ rest) = .ok (finish (item :: done).reverse, tail)
  next : ∀ fuel done rest tail, text.toList.length ≤ fuel → skip rest = ',' :: tail →
    run (fuel + 1) done (text.toList ++ rest) = run fuel (item :: done) (skip tail)

/-- **The items of a collection** are read one after the other. -/
theorem run_intercalate {ts : List String} {items : List ε} {inner outer fuel : Nat} {done : List ε}
    {rest : List Char} (hitems : Forall₂ (ReadsItem run close finish) ts items) (hne : ts ≠ [])
    (hclose : isSpace close = false)
    (hfuel : (("," ++ margin inner).intercalate ts).toList.length < fuel) :
    run fuel done ((("," ++ margin inner).intercalate ts).toList ++
      ((margin outer).toList ++ close :: rest)) = .ok (finish (done.reverse ++ items), rest) := by
  induction hitems generalizing fuel done with
  | nil => exact absurd rfl hne
  | @cons t item ts items ht hts ih =>
    -- An item takes one unit of fuel, and it has at least one character.
    obtain ⟨fuel, rfl⟩ : ∃ n, fuel = n + 1 := ⟨fuel - 1, by omega⟩
    cases hts with
    | nil =>
      rw [String.intercalate_singleton] at hfuel ⊢
      rw [ht.last fuel done _ rest (by omega) (skip_margin outer hclose), List.reverse_cons]
    | @cons u item' ts items hu hts =>
      have hstarts := (hu.starts.intercalate ("," ++ margin inner) ts).append
        ((margin outer).toList ++ close :: rest)
      have hcomma : ",".toList = [','] := rfl
      rw [String.intercalate_cons_cons] at hfuel ⊢
      simp only [String.toList_append, List.length_append, List.append_assoc, hcomma,
        List.cons_append, List.nil_append, List.length_cons] at hfuel ⊢
      rw [ht.next fuel done _ _ (by omega) (skip_of_not_space rfl), hstarts.skip_margin,
        ih (by simp) (by omega), List.reverse_cons, List.append_assoc]
      rfl

end Items

section Collections

variable {nesting depth : Nat} {key text : String} {v : Value}

theorem Reads.element (hv : Reads nesting text v) (hdepth : depth + nesting < nestingBound) :
    ReadsItem (fun fuel => elements fuel depth) ']' Value.list text v where
  starts := hv.starts
  last := by
    intro fuel done rest tail hfuel hskip
    simp only [elements, hv.value fuel depth rest hfuel hdepth, ok_bind, hskip]
    rfl
  next := by
    intro fuel done rest tail hfuel hskip
    simp only [elements, hv.value fuel depth rest hfuel hdepth, ok_bind, hskip]

/-- The text of a member of an object. -/
def memberText (key text : String) : String := quotedText key ++ ": " ++ text

theorem toList_memberText (key text : String) : (memberText key text).toList =
    (quotedText key).toList ++ ':' :: ' ' :: text.toList := by
  have hcolon : ": ".toList = [':', ' '] := rfl
  rw [memberText, String.toList_append, String.toList_append, List.append_assoc, hcolon]
  rfl

theorem starts_memberText (key text : String) : Starts (memberText key text).toList := by
  rw [toList_memberText, toList_quotedText]
  exact ⟨quotationMark, _, rfl, by decide, by decide⟩

theorem Reads.value_skip {fuel : Nat} {rest : List Char} (hv : Reads nesting text v)
    (hdepth : depth + nesting < nestingBound) (hfuel : text.toList.length ≤ fuel) :
    Json.value fuel depth (skip (' ' :: (text.toList ++ rest))) = .ok (v, rest) := by
  obtain ⟨c, cs, hcs, hc, _⟩ := hv.starts
  have hspace : ∀ c ∈ [' '], isSpace c = true := by simp [isSpace]
  have hskip : skip (' ' :: (text.toList ++ rest)) = text.toList ++ rest := by
    rw [hcs]
    exact (skip_append hspace).trans (skip_of_not_space hc)
  rw [hskip, hv.value fuel depth rest hfuel hdepth]

theorem Reads.member (hv : Reads nesting text v) (hdepth : depth + nesting < nestingBound) :
    ReadsItem (fun fuel => members fuel depth) '\x7d' Value.ofPairs (memberText key text)
      (.text key, v) := by
  have hlength : (memberText key text).toList.length =
      (quotedText key).toList.length + (text.toList.length + 2) := by
    rw [toList_memberText, List.length_append, List.length_cons, List.length_cons]
  have htext : ∀ rest, (memberText key text).toList ++ rest =
      (quotedText key).toList ++ ':' :: ' ' :: (text.toList ++ rest) := by
    intro rest
    rw [toList_memberText, List.append_assoc, List.cons_append, List.cons_append]
  have hkey := length_quotedText key
  have hhead : ∀ ds, (((quotedText key).toList ++ ds).head? != some quotationMark) = false := by
    intro ds
    rw [toList_quotedText]
    rfl
  have hname : ∀ fuel ds, (memberText key text).toList.length ≤ fuel →
      string fuel ((quotedText key).toList ++ ds) = .ok (key, ds) :=
    fun fuel ds hfuel => string_quotedText (by omega)
  have hcolon : ∀ cs, skip (':' :: cs) = ':' :: cs := fun _ => skip_of_not_space rfl
  refine ⟨starts_memberText key text, ?last, ?next⟩
  case last =>
    intro fuel done rest tail hfuel hskip
    simp only [htext, members, hhead, hname fuel _ hfuel, ok_bind, hcolon,
      hv.value_skip hdepth (show text.toList.length ≤ fuel by omega), hskip]
    rfl
  case next =>
    intro fuel done rest tail hfuel hskip
    simp only [htext, members, hhead, hname fuel _ hfuel, ok_bind, hcolon,
      hv.value_skip hdepth (show text.toList.length ≤ fuel by omega), hskip]
    rfl

end Collections

/-! ## Collections -/

section Enclosed

variable {ε : Type} (run : Nat → Nat → List ε → List Char → Except Stop (Value × List Char))
  {start close : Char} {first last : String} {finish : List ε → Value}

/-- **A collection is read** whose items are, by a reader that the first bracket calls. -/
theorem reads_enclosed {nesting : Nat} {ts : List String} {items : List ε} (level : Nat)
    (hfirst : first.toList = [start]) (hlast : last.toList = [close]) (hstart : Starts [start])
    (hclose : isSpace close = false)
    (hempty : ∀ fuel depth rest, depth + 1 < nestingBound →
      value (fuel + 1) depth (start :: close :: rest) = .ok (finish [], rest))
    (hopen : ∀ fuel depth cs, depth + 1 < nestingBound → Starts (skip cs) →
      value (fuel + 1) depth (start :: cs) = run (depth + 1) fuel [] (skip cs))
    (hitems : ∀ depth, depth + nesting < nestingBound →
      Forall₂ (ReadsItem (run depth) close finish) ts items) :
    Reads (nesting + 1) (enclosed .indented level first last ts) (finish items) := by
  cases ts with
  | nil =>
    have htext : (enclosed .indented level first last []).toList = [start, close] := by
      rw [enclosed, String.toList_append, hfirst, hlast]
      rfl
    refine ⟨htext ▸ hstart.append [close], fun fuel depth rest hfuel hdepth => ?_⟩
    obtain ⟨fuel, rfl⟩ : ∃ n, fuel = n + 1 := ⟨fuel - 1, by simp [htext] at hfuel; omega⟩
    have hnil : items = [] := List.forall₂_nil_left_iff.mp (hitems (depth + 1) (by omega))
    rw [htext, hnil]
    exact hempty fuel depth rest (by omega)
  | cons t ts =>
    have htext : (enclosed .indented level first last (t :: ts)).toList =
        [start] ++ ((margin (level + 1)).toList ++
          ((("," ++ margin (level + 1)).intercalate (t :: ts)).toList ++
            ((margin level).toList ++ [close]))) := by
      rw [enclosed_indented (List.cons_ne_nil t ts)]
      simp only [String.toList_append, hfirst, hlast, List.append_assoc]
    refine ⟨htext ▸ hstart.append _, fun fuel depth rest hfuel hdepth => ?_⟩
    -- The first bracket takes one unit of fuel and one level of nesting.
    have hall := hitems (depth + 1) (by omega)
    obtain ⟨item, hitem⟩ : ∃ item, ReadsItem (run (depth + 1)) close finish t item := by
      cases hall with
      | cons ht _ => exact ⟨_, ht⟩
    rw [htext] at hfuel ⊢
    simp only [List.length_append, List.length_singleton] at hfuel
    obtain ⟨fuel, rfl⟩ : ∃ n, fuel = n + 1 := ⟨fuel - 1, by omega⟩
    have hstarts := (hitem.starts.intercalate ("," ++ margin (level + 1)) ts).append
      ((margin level).toList ++ close :: rest)
    have hskip := hstarts.skip_margin (level + 1)
    simp only [List.append_assoc, List.cons_append, List.nil_append]
    rw [hopen fuel depth _ (by omega) (hskip.symm ▸ hstarts), hskip,
      run_intercalate hall (List.cons_ne_nil t ts) hclose (by omega), List.reverse_nil,
      List.nil_append]

end Enclosed

section Brackets

variable {fuel depth nesting : Nat} {cs rest : List Char}

theorem value_array (hdepth : depth + 1 < nestingBound) (hcs : Starts (skip cs)) :
    value (fuel + 1) depth ('[' :: cs) = elements fuel (depth + 1) [] (skip cs) := by
  obtain ⟨c, ds, hskip, _, hc⟩ := hcs
  rw [value, if_neg (Nat.not_le.mpr hdepth), hskip]
  split
  · next heq => simp [(List.cons.inj heq).1] at hc
  · rfl

theorem value_object (hdepth : depth + 1 < nestingBound) (hcs : Starts (skip cs)) :
    value (fuel + 1) depth ('\x7b' :: cs) = members fuel (depth + 1) [] (skip cs) := by
  obtain ⟨c, ds, hskip, _, hc⟩ := hcs
  rw [value, if_neg (Nat.not_le.mpr hdepth), hskip]
  split
  · next heq => simp [(List.cons.inj heq).1] at hc
  · rfl

theorem value_empty_array (hdepth : depth + 1 < nestingBound) :
    value (fuel + 1) depth ('[' :: ']' :: rest) = .ok (.list [], rest) := by
  rw [value, if_neg (Nat.not_le.mpr hdepth), skip_of_not_space rfl]
  rfl

theorem value_empty_object (hdepth : depth + 1 < nestingBound) :
    value (fuel + 1) depth ('\x7b' :: '\x7d' :: rest) = .ok (Value.ofPairs [], rest) := by
  rw [value, if_neg (Nat.not_le.mpr hdepth), skip_of_not_space rfl]
  rfl

/-- **An array is read** whose elements are. -/
theorem reads_list {ts : List String} {vs : List Value} (h : Forall₂ (Reads nesting) ts vs)
    (level : Nat) : Reads (nesting + 1) (enclosed .indented level "[" "]" ts) (.list vs) := by
  have hfirst : "[".toList = ['['] := rfl
  have hlast : "]".toList = [']'] := rfl
  exact reads_enclosed (fun depth fuel => elements fuel depth) level hfirst hlast
    ⟨'[', [], rfl, rfl, by decide⟩ rfl (fun _ _ _ => value_empty_array)
    (fun _ _ _ => value_array) fun depth hdepth => h.imp fun t v ht => ht.element hdepth

/-- **An object is read** whose members are, when its keys are distinct. -/
theorem reads_record {ι : Type} {items : List ι} {key text : ι → String} {v : ι → Value}
    (h : ∀ i ∈ items, Reads nesting (text i) (v i)) (hkeys : (items.map key).Nodup) (level : Nat) :
    Reads (nesting + 1) (enclosed .indented level "\x7b" "\x7d"
      (items.map fun i => memberText (key i) (text i)))
      (.record (items.map fun i => (key i, v i))) := by
  have hfirst : "\x7b".toList = ['\x7b'] := rfl
  have hlast : "\x7d".toList = ['\x7d'] := rfl
  have hmembers : ∀ depth, depth + nesting < nestingBound →
      Forall₂ (ReadsItem (fun fuel => members fuel depth) '\x7d' Value.ofPairs)
        (items.map fun i => memberText (key i) (text i))
        (items.map fun i => (.text (key i), v i)) := by
    intro depth hdepth
    rw [List.forall₂_map_left_iff, List.forall₂_map_right_iff, List.forall₂_same]
    exact fun i hi => (h i hi).member hdepth
  have hrecord : Value.ofPairs (items.map fun i => (.text (key i), v i)) =
      .record (items.map fun i => (key i, v i)) := by
    rw [← Value.ofPairs_record (by rwa [List.map_map]), List.map_map]
    rfl
  rw [← hrecord]
  exact reads_enclosed (fun depth fuel => members fuel depth) level hfirst hlast
    ⟨'\x7b', [], rfl, rfl, by decide⟩ rfl (fun _ _ _ => value_empty_object)
    (fun _ _ _ => value_object) hmembers

end Brackets

/-! ## Values -/

section Scalars

variable {nesting : Nat}

theorem reads_word {word : String} {c : Char} {cs : List Char} {v : Value}
    (hword : word.toList = c :: cs) (hstarts : Starts word.toList)
    (hvalue : ∀ fuel depth rest, value (fuel + 1) depth (word.toList ++ rest) = .ok (v, rest)) :
    Reads nesting word v := by
  refine ⟨hstarts, fun fuel depth rest hfuel _ => ?_⟩
  obtain ⟨fuel, rfl⟩ : ∃ n, fuel = n + 1 := ⟨fuel - 1, by simp [hword] at hfuel; omega⟩
  exact hvalue fuel depth rest

theorem reads_null : Reads nesting "null" .null :=
  reads_word rfl ⟨'n', _, rfl, rfl, by decide⟩ fun _ _ _ => rfl

theorem reads_bool (b : Bool) : Reads nesting (if b then "true" else "false") (.bool b) := by
  cases b with
  | true => exact reads_word rfl ⟨'t', _, rfl, rfl, by decide⟩ fun _ _ _ => rfl
  | false => exact reads_word rfl ⟨'f', _, rfl, rfl, by decide⟩ fun _ _ _ => rfl

theorem reads_text (s : String) : Reads nesting (quotedText s) (.text s) := by
  refine ⟨?_, fun fuel depth rest hfuel _ => ?_⟩
  · rw [toList_quotedText]
    exact ⟨quotationMark, _, rfl, by decide, by decide⟩
  · have hlength := length_quotedText s
    obtain ⟨fuel, rfl⟩ : ∃ n, fuel = n + 1 := ⟨fuel - 1, by omega⟩
    have hstring : string fuel ((quotedText s).toList ++ rest) = .ok (s, rest) :=
      string_quotedText (by omega)
    have hvalue : ∀ ds, value (fuel + 1) depth (quotationMark :: ds) =
        (string fuel (quotationMark :: ds) >>= fun p => .ok (.text p.1, p.2)) := fun _ => rfl
    rw [toList_quotedText, List.cons_append] at hstring ⊢
    rw [hvalue, hstring]
    rfl

end Scalars

/-! ## Written values -/

section Written

/-- **The members of a mapping of texts** are written in the order of their keys. -/
theorem membersText_record (text : String × Value → String) (es : List (String × Value)) :
    membersText .indented (es.map fun e => (Value.text e.1, text e)) =
      some ((byKey es).map fun e => memberText e.1 (text e)) := by
  have hsorted : sortedByKey (es.map fun e => (Value.text e.1, text e)) =
      some ((byKey es).map fun e => (Value.text e.1, text e)) := by
    unfold sortedByKey
    extract_lets textKeys numberKeys
    have hkeys : textKeys = es.map fun e => (e.1, Value.text e.1, text e) := by
      rw [← List.filterMap_eq_map]
      exact List.filterMap_map
    rw [hkeys, List.length_map, List.length_map, if_pos (beq_self_eq_true _),
      map_byKey fun _ _ => rfl, List.map_map]
    rfl
  have hall : ∀ fs : List (String × Value),
      ((fs.map fun e => (Value.text e.1, text e)).mapM fun e =>
        do return (← keyText e.1) ++ ": " ++ e.2) =
          some (fs.map fun e => memberText e.1 (text e)) := by
    intro fs
    induction fs with
    | nil => rfl
    | cons f fs ih =>
      rw [List.map_cons, List.mapM_cons, ih]
      rfl
  rw [membersText, hsorted]
  exact hall (byKey es)

/-- The indented text of a value that has one. -/
def indentedText (level : Nat) (v : Value) : String := (valueText .indented level v).getD ""

theorem itemTexts_eq {level : Nat} {xs : List Value}
    (h : ∀ x ∈ xs, valueText .indented level x = some (indentedText level x)) :
    itemTexts .indented level xs = some (xs.map (indentedText level)) := by
  induction xs with
  | nil => rfl
  | cons x xs ih =>
    rw [List.forall_mem_cons] at h
    rw [itemTexts, h.1, ih h.2]
    rfl

theorem entryTexts_congr {layout : Layout} {level : Nat} {es fs : List (Value × Value)}
    (h : Forall₂ (fun e f => e.1 = f.1 ∧ valueText layout level e.2 = valueText layout level f.2) es
      fs) : entryTexts layout level es = entryTexts layout level fs := by
  induction h with
  | nil => rfl
  | @cons e f _ _ hef _ ih => rw [entryTexts, entryTexts, hef.1, hef.2, ih]

theorem entryTexts_eq {level : Nat} {es : List (String × Value)}
    (h : ∀ e ∈ es, valueText .indented level e.2 = some (indentedText level e.2)) :
    entryTexts .indented level (es.map fun e => (.text e.1, e.2)) =
      some (es.map fun e => (.text e.1, indentedText level e.2)) := by
  induction es with
  | nil => rfl
  | cons e es ih =>
    rw [List.forall_mem_cons] at h
    rw [List.map_cons, entryTexts, h.1, ih h.2]
    rfl

/-- A mapping of texts is written in the order of its keys. -/
theorem valueText_record {level : Nat} {es : List (String × Value)}
    (h : ∀ e ∈ es, valueText .indented (level + 1) e.2 = some (indentedText (level + 1) e.2)) :
    valueText .indented level (.record es) = some (enclosed .indented level "\x7b" "\x7d"
      ((byKey es).map fun e => memberText e.1 (indentedText (level + 1) e.2))) := by
  rw [Value.record, valueText, entryTexts_eq h]
  change (membersText .indented _).bind _ = _
  rw [membersText_record fun e => indentedText (level + 1) e.2]
  rfl

/-- **A plain value is read from its text**, with its keys in order. -/
theorem reads_valueText {nesting : Nat} {v : Value} (h : v.IsPlain nesting) :
    ∀ level, valueText .indented level v = some (indentedText level v) ∧
      Reads nesting (indentedText level v) v.inOrder := by
  have hwritten : ∀ {level : Nat} {v : Value} {text : String},
      valueText .indented level v = some text → indentedText level v = text := by
    intro level v text htext
    rw [indentedText, htext]
    rfl
  induction h with
  | null => exact fun _ => ⟨rfl, reads_null⟩
  | bool b => exact fun _ => ⟨rfl, reads_bool b⟩
  | text s => exact fun _ => ⟨rfl, reads_text s⟩
  | @list nesting xs _ ih =>
    intro level
    have hitems := itemTexts_eq fun x hx => (ih x hx (level + 1)).1
    have htext : valueText .indented level (.list xs) =
        some (enclosed .indented level "[" "]" (xs.map (indentedText (level + 1)))) := by
      rw [valueText, hitems]
      rfl
    have hreads : Forall₂ (Reads nesting) (xs.map (indentedText (level + 1)))
        (xs.map Value.inOrder) := by
      rw [List.forall₂_map_left_iff, List.forall₂_map_right_iff, List.forall₂_same]
      exact fun x hx => (ih x hx (level + 1)).2
    rw [hwritten htext, Value.inOrder_list]
    exact ⟨htext, reads_list hreads level⟩
  | @record nesting es hkeys _ ih =>
    intro level
    have htext := valueText_record fun e he => (ih e he (level + 1)).1
    have hreads : ∀ e ∈ byKey es, Reads nesting (indentedText (level + 1) e.2) e.2.inOrder :=
      fun e he => (ih e (mem_byKey.mp he) (level + 1)).2
    have hnodup : ((byKey es).map Prod.fst).Nodup := ((byKey_perm es).map _).nodup_iff.mpr hkeys
    rw [hwritten htext, Value.inOrder_record]
    exact ⟨htext, reads_record hreads hnodup level⟩

end Written

/-- **Reading takes back what was written.** A plain value, whose collections do not stand in each
other too deep, is read from its indented text with its keys in order. -/
theorem read_write {nesting : Nat} {v : Value} (h : v.IsPlain nesting)
    (hnesting : nesting < nestingBound) :
    ∃ text, write .indented v = some text ∧ read text = .ok v.inOrder := by
  obtain ⟨htext, hreads⟩ := reads_valueText h 0
  refine ⟨_, htext, ?_⟩
  obtain ⟨c, cs, hcs, hc, hmark⟩ := hreads.starts
  have hvalue := hreads.value (2 * (indentedText 0 v).toList.length + 2) 0 [] (by omega) (by omega)
  have hhead : ((indentedText 0 v).toList.head? == some '\ufeff') = false := by
    rw [hcs, List.head?_cons]
    simp only [List.mem_cons, not_or] at hmark
    simpa using hmark.2.2.1
  have hskip : skip (indentedText 0 v).toList = (indentedText 0 v).toList := by
    rw [hcs, skip_of_not_space hc]
  rw [List.append_nil] at hvalue
  rw [read, whole, hhead, hskip, hvalue]
  rfl

end Json

end RecordFamily
