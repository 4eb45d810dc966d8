import MacroScript.Proofs.Outermost

/-! # Templates

A template is a line in which a dollar sign stands nowhere but at the start of a closed reference.
The keys that are looked up are those of the references behind the first colon; but a reference to
such a key is replaced also where it stands before the colon, and any other reference before the
colon stays. As long as the values have no dollar sign, replacing one key after the other in the
whole line does this to all references at once, in whatever order the keys are taken. -/

namespace MacroScript

/-- A reference and the text behind it up to the next one. -/
structure Slot where
  key : List Char
  after : List Char
  keyPlain : '$' ∉ key
  keyOpen : ')' ∉ key
  afterPlain : '$' ∉ after

namespace Slot

def chars (slot : Slot) : List Char := Reference.text slot.key ++ slot.after

/-- The slot with its reference replaced by the value of the key, if there is one. -/
def filled (value : List Char → Option (List Char)) (slot : Slot) : List Char :=
  (value slot.key).getD (Reference.text slot.key) ++ slot.after

end Slot

/-- A text without dollar signs and a number of slots. -/
structure Template where
  head : List Char
  slots : List Slot
  headPlain : '$' ∉ head

namespace Template

def chars (t : Template) : List Char := t.head ++ t.slots.flatMap Slot.chars

def text (t : Template) : String := String.ofList t.chars

def filled (t : Template) (value : List Char → Option (List Char)) : List Char :=
  t.head ++ t.slots.flatMap (Slot.filled value)

/-- The keys of the references that have a colon somewhere before them, from left to right, where
`seen` is the text before the first slot. -/
def keysBehindColon (seen : List Char) : List Slot → List (List Char)
  | [] => []
  | slot :: slots =>
    (if ':' ∈ seen then [slot.key] else []) ++ keysBehindColon (seen ++ slot.chars) slots

/-- The keys of the references behind the first colon, from left to right and each as often as it
occurs; those of all references when there is no colon. -/
def scopeKeys (t : Template) : List (List Char) :=
  if ':' ∈ t.chars then keysBehindColon t.head t.slots else t.slots.map Slot.key

end Template

/-! ## The scope of a text in two parts -/

namespace Reference

theorem scope_append_of_mem {start : List Char} (h : ':' ∈ start) (rest : List Char) :
    scope (start ++ rest) = scope start ++ rest := by
  rcases scope_eq start with ⟨before, hstart, hcolon⟩ | ⟨hnone, -⟩
  · have hcut : Text.cut? ':' (start ++ rest) = some (before, scope start ++ rest) := by
      refine Text.cut?_eq_some_iff.mpr ⟨?_, hcolon⟩
      rw [← List.cons_append, ← List.append_assoc, ← hstart]
    rw [scope, hcut]
  · exact absurd h hnone

theorem scope_append_of_not_mem {start rest : List Char} (h : ':' ∉ start) (hrest : ':' ∈ rest) :
    scope (start ++ rest) = scope rest := by
  rcases scope_eq rest with ⟨before, hsplit, hcolon⟩ | ⟨hnone, -⟩
  · have hcut : Text.cut? ':' (start ++ rest) = some (start ++ before, scope rest) := by
      refine Text.cut?_eq_some_iff.mpr ⟨?_, by simp [h, hcolon]⟩
      rw [List.append_assoc, ← hsplit]
    rw [scope, hcut]
  · exact absurd hrest hnone

theorem scope_of_not_mem {line : List Char} (h : ':' ∉ line) : scope line = line := by
  rcases scope_eq line with ⟨before, hsplit, -⟩ | ⟨-, hsame⟩
  · rw [hsplit] at h
    simp at h
  · exact hsame

end Reference

/-! ## The keys in scope -/

namespace Slot

/-- Behind a colon within a slot there is no dollar sign before the next slot. -/
theorem dollar_not_mem_scope {slot : Slot} (h : ':' ∈ slot.chars) :
    '$' ∉ Reference.scope slot.chars := by
  let tail := '(' :: (slot.key ++ ')' :: slot.after)
  have hchars : slot.chars = ['$'] ++ tail := Reference.text_append slot.key slot.after
  have htail : '$' ∉ tail := by simp [tail, slot.keyPlain, slot.afterPlain]
  have hcolon : ':' ∈ tail := by simpa [hchars] using h
  rw [hchars, Reference.scope_append_of_not_mem (by decide) hcolon]
  intro hmem
  exact htail ((Reference.scope_suffix tail).subset hmem)

theorem keys?_flatMap (slots : List Slot) :
    Reference.keys? (slots.flatMap chars) = some (slots.map key) := by
  induction slots with
  | nil => rfl
  | cons slot slots ih =>
    rw [List.flatMap_cons, chars, List.append_assoc, Reference.keys?_ref slot.keyOpen,
      Reference.keys?_plain slot.afterPlain, ih]
    rfl

theorem tidy_flatMap (slots : List Slot) : Reference.Tidy (slots.flatMap chars) := by
  induction slots with
  | nil => exact .nil
  | cons slot slots ih =>
    rw [List.flatMap_cons, chars, List.append_assoc]
    exact .ref slot.keyPlain slot.keyOpen (ih.plain_append slot.afterPlain)

theorem fill_flatMap (value : List Char → Option (List Char)) (slots : List Slot) :
    Reference.fill value (slots.flatMap chars) = slots.flatMap (filled value) := by
  induction slots with
  | nil => rfl
  | cons slot slots ih =>
    rw [List.flatMap_cons, chars, List.append_assoc, Reference.fill_ref value slot.keyOpen,
      Reference.fill_plain value slot.afterPlain, ih, List.flatMap_cons, filled, List.append_assoc]

end Slot

namespace Template

theorem keysBehindColon_of_mem {seen : List Char} (h : ':' ∈ seen) (slots : List Slot) :
    keysBehindColon seen slots = slots.map Slot.key := by
  induction slots generalizing seen with
  | nil => rfl
  | cons slot slots ih =>
    rw [keysBehindColon, if_pos h, ih (List.mem_append_left _ h)]
    rfl

theorem keys?_scope_flatMap {seen : List Char} (hseen : ':' ∉ seen) {slots : List Slot}
    (h : ':' ∈ slots.flatMap Slot.chars) :
    Reference.keys? (Reference.scope (slots.flatMap Slot.chars)) =
      some (keysBehindColon seen slots) := by
  induction slots generalizing seen with
  | nil => simp at h
  | cons slot slots ih =>
    rw [keysBehindColon, if_neg hseen, List.nil_append, List.flatMap_cons]
    by_cases hhere : ':' ∈ slot.chars
    · -- the first colon is in this slot, and all later references are behind it
      rw [Reference.scope_append_of_mem hhere,
        Reference.keys?_plain (Slot.dollar_not_mem_scope hhere), Slot.keys?_flatMap,
        keysBehindColon_of_mem (List.mem_append_right seen hhere)]
    · have hlater : ':' ∈ slots.flatMap Slot.chars := by
        rw [List.flatMap_cons, List.mem_append] at h
        exact h.resolve_left hhere
      rw [Reference.scope_append_of_not_mem hhere hlater]
      exact ih (by simp [hseen, hhere]) hlater

variable (t : Template)

theorem keys?_scope : Reference.keys? (Reference.scope t.chars) = some t.scopeKeys := by
  unfold scopeKeys
  split
  · rename_i hcolon
    unfold chars at hcolon ⊢
    by_cases hhead : ':' ∈ t.head
    · have hplain : '$' ∉ Reference.scope t.head := by
        intro hmem
        exact t.headPlain ((Reference.scope_suffix t.head).subset hmem)
      rw [Reference.scope_append_of_mem hhead, Reference.keys?_plain hplain, Slot.keys?_flatMap,
        keysBehindColon_of_mem hhead]
    · have hslots := (List.mem_append.mp hcolon).resolve_left hhead
      rw [Reference.scope_append_of_not_mem hhead hslots, keys?_scope_flatMap hhead hslots]
  · rename_i hcolon
    rw [Reference.scope_of_not_mem hcolon, chars, Reference.keys?_plain t.headPlain,
      Slot.keys?_flatMap]

theorem ofLine_chars (index : Nat) :
    Reference.ofLine index t.chars = .ok (Text.distinct t.scopeKeys) := by
  rw [Reference.ofLine, t.keys?_scope]

theorem tidy : Reference.Tidy t.chars := (Slot.tidy_flatMap t.slots).plain_append t.headPlain

theorem fill_chars (value : List Char → Option (List Char)) :
    Reference.fill value t.chars = t.filled value := by
  rw [chars, Reference.fill_plain value t.headPlain, Slot.fill_flatMap, filled]

theorem bracket_not_mem {key : List Char} (h : key ∈ t.scopeKeys) : ')' ∉ key :=
  Reference.not_mem_of_mem_scan (by simp) t.keys?_scope key h

end Template

/-! ## Filling in a template -/

namespace Variables

variable (vars : Variables) (index : Nat)

/-- The first key without a value is reported, whatever the values of those before it. -/
theorem replaceKeys_of_find? {keys : List (List Char)} {key : List Char}
    (h : keys.find? (fun key => (vars.value? key).isNone) = some key) (line : List Char) :
    vars.replaceKeys index keys line =
      .error (.undefinedVariable index (String.ofList key)) := by
  induction keys generalizing line with
  | nil => cases h
  | cons first keys ih =>
    rw [replaceKeys]
    cases hvalue : vars.get? (String.ofList first) with
    | none =>
      rw [List.find?_cons_of_pos (by simp [value?, hvalue])] at h
      cases h
      rfl
    | some value =>
      rw [List.find?_cons_of_neg (by simp [value?, hvalue])] at h
      exact ih h _

/-- The values that count for a template: those of the keys in its scope. -/
def scopeValue? (t : Template) (key : List Char) : Option (List Char) :=
  if key ∈ t.scopeKeys then vars.value? key else none

variable {vars} {t : Template}

theorem replaceKeys_template {keys : List (List Char)}
    (hkeys : ∀ key, key ∈ keys ↔ key ∈ t.scopeKeys)
    (hvalues : ∀ key ∈ t.scopeKeys, ∃ value, vars.get? (String.ofList key) = some value ∧
      '$' ∉ value.toList) :
    vars.replaceKeys index keys t.chars = .ok (t.filled (vars.scopeValue? t)) := by
  have hvalue : ∀ key ∈ keys, ∃ value, vars.value? key = some value ∧ '$' ∉ value := by
    intro key hkey
    obtain ⟨value, hget, hplain⟩ := hvalues key ((hkeys key).mp hkey)
    exact ⟨value.toList, by rw [value?, hget]; rfl, hplain⟩
  have hdeclared : keys.find? (fun key => (vars.value? key).isNone) = none := by
    refine List.find?_eq_none.mpr ?_
    intro key hkey
    obtain ⟨value, hsome, -⟩ := hvalue key hkey
    simp [hsome]
  have hfill := vars.replaceKeys_eq_fill index t.tidy
    (fun key hkey => t.bracket_not_mem ((hkeys key).mp hkey)) (by
      intro key hkey found hfound
      obtain ⟨value, hsome, hplain⟩ := hvalue key hkey
      rw [Option.mem_def, hsome] at hfound
      cases hfound
      exact hplain)
  rw [hfill, hdeclared]
  simp only [hkeys]
  rw [t.fill_chars]
  rfl

/-- **References are replaced all at once.** In a template whose keys in scope all have values
without a dollar sign, each reference to one of these keys is replaced by the value, wherever it
stands, and every other reference stays; to take the keys in another order gives the same. If a key
in scope has no value, the first such key is reported at the index of the line, whatever the other
values are. -/
theorem substitute_fills_template (vars : Variables) (index : Nat) (t : Template) :
    ((∀ key ∈ t.scopeKeys, ∃ value, vars.get? (String.ofList key) = some value ∧
        '$' ∉ value.toList) →
      vars.substitute index t.text = .ok (String.ofList (t.filled (vars.scopeValue? t))) ∧
      ∃ keys, Reference.ofLine index t.chars = .ok keys ∧ ∀ order, order.Perm keys →
        vars.replaceKeys index order t.chars = .ok (t.filled (vars.scopeValue? t))) ∧
    ∀ earlier key later, t.scopeKeys = earlier ++ key :: later →
      (∀ other ∈ earlier, vars.get? (String.ofList other) ≠ none) →
      vars.get? (String.ofList key) = none →
      vars.substitute index t.text = .error (.undefinedVariable index (String.ofList key)) := by
  have hsubstitute : vars.substitute index t.text =
      (vars.replaceKeys index (Text.distinct t.scopeKeys) t.chars).map String.ofList := by
    have hkeys := t.ofLine_chars index
    rw [← String.toList_ofList (l := t.chars)] at hkeys ⊢
    exact vars.substitute_of_keys hkeys
  refine ⟨?_, ?_⟩
  · intro hvalues
    refine ⟨?_, Text.distinct t.scopeKeys, t.ofLine_chars index, ?_⟩
    · rw [hsubstitute, replaceKeys_template index (fun key => Text.mem_distinct) hvalues]
      rfl
    · intro order horder
      exact replaceKeys_template index (fun key => horder.mem_iff.trans Text.mem_distinct) hvalues
  · intro earlier key later hsplit hearlier hmissing
    have hfirst : t.scopeKeys.find? (fun key => (vars.value? key).isNone) = some key := by
      refine List.find?_eq_some_iff_append.mpr
        ⟨by simp [value?, hmissing], earlier, later, hsplit, ?_⟩
      intro other hother
      simpa [value?, Option.isSome_iff_ne_none] using hearlier other hother
    rw [← Text.find?_distinct] at hfirst
    rw [hsubstitute, vars.replaceKeys_of_find? index hfirst]
    rfl

/-- Before the colon a reference whose key is not in scope and one whose key is, and behind it two
references. -/
def acrossColon : Template where
  head := []
  slots := [⟨['a'], [], by decide, by decide, by decide⟩,
    ⟨['x'], [':'], by decide, by decide, by decide⟩,
    ⟨['x'], ['-'], by decide, by decide, by decide⟩, ⟨['y'], [], by decide, by decide, by decide⟩]
  headPlain := by decide

theorem acrossColon_substituted :
    let vars : Variables := ⟨[("x", "(y):"), ("y", "")]⟩
    let partly : Variables := ⟨[("x", "$(y)")]⟩
    acrossColon.text = "$(a)$(x):$(x)-$(y)" ∧ acrossColon.scopeKeys = [['x'], ['y']] ∧
    (∀ key ∈ acrossColon.scopeKeys, ∃ value, vars.get? (String.ofList key) = some value ∧
      '$' ∉ value.toList) ∧
    vars.substitute 5 acrossColon.text = .ok "$(a)(y)::(y):-" ∧
    vars.replaceKeys 5 [['y'], ['x']] acrossColon.chars = .ok "$(a)(y)::(y):-".toList ∧
    partly.get? "x" ≠ none ∧ partly.get? "y" = none ∧
    partly.substitute 5 acrossColon.text = .error (.undefinedVariable 5 "y") := by
  intro vars partly
  have hkeys : acrossColon.scopeKeys = [['x'], ['y']] := by decide
  have hvalues : ∀ key ∈ acrossColon.scopeKeys, ∃ value,
      vars.get? (String.ofList key) = some value ∧ '$' ∉ value.toList := by
    rw [hkeys, List.forall_mem_cons, List.forall_mem_singleton]
    exact ⟨⟨"(y):", by decide, by decide⟩, "", by decide, by decide⟩
  have hfilled : acrossColon.filled (vars.scopeValue? acrossColon) = "$(a)(y)::(y):-".toList := by
    decide
  obtain ⟨hok, keys, hline, horders⟩ := (substitute_fills_template vars 5 acrossColon).1 hvalues
  have hfound : Reference.ofLine 5 acrossColon.chars = .ok [['x'], ['y']] := by decide
  obtain rfl : [['x'], ['y']] = keys := Except.ok.inj (hfound ▸ hline)
  have hknown : partly.get? "x" ≠ none := by decide
  have hmissing : partly.get? "y" = none := by decide
  rw [hfilled] at hok horders
  refine ⟨by decide, hkeys, hvalues, hok, horders _ (.swap ..), hknown, hmissing, ?_⟩
  refine (substitute_fills_template partly 5 acrossColon).2 [['x']] ['y'] [] hkeys ?_ hmissing
  rw [List.forall_mem_singleton]
  exact hknown

end Variables

end MacroScript
