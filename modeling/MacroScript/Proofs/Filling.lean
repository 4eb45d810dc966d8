import MacroScript.Proofs.Canonical

/-! # Replacing references all at once

Variables are substituted key by key, each time in the whole line as it then is, so that a value
with a dollar sign in it can come to be part of a later reference. In a tidy text, where a dollar
sign stands nowhere but at the start of a closed reference, and with values that have none, this
cannot happen: `Reference.fill`, which goes through the text once and never looks at what it has
put in, gives the same text. -/

namespace MacroScript

namespace Reference

/-! ## Filling in -/

/-- Copies the text with each reference replaced by the value of its key, if there is one.
`pending` is the key read so far, in reverse, when the text starts inside a reference. -/
def fillFrom (value : List Char → Option (List Char)) :
    (pending : Option (List Char)) → List Char → List Char
  | none, [] => []
  | some key, [] => opener ++ key.reverse
  | none, '$' :: '(' :: cs => fillFrom value (some []) cs
  | none, c :: cs => c :: fillFrom value none cs
  | some key, c :: cs =>
    if c = ')' then (value key.reverse).getD (text key.reverse) ++ fillFrom value none cs
    else fillFrom value (some (c :: key)) cs

/-- The text with each reference replaced by the value of its key, all at once; a reference whose
key has no value stays. -/
def fill (value : List Char → Option (List Char)) (line : List Char) : List Char :=
  fillFrom value none line

/-- A text in which each dollar sign opens a closed reference, with neither a dollar sign nor a
closing bracket in the key. -/
inductive Tidy : List Char → Prop where
  | nil : Tidy []
  | char {c : Char} {cs : List Char} (plain : c ≠ '$') (rest : Tidy cs) : Tidy (c :: cs)
  | ref {key cs : List Char} (noDollar : '$' ∉ key) (noBracket : ')' ∉ key) (rest : Tidy cs) :
      Tidy (text key ++ cs)

theorem text_append (key cs : List Char) :
    text key ++ cs = '$' :: '(' :: (key ++ ')' :: cs) := by
  simp [text, opener]

theorem opener_initial_text (key cs : List Char) : opener <+: text key ++ cs := by
  rw [text, List.append_assoc, List.append_assoc]
  exact List.prefix_append _ _

theorem not_opener_initial {c : Char} (h : c ≠ '$') (cs : List Char) : ¬ opener <+: c :: cs := by
  intro hopen
  exact h (List.cons_prefix_cons.mp hopen).1.symm

/-! ## Reading and filling, piece by piece -/

theorem scan_some_append {key : List Char} (h : ')' ∉ key) (pending cs : List Char) :
    scan (some pending) (key ++ ')' :: cs) =
      (scan none cs).map ((pending.reverse ++ key) :: ·) := by
  induction key generalizing pending with
  | nil => simp [scan]
  | cons c key ih =>
    simp only [List.mem_cons, not_or] at h
    rw [List.cons_append, scan, if_neg (Ne.symm h.1), ih h.2]
    simp

theorem keys?_char {c : Char} (h : c ≠ '$') (cs : List Char) : keys? (c :: cs) = keys? cs :=
  keys?_cons (not_opener_initial h cs)

theorem keys?_ref {key : List Char} (h : ')' ∉ key) (cs : List Char) :
    keys? (text key ++ cs) = (keys? cs).map (key :: ·) := by
  rw [text_append, keys?, scan, scan_some_append h]
  rfl

theorem fillFrom_some_append (value : List Char → Option (List Char)) {key : List Char}
    (h : ')' ∉ key) (pending cs : List Char) :
    fillFrom value (some pending) (key ++ ')' :: cs) =
      (value (pending.reverse ++ key)).getD (text (pending.reverse ++ key)) ++ fill value cs := by
  induction key generalizing pending with
  | nil => simp [fillFrom, fill]
  | cons c key ih =>
    simp only [List.mem_cons, not_or] at h
    rw [List.cons_append, fillFrom, if_neg (Ne.symm h.1), ih h.2]
    simp

theorem fill_char (value : List Char → Option (List Char)) {c : Char} (h : c ≠ '$')
    (cs : List Char) : fill value (c :: cs) = c :: fill value cs := by
  rw [fill, fillFrom]
  · rfl
  · rintro - rfl
    exact absurd rfl h

theorem fill_ref (value : List Char → Option (List Char)) {key : List Char} (h : ')' ∉ key)
    (cs : List Char) :
    fill value (text key ++ cs) = (value key).getD (text key) ++ fill value cs := by
  rw [text_append, fill, fillFrom, fillFrom_some_append value h]
  rfl

theorem fill_plain (value : List Char → Option (List Char)) {plain : List Char} (h : '$' ∉ plain)
    (cs : List Char) : fill value (plain ++ cs) = plain ++ fill value cs := by
  induction plain with
  | nil => rfl
  | cons c plain ih =>
    simp only [List.mem_cons, not_or] at h
    rw [List.cons_append, fill_char value (Ne.symm h.1), ih h.2, List.cons_append]

theorem keys?_plain {plain : List Char} (h : '$' ∉ plain) (cs : List Char) :
    keys? (plain ++ cs) = keys? cs := by
  induction plain with
  | nil => rfl
  | cons c plain ih =>
    simp only [List.mem_cons, not_or] at h
    rw [List.cons_append, keys?_char (Ne.symm h.1), ih h.2]

theorem fillFrom_nothing (pending : Option (List Char)) (cs : List Char) :
    fillFrom (fun _ => none) pending cs = (pending.elim [] (opener ++ ·.reverse)) ++ cs := by
  fun_induction fillFrom (fun _ => none) pending cs with
  | case1 => rfl
  | case2 key => simp
  | case3 cs ih => simp [ih, opener]
  | case4 c cs _ ih => simp [ih]
  | case5 key cs ih => simp [ih, text]
  | case6 key c cs _ ih => simp [ih]

theorem fill_nothing (line : List Char) : fill (fun _ => none) line = line :=
  fillFrom_nothing none line

end Reference

/-! ## Replacing one reference -/

namespace Text

theorem replaceSkipping_append (pattern replacement skipped cs : List Char) :
    replaceSkipping pattern replacement skipped.length (skipped ++ cs) =
      replaceAll pattern replacement cs := by
  induction skipped with
  | nil => rfl
  | cons c skipped ih => rw [List.cons_append, List.length_cons, replaceSkipping, ih]

end Text

namespace Reference

theorem replaceAll_cons {c : Char} {cs : List Char} (h : ¬ opener <+: c :: cs)
    (key value : List Char) :
    Text.replaceAll (text key) value (c :: cs) = c :: Text.replaceAll (text key) value cs := by
  have hother : ¬ (text key).isPrefixOf (c :: cs) = true := by
    intro hkey
    obtain ⟨rest, hrest⟩ := List.isPrefixOf_iff_prefix.mp hkey
    exact h (hrest ▸ opener_initial_text key rest)
  rw [Text.replaceAll, Text.replaceSkipping, if_neg hother]
  rfl

theorem replaceAll_char (key value : List Char) {c : Char} (h : c ≠ '$') (cs : List Char) :
    Text.replaceAll (text key) value (c :: cs) = c :: Text.replaceAll (text key) value cs :=
  replaceAll_cons (not_opener_initial h cs) key value

theorem replaceAll_plain (key value : List Char) {plain : List Char} (h : '$' ∉ plain)
    (cs : List Char) :
    Text.replaceAll (text key) value (plain ++ cs) =
      plain ++ Text.replaceAll (text key) value cs := by
  induction plain with
  | nil => rfl
  | cons c plain ih =>
    simp only [List.mem_cons, not_or] at h
    rw [List.cons_append, replaceAll_char key value (Ne.symm h.1), ih h.2, List.cons_append]

/-- Of two references one begins with the other only if their keys are the same. -/
theorem key_eq_of_text_initial {key other cs : List Char} (hkey : ')' ∉ key) (hother : ')' ∉ other)
    (h : text key <+: text other ++ cs) : key = other := by
  obtain ⟨rest, hrest⟩ := h
  rw [text_append, text_append] at hrest
  have hsame : key ++ ')' :: rest = other ++ ')' :: cs := (List.cons.inj (List.cons.inj hrest).2).2
  have hcut : Text.cut? ')' (key ++ ')' :: rest) = some (key, rest) :=
    Text.cut?_eq_some_iff.mpr ⟨rfl, hkey⟩
  rw [hsame, Text.cut?_eq_some_iff.mpr ⟨rfl, hother⟩] at hcut
  cases hcut
  rfl

theorem replaceAll_ref {key other : List Char} (value : List Char) (hkey : ')' ∉ key)
    (hdollar : '$' ∉ other) (hother : ')' ∉ other) (cs : List Char) :
    Text.replaceAll (text key) value (text other ++ cs) =
      (if other = key then value else text other) ++ Text.replaceAll (text key) value cs := by
  -- the dollar sign of the reference, and what of it is then skipped or copied
  let tail := '(' :: (other ++ [')'])
  have htext : text other = '$' :: tail := by simp [text, opener, tail]
  have htail : '$' ∉ tail := by simpa [tail] using hdollar
  rw [Text.replaceAll, htext, List.cons_append, Text.replaceSkipping, ← List.cons_append, ← htext]
  by_cases hsame : other = key
  · have hhere : (text key).isPrefixOf (text other ++ cs) = true := by
      rw [hsame, List.isPrefixOf_iff_prefix]
      exact List.prefix_append _ _
    have hlength : (text key).length - 1 = tail.length := by
      rw [← hsame, htext, List.length_cons, Nat.add_sub_cancel]
    rw [if_pos hhere, if_pos hsame, hlength, Text.replaceSkipping_append]
  · have hnot : ¬ (text key).isPrefixOf (text other ++ cs) = true := by
      rw [List.isPrefixOf_iff_prefix]
      exact fun h => hsame (key_eq_of_text_initial hkey hother h).symm
    rw [if_neg hnot, if_neg hsame, htext, List.cons_append]
    exact congrArg ('$' :: ·) (replaceAll_plain key value htail cs)

namespace Tidy

variable {line : List Char}

theorem plain_append {plain cs : List Char} (h : '$' ∉ plain) (rest : Tidy cs) :
    Tidy (plain ++ cs) := by
  induction plain with
  | nil => exact rest
  | cons c plain ih =>
    simp only [List.mem_cons, not_or] at h
    exact .char (Ne.symm h.1) (ih h.2)

theorem replaceAll (h : Tidy line) {key value : List Char} (hkey : ')' ∉ key)
    (hvalue : '$' ∉ value) : Tidy (Text.replaceAll (text key) value line) := by
  induction h with
  | nil => exact .nil
  | char plain rest ih =>
    rw [replaceAll_char key value plain]
    exact .char plain ih
  | ref noDollar noBracket rest ih =>
    rw [replaceAll_ref value hkey noDollar noBracket]
    split
    · exact ih.plain_append hvalue
    · exact .ref noDollar noBracket ih

/-- To replace one key and then fill in the others is to fill in all of them. -/
theorem fill_replaceAll (h : Tidy line) {key value : List Char} (hkey : ')' ∉ key)
    (hvalue : '$' ∉ value) (others : List Char → Option (List Char)) :
    fill others (Text.replaceAll (text key) value line) =
      fill (fun other => if other = key then some value else others other) line := by
  induction h with
  | nil => rfl
  | char plain rest ih =>
    rw [replaceAll_char key value plain, fill_char _ plain, fill_char _ plain, ih]
  | @ref other cs noDollar noBracket rest ih =>
    rw [replaceAll_ref value hkey noDollar noBracket, fill_ref _ noBracket, ← ih]
    by_cases hsame : other = key
    · rw [if_pos hsame, if_pos hsame, fill_plain others hvalue]
      rfl
    · rw [if_neg hsame, if_neg hsame, fill_ref others noBracket]

theorem exists_keys (h : Tidy line) : ∃ keys, keys? line = some keys := by
  induction h with
  | nil => exact ⟨[], rfl⟩
  | char plain rest ih =>
    obtain ⟨keys, hkeys⟩ := ih
    exact ⟨keys, by rw [keys?_char plain, hkeys]⟩
  | ref noDollar noBracket rest ih =>
    obtain ⟨keys, hkeys⟩ := ih
    exact ⟨_ :: keys, by rw [keys?_ref noBracket, hkeys]; rfl⟩

/-- Only the values of the keys that occur make a difference. -/
theorem fill_congr (h : Tidy line) {value value' : List Char → Option (List Char)}
    {keys : List (List Char)} (hkeys : keys? line = some keys)
    (hsame : ∀ key ∈ keys, value key = value' key) : fill value line = fill value' line := by
  induction h generalizing keys with
  | nil => rfl
  | char plain rest ih =>
    rw [keys?_char plain] at hkeys
    rw [fill_char _ plain, fill_char _ plain, ih hkeys hsame]
  | ref noDollar noBracket rest ih =>
    rw [keys?_ref noBracket, Option.map_eq_some_iff] at hkeys
    obtain ⟨later, hlater, rfl⟩ := hkeys
    rw [fill_ref _ noBracket, fill_ref _ noBracket, hsame _ List.mem_cons_self,
      ih hlater fun key hkey => hsame key (List.mem_cons_of_mem _ hkey)]

/-- With values for all its keys, a tidy text has no dollar sign left when none is put in. -/
theorem not_mem_fill (h : Tidy line) {value : List Char → Option (List Char)}
    {keys : List (List Char)} (hkeys : keys? line = some keys)
    (hvalue : ∀ key ∈ keys, ∃ inserted, value key = some inserted ∧ '$' ∉ inserted) :
    '$' ∉ fill value line := by
  induction h generalizing keys with
  | nil => exact List.not_mem_nil
  | char plain rest ih =>
    rw [keys?_char plain] at hkeys
    rw [fill_char _ plain, List.mem_cons, not_or]
    exact ⟨Ne.symm plain, ih hkeys hvalue⟩
  | ref noDollar noBracket rest ih =>
    rw [keys?_ref noBracket, Option.map_eq_some_iff] at hkeys
    obtain ⟨later, hlater, rfl⟩ := hkeys
    obtain ⟨inserted, hinserted, hclean⟩ := hvalue _ List.mem_cons_self
    rw [fill_ref _ noBracket, hinserted, Option.getD_some, List.mem_append, not_or]
    exact ⟨hclean, ih hlater fun key hkey => hvalue key (List.mem_cons_of_mem _ hkey)⟩

end Tidy

/-- A key ends at the first closing bracket. -/
theorem not_mem_of_mem_scan {pending : Option (List Char)} {cs : List Char}
    {keys : List (List Char)} (hpending : ∀ key ∈ pending, ')' ∉ key)
    (h : scan pending cs = some keys) : ∀ key ∈ keys, ')' ∉ key := by
  fun_induction scan pending cs generalizing keys with
  | case1 =>
    cases h
    simp
  | case2 key => cases h
  | case3 cs ih => exact ih (by simp) h
  | case4 c cs _ ih => exact ih hpending h
  | case5 key cs ih =>
    obtain ⟨later, hlater, rfl⟩ := Option.map_eq_some_iff.mp h
    intro found hfound
    rcases List.mem_cons.mp hfound with rfl | hfound
    · simpa using hpending key rfl
    · exact ih (by simp) hlater found hfound
  | case6 key c cs hc ih =>
    refine ih (fun longer hlonger => ?_) h
    cases hlonger
    simpa [Ne.symm hc] using hpending key rfl

end Reference

/-! ## Replacing all keys, one after the other -/

namespace Text

variable {α : Type} [DecidableEq α]

theorem mem_distinct {x : α} {xs : List α} : x ∈ distinct xs ↔ x ∈ xs := by
  induction xs with
  | nil => rfl
  | cons y ys ih =>
    simp only [distinct, List.mem_cons, List.mem_filter, ih, decide_eq_true_eq]
    by_cases hy : x = y <;> simp [hy]

/-- The first element of a kind is the first one of them that is kept. -/
theorem find?_distinct (p : α → Bool) (xs : List α) : (distinct xs).find? p = xs.find? p := by
  induction xs with
  | nil => rfl
  | cons y ys ih =>
    rw [distinct, List.find?_cons, List.find?_cons, ← ih]
    cases hy : p y with
    | true => rfl
    | false =>
      dsimp only
      rw [List.find?_filter]
      congr 1
      funext x
      by_cases hx : x = y <;> simp [hx, hy]

end Text

namespace Variables

/-- The value under a key, both as they stand in a line. -/
def value? (vars : Variables) (key : List Char) : Option (List Char) :=
  (vars.get? (String.ofList key)).map String.toList

/-- Replacing keys in turn stops at the first one without a value. If there is none, all of them
have been replaced as if at once. -/
theorem replaceKeys_eq_fill (vars : Variables) (index : Nat) {keys : List (List Char)}
    {line : List Char} (h : Reference.Tidy line) (hkeys : ∀ key ∈ keys, ')' ∉ key)
    (hvalues : ∀ key ∈ keys, ∀ value ∈ vars.value? key, '$' ∉ value) :
    vars.replaceKeys index keys line =
      match keys.find? fun key => (vars.value? key).isNone with
      | some key => .error (.undefinedVariable index (String.ofList key))
      | none => .ok (Reference.fill (fun key => if key ∈ keys then vars.value? key else none)
          line) := by
  induction keys generalizing line with
  | nil => simp [replaceKeys, Reference.fill_nothing]
  | cons key keys ih =>
    cases hvalue : vars.get? (String.ofList key) with
    | none => simp [replaceKeys, value?, hvalue]
    | some value =>
      have hhere : vars.value? key = some value.toList := by rw [value?, hvalue]; rfl
      have hbracket := hkeys key List.mem_cons_self
      have hclean := hvalues key List.mem_cons_self value.toList hhere
      rw [replaceKeys, hvalue]
      dsimp only
      rw [ih (h.replaceAll hbracket hclean) (fun k hk => hkeys k (List.mem_cons_of_mem _ hk))
        fun k hk => hvalues k (List.mem_cons_of_mem _ hk)]
      rw [List.find?_cons, hhere]
      dsimp only [Option.isNone_some]
      cases hmissing : keys.find? fun key => (vars.value? key).isNone with
      | some missing => rfl
      | none =>
        dsimp only
        rw [h.fill_replaceAll hbracket hclean]
        congr 3
        funext other
        by_cases hother : other = key
        · subst hother
          simp [hhere]
        · simp [hother]

end Variables

end MacroScript
