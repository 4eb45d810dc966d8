import MacroScript.Directive
import MacroScript.Variables

/-! # How plain lines are read

The printed form of a label and of a counted jump reads back as that directive, and a line without
the opening of a reference goes through substitution as it is; of any other line, substitution is
what replacing its keys makes of it. What these need to know about cutting, trimming and numerals
is proved first. -/

namespace MacroScript.Text

/-! ## Trimming -/

theorem dropWhile_eq_self_iff {p : Char → Bool} {cs : List Char} :
    cs.dropWhile p = cs ↔ ∀ c ∈ cs.head?, p c = false := by
  cases cs with
  | nil => simp
  | cons c rest =>
    simp only [List.dropWhile_cons, List.head?_cons, Option.mem_some_iff, forall_eq']
    constructor
    · intro h
      by_cases hc : p c = true
      · rw [if_pos hc] at h
        have hlong := (List.dropWhile_suffix p (l := rest)).length_le
        rw [h, List.length_cons] at hlong
        omega
      · simpa using hc
    · intro hc
      simp [hc]

theorem dropEndWhile_eq_self_iff {p : Char → Bool} {cs : List Char} :
    dropEndWhile p cs = cs ↔ ∀ c ∈ cs.getLast?, p c = false := by
  rw [← List.head?_reverse, ← dropWhile_eq_self_iff, dropEndWhile]
  exact List.reverse_eq_iff

theorem length_dropEndWhile_le (p : Char → Bool) (cs : List Char) :
    (dropEndWhile p cs).length ≤ cs.length := by
  simpa [dropEndWhile] using (List.dropWhile_suffix p (l := cs.reverse)).length_le

theorem getLast?_append_cons {rest : List Char} (h : rest ≠ []) (start : List Char) (c : Char) :
    (start ++ c :: rest).getLast? = rest.getLast? := by
  rw [List.getLast?_append, List.getLast?_cons_of_ne_nil h, Option.or_of_isSome (by simpa using h)]

/-- A text is its own trim exactly when it has no blank at either end. -/
theorem trimChars_eq_self_iff {cs : List Char} :
    trimChars cs = cs ↔
      (∀ c ∈ cs.head?, isBlank c = false) ∧ ∀ c ∈ cs.getLast?, isBlank c = false := by
  rw [← dropWhile_eq_self_iff, ← dropEndWhile_eq_self_iff]
  constructor
  · intro h
    -- trimming only shortens, so neither of its two halves can have taken anything away
    have hstart : trimStart cs = cs := by
      refine (List.dropWhile_suffix isBlank).eq_of_length_le ?_
      calc cs.length = (trimChars cs).length := by rw [h]
        _ ≤ (trimStart cs).length := length_dropEndWhile_le ..
    refine ⟨hstart, ?_⟩
    rwa [trimChars, hstart] at h
  · rintro ⟨hstart, hend⟩
    rw [trimChars, trimStart, hstart, trimEnd, hend]

/-! ## Fields -/

theorem fields_of_not_mem {sep : Char} {cs : List Char} (h : sep ∉ cs) :
    fields sep cs = [cs] := by
  induction cs with
  | nil => rfl
  | cons c rest ih =>
    simp only [List.mem_cons, not_or] at h
    simp [fields, Ne.symm h.1, ih h.2]

theorem fields_append_cons {sep : Char} {cs : List Char} (h : sep ∉ cs) (rest : List Char) :
    fields sep (cs ++ sep :: rest) = cs :: fields sep rest := by
  induction cs with
  | nil => simp [fields]
  | cons c cs ih =>
    simp only [List.mem_cons, not_or] at h
    simp [fields, Ne.symm h.1, ih h.2]

theorem cut?_eq_some_iff {sep : Char} {cs before after : List Char} :
    cut? sep cs = some (before, after) ↔ cs = before ++ sep :: after ∧ sep ∉ before := by
  induction cs generalizing before with
  | nil => simp [cut?]
  | cons c cs ih =>
    unfold cut?
    by_cases hc : c = sep
    · rw [if_pos hc, hc]
      constructor
      · intro h
        cases h
        exact ⟨rfl, List.not_mem_nil⟩
      · rintro ⟨h, hsep⟩
        cases before with
        | nil => rw [(List.cons.inj h).2]
        | cons d before =>
          obtain ⟨rfl, -⟩ := List.cons.inj h
          exact absurd List.mem_cons_self hsep
    · rw [if_neg hc, Option.map_eq_some_iff]
      constructor
      · rintro ⟨⟨start, rest⟩, hcut, heq⟩
        cases heq
        obtain ⟨rfl, hsep⟩ := ih.mp hcut
        exact ⟨rfl, by simpa [Ne.symm hc] using hsep⟩
      · rintro ⟨h, hsep⟩
        cases before with
        | nil => exact absurd (List.cons.inj h).1 hc
        | cons d before =>
          obtain ⟨rfl, hrest⟩ := List.cons.inj h
          exact ⟨(before, after), ih.mpr ⟨hrest, fun hmem => hsep (List.mem_cons_of_mem c hmem)⟩,
            rfl⟩

theorem occurs_iff_infix {pattern text : List Char} :
    occurs pattern text = true ↔ pattern <:+: text := by
  induction text with
  | nil => simp [occurs]
  | cons c cs ih =>
    rw [occurs, Bool.or_eq_true, List.isPrefixOf_iff_prefix, ih, List.infix_cons_iff]

/-! ## Numerals -/

theorem digit?_of_isDigit {c : Char} (h : c.isDigit = true) :
    digit? c = some (c.toNat - '0'.toNat) := by
  have hc : '0' ≤ c ∧ c ≤ '9' := by
    simpa [Char.isDigit, Char.le_def] using h
  simp [digit?, hc]

theorem digitsFrom?_of_isDigit {cs : List Char} (h : ∀ c ∈ cs, c.isDigit = true) (acc : Nat) :
    digitsFrom? acc cs = some (Nat.ofDigitChars 10 cs acc) := by
  induction cs generalizing acc with
  | nil => simp [digitsFrom?]
  | cons c cs ih =>
    have hrest : ∀ d ∈ cs, d.isDigit = true := fun d hd => h d (List.mem_cons_of_mem c hd)
    simp only [digitsFrom?, digit?_of_isDigit (h c List.mem_cons_self), ih hrest,
      Nat.ofDigitChars_cons, Nat.mul_comm acc]

theorem isDigit_of_mem_decimal {n : Nat} {c : Char} (h : c ∈ (decimal n).toList) :
    c.isDigit = true := by
  rw [decimal, String.toList_ofList] at h
  exact Nat.isDigit_of_mem_toDigits (by decide) (by decide) h

theorem isBlank_of_isDigit {c : Char} (h : c.isDigit = true) : isBlank c = false := by
  have hrange : 48 ≤ c.toNat ∧ c.toNat ≤ 57 := by
    simpa [Char.isDigit, UInt32.le_iff_toNat_le] using h
  have hn : ∀ n, ¬ (48 ≤ n ∧ n ≤ 57) → (c.toNat == n) = false := by
    intro n hout
    rw [beq_eq_false_iff_ne]
    rintro rfl
    exact hout hrange
  have hlow : ¬ c.toNat ≤ 13 := by omega
  have hhigh : ¬ 0x2000 ≤ c.toNat := by omega
  simp [isBlank, hn, hlow, hhigh]

theorem decimal_ne_nil (n : Nat) : (decimal n).toList ≠ [] := by
  rw [decimal, String.toList_ofList]
  exact Nat.toDigits_ne_nil

/-- The digits that are written read back as the number. -/
theorem digits?_decimal (n : Nat) : digits? (decimal n).toList = some n := by
  rw [digits?, if_neg (by simpa using decimal_ne_nil n),
    digitsFrom?_of_isDigit fun c hc => isDigit_of_mem_decimal hc, decimal, String.toList_ofList,
    Nat.ofDigitChars_ten_toDigits]

theorem numeral?_decimal {bound n : Nat} (h : n < bound) :
    numeral? bound (decimal n).toList = some n := by
  -- a numeral that is written has no sign to be taken off
  have hsign : ∀ rest, (decimal n).toList ≠ '+' :: rest := by
    intro rest hplus
    have := isDigit_of_mem_decimal (hplus ▸ List.mem_cons_self)
    simp [Char.isDigit] at this
  unfold numeral?
  split
  · rename_i rest hplus
    exact absurd hplus (hsign rest)
  · simp [digits?_decimal, h]

end MacroScript.Text

namespace MacroScript

/-! ## Names of labels -/

/-- A text that can name a label: it is not empty, has no blank at either end, and holds neither a
colon nor a comma. -/
structure IsLabelName (name : String) : Prop where
  nonempty : name.toList ≠ []
  trimmed : Text.trim name = name
  noColon : ':' ∉ name.toList
  noComma : ',' ∉ name.toList

instance (name : String) : Decidable (IsLabelName name) :=
  decidable_of_iff (name.toList ≠ [] ∧ Text.trim name = name ∧ ':' ∉ name.toList ∧
      ',' ∉ name.toList)
    ⟨fun ⟨hne, htrim, hcolon, hcomma⟩ => ⟨hne, htrim, hcolon, hcomma⟩,
      fun ⟨hne, htrim, hcolon, hcomma⟩ => ⟨hne, htrim, hcolon, hcomma⟩⟩

theorem IsLabelName.trimChars {name : String} (h : IsLabelName name) :
    Text.trimChars name.toList = name.toList := by
  rw [← Text.toList_trim, h.trimmed]

/-- The first and the last character of a name are not blank. -/
theorem IsLabelName.ends {name : String} (h : IsLabelName name) :
    (∀ c ∈ name.toList.head?, Text.isBlank c = false) ∧
      ∀ c ∈ name.toList.getLast?, Text.isBlank c = false :=
  Text.trimChars_eq_self_iff.mp h.trimChars

namespace Directive

/-- The index of a line makes no difference to what is read, only to what an error names. -/
theorem readAt_eq_ok_iff {index : Nat} {line : String} {directive : Directive} :
    readAt index line = .ok directive ↔ read line = .ok directive := by
  unfold readAt
  cases read line with
  | error fault => exact ⟨fun h => (by cases h), fun h => (by cases h)⟩
  | ok found => exact ⟨fun h => (by cases h; rfl), fun h => (by cases h; rfl)⟩

theorem readAt_eq_error {index : Nat} {line : String} {error : RunError}
    (h : readAt index line = .error error) : ∃ fault, error = .malformed index fault := by
  unfold readAt at h
  cases hread : read line with
  | error fault =>
    rw [hread] at h
    cases h
    exact ⟨fault, rfl⟩
  | ok directive =>
    rw [hread] at h
    cases h

/-! ## Printed labels and jumps -/

theorem toList_print_label (name : String) :
    (print (.label name)).toList = Keyword.label.word ++ ':' :: name.toList := by
  simp [print, Keyword.word]

theorem toList_print_jump (name : String) (count : UInt32) :
    (print (.jump name (some count))).toList =
      Keyword.jump.word ++ ':' :: (name.toList ++ ',' :: (Text.decimal count.toNat).toList) := by
  simp [print, Keyword.word]

/-- The argument of a line with one colon, which does not stand at the end. -/
theorem argument_append {word rest : List Char} (hw : ':' ∉ word) (hr : ':' ∉ rest)
    (hne : rest ≠ []) : argument (word ++ ':' :: rest) = .ok (Text.trimChars rest) := by
  have hkeep : Text.dropEndWhile (· = ':') (word ++ ':' :: rest) = word ++ ':' :: rest := by
    refine Text.dropEndWhile_eq_self_iff.mpr fun c hc => ?_
    rw [Text.getLast?_append_cons hne] at hc
    rw [decide_eq_false_iff_not]
    rintro rfl
    exact hr (List.mem_of_getLast? hc)
  rw [argument, hkeep, Text.fields_append_cons hw, Text.fields_of_not_mem hr]

/-- A line that opens with a keyword and a colon and does not end in a blank starts with it. -/
theorem ofLine?_word (keyword : Keyword) {rest : List Char} (hne : rest ≠ [])
    (hlast : ∀ c ∈ rest.getLast?, Text.isBlank c = false) :
    Keyword.ofLine? (keyword.word ++ ':' :: rest) = some keyword := by
  have htrim : Text.trimChars (keyword.word ++ ':' :: rest) = keyword.word ++ ':' :: rest := by
    refine Text.trimChars_eq_self_iff.mpr ⟨?_, by rwa [Text.getLast?_append_cons hne]⟩
    cases keyword <;> simp [Keyword.word] <;> decide
  unfold Keyword.ofLine?
  rw [htrim]
  cases keyword <;> simp [Text.startsWithWord, Keyword.word, List.find?]

theorem read_print_label {name : String} (h : IsLabelName name) :
    read (print (.label name)) = .ok (.label name) := by
  have hkey : Keyword.ofLine? (print (.label name)).toList = some .label := by
    rw [toList_print_label, ofLine?_word .label h.nonempty h.ends.2]
  have harg : argument (print (.label name)).toList = .ok name.toList := by
    rw [toList_print_label, argument_append (by decide) h.noColon h.nonempty, h.trimChars]
  simp [read, hkey, readLabel, harg, bind, Except.bind, h.noComma, h.nonempty]

theorem readCount_decimal {count : UInt32} (h : count ≠ 0) :
    readCount (Text.decimal count.toNat).toList = .ok count := by
  have hread : Text.numeral? UInt32.size (Text.decimal count.toNat).toList = some count.toNat :=
    Text.numeral?_decimal count.toNat_lt
  obtain ⟨n, hn⟩ : ∃ n, count.toNat = n + 1 :=
    Nat.exists_eq_succ_of_ne_zero fun hz => h (UInt32.toNat_inj.mp hz)
  rw [readCount, hread, hn]
  simp [← hn]

theorem read_print_jump {name : String} (h : IsLabelName name) {count : UInt32}
    (hc : count ≠ 0) :
    read (print (.jump name (some count))) = .ok (.jump name (some count)) := by
  -- what follows the keyword is the name, a comma and digits, so it ends in no blank
  let digits := (Text.decimal count.toNat).toList
  have hdigit : ∀ c ∈ digits, c.isDigit = true := fun c => Text.isDigit_of_mem_decimal
  have hblank : ∀ c ∈ digits, Text.isBlank c = false :=
    fun c hmem => Text.isBlank_of_isDigit (hdigit c hmem)
  have hline : (print (.jump name (some count))).toList =
      Keyword.jump.word ++ ':' :: (name.toList ++ ',' :: digits) := toList_print_jump name count
  have hne : name.toList ++ ',' :: digits ≠ [] := by simp
  have hlast : ∀ c ∈ (name.toList ++ ',' :: digits).getLast?, Text.isBlank c = false := by
    rw [Text.getLast?_append_cons (Text.decimal_ne_nil _)]
    exact fun c hmem => hblank c (List.mem_of_getLast? hmem)
  have hkey : Keyword.ofLine? (print (.jump name (some count))).toList = some .jump := by
    rw [hline, ofLine?_word .jump hne hlast]
  have hcolon : ':' ∉ name.toList ++ ',' :: digits := by
    have : ':' ∉ digits := fun hmem => absurd (hdigit _ hmem) (by decide)
    simp [h.noColon, this]
  have hself : Text.trimChars (name.toList ++ ',' :: digits) = name.toList ++ ',' :: digits := by
    refine Text.trimChars_eq_self_iff.mpr ⟨?_, hlast⟩
    rw [List.head?_append, Option.or_of_isSome (by simpa using h.nonempty)]
    exact h.ends.1
  have harg : argument (print (.jump name (some count))).toList =
      .ok (name.toList ++ ',' :: digits) := by
    rw [hline, argument_append (by decide) hcolon hne, hself]
  have hparts : Text.fields ',' (name.toList ++ ',' :: digits) = [name.toList, digits] := by
    rw [Text.fields_append_cons h.noComma, Text.fields_of_not_mem]
    exact fun hmem => absurd (hdigit _ hmem) (by decide)
  have hcount : Text.trimChars digits = digits :=
    Text.trimChars_eq_self_iff.mpr ⟨fun c hmem => hblank c (List.mem_of_head? hmem),
      fun c hmem => hblank c (List.mem_of_getLast? hmem)⟩
  simp [read, hkey, readJump, harg, hparts, bind, Except.bind, h.trimChars, h.nonempty, hcount,
    digits, readCount_decimal hc]

end Directive

/-! ## Lines without references -/

namespace Reference

theorem present_cons (c : Char) (cs : List Char) :
    present (c :: cs) = (('$' == c && cs.head? == some '(') || present cs) := by
  cases cs with
  | nil => simp [present, Text.occurs, opener, List.isPrefixOf]
  | cons d cs =>
    simp [present, Text.occurs, opener, List.isPrefixOf, Bool.beq_comm (a := '(')]

theorem present_of_not_mem {cs : List Char} (h : '$' ∉ cs) : present cs = false := by
  induction cs with
  | nil => rfl
  | cons c cs ih =>
    simp only [List.mem_cons, not_or] at h
    simp [present_cons, ih h.2, h.1]

/-- A character that is no part of an opening keeps what stands on its two sides apart. -/
theorem present_append_cons {c : Char} (hd : '$' ≠ c) (hb : '(' ≠ c) (cs rest : List Char) :
    present (cs ++ c :: rest) = (present cs || present rest) := by
  induction cs with
  | nil => simp [present_cons, hd, show present [] = false from rfl]
  | cons d cs ih =>
    rw [List.cons_append, present_cons, ih, present_cons, Bool.or_assoc]
    cases cs <;> simp [Ne.symm hb]

end Reference

theorem Directive.present_print_label {name : String}
    (h : Reference.present name.toList = false) :
    Reference.present (print (.label name)).toList = false := by
  rw [toList_print_label, Reference.present_append_cons (by decide) (by decide), h]
  rfl

theorem Directive.present_print_jump {name : String} (h : Reference.present name.toList = false)
    (count : UInt32) : Reference.present (print (.jump name (some count))).toList = false := by
  have hdigits : Reference.present (Text.decimal count.toNat).toList = false :=
    Reference.present_of_not_mem fun hmem => absurd (Text.isDigit_of_mem_decimal hmem) (by decide)
  rw [toList_print_jump, Reference.present_append_cons (by decide) (by decide),
    Reference.present_append_cons (by decide) (by decide), h, hdigits]
  rfl

/-! ## Substitution by way of the keys -/

namespace Reference

theorem present_iff {line : List Char} : present line = true ↔ opener <:+: line :=
  Text.occurs_iff_infix

theorem keys?_cons {c : Char} {cs : List Char} (h : ¬ opener <+: c :: cs) :
    keys? (c :: cs) = keys? cs := by
  rw [keys?, scan]
  · rfl
  · intro rest hc hcs
    rw [hc, hcs] at h
    exact h (List.prefix_append opener rest)

theorem keys?_of_not_infix {cs : List Char} (h : ¬ opener <:+: cs) : keys? cs = some [] := by
  induction cs with
  | nil => rfl
  | cons c cs ih =>
    rw [List.infix_cons_iff, not_or] at h
    rw [keys?_cons h.1, ih h.2]

theorem scope_suffix (line : List Char) : scope line <:+ line := by
  unfold scope
  split
  · rename_i before rest hcut
    obtain ⟨rfl, -⟩ := Text.cut?_eq_some_iff.mp hcut
    exact ⟨before ++ [':'], by simp⟩
  · exact List.suffix_rfl

theorem ofLine_of_not_present (index : Nat) {line : List Char} (h : present line = false) :
    ofLine index line = .ok [] := by
  have hscope : ¬ opener <:+: scope line := by
    intro hopen
    rw [present_iff.mpr (hopen.trans (scope_suffix line).isInfix)] at h
    cases h
  rw [ofLine, keys?_of_not_infix hscope]
  rfl

end Reference

namespace Variables

variable (vars : Variables)

theorem substitute_of_not_present (index : Nat) {line : String}
    (h : Reference.present line.toList = false) : vars.substitute index line = .ok line := by
  simp [substitute, h]

variable {index : Nat} {line : String}

/-- That a line without an opening is passed on at once makes no difference: it has no keys. -/
theorem substitute_of_keys {keys : List (List Char)}
    (h : Reference.ofLine index line.toList = .ok keys) :
    vars.substitute index line =
      (vars.replaceKeys index keys line.toList).map String.ofList := by
  cases hpresent : Reference.present line.toList with
  | true =>
    rw [substitute, if_pos hpresent, h]
    simp only [bind, Except.bind]
    cases vars.replaceKeys index keys line.toList <;> rfl
  | false =>
    rw [Reference.ofLine_of_not_present index hpresent] at h
    cases h
    rw [substitute_of_not_present vars index hpresent, replaceKeys, Except.map,
      String.ofList_toList]

theorem substitute_of_unread {error : RunError}
    (h : Reference.ofLine index line.toList = .error error) :
    vars.substitute index line = .error error := by
  cases hpresent : Reference.present line.toList with
  | true =>
    rw [substitute, if_pos hpresent, h]
    rfl
  | false =>
    rw [Reference.ofLine_of_not_present index hpresent] at h
    cases h

variable {vars}

theorem substitute_eq_ok {text : String} (h : vars.substitute index line = .ok text) :
    ∃ keys, Reference.ofLine index line.toList = .ok keys ∧
      vars.replaceKeys index keys line.toList = .ok text.toList := by
  cases hkeys : Reference.ofLine index line.toList with
  | error error =>
    rw [substitute_of_unread vars hkeys] at h
    cases h
  | ok keys =>
    refine ⟨keys, rfl, ?_⟩
    rw [substitute_of_keys vars hkeys] at h
    cases hreplaced : vars.replaceKeys index keys line.toList with
    | error error =>
      rw [hreplaced] at h
      cases h
    | ok replaced =>
      rw [hreplaced] at h
      cases h
      rw [String.toList_ofList]

end Variables

end MacroScript
