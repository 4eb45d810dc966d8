import MacroScript.Proofs.Canonical

/-! # The grammar of lines

Which keyword a line begins with is decided on the trimmed line, but its parts are taken from the
line as it is: colons at the end go first, then the line is divided, and only the parts are trimmed.
The forms below say by concatenation alone what the parts are. For each of them the reader accepts
exactly the lines of that form, and all it does with any other line is to report a fault. -/

namespace MacroScript

namespace Text

/-! ## Dividing a text -/

theorem cut?_eq_none_iff {sep : Char} {cs : List Char} : cut? sep cs = none ↔ sep ∉ cs := by
  induction cs with
  | nil => simp [cut?]
  | cons c cs ih =>
    unfold cut?
    by_cases hc : c = sep
    · simp [hc]
    · simp [hc, Ne.symm hc, ih]

theorem fields_ne_nil (sep : Char) (cs : List Char) : fields sep cs ≠ [] := by
  cases hcut : cut? sep cs with
  | none => simp [fields_of_not_mem (cut?_eq_none_iff.mp hcut)]
  | some pair =>
    obtain ⟨rfl, hsep⟩ := cut?_eq_some_iff.mp hcut
    simp [fields_append_cons hsep]

theorem fields_eq_singleton_iff {sep : Char} {cs field : List Char} :
    fields sep cs = [field] ↔ cs = field ∧ sep ∉ cs := by
  constructor
  · intro h
    cases hcut : cut? sep cs with
    | none =>
      have hsep := cut?_eq_none_iff.mp hcut
      rw [fields_of_not_mem hsep, List.cons.injEq] at h
      exact ⟨h.1, hsep⟩
    | some pair =>
      obtain ⟨rfl, hsep⟩ := cut?_eq_some_iff.mp hcut
      rw [fields_append_cons hsep, List.cons.injEq] at h
      exact absurd h.2 (fields_ne_nil sep pair.2)
  · rintro ⟨rfl, hsep⟩
    exact fields_of_not_mem hsep

theorem fields_eq_pair_iff {sep : Char} {cs first second : List Char} :
    fields sep cs = [first, second] ↔
      cs = first ++ sep :: second ∧ sep ∉ first ∧ sep ∉ second := by
  constructor
  · intro h
    cases hcut : cut? sep cs with
    | none =>
      rw [fields_of_not_mem (cut?_eq_none_iff.mp hcut)] at h
      simp at h
    | some pair =>
      obtain ⟨rfl, hsep⟩ := cut?_eq_some_iff.mp hcut
      rw [fields_append_cons hsep, List.cons.injEq, fields_eq_singleton_iff] at h
      obtain ⟨rfl, rfl, hsecond⟩ := h
      exact ⟨rfl, hsep, hsecond⟩
  · rintro ⟨rfl, hfirst, hsecond⟩
    rw [fields_append_cons hfirst, fields_of_not_mem hsecond]

/-! ## Colons at the end -/

/-- The text is the stem with a run of colons behind it, and the stem does not end in one. -/
structure Stem (text stem : List Char) : Prop where
  run : ∃ n, text = stem ++ List.replicate n ':'
  bare : ':' ∉ stem.getLast?

theorem stem_iff {text stem : List Char} : Stem text stem ↔ dropEndWhile (· = ':') text = stem := by
  constructor
  · rintro ⟨⟨n, rfl⟩, hbare⟩
    have hdrop : dropEndWhile (· = ':') (stem ++ List.replicate n ':') =
        dropEndWhile (· = ':') stem := by
      simp [dropEndWhile]
    rw [hdrop, dropEndWhile_eq_self_iff]
    intro c hc
    rw [decide_eq_false_iff_not]
    rintro rfl
    exact hbare hc
  · rintro rfl
    let colons := (text.reverse.takeWhile (fun c => decide (c = ':'))).reverse
    have hsplit : text = dropEndWhile (· = ':') text ++ colons := by
      rw [dropEndWhile, ← List.reverse_append, List.takeWhile_append_dropWhile,
        List.reverse_reverse]
    have hcolons : colons = List.replicate colons.length ':' := by
      refine List.eq_replicate_of_mem fun c hc => ?_
      simpa using List.mem_takeWhile_imp (List.mem_reverse.mp hc)
    refine ⟨⟨colons.length, hcolons ▸ hsplit⟩, fun hlast => ?_⟩
    simpa using getLast?_dropEndWhile hlast

/-! ## Numerals -/

/-- One or more digits that stand for a number, with an optional plus sign in front. -/
def IsNumeral (text : List Char) (n : Nat) : Prop :=
  ∃ digits, (text = digits ∨ text = '+' :: digits) ∧ digits ≠ [] ∧
    (∀ c ∈ digits, c.isDigit = true) ∧ Nat.ofDigitChars 10 digits 0 = n

theorem isDigit_of_digit? {c : Char} {d : Nat} (h : digit? c = some d) : c.isDigit = true := by
  unfold digit? at h
  split at h
  · rename_i hrange
    simpa [Char.isDigit, Char.le_def] using hrange
  · cases h

theorem isDigit_of_digitsFrom? {acc n : Nat} {cs : List Char} (h : digitsFrom? acc cs = some n) :
    ∀ c ∈ cs, c.isDigit = true := by
  induction cs generalizing acc with
  | nil => simp
  | cons c cs ih =>
    unfold digitsFrom? at h
    split at h
    · rename_i d hd
      exact List.forall_mem_cons.mpr ⟨isDigit_of_digit? hd, ih h⟩
    · cases h

theorem digits?_eq_some_iff {cs : List Char} {n : Nat} :
    digits? cs = some n ↔
      cs ≠ [] ∧ (∀ c ∈ cs, c.isDigit = true) ∧ Nat.ofDigitChars 10 cs 0 = n := by
  unfold digits?
  by_cases hne : cs = []
  · simp [hne]
  · rw [if_neg (by simpa using hne)]
    constructor
    · intro h
      have hdigits := isDigit_of_digitsFrom? h
      rw [digitsFrom?_of_isDigit hdigits, Option.some.injEq] at h
      exact ⟨hne, hdigits, h⟩
    · rintro ⟨-, hdigits, hvalue⟩
      rw [digitsFrom?_of_isDigit hdigits, hvalue]

theorem numeral?_eq_some_iff {bound n : Nat} {text : List Char} :
    numeral? bound text = some n ↔ IsNumeral text n ∧ n < bound := by
  have hbounded : ∀ digits, (digits? digits >>= fun m => if m < bound then some m else none) =
      some n ↔ digits? digits = some n ∧ n < bound := by
    intro digits
    rw [Option.bind_eq_bind, Option.bind_eq_some_iff]
    constructor
    · rintro ⟨m, hm, hif⟩
      split at hif
      · cases hif
        exact ⟨hm, ‹_›⟩
      · cases hif
    · rintro ⟨hm, hlt⟩
      exact ⟨n, hm, if_pos hlt⟩
  by_cases hplus : ∃ rest, text = '+' :: rest
  · obtain ⟨rest, rfl⟩ := hplus
    refine (hbounded rest).trans (and_congr_left fun _ => ?_)
    rw [digits?_eq_some_iff]
    constructor
    · rintro ⟨hne, hall, hvalue⟩
      exact ⟨rest, .inr rfl, hne, hall, hvalue⟩
    · rintro ⟨digits, rfl | heq, hne, hall, hvalue⟩
      · exact absurd (hall '+' List.mem_cons_self) (by decide)
      · obtain rfl := (List.cons.inj heq).2
        exact ⟨hne, hall, hvalue⟩
  · have hunsigned : numeral? bound text =
        (digits? text >>= fun m => if m < bound then some m else none) := by
      unfold numeral?
      split
      · exact absurd ⟨_, rfl⟩ hplus
      · rfl
    rw [hunsigned, hbounded, digits?_eq_some_iff]
    refine and_congr_left fun _ => ⟨?_, ?_⟩
    · rintro ⟨hne, hall, hvalue⟩
      exact ⟨text, .inl rfl, hne, hall, hvalue⟩
    · rintro ⟨digits, rfl | rfl, hne, hall, hvalue⟩
      · exact ⟨hne, hall, hvalue⟩
      · exact absurd ⟨digits, rfl⟩ hplus

end Text

namespace Directive

/-! ## The forms of lines -/

/-- The text behind the only colon of a line, colons at the end of the line left aside. -/
def HasArgument (line text : List Char) : Prop :=
  ∃ stem before, Text.Stem line stem ∧ stem = before ++ ':' :: text ∧ ':' ∉ before ∧ ':' ∉ text

/-- The form of a line that declares a label. -/
def LabelForm (line : List Char) (name : String) : Prop :=
  ∃ text, HasArgument line text ∧ name.toList = Text.trimChars text ∧ name.toList ≠ [] ∧
    ',' ∉ name.toList

/-- The form of a line that sets a variable. -/
def VarForm (line : List Char) (key value : String) : Prop :=
  ∃ before declaration name, line = before ++ ':' :: declaration ∧ ':' ∉ before ∧
    Text.trimChars declaration = name ++ '=' :: value.toList ∧ '=' ∉ name ∧
    key.toList = Text.trimChars name ∧ key.toList ≠ []

/-- The form of a line that jumps. -/
def JumpForm (line : List Char) (target : String) (count : Option UInt32) : Prop :=
  ∃ text name, HasArgument line text ∧ target.toList = Text.trimChars name ∧ target.toList ≠ [] ∧
    match count with
    | none => Text.trimChars text = name ∧ ',' ∉ name
    | some n => ∃ numeral, Text.trimChars text = name ++ ',' :: numeral ∧ ',' ∉ name ∧
        ',' ∉ numeral ∧ Text.IsNumeral (Text.trimChars numeral) n.toNat ∧ 1 ≤ n.toNat ∧
        n.toNat ≤ 4294967295

/-! ## Reading the forms -/

theorem argument_eq_ok_iff {line found : List Char} (hne : found ≠ []) :
    argument line = .ok found ↔ ∃ text, HasArgument line text ∧ Text.trimChars text = found := by
  unfold argument
  constructor
  · intro h
    split at h
    · cases h
      contradiction
    · cases h
      contradiction
    · rename_i before text hfields
      cases h
      exact ⟨text, ⟨_, before, Text.stem_iff.mpr rfl, Text.fields_eq_pair_iff.mp hfields⟩, rfl⟩
    · cases h
  · rintro ⟨text, ⟨stem, before, hstem, hparts⟩, rfl⟩
    rw [Text.stem_iff.mp hstem, Text.fields_eq_pair_iff.mpr hparts]

theorem readCount_eq_ok_iff {text : List Char} {count : UInt32} :
    readCount text = .ok count ↔
      Text.IsNumeral text count.toNat ∧ 1 ≤ count.toNat ∧ count.toNat ≤ 4294967295 := by
  constructor
  · intro h
    refine ⟨?_, readCount_eq_ok h⟩
    unfold readCount at h
    split at h
    · cases h
    · cases h
    · rename_i n hn
      cases h
      obtain ⟨hnumeral, hlt⟩ := Text.numeral?_eq_some_iff.mp hn
      rwa [UInt32.toNat_ofNat_of_lt' hlt]
  · rintro ⟨hnumeral, hone, -⟩
    obtain ⟨n, hn⟩ : ∃ n, count.toNat = n + 1 := Nat.exists_eq_succ_of_ne_zero (by omega)
    have hread : Text.numeral? UInt32.size text = some (n + 1) :=
      hn ▸ Text.numeral?_eq_some_iff.mpr ⟨hnumeral, count.toNat_lt⟩
    rw [readCount, hread]
    simp [← hn]

theorem readLabel_iff_form {line : List Char} {directive : Directive} :
    readLabel line = .ok directive ↔ ∃ name, directive = .label name ∧ LabelForm line name := by
  rw [readLabel_eq_ok_iff]
  constructor
  · rintro ⟨found, harg, hne, hcomma, rfl⟩
    obtain ⟨text, htext, rfl⟩ := (argument_eq_ok_iff hne).mp harg
    refine ⟨_, rfl, text, htext, ?_, ?_, ?_⟩
    · exact String.toList_ofList
    · rwa [String.toList_ofList]
    · rwa [String.toList_ofList]
  · rintro ⟨name, rfl, text, htext, hname, hne, hcomma⟩
    exact ⟨name.toList, (argument_eq_ok_iff hne).mpr ⟨text, htext, hname.symm⟩, hne, hcomma,
      by rw [String.ofList_toList]⟩

theorem readVar_iff_form {line : List Char} {directive : Directive} :
    readVar line = .ok directive ↔
      ∃ key value, directive = .var key value ∧ VarForm line key value := by
  rw [readVar_eq_ok_iff]
  constructor
  · rintro ⟨before, rest, name, value, hcolon, hequals, hne, rfl⟩
    obtain ⟨hline, hbefore⟩ := Text.cut?_eq_some_iff.mp hcolon
    obtain ⟨hrest, hname⟩ := Text.cut?_eq_some_iff.mp hequals
    refine ⟨_, _, rfl, before, rest, name, hline, hbefore, ?_, hname, ?_, ?_⟩
    · rwa [String.toList_ofList]
    · exact String.toList_ofList
    · rwa [String.toList_ofList]
  · rintro ⟨key, value, rfl, before, rest, name, hline, hbefore, hrest, hname, hkey, hne⟩
    refine ⟨before, rest, name, value.toList, Text.cut?_eq_some_iff.mpr ⟨hline, hbefore⟩,
      Text.cut?_eq_some_iff.mpr ⟨hrest, hname⟩, hkey ▸ hne, ?_⟩
    rw [← hkey, String.ofList_toList, String.ofList_toList]

theorem readJump_iff_form {line : List Char} {directive : Directive} :
    readJump line = .ok directive ↔
      ∃ target count, directive = .jump target count ∧ JumpForm line target count := by
  rw [readJump_eq_ok_iff]
  constructor
  · rintro ⟨found, name, harg, ⟨hfields, hne, rfl⟩ | ⟨numeral, count, hfields, hne, hcount, rfl⟩⟩
    · obtain ⟨rfl, hcomma⟩ := Text.fields_eq_singleton_iff.mp hfields
      have hfound : found ≠ [] := by
        rintro rfl
        exact hne rfl
      obtain ⟨text, htext, rfl⟩ := (argument_eq_ok_iff hfound).mp harg
      refine ⟨_, _, rfl, text, _, htext, String.toList_ofList, ?_, rfl, hcomma⟩
      rwa [String.toList_ofList]
    · obtain ⟨rfl, hname, hnumeral⟩ := Text.fields_eq_pair_iff.mp hfields
      obtain ⟨text, htext, htrim⟩ := (argument_eq_ok_iff (by simp)).mp harg
      refine ⟨_, _, rfl, text, name, htext, String.toList_ofList, ?_, numeral, htrim, hname,
        hnumeral, readCount_eq_ok_iff.mp hcount⟩
      rwa [String.toList_ofList]
  · rintro ⟨target, count, rfl, text, name, htext, htarget, hne, hcount⟩
    have hname : Text.trimChars name ≠ [] := htarget ▸ hne
    have hlabel : String.ofList (Text.trimChars name) = target := by
      rw [← htarget, String.ofList_toList]
    cases count with
    | none =>
      obtain ⟨rfl, hcomma⟩ := hcount
      have hfound : Text.trimChars text ≠ [] := by
        intro hnil
        rw [hnil] at hname
        exact hname rfl
      exact ⟨_, _, (argument_eq_ok_iff hfound).mpr ⟨text, htext, rfl⟩,
        .inl ⟨Text.fields_eq_singleton_iff.mpr ⟨rfl, hcomma⟩, hname, by rw [hlabel]⟩⟩
    | some n =>
      obtain ⟨numeral, htrim, hleft, hright, hnumeral⟩ := hcount
      refine ⟨_, name, (argument_eq_ok_iff (by simp)).mpr ⟨text, htext, htrim⟩,
        .inr ⟨numeral, n, Text.fields_eq_pair_iff.mpr ⟨rfl, hleft, hright⟩, hname,
          readCount_eq_ok_iff.mpr hnumeral, by rw [hlabel]⟩⟩

/-! ## The grammar -/

theorem ofLine?_eq_ite (line : List Char) :
    Keyword.ofLine? line =
      if Text.startsWithWord Keyword.label.word (Text.trimChars line) then some .label
      else if Text.startsWithWord Keyword.var.word (Text.trimChars line) then some .var
      else if Text.startsWithWord Keyword.jump.word (Text.trimChars line) then some .jump
      else none := by
  simp only [Keyword.ofLine?, List.find?_cons, List.find?_nil]
  grind

/-- **The reader accepts exactly this grammar.** A line whose trimmed text begins with `label` reads
as a label exactly when it has the form of one, and as nothing else; if not, one that begins with
`var` reads as a variable in the same way, and if not, one that begins with `jumpto` as a jump. Any
other line is the end when it is `END`, and a command otherwise. What a line that is not read gives
is a fault at its index. -/
theorem readAt_accepts_grammar (index : Nat) (line : String) :
    let text := (Text.trim line).toList
    (Keyword.label.Opens text →
      ∀ directive, readAt index line = .ok directive ↔
        ∃ name, directive = .label name ∧ LabelForm line.toList name) ∧
    (¬ Keyword.label.Opens text → Keyword.var.Opens text →
      ∀ directive, readAt index line = .ok directive ↔
        ∃ key value, directive = .var key value ∧ VarForm line.toList key value) ∧
    (¬ Keyword.label.Opens text → ¬ Keyword.var.Opens text → Keyword.jump.Opens text →
      ∀ directive, readAt index line = .ok directive ↔
        ∃ target count, directive = .jump target count ∧ JumpForm line.toList target count) ∧
    (¬ Keyword.label.Opens text → ¬ Keyword.var.Opens text → ¬ Keyword.jump.Opens text →
      readAt index line = .ok (if line = "END" then .finish else .command line)) ∧
    ∀ error, readAt index line = .error error → ∃ fault, error = .malformed index fault := by
  rw [Text.toList_trim]
  intro text
  have hword := ofLine?_eq_ite line.toList
  refine ⟨fun hlabel directive => ?_, fun hlabel hvar directive => ?_,
    fun hlabel hvar hjump directive => ?_, fun hlabel hvar hjump => ?_,
    fun error h => readAt_eq_error h⟩
  · rw [if_pos (Keyword.startsWithWord_iff.mpr hlabel)] at hword
    rw [readAt_eq_ok_iff, read, hword]
    exact readLabel_iff_form
  · rw [if_neg (mt Keyword.startsWithWord_iff.mp hlabel),
      if_pos (Keyword.startsWithWord_iff.mpr hvar)] at hword
    rw [readAt_eq_ok_iff, read, hword]
    exact readVar_iff_form
  · rw [if_neg (mt Keyword.startsWithWord_iff.mp hlabel),
      if_neg (mt Keyword.startsWithWord_iff.mp hvar),
      if_pos (Keyword.startsWithWord_iff.mpr hjump)] at hword
    rw [readAt_eq_ok_iff, read, hword]
    exact readJump_iff_form
  · rw [if_neg (mt Keyword.startsWithWord_iff.mp hlabel),
      if_neg (mt Keyword.startsWithWord_iff.mp hvar),
      if_neg (mt Keyword.startsWithWord_iff.mp hjump)] at hword
    rw [readAt_eq_ok_iff, read, hword]

/-- A jump in mixed capitals, with blanks around its parts, a sign and zeros before its count, and
colons behind it. -/
theorem signedCount_reads :
    let line := " JumpTo: loop , +007::"
    (¬ Keyword.label.Opens (Text.trim line).toList ∧ ¬ Keyword.var.Opens (Text.trim line).toList ∧
      Keyword.jump.Opens (Text.trim line).toList) ∧
    JumpForm line.toList "loop" (some 7) ∧ readAt 3 line = .ok (.jump "loop" (some 7)) := by
  intro line
  have hwords : ¬ Keyword.label.Opens (Text.trim line).toList ∧
      ¬ Keyword.var.Opens (Text.trim line).toList ∧
      Keyword.jump.Opens (Text.trim line).toList := by
    simp only [← Keyword.startsWithWord_iff]
    decide
  have hnumeral : Text.IsNumeral "+007".toList 7 :=
    ⟨"007".toList, .inr (by decide), by decide, by simp, by decide⟩
  have hform : JumpForm line.toList "loop" (some 7) :=
    ⟨" loop , +007".toList, "loop ".toList,
      ⟨" JumpTo: loop , +007".toList, " JumpTo".toList, ⟨⟨2, by decide⟩, by decide⟩, by decide,
        by decide, by decide⟩,
      by decide, by decide, " +007".toList, by decide, by decide, by decide, hnumeral, by decide,
      by decide⟩
  exact ⟨hwords, hform, ((readAt_accepts_grammar 3 line).2.2.1 hwords.1 hwords.2.1 hwords.2.2 _).mpr
    ⟨"loop", some 7, rfl, hform⟩⟩

end Directive

end MacroScript
