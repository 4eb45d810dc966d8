import Mathlib.Data.List.TakeWhile
import Mathlib.Tactic.TFAE
import MacroScript.Proofs.Reading

/-! # Directives that lines can give

Not every directive is the reading of some line: a label that ends in a blank, say, is cut by the
reader before it gets anywhere. `Directive.Canonical` says of each form what its parts have to
satisfy. A directive that has been read is canonical, since the reader trims and divides the line
at the characters that the parts then lack; and a canonical directive is read back from the line it
is printed as. -/

namespace MacroScript.Text

/-! ## What trimming leaves -/

theorem head?_dropWhile {p : Char → Bool} {cs : List Char} {c : Char}
    (h : c ∈ (cs.dropWhile p).head?) : p c = false := by
  rw [← List.find?_not_eq_head?_dropWhile] at h
  simpa using List.find?_some h

theorem getLast?_dropEndWhile {p : Char → Bool} {cs : List Char} {c : Char}
    (h : c ∈ (dropEndWhile p cs).getLast?) : p c = false := by
  rw [dropEndWhile, List.getLast?_reverse] at h
  exact head?_dropWhile h

theorem dropEndWhile_initial (p : Char → Bool) (cs : List Char) : dropEndWhile p cs <+: cs := by
  rw [dropEndWhile, ← List.reverse_suffix, List.reverse_reverse]
  exact List.dropWhile_suffix p

/-- Trimming leaves nothing to trim. -/
theorem trimChars_trimChars (cs : List Char) : trimChars (trimChars cs) = trimChars cs := by
  refine trimChars_eq_self_iff.mpr ⟨fun c hc => ?_, fun c hc => getLast?_dropEndWhile hc⟩
  obtain ⟨taken, htaken⟩ := dropEndWhile_initial isBlank (trimStart cs)
  have hhead : c ∈ (trimChars cs ++ taken).head? := by
    rw [List.head?_append, Option.mem_def.mp hc]
    rfl
  rw [trimChars, trimEnd, htaken] at hhead
  exact head?_dropWhile hhead

theorem mem_of_mem_trimChars {cs : List Char} {c : Char} (h : c ∈ trimChars cs) : c ∈ cs :=
  (List.dropWhile_sublist isBlank).subset ((dropEndWhile_initial isBlank _).subset h)

/-! ## What dividing leaves -/

/-- A field is free of the separator, and all that is in it comes from the text. -/
theorem of_mem_fields {sep : Char} {cs field : List Char} (h : field ∈ fields sep cs) :
    sep ∉ field ∧ ∀ c ∈ field, c ∈ cs := by
  induction cs generalizing field with
  | nil =>
    obtain rfl : field = [] := by simpa [fields] using h
    simp
  | cons d cs ih =>
    have hlater : field ∈ fields sep cs → sep ∉ field ∧ ∀ c ∈ field, c ∈ d :: cs :=
      fun hfield => ⟨(ih hfield).1, fun c hc => List.mem_cons_of_mem d ((ih hfield).2 c hc)⟩
    unfold fields at h
    by_cases hd : d = sep
    · rw [if_pos hd] at h
      rcases List.mem_cons.mp h with rfl | hfield
      · simp
      · exact hlater hfield
    · rw [if_neg hd] at h
      cases hrest : fields sep cs with
      | nil =>
        rw [hrest] at h
        obtain rfl : field = [d] := by simpa using h
        simpa using Ne.symm hd
      | cons first others =>
        rw [hrest] at h ih hlater
        rcases List.mem_cons.mp h with rfl | hfield
        · obtain ⟨hsep, hmem⟩ := ih List.mem_cons_self
          refine ⟨by simpa [Ne.symm hd] using hsep, fun c hc => ?_⟩
          rcases List.mem_cons.mp hc with rfl | hc
          · exact List.mem_cons_self
          · exact List.mem_cons_of_mem d (hmem c hc)
        · exact hlater (List.mem_cons_of_mem first hfield)

end MacroScript.Text

namespace MacroScript

/-! ## The forms that parts can have -/

/-- A text that can name a variable: it is not empty, has no blank at either end, and holds no
equals sign. -/
structure IsVariableName (name : String) : Prop where
  nonempty : name.toList ≠ []
  trimmed : Text.trim name = name
  noEquals : '=' ∉ name.toList

/-- The text begins with the keyword, in any mixture of ASCII capitals and small letters. -/
def Keyword.Opens (keyword : Keyword) (text : List Char) : Prop :=
  ∃ head rest, text = head ++ rest ∧ head.map Char.toLower = keyword.word

theorem Keyword.startsWithWord_iff {keyword : Keyword} {text : List Char} :
    Text.startsWithWord keyword.word text = true ↔ keyword.Opens text := by
  rw [Text.startsWithWord, beq_iff_eq]
  constructor
  · intro h
    exact ⟨_, _, (List.take_append_drop keyword.word.length text).symm, h⟩
  · rintro ⟨head, rest, rfl, hhead⟩
    have hlength : head.length = keyword.word.length := by rw [← hhead, List.length_map]
    rw [← hlength, List.take_left, hhead]

theorem Keyword.ofLine?_eq_none_iff {line : List Char} :
    Keyword.ofLine? line = none ↔ ∀ keyword : Keyword, ¬ keyword.Opens (Text.trimChars line) := by
  simp only [Keyword.ofLine?, List.find?_eq_none, Keyword.startsWithWord_iff]
  constructor
  · intro h keyword
    exact h keyword (by cases keyword <;> simp)
  · intro h keyword _
    exact h keyword

namespace Directive

def texts : Directive → List String
  | label name => [name]
  | var key value => [key, value]
  | jump target _ => [target]
  | finish => []
  | command text => [text]

/-- What the parts of a directive satisfy when some line reads as it. -/
def Canonical : Directive → Prop
  | label name => IsLabelName name
  | var key value => IsVariableName key ∧ ∀ c ∈ value.toList.getLast?, Text.isBlank c = false
  | jump target count => IsLabelName target ∧ ∀ n ∈ count, 1 ≤ n.toNat ∧ n.toNat ≤ 4294967295
  | finish => True
  | command text =>
    (∀ keyword : Keyword, ¬ keyword.Opens (Text.trim text).toList) ∧ text ≠ "END"

/-! ## What is read is canonical -/

theorem argument_eq_ok {line found : List Char} (h : argument line = .ok found) :
    Text.trimChars found = found ∧ ':' ∉ found ∧ ∀ c ∈ found, c ∈ line := by
  unfold argument at h
  split at h
  · cases h
    simp [Text.trimChars_eq_self_iff]
  · cases h
    simp [Text.trimChars_eq_self_iff]
  · rename_i before field hfields
    cases h
    obtain ⟨hcolon, hmem⟩ : ':' ∉ field ∧ ∀ c ∈ field, c ∈ Text.dropEndWhile (· = ':') line :=
      Text.of_mem_fields (hfields ▸ List.mem_cons_of_mem before List.mem_cons_self)
    refine ⟨Text.trimChars_trimChars field, fun hmem' => hcolon (Text.mem_of_mem_trimChars hmem'),
      fun c hc => ?_⟩
    exact (Text.dropEndWhile_initial _ line).subset (hmem c (Text.mem_of_mem_trimChars hc))
  · cases h

theorem isLabelName_ofList {name : List Char} (hne : name ≠ []) (htrim : Text.trimChars name = name)
    (hcolon : ':' ∉ name) (hcomma : ',' ∉ name) : IsLabelName (String.ofList name) := by
  refine ⟨by simpa using hne, ?_, by simpa using hcolon, by simpa using hcomma⟩
  rw [Text.trim, String.toList_ofList, htrim]

theorem readLabel_eq_ok_iff {line : List Char} {directive : Directive} :
    readLabel line = .ok directive ↔
      ∃ name, argument line = .ok name ∧ name ≠ [] ∧ ',' ∉ name ∧
        .label (String.ofList name) = directive := by
  unfold readLabel
  cases argument line with
  | error fault => simp [bind, Except.bind]
  | ok name =>
    by_cases hne : name = []
    · simp [bind, Except.bind, hne]
    · by_cases hcomma : ',' ∈ name <;> simp [bind, Except.bind, hne, hcomma]

theorem readVar_eq_ok_iff {line : List Char} {directive : Directive} :
    readVar line = .ok directive ↔
      ∃ before rest name value, Text.cut? ':' line = some (before, rest) ∧
        Text.cut? '=' (Text.trimChars rest) = some (name, value) ∧ Text.trimChars name ≠ [] ∧
        .var (String.ofList (Text.trimChars name)) (String.ofList value) = directive := by
  unfold readVar
  cases Text.cut? ':' line with
  | none => simp
  | some pair =>
    obtain ⟨before, rest⟩ := pair
    cases hequals : Text.cut? '=' (Text.trimChars rest) with
    | none => simp [hequals]
    | some pair =>
      obtain ⟨name, value⟩ := pair
      by_cases hne : Text.trimChars name = [] <;> simp [hequals, hne, and_assoc]

theorem readJump_eq_ok_iff {line : List Char} {directive : Directive} :
    readJump line = .ok directive ↔
      ∃ found target, argument line = .ok found ∧
        ((Text.fields ',' found = [target] ∧ Text.trimChars target ≠ [] ∧
            .jump (String.ofList (Text.trimChars target)) none = directive) ∨
          ∃ text count, Text.fields ',' found = [target, text] ∧ Text.trimChars target ≠ [] ∧
            readCount (Text.trimChars text) = .ok count ∧
            .jump (String.ofList (Text.trimChars target)) (some count) = directive) := by
  unfold readJump
  cases argument line with
  | error fault => simp [bind, Except.bind]
  | ok found =>
    rcases hparts : Text.fields ',' found with _ | ⟨target, _ | ⟨text, more⟩⟩
    · have hnil : Text.trimChars [] = [] := rfl
      simp [bind, Except.bind, hparts, hnil]
    · by_cases hne : Text.trimChars target = [] <;> simp [bind, Except.bind, hparts, hne]
    · by_cases hne : Text.trimChars target = []
      · simp [bind, Except.bind, hparts, hne, and_assoc]
      · cases hcount : readCount (Text.trimChars text) with
        | error fault => simp [bind, Except.bind, hparts, hne, hcount, and_assoc]
        | ok count => cases more <;> simp [bind, Except.bind, hparts, hne, hcount, and_assoc]

theorem readCount_eq_ok {text : List Char} {count : UInt32} (h : readCount text = .ok count) :
    1 ≤ count.toNat ∧ count.toNat ≤ 4294967295 := by
  unfold readCount at h
  split at h
  · cases h
  · cases h
  · rename_i n hn
    cases h
    have hsmall : n + 1 < UInt32.size := by
      simp only [Text.numeral?, Option.bind_eq_bind, Option.bind_eq_some_iff] at hn
      obtain ⟨m, -, hm⟩ := hn
      split at hm
      · rename_i hlt
        cases hm
        exact hlt
      · cases hm
    rw [UInt32.toNat_ofNat_of_lt' hsmall]
    unfold UInt32.size at hsmall
    omega

theorem readLabel_canonical {line : List Char} {directive : Directive}
    (h : readLabel line = .ok directive) :
    directive.Canonical ∧ ∀ text ∈ directive.texts, ∀ c ∈ text.toList, c ∈ line := by
  obtain ⟨name, harg, hne, hcomma, rfl⟩ := readLabel_eq_ok_iff.mp h
  obtain ⟨htrim, hcolon, hmem⟩ := argument_eq_ok harg
  exact ⟨isLabelName_ofList hne htrim hcolon hcomma, by simpa [texts] using hmem⟩

theorem readVar_canonical {line : List Char} {directive : Directive}
    (h : readVar line = .ok directive) :
    directive.Canonical ∧ ∀ text ∈ directive.texts, ∀ c ∈ text.toList, c ∈ line := by
  obtain ⟨before, rest, name, value, hcolon, hequals, hne, rfl⟩ := readVar_eq_ok_iff.mp h
  obtain ⟨rfl, -⟩ := Text.cut?_eq_some_iff.mp hcolon
  obtain ⟨hrest, hname⟩ := Text.cut?_eq_some_iff.mp hequals
  have hmem : ∀ c ∈ name ++ '=' :: value, c ∈ before ++ ':' :: rest := by
    intro c hc
    rw [← hrest] at hc
    exact List.mem_append_right before (List.mem_cons_of_mem ':' (Text.mem_of_mem_trimChars hc))
  refine ⟨⟨⟨by simpa using hne, ?_, ?_⟩, fun c hc => ?_⟩, ?_⟩
  · rw [Text.trim, String.toList_ofList, Text.trimChars_trimChars]
  · rw [String.toList_ofList]
    exact fun hkey => hname (Text.mem_of_mem_trimChars hkey)
  · -- the value ends where the trimmed declaration ends
    rw [String.toList_ofList] at hc
    have hsome : value ≠ [] := by
      rintro rfl
      cases hc
    rw [← Text.getLast?_append_cons hsome name '=', ← hrest] at hc
    exact Text.getLast?_dropEndWhile hc
  · simp only [texts, List.forall_mem_cons, String.toList_ofList]
    refine ⟨fun c hc => ?_, fun c hc => ?_, by simp⟩
    · exact hmem c (List.mem_append_left _ (Text.mem_of_mem_trimChars hc))
    · exact hmem c (List.mem_append_right _ (List.mem_cons_of_mem '=' hc))

/-- What a jump goes to is the first part of its argument. -/
theorem target_canonical {line found target : List Char} (harg : argument line = .ok found)
    (htarget : target ∈ Text.fields ',' found) (hne : Text.trimChars target ≠ []) :
    IsLabelName (String.ofList (Text.trimChars target)) ∧
      ∀ c ∈ (String.ofList (Text.trimChars target)).toList, c ∈ line := by
  obtain ⟨-, hcolon, hmem⟩ := argument_eq_ok harg
  obtain ⟨hcomma, hpart⟩ := Text.of_mem_fields htarget
  refine ⟨isLabelName_ofList hne (Text.trimChars_trimChars target) ?_ ?_, fun c hc => ?_⟩
  · exact fun hc => hcolon (hpart _ (Text.mem_of_mem_trimChars hc))
  · exact fun hc => hcomma (Text.mem_of_mem_trimChars hc)
  · rw [String.toList_ofList] at hc
    exact hmem c (hpart c (Text.mem_of_mem_trimChars hc))

theorem readJump_canonical {line : List Char} {directive : Directive}
    (h : readJump line = .ok directive) :
    directive.Canonical ∧ ∀ text ∈ directive.texts, ∀ c ∈ text.toList, c ∈ line := by
  obtain ⟨found, target, harg, ⟨hfields, hne, rfl⟩ | ⟨text, count, hfields, hne, hcount, rfl⟩⟩ :=
    readJump_eq_ok_iff.mp h
  · obtain ⟨hname, hmem⟩ := target_canonical harg (hfields ▸ List.mem_cons_self) hne
    exact ⟨⟨hname, by simp⟩, by simpa [texts] using hmem⟩
  · obtain ⟨hname, hmem⟩ := target_canonical harg (hfields ▸ List.mem_cons_self) hne
    exact ⟨⟨hname, by simpa using readCount_eq_ok hcount⟩, by simpa [texts] using hmem⟩

/-- What is read is canonical, and reading adds nothing to the line. -/
theorem canonical_of_read {line : String} {directive : Directive}
    (h : read line = .ok directive) :
    directive.Canonical ∧ ∀ text ∈ directive.texts, ∀ c ∈ text.toList, c ∈ line.toList := by
  unfold read at h
  split at h
  · exact readLabel_canonical h
  · exact readVar_canonical h
  · exact readJump_canonical h
  · rename_i hkeyword
    cases h
    split
    · exact ⟨trivial, by simp [texts]⟩
    · rename_i hend
      refine ⟨⟨?_, hend⟩, by simp [texts]⟩
      rw [Text.toList_trim]
      exact Keyword.ofLine?_eq_none_iff.mp hkeyword

/-- A command is kept as it is written. -/
theorem eq_of_read_command {line text : String} (h : read line = .ok (.command text)) :
    text = line := by
  unfold read at h
  split at h
  · simp [readLabel_eq_ok_iff] at h
  · simp [readVar_eq_ok_iff] at h
  · simp [readJump_eq_ok_iff] at h
  · split at h <;> simp_all

/-! ## What is canonical is read back -/

theorem read_print_goto {target : String} (h : IsLabelName target) :
    read (print (.jump target none)) = .ok (.jump target none) := by
  have hline : (print (.jump target none)).toList = Keyword.jump.word ++ ':' :: target.toList := by
    simp [print, Keyword.word]
  have hkey : Keyword.ofLine? (print (.jump target none)).toList = some .jump := by
    rw [hline, ofLine?_word .jump h.nonempty h.ends.2]
  have harg : argument (print (.jump target none)).toList = .ok target.toList := by
    rw [hline, argument_append (by decide) h.noColon h.nonempty, h.trimChars]
  simp [read, hkey, readJump, harg, Text.fields_of_not_mem h.noComma, bind, Except.bind,
    h.trimChars, h.nonempty]

theorem read_print_var {key value : String} (hkey : IsVariableName key)
    (hvalue : ∀ c ∈ value.toList.getLast?, Text.isBlank c = false) :
    read (print (.var key value)) = .ok (.var key value) := by
  let declaration := key.toList ++ '=' :: value.toList
  have hline : (print (.var key value)).toList = Keyword.var.word ++ ':' :: declaration := by
    simp [print, Keyword.word, declaration]
  have hname : Text.trimChars key.toList = key.toList := by
    rw [← Text.toList_trim, hkey.trimmed]
  have hne : declaration ≠ [] := by simp [declaration]
  have hlast : ∀ c ∈ declaration.getLast?, Text.isBlank c = false := by
    intro c hc
    by_cases hempty : value.toList = []
    · obtain rfl : '=' = c := by simpa [declaration, hempty] using hc
      decide
    · rw [Text.getLast?_append_cons hempty] at hc
      exact hvalue c hc
  have hself : Text.trimChars declaration = declaration := by
    refine Text.trimChars_eq_self_iff.mpr ⟨?_, hlast⟩
    rw [List.head?_append, Option.or_of_isSome (by simpa using hkey.nonempty)]
    exact (Text.trimChars_eq_self_iff.mp hname).1
  have hword : Keyword.ofLine? (print (.var key value)).toList = some .var := by
    rw [hline, ofLine?_word .var hne hlast]
  have hcolon : Text.cut? ':' (print (.var key value)).toList =
      some (Keyword.var.word, declaration) :=
    Text.cut?_eq_some_iff.mpr ⟨hline, by decide⟩
  have hequals : Text.cut? '=' declaration = some (key.toList, value.toList) :=
    Text.cut?_eq_some_iff.mpr ⟨rfl, hkey.noEquals⟩
  simp [read, hword, readVar, hcolon, hself, hequals, hname, hkey.nonempty]

theorem read_print_of_canonical {directive : Directive} (h : directive.Canonical) :
    read (print directive) = .ok directive := by
  cases directive with
  | label name => exact read_print_label h
  | var key value => exact read_print_var h.1 h.2
  | jump target count =>
    cases count with
    | none => exact read_print_goto h.1
    | some count =>
      refine read_print_jump h.1 ?_
      rintro rfl
      exact absurd (h.2 0 rfl).1 (by decide)
  | finish => decide
  | command text =>
    have hkeyword : Keyword.ofLine? text.toList = none := by
      rw [Keyword.ofLine?_eq_none_iff, ← Text.toList_trim]
      exact h.1
    simp [read, print, hkeyword, h.2]

/-! ## The two sides together -/

/-- **Directives print and read back.** A directive is the reading of some line exactly when it is
the reading of its own printed form, and exactly when its parts are canonical. The names under which
labels can be declared are those that jumps can go to. -/
theorem print_reads_back_tfae (index : Nat) :
    (∀ directive : Directive, List.TFAE [
      ∃ line, readAt index line = .ok directive,
      readAt index (print directive) = .ok directive,
      directive.Canonical]) ∧
    ∀ name, (∃ line, readAt index line = .ok (.label name)) ↔
      ∃ line count, readAt index line = .ok (.jump name count) := by
  have hcanonical : ∀ {line directive}, readAt index line = .ok directive →
      directive.Canonical := fun h => (canonical_of_read (readAt_eq_ok_iff.mp h)).1
  have hprinted : ∀ {directive : Directive}, directive.Canonical →
      readAt index (print directive) = .ok directive :=
    fun h => readAt_eq_ok_iff.mpr (read_print_of_canonical h)
  refine ⟨fun directive => ?_, fun name => ⟨?_, ?_⟩⟩
  · tfae_have 1 → 3 := fun ⟨_, hread⟩ => hcanonical hread
    tfae_have 3 → 2 := hprinted
    tfae_have 2 → 1 := fun hread => ⟨_, hread⟩
    tfae_finish
  · rintro ⟨line, hread⟩
    have hname : IsLabelName name := hcanonical hread
    have hjump : (jump name none).Canonical := ⟨hname, by simp⟩
    exact ⟨_, none, hprinted hjump⟩
  · rintro ⟨line, count, hread⟩
    have hlabel : (label name).Canonical := (hcanonical hread).1
    exact ⟨_, hprinted hlabel⟩

end Directive

end MacroScript
