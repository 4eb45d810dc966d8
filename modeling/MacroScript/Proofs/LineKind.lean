import MacroScript.Proofs.Filling
import MacroScript.Proofs.Grammar

/-! # A colon fixes the kind of a line

What stands before a colon is out of reach of substitution unless a reference opens there: nothing
is inserted into it, and what is inserted behind the colon cannot become part of it. The keyword
that a line begins with is decided before its first colon. So the values of variables, whatever
their text, can make a line with such a colon fail, but not turn it into a line of another kind. -/

namespace MacroScript

/-- The line has a colon, `head` is what stands before the first one, and no reference opens
there. -/
structure Headed (line : String) (head : List Char) : Prop where
  split : ∃ rest, line.toList = head ++ ':' :: rest
  firstColon : ':' ∉ head
  noOpening : ¬ Reference.opener <:+: head

/-! ## What substitution leaves alone -/

namespace Reference

theorem not_initial_append_colon {c : Char} {head : List Char} (h : ¬ opener <+: c :: head)
    (rest : List Char) : ¬ opener <+: c :: (head ++ ':' :: rest) := by
  intro hopen
  cases head with
  | nil => simp [opener] at hopen
  | cons d head => exact h (by simpa [opener] using hopen)

theorem replaceAll_colon {head : List Char} (h : ¬ opener <:+: head) (key value rest : List Char) :
    Text.replaceAll (text key) value (head ++ ':' :: rest) =
      head ++ ':' :: Text.replaceAll (text key) value rest := by
  induction head with
  | nil => exact replaceAll_char key value (by decide) rest
  | cons c head ih =>
    rw [List.infix_cons_iff, not_or] at h
    rw [List.cons_append, replaceAll_cons (not_initial_append_colon h.1 rest), ih h.2,
      List.cons_append]

end Reference

namespace Variables

variable {vars : Variables} {index : Nat}

theorem replaceKeys_colon {head : List Char} (h : ¬ Reference.opener <:+: head)
    {keys : List (List Char)} {rest text : List Char}
    (hreplaced : vars.replaceKeys index keys (head ++ ':' :: rest) = .ok text) :
    ∃ rest', text = head ++ ':' :: rest' := by
  induction keys generalizing rest with
  | nil =>
    cases hreplaced
    exact ⟨rest, rfl⟩
  | cons key keys ih =>
    rw [replaceKeys] at hreplaced
    split at hreplaced
    · cases hreplaced
    · rw [Reference.replaceAll_colon h] at hreplaced
      exact ih hreplaced

end Variables

theorem Headed.substitute {line text : String} {head : List Char} (h : Headed line head)
    {vars : Variables} {index : Nat} (hsubstitute : vars.substitute index line = .ok text) :
    Headed text head := by
  obtain ⟨⟨rest, hline⟩, hcolon, hopen⟩ := h
  obtain ⟨keys, -, hreplaced⟩ := Variables.substitute_eq_ok hsubstitute
  rw [hline] at hreplaced
  exact ⟨Variables.replaceKeys_colon hopen hreplaced, hcolon, hopen⟩

/-! ## What the keyword depends on -/

namespace Text

theorem trimStart_colon (head rest : List Char) :
    trimStart (head ++ ':' :: rest) = trimStart head ++ ':' :: rest := by
  have hcolon : (':' :: rest).dropWhile isBlank = ':' :: rest := rfl
  rw [trimStart, List.dropWhile_append, hcolon, trimStart]
  split
  · rename_i hempty
    rw [List.isEmpty_iff.mp hempty, List.nil_append]
  · rfl

theorem trimEnd_colon (head rest : List Char) :
    trimEnd (head ++ ':' :: rest) = head ++ ':' :: trimEnd rest := by
  have hcolon : (':' :: head.reverse).dropWhile isBlank = ':' :: head.reverse := rfl
  have hreverse : (head ++ ':' :: rest).reverse = rest.reverse ++ ':' :: head.reverse := by simp
  rw [trimEnd, dropEndWhile, hreverse, List.dropWhile_append, hcolon, trimEnd, dropEndWhile]
  split
  · rename_i hempty
    rw [List.isEmpty_iff.mp hempty]
    simp
  · simp

end Text

namespace Keyword

theorem colon_not_mem {keyword : Keyword} {start : List Char}
    (h : start.map Char.toLower = keyword.word) : ':' ∉ start := by
  intro hmem
  have hword : ':' ∈ keyword.word := h ▸ List.mem_map.mpr ⟨':', hmem, by decide⟩
  cases keyword <;> simp [word] at hword

/-- Nothing behind a colon is part of the keyword that a text begins with. -/
theorem opens_colon_iff {keyword : Keyword} {head rest : List Char} :
    keyword.Opens (head ++ ':' :: rest) ↔ keyword.Opens head := by
  constructor
  · intro h
    obtain ⟨word, more, hsplit, hword⟩ := h
    rcases List.append_eq_append_iff.mp hsplit with ⟨between, rfl, hrest⟩ | ⟨between, rfl, -⟩
    · cases between with
      | nil => exact ⟨head, [], (List.append_nil head).symm, by simpa using hword⟩
      | cons c between =>
        obtain ⟨rfl, -⟩ := List.cons.inj hrest
        exact absurd (by simp) (colon_not_mem hword)
    · exact ⟨word, between, rfl, hword⟩
  · intro h
    obtain ⟨word, more, rfl, hword⟩ := h
    exact ⟨word, more ++ ':' :: rest, List.append_assoc .., hword⟩

/-- Which keyword a line begins with depends on what stands before a colon alone. -/
theorem ofLine?_colon (head rest rest' : List Char) :
    ofLine? (head ++ ':' :: rest) = ofLine? (head ++ ':' :: rest') := by
  have hstarts : ∀ keyword : Keyword,
      Text.startsWithWord keyword.word (Text.trimChars (head ++ ':' :: rest)) =
        Text.startsWithWord keyword.word (Text.trimChars (head ++ ':' :: rest')) := by
    intro keyword
    rw [Bool.eq_iff_iff, startsWithWord_iff, startsWithWord_iff, Text.trimChars, Text.trimChars,
      Text.trimStart_colon, Text.trimStart_colon, Text.trimEnd_colon, Text.trimEnd_colon,
      opens_colon_iff, opens_colon_iff]
  simp only [ofLine?, hstarts]

/-- What can come of reading a line with a colon that begins with the given keyword or, without one,
of any other. -/
inductive Yields (index : Nat) (line : String) : Option Keyword → Except RunError Directive → Prop
    where
  | label (name : String) : Yields index line (some .label) (.ok (.label name))
  | var (key value : String) : Yields index line (some .var) (.ok (.var key value))
  | jump (target : String) (count : Option UInt32) :
      Yields index line (some .jump) (.ok (.jump target count))
  | fault (keyword : Keyword) (fault : Fault) :
      Yields index line (some keyword) (.error (.malformed index fault))
  | command : Yields index line none (.ok (.command line))

end Keyword

namespace Directive

theorem yields_readAt (index : Nat) {line : String} (h : ':' ∈ line.toList) :
    Keyword.Yields index line (Keyword.ofLine? line.toList) (readAt index line) := by
  cases hkeyword : Keyword.ofLine? line.toList with
  | none =>
    have hend : line ≠ "END" := by
      intro heq
      rw [heq] at h
      exact absurd h (by decide)
    have hread : readAt index line = .ok (.command line) := by
      rw [readAt_eq_ok_iff, read, hkeyword]
      simp [hend]
    rw [hread]
    exact .command
  | some keyword =>
    cases hread : readAt index line with
    | error error =>
      obtain ⟨fault, rfl⟩ := readAt_eq_error hread
      exact .fault keyword fault
    | ok directive =>
      rw [readAt_eq_ok_iff, read, hkeyword] at hread
      cases keyword with
      | label =>
        obtain ⟨name, rfl, -⟩ := readLabel_iff_form.mp hread
        exact .label name
      | var =>
        obtain ⟨key, value, rfl, -⟩ := readVar_iff_form.mp hread
        exact .var key value
      | jump =>
        obtain ⟨target, count, rfl, -⟩ := readJump_iff_form.mp hread
        exact .jump target count

end Directive

theorem Headed.colon_mem {line : String} {head : List Char} (h : Headed line head) :
    ':' ∈ line.toList := by
  obtain ⟨rest, hline⟩ := h.split
  simp [hline]

theorem Headed.ofLine?_eq {line line' : String} {head : List Char} (h : Headed line head)
    (h' : Headed line' head) :
    Keyword.ofLine? line.toList = Keyword.ofLine? line'.toList := by
  obtain ⟨rest, hline⟩ := h.split
  obtain ⟨rest', hline'⟩ := h'.split
  rw [hline, hline', Keyword.ofLine?_colon]

/-- **A colon fixes the kind of a line.** If no reference opens before the first colon of a line,
then whatever the values of the variables, a line that comes of substitution has the same text up to
that colon, begins with the same keyword, and is read in the same way as the line itself: as the
directive of that keyword or with a fault, and as a command when it begins with none. So any two
tables give lines of the same kind. -/
theorem Headed.kind_survives_substitution {line : String} {head : List Char} (h : Headed line head)
    {vars : Variables} {index : Nat} {text : String}
    (hsubstitute : vars.substitute index line = .ok text) :
    let keyword := Keyword.ofLine? line.toList
    Headed text head ∧ Keyword.ofLine? text.toList = keyword ∧
    Keyword.Yields index text keyword (Directive.readAt index text) ∧
    Keyword.Yields index line keyword (Directive.readAt index line) ∧
    ∀ (others : Variables) (text' : String), others.substitute index line = .ok text' →
      Keyword.ofLine? text'.toList = Keyword.ofLine? text.toList ∧
      Keyword.Yields index text' keyword (Directive.readAt index text') := by
  intro keyword
  have hyields : ∀ {other : String}, Headed other head →
      Keyword.Yields index other keyword (Directive.readAt index other) := by
    intro other hother
    have hread := Directive.yields_readAt index hother.colon_mem
    rwa [hother.ofLine?_eq h] at hread
  have htext := h.substitute hsubstitute
  refine ⟨htext, htext.ofLine?_eq h, hyields htext, hyields h, ?_⟩
  intro others text' hothers
  have htext' := h.substitute hothers
  exact ⟨htext'.ofLine?_eq htext, hyields htext'⟩

/-- A label whose name is the value of a variable, and a value made to look like other lines. -/
theorem namedByVariable_stays_label :
    let line := "Label:$(x)"
    let plain : Variables := ⟨[("x", "top")]⟩
    let hostile : Variables := ⟨[("x", ":\nEND\nvar:$(x)=1")]⟩
    let text := "Label::\nEND\nvar:$(x)=1"
    Headed line "Label".toList ∧ plain.substitute 4 line = .ok "Label:top" ∧
    hostile.substitute 4 line = .ok text ∧ Headed text "Label".toList ∧
    Keyword.ofLine? text.toList = some .label ∧
    Keyword.Yields 4 text (some .label) (Directive.readAt 4 text) ∧
    Keyword.Yields 4 "Label:top" (some .label) (Directive.readAt 4 "Label:top") := by
  intro line plain hostile text
  have hline : Headed line "Label".toList := ⟨⟨"$(x)".toList, by decide⟩, by decide, by decide⟩
  have hplain : plain.substitute 4 line = .ok "Label:top" := by decide +kernel
  have hhostile : hostile.substitute 4 line = .ok text := by decide +kernel
  have hkeyword : Keyword.ofLine? line.toList = some .label := by decide +kernel
  obtain ⟨htext, hsame, hyields, -, hothers⟩ := hline.kind_survives_substitution hhostile
  rw [hkeyword] at hsame hyields hothers
  exact ⟨hline, hplain, hhostile, htext, hsame, hyields, (hothers plain _ hplain).2⟩

end MacroScript
