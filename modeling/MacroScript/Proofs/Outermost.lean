import Mathlib.Data.List.DropRight
import MacroScript.Proofs.Filling
import MacroScript.Proofs.Grammar

/-! # Which references are found

References are found by going through a text once: behind an opening, the key takes in everything up
to the next closing bracket, other openings included. So the references that count are the outermost
ones, and whether one of them is left open shows behind the last closing bracket. Every text is made
of single characters that open nothing, of closed references and perhaps one that is not closed
(`text_induction`); each fact below is proved along these parts. -/

namespace MacroScript

namespace Text

theorem nodup_distinct {α : Type} [DecidableEq α] (xs : List α) : (distinct xs).Nodup := by
  induction xs with
  | nil => exact List.nodup_nil
  | cons x xs ih =>
    refine List.nodup_cons.mpr ⟨?_, ih.filter _⟩
    intro hmem
    simp at hmem

end Text

namespace Reference

/-! ## Openings behind the last closing bracket -/

/-- What follows the last closing bracket of a text, or the whole text when it has none. -/
def afterLastClose (cs : List Char) : List Char := cs.rtakeWhile (· ≠ ')')

/-- A reference opens behind the last closing bracket. -/
def LeftOpen (cs : List Char) : Prop := opener <:+: afterLastClose cs

theorem afterLastClose_append (before rest : List Char) :
    afterLastClose (before ++ ')' :: rest) = afterLastClose rest := by
  unfold afterLastClose
  induction rest using List.reverseRecOn with
  | nil => exact List.rtakeWhile_concat_neg _ _ _ (by decide)
  | append_singleton rest c ih =>
    rw [← List.cons_append, ← List.append_assoc, List.rtakeWhile_concat, List.rtakeWhile_concat, ih]

theorem leftOpen_append_close (before rest : List Char) :
    LeftOpen (before ++ ')' :: rest) ↔ LeftOpen rest := by
  rw [LeftOpen, afterLastClose_append, LeftOpen]

theorem leftOpen_iff_of_not_mem {cs : List Char} (h : ')' ∉ cs) : LeftOpen cs ↔ opener <:+: cs := by
  have hwhole : afterLastClose cs = cs := by
    refine List.rtakeWhile_eq_self_iff.mpr ?_
    intro c hc
    rw [decide_eq_true_eq]
    intro heq
    exact h (heq ▸ hc)
  rw [LeftOpen, hwhole]

theorem not_leftOpen_nil : ¬ LeftOpen [] := by
  simp [leftOpen_iff_of_not_mem, opener]

theorem leftOpen_cons {c : Char} {cs : List Char} (h : ¬ opener <+: c :: cs) :
    LeftOpen (c :: cs) ↔ LeftOpen cs := by
  by_cases hlater : ')' ∈ cs
  · obtain ⟨before, rest, rfl⟩ := List.append_of_mem hlater
    rw [← List.cons_append, leftOpen_append_close, leftOpen_append_close]
  · by_cases hc : c = ')'
    · rw [hc]
      exact leftOpen_append_close [] cs
    · have hnone : ')' ∉ c :: cs := by simp [Ne.symm hc, hlater]
      rw [leftOpen_iff_of_not_mem hnone, leftOpen_iff_of_not_mem hlater, List.infix_cons_iff]
      exact or_iff_right h

/-! ## The parts of a text -/

/-- A text is made of characters that open nothing and of closed references, and a reference that is
not closed takes all the rest. -/
@[elab_as_elim] theorem text_induction {motive : List Char → Prop} (cs : List Char)
    (nil : motive [])
    (char : ∀ c cs, ¬ opener <+: c :: cs → motive cs → motive (c :: cs))
    (ref : ∀ key cs, ')' ∉ key → motive cs → motive (text key ++ cs))
    (unclosed : ∀ cs, ')' ∉ cs → motive (opener ++ cs)) : motive cs := by
  induction hlength : cs.length using Nat.strong_induction_on generalizing cs with
  | _ length ih =>
    by_cases hopen : opener <+: cs
    · obtain ⟨rest, rfl⟩ := hopen
      cases hcut : Text.cut? ')' rest with
      | none => exact unclosed rest (Text.cut?_eq_none_iff.mp hcut)
      | some pair =>
        obtain ⟨hrest, hkey⟩ := Text.cut?_eq_some_iff.mp hcut
        have htext : opener ++ rest = text pair.1 ++ pair.2 := by rw [hrest]; simp [text]
        rw [htext]
        refine ref pair.1 pair.2 hkey (ih pair.2.length ?_ pair.2 rfl)
        rw [← hlength, htext, List.length_append]
        simp [text, opener]
    · cases cs with
      | nil => exact nil
      | cons c cs =>
        refine char c cs hopen (ih cs.length ?_ cs rfl)
        rw [← hlength, List.length_cons]
        omega

theorem scan_some_of_not_mem {cs : List Char} (h : ')' ∉ cs) (pending : List Char) :
    scan (some pending) cs = none := by
  induction cs generalizing pending with
  | nil => rfl
  | cons c cs ih =>
    rw [List.mem_cons, not_or] at h
    rw [scan, if_neg (Ne.symm h.1), ih h.2]

theorem keys?_unclosed {cs : List Char} (h : ')' ∉ cs) : keys? (opener ++ cs) = none :=
  scan_some_of_not_mem h []

/-- No keys are found exactly when a reference is left open. -/
theorem keys?_eq_none_iff {cs : List Char} : keys? cs = none ↔ LeftOpen cs := by
  induction cs using text_induction with
  | nil => simp [keys?, scan, LeftOpen, afterLastClose, opener]
  | char c cs hopen ih => rw [keys?_cons hopen, leftOpen_cons hopen, ih]
  | ref key cs hkey ih =>
    have hclose : text key ++ cs = (opener ++ key) ++ ')' :: cs := by simp [text]
    rw [keys?_ref hkey, Option.map_eq_none_iff, ih, hclose, leftOpen_append_close]
  | unclosed cs hcs =>
    have hnone : ')' ∉ opener ++ cs := by simpa [opener] using hcs
    rw [keys?_unclosed hcs, leftOpen_iff_of_not_mem hnone]
    exact iff_of_true rfl (List.prefix_append opener cs).isInfix

/-! ## Outermost references -/

/-- The reference to a key stands in the text between the two others, and no reference is left open
before it. -/
structure Outermost (cs before key after : List Char) : Prop where
  split : cs = before ++ (text key ++ after)
  noBracket : ')' ∉ key
  outside : ¬ LeftOpen before

/-- What is read of a reference before its closing bracket leaves it open. -/
theorem leftOpen_of_text {key before rest : List Char} (hkey : ')' ∉ key)
    (h : text key = '$' :: '(' :: before ++ rest) (hrest : rest ≠ []) :
    LeftOpen ('$' :: '(' :: before) := by
  obtain ⟨start, c, rfl⟩ := (List.eq_nil_or_concat rest).resolve_left hrest
  have hpart : opener ++ key = '$' :: '(' :: before ++ start := by
    rw [text, List.concat_eq_append, ← List.append_assoc] at h
    exact (List.append_inj' h rfl).1
  have hnone : ')' ∉ '$' :: '(' :: before := by
    intro hmem
    have hin : ')' ∈ opener ++ key := hpart ▸ List.mem_append_left start hmem
    simp [opener, hkey] at hin
  exact (leftOpen_iff_of_not_mem hnone).mpr (List.prefix_append opener before).isInfix

namespace Outermost

variable {cs before key after : List Char}

theorem bracket_mem (h : Outermost cs before key after) : ')' ∈ cs := by
  rw [h.split]
  simp [text]

theorem cons_iff {c : Char} (hopen : ¬ opener <+: c :: cs) :
    Outermost (c :: cs) before key after ↔
      ∃ start, before = c :: start ∧ Outermost cs start key after := by
  have hstart : ∀ {start rest}, cs = start ++ rest → (LeftOpen (c :: start) ↔ LeftOpen start) := by
    intro start rest hcs
    refine leftOpen_cons fun hinitial => hopen (hinitial.trans ?_)
    rw [hcs, ← List.cons_append]
    exact List.prefix_append _ _
  constructor
  · intro h
    cases before with
    | nil => exact absurd (h.split ▸ opener_initial_text key after) hopen
    | cons d start =>
      obtain ⟨rfl, hcs⟩ := List.cons.inj h.split
      exact ⟨start, rfl, hcs, h.noBracket, fun hleft => h.outside ((hstart hcs).mpr hleft)⟩
  · intro h
    obtain ⟨start, rfl, hsplit, hkey, hout⟩ := h
    exact ⟨by rw [hsplit, List.cons_append], hkey, fun hleft => hout ((hstart hsplit).mp hleft)⟩

/-- An outermost reference does not begin within another reference. -/
theorem begins_or_behind {first : List Char} (hfirst : ')' ∉ first)
    (h : Outermost (text first ++ cs) before key after) :
    before = [] ∨ ∃ start, before = text first ++ start := by
  rcases List.append_eq_append_iff.mp h.split with ⟨start, rfl, -⟩ | ⟨rest, htext, hrest⟩
  · exact .inr ⟨start, rfl⟩
  · rcases before with _ | ⟨c, _ | ⟨d, before⟩⟩
    · exact .inl rfl
    · obtain ⟨rfl, rfl⟩ := List.cons.inj htext
      exact absurd (List.cons.inj hrest).1 (by decide)
    · obtain ⟨rfl, hinside⟩ := List.cons.inj htext
      obtain ⟨rfl, -⟩ := List.cons.inj hinside
      by_cases hend : rest = []
      · exact .inr ⟨[], by rw [htext, hend, List.append_nil, List.append_nil]⟩
      · exact absurd (leftOpen_of_text hfirst htext hend) h.outside

/-- The outermost references of a text that begins with one are that one and those behind it. -/
theorem text_append_iff {first : List Char} (hfirst : ')' ∉ first) :
    Outermost (text first ++ cs) before key after ↔
      (before = [] ∧ key = first ∧ after = cs) ∨
        ∃ start, before = text first ++ start ∧ Outermost cs start key after := by
  have hclose : ∀ start, LeftOpen (text first ++ start) ↔ LeftOpen start := by
    intro start
    rw [text, List.append_assoc, List.singleton_append, leftOpen_append_close]
  constructor
  · intro h
    rcases h.begins_or_behind hfirst with rfl | ⟨start, rfl⟩
    · have hsplit : text first ++ cs = text key ++ after := h.split
      obtain rfl : first = key :=
        key_eq_of_text_initial hfirst h.noBracket (hsplit ▸ List.prefix_append _ _)
      exact .inl ⟨rfl, rfl, (List.append_cancel_left hsplit).symm⟩
    · have hsplit := h.split
      rw [List.append_assoc] at hsplit
      exact .inr ⟨start, rfl, List.append_cancel_left hsplit, h.noBracket,
        fun hleft => h.outside ((hclose start).mpr hleft)⟩
  · intro h
    rcases h with ⟨rfl, rfl, rfl⟩ | ⟨start, rfl, hsplit, hkey, hout⟩
    · exact ⟨rfl, hfirst, not_leftOpen_nil⟩
    · exact ⟨by rw [hsplit, List.append_assoc], hkey, fun hleft => hout ((hclose start).mp hleft)⟩

end Outermost

theorem mem_keys_iff {cs : List Char} {keys : List (List Char)} (h : keys? cs = some keys)
    (key : List Char) : key ∈ keys ↔ ∃ before after, Outermost cs before key after := by
  induction cs using text_induction generalizing keys with
  | nil =>
    cases h
    refine iff_of_false List.not_mem_nil ?_
    intro hfound
    obtain ⟨before, after, hout⟩ := hfound
    exact absurd hout.bracket_mem List.not_mem_nil
  | char c cs hopen ih =>
    rw [keys?_cons hopen] at h
    rw [ih h]
    simp only [Outermost.cons_iff hopen]
    grind
  | ref first cs hfirst ih =>
    rw [keys?_ref hfirst, Option.map_eq_some_iff] at h
    obtain ⟨later, hlater, rfl⟩ := h
    rw [List.mem_cons, ih hlater]
    simp only [Outermost.text_append_iff hfirst]
    grind
  | unclosed cs hcs =>
    rw [keys?_unclosed hcs] at h
    cases h

/-! ## The order of the keys -/

/-- Some outermost reference to the first key stands to the left of all those to the second. -/
def Precedes (cs first second : List Char) : Prop :=
  ∃ before after, Outermost cs before first after ∧
    ∀ before' after', Outermost cs before' second after' → before.length < before'.length

theorem Precedes.cons {c : Char} {cs first second : List Char} (hopen : ¬ opener <+: c :: cs)
    (h : Precedes cs first second) : Precedes (c :: cs) first second := by
  obtain ⟨before, after, hfirst, hbefore⟩ := h
  refine ⟨c :: before, after, (Outermost.cons_iff hopen).mpr ⟨before, rfl, hfirst⟩, ?_⟩
  intro before' after' hsecond
  obtain ⟨start, rfl, hstart⟩ := (Outermost.cons_iff hopen).mp hsecond
  simpa using hbefore start after' hstart

theorem Precedes.text_append {key cs first second : List Char} (hkey : ')' ∉ key)
    (hsecond : second ≠ key) (h : Precedes cs first second) :
    Precedes (text key ++ cs) first second := by
  obtain ⟨before, after, hfirst, hbefore⟩ := h
  refine ⟨text key ++ before, after,
    (Outermost.text_append_iff hkey).mpr (.inr ⟨before, rfl, hfirst⟩), ?_⟩
  intro before' after' hfound
  rcases (Outermost.text_append_iff hkey).mp hfound with ⟨-, hsame, -⟩ | ⟨start, rfl, hstart⟩
  · exact absurd hsame hsecond
  · simpa using hbefore start after' hstart

theorem precedes_of_text_append {key cs second : List Char} (hkey : ')' ∉ key)
    (hsecond : second ≠ key) : Precedes (text key ++ cs) key second := by
  refine ⟨[], cs, (Outermost.text_append_iff hkey).mpr (.inl ⟨rfl, rfl, rfl⟩), ?_⟩
  intro before' after' hfound
  rcases (Outermost.text_append_iff hkey).mp hfound with ⟨-, hsame, -⟩ | ⟨start, rfl, -⟩
  · exact absurd hsame hsecond
  · simp [text, opener]

theorem pairwise_distinct_keys {cs : List Char} {keys : List (List Char)}
    (h : keys? cs = some keys) : (Text.distinct keys).Pairwise (Precedes cs) := by
  induction cs using text_induction generalizing keys with
  | nil =>
    cases h
    exact .nil
  | char c cs hopen ih =>
    rw [keys?_cons hopen] at h
    exact (ih h).imp (Precedes.cons hopen)
  | ref first cs hfirst ih =>
    rw [keys?_ref hfirst, Option.map_eq_some_iff] at h
    obtain ⟨later, hlater, rfl⟩ := h
    refine List.pairwise_cons.mpr ⟨?_, ?_⟩
    · intro second hsecond
      exact precedes_of_text_append hfirst (by simpa using (List.mem_filter.mp hsecond).2)
    · refine ((ih hlater).filter _).imp_of_mem ?_
      intro second third _ hthird hprecedes
      exact hprecedes.text_append hfirst (by simpa using (List.mem_filter.mp hthird).2)
  | unclosed cs hcs =>
    rw [keys?_unclosed hcs] at h
    cases h

/-! ## The keys of a line -/

theorem scope_eq (line : List Char) :
    (∃ before, line = before ++ ':' :: scope line ∧ ':' ∉ before) ∨
      (':' ∉ line ∧ scope line = line) := by
  unfold scope
  cases hcut : Text.cut? ':' line with
  | none => exact .inr ⟨Text.cut?_eq_none_iff.mp hcut, rfl⟩
  | some pair => exact .inl ⟨pair.1, Text.cut?_eq_some_iff.mp hcut⟩

theorem ofLine_eq_error_iff {index : Nat} {line : List Char} {error : RunError} :
    ofLine index line = .error error ↔
      error = .malformed index .referenceUnterminated ∧ LeftOpen (scope line) := by
  rw [← keys?_eq_none_iff, ofLine]
  cases keys? (scope line) with
  | none => simp [eq_comm]
  | some keys => simp

/-- **The outermost references of the scope are found.** With the scope of a line being what follows
its first colon, or the whole line, a fault at the index of the line is what comes of a reference
that opens behind the last closing bracket of the scope. If there is none, the keys of the outermost
references are found, each once, in the order in which they first appear. A reference that is left
open is reported whatever variables are declared. -/
theorem ofLine_finds_outermost (index : Nat) (line : String) :
    let text := scope line.toList
    ((∃ before, line.toList = before ++ ':' :: text ∧ ':' ∉ before) ∨
      (':' ∉ line.toList ∧ text = line.toList)) ∧
    (∀ error, ofLine index line.toList = .error error ↔
      error = .malformed index .referenceUnterminated ∧ LeftOpen text) ∧
    (¬ LeftOpen text → ∃ keys, ofLine index line.toList = .ok keys ∧ keys.Nodup ∧
      (∀ key, key ∈ keys ↔ ∃ before after, Outermost text before key after) ∧
      keys.Pairwise (Precedes text)) ∧
    (LeftOpen text → ∀ vars : Variables, vars.substitute index line =
      .error (.malformed index .referenceUnterminated)) := by
  intro text
  refine ⟨scope_eq line.toList, fun error => ofLine_eq_error_iff, ?_, ?_⟩
  · intro hclosed
    obtain ⟨keys, hkeys⟩ : ∃ keys, keys? text = some keys := by
      rwa [← Option.ne_none_iff_exists', ne_eq, keys?_eq_none_iff]
    refine ⟨Text.distinct keys, by rw [ofLine, hkeys], Text.nodup_distinct keys, ?_,
      pairwise_distinct_keys hkeys⟩
    intro key
    rw [Text.mem_distinct, mem_keys_iff hkeys]
  · intro hopen vars
    exact vars.substitute_of_unread (ofLine_eq_error_iff.mpr ⟨rfl, hopen⟩)

/-- A line with an opening within a key that occurs twice and two dollar signs in a row, and one
with a reference that is not closed behind another. -/
theorem nestedOpening_found :
    let line := "say $(x):$($(y)$$(z)$($(y)"
    (¬ LeftOpen (scope line.toList) ∧
      ofLine 3 line.toList = .ok ["$(y".toList, "z".toList] ∧
      (∃ before after, Outermost (scope line.toList) before "$(y".toList after) ∧
      ¬ (∃ before after, Outermost (scope line.toList) before "y".toList after) ∧
      Precedes (scope line.toList) "$(y".toList "z".toList) ∧
    let unclosed := "go $(nobody) $(x"
    LeftOpen (scope unclosed.toList) ∧ Variables.substitute {} 7 unclosed =
      .error (.malformed 7 .referenceUnterminated) := by
  intro line
  have hclosed : ¬ LeftOpen (scope line.toList) := by
    rw [← keys?_eq_none_iff]
    decide
  have hopen : LeftOpen (scope "go $(nobody) $(x".toList) := by
    rw [← keys?_eq_none_iff]
    decide
  obtain ⟨-, -, hfound, -⟩ := ofLine_finds_outermost 3 line
  obtain ⟨keys, hkeys, -, hmem, hordered⟩ := hfound hclosed
  have hline : ofLine 3 line.toList = .ok ["$(y".toList, "z".toList] := by decide
  obtain rfl : ["$(y".toList, "z".toList] = keys := Except.ok.inj (hline ▸ hkeys)
  refine ⟨⟨hclosed, hline, ?_, ?_, ?_⟩, hopen, ?_⟩
  · exact (hmem _).mp List.mem_cons_self
  · rw [← hmem]
    decide
  · exact (List.pairwise_cons.mp hordered).1 _ List.mem_cons_self
  · exact (ofLine_finds_outermost 7 "go $(nobody) $(x").2.2.2 hopen {}

end Reference

end MacroScript
