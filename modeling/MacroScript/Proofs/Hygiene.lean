import MacroScript.Proofs.Driving
import MacroScript.Proofs.Filling
import MacroScript.Recorder

/-! # What is inserted is never searched

In a hygienic line every dollar sign opens a closed reference within the scope of the line. A script
of such lines stays clean: no value, key, label or command of its runs ever has a dollar sign, since
each comes from a line whose references have all been replaced by values that have none. With values
like that the references of a line are in effect replaced all at once. -/

namespace MacroScript

namespace Reference

/-- Every dollar sign of the line opens a closed reference, with neither a dollar sign nor a closing
bracket in its key, and stands behind the first colon if there is a colon. -/
structure Hygienic (line : List Char) : Prop where
  closed : ∀ before after, line = before ++ '$' :: after →
    ∃ key rest, after = '(' :: (key ++ ')' :: rest) ∧ '$' ∉ key ∧ ')' ∉ key
  inScope : ∀ before after, line = before ++ '$' :: after → ':' ∈ line → ':' ∈ before

/-! ## Hygienic lines are tidy -/

/-- A dollar sign that does not stand in the first part of a text stands in the second. -/
theorem eq_append_of_dollar {start cs before after : List Char} (hstart : '$' ∉ start)
    (h : start ++ cs = before ++ '$' :: after) :
    ∃ between, before = start ++ between ∧ cs = between ++ '$' :: after := by
  induction start generalizing before with
  | nil => exact ⟨before, rfl, h⟩
  | cons c start ih =>
    simp only [List.mem_cons, not_or] at hstart
    cases before with
    | nil => exact absurd (List.cons.inj h).1.symm hstart.1
    | cons d before =>
      obtain ⟨rfl, hrest⟩ := List.cons.inj h
      obtain ⟨between, rfl, hcs⟩ := ih hstart.2 hrest
      exact ⟨between, rfl, hcs⟩

theorem tidy_iff {cs : List Char} :
    Tidy cs ↔ ∀ before after, cs = before ++ '$' :: after →
      ∃ key rest, after = '(' :: (key ++ ')' :: rest) ∧ '$' ∉ key ∧ ')' ∉ key := by
  constructor
  · intro h
    induction h with
    | nil =>
      intro before after h
      simp at h
    | @char c cs plain rest ih =>
      intro before after h
      have hfirst : [c] ++ cs = before ++ '$' :: after := h
      obtain ⟨between, -, hcs⟩ := eq_append_of_dollar (by simpa using Ne.symm plain) hfirst
      exact ih _ _ hcs
    | @ref key cs noDollar noBracket rest ih =>
      intro before after h
      rw [text_append] at h
      cases before with
      | nil =>
        obtain ⟨-, rfl⟩ := List.cons.inj h
        exact ⟨key, cs, rfl, noDollar, noBracket⟩
      | cons d before =>
        have hinside : ('(' :: (key ++ [')'])) ++ cs = before ++ '$' :: after := by
          simpa using (List.cons.inj h).2
        obtain ⟨between, -, hcs⟩ := eq_append_of_dollar (by simpa using noDollar) hinside
        exact ih _ _ hcs
  · intro h
    -- a reference takes several characters at a time, so the induction is on the length
    induction hlength : cs.length using Nat.strong_induction_on generalizing cs with
    | _ length ih =>
      cases cs with
      | nil => exact .nil
      | cons c cs =>
        by_cases hc : c = '$'
        · obtain ⟨key, rest, rfl, hdollar, hbracket⟩ := h [] cs (by rw [hc]; rfl)
          rw [hc, ← text_append]
          refine .ref hdollar hbracket (ih rest.length ?_ ?_ rfl)
          · simp only [List.length_cons, List.length_append] at hlength
            omega
          · intro before after hrest
            refine h (text key ++ before) after ?_
            rw [hc, List.append_assoc, ← hrest, text_append]
        · refine .char hc (ih cs.length ?_ ?_ rfl)
          · rw [List.length_cons] at hlength
            omega
          · intro before after hcs
            exact h (c :: before) after (by rw [hcs]; rfl)

namespace Hygienic

variable {line : List Char}

theorem tidy (h : Hygienic line) : Tidy line := tidy_iff.mpr h.closed

theorem keys?_scope (h : Hygienic line) : keys? (scope line) = keys? line := by
  unfold scope
  split
  · rename_i before rest hcut
    obtain ⟨rfl, hcolon⟩ := Text.cut?_eq_some_iff.mp hcut
    have hplain : '$' ∉ before := by
      intro hdollar
      obtain ⟨start, after, rfl⟩ := List.append_of_mem hdollar
      refine hcolon (List.mem_append_left _ (h.inScope start (after ++ ':' :: rest) ?_ ?_))
      · simp
      · simp
    rw [keys?_plain hplain, keys?_char (by decide)]
  · rfl

end Hygienic

/-- A line is hygienic when there is no dollar sign up to a colon and the rest is tidy. -/
theorem hygienic_of_colon {before rest : List Char} (hbefore : '$' ∉ before) (hrest : Tidy rest) :
    Hygienic (before ++ ':' :: rest) := by
  refine ⟨tidy_iff.mp (.plain_append hbefore (.char (by decide) hrest)), ?_⟩
  intro start after h _
  have hcolon : (before ++ [':']) ++ rest = start ++ '$' :: after := by simpa using h
  obtain ⟨between, rfl, -⟩ := eq_append_of_dollar (by simpa using hbefore) hcolon
  simp

end Reference

/-! ## Substitution in a hygienic line -/

namespace Variables

def Inert (vars : Variables) : Prop := ∀ key, ∀ value ∈ vars.value? key, '$' ∉ value

/-- In a hygienic line the first key without a value is reported, or all references are replaced at
once. -/
theorem substitute_eq_fill {vars : Variables} (hvars : vars.Inert) (index : Nat) {line : String}
    (h : Reference.Hygienic line.toList) :
    ∃ keys, Reference.keys? line.toList = some keys ∧
      vars.substitute index line =
        match keys.find? fun key => (vars.value? key).isNone with
        | some key => .error (.undefinedVariable index (String.ofList key))
        | none => .ok (String.ofList (Reference.fill vars.value? line.toList)) := by
  obtain ⟨keys, hkeys⟩ := h.tidy.exists_keys
  refine ⟨keys, hkeys, ?_⟩
  have hofLine : Reference.ofLine index line.toList = .ok (Text.distinct keys) := by
    rw [Reference.ofLine, h.keys?_scope, hkeys]
  have hbracket : ∀ key ∈ Text.distinct keys, ')' ∉ key := fun key hkey =>
    Reference.not_mem_of_mem_scan (by simp) hkeys key (Text.mem_distinct.mp hkey)
  have hreplace := vars.replaceKeys_eq_fill index h.tidy hbracket fun key _ => hvars key
  rw [Text.find?_distinct] at hreplace
  rw [substitute_of_keys vars hofLine, hreplace]
  cases keys.find? fun key => (vars.value? key).isNone with
  | some key => rfl
  | none =>
    dsimp only
    rw [h.tidy.fill_congr hkeys fun key hkey => if_pos (Text.mem_distinct.mpr hkey)]
    rfl

theorem not_mem_of_substitute {vars : Variables} (hvars : vars.Inert) {index : Nat}
    {line text : String} (h : Reference.Hygienic line.toList)
    (hsubstitute : vars.substitute index line = .ok text) : '$' ∉ text.toList := by
  obtain ⟨keys, hkeys, hfill⟩ := substitute_eq_fill hvars index h
  rw [hsubstitute] at hfill
  split at hfill
  · cases hfill
  · rename_i hdeclared
    cases hfill
    rw [String.toList_ofList]
    refine h.tidy.not_mem_fill hkeys fun key hkey => ?_
    have hsome : (vars.value? key).isNone ≠ true := List.find?_eq_none.mp hdeclared key hkey
    obtain ⟨value, hvalue⟩ : ∃ value, vars.value? key = some value := by
      simpa [Option.ne_none_iff_exists'] using hsome
    exact ⟨value, hvalue, hvars key value hvalue⟩

end Variables

/-! ## Clean runs -/

namespace Run

/-- No variable and no label has a dollar sign. -/
structure Clean (run : Run) : Prop where
  vars : ∀ entry ∈ run.vars.entries, '$' ∉ entry.1.toList ∧ '$' ∉ entry.2.toList
  labels : ∀ entry ∈ run.jumps.labels.entries, '$' ∉ entry.1.toList

theorem Clean.inert {run : Run} (h : run.Clean) : run.vars.Inert := by
  intro key value hvalue
  obtain ⟨stored, hget, rfl⟩ := Option.map_eq_some_iff.mp hvalue
  exact (h.vars _ (Table.mem_of_get? hget)).2

/-- A directive without a dollar sign leaves a clean run clean. -/
theorem Clean.obeyed {run next : Run} {directive : Directive} (h : run.Clean)
    (hdirective : ∀ text ∈ directive.texts, '$' ∉ text.toList)
    (hobeyed : Obeyed run directive next) : next.Clean := by
  cases hobeyed with
  | label name =>
    refine ⟨h.vars, fun entry hentry => ?_⟩
    rcases Table.mem_set hentry with rfl | hold
    · exact hdirective name List.mem_cons_self
    · exact h.labels entry hold
  | var key value =>
    refine ⟨fun entry hentry => ?_, h.labels⟩
    rcases Table.mem_set hentry with rfl | hold
    · exact ⟨hdirective key List.mem_cons_self,
        hdirective value (List.mem_cons_of_mem key List.mem_cons_self)⟩
    · exact h.vars entry hold
  | jump decided =>
    obtain ⟨line, -, hresolved⟩ := Jumps.resolve_eq_ok decided
    exact ⟨h.vars, hresolved.labels ▸ h.labels⟩
  | command text => exact ⟨h.vars, h.labels⟩

/-- What a clean run reads from a hygienic line has no dollar sign. -/
theorem Clean.texts {run : Run} (h : run.Clean)
    (hscript : ∀ line ∈ run.script.lines, Reference.Hygienic line.toList) {directive : Directive}
    (hdirective : run.directive? = some directive) :
    ∀ text ∈ directive.texts, '$' ∉ text.toList := by
  obtain ⟨line, text, hline, hsubstitute, hread⟩ := directive?_eq_some_iff.mp hdirective
  have hplain : '$' ∉ text.toList := Variables.not_mem_of_substitute h.inert
    (hscript line (List.mem_of_getElem? hline)) hsubstitute
  obtain ⟨-, hmem⟩ := Directive.canonical_of_read (Directive.readAt_eq_ok_iff.mp hread)
  exact fun found hfound hdollar => hplain (hmem found hfound _ hdollar)

/-- Visits of a script of hygienic lines keep the run clean and forward no dollar sign. -/
theorem visitsKeep_clean {script : Script}
    (hscript : ∀ line ∈ script.lines, Reference.Hygienic line.toList) :
    VisitsKeep (fun run => run.Clean ∧ run.script = script) fun command =>
      '$' ∉ command.toList := by
  rintro run left line visit ⟨hclean, rfl⟩ hline hvisit
  obtain ⟨directive, hdirective, hobey⟩ := directive?_of_visit hline hvisit
  have htexts := hclean.texts hscript hdirective
  refine ⟨fun next hnext => ?_, ?_⟩
  · have hobeyed := obeyed_of_obey hobey hnext
    exact ⟨hclean.obeyed htexts hobeyed, hobeyed.script⟩
  rintro command rfl
  obtain ⟨rfl, -⟩ := obey_eq_forward hobey
  exact htexts command List.mem_cons_self

/-- **What is inserted is never searched.** In every run of a script of hygienic lines, with any
host, no variable, no label, nothing that a line is read as and nothing that is forwarded has a
dollar sign. Each line that is reached either fails with the first of its keys that has not been
declared, or has all its references replaced at once, each by the value that its variable then
has. -/
theorem inserted_never_searched {σ : Type} {script : Script}
    (hscript : ∀ line ∈ script.lines, Reference.Hygienic line.toList) (host : Host σ) (state : σ)
    (n : Nat) :
    let start : Run := { script }
    let run := (start.drive host n state).run
    (∀ entry ∈ run.vars.entries, '$' ∉ entry.1.toList ∧ '$' ∉ entry.2.toList) ∧
    (∀ entry ∈ run.jumps.labels.entries, '$' ∉ entry.1.toList) ∧
    (∀ directive, run.directive? = some directive →
      ∀ text ∈ directive.texts, '$' ∉ text.toList) ∧
    (∀ command ∈ start.forwarded host n state, '$' ∉ command.toList) ∧
    ∀ line, run.line? = some line →
      ∃ keys, Reference.keys? line.toList = some keys ∧
        run.vars.substitute run.cursor line =
          match keys.find? fun key => (run.vars.value? key).isNone with
          | some key => .error (.undefinedVariable run.cursor (String.ofList key))
          | none => .ok (String.ofList (Reference.fill run.vars.value? line.toList)) := by
  intro start run
  have hstart : start.Clean := ⟨by simp [start], by simp [start]⟩
  obtain ⟨⟨hclean, hsame⟩, hforwarded⟩ :=
    (visitsKeep_clean hscript).drive host n ⟨hstart, rfl⟩ state
  have hlines : ∀ line ∈ run.script.lines, Reference.Hygienic line.toList := by rwa [hsame]
  refine ⟨hclean.vars, hclean.labels, fun directive => hclean.texts hlines, hforwarded,
    fun line hline => ?_⟩
  exact Variables.substitute_eq_fill hclean.inert run.cursor
    (hlines line (List.mem_of_getElem? hline))

end Run

/-- A variable whose value is made of the value of another, and a label and a command that are made
of both. -/
def chained : Script := ⟨["var:x=a", "var:y=$(x)b", "label:$(y)", "say:$(y)$(x)"]⟩

theorem chained_hygienic : ∀ line ∈ chained.lines, Reference.Hygienic line.toList := by
  have hx : ∀ {cs}, Reference.Tidy cs → Reference.Tidy (Reference.text ['x'] ++ cs) :=
    .ref (by decide) (by decide)
  have hy : ∀ {cs}, Reference.Tidy cs → Reference.Tidy (Reference.text ['y'] ++ cs) :=
    .ref (by decide) (by decide)
  simp only [chained, List.forall_mem_cons]
  refine ⟨?_, ?_, ?_, ?_, by simp⟩
  · exact Reference.hygienic_of_colon (show '$' ∉ "var".toList by decide)
      (.plain_append (show '$' ∉ "x=a".toList by decide) .nil)
  · exact Reference.hygienic_of_colon (show '$' ∉ "var".toList by decide)
      (.plain_append (show '$' ∉ "y=".toList by decide) (hx (.char (by decide) .nil)))
  · exact Reference.hygienic_of_colon (show '$' ∉ "label".toList by decide) (hy .nil)
  · exact Reference.hygienic_of_colon (show '$' ∉ "say".toList by decide) (hy (hx .nil))

theorem chained_inserts :
    let host := Recorder.host { rejection := Recorder.rejectedByExecutor } false
    let start : Run := { script := chained }
    (∀ line ∈ chained.lines, Reference.Hygienic line.toList) ∧
    start.forwarded host 4 {} = ["say:aba"] ∧
    (∀ command ∈ start.forwarded host 4 {}, '$' ∉ command.toList) ∧
    (start.drive host 4 {}).run.jumps.labels.entries = [("ab", 2)] ∧
    ∀ entry ∈ (start.drive host 4 {}).run.jumps.labels.entries, '$' ∉ entry.1.toList := by
  intro host start
  obtain ⟨-, hlabels, -, hforwarded, -⟩ :=
    Run.inserted_never_searched chained_hygienic host ({} : Recording) 4
  exact ⟨chained_hygienic, by decide +kernel, hforwarded, by decide +kernel, hlabels⟩

end MacroScript
