import MacroScript.Proofs.Filling
import MacroScript.Proofs.Order

/-! # What the tables of a run can hold

All that comes into the tables of a run has been read from a line, so names, counts and values have
the form in which lines give them, and every character in them stands in a line of the script.
Substitution does not spoil this, since a line is read after its references have been replaced by
values that were read before. A reference whose key has not the form of a name can therefore never
be replaced. -/

namespace MacroScript

/-! ## Where characters come from -/

theorem not_mem_of_mem_splitLines {cs line : List Char} (h : line ∈ splitLines cs) :
    '\r' ∉ line ∧ '\n' ∉ line := by
  fun_induction splitLines cs generalizing line with
  | case1 => cases h
  | case2 cs ih | case3 cs ih =>
    rcases List.mem_cons.mp h with rfl | hrest
    · simp
    · exact ih hrest
  | case4 cs _ ih =>
    rcases List.mem_cons.mp h with rfl | hrest
    · simp
    · exact ih hrest
  | case5 c cs _ hfeed hreturn hsplit ih =>
    obtain rfl := List.mem_singleton.mp h
    simp only [List.mem_singleton]
    exact ⟨Ne.symm hreturn, Ne.symm hfeed⟩
  | case6 c cs _ hfeed hreturn first rest hsplit ih =>
    rw [hsplit] at ih
    rcases List.mem_cons.mp h with rfl | hrest
    · obtain ⟨hreturns, hfeeds⟩ := ih List.mem_cons_self
      simp only [List.mem_cons, not_or]
      exact ⟨⟨Ne.symm hreturn, hreturns⟩, Ne.symm hfeed, hfeeds⟩
    · exact ih (List.mem_cons_of_mem first hrest)

theorem Script.not_mem_of_ofText {text line : String} (h : line ∈ (Script.ofText text).lines) :
    '\r' ∉ line.toList ∧ '\n' ∉ line.toList := by
  obtain ⟨cs, hcs, rfl⟩ := List.mem_map.mp h
  simpa using not_mem_of_mem_splitLines hcs

theorem Text.mem_of_mem_replaceAll {pattern replacement text : List Char} {c : Char}
    (h : c ∈ replaceAll pattern replacement text) : c ∈ replacement ∨ c ∈ text := by
  unfold replaceAll at h
  generalize 0 = skip at h
  fun_induction replaceSkipping pattern replacement skip text with
  | case1 => cases h
  | case2 skip d cs ih => exact (ih h).imp_right (List.mem_cons_of_mem d)
  | case3 d cs hpattern ih =>
    rcases List.mem_append.mp h with hmem | hmem
    · exact .inl hmem
    · exact (ih hmem).imp_right (List.mem_cons_of_mem d)
  | case4 d cs hpattern ih =>
    rcases List.mem_cons.mp h with rfl | hmem
    · exact .inr List.mem_cons_self
    · exact (ih hmem).imp_right (List.mem_cons_of_mem d)

namespace Variables

variable {vars : Variables} {index : Nat}

theorem mem_of_mem_replaceKeys {keys : List (List Char)} {line text : List Char} {c : Char}
    (h : vars.replaceKeys index keys line = .ok text) (hmem : c ∈ text) :
    c ∈ line ∨ ∃ key value, vars.get? key = some value ∧ c ∈ value.toList := by
  induction keys generalizing line with
  | nil =>
    cases h
    exact .inl hmem
  | cons key keys ih =>
    rw [replaceKeys] at h
    split at h
    · cases h
    · rename_i value hvalue
      rcases ih h with hreplaced | hfound
      · rcases Text.mem_of_mem_replaceAll hreplaced with hinserted | hline
        · exact .inr ⟨_, value, hvalue, hinserted⟩
        · exact .inl hline
      · exact .inr hfound

/-- A line after substitution is made of characters of the line and of values. -/
theorem mem_of_mem_substitute {line text : String} {c : Char}
    (h : vars.substitute index line = .ok text) (hmem : c ∈ text.toList) :
    c ∈ line.toList ∨ ∃ key value, vars.get? key = some value ∧ c ∈ value.toList := by
  obtain ⟨keys, -, hreplaced⟩ := substitute_eq_ok h
  exact mem_of_mem_replaceKeys hreplaced hmem

end Variables

/-! ## References that have no value -/

namespace Variables

variable {vars : Variables} {index : Nat}

theorem replaceKeys_of_missing (index : Nat) {keys : List (List Char)} {key : List Char}
    (hmem : key ∈ keys) (hmissing : vars.get? (String.ofList key) = none) (line : List Char) :
    ∃ missing ∈ keys, vars.replaceKeys index keys line =
      .error (.undefinedVariable index (String.ofList missing)) := by
  induction keys generalizing line with
  | nil => cases hmem
  | cons first rest ih =>
    cases hfirst : vars.get? (String.ofList first) with
    | none => exact ⟨first, List.mem_cons_self, by simp [replaceKeys, hfirst]⟩
    | some value =>
      have hrest : key ∈ rest := by
        rcases List.mem_cons.mp hmem with rfl | hrest
        · simp [hmissing] at hfirst
        · exact hrest
      obtain ⟨missing, hin, herror⟩ :=
        ih hrest (Text.replaceAll (Reference.text first) value.toList line)
      refine ⟨missing, List.mem_cons_of_mem first hin, ?_⟩
      rw [replaceKeys, hfirst]
      exact herror

/-- A line that refers to a key without a value is not substituted, though another key may be the
one that is reported. -/
theorem substitute_of_missing {line : String} {keys : List (List Char)} {key : List Char}
    (hkeys : Reference.ofLine index line.toList = .ok keys) (hmem : key ∈ keys)
    (hmissing : vars.get? (String.ofList key) = none) :
    ∃ missing ∈ keys, vars.substitute index line =
      .error (.undefinedVariable index (String.ofList missing)) := by
  obtain ⟨missing, hin, herror⟩ := replaceKeys_of_missing index hmem hmissing line.toList
  refine ⟨missing, hin, ?_⟩
  rw [substitute_of_keys vars hkeys, herror]
  rfl

end Variables

namespace Run

variable {σ : Type} {host : Host σ} {state : σ} {n index : Nat} {script : Script}

/-! ## What is read -/

theorem ExecutesAt.canonical {run : Run} {directive : Directive}
    (h : ExecutesAt host run state n index directive) : directive.Canonical := by
  obtain ⟨line, text, -, -, hread⟩ := directive?_eq_some_iff.mp h.reads
  exact (Directive.canonical_of_read (Directive.readAt_eq_ok_iff.mp hread)).1

/-- A character that stands in no line of the script stands in nothing that is read. The values that
are put into a line were read by earlier visits, so the induction is on the number of the visit. -/
theorem ExecutesAt.not_mem {c : Char} (hlines : ∀ line ∈ script.lines, c ∉ line.toList)
    {directive : Directive} (h : ExecutesAt host script.newRun state n index directive) :
    ∀ text ∈ directive.texts, c ∉ text.toList := by
  induction n using Nat.strongRecOn generalizing index directive with
  | _ n ih =>
    obtain ⟨line, text, hline, hsubstitute, hread⟩ := directive?_eq_some_iff.mp h.reads
    obtain ⟨-, hmem⟩ := Directive.canonical_of_read (Directive.readAt_eq_ok_iff.mp hread)
    intro part hpart hc
    rcases Variables.mem_of_mem_substitute hsubstitute (hmem part hpart c hc) with hold | hvalue
    · rw [Run.line?, script_drive] at hline
      exact hlines line (List.mem_of_getElem? hline) hold
    · obtain ⟨key, value, hfound, hin⟩ := hvalue
      obtain ⟨k, hk, declared, hexecutes⟩ := exists_executes_of_var hfound
      exact ih k hk hexecutes value (by simp [Directive.texts]) hin

/-- What the cursor and the tables of a run satisfy after `n` visits. -/
structure Represented (host : Host σ) (script : Script) (state : σ) (n : Nat) (run : Run) :
    Prop where
  cursor : run.cursor ≤ script.size
  label : ∀ name index, run.jumps.labels.get? name = some index →
    index < script.size ∧ IsLabelName name ∧
      LatestDeclaration host script.newRun state n name index
  counter : ∀ site left, run.jumps.counters.get? site = some left →
    ∃ count, ArmedWith host script.newRun state n site count ∧
      2 ≤ count.toNat ∧ count.toNat ≤ 4294967295 ∧ left ≤ count.toNat - 2
  var : ∀ key value, run.vars.get? key = some value →
    IsVariableName key ∧ ∀ c ∈ value.toList.getLast?, Text.isBlank c = false

theorem represented_drive (host : Host σ) (script : Script) (state : σ) (n : Nat) :
    Represented host script state n (script.newRun.drive host n state).run where
  cursor := by
    obtain ⟨m, hm, -, hcursor⟩ := exists_visited_iff_lt host script state n
    exact Nat.le_trans hcursor hm
  label name index h := by
    have hlatest := (labels_eq_some_iff host script state n name index).mp h
    have ⟨k, _, hexecutes, _⟩ := hlatest
    exact ⟨hexecutes.toVisitsAt.lt_size, hexecutes.canonical, hlatest⟩
  counter site left h := by
    obtain ⟨count, harmed, hleft⟩ := exists_armedWith h
    have hlt := count.toNat_lt
    exact ⟨count, harmed, by omega, by omega, by omega⟩
  var key value h := by
    obtain ⟨k, -, index, hexecutes⟩ := exists_executes_of_var h
    exact hexecutes.canonical

/-- A reference whose key no variable can have ends the run. -/
theorem VisitsAt.outcome_of_bad_key (h : VisitsAt host script.newRun state n index) {line : String}
    (hline : script.line? index = some line) {keys : List (List Char)}
    (hkeys : Reference.ofLine index line.toList = .ok keys) {key : List Char} (hmem : key ∈ keys)
    (hbad : ¬ IsVariableName (String.ofList key)) :
    ∃ missing ∈ keys, (script.newRun.drive host (n + 1) state).outcome =
      some (.failed (.undefinedVariable index (String.ofList missing))) := by
  have hmissing :
      (script.newRun.drive host n state).run.vars.get? (String.ofList key) = none := by
    cases hfound : (script.newRun.drive host n state).run.vars.get? (String.ofList key) with
    | none => rfl
    | some value =>
      exact absurd ((represented_drive host script state n).var _ _ hfound).1 hbad
  obtain ⟨missing, hin, herror⟩ := Variables.substitute_of_missing hkeys hmem hmissing
  have hhere : (script.newRun.drive host n state).run.line? = some line := by
    rw [Run.line?, script_drive, h.cursor]
    exact hline
  rw [← h.cursor] at herror ⊢
  exact ⟨missing, hin, h.outcome_of_error hhere (visit_of_unreplaced herror)⟩

/-- The character stands in no table of the run and in none of the commands. -/
structure FreeOf (c : Char) (run : Run) (commands : List String) : Prop where
  label : ∀ name index, run.jumps.labels.get? name = some index → c ∉ name.toList
  var : ∀ key value, run.vars.get? key = some value → c ∉ key.toList ∧ c ∉ value.toList
  command : ∀ command ∈ commands, c ∉ command.toList

theorem freeOf_drive {c : Char} (hlines : ∀ line ∈ script.lines, c ∉ line.toList) (host : Host σ)
    (state : σ) (n : Nat) :
    FreeOf c (script.newRun.drive host n state).run (script.newRun.forwarded host n state) where
  label name index h := by
    obtain ⟨k, -, hexecutes, -⟩ := (labels_eq_some_iff host script state n name index).mp h
    exact hexecutes.not_mem hlines name List.mem_cons_self
  var key value h := by
    obtain ⟨k, -, index, hexecutes⟩ := exists_executes_of_var h
    have htexts := hexecutes.not_mem hlines
    exact ⟨htexts key (by simp [Directive.texts]), htexts value (by simp [Directive.texts])⟩
  command command h := by
    obtain ⟨k, -, index, hexecutes⟩ := exists_executes_of_forwarded h
    exact hexecutes.not_mem hlines command List.mem_cons_self

/-- **What the tables of a run can hold.** After any number of visits, with any script and any host,
the cursor and the tables are well formed, and each entry is accounted for by a visit. A jump leads
right behind the latest declaration of its label, and so into the script or to its end. A visited
line that refers to a key which is empty, holds an equals sign or has a blank at an end fails the
run. If the lines are those of a text, no table entry and no forwarded command has a line
terminator in it. -/
theorem tables_well_formed (host : Host σ) (script : Script) (state : σ) (n : Nat) :
    Represented host script state n (script.newRun.drive host n state).run ∧
    (∀ site target, JumpsAt host script.newRun state n site target →
      target ≤ script.size ∧ ∃ label count line,
        ExecutesAt host script.newRun state n site (.jump label count) ∧
        LatestDeclaration host script.newRun state n label line ∧ target = line + 1) ∧
    (∀ index line keys key, VisitsAt host script.newRun state n index →
      script.line? index = some line → Reference.ofLine index line.toList = .ok keys →
      key ∈ keys → (key = [] ∨ '=' ∈ key ∨ Text.trimChars key ≠ key) →
      ∃ missing ∈ keys,
        let outcome := Outcome.failed (.undefinedVariable index (String.ofList missing))
        (script.newRun.drive host (n + 1) state).outcome = some outcome ∧
          outcome.change.state = .failed) ∧
    ∀ text, script = .ofText text → ∀ c ∈ ['\r', '\n'],
      FreeOf c (script.newRun.drive host n state).run (script.newRun.forwarded host n state) := by
  refine ⟨represented_drive host script state n, ?_, ?_, ?_⟩
  · intro site target hjumps
    obtain ⟨label, count, line, hexecutes, hlatest, rfl⟩ := hjumps.exists_declaration
    have ⟨k, _, hdeclares, _⟩ := hlatest
    exact ⟨hdeclares.toVisitsAt.lt_size, label, count, line, hexecutes, hlatest, rfl⟩
  · intro index line keys key hvisits hline hkeys hmem hbad
    have hname : ¬ IsVariableName (String.ofList key) := by
      rintro ⟨hnonempty, htrimmed, hequals⟩
      rw [String.toList_ofList] at hnonempty hequals
      rcases hbad with hempty | hsign | hblank
      · exact hnonempty hempty
      · exact hequals hsign
      · refine hblank ?_
        have := congrArg String.toList htrimmed
        rwa [Text.toList_trim, String.toList_ofList] at this
    obtain ⟨missing, hin, hfails⟩ := hvisits.outcome_of_bad_key hline hkeys hmem hname
    exact ⟨missing, hin, hfails, rfl⟩
  · rintro text rfl c hc
    refine freeOf_drive (fun line hline => ?_) host state n
    obtain ⟨hreturn, hfeed⟩ := Script.not_mem_of_ofText hline
    rcases List.mem_cons.mp hc with rfl | hlast
    · exact hreturn
    · rw [List.mem_singleton.mp hlast]
      exact hfeed

/-- A loop around nothing, and behind it a reference that is replaced and one that cannot be. -/
def waitsThenRefers : Script :=
  .ofText "var:x=ab\nlabel:top\r\njumpto:top,4\rgo $(x)\nsay $( x)"

theorem waitsThenRefers_tables :
    let host := Recorder.host { rejection := Recorder.rejectedByExecutor } false
    let run := (waitsThenRefers.newRun.drive host 3 {}).run
    (run.jumps.labels.get? "top" = some 1 ∧
      LatestDeclaration host waitsThenRefers.newRun {} 3 "top" 1) ∧
    (run.jumps.counters.get? 2 = some 2 ∧ ∃ count,
      ArmedWith host waitsThenRefers.newRun {} 3 2 count ∧ 2 ≤ count.toNat - 2) ∧
    (run.vars.get? "x" = some "ab" ∧ IsVariableName "x") ∧
    (VisitsAt host waitsThenRefers.newRun {} 7 4 ∧
      (waitsThenRefers.newRun.drive host 8 {}).outcome =
        some (.failed (.undefinedVariable 4 " x"))) ∧
    waitsThenRefers.newRun.forwarded host 8 {} = ["go ab"] ∧
      FreeOf '\r' (waitsThenRefers.newRun.drive host 8 {}).run ["go ab"] := by
  intro host run
  have htables : Represented host waitsThenRefers {} 3 run :=
    (tables_well_formed host waitsThenRefers ({} : Recording) 3).1
  obtain ⟨-, -, hrefers, -⟩ := tables_well_formed host waitsThenRefers ({} : Recording) 7
  obtain ⟨-, -, -, hfree⟩ := tables_well_formed host waitsThenRefers ({} : Recording) 8
  obtain ⟨hlabel, hcounter, hvar⟩ : run.jumps.labels.get? "top" = some 1 ∧
      run.jumps.counters.get? 2 = some 2 ∧ run.vars.get? "x" = some "ab" := by decide +kernel
  have hvisits : VisitsAt host waitsThenRefers.newRun {} 7 4 := by
    obtain ⟨hgoing, hcursor, hline⟩ :
        (waitsThenRefers.newRun.drive host 7 {}).outcome = none ∧
        (waitsThenRefers.newRun.drive host 7 {}).run.cursor = 4 ∧
        (waitsThenRefers.newRun.drive host 7 {}).run.line? ≠ none := by decide +kernel
    exact ⟨hgoing, hcursor, hline, rfl⟩
  have hforwarded : waitsThenRefers.newRun.forwarded host 8 {} = ["go ab"] := by decide +kernel
  refine ⟨⟨hlabel, ?_⟩, ⟨hcounter, ?_⟩, ⟨hvar, ?_⟩, ⟨hvisits, ?_⟩, hforwarded, ?_⟩
  · exact (htables.label "top" 1 hlabel).2.2
  · obtain ⟨count, harmed, -, -, hle⟩ := htables.counter 2 2 hcounter
    exact ⟨count, harmed, hle⟩
  · exact (htables.var "x" "ab" hvar).1
  · obtain ⟨missing, hin, hfails, -⟩ := hrefers 4 "say $( x)" [[' ', 'x']] [' ', 'x'] hvisits
      (by decide +kernel) rfl List.mem_cons_self (by decide)
    rw [List.mem_singleton.mp hin] at hfails
    exact hfails
  · rw [← hforwarded]
    exact hfree _ rfl '\r' (by simp)

end Run

end MacroScript
