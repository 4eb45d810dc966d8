import MacroScript.Proofs.Driving
import MacroScript.Proofs.Reading
import MacroScript.Recorder

/-! # Loops mean repetition

A `Block` is a program with loops in place of labels and jumps. Its meaning runs the body of a loop
as often as the count says. Written out as a script, a loop is a label, the lines of its body and a
counted jump back; the run of that script forwards the commands of the meaning. The counter of a
jump is armed on the way through the body and taken away again at the end, so each piece leaves the
counters as it found them, and that is what lets pieces be put together. -/

namespace MacroScript

/-! ## Programs and their meaning -/

/-- What a piece of program does to the variables and which commands it gives, if it can be run. -/
abbrev Meaning := Variables → Option (Variables × List String)

namespace Meaning

/-- Nothing at all. -/
def skip : Meaning := fun vars => some (vars, [])

/-- One piece after another. -/
def andThen (first second : Meaning) : Meaning := fun vars =>
  (first vars).bind fun (vars, commands) =>
    (second vars).map fun (vars, more) => (vars, commands ++ more)

/-- The same piece a number of times. -/
def times (meaning : Meaning) : Nat → Meaning
  | 0 => skip
  | n + 1 => meaning.andThen (meaning.times n)

/-- A line that is a command or declares a variable once its variables have been replaced. -/
def ofLine (line : String) : Meaning := fun vars =>
  match vars.substitute 0 line >>= Directive.readAt 0 with
  | .ok (.command text) => some (vars, [text])
  | .ok (.var key value) => some (vars.set key value, [])
  | _ => none

theorem andThen_eq_some_iff {first second : Meaning} {vars next : Variables}
    {commands : List String} :
    first.andThen second vars = some (next, commands) ↔
      ∃ between before after, first vars = some (between, before) ∧
        second between = some (next, after) ∧ commands = before ++ after := by
  simp only [andThen, Option.bind_eq_some_iff, Option.map_eq_some_iff, Prod.exists, Prod.mk.injEq]
  constructor
  · rintro ⟨between, before, hfirst, _, after, hsecond, rfl, rfl⟩
    exact ⟨between, before, after, hfirst, hsecond, rfl⟩
  · rintro ⟨between, before, after, hfirst, hsecond, rfl⟩
    exact ⟨between, before, hfirst, next, after, hsecond, rfl, rfl⟩

end Meaning

/-- A program with loops: its items in order, each a plain line or a loop with a label, a count and
a body. -/
inductive Block where
  | done
  | leaf (line : String) (rest : Block)
  | loop (label : String) (count : UInt32) (body rest : Block)

namespace Block

/-- The meaning of a program: its items from left to right, and the body of a loop as often as the
count says. -/
def meaning : Block → Meaning
  | done => .skip
  | leaf line rest => (Meaning.ofLine line).andThen rest.meaning
  | loop _ count body rest => (body.meaning.times count.toNat).andThen rest.meaning

/-- The program as lines of a script. -/
def lines : Block → List String
  | done => []
  | leaf line rest => [line] ++ rest.lines
  | loop label count body rest =>
    ([Directive.print (.label label)] ++ body.lines ++ [Directive.print (.jump label (some count))])
      ++ rest.lines

/-- Each loop has a count, and a name that can be written as a label, holds no reference and is not
the name of a loop `around` it. -/
def WellNested (around : List String) : Block → Prop
  | done => True
  | leaf _ rest => rest.WellNested around
  | loop label count body rest =>
    (IsLabelName label ∧ Reference.present label.toList = false) ∧ count ≠ 0 ∧ label ∉ around ∧
      body.WellNested (label :: around) ∧ rest.WellNested around

instance decidableWellNested (around : List String) :
    (block : Block) → Decidable (block.WellNested around)
  | done => .isTrue trivial
  | leaf _ rest => decidableWellNested around rest
  | loop label _ body rest =>
    have := decidableWellNested (label :: around) body
    have := decidableWellNested around rest
    inferInstanceAs (Decidable (_ ∧ _))

end Block

/-! ## Lines within a script -/

/-- The lines stand in the script from an index on. -/
def Script.Holds (script : Script) (index : Nat) (lines : List String) : Prop :=
  lines <+: script.lines.drop index

namespace Script.Holds

variable {script : Script} {index : Nat} {lines more : List String}

theorem head {line : String} (h : script.Holds index (line :: lines)) :
    script.line? index = some line := by
  obtain ⟨rest, hrest⟩ := h
  have := congrArg (·[0]?) hrest
  simpa [Script.line?] using this.symm

theorem left (h : script.Holds index (lines ++ more)) : script.Holds index lines :=
  (List.prefix_append lines more).trans h

theorem right (h : script.Holds index (lines ++ more)) :
    script.Holds (index + lines.length) more := by
  obtain ⟨rest, hrest⟩ := h
  refine ⟨rest, ?_⟩
  rw [← List.drop_drop, ← hrest, List.append_assoc, List.drop_left]

theorem tail {line : String} (h : script.Holds index (line :: lines)) :
    script.Holds (index + 1) lines := by
  rw [← List.singleton_append] at h
  exact h.right

end Script.Holds

/-! ## Visits to the lines of a program -/

namespace Run

theorem visit_of_directive {run : Run} {line text : String} {directive : Directive}
    (hs : run.vars.substitute run.cursor line = .ok text)
    (hd : Directive.read text = .ok directive) :
    (Run.visit line).run run = (obey run.cursor directive).run run :=
  visit_of_read hs (Directive.readAt_eq_ok_iff.mpr hd)

theorem visit_label (run : Run) {label : String} (hname : IsLabelName label)
    (href : Reference.present label.toList = false) :
    (Run.visit (Directive.print (.label label))).run run =
      .ok .moved { run.proceed with jumps := run.jumps.declare label run.cursor } :=
  visit_of_directive (run.vars.substitute_of_not_present run.cursor
    (Directive.present_print_label href)) (Directive.read_print_label hname)

theorem visit_jump (run : Run) {label : String} {count : UInt32} (hname : IsLabelName label)
    (href : Reference.present label.toList = false) (hcount : count ≠ 0) :
    (Run.visit (Directive.print (.jump label (some count)))).run run =
      (obey run.cursor (.jump label (some count))).run run :=
  visit_of_directive (run.vars.substitute_of_not_present run.cursor
    (Directive.present_print_jump href count)) (Directive.read_print_jump hname hcount)

end Run

/-- The replaced line does not depend on the index, which only errors name. -/
theorem Variables.replaceKeys_index {vars : Variables} {i : Nat} (j : Nat)
    {keys : List (List Char)} {line text : List Char}
    (h : vars.replaceKeys i keys line = .ok text) : vars.replaceKeys j keys line = .ok text := by
  induction keys generalizing line with
  | nil => exact h
  | cons key keys ih =>
    simp only [replaceKeys] at h ⊢
    split at h
    · cases h
    · exact ih h

theorem Variables.substitute_index {vars : Variables} {i : Nat} (j : Nat) {line text : String}
    (h : vars.substitute i line = .ok text) : vars.substitute j line = .ok text := by
  obtain ⟨keys, hkeys, hreplaced⟩ := substitute_eq_ok h
  have hkeys' : Reference.ofLine j line.toList = .ok keys := by
    unfold Reference.ofLine at hkeys ⊢
    split at hkeys
    · exact hkeys
    · cases hkeys
  rw [substitute_of_keys vars hkeys', vars.replaceKeys_index j hreplaced, Except.map,
    String.ofList_toList]

theorem Meaning.ofLine_eq_some {line : String} {vars next : Variables} {commands : List String}
    (h : Meaning.ofLine line vars = some (next, commands)) :
    ∃ text, vars.substitute 0 line = .ok text ∧
      ((∃ command, Directive.read text = .ok (.command command) ∧ next = vars ∧
          commands = [command]) ∨
        ∃ key value, Directive.read text = .ok (.var key value) ∧ next = vars.set key value ∧
          commands = []) := by
  unfold ofLine at h
  cases hs : vars.substitute 0 line with
  | error error => simp [hs, bind, Except.bind] at h
  | ok text =>
    refine ⟨text, rfl, ?_⟩
    cases hd : Directive.readAt 0 text with
    | error error => simp [hs, hd, bind, Except.bind] at h
    | ok directive =>
      have hread := Directive.readAt_eq_ok_iff.mp hd
      cases directive with
      | command command =>
        simp only [hs, hd, bind, Except.bind, Option.some.injEq, Prod.mk.injEq] at h
        exact .inl ⟨command, hread, h.1.symm, h.2.symm⟩
      | var key value =>
        simp only [hs, hd, bind, Except.bind, Option.some.injEq, Prod.mk.injEq] at h
        exact .inr ⟨key, value, hread, h.1.symm, h.2.symm⟩
      | label _ | jump _ _ | finish => simp [hs, hd, bind, Except.bind] at h

/-! ## Passing through a piece of program -/

section Passing

variable {σ : Type} {host : Host σ}

/-- If the run stands at the start of the lines with none of their counters armed, it goes through
them with the given meaning and comes to the line after them. All counters are then as before, and
so are the labels that are to be `kept`. -/
def PassesFrom (host : Host σ) (lines : List String) (meaning : Meaning) (kept : List String)
    (run : Run) : Prop :=
  ∀ (state : σ) (record : List String) (vars : Variables) (commands : List String),
    run.script.Holds run.cursor lines →
    (∀ site, run.cursor ≤ site → site < run.cursor + lines.length →
      run.jumps.counters.get? site = none) →
    meaning run.vars = some (vars, commands) →
    ∃ visits jumps state',
      run.drive host.recorded visits (state, record) =
        ⟨none, { run with cursor := run.cursor + lines.length, vars, jumps },
          (state', record ++ commands)⟩ ∧
      (∀ site, jumps.counters.get? site = run.jumps.counters.get? site) ∧
      ∀ name ∈ kept, jumps.labels.get? name = run.jumps.labels.get? name

/-- Wherever the lines stand in a script, a run passes through them. -/
def Passes (host : Host σ) (lines : List String) (meaning : Meaning) (kept : List String) : Prop :=
  ∀ run : Run, PassesFrom host lines meaning kept run

theorem passes_skip (host : Host σ) (kept : List String) : Passes host [] .skip kept := by
  intro run state record vars commands _ _ hmeaning
  obtain ⟨rfl, rfl⟩ : run.vars = vars ∧ [] = commands := by simpa [Meaning.skip] using hmeaning
  exact ⟨0, run.jumps, state, by simp [Run.drive], fun _ => rfl, fun _ _ => rfl⟩

theorem PassesFrom.andThen {lines more : List String} {first second : Meaning}
    {kept : List String} {run : Run} (hfirst : PassesFrom host lines first kept run)
    (hsecond : Passes host more second kept) :
    PassesFrom host (lines ++ more) (first.andThen second) kept run := by
  intro state record vars commands hlines hfree hmeaning
  obtain ⟨between, before, after, hm₁, hm₂, rfl⟩ := Meaning.andThen_eq_some_iff.mp hmeaning
  rw [List.length_append] at hfree
  obtain ⟨n₁, jumps₁, state₁, hdrive₁, hcounters₁, hlabels₁⟩ :=
    hfirst state record between before hlines.left (fun site _ _ => hfree site (by omega)
      (by omega)) hm₁
  obtain ⟨n₂, jumps₂, state₂, hdrive₂, hcounters₂, hlabels₂⟩ :=
    hsecond { run with cursor := run.cursor + lines.length, vars := between, jumps := jumps₁ }
      state₁ (record ++ before) vars after hlines.right
      (fun site hlow hhigh => by
        dsimp only at hlow hhigh ⊢
        rw [hcounters₁]
        exact hfree site (by omega) (by omega)) hm₂
  refine ⟨n₁ + n₂, jumps₂, state₂, ?_, fun site => (hcounters₂ site).trans (hcounters₁ site),
    fun name hname => (hlabels₂ name hname).trans (hlabels₁ name hname)⟩
  rw [Run.drive_add_of_none hdrive₁, hdrive₂, List.length_append, Nat.add_assoc, List.append_assoc]

theorem Passes.andThen {lines more : List String} {first second : Meaning} {kept : List String}
    (hfirst : Passes host lines first kept) (hsecond : Passes host more second kept) :
    Passes host (lines ++ more) (first.andThen second) kept :=
  fun run => (hfirst run).andThen hsecond

theorem passes_leaf (hp : host.Patient) (ha : host.Accepting) (line : String)
    (kept : List String) : Passes host [line] (.ofLine line) kept := by
  intro run state record vars commands hlines _ hmeaning
  have hline : run.line? = some line := hlines.head
  have hpoll : host.recorded.poll (state, record) = (false, (host.poll state).2, record) := by
    simp [Host.recorded, hp state]
  obtain ⟨text, hs, ⟨command, hd, rfl, rfl⟩ | ⟨key, value, hd, rfl, rfl⟩⟩ :=
    Meaning.ofLine_eq_some hmeaning
  · have hvisit := Run.visit_of_directive (run.vars.substitute_index run.cursor hs) hd
    have hexecute : host.recorded.execute command ((host.poll state).2, record) =
        (none, (host.execute command (host.poll state).2).2, record ++ [command]) := by
      simp [Host.recorded, ha command]
    refine ⟨1, run.jumps, (host.execute command (host.poll state).2).2, ?_, fun _ => rfl,
      fun _ _ => rfl⟩
    rw [Run.drive_succ_of_forward hline hpoll hvisit hexecute 0]
    rfl
  · have hvisit := Run.visit_of_directive (run.vars.substitute_index run.cursor hs) hd
    refine ⟨1, run.jumps, (host.poll state).2, ?_, fun _ => rfl, fun _ _ => rfl⟩
    rw [Run.drive_succ_of_moved hline hpoll hvisit 0, List.append_nil]
    rfl

/-- The run stands at the line right behind the declaration of the label. -/
def Run.Behind (run : Run) (label : String) : Prop :=
  (run.jumps.labels.get? label).map (· + 1) = some run.cursor

/-- From the start of the body of a loop, a run goes through the body and then does what the jump
at its end decides. -/
theorem body_then_jump (hp : host.Patient) {label : String} (hname : IsLabelName label)
    (href : Reference.present label.toList = false) {count : UInt32} (hcount : count ≠ 0)
    {body kept : List String} {meaning : Meaning} {run : Run}
    (hbody : PassesFrom host body meaning kept run)
    (state : σ) (record : List String) {vars : Variables} {commands : List String}
    (hlines : run.script.Holds run.cursor (body ++ [Directive.print (.jump label (some count))]))
    (hfree : ∀ site, run.cursor ≤ site → site < run.cursor + body.length →
      run.jumps.counters.get? site = none)
    (hmeaning : meaning run.vars = some (vars, commands)) :
    ∃ (visits : Nat) (jumps : Jumps) (state' : σ),
      (∀ site, jumps.counters.get? site = run.jumps.counters.get? site) ∧
      (∀ name ∈ kept, jumps.labels.get? name = run.jumps.labels.get? name) ∧
      ∀ (transfer : Transfer) (next : Jumps),
        (Jumps.resolve (run.cursor + body.length) label (some count)).run jumps =
          .ok transfer next →
        run.drive host.recorded visits (state, record) =
          ⟨none, { run with cursor := transfer.target, vars, jumps := next },
            (state', record ++ commands)⟩ := by
  obtain ⟨visits, jumps, state', hdrive, hcounters, hlabels⟩ :=
    hbody state record vars commands hlines.left hfree hmeaning
  refine ⟨visits + 1, jumps, (host.poll state').2, hcounters, hlabels, ?_⟩
  intro transfer next hresolve
  have hpoll : host.recorded.poll (state', record ++ commands) =
      (false, (host.poll state').2, record ++ commands) := by
    simp [Host.recorded, hp state']
  let site : Run := { run with cursor := run.cursor + body.length, vars, jumps }
  have hline : site.line? = some (Directive.print (.jump label (some count))) := hlines.right.head
  have hvisit := (site.visit_jump hname href hcount).trans (Run.obey_jump_of_ok hresolve)
  rw [Run.drive_add_of_none hdrive, Run.drive_succ_of_moved hline hpoll hvisit 0]
  rfl

/-- From the start of its body, a loop whose counter allows `left` further jumps runs the body once
more than that, and then leaves the counter disarmed. It makes no difference whether the counter is
armed already or is still to be armed from the count. -/
theorem iterations_pass (hp : host.Patient) {label : String} (hname : IsLabelName label)
    (href : Reference.present label.toList = false) {count : UInt32} (hcount : count ≠ 0)
    {body kept : List String} {meaning : Meaning}
    (hbody : ∀ run : Run, run.Behind label → PassesFrom host body meaning (label :: kept) run)
    (left : Nat) :
    ∀ (run : Run) (state : σ) (record : List String) (vars : Variables) (commands : List String),
      run.script.Holds run.cursor (body ++ [Directive.print (.jump label (some count))]) →
      (∀ site, run.cursor ≤ site → site < run.cursor + body.length →
        run.jumps.counters.get? site = none) →
      run.Behind label →
      (run.jumps.counters.get? (run.cursor + body.length)).getD (count.toNat - 1) = left →
      meaning.times (left + 1) run.vars = some (vars, commands) →
      ∃ visits jumps state',
        run.drive host.recorded visits (state, record) =
          ⟨none, { run with cursor := run.cursor + body.length + 1, vars, jumps },
            (state', record ++ commands)⟩ ∧
        (∀ site, jumps.counters.get? site =
          if run.cursor + body.length = site then none else run.jumps.counters.get? site) ∧
        ∀ name ∈ kept, jumps.labels.get? name = run.jumps.labels.get? name := by
  induction left with
  | zero =>
    intro run state record vars commands hlines hfree hlabel hleft hmeaning
    obtain ⟨between, before, after, hm, hskip, rfl⟩ := Meaning.andThen_eq_some_iff.mp hmeaning
    obtain ⟨rfl, rfl⟩ : between = vars ∧ [] = after := by
      simpa [Meaning.times, Meaning.skip] using hskip
    obtain ⟨visits, jumps, state', hcounters, hlabels, hjump⟩ :=
      body_then_jump hp hname href hcount (hbody run hlabel) state record hlines hfree hm
    obtain ⟨line, hline, -⟩ := Option.map_eq_some_iff.mp hlabel
    rw [← hcounters] at hleft
    have hresolve :=
      Jumps.resolve_spent ((hlabels label List.mem_cons_self).trans hline) hleft
    refine ⟨visits, { jumps with counters := jumps.counters.erase (run.cursor + body.length) },
      state', ?_, fun site => ?_, fun name hmem => ?_⟩
    · rw [List.append_nil]
      exact hjump _ _ hresolve
    · rw [Table.get?_erase, hcounters]
    · exact hlabels name (List.mem_cons_of_mem label hmem)
  | succ left ih =>
    intro run state record vars commands hlines hfree hlabel hleft hmeaning
    obtain ⟨between, before, after, hm, hagain, rfl⟩ := Meaning.andThen_eq_some_iff.mp hmeaning
    obtain ⟨visits, jumps, state', hcounters, hlabels, hjump⟩ :=
      body_then_jump hp hname href hcount (hbody run hlabel) state record hlines hfree hm
    obtain ⟨line, hline, hcursor⟩ := Option.map_eq_some_iff.mp hlabel
    rw [← hcounters] at hleft
    have hresolve := Jumps.resolve_left ((hlabels label List.mem_cons_self).trans hline) hleft
    rw [hcursor] at hresolve
    obtain ⟨visits', jumps', state'', hdrive, hcounters', hlabels'⟩ :=
      ih { run with
          vars := between
          jumps := { jumps with counters := jumps.counters.set (run.cursor + body.length) left } }
        state' (record ++ before) vars after hlines
        (fun site hlow hhigh => by
          dsimp only at hlow hhigh ⊢
          rw [Table.get?_set, if_neg (by omega), hcounters]
          exact hfree site hlow hhigh)
        (by rw [Run.Behind, ← hlabel, ← hlabels label List.mem_cons_self])
        (by simp [Table.get?_set]) hagain
    refine ⟨visits + visits', jumps', state'', ?_, fun site => ?_, fun name hmem => ?_⟩
    · rw [Run.drive_add_of_none (hjump _ _ hresolve), ← List.append_assoc]
      exact hdrive
    · rw [hcounters' site]
      split
      · rfl
      · rename_i hsite
        dsimp only
        rw [Table.get?_set, if_neg hsite, hcounters]
    · rw [hlabels' name hmem]
      exact hlabels name (List.mem_cons_of_mem label hmem)

/-- Behind the label, the body with the jump at its end passes as the body does, as often as the
count says. -/
theorem passes_counted (hp : host.Patient) {label : String} (hname : IsLabelName label)
    (href : Reference.present label.toList = false) {count : UInt32} (hcount : count ≠ 0)
    {body kept : List String} {meaning : Meaning}
    (hbody : ∀ run : Run, run.Behind label → PassesFrom host body meaning (label :: kept) run)
    {run : Run} (hbehind : run.Behind label) :
    PassesFrom host (body ++ [Directive.print (.jump label (some count))])
      (meaning.times count.toNat) kept run := by
  intro state record vars commands hlines hfree hmeaning
  simp only [List.length_append, List.length_singleton] at hfree ⊢
  have hcounts : count.toNat = count.toNat - 1 + 1 := by
    have : count.toNat ≠ 0 := fun hzero => hcount (UInt32.toNat_inj.mp hzero)
    omega
  -- the jump at the end is not armed, so it stands at one less than its count
  have hsite : run.jumps.counters.get? (run.cursor + body.length) = none :=
    hfree _ (by omega) (by omega)
  rw [hcounts] at hmeaning
  obtain ⟨visits, jumps, state', hdrive, hcounters, hlabels⟩ :=
    iterations_pass hp hname href hcount hbody (count.toNat - 1) run state record vars commands
      hlines (fun site hlow hhigh => hfree site hlow (by omega)) hbehind (by rw [hsite]; rfl)
      hmeaning
  refine ⟨visits, jumps, state', hdrive, fun site => ?_, hlabels⟩
  rw [hcounters site]
  split
  · rename_i heq
    rw [← heq, hsite]
  · rfl

/-- What passes behind a label passes with the declaration of the label in front of it. -/
theorem passes_label (hp : host.Patient) {label : String} (hname : IsLabelName label)
    (href : Reference.present label.toList = false) {lines kept : List String} {meaning : Meaning}
    (hnew : label ∉ kept)
    (hlines : ∀ run : Run, run.Behind label → PassesFrom host lines meaning kept run) :
    Passes host (Directive.print (.label label) :: lines) meaning kept := by
  intro run state record vars commands hholds hfree hmeaning
  let inside : Run := { run.proceed with jumps := run.jumps.declare label run.cursor }
  have hcursor : inside.cursor = run.cursor + 1 := rfl
  have hpoll : host.recorded.poll (state, record) = (false, (host.poll state).2, record) := by
    simp [Host.recorded, hp state]
  have hbehind : inside.Behind label := by
    simp [inside, Run.Behind, Jumps.declare, Run.proceed, Table.get?_set]
  simp only [List.length_cons] at hfree ⊢
  obtain ⟨visits, jumps, state', hdrive, hcounters, hlabels⟩ :=
    hlines inside hbehind (host.poll state).2 record vars commands hholds.tail
      (fun site hlow hhigh => hfree site (by omega) (by omega)) hmeaning
  refine ⟨visits + 1, jumps, state', ?_, hcounters, fun name hmem => ?_⟩
  · have hend : run.cursor + (lines.length + 1) = inside.cursor + lines.length := by omega
    rw [Run.drive_succ_of_moved hholds.head hpoll (run.visit_label hname href), hdrive, hend]
    rfl
  · rw [hlabels name hmem]
    refine (Table.get?_set ..).trans (if_neg ?_)
    rintro rfl
    exact hnew hmem

/-- A loop passes as its body does, as often as its count says. -/
theorem passes_loop (hp : host.Patient) {label : String} (hname : IsLabelName label)
    (href : Reference.present label.toList = false) {count : UInt32} (hcount : count ≠ 0)
    {body kept : List String} {meaning : Meaning} (hnew : label ∉ kept)
    (hbody : Passes host body meaning (label :: kept)) :
    Passes host ([Directive.print (.label label)] ++ body ++
      [Directive.print (.jump label (some count))]) (meaning.times count.toNat) kept := by
  rw [List.append_assoc]
  exact passes_label hp hname href hnew fun run hbehind =>
    passes_counted hp hname href hcount (fun inside _ => hbody inside) hbehind

/-- Every well nested program passes with its meaning. -/
theorem passes_block (hp : host.Patient) (ha : host.Accepting) (block : Block) :
    ∀ around, block.WellNested around → Passes host block.lines block.meaning around := by
  induction block with
  | done => exact fun around _ => passes_skip host around
  | leaf line rest ih =>
    exact fun around h => (passes_leaf hp ha line around).andThen (ih around h)
  | loop label count body rest ihBody ihRest =>
    intro around ⟨⟨hname, href⟩, hcount, hnew, hbody, hrest⟩
    exact (passes_loop hp hname href hcount hnew (ihBody _ hbody)).andThen (ihRest around hrest)

end Passing

/-! ## The run of a whole program -/

/-- A script that a run passes through from its first line to its end is completed: behind the last
line there is nothing more to visit. -/
theorem Passes.completes {σ : Type} {host : Host σ} {lines : List String} {meaning : Meaning}
    (h : Passes host lines meaning []) {vars : Variables} {commands : List String}
    (hmeaning : meaning {} = some (vars, commands)) (state : σ) :
    ∃ visits, ∀ limit, visits ≤ limit →
      let run : Run := { script := ⟨lines⟩ }
      let leg := run.drive host limit state
      leg.outcome = some .completed ∧ run.forwarded host limit state = commands ∧
        leg.run.vars = vars ∧ ∀ site, leg.run.jumps.counters.get? site = none := by
  let run : Run := { script := ⟨lines⟩ }
  obtain ⟨visits, jumps, state', hdrive, hcounters, -⟩ :=
    h run state [] vars commands (List.prefix_refl _) (fun _ _ _ => rfl) hmeaning
  have hpast : Run.line? { run with cursor := 0 + lines.length, vars, jumps } = none := by
    simp [Run.line?, Script.line?, run]
  have hend : run.drive host.recorded (visits + 1) (state, []) =
      ⟨some .completed, { run with cursor := 0 + lines.length, vars, jumps },
        (state', commands)⟩ := by
    rw [Run.drive_add_of_none hdrive]
    exact Run.drive_succ_of_past hpast _ 0
  refine ⟨visits + 1, fun limit hlimit => ?_⟩
  have hleg : run.drive host.recorded limit (state, []) = _ :=
    (Run.drive_of_le hlimit (by simp [hend])).trans hend
  have hplain := run.drive_recorded host limit state []
  dsimp only
  rw [Run.forwarded, hplain, hleg]
  exact ⟨rfl, rfl, rfl, hcounters⟩

/-- **Loops mean repetition.** The script of a well nested program that has a meaning runs to
completion with any host that accepts every command and never asks to stop. It forwards exactly the
commands of the meaning, ends with the variables of the meaning, and leaves no counter armed. -/
theorem run_block_eq_meaning {σ : Type} {host : Host σ} (hp : host.Patient) (ha : host.Accepting)
    {block : Block} (hw : block.WellNested []) {vars : Variables} {commands : List String}
    (hm : block.meaning {} = some (vars, commands)) (state : σ) :
    ∃ visits, ∀ limit, visits ≤ limit →
      let run : Run := { script := ⟨block.lines⟩ }
      let leg := run.drive host limit state
      leg.outcome = some .completed ∧ Outcome.completed.change = ⟨.succeeded, none⟩ ∧
        run.forwarded host limit state = commands ∧ leg.run.vars = vars ∧
        ∀ site, leg.run.jumps.counters.get? site = none := by
  obtain ⟨visits, hrun⟩ := (passes_block hp ha block [] hw).completes hm state
  refine ⟨visits, fun limit hlimit => ?_⟩
  obtain ⟨houtcome, hforwarded, hvars, hcounters⟩ := hrun limit hlimit
  exact ⟨houtcome, rfl, hforwarded, hvars, hcounters⟩

/-- Two loops within each other, around a variable that grows, and a third one that has the name of
the inner one. -/
def nestedLoops : Block :=
  .leaf "var:x=a" <|
  .loop "outer" 2
    (.leaf "say $(x)" <| .loop "inner" 3 (.leaf "tick" .done) <| .leaf "var:x=$(x)b" .done) <|
  .loop "inner" 2 (.leaf "last" .done) .done

theorem run_nestedLoops :
    let host := Recorder.host { rejection := Recorder.rejectedByExecutor } false
    let run : Run := { script := ⟨nestedLoops.lines⟩ }
    let commands := ["say a", "tick", "tick", "tick", "say ab", "tick", "tick", "tick", "last",
      "last"]
    nestedLoops.WellNested [] ∧ nestedLoops.meaning {} = some (⟨[("x", "abb")]⟩, commands) ∧
      ∃ visits, ∀ limit, visits ≤ limit →
        (run.drive host limit {}).outcome = some .completed ∧
        run.forwarded host limit {} = commands := by
  intro host run commands
  have hp : host.Patient := fun _ => rfl
  have ha : host.Accepting := fun _ _ => by simp [host, Recorder.host, Recorder.receive]
  have hw : nestedLoops.WellNested [] := by decide
  have hm : nestedLoops.meaning {} = some (⟨[("x", "abb")]⟩, commands) := by decide +kernel
  obtain ⟨visits, hrun⟩ := run_block_eq_meaning hp ha hw hm {}
  exact ⟨hw, hm, visits, fun limit hlimit => ⟨(hrun limit hlimit).1, (hrun limit hlimit).2.2.1⟩⟩

end MacroScript
