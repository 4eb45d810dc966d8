import MacroScript.Proofs.Reading
import MacroScript.Proofs.Visits
import MacroScript.Recorder

/-! # Lines are reached in order

The lines visited so far are all the lines up to some point, and the run stands at that point or
before it: the next line extends them by one at most, and a jump leads behind a label that was
declared by a visit. So a line that is visited for the first time is visited when nothing behind it
has been. In a script without references a jump there finds the labels of earlier lines only, and if
it asks for another one the run fails. -/

namespace MacroScript

/-- What the line at an index asks for as it is written. -/
def Script.directive? (script : Script) (index : Nat) : Option Directive :=
  (script.line? index).bind fun line => (Directive.read line).toOption

theorem Script.directive?_eq_some_iff {script : Script} {index : Nat} {directive : Directive} :
    script.directive? index = some directive ↔
      ∃ line, script.line? index = some line ∧ Directive.read line = .ok directive := by
  rw [Script.directive?, Option.bind_eq_some_iff]
  refine exists_congr fun line => and_congr_right fun _ => ?_
  cases Directive.read line <;> simp [Except.toOption]

/-- No line of the script opens a reference. -/
def Script.Plain (script : Script) : Prop :=
  ∀ line ∈ script.lines, Reference.present line.toList = false

namespace Run

variable {σ : Type} {host : Host σ} {run : Run} {state : σ} {n index : Nat} {script : Script}

/-! ## What has been visited -/

/-- One of the first `n` visits was made to the line at an index. -/
def Visited (host : Host σ) (run : Run) (state : σ) (n index : Nat) : Prop :=
  ∃ k < n, VisitsAt host run state k index

theorem visited_succ_iff :
    Visited host run state (n + 1) index ↔
      Visited host run state n index ∨ VisitsAt host run state n index := by
  constructor
  · rintro ⟨k, hk, hvisits⟩
    rcases Nat.lt_succ_iff_lt_or_eq.mp hk with hk | rfl
    · exact .inl ⟨k, hk, hvisits⟩
    · exact .inr hvisits
  · rintro (⟨k, hk, hvisits⟩ | hvisits)
    · exact ⟨k, Nat.lt_succ_of_lt hk, hvisits⟩
    · exact ⟨n, n.lt_succ_self, hvisits⟩

theorem VisitsAt.iff_eq {other : Nat} (h : VisitsAt host run state n index) :
    VisitsAt host run state n other ↔ other = index := by
  constructor
  · exact fun hother => hother.cursor.symm.trans h.cursor
  · rintro rfl
    exact h

theorem visited_of_label {name : String}
    (h : (script.newRun.drive host n state).run.jumps.labels.get? name = some index) :
    Visited host script.newRun state n index := by
  obtain ⟨k, hk, hexecutes, -⟩ := (labels_eq_some_iff host script state n name index).mp h
  exact ⟨k, hk, hexecutes.toVisitsAt⟩

/-- The next line follows, or the line behind a label that has been declared. -/
theorem Obeyed.cursor {next : Run} {directive : Directive} (h : Obeyed run directive next) :
    next.cursor = run.cursor + 1 ∨
      ∃ name line, run.jumps.labels.get? name = some line ∧ next.cursor = line + 1 := by
  cases h with
  | label | var | command => exact .inl rfl
  | jump decided =>
    obtain ⟨line, hline, hresolved⟩ := Jumps.resolve_eq_ok decided
    cases hresolved with
    | uncounted | counted => exact .inr ⟨_, line, hline, rfl⟩
    | spent => exact .inl rfl

/-- The lines visited so far are those before some line, and the run is not beyond it. -/
theorem exists_visited_iff_lt (host : Host σ) (script : Script) (state : σ) (n : Nat) :
    ∃ m ≤ script.size, (∀ index, Visited host script.newRun state n index ↔ index < m) ∧
      (script.newRun.drive host n state).run.cursor ≤ m := by
  induction n with
  | zero => exact ⟨0, Nat.zero_le _, fun index => by simp [Visited], Nat.le_refl 0⟩
  | succ n ih =>
    obtain ⟨m, hm, hvisited, hcursor⟩ := ih
    by_cases hvisits : VisitsAt host script.newRun state n
        (script.newRun.drive host n state).run.cursor
    · have hsize : (script.newRun.drive host n state).run.cursor < script.size := hvisits.lt_size
      refine ⟨max m ((script.newRun.drive host n state).run.cursor + 1), by omega, ?_, ?_⟩
      · intro index
        rw [visited_succ_iff, hvisited, hvisits.iff_eq]
        omega
      · obtain ⟨-, directive, -, hobeyed⟩ | ⟨-, hsame⟩ :=
          drive_succ_cases host script.newRun state n
        · obtain hnext | ⟨name, line, hlabel, hnext⟩ := hobeyed.cursor
          · omega
          · have hline : line < m := (hvisited line).mp (visited_of_label hlabel)
            omega
        · rw [hsame]
          omega
    · refine ⟨m, hm, fun index => ?_, ?_⟩
      · rw [visited_succ_iff, hvisited, or_iff_left]
        intro hother
        rw [← hother.cursor] at hother
        exact hvisits hother
      · obtain ⟨-, directive, hexecutes, -⟩ | ⟨-, hsame⟩ :=
          drive_succ_cases host script.newRun state n
        · exact absurd hexecutes.toVisitsAt hvisits
        · rw [hsame]
          exact hcursor

/-- A line is not visited before the lines in front of it. -/
theorem VisitsAt.visited_of_lt {before : Nat} (h : VisitsAt host script.newRun state n index)
    (hlt : before < index) : Visited host script.newRun state n before := by
  obtain ⟨m, -, hvisited, hcursor⟩ := exists_visited_iff_lt host script state n
  have hindex := h.cursor
  exact (hvisited before).mpr (by omega)

/-! ## Jumps in a script without references -/

theorem directive?_of_plain (h : script.Plain) (host : Host σ) (state : σ) (n : Nat) :
    (script.newRun.drive host n state).run.directive? =
      script.directive? (script.newRun.drive host n state).run.cursor := by
  refine Option.ext fun directive => ?_
  simp only [directive?_eq_some_iff, Script.directive?_eq_some_iff, Directive.readAt_eq_ok_iff,
    line?, script_drive]
  constructor
  · rintro ⟨line, text, hline, hsubstitute, hread⟩
    rw [Variables.substitute_of_not_present _ _ (h line (List.mem_of_getElem? hline))]
      at hsubstitute
    cases hsubstitute
    exact ⟨line, hline, hread⟩
  · rintro ⟨line, hline, hread⟩
    exact ⟨line, line, hline,
      Variables.substitute_of_not_present _ _ (h line (List.mem_of_getElem? hline)), hread⟩

theorem ExecutesAt.directive?_eq {directive : Directive} (hplain : script.Plain)
    (h : ExecutesAt host script.newRun state n index directive) :
    script.directive? index = some directive := by
  rw [← h.cursor, ← directive?_of_plain hplain, h.reads]

theorem VisitsAt.outcome_of_unknown (hplain : script.Plain) {label : String}
    {count : Option UInt32} (hjump : script.directive? index = some (.jump label count))
    (h : VisitsAt host script.newRun state n index)
    (hunknown : (script.newRun.drive host n state).run.jumps.labels.get? label = none) :
    (script.newRun.drive host (n + 1) state).outcome =
      some (.failed (.undefinedLabel index label)) := by
  have hreads : (script.newRun.drive host n state).run.directive? = some (.jump label count) := by
    rw [directive?_of_plain hplain, h.cursor, hjump]
  obtain ⟨line, hline, hvisit⟩ := visit_of_directive? hreads
  rw [h.cursor] at hvisit
  exact h.outcome_of_error hline
    (hvisit.trans (obey_jump_of_error (Jumps.resolve_of_unknown hunknown index count)))

/-- When a jump is visited whose label is declared on no earlier line, the label is not known. For
a line that declares it could only have been visited after the jump had been visited before. -/
theorem label_unknown_of_forward (hplain : script.Plain) {label : String}
    {count : Option UInt32} (hjump : script.directive? index = some (.jump label count))
    (hnone : ∀ before < index, script.directive? before ≠ some (.label label))
    (h : VisitsAt host script.newRun state n index) :
    (script.newRun.drive host n state).run.jumps.labels.get? label = none := by
  induction n using Nat.strongRecOn with
  | _ n ih =>
    cases hknown : (script.newRun.drive host n state).run.jumps.labels.get? label with
    | none => rfl
    | some line =>
      obtain ⟨k, hk, hdeclares, -⟩ := (labels_eq_some_iff host script state n label line).mp hknown
      have hlabel := hdeclares.directive?_eq hplain
      have hbehind : index < line := by
        rcases Nat.lt_trichotomy line index with hlt | rfl | hgt
        · exact absurd hlabel (hnone line hlt)
        · simp [hjump] at hlabel
        · exact hgt
      obtain ⟨j, hj, hearlier⟩ := hdeclares.toVisitsAt.visited_of_lt hbehind
      have hfailed := hearlier.outcome_of_unknown hplain hjump (ih j (Nat.lt_trans hj hk) hearlier)
      rw [outcome_of_le (by omega) h.going] at hfailed
      cases hfailed

/-- Visit `n` is made to a jump, and the jump is taken. -/
structure JumpsAt (host : Host σ) (run : Run) (state : σ) (n site target : Nat) : Prop where
  going : (run.drive host (n + 1) state).outcome = none
  arrives : (run.drive host (n + 1) state).run.cursor = target
  taken : ∃ label count jumps, ExecutesAt host run state n site (.jump label count) ∧
    (Jumps.resolve site label count).run (run.drive host n state).run.jumps =
      .ok (.jump target) jumps

theorem JumpsAt.exists_declaration {site target : Nat}
    (h : JumpsAt host script.newRun state n site target) :
    ∃ label count line, ExecutesAt host script.newRun state n site (.jump label count) ∧
      LatestDeclaration host script.newRun state n label line ∧ target = line + 1 := by
  obtain ⟨label, count, jumps, hexecutes, hresolve⟩ := h.taken
  obtain ⟨line, hline, hresolved⟩ := Jumps.resolve_eq_ok hresolve
  refine ⟨label, count, line, hexecutes, (labels_eq_some_iff ..).mp hline, ?_⟩
  cases hresolved with
  | uncounted | counted => rfl

/-- **Lines are reached in order, and jumps go back.** With any host, the lines that a run has
visited are at each point the lines before some line. In a script without references, a jump to a
label that is declared on no earlier line fails when it is visited; and if each label is declared on
one line at most, every jump that is taken leads to its own line or to one before it. -/
theorem lines_reached_in_order (host : Host σ) (script : Script) (state : σ) :
    (∀ n, ∃ m ≤ script.size, ∀ index, Visited host script.newRun state n index ↔ index < m) ∧
    (script.Plain →
      (∀ index label count, script.directive? index = some (.jump label count) →
        (∀ before < index, script.directive? before ≠ some (.label label)) →
        ∀ n, VisitsAt host script.newRun state n index →
          (script.newRun.drive host (n + 1) state).outcome =
            some (.failed (.undefinedLabel index label))) ∧
      ((∀ i j name, script.directive? i = some (.label name) →
          script.directive? j = some (.label name) → i = j) →
        ∀ n site target, JumpsAt host script.newRun state n site target → target ≤ site)) := by
  refine ⟨fun n => ?_, fun hplain => ⟨?_, ?_⟩⟩
  · obtain ⟨m, hm, hvisited, -⟩ := exists_visited_iff_lt host script state n
    exact ⟨m, hm, hvisited⟩
  · intro index label count hjump hnone n hvisits
    exact hvisits.outcome_of_unknown hplain hjump
      (label_unknown_of_forward hplain hjump hnone hvisits)
  · intro hunique n site target hjumps
    obtain ⟨label, count, line, hexecutes, hlatest, rfl⟩ := hjumps.exists_declaration
    have hjump := hexecutes.directive?_eq hplain
    have hknown := (labels_eq_some_iff host script state n label line).mpr hlatest
    obtain ⟨k, -, hdeclares, -⟩ := hlatest
    have hlabel := hdeclares.directive?_eq hplain
    -- a declaration on the line of the jump or behind it would be the only one
    rcases Nat.lt_or_ge line site with hlt | hge
    · exact hlt
    · have hnone : ∀ before < site, script.directive? before ≠ some (.label label) := by
        intro before hbefore hother
        have := hunique before line label hother hlabel
        omega
      rw [label_unknown_of_forward hplain hjump hnone hexecutes.toVisitsAt] at hknown
      cases hknown

/-- A loop, and behind it a jump to a label that follows. -/
def looksAhead : Script := ⟨["label:a", "go", "jumpto:a,2", "jumpto:b", "label:b"]⟩

theorem looksAhead_fails :
    let host := Recorder.host { rejection := Recorder.rejectedByExecutor } false
    looksAhead.Plain ∧
    (VisitsAt host looksAhead.newRun {} 5 3 ∧
      (looksAhead.newRun.drive host 6 {}).outcome = some (.failed (.undefinedLabel 3 "b"))) ∧
    (JumpsAt host looksAhead.newRun {} 2 2 1 ∧ 1 ≤ 2) := by
  intro host
  have hplain : looksAhead.Plain := by
    unfold Script.Plain
    decide
  have hlabels : ∀ i name, looksAhead.directive? i = some (.label name) →
      (i = 0 ∧ name = "a") ∨ (i = 4 ∧ name = "b") := by
    intro i name h
    have h0 : looksAhead.directive? 0 = some (.label "a") := by decide +kernel
    have h1 : looksAhead.directive? 1 = some (.command "go") := by decide +kernel
    have h2 : looksAhead.directive? 2 = some (.jump "a" (some 2)) := by decide +kernel
    have h3 : looksAhead.directive? 3 = some (.jump "b" none) := by decide +kernel
    have h4 : looksAhead.directive? 4 = some (.label "b") := by decide +kernel
    rcases i with _ | _ | _ | _ | _ | i
    · simp_all
    · simp_all
    · simp_all
    · simp_all
    · simp_all
    · simp [Script.directive?, Script.line?, looksAhead] at h
  obtain ⟨hforward, hback⟩ := (lines_reached_in_order host looksAhead ({} : Recording)).2 hplain
  have hvisits : VisitsAt host looksAhead.newRun {} 5 3 :=
    ⟨by decide +kernel, by decide +kernel, by decide +kernel, by decide +kernel⟩
  have hjumps : JumpsAt host looksAhead.newRun {} 2 2 1 := by
    have htables : (looksAhead.newRun.drive host 2 {}).run.jumps = ⟨⟨[("a", 0)]⟩, {}⟩ := by
      decide +kernel
    exact ⟨by decide +kernel, by decide +kernel, "a", some 2, ⟨⟨[("a", 0)]⟩, ⟨[(2, 0)]⟩⟩,
      ⟨⟨by decide +kernel, by decide +kernel, by decide +kernel, by decide +kernel⟩,
        by decide +kernel⟩, by rw [htables]; rfl⟩
  refine ⟨hplain, ⟨hvisits, hforward 3 "b" none (by decide +kernel) ?_ 5 hvisits⟩, hjumps,
    hback ?_ 2 2 1 hjumps⟩
  · intro before hbefore hlabel
    obtain ⟨-, hname⟩ | ⟨rfl, -⟩ := hlabels before "b" hlabel
    · exact absurd hname (by decide)
    · omega
  · intro i j name hi hj
    obtain ⟨rfl, rfl⟩ | ⟨rfl, rfl⟩ := hlabels i name hi
    · obtain ⟨rfl, -⟩ | ⟨-, hname⟩ := hlabels j "a" hj
      · rfl
      · exact absurd hname (by decide)
    · obtain ⟨-, hname⟩ | ⟨rfl, -⟩ := hlabels j "b" hj
      · exact absurd hname (by decide)
      · rfl

end Run

end MacroScript
