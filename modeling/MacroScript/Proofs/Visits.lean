import MacroScript.Proofs.Driving

/-! # Where the tables of a run come from

The visits of a run are numbered in the order in which they are made, and each carries out what its
line asks for. What stands in the tables can be said by the visits alone: a label stands at the line
of the latest visit that declared it, a counter that is armed was armed by an earlier visit to its
line and has been going down since, and a variable or a forwarded command is what some visit read.
All this is shown from one visit to the next. -/

namespace MacroScript

/-- A run of a script that is about to visit its first line. -/
abbrev Script.newRun (script : Script) : Run := { script }

namespace Run

variable {σ : Type} {host : Host σ} {run : Run} {state : σ} {n index : Nat}

/-! ## Visits -/

/-- Visit `n`, counted from zero, is made, and it is made to the line at an index. -/
structure VisitsAt (host : Host σ) (run : Run) (state : σ) (n index : Nat) : Prop where
  going : (run.drive host n state).outcome = none
  cursor : (run.drive host n state).run.cursor = index
  line : (run.drive host n state).run.line? ≠ none
  unstopped : (host.poll (run.drive host n state).host).1 = false

/-- Visit `n` is made, and its line asks for the directive. -/
structure ExecutesAt (host : Host σ) (run : Run) (state : σ) (n index : Nat)
    (directive : Directive) : Prop extends VisitsAt host run state n index where
  reads : (run.drive host n state).run.directive? = some directive

theorem poll_of_drive_one (h : (run.drive host 1 state).outcome = none) :
    (host.poll state).1 = false := by
  obtain ⟨line, hline⟩ := line?_of_drive_one h
  rcases hpoll : host.poll state with ⟨_ | _, polled⟩
  · rfl
  · simp [drive, hline, hpoll] at h

/-- A visit with which a run ends leaves the run as it is. -/
theorem run_of_drive_one (h : (run.drive host 1 state).outcome ≠ none) :
    (run.drive host 1 state).run = run := by
  have hdriven := run.driven_drive host 1 state
  generalize run.drive host 1 state = leg at h hdriven
  cases hdriven with
  | past | stopped | failed | ended | rejected => rfl
  | moved _ _ _ rest | accepted _ _ _ _ rest =>
    cases rest
    exact absurd rfl h

theorem ExecutesAt.drive_succ_of_moved {directive : Directive} {next : Run}
    (h : ExecutesAt host run state n index directive)
    (hobey : (obey index directive).run (run.drive host n state).run = .ok .moved next) :
    (run.drive host (n + 1) state).outcome = none ∧ (run.drive host (n + 1) state).run = next := by
  obtain ⟨line, hline, hvisit⟩ := visit_of_directive? h.reads
  rw [h.cursor] at hvisit
  have hpoll : host.poll (run.drive host n state).host =
      (false, (host.poll (run.drive host n state).host).2) := Prod.ext h.unstopped rfl
  have hone := Run.drive_succ_of_moved hline hpoll (hvisit.trans hobey) 0
  rw [drive_add, Leg.driveOn, h.going]
  dsimp only
  rw [hone]
  exact ⟨rfl, rfl⟩

theorem VisitsAt.outcome_of_error {line : String} {error : RunError} {left : Run}
    (h : VisitsAt host run state n index)
    (hline : (run.drive host n state).run.line? = some line)
    (herror : (Run.visit line).run (run.drive host n state).run = .error error left) :
    (run.drive host (n + 1) state).outcome = some (.failed error) := by
  have hpoll : host.poll (run.drive host n state).host =
      (false, (host.poll (run.drive host n state).host).2) := Prod.ext h.unstopped rfl
  rw [drive_add, Leg.driveOn, h.going]
  dsimp only
  rw [drive_succ_of_error hline hpoll herror 0]

/-- What one more visit can do: carry out what its line asks for, so that the run goes on, or leave
the run where it is, for good. -/
theorem drive_succ_cases (host : Host σ) (run : Run) (state : σ) (n : Nat) :
    ((run.drive host (n + 1) state).outcome = none ∧
      ∃ directive,
        ExecutesAt host run state n (run.drive host n state).run.cursor directive ∧
        Obeyed (run.drive host n state).run directive (run.drive host (n + 1) state).run) ∨
    ((run.drive host (n + 1) state).outcome ≠ none ∧
      (run.drive host (n + 1) state).run = (run.drive host n state).run) := by
  by_cases hnone : (run.drive host (n + 1) state).outcome = none
  · obtain ⟨hhere, hone⟩ := drive_succ_of_none hnone
    have hgoes := hnone
    rw [hone] at hgoes
    obtain ⟨directive, visit, left, hreads, hobey, hnext⟩ := exists_directive_of_drive_one hgoes
    obtain ⟨line, hline⟩ := line?_of_drive_one hgoes
    refine .inl ⟨hnone, directive, ⟨⟨hhere, rfl, ?_, poll_of_drive_one hgoes⟩, hreads⟩, ?_⟩
    · rw [hline]
      exact Option.some_ne_none line
    · rw [hone]
      exact obeyed_of_obey hobey hnext
  · refine .inr ⟨hnone, ?_⟩
    rw [drive_add, Leg.driveOn] at hnone ⊢
    split at hnone
    · exact run_of_drive_one hnone
    · rfl

theorem script_drive (host : Host σ) (run : Run) (state : σ) (n : Nat) :
    (run.drive host n state).run.script = run.script := by
  induction n with
  | zero => rfl
  | succ n ih =>
    rw [← ih]
    obtain ⟨-, directive, -, hobeyed⟩ | ⟨-, hsame⟩ := drive_succ_cases host run state n
    · exact hobeyed.script
    · rw [hsame]

/-- A run that goes on has gone on at every visit before. -/
theorem outcome_of_le {m : Nat} (hle : m ≤ n) (h : (run.drive host n state).outcome = none) :
    (run.drive host m state).outcome = none := by
  cases hended : (run.drive host m state).outcome with
  | none => rfl
  | some outcome =>
    rw [drive_of_le hle (by simp [hended]), hended] at h
    cases h

theorem VisitsAt.lt_size (h : VisitsAt host run state n index) : index < run.script.size := by
  obtain ⟨line, hline⟩ := Option.ne_none_iff_exists'.mp h.line
  rw [Run.line?, script_drive, h.cursor] at hline
  exact (List.getElem?_eq_some_iff.mp hline).1

/-! ## Labels -/

/-- Of the visits before visit `n`, the latest one that declared the label was made to the line at
the index. -/
def LatestDeclaration (host : Host σ) (run : Run) (state : σ) (n : Nat) (name : String)
    (index : Nat) : Prop :=
  ∃ k < n, ExecutesAt host run state k index (.label name) ∧
    ∀ j, k < j → j < n → ∀ other, ¬ ExecutesAt host run state j other (.label name)

theorem latestDeclaration_succ_iff {name : String} :
    LatestDeclaration host run state (n + 1) name index ↔
      ExecutesAt host run state n index (.label name) ∨
        (LatestDeclaration host run state n name index ∧
          ∀ other, ¬ ExecutesAt host run state n other (.label name)) := by
  constructor
  · rintro ⟨k, hk, hexecutes, hlatest⟩
    rcases Nat.lt_succ_iff_lt_or_eq.mp hk with hk | rfl
    · exact .inr ⟨⟨k, hk, hexecutes, fun j hkj hj => hlatest j hkj (Nat.lt_succ_of_lt hj)⟩,
        hlatest n hk n.lt_succ_self⟩
    · exact .inl hexecutes
  · rintro (hexecutes | ⟨⟨k, hk, hexecutes, hlatest⟩, hnone⟩)
    · exact ⟨n, n.lt_succ_self, hexecutes, fun j hnj hj => by omega⟩
    · refine ⟨k, Nat.lt_succ_of_lt hk, hexecutes, fun j hkj hj => ?_⟩
      rcases Nat.lt_succ_iff_lt_or_eq.mp hj with hj | rfl
      · exact hlatest j hkj hj
      · exact hnone

theorem labels_of_executes {name : String} (h : ExecutesAt host run state n index (.label name)) :
    (run.drive host (n + 1) state).run.jumps.labels =
      (run.drive host n state).run.jumps.labels.set name index := by
  obtain ⟨-, hnext⟩ := h.drive_succ_of_moved rfl
  rw [hnext]
  rfl

theorem labels_of_not_executes
    (h : ∀ name, ¬ ExecutesAt host run state n (run.drive host n state).run.cursor (.label name)) :
    (run.drive host (n + 1) state).run.jumps.labels =
      (run.drive host n state).run.jumps.labels := by
  obtain ⟨-, directive, hexecutes, hobeyed⟩ | ⟨-, hsame⟩ := drive_succ_cases host run state n
  · generalize (run.drive host (n + 1) state).run = next at hobeyed ⊢
    cases hobeyed with
    | label name => exact absurd hexecutes (h name)
    | var | command => rfl
    | jump decided =>
      obtain ⟨line, -, hresolved⟩ := Jumps.resolve_eq_ok decided
      exact hresolved.labels
  · rw [hsame]

/-- A label stands at the line of its latest declaration. -/
theorem labels_eq_some_iff (host : Host σ) (script : Script) (state : σ) (n : Nat) (name : String)
    (index : Nat) :
    (script.newRun.drive host n state).run.jumps.labels.get? name = some index ↔
      LatestDeclaration host script.newRun state n name index := by
  induction n with
  | zero => simp [drive, LatestDeclaration, Script.newRun]
  | succ n ih =>
    rw [latestDeclaration_succ_iff]
    by_cases hdeclares : ∃ declared line,
        ExecutesAt host script.newRun state n line (.label declared)
    · obtain ⟨declared, line, hexecutes⟩ := hdeclares
      have hline : ∀ {other found}, ExecutesAt host script.newRun state n found (.label other) →
          declared = other ∧ line = found := by
        intro other found hother
        have hsame := hexecutes.reads.symm.trans hother.reads
        exact ⟨by simpa using hsame, hexecutes.cursor.symm.trans hother.cursor⟩
      rw [labels_of_executes hexecutes, Table.get?_set]
      by_cases hname : declared = name
      · subst hname
        rw [if_pos rfl]
        constructor
        · rintro ⟨⟩
          exact .inl hexecutes
        · rintro (hother | ⟨-, hnone⟩)
          · rw [(hline hother).2]
          · exact absurd hexecutes (hnone line)
      · rw [if_neg hname, ih]
        constructor
        · exact fun hlatest => .inr ⟨hlatest, fun other hother => hname (hline hother).1⟩
        · rintro (hother | ⟨hlatest, -⟩)
          · exact absurd (hline hother).1 hname
          · exact hlatest
    · have hnone : ∀ declared line,
          ¬ ExecutesAt host script.newRun state n line (.label declared) :=
        fun declared line hexecutes => hdeclares ⟨declared, line, hexecutes⟩
      rw [labels_of_not_executes fun declared => hnone declared _, ih]
      constructor
      · exact fun hlatest => .inr ⟨hlatest, hnone name⟩
      · rintro (hexecutes | ⟨hlatest, -⟩)
        · exact absurd hexecutes (hnone name index)
        · exact hlatest

/-! ## Counters -/

/-- The counter of a line has been armed ever since a visit before visit `n`, which met a jump with
the count there. -/
def ArmedWith (host : Host σ) (run : Run) (state : σ) (n site : Nat) (count : UInt32) : Prop :=
  ∃ k < n, (∃ label, ExecutesAt host run state k site (.jump label (some count))) ∧
    (run.drive host k state).run.jumps.counters.get? site = none ∧
    ∀ j, k < j → j ≤ n → (run.drive host j state).run.jumps.counters.get? site ≠ none

theorem ArmedWith.succ {site : Nat} {count : UInt32} (h : ArmedWith host run state n site count)
    (harmed : (run.drive host (n + 1) state).run.jumps.counters.get? site ≠ none) :
    ArmedWith host run state (n + 1) site count := by
  obtain ⟨k, hk, hexecutes, hbefore, hsince⟩ := h
  refine ⟨k, Nat.lt_succ_of_lt hk, hexecutes, hbefore, fun j hkj hj => ?_⟩
  rcases Nat.lt_or_eq_of_le hj with hj | rfl
  · exact hsince j hkj (Nat.le_of_lt_succ hj)
  · exact harmed

/-- How a counter comes to its value with one more visit: it had it before, it is armed, or it is
taken down by one. -/
theorem counter_succ_cases {site left : Nat}
    (h : (run.drive host (n + 1) state).run.jumps.counters.get? site = some left) :
    (run.drive host n state).run.jumps.counters.get? site = some left ∨
    (∃ label count, ExecutesAt host run state n site (.jump label (some count)) ∧
      (run.drive host n state).run.jumps.counters.get? site = none ∧ left + 2 = count.toNat) ∨
    (run.drive host n state).run.jumps.counters.get? site = some (left + 1) := by
  obtain ⟨-, directive, hexecutes, hobeyed⟩ | ⟨-, hsame⟩ := drive_succ_cases host run state n
  · generalize (run.drive host (n + 1) state).run = next at hobeyed h
    cases hobeyed with
    | label | var | command => exact .inl h
    | @jump label count transfer jumps decided =>
      obtain ⟨line, -, hresolved⟩ := Jumps.resolve_eq_ok decided
      cases hresolved with
      | uncounted => exact .inl h
      | spent => exact .inl (Table.get?_of_erase h)
      | @counted m fewer hfewer =>
        simp only [Table.get?_set] at h
        split at h
        · rename_i hsite
          cases h
          subst hsite
          cases hbefore : (run.drive host n state).run.jumps.counters.get?
              (run.drive host n state).run.cursor with
          | none =>
            rw [hbefore, Option.getD_none] at hfewer
            exact .inr (.inl ⟨label, m, hexecutes, rfl, by omega⟩)
          | some before =>
            rw [hbefore, Option.getD_some] at hfewer
            rw [hfewer]
            exact .inr (.inr rfl)
        · exact .inl h
  · rw [hsame] at h
    exact .inl h

/-- An armed counter is below its count by two at least: one for the jump that armed it, and one
because the last pass does not jump. -/
theorem exists_armedWith {script : Script} {site left : Nat}
    (h : (script.newRun.drive host n state).run.jumps.counters.get? site = some left) :
    ∃ count, ArmedWith host script.newRun state n site count ∧ left + 2 ≤ count.toNat := by
  induction n generalizing left with
  | zero => simp [drive, Script.newRun] at h
  | succ n ih =>
    have harmed : (script.newRun.drive host (n + 1) state).run.jumps.counters.get? site ≠ none := by
      rw [h]
      exact Option.some_ne_none left
    obtain hsame | ⟨label, count, hexecutes, hbefore, hcount⟩ | hdown := counter_succ_cases h
    · obtain ⟨count, hwith, hle⟩ := ih hsame
      exact ⟨count, hwith.succ harmed, hle⟩
    · refine ⟨count, ⟨n, n.lt_succ_self, ⟨label, hexecutes⟩, hbefore, fun j hnj hj => ?_⟩,
        Nat.le_of_eq hcount⟩
      obtain rfl : j = n + 1 := by omega
      exact harmed
    · obtain ⟨count, hwith, hle⟩ := ih hdown
      exact ⟨count, hwith.succ harmed, by omega⟩

/-! ## Variables and commands -/

theorem exists_executes_of_var {script : Script} {key value : String}
    (h : (script.newRun.drive host n state).run.vars.get? key = some value) :
    ∃ k < n, ∃ index, ExecutesAt host script.newRun state k index (.var key value) := by
  induction n with
  | zero => simp [drive, Script.newRun] at h
  | succ n ih =>
    have hearlier : (script.newRun.drive host n state).run.vars.get? key = some value →
        ∃ k < n + 1, ∃ index, ExecutesAt host script.newRun state k index (.var key value) := by
      intro hbefore
      obtain ⟨k, hk, hexecutes⟩ := ih hbefore
      exact ⟨k, Nat.lt_succ_of_lt hk, hexecutes⟩
    obtain ⟨-, directive, hexecutes, hobeyed⟩ | ⟨-, hsame⟩ :=
      drive_succ_cases host script.newRun state n
    · generalize (script.newRun.drive host (n + 1) state).run = next at hobeyed h
      cases hobeyed with
      | label | jump | command => exact hearlier h
      | var declared given =>
        simp only [Table.get?_set] at h
        split at h
        · rename_i hkey
          cases h
          subst hkey
          exact ⟨n, n.lt_succ_self, _, hexecutes⟩
        · exact hearlier h
    · rw [hsame] at h
      exact hearlier h

theorem mem_record_of_drive_one {record : List String} {command : String}
    (h : command ∈ (run.drive host.recorded 1 (state, record)).host.2) :
    command ∈ record ∨
      (run.directive? = some (.command command) ∧ (host.poll state).1 = false) := by
  cases hline : run.line? with
  | none =>
    rw [drive_succ_of_past hline] at h
    exact .inl h
  | some line =>
    rcases hpoll : host.poll state with ⟨_ | _, polled⟩
    · have hrecorded := poll_recorded hpoll record
      rcases hvisit : (Run.visit line).run run with ⟨_ | _ | forwarded, left⟩ | ⟨error, left⟩
      · rw [drive_succ_of_ended hline hrecorded hvisit] at h
        exact .inl h
      · rw [drive_succ_of_moved hline hrecorded hvisit] at h
        exact .inl h
      · have hmem : command ∈ record ++ [forwarded] := by
          rcases hanswer : host.execute forwarded polled with ⟨_ | cause, answered⟩
          · rw [drive_succ_of_forward hline hrecorded hvisit (execute_recorded hanswer record)] at h
            exact h
          · rw [drive_succ_of_rejected hline hrecorded hvisit (execute_recorded hanswer record)]
              at h
            exact h
        rcases List.mem_append.mp hmem with hold | hnew
        · exact .inl hold
        · obtain rfl := List.mem_singleton.mp hnew
          exact .inr ⟨directive?_of_forward hline hvisit, rfl⟩
      · rw [drive_succ_of_error hline hrecorded hvisit] at h
        exact .inl h
    · rw [drive_succ_of_stopped hline (poll_recorded hpoll record)] at h
      exact .inl h

theorem exists_executes_of_forwarded {command : String}
    (h : command ∈ run.forwarded host n state) :
    ∃ k < n, ∃ index, ExecutesAt host run state k index (.command command) := by
  induction n with
  | zero => simp [forwarded, drive] at h
  | succ n ih =>
    have hearlier : command ∈ run.forwarded host n state →
        ∃ k < n + 1, ∃ index, ExecutesAt host run state k index (.command command) := by
      intro hbefore
      obtain ⟨k, hk, hexecutes⟩ := ih hbefore
      exact ⟨k, Nat.lt_succ_of_lt hk, hexecutes⟩
    have hleg := run.drive_recorded host n state []
    rw [forwarded, drive_add, Leg.driveOn] at h
    split at h
    · rename_i hgoing
      obtain hbefore | ⟨hreads, hpoll⟩ := mem_record_of_drive_one h
      · exact hearlier hbefore
      · obtain ⟨line, hline, -⟩ := visit_of_directive? hreads
        refine ⟨n, n.lt_succ_self, _, ⟨⟨by rw [hleg]; exact hgoing, rfl, ?_, ?_⟩, ?_⟩⟩
        · rw [hleg, hline]
          exact Option.some_ne_none line
        · rw [hleg]
          exact hpoll
        · rw [hleg]
          exact hreads
    · exact hearlier h

end Run

end MacroScript
