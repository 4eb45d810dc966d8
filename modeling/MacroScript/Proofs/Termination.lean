import Mathlib.Data.Set.Finite.Lattice
import MacroScript.Proofs.Driving
import MacroScript.Recorder

/-! # Only jumps without a count can make a run endless

Suppose that from some visit on there is no jump without a count. Then, however far the run has
come, it ends or comes to line `k`, for every `k`: this is shown by induction on `k`. At line `k`
the run goes on to the next line, unless the line is a counted jump that is taken. Such a jump takes
one away from its counter, and nothing else touches that counter before the run is back at line `k`,
so the jump is taken only as often as the counter says. -/

namespace MacroScript.Run

variable {σ : Type} {host : Host σ} {run : Run} {state : σ}

/-- After `n` visits the run has not ended, and the line it stands at asks for a jump without a
count. -/
def UncountedJumpAt (host : Host σ) (run : Run) (state : σ) (n : Nat) : Prop :=
  (run.drive host n state).outcome = none ∧
    ∃ label, (run.drive host n state).run.directive? = some (.jump label none)

/-- What one more visit does to a run that has not ended by then, unless it is to a jump without a
count. -/
theorem advance {n : Nat} (hnone : (run.drive host (n + 1) state).outcome = none)
    (hcounted : ¬ run.UncountedJumpAt host state n) :
    let here := (run.drive host n state).run
    let next := (run.drive host (n + 1) state).run
    next.script = here.script ∧
      (∀ site, site ≠ here.cursor →
        next.jumps.counters.get? site = here.jumps.counters.get? site) ∧
      (next.cursor = here.cursor + 1 ∨
        ∃ left, next.jumps.counters.get? here.cursor = some left ∧
          ∀ before, here.jumps.counters.get? here.cursor = some before → before = left + 1) := by
  obtain ⟨hhere, hone⟩ := drive_succ_of_none hnone
  rw [hone] at hnone
  obtain ⟨directive, visit, left, hdirective, hobey, hnext⟩ := exists_directive_of_drive_one hnone
  obtain ⟨hscript, hothers, hprogress⟩ := next_of_obey hobey hnext
  rw [hone]
  refine ⟨hscript, hothers, ?_⟩
  obtain hnext | ⟨label, rfl⟩ | hleft := hprogress
  · exact .inl hnext
  · exact absurd ⟨hhere, label, hdirective⟩ hcounted
  · exact .inr hleft

/-- The run has ended after `n` visits or stands at line `k` or a later one. -/
def EndedOrAt (host : Host σ) (run : Run) (state : σ) (k n : Nat) : Prop :=
  (run.drive host n state).outcome ≠ none ∨ k ≤ (run.drive host n state).run.cursor

section Tail

-- from visit `start` on, no jump without a count is met
variable {start : Nat} (htail : ∀ n, start ≤ n → ¬ run.UncountedJumpAt host state n)
include htail

/-- A counter is as before as long as its line is not visited. -/
theorem counter_of_unvisited {k i j : Nat} (hi : start ≤ i) (hij : i ≤ j)
    (hbefore : ∀ n, i ≤ n → n < j → ¬ run.EndedOrAt host state k n)
    (hnone : (run.drive host j state).outcome = none) :
    (run.drive host j state).run.jumps.counters.get? k =
      (run.drive host i state).run.jumps.counters.get? k := by
  induction j, hij using Nat.le_induction with
  | base => rfl
  | succ j hij ih =>
    obtain ⟨-, hothers, -⟩ := advance hnone (htail j (hi.trans hij))
    have hj := hbefore j hij j.lt_succ_self
    have hk : k ≠ (run.drive host j state).run.cursor := by
      rintro rfl
      exact hj (.inr le_rfl)
    rw [hothers k hk]
    exact ih (fun n hn hlt => hbefore n hn (hlt.trans j.lt_succ_self))
      (drive_succ_of_none hnone).1

/-- The next time the run is at line `k` or beyond, it ends, gets further, or takes one away from
the counter of line `k`. -/
theorem next_arrival {k : Nat} (hk : ∀ i, start ≤ i → ∃ j, i ≤ j ∧ run.EndedOrAt host state k j)
    {i : Nat} (hi : start ≤ i) :
    ∃ j, i ≤ j ∧ (run.EndedOrAt host state (k + 1) j ∨
      ∃ left, (run.drive host j state).run.jumps.counters.get? k = some left ∧
        ∀ before, (run.drive host i state).run.jumps.counters.get? k = some before →
          before = left + 1) := by
  classical
  have hfirst := Nat.find_spec (hk i hi)
  have hbefore : ∀ n, i ≤ n → n < Nat.find (hk i hi) → ¬ run.EndedOrAt host state k n :=
    fun n hn hlt hat => Nat.find_min (hk i hi) hlt ⟨hn, hat⟩
  generalize Nat.find (hk i hi) = j at hfirst hbefore
  obtain ⟨hij, hended | hat⟩ := hfirst
  · exact ⟨j, hij, .inl (.inl hended)⟩
  · by_cases hfurther : k + 1 ≤ (run.drive host j state).run.cursor
    · exact ⟨j, hij, .inl (.inr hfurther)⟩
    · by_cases hnone : (run.drive host (j + 1) state).outcome = none
      · have hcursor : (run.drive host j state).run.cursor = k := by omega
        obtain ⟨-, -, hnext | ⟨left, hleft, hdown⟩⟩ := advance hnone (htail j (hi.trans hij))
        · exact ⟨j + 1, by omega, .inl (.inr (by omega))⟩
        · have hsame := counter_of_unvisited htail hi hij hbefore (drive_succ_of_none hnone).1
          rw [hcursor] at hleft hdown
          exact ⟨j + 1, by omega, .inr ⟨left, hleft, fun before hb => hdown before (hsame ▸ hb)⟩⟩
      · exact ⟨j + 1, by omega, .inl (.inl hnone)⟩

/-- A counter that is armed is used up in the end. -/
theorem passes_armed {k : Nat} (hk : ∀ i, start ≤ i → ∃ j, i ≤ j ∧ run.EndedOrAt host state k j)
    (left : Nat) : ∀ i, start ≤ i →
      (run.drive host i state).run.jumps.counters.get? k = some left →
      ∃ j, i ≤ j ∧ run.EndedOrAt host state (k + 1) j := by
  induction left with
  | zero =>
    intro i hi hzero
    obtain ⟨j, hij, hdone | ⟨left, -, hdown⟩⟩ := next_arrival htail hk hi
    · exact ⟨j, hij, hdone⟩
    · exact absurd (hdown 0 hzero) (by simp)
  | succ left ih =>
    intro i hi hleft
    obtain ⟨j, hij, hdone | ⟨fewer, hfewer, hdown⟩⟩ := next_arrival htail hk hi
    · exact ⟨j, hij, hdone⟩
    · obtain rfl : left = fewer := Nat.succ.inj (hdown _ hleft)
      obtain ⟨m, hjm, hdone⟩ := ih j (hi.trans hij) hfewer
      exact ⟨m, hij.trans hjm, hdone⟩

/-- However far the run has come, it ends or gets to any line. -/
theorem exists_endedOrAt (k : Nat) :
    ∀ i, start ≤ i → ∃ j, i ≤ j ∧ run.EndedOrAt host state k j := by
  induction k with
  | zero => exact fun i _ => ⟨i, le_rfl, .inr (Nat.zero_le _)⟩
  | succ k ih =>
    intro i hi
    obtain ⟨j, hij, hdone | ⟨left, hleft, -⟩⟩ := next_arrival htail ih hi
    · exact ⟨j, hij, hdone⟩
    · obtain ⟨m, hjm, hdone⟩ := passes_armed htail ih left j (hi.trans hij) hleft
      exact ⟨m, hij.trans hjm, hdone⟩

end Tail

/-- **Only jumps without a count can make a run endless.** With a host that never asks it to stop,
a run that meets only finitely many jumps without a count is completed or fails after finitely many
visits, whatever its lines become when their variables are replaced. -/
theorem ends_of_finite_uncounted_jumps (hp : host.Patient) (run : Run) (state : σ)
    (h : {n | run.UncountedJumpAt host state n}.Finite) :
    ∃ limit, (run.drive host limit state).outcome = some .completed ∨
      ∃ error, (run.drive host limit state).outcome = some (.failed error) := by
  obtain ⟨bound, hbound⟩ := h.bddAbove
  have htail : ∀ n, bound + 1 ≤ n → ¬ run.UncountedJumpAt host state n := by
    intro n hn hjump
    have : n ≤ bound := hbound hjump
    omega
  have hends : ∃ limit, (run.drive host limit state).outcome ≠ none := by
    obtain ⟨j, -, hended | hpast⟩ := exists_endedOrAt htail run.script.size (bound + 1) le_rfl
    · exact ⟨j, hended⟩
    · -- behind the last line the next visit ends the run
      by_cases hnone : (run.drive host (j + 1) state).outcome = none
      · obtain ⟨hhere, hone⟩ := drive_succ_of_none hnone
        rw [hone] at hnone
        obtain ⟨line, hline⟩ := line?_of_drive_one hnone
        rw [line?, Script.line?, script_of_none hhere] at hline
        obtain ⟨hlt, -⟩ := List.getElem?_eq_some_iff.mp hline
        exact absurd hpast (Nat.not_le.mpr hlt)
      · exact ⟨j + 1, hnone⟩
  obtain ⟨limit, hlimit⟩ := hends
  refine ⟨limit, ?_⟩
  cases houtcome : (run.drive host limit state).outcome with
  | none => exact absurd houtcome hlimit
  | some outcome =>
    cases outcome with
    | completed => exact .inl rfl
    | stopped => exact absurd houtcome (outcome_ne_stopped hp limit run state)
    | failed error => exact .inr ⟨error, rfl⟩

/-- The last line is a jump without a count when it is met first and a command when it is met
again, because the variable that it consists of has changed. -/
def jumpsOnce : Script :=
  ⟨["var:a=jumpto:top", "var:b=done", "label:top", "var:go=$(a)", "var:a=$(b)", "$(go)"]⟩

theorem jumpsOnce_ends :
    let host := Recorder.host { rejection := Recorder.rejectedByExecutor } false
    let run : Run := { script := jumpsOnce }
    run.UncountedJumpAt host {} 5 ∧ {n | run.UncountedJumpAt host {} n}.Finite ∧
      ∃ limit, (run.drive host limit {}).outcome = some .completed ∨
        ∃ error, (run.drive host limit {}).outcome = some (.failed error) := by
  intro host run
  have hp : host.Patient := fun _ => rfl
  have hjump : run.UncountedJumpAt host {} 5 := ⟨by decide +kernel, "top", by decide +kernel⟩
  have hend : (run.drive host 10 {}).outcome = some .completed := by decide +kernel
  have hfinite : {n | run.UncountedJumpAt host {} n}.Finite := by
    refine (Set.finite_lt_nat 10).subset fun n hn => ?_
    by_contra hle
    have hnone := hn.1
    rw [drive_of_le (Nat.not_lt.mp hle) (by simp [hend]), hend] at hnone
    cases hnone
  exact ⟨hjump, hfinite, ends_of_finite_uncounted_jumps hp run ({} : Recording) hfinite⟩

end MacroScript.Run
