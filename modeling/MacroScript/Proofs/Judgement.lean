import MacroScript.Proofs.CaseLimits
import MacroScript.Proofs.Reading

/-! # Which cases are accepted, and with which error the others are not

A case is accepted when its file can be read, decodes to a case of the known version, has a run that
gives a report, and the report meets what the case expects. A `Judgement` says what is wrong
otherwise: each kind of error comes with the conditions that are met before it and with the one that
fails. A run that never ends is not judged at all, so that a judgement is what comes of a case once
there are visits enough. -/

namespace MacroScript

namespace TestCase

/-- The text in the file at a path decodes to a case. -/
def FileHolds (read : ReadText) (path : String) (test : TestCase) : Prop :=
  ∃ text, read path = .ok text ∧ (Json.Value.parse? text).bind ofValue? = some test

/-- The run of a case ends, with a report or an error. -/
def Gives (test : TestCase) (read : ReadText) (directory : String)
    (result : Except CaseError Report) : Prop :=
  ∃ limit, test.run read limit directory = some result

/-- The expected message, if there is one, is part of the message. -/
def MessageMet (test : TestCase) (report : Report) : Prop :=
  ∀ expected ∈ test.expectedMessage,
    ∃ message ∈ report.change.message, expected.toList <:+: message.toList

/-- A report is what the case expects. -/
structure Met (test : TestCase) (report : Report) : Prop where
  state : report.change.state = test.expectedState
  commands : report.commands = test.expectedCommands
  message : test.MessageMet report

/-- The least index at which two lists of commands differ, with the commands that stand there. -/
structure DiffersAt (expected actual : List String) (index : Nat) (e a : String) : Prop where
  expects : expected[index]? = some e
  finds : actual[index]? = some a
  differs : a ≠ e
  least : ∀ i < index, actual[i]? = expected[i]?

/-- A report is not what the case expects: the error is about the first respect in which it is not.
When the numbers of commands differ, the error has the one that is expected and the commands
themselves. -/
inductive Unmet (test : TestCase) (report : Report) : CaseError → Prop where
  | state (differs : report.change.state ≠ test.expectedState) :
      Unmet test report
        (.stateMismatch test.expectedState report.change.state report.change.message)
  | count (state : report.change.state = test.expectedState)
      (differs : report.commands.length ≠ test.expectedCommands.length) :
      Unmet test report (.countMismatch test.expectedCommands.length report.commands)
  | command {index : Nat} {expected actual : String}
      (state : report.change.state = test.expectedState)
      (count : report.commands.length = test.expectedCommands.length)
      (differs : DiffersAt test.expectedCommands report.commands index expected actual) :
      Unmet test report (.commandMismatch index expected actual)
  | message {expected : String} (state : report.change.state = test.expectedState)
      (commands : report.commands = test.expectedCommands)
      (expects : test.expectedMessage = some expected) (lacks : ¬ test.MessageMet report) :
      Unmet test report (.messageMismatch expected report.change.message)

end TestCase

open TestCase (FileHolds)

/-- What is to come of the case in the file at a path, with the scripts of a directory. -/
inductive Judgement (read : ReadText) (directory path : String) : Except CaseError Unit → Prop where
  | unreadable {fault : ReadFault} (fails : read path = .error fault) :
      Judgement read directory path (.error (.unreadable path fault))
  | undecodable {text : String} (reads : read path = .ok text)
      (fails : ∀ test, ¬ FileHolds read path test) :
      Judgement read directory path (.error .undecodable)
  | otherVersion {test : TestCase} (holds : FileHolds read path test)
      (differs : test.schemaVersion ≠ "sv-tool-case.v1") :
      Judgement read directory path (.error (.schemaMismatch test.schemaVersion))
  | failed {test : TestCase} {error : CaseError} (holds : FileHolds read path test)
      (version : test.schemaVersion = "sv-tool-case.v1")
      (gives : test.Gives read directory (.error error)) :
      Judgement read directory path (.error error)
  | unmet {test : TestCase} {report : Report} {error : CaseError}
      (holds : FileHolds read path test) (version : test.schemaVersion = "sv-tool-case.v1")
      (gives : test.Gives read directory (.ok report)) (unmet : test.Unmet report error) :
      Judgement read directory path (.error error)
  | accepted {test : TestCase} {report : Report} (holds : FileHolds read path test)
      (version : test.schemaVersion = "sv-tool-case.v1")
      (gives : test.Gives read directory (.ok report)) (met : test.Met report) :
      Judgement read directory path (.ok ())

namespace TestCase

/-! ## Comparing commands -/

theorem differsAt_cons_self_iff {command : String} {expected actual : List String} {index : Nat}
    {e a : String} :
    DiffersAt (command :: expected) (command :: actual) index e a ↔
      ∃ i, index = i + 1 ∧ DiffersAt expected actual i e a := by
  constructor
  · intro h
    cases index with
    | zero =>
      have heq : some a = some e := h.finds.symm.trans h.expects
      exact absurd (Option.some.inj heq) h.differs
    | succ i =>
      refine ⟨i, rfl, by simpa using h.expects, by simpa using h.finds, h.differs, ?_⟩
      intro j hj
      simpa using h.least (j + 1) (by omega)
  · rintro ⟨i, rfl, h⟩
    refine ⟨by simpa using h.expects, by simpa using h.finds, h.differs, ?_⟩
    intro j hj
    cases j with
    | zero => rfl
    | succ j => simpa using h.least j (by omega)

theorem differsAt_cons_iff {first second : String} (hne : first ≠ second)
    {expected actual : List String} {index : Nat} {e a : String} :
    DiffersAt (first :: expected) (second :: actual) index e a ↔
      index = 0 ∧ e = first ∧ a = second := by
  constructor
  · intro h
    cases index with
    | zero => exact ⟨rfl, (Option.some.inj h.expects).symm, (Option.some.inj h.finds).symm⟩
    | succ i =>
      have hfirst : some second = some first := h.least 0 (Nat.succ_pos i)
      exact absurd (Option.some.inj hfirst).symm hne
  · rintro ⟨rfl, rfl, rfl⟩
    exact ⟨rfl, rfl, hne.symm, fun i hi => absurd hi (Nat.not_lt_zero i)⟩

/-- The index in the error is counted from `start`, which is where the comparison stands. -/
theorem firstDifference_eq_some_iff {start : Nat} {expected actual : List String}
    {error : CaseError} :
    firstDifference start expected actual = some error ↔
      ∃ index e a, DiffersAt expected actual index e a ∧
        error = .commandMismatch (start + index) e a := by
  induction expected generalizing start actual with
  | nil =>
    refine ⟨nofun, ?_⟩
    rintro ⟨index, e, a, hdiffers, -⟩
    cases hdiffers.expects
  | cons first expected ih =>
    cases actual with
    | nil =>
      refine ⟨nofun, ?_⟩
      rintro ⟨index, e, a, hdiffers, -⟩
      cases hdiffers.finds
    | cons second actual =>
      rw [firstDifference]
      by_cases hsame : first = second
      · subst hsame
        simp only [if_true, ih, differsAt_cons_self_iff]
        constructor
        · rintro ⟨i, e, a, hdiffers, rfl⟩
          exact ⟨i + 1, e, a, ⟨i, rfl, hdiffers⟩, by rw [Nat.add_right_comm, Nat.add_assoc]⟩
        · rintro ⟨index, e, a, ⟨i, rfl, hdiffers⟩, rfl⟩
          exact ⟨i, e, a, hdiffers, by rw [Nat.add_right_comm, Nat.add_assoc]⟩
      · simp only [hsame, if_false, differsAt_cons_iff hsame]
        constructor
        · intro h
          cases h
          exact ⟨0, first, second, ⟨rfl, rfl, rfl⟩, rfl⟩
        · rintro ⟨index, e, a, ⟨rfl, rfl, rfl⟩, rfl⟩
          rfl

theorem firstDifference_eq_none_iff {start : Nat} {expected actual : List String}
    (hlength : actual.length = expected.length) :
    firstDifference start expected actual = none ↔ actual = expected := by
  induction expected generalizing start actual with
  | nil => simpa [firstDifference] using hlength
  | cons e expected ih =>
    cases actual with
    | nil => cases hlength
    | cons a actual =>
      rw [firstDifference]
      by_cases hsame : e = a
      · rw [if_pos hsame, ih (Nat.succ.inj hlength), List.cons.injEq]
        exact ⟨fun hrest => ⟨hsame.symm, hrest⟩, fun h => h.2⟩
      · rw [if_neg hsame]
        constructor
        · intro h
          cases h
        · intro h
          exact absurd (List.cons.inj h).1.symm hsame

/-! ## Comparing a report -/

theorem messageHolds_iff {expected : String} {actual : Option String} :
    messageHolds expected actual = true ↔
      ∃ message ∈ actual, expected.toList <:+: message.toList := by
  simp [messageHolds, Option.any_eq_true, Text.occurs_iff_infix]

variable {test : TestCase} {report : Report}

theorem messageMet_of_some {expected : String} (h : test.expectedMessage = some expected) :
    test.MessageMet report ↔ messageHolds expected report.change.message = true := by
  simp [MessageMet, h, messageHolds_iff]

/-- When states and commands are the same, only the message is left to be compared. -/
theorem mismatch?_of_same (hstate : report.change.state = test.expectedState)
    (hcommands : report.commands = test.expectedCommands) :
    test.mismatch? report = test.expectedMessage.bind fun expected =>
      if messageHolds expected report.change.message then none
      else some (.messageMismatch expected report.change.message) := by
  have hfirst : firstDifference 0 test.expectedCommands test.expectedCommands = none :=
    (firstDifference_eq_none_iff rfl).mpr rfl
  simp only [mismatch?, hstate, hcommands, hfirst, ne_eq, not_true_eq_false, if_false]
  cases test.expectedMessage <;> rfl

theorem mismatch?_of_met (h : test.Met report) : test.mismatch? report = none := by
  rw [mismatch?_of_same h.state h.commands]
  cases hexpected : test.expectedMessage with
  | none => rfl
  | some expected => exact if_pos ((messageMet_of_some hexpected).mp h.message)

theorem mismatch?_of_unmet {error : CaseError} (h : test.Unmet report error) :
    test.mismatch? report = some error := by
  cases h with
  | state differs => exact if_pos differs
  | count state differs => rw [mismatch?, if_neg (not_not_intro state), if_pos differs]
  | @command index expected actual state count differs =>
    have hfirst : firstDifference 0 test.expectedCommands report.commands =
        some (.commandMismatch index expected actual) :=
      firstDifference_eq_some_iff.mpr ⟨index, expected, actual, differs, by rw [Nat.zero_add]⟩
    simp only [mismatch?, state, count, hfirst, ne_eq, not_true_eq_false, if_false]
  | message state commands expects lacks =>
    rw [messageMet_of_some expects] at lacks
    rw [mismatch?_of_same state commands, expects]
    exact if_neg lacks

theorem met_or_unmet (test : TestCase) (report : Report) :
    test.Met report ∨ ∃ error, test.Unmet report error := by
  by_cases hstate : report.change.state = test.expectedState
  · by_cases hcount : report.commands.length = test.expectedCommands.length
    · cases hfirst : firstDifference 0 test.expectedCommands report.commands with
      | some error =>
        obtain ⟨index, e, a, hdiffers, -⟩ := firstDifference_eq_some_iff.mp hfirst
        exact .inr ⟨_, .command hstate hcount hdiffers⟩
      | none =>
        have hcommands := (firstDifference_eq_none_iff hcount).mp hfirst
        by_cases hmessage : test.MessageMet report
        · exact .inl ⟨hstate, hcommands, hmessage⟩
        · cases hexpected : test.expectedMessage with
          | none => exact absurd (fun _ h => by rw [hexpected] at h; cases h) hmessage
          | some expected => exact .inr ⟨_, .message hstate hcommands hexpected hmessage⟩
    · exact .inr ⟨_, .count hstate hcount⟩
  · exact .inr ⟨_, .state hstate⟩

/-! ## Loading and running -/

variable {read : ReadText} {directory path : String}

theorem load_of_holds (h : FileHolds read path test) :
    load read path = if test.schemaVersion = "sv-tool-case.v1" then .ok test
      else .error (.schemaMismatch test.schemaVersion) := by
  obtain ⟨text, hread, htest⟩ := h
  simp only [load, hread, htest]
  rfl

theorem load_of_not_holds {text : String} (hread : read path = .ok text)
    (h : ∀ test, ¬ FileHolds read path test) : load read path = .error .undecodable := by
  have hnone : (Json.Value.parse? text).bind ofValue? = none := by
    cases hsome : (Json.Value.parse? text).bind ofValue? with
    | none => rfl
    | some test => exact absurd ⟨text, hread, hsome⟩ (h test)
  simp only [load, hread, hnone]

theorem run_of_le {limit more : Nat} {result : Except CaseError Report} (hle : limit ≤ more)
    (h : test.run read limit directory = some result) :
    test.run read more directory = some result := by
  unfold run at h ⊢
  split
  · rename_i error hload
    rw [hload] at h
    exact h
  · rename_i script hload
    rw [hload] at h
    exact perform_of_le hle h

end TestCase

/-! ## Asserting a case -/

section Assertion

open TestCase

variable {read : ReadText} {directory path : String} {limit : Nat} {test : TestCase}

theorem assertCase_of_load_error {error : CaseError} (h : load read path = .error error) :
    assertCase read limit directory path = some (.error error) := by
  simp only [assertCase, h]

theorem assertCase_of_run_none (hload : load read path = .ok test)
    (hrun : test.run read limit directory = none) :
    assertCase read limit directory path = none := by
  simp only [assertCase, hload, hrun, Option.map_none]

theorem assertCase_of_run_error {error : CaseError} (hload : load read path = .ok test)
    (hrun : test.run read limit directory = some (.error error)) :
    assertCase read limit directory path = some (.error error) := by
  simp only [assertCase, hload, hrun, Option.map_some]

theorem assertCase_of_unmet {report : Report} {error : CaseError}
    (hload : load read path = .ok test)
    (hrun : test.run read limit directory = some (.ok report)) (h : test.Unmet report error) :
    assertCase read limit directory path = some (.error error) := by
  simp only [assertCase, hload, hrun, Option.map_some, mismatch?_of_unmet h]

theorem assertCase_of_met {report : Report} (hload : load read path = .ok test)
    (hrun : test.run read limit directory = some (.ok report)) (h : test.Met report) :
    assertCase read limit directory path = some (.ok ()) := by
  simp only [assertCase, hload, hrun, Option.map_some, mismatch?_of_met h]

theorem load_of_version (hholds : FileHolds read path test)
    (hversion : test.schemaVersion = "sv-tool-case.v1") : load read path = .ok test := by
  rw [load_of_holds hholds, if_pos hversion]

theorem Judgement.assertCase {result : Except CaseError Unit}
    (h : Judgement read directory path result) :
    ∃ visits, ∀ limit, visits ≤ limit → assertCase read limit directory path = some result := by
  cases h with
  | unreadable fails =>
    refine ⟨0, fun limit _ => assertCase_of_load_error ?_⟩
    simp only [load, fails]
  | undecodable reads fails =>
    exact ⟨0, fun limit _ => assertCase_of_load_error (load_of_not_holds reads fails)⟩
  | otherVersion holds differs =>
    refine ⟨0, fun limit _ => assertCase_of_load_error ?_⟩
    rw [load_of_holds holds, if_neg differs]
  | failed holds version gives =>
    obtain ⟨visits, hrun⟩ := gives
    exact ⟨visits, fun limit hle =>
      assertCase_of_run_error (load_of_version holds version) (run_of_le hle hrun)⟩
  | unmet holds version gives unmet =>
    obtain ⟨visits, hrun⟩ := gives
    exact ⟨visits, fun limit hle =>
      assertCase_of_unmet (load_of_version holds version) (run_of_le hle hrun) unmet⟩
  | accepted holds version gives met =>
    obtain ⟨visits, hrun⟩ := gives
    exact ⟨visits, fun limit hle =>
      assertCase_of_met (load_of_version holds version) (run_of_le hle hrun) met⟩

/-- What the file comes to, up to the run: an error that is judged already, or a case to be run. -/
theorem judgement_or_load (read : ReadText) (directory path : String) :
    (∃ error, load read path = .error error ∧ Judgement read directory path (.error error)) ∨
    ∃ test, FileHolds read path test ∧ test.schemaVersion = "sv-tool-case.v1" := by
  cases hread : read path with
  | error fault =>
    exact .inl ⟨.unreadable path fault, by simp only [load, hread], .unreadable hread⟩
  | ok text =>
    by_cases hholds : ∃ test, FileHolds read path test
    · obtain ⟨test, hholds⟩ := hholds
      by_cases hversion : test.schemaVersion = "sv-tool-case.v1"
      · exact .inr ⟨test, hholds, hversion⟩
      · refine .inl ⟨_, ?_, .otherVersion hholds hversion⟩
        rw [load_of_holds hholds, if_neg hversion]
    · have hnone : ∀ test, ¬ FileHolds read path test := fun test h => hholds ⟨test, h⟩
      exact .inl ⟨_, load_of_not_holds hread hnone, .undecodable hread hnone⟩

theorem judgement_of_assertCase {result : Except CaseError Unit}
    (h : assertCase read limit directory path = some result) :
    Judgement read directory path result := by
  obtain ⟨error, hload, hjudged⟩ | ⟨test, hholds, hversion⟩ :=
    judgement_or_load read directory path
  · rw [assertCase_of_load_error hload] at h
    cases h
    exact hjudged
  · have hload := load_of_version hholds hversion
    cases hrun : test.run read limit directory with
    | none =>
      rw [assertCase_of_run_none hload hrun] at h
      cases h
    | some given =>
      cases given with
      | error error =>
        rw [assertCase_of_run_error hload hrun] at h
        cases h
        exact .failed hholds hversion ⟨limit, hrun⟩
      | ok report =>
        obtain hmet | ⟨error, hunmet⟩ := test.met_or_unmet report
        · rw [assertCase_of_met hload hrun hmet] at h
          cases h
          exact .accepted hholds hversion ⟨limit, hrun⟩ hmet
        · rw [assertCase_of_unmet hload hrun hunmet] at h
          cases h
          exact .unmet hholds hversion ⟨limit, hrun⟩ hunmet

theorem Judgement.unique {result other : Except CaseError Unit}
    (h : Judgement read directory path result) (hother : Judgement read directory path other) :
    result = other := by
  obtain ⟨visits, hassert⟩ := h.assertCase
  obtain ⟨more, hassert'⟩ := hother.assertCase
  have hsame := hassert (max visits more) (Nat.le_max_left ..)
  rw [hassert' _ (Nat.le_max_right ..)] at hsame
  exact (Option.some.inj hsame).symm

theorem exists_judgement_iff :
    (∃ result, Judgement read directory path result) ↔
      ∀ test, FileHolds read path test → test.schemaVersion = "sv-tool-case.v1" →
        ∃ result, test.Gives read directory result := by
  constructor
  · rintro ⟨result, h⟩ test hholds hversion
    obtain ⟨visits, hassert⟩ := h.assertCase
    cases hrun : test.run read visits directory with
    | some given => exact ⟨given, visits, hrun⟩
    | none =>
      have hnone := assertCase_of_run_none (load_of_version hholds hversion) hrun
      rw [hassert visits (Nat.le_refl visits)] at hnone
      cases hnone
  · intro hends
    obtain ⟨error, -, hjudged⟩ | ⟨test, hholds, hversion⟩ :=
      judgement_or_load read directory path
    · exact ⟨_, hjudged⟩
    · obtain ⟨given, hgives⟩ := hends test hholds hversion
      cases given with
      | error error => exact ⟨_, .failed hholds hversion hgives⟩
      | ok report =>
        obtain hmet | ⟨error, hunmet⟩ := test.met_or_unmet report
        · exact ⟨_, .accepted hholds hversion hgives hmet⟩
        · exact ⟨_, .unmet hholds hversion hgives hunmet⟩

end Assertion

/-- **A case is accepted exactly when every condition is met, and the first that is not is
reported.** A case is accepted exactly when its file reads as text, the text decodes to a case of
the known version, the run gives a report, and state, commands and message are what is expected.
Whatever comes of asserting a case is its judgement; a case has one judgement at most, and it comes
of the case once there are visits enough. A case is left without a judgement only by a run that does
not end. -/
theorem assertCase_gives_judgement (read : ReadText) (directory path : String) :
    ((∃ limit, assertCase read limit directory path = some (.ok ())) ↔
      ∃ text test report, read path = .ok text ∧
        (Json.Value.parse? text).bind TestCase.ofValue? = some test ∧
        test.schemaVersion = "sv-tool-case.v1" ∧ test.Gives read directory (.ok report) ∧
        report.change.state = test.expectedState ∧ report.commands = test.expectedCommands ∧
        ∀ expected ∈ test.expectedMessage,
          ∃ message ∈ report.change.message, expected.toList <:+: message.toList) ∧
    (∀ limit result, assertCase read limit directory path = some result →
      Judgement read directory path result) ∧
    (∀ result, Judgement read directory path result →
      ∃ visits, ∀ limit, visits ≤ limit → assertCase read limit directory path = some result) ∧
    (∀ result other, Judgement read directory path result → Judgement read directory path other →
      result = other) ∧
    ((∃ result, Judgement read directory path result) ↔
      ∀ test, FileHolds read path test → test.schemaVersion = "sv-tool-case.v1" →
        ∃ result, test.Gives read directory result) := by
  refine ⟨⟨?_, ?_⟩, fun limit result h => judgement_of_assertCase h, fun result h => h.assertCase,
    fun result other h hother => h.unique hother, exists_judgement_iff⟩
  · rintro ⟨limit, h⟩
    cases judgement_of_assertCase h with
    | accepted holds version gives met =>
      obtain ⟨text, hread, htest⟩ := holds
      exact ⟨text, _, _, hread, htest, version, gives, met.state, met.commands, met.message⟩
  · rintro ⟨text, test, report, hread, htest, hversion, hgives, hstate, hcommands, hmessage⟩
    have hjudged : Judgement read directory path (.ok ()) :=
      .accepted ⟨text, hread, htest⟩ hversion hgives ⟨hstate, hcommands, hmessage⟩
    obtain ⟨visits, hassert⟩ := hjudged.assertCase
    exact ⟨visits, hassert visits (Nat.le_refl visits)⟩

/-- A file with a case that expects other commands than its script gives, from the second on. -/
def secondDiffers : ReadText := fun path =>
  if path = "demo/testcase.json" then
    .ok ("\x7b\"schemaVersion\": \"sv-tool-case.v1\", \"expectedState\": \"SUCCEEDED\", " ++
      "\"expectedCommands\": [\"a\", \"c\", \"d\"]\x7d")
  else .ok "a\nb\nb\n"

theorem secondDiffers_judged :
    let test : TestCase :=
      { schemaVersion := "sv-tool-case.v1", script := "main.macro", failingCommands := [],
        stopAfterCommands := none, expectedCommands := ["a", "c", "d"],
        expectedState := .succeeded, expectedMessage := none }
    FileHolds secondDiffers "demo/testcase.json" test ∧
    ∃ visits, ∀ limit, visits ≤ limit →
      assertCase secondDiffers limit "demo" "demo/testcase.json" =
        some (.error (.commandMismatch 1 "c" "b")) := by
  intro test
  have hholds : FileHolds secondDiffers "demo/testcase.json" test :=
    ⟨_, if_pos rfl, by decide +kernel⟩
  have hread : secondDiffers (Path.join "demo" test.script) = .ok "a\nb\nb\n" :=
    if_neg (by decide +kernel)
  have hlines : Script.ofText "a\nb\nb\n" = ⟨["a", "b", "b"]⟩ := by decide +kernel
  let leg := test.executor.run .never ⟨["a", "b", "b"]⟩ 4
  have hends : leg.outcome = some .completed := by decide +kernel
  have hcommands : leg.host.commands = ["a", "b", "b"] := by decide +kernel
  have hfew : leg.host.commands.length < test.commandLimit := by rw [hcommands]; decide
  obtain ⟨visits, hperform⟩ := (TestCase.Verdict.ended hends hfew).perform
  have hgives : test.Gives secondDiffers "demo" (.ok ⟨["a", "b", "b"], .succeeded, none⟩) := by
    refine ⟨visits, ?_⟩
    simp only [TestCase.run, loadScript, hread, hlines]
    rw [hperform visits (Nat.le_refl visits), hcommands]
    rfl
  have hdiffers : TestCase.DiffersAt ["a", "c", "d"] ["a", "b", "b"] 1 "c" "b" := by
    refine ⟨rfl, rfl, by decide, fun i hi => ?_⟩
    obtain rfl : i = 0 := by omega
    rfl
  refine ⟨hholds, (assertCase_gives_judgement secondDiffers "demo" "demo/testcase.json").2.2.1 _ ?_⟩
  exact .unmet hholds rfl hgives (.command rfl rfl hdiffers)

end MacroScript
