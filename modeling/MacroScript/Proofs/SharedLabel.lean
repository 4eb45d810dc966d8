import Mathlib.Data.List.Induction
import MacroScript.Proofs.Canonical
import MacroScript.Proofs.Loops

/-! # Jumps that share a label

Several counted jumps may go back to the same label. A later jump then leads again through every
jump before it, and these count anew, since a counter belongs to its line and is taken away when it
runs out. So the jumps nest without labels of their own: all that stands between the label and a
jump is the body of that jump's loop. -/

namespace MacroScript

/-- Commands with a counted jump behind them. -/
structure Site where
  body : List String
  count : UInt32

namespace Site

/-- The lines of a site that jumps to the label. -/
def lines (label : String) (site : Site) : List String :=
  site.body ++ [Directive.print (.jump label (some site.count))]

/-- What is forwarded from the label up to the jump of a site, until that jump lets the run pass. -/
def unrolledFrom (before : List String) (site : Site) : List String :=
  (List.replicate site.count.toNat (before ++ site.body)).flatten

/-- What is forwarded from the label up to the last of the sites. -/
def unrolled (sites : List Site) : List String := sites.foldl unrolledFrom []

end Site

/-- The line is a command in which there is nothing to replace. -/
def IsPlainCommand (line : String) : Prop :=
  Reference.present line.toList = false ∧ ∃ text, Directive.read line = .ok (.command text)

/-! ## Commands that do not depend on the variables -/

namespace Meaning

/-- These commands, whatever the variables are. -/
def say (commands : List String) : Meaning := fun vars => some (vars, commands)

theorem say_andThen_say (commands more : List String) :
    (say commands).andThen (say more) = say (commands ++ more) := rfl

theorem times_say (commands : List String) (n : Nat) :
    (say commands).times n = say (List.replicate n commands).flatten := by
  induction n with
  | zero => rfl
  | succ n ih => rw [times, ih, say_andThen_say, List.replicate_succ, List.flatten_cons]

theorem ofLine_command {line : String} (h : IsPlainCommand line) : ofLine line = say [line] := by
  obtain ⟨hpresent, text, hread⟩ := h
  obtain rfl := Directive.eq_of_read_command hread
  funext vars
  simp [ofLine, vars.substitute_of_not_present 0 hpresent, Directive.readAt_eq_ok_iff.mpr hread,
    bind, Except.bind, say]

end Meaning

section Sites

variable {σ : Type} {host : Host σ}

theorem passes_commands (hp : host.Patient) (ha : host.Accepting) {lines : List String}
    (h : ∀ line ∈ lines, IsPlainCommand line) (kept : List String) :
    Passes host lines (.say lines) kept := by
  induction lines with
  | nil => exact passes_skip host kept
  | cons line lines ih =>
    have hline := passes_leaf hp ha line kept
    rw [Meaning.ofLine_command (h line List.mem_cons_self)] at hline
    exact hline.andThen (ih fun other hmem => h other (List.mem_cons_of_mem line hmem))

/-! ## Sites one after another -/

/-- The induction adds sites at the end: what stands before the last one is part of the body of its
loop, so it has to pass on every return to the label. -/
theorem passes_sites (hp : host.Patient) (ha : host.Accepting) {label : String}
    (hname : IsLabelName label) (href : Reference.present label.toList = false)
    (sites : List Site) :
    (∀ site ∈ sites, site.count ≠ 0 ∧ ∀ line ∈ site.body, IsPlainCommand line) →
    ∀ (kept : List String) (run : Run), run.Behind label →
      PassesFrom host (sites.flatMap (Site.lines label)) (.say (Site.unrolled sites)) kept run := by
  induction sites using List.reverseRecOn with
  | nil => exact fun _ kept run _ => passes_skip host kept run
  | append_singleton before site ih =>
    intro hsites kept run hbehind
    have hbefore := ih fun other hmem => hsites other (List.mem_append_left _ hmem)
    obtain ⟨hcount, hbody⟩ := hsites site (by simp)
    have hinside : ∀ run : Run, run.Behind label →
        PassesFrom host (before.flatMap (Site.lines label) ++ site.body)
          (.say (Site.unrolled before ++ site.body)) (label :: kept) run :=
      fun run hrun => (hbefore (label :: kept) run hrun).andThen (passes_commands hp ha hbody _)
    have hlines : (before ++ [site]).flatMap (Site.lines label) =
        before.flatMap (Site.lines label) ++ site.body ++
          [Directive.print (.jump label (some site.count))] := by
      simp [Site.lines]
    have hunrolled : Meaning.say (Site.unrolled (before ++ [site])) =
        (Meaning.say (Site.unrolled before ++ site.body)).times site.count.toNat := by
      rw [Meaning.times_say]
      simp [Site.unrolled, Site.unrolledFrom]
    rw [hlines, hunrolled]
    exact passes_counted hp hname href hcount hinside hbehind

end Sites

/-! ## The run of a whole script -/

/-- **Jumps that share a label nest.** Behind a label stand any number of sites that jump to it, and
more commands behind them. With a host that accepts every command and never asks to stop, the run
succeeds. Each site repeats, as often as its count says, all that was forwarded before it and its
own commands; the commands behind the sites follow once. -/
theorem run_shared_label {σ : Type} {host : Host σ} (hp : host.Patient) (ha : host.Accepting)
    {label : String} (hname : IsLabelName label) (href : Reference.present label.toList = false)
    {sites : List Site}
    (hsites : ∀ site ∈ sites, site.count ≠ 0 ∧ ∀ line ∈ site.body, IsPlainCommand line)
    {after : List String} (hafter : ∀ line ∈ after, IsPlainCommand line) (state : σ) :
    ∃ visits, ∀ limit, visits ≤ limit →
      let run : Run := { script :=
        ⟨Directive.print (.label label) :: (sites.flatMap (Site.lines label) ++ after)⟩ }
      (run.drive host limit state).outcome = some .completed ∧
        Outcome.completed.change = ⟨.succeeded, none⟩ ∧
        run.forwarded host limit state = Site.unrolled sites ++ after := by
  have hpasses : Passes host
      (Directive.print (.label label) :: (sites.flatMap (Site.lines label) ++ after))
      (.say (Site.unrolled sites ++ after)) [] :=
    passes_label hp hname href (by simp) fun run hbehind =>
      (passes_sites hp ha hname href sites hsites [] run hbehind).andThen
        (passes_commands hp ha hafter [])
  obtain ⟨visits, hrun⟩ := hpasses.completes rfl state
  exact ⟨visits, fun limit hlimit => ⟨(hrun limit hlimit).1, rfl, (hrun limit hlimit).2.1⟩⟩

/-- Three sites: the second one starts the first again, and the third one has no commands of its
own. -/
def threeSites : List Site := [⟨["a"], 2⟩, ⟨["b", ""], 2⟩, ⟨[], 3⟩]

theorem run_threeSites :
    let host := Recorder.host { rejection := Recorder.rejectedByExecutor } false
    let run : Run := { script := ⟨["label:top", "a", "jumpto:top,2", "b", "", "jumpto:top,2",
      "jumpto:top,3", "end"]⟩ }
    let inner := ["a", "a", "b", "", "a", "a", "b", ""]
    (∀ site ∈ threeSites, site.count ≠ 0 ∧ ∀ line ∈ site.body, IsPlainCommand line) ∧
      ∃ visits, ∀ limit, visits ≤ limit →
        (run.drive host limit {}).outcome = some .completed ∧
        run.forwarded host limit {} = inner ++ inner ++ inner ++ ["end"] := by
  intro host run inner
  have hp : host.Patient := fun _ => rfl
  have ha : host.Accepting := fun _ _ => by simp [host, Recorder.host, Recorder.receive]
  have hplain : ∀ line ∈ ["a", "b", "", "end"], IsPlainCommand line := by
    have hread : ∀ line ∈ ["a", "b", "", "end"], Reference.present line.toList = false ∧
        Keyword.ofLine? line.toList = none ∧ line ≠ "END" := by decide
    intro line hmem
    obtain ⟨hpresent, hword, hend⟩ := hread line hmem
    exact ⟨hpresent, line, by simp [Directive.read, hword, hend]⟩
  have hsites : ∀ site ∈ threeSites, site.count ≠ 0 ∧ ∀ line ∈ site.body, IsPlainCommand line := by
    simp only [threeSites, List.forall_mem_cons]
    simp [hplain]
  have hafter : ∀ line ∈ ["end"], IsPlainCommand line := by simp [hplain]
  have hname : IsLabelName "top" := by decide
  obtain ⟨visits, hrun⟩ := run_shared_label hp ha hname (by decide) hsites hafter {}
  exact ⟨hsites, visits, fun limit hlimit => ⟨(hrun limit hlimit).1, (hrun limit hlimit).2.2⟩⟩

end MacroScript
