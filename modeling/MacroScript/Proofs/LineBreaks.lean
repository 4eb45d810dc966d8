import Mathlib.Data.List.Chain
import MacroScript.Proofs.Representation

/-! # Lines and what ends them

A text is cut into lines at three terminators, of which one is the other two in a row. `Division`
is a text written as lines with their terminators, such that no carriage return comes to stand
before a line feed that is meant to end a line of its own. Cutting a text gives back the lines of
its division, and every text has exactly one; so the terminators of a text are well defined, and
whether it is one or another of them makes no difference to the lines. -/

namespace MacroScript

/-- What can end a line. -/
inductive Terminator where
  | feed
  | carriage
  | pair
  deriving DecidableEq

def Terminator.text : Terminator → List Char
  | feed => ['\n']
  | carriage => ['\r']
  | pair => ['\r', '\n']

/-- A line with its terminator. -/
structure EndedLine where
  chars : List Char
  terminator : Terminator
  noReturn : '\r' ∉ chars
  noFeed : '\n' ∉ chars

namespace EndedLine

def text (line : EndedLine) : List Char := line.chars ++ line.terminator.text

def empty (terminator : Terminator) : EndedLine :=
  ⟨[], terminator, List.not_mem_nil, List.not_mem_nil⟩

/-- The carriage return that ends the first line and the line feed that ends the second, empty one
stand side by side, where they are one terminator. -/
def RunsInto (first second : EndedLine) : Prop :=
  first.terminator = .carriage ∧ second.chars = [] ∧ second.terminator = .feed

/-- The terminator is not part of a longer one when the rest of the text follows. -/
def EndsBefore (line : EndedLine) (rest : List Char) : Prop :=
  line.terminator = .carriage → rest.head? ≠ some '\n'

end EndedLine

/-- A text as lines with their terminators and what follows the last of these, which is a line too
unless it is empty. -/
@[ext] structure Division where
  ended : List EndedLine
  last : List Char
  noReturn : '\r' ∉ last
  noFeed : '\n' ∉ last
  apart : ended.IsChain fun first second => ¬ first.RunsInto second

namespace Division

def chars (d : Division) : List Char := d.ended.flatMap EndedLine.text ++ d.last

def text (d : Division) : String := String.ofList d.chars

def lines (d : Division) : List (List Char) :=
  d.ended.map EndedLine.chars ++ if d.last = [] then [] else [d.last]

def script (d : Division) : Script := ⟨d.lines.map String.ofList⟩

/-- The same lines, all of them ended by line feeds. -/
def withFeeds (d : Division) : Division where
  ended := d.ended.map fun line => { line with terminator := .feed }
  last := d.last
  noReturn := d.noReturn
  noFeed := d.noFeed
  apart := by
    rw [List.isChain_map]
    refine List.IsChain.imp ?_ d.apart
    intro first second _ hruns
    cases hruns.1

end Division

/-! ## Cutting at a terminator -/

namespace EndedLine

theorem mem_text (line : EndedLine) : '\r' ∈ line.text ∨ '\n' ∈ line.text := by
  unfold text
  cases line.terminator with
  | feed => exact .inr (List.mem_append_right _ List.mem_cons_self)
  | carriage => exact .inl (List.mem_append_right _ List.mem_cons_self)
  | pair => exact .inl (List.mem_append_right _ List.mem_cons_self)

theorem head?_text {line : EndedLine} {rest : List Char}
    (h : (line.text ++ rest).head? = some '\n') : line.chars = [] ∧ line.terminator = .feed := by
  obtain ⟨chars, terminator, noReturn, noFeed⟩ := line
  cases chars with
  | nil =>
    refine ⟨rfl, ?_⟩
    cases terminator with
    | feed => rfl
    | carriage => simp [text, Terminator.text] at h
    | pair => simp [text, Terminator.text] at h
  | cons c chars =>
    obtain rfl : c = '\n' := by simpa [text] using h
    exact absurd List.mem_cons_self noFeed

/-- Each line of a division ends before the text of those that follow. -/
theorem endsBefore_of_apart {line : EndedLine} {ended : List EndedLine} {rest : List Char}
    (happart : ∀ next ∈ ended.head?, ¬ line.RunsInto next)
    (hrest : ended = [] → line.EndsBefore rest) :
    line.EndsBefore (ended.flatMap text ++ rest) := by
  cases ended with
  | nil => exact hrest rfl
  | cons next ended =>
    intro hcarriage hhead
    rw [List.flatMap_cons, List.append_assoc] at hhead
    exact happart next rfl ⟨hcarriage, head?_text hhead⟩

end EndedLine

theorem splitLines_cons {c : Char} (hreturn : c ≠ '\r') (hfeed : c ≠ '\n') (cs : List Char) :
    splitLines (c :: cs) = (c :: (splitLines cs).headD []) :: (splitLines cs).tail := by
  rw [splitLines]
  · cases splitLines cs <;> rfl
  · intro rest hc
    exact absurd hc hreturn
  · exact hfeed
  · exact hreturn

/-- A line that ends in the text is the first of its lines. -/
theorem splitLines_text_append {line : EndedLine} {rest : List Char} (h : line.EndsBefore rest) :
    splitLines (line.text ++ rest) = line.chars :: splitLines rest := by
  obtain ⟨chars, terminator, noReturn, noFeed⟩ := line
  unfold EndedLine.text
  induction chars with
  | nil =>
    cases terminator with
    | feed => rfl
    | pair => rfl
    | carriage =>
      show splitLines ('\r' :: rest) = [] :: splitLines rest
      rw [splitLines]
      intro more hmore
      exact h rfl (by rw [hmore]; rfl)
  | cons c chars ih =>
    rw [List.mem_cons, not_or] at noReturn noFeed
    rw [List.cons_append, List.cons_append,
      splitLines_cons (Ne.symm noReturn.1) (Ne.symm noFeed.1), ih noReturn.2 noFeed.2 h,
      List.headD_cons, List.tail_cons]

theorem splitLines_of_not_mem {cs : List Char} (hreturn : '\r' ∉ cs) (hfeed : '\n' ∉ cs) :
    splitLines cs = if cs = [] then [] else [cs] := by
  induction cs with
  | nil => rfl
  | cons c cs ih =>
    rw [List.mem_cons, not_or] at hreturn hfeed
    rw [splitLines_cons (Ne.symm hreturn.1) (Ne.symm hfeed.1), ih hreturn.2 hfeed.2]
    by_cases hcs : cs = [] <;> simp [hcs]

theorem splitLines_ended {ended : List EndedLine} {rest : List Char}
    (happart : ended.IsChain fun first second => ¬ first.RunsInto second)
    (hrest : ∀ line ∈ ended.getLast?, line.EndsBefore rest) :
    splitLines (ended.flatMap EndedLine.text ++ rest) =
      ended.map EndedLine.chars ++ splitLines rest := by
  induction ended with
  | nil => rfl
  | cons line ended ih =>
    obtain ⟨hnext, hlater⟩ := List.isChain_cons.mp happart
    have hends : line.EndsBefore (ended.flatMap EndedLine.text ++ rest) := by
      refine EndedLine.endsBefore_of_apart hnext ?_
      intro hnil
      exact hrest line (by rw [hnil]; rfl)
    have hlast : ∀ found ∈ ended.getLast?, found.EndsBefore rest := by
      intro found hfound
      refine hrest found ?_
      rw [List.getLast?_cons, Option.mem_def.mp hfound]
      rfl
    rw [List.flatMap_cons, List.append_assoc, splitLines_text_append hends, ih hlater hlast,
      List.map_cons, List.cons_append]

namespace Division

theorem splitLines_chars (d : Division) : splitLines d.chars = d.lines := by
  have hlast : ∀ line ∈ d.ended.getLast?, line.EndsBefore d.last := by
    intro line _ _ hhead
    exact d.noFeed (List.mem_of_head? hhead)
  rw [chars, splitLines_ended d.apart hlast, splitLines_of_not_mem d.noReturn d.noFeed, lines]

theorem ofText_text (d : Division) : Script.ofText d.text = d.script := by
  rw [Script.ofText, text, String.toList_ofList, splitLines_chars, script]

theorem lines_withFeeds (d : Division) : d.withFeeds.lines = d.lines := by
  simp only [lines, withFeeds, List.map_map]
  rfl

end Division

/-! ## Every text has one division -/

/-- A text has no terminator, or it begins with a line that ends where the rest begins. -/
theorem exists_endedLine (cs : List Char) :
    ('\r' ∉ cs ∧ '\n' ∉ cs) ∨
      ∃ (line : EndedLine) (rest : List Char), cs = line.text ++ rest ∧ line.EndsBefore rest := by
  induction cs with
  | nil => exact .inl ⟨List.not_mem_nil, List.not_mem_nil⟩
  | cons c cs ih =>
    by_cases hfeed : c = '\n'
    · refine .inr ⟨.empty .feed, cs, by rw [hfeed]; rfl, ?_⟩
      intro hcarriage
      cases hcarriage
    · by_cases hreturn : c = '\r'
      · by_cases hpair : cs.head? = some '\n'
        · obtain ⟨rest, rfl⟩ := List.head?_eq_some_iff.mp hpair
          refine .inr ⟨.empty .pair, rest, by rw [hreturn]; rfl, ?_⟩
          intro hcarriage
          cases hcarriage
        · exact .inr ⟨.empty .carriage, cs, by rw [hreturn]; rfl, fun _ => hpair⟩
      · rcases ih with ⟨hreturns, hfeeds⟩ | ⟨line, rest, rfl, hends⟩
        · left
          simp only [List.mem_cons, not_or]
          exact ⟨⟨Ne.symm hreturn, hreturns⟩, Ne.symm hfeed, hfeeds⟩
        · have noReturn : '\r' ∉ c :: line.chars := by simp [Ne.symm hreturn, line.noReturn]
          have noFeed : '\n' ∉ c :: line.chars := by simp [Ne.symm hfeed, line.noFeed]
          exact .inr ⟨⟨c :: line.chars, line.terminator, noReturn, noFeed⟩, rest, rfl, hends⟩

namespace Division

theorem exists_chars (cs : List Char) : ∃ d : Division, d.chars = cs := by
  -- what is left of the text gets shorter by a whole line at a time
  induction hlength : cs.length using Nat.strong_induction_on generalizing cs with
  | _ length ih =>
    rcases exists_endedLine cs with ⟨hreturn, hfeed⟩ | ⟨line, rest, rfl, hends⟩
    · exact ⟨⟨[], cs, hreturn, hfeed, .nil⟩, rfl⟩
    · have hshorter : rest.length < length := by
        rw [← hlength, EndedLine.text]
        cases line.terminator <;> simp [Terminator.text] <;> omega
      obtain ⟨d, rfl⟩ := ih rest.length hshorter rest rfl
      have happart : (line :: d.ended).IsChain fun first second => ¬ first.RunsInto second := by
        refine List.isChain_cons.mpr ⟨?_, d.apart⟩
        intro next hnext hruns
        obtain ⟨hcarriage, hempty, hfeed⟩ := hruns
        obtain ⟨ended, hended⟩ := List.head?_eq_some_iff.mp hnext
        refine hends hcarriage ?_
        rw [chars, hended, List.flatMap_cons, EndedLine.text, hempty, hfeed]
        rfl
      exact ⟨⟨line :: d.ended, d.last, d.noReturn, d.noFeed, happart⟩, by simp [chars]⟩

end Division

theorem Terminator.text_append_inj {terminator terminator' : Terminator} {rest rest' : List Char}
    (hends : terminator = .carriage → rest.head? ≠ some '\n')
    (hends' : terminator' = .carriage → rest'.head? ≠ some '\n')
    (h : terminator.text ++ rest = terminator'.text ++ rest') :
    terminator = terminator' ∧ rest = rest' := by
  cases terminator <;> cases terminator' <;> simp_all [Terminator.text]
  case pair.carriage =>
    rw [← h] at hends'
    exact hends' rfl

/-- A line that ends where the rest begins is told apart from the rest by the text alone. -/
theorem EndedLine.text_append_inj {line line' : EndedLine} {rest rest' : List Char}
    (hends : line.EndsBefore rest) (hends' : line'.EndsBefore rest')
    (h : line.text ++ rest = line'.text ++ rest') : line = line' ∧ rest = rest' := by
  have hlines : line.chars :: splitLines rest = line'.chars :: splitLines rest' := by
    rw [← splitLines_text_append hends, ← splitLines_text_append hends', h]
  obtain ⟨chars, terminator, noReturn, noFeed⟩ := line
  obtain ⟨chars', terminator', noReturn', noFeed'⟩ := line'
  obtain rfl : chars = chars' := (List.cons.inj hlines).1
  have htail : terminator.text ++ rest = terminator'.text ++ rest' := by
    simpa [EndedLine.text] using h
  obtain ⟨rfl, rfl⟩ := Terminator.text_append_inj hends hends' htail
  exact ⟨rfl, rfl⟩

namespace Division

theorem ended_inj {ended ended' : List EndedLine} {last last' : List Char}
    (happart : ended.IsChain fun first second => ¬ first.RunsInto second)
    (happart' : ended'.IsChain fun first second => ¬ first.RunsInto second)
    (hlast : '\r' ∉ last ∧ '\n' ∉ last) (hlast' : '\r' ∉ last' ∧ '\n' ∉ last')
    (h : ended.flatMap EndedLine.text ++ last = ended'.flatMap EndedLine.text ++ last') :
    ended = ended' ∧ last = last' := by
  have hends : ∀ {line : EndedLine} {rest : List Char}, '\r' ∉ rest ∧ '\n' ∉ rest →
      line.EndsBefore rest := by
    intro line rest hrest _ hhead
    exact hrest.2 (List.mem_of_head? hhead)
  have hclean : ∀ {line : EndedLine} {rest cs : List Char}, '\r' ∉ cs ∧ '\n' ∉ cs →
      cs ≠ line.text ++ rest := by
    intro line rest cs hcs heq
    rw [heq] at hcs
    rcases line.mem_text with hreturn | hfeed
    · exact hcs.1 (List.mem_append_left _ hreturn)
    · exact hcs.2 (List.mem_append_left _ hfeed)
  induction ended generalizing ended' with
  | nil =>
    cases ended' with
    | nil => exact ⟨rfl, h⟩
    | cons line ended' =>
      rw [List.flatMap_cons, List.append_assoc] at h
      exact absurd h (hclean hlast)
  | cons line ended ih =>
    cases ended' with
    | nil =>
      rw [List.flatMap_cons, List.append_assoc] at h
      exact absurd h.symm (hclean hlast')
    | cons line' ended' =>
      obtain ⟨hnext, hlater⟩ := List.isChain_cons.mp happart
      obtain ⟨hnext', hlater'⟩ := List.isChain_cons.mp happart'
      rw [List.flatMap_cons, List.append_assoc, List.flatMap_cons, List.append_assoc] at h
      obtain ⟨rfl, hrest⟩ := EndedLine.text_append_inj
        (EndedLine.endsBefore_of_apart hnext fun _ => hends hlast)
        (EndedLine.endsBefore_of_apart hnext' fun _ => hends hlast') h
      obtain ⟨rfl, rfl⟩ := ih hlater hlater' hrest
      exact ⟨rfl, rfl⟩

theorem eq_of_chars_eq {d d' : Division} (h : d.chars = d'.chars) : d = d' := by
  obtain ⟨hended, hlast⟩ := ended_inj d.apart d'.apart ⟨d.noReturn, d.noFeed⟩
    ⟨d'.noReturn, d'.noFeed⟩ h
  exact Division.ext hended hlast

theorem existsUnique_text (text : String) : ∃! d : Division, d.text = text := by
  obtain ⟨d, hd⟩ := exists_chars text.toList
  refine ⟨d, ?_, ?_⟩
  · show String.ofList d.chars = text
    rw [hd, String.ofList_toList]
  · intro other hother
    refine eq_of_chars_eq ?_
    rw [hd, ← hother, Division.text, String.toList_ofList]

end Division

/-! ## Texts one after the other -/

/-- A text that is empty or ends in a terminator has nothing behind its last terminator. -/
theorem Division.last_eq_nil {d : Division}
    (h : d.chars = [] ∨ '\r' ∈ d.chars.getLast? ∨ '\n' ∈ d.chars.getLast?) : d.last = [] := by
  by_contra hne
  have hlast : d.chars.getLast? = d.last.getLast? := by
    rw [Division.chars, List.getLast?_append, Option.or_of_isSome (by simpa using hne)]
  rw [hlast] at h
  rcases h with hnil | hreturn | hfeed
  · exact hne (List.append_eq_nil_iff.mp hnil).2
  · exact d.noReturn (List.mem_of_getLast? hreturn)
  · exact d.noFeed (List.mem_of_getLast? hfeed)

theorem splitLines_append {a b : List Char}
    (hends : a = [] ∨ '\r' ∈ a.getLast? ∨ '\n' ∈ a.getLast?)
    (hapart : ¬ ('\r' ∈ a.getLast? ∧ '\n' ∈ b.head?)) :
    splitLines (a ++ b) = splitLines a ++ splitLines b := by
  obtain ⟨d, rfl⟩ := Division.exists_chars a
  have hlast := Division.last_eq_nil hends
  have hchars : d.chars = d.ended.flatMap EndedLine.text := by
    rw [Division.chars, hlast, List.append_nil]
  have hlines : splitLines d.chars = d.ended.map EndedLine.chars := by
    rw [Division.splitLines_chars, Division.lines, hlast, if_pos rfl, List.append_nil]
  rw [hlines, hchars]
  refine splitLines_ended d.apart ?_
  intro line hline hcarriage hhead
  refine hapart ⟨?_, hhead⟩
  obtain ⟨ended, hended⟩ := List.getLast?_eq_some_iff.mp hline
  rw [hchars, hended]
  simp [EndedLine.text, hcarriage, Terminator.text]

/-- **Cutting a text undoes joining its lines.** No line of a text has a terminator in it. Every
text has exactly one division, the lines of a text are those of its division, and they stay the same
when all terminators are replaced by line feeds. The lines of two texts, one after the other, are
those of the first and those of the second when the first is empty or ends in a terminator, unless
a carriage return at its end meets a line feed. -/
theorem Script.ofText_undoes_joining :
    (∀ text : String,
      (∀ line ∈ (Script.ofText text).lines, '\r' ∉ line.toList ∧ '\n' ∉ line.toList) ∧
      (∃! d : Division, d.text = text) ∧
      ∀ d : Division, d.text = text → Script.ofText text = d.script ∧
        Script.ofText d.withFeeds.text = Script.ofText text) ∧
    ∀ a b : String, (a = "" ∨ '\r' ∈ a.toList.getLast? ∨ '\n' ∈ a.toList.getLast?) →
      ¬ ('\r' ∈ a.toList.getLast? ∧ '\n' ∈ b.toList.head?) →
      (Script.ofText (a ++ b)).lines = (Script.ofText a).lines ++ (Script.ofText b).lines := by
  refine ⟨?_, ?_⟩
  · intro text
    refine ⟨fun line hline => Script.not_mem_of_ofText hline, Division.existsUnique_text text, ?_⟩
    intro d hd
    have hlines : Script.ofText text = d.script := by rw [← hd, d.ofText_text]
    refine ⟨hlines, ?_⟩
    rw [hlines, d.withFeeds.ofText_text, Division.script, Division.script, d.lines_withFeeds]
  · intro a b hends hapart
    have hends' : a.toList = [] ∨ '\r' ∈ a.toList.getLast? ∨ '\n' ∈ a.toList.getLast? := by
      simpa using hends
    simp only [Script.ofText, String.toList_append, splitLines_append hends' hapart,
      List.map_append]

/-- A line ended by a carriage return, an empty one ended by the pair, and another one. -/
def mixedBreaks : Division where
  ended := [⟨['x'], .carriage, by decide, by decide⟩, EndedLine.empty .pair,
    ⟨['y'], .carriage, by decide, by decide⟩]
  last := []
  noReturn := List.not_mem_nil
  noFeed := List.not_mem_nil
  apart := by simp [EndedLine.RunsInto, EndedLine.empty]

theorem mixedBreaks_lines :
    (mixedBreaks.text = "x\r\r\ny\r" ∧ mixedBreaks.script = ⟨["x", "", "y"]⟩ ∧
      Script.ofText "x\r\r\ny\r" = mixedBreaks.script) ∧
    (mixedBreaks.withFeeds.text = "x\n\ny\n" ∧
      Script.ofText mixedBreaks.withFeeds.text = Script.ofText "x\r\r\ny\r") ∧
    ('\r' ∈ "x\r".toList.getLast? ∧ '\n' ∉ "\r\ny\r".toList.head? ∧
      (Script.ofText ("x\r" ++ "\r\ny\r")).lines =
        (Script.ofText "x\r").lines ++ (Script.ofText "\r\ny\r").lines) := by
  have htext : mixedBreaks.text = "x\r\r\ny\r" := by decide
  have hends : '\r' ∈ "x\r".toList.getLast? := by decide
  have hapart : '\n' ∉ "\r\ny\r".toList.head? := by decide
  obtain ⟨hlines, hfeeds⟩ := (Script.ofText_undoes_joining.1 _).2.2 mixedBreaks htext
  exact ⟨⟨htext, by decide, hlines⟩, ⟨by decide, hfeeds⟩, hends, hapart,
    Script.ofText_undoes_joining.2 _ _ (.inr (.inl hends)) fun h => hapart h.2⟩

end MacroScript
