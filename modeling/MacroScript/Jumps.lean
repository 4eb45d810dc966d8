import MacroScript.RunError
import MacroScript.Table

/-! Labels and loop counters. A label stands for the line of its latest declaration. A jump with a
count has a counter of its own, kept under the line the jump stands on: the first use arms it, the
last use takes it away again, so the loop can be entered anew.

A jump is decided in place: the tables are written one after the other as it goes on, and what has
been written stays written if it fails. -/

namespace MacroScript

/-- Where labels are declared, and how many further jumps each armed jump line still has. -/
structure Jumps where
  labels : Table String Nat := {}
  counters : Table Nat Nat := {}
  deriving DecidableEq

inductive Transfer where
  | jump (target : Nat)
  | fallThrough (next : Nat)
  deriving DecidableEq

def Transfer.target : Transfer → Nat
  | jump target => target
  | fallThrough next => next

namespace Jumps

/-- Declares a label on a line; an earlier declaration of the name is forgotten. -/
def declare (jumps : Jumps) (name : String) (line : Nat) : Jumps :=
  { jumps with labels := jumps.labels.set name line }

/-- A counter that is armed already keeps what it has left. -/
def arm (jumps : Jumps) (site left : Nat) : Jumps :=
  match jumps.counters.get? site with
  | some _ => jumps
  | none => { jumps with counters := jumps.counters.set site left }

/-- Decides a jump from the line `site` to a declared label. Without a count the jump is always
taken. With a count `n` the jump is taken `n - 1` times and then falls through; only the count met
when the counter is armed matters. -/
def resolve (site : Nat) (label : String) (count : Option UInt32) :
    EStateM RunError Jumps Transfer := do
  match (← get).labels.get? label with
  | none => throw (.undefinedLabel site label)
  | some line =>
    match count with
    | none => return .jump (line + 1)
    | some n =>
      modify fun jumps => jumps.arm site (n.toNat - 1)
      match (← get).counters.get? site with
      | some (left + 1) =>
        modify fun jumps => { jumps with counters := jumps.counters.set site left }
        return .jump (line + 1)
      | _ =>
        modify fun jumps => { jumps with counters := jumps.counters.erase site }
        return .fallThrough (site + 1)

end Jumps

end MacroScript
