import MacroScript.Proofs.Driving

/-! # The cycles of a counted jump

Labels and counters are used by two kinds of calls, in any order: labels are declared and jumps are
decided. The counter of a site says how far its current cycle has come: it is absent when no cycle
has begun, and otherwise what is left of the count that the cycle began with. This one relation
between the counter and the decisions so far is kept by every call; that the decisions fall into
cycles, and that nothing else has a part in them, is read off from it. -/

namespace MacroScript

/-- The jump is taken. -/
def Transfer.isJump : Transfer → Bool
  | jump _ => true
  | fallThrough _ => false

namespace Jumps

/-! ## Calls and what they leave behind -/

/-- A label is declared on a line, or a jump from a site is to be decided. -/
inductive Call where
  | declare (name : String) (line : Nat)
  | resolve (site : Nat) (label : String) (count : Option UInt32)
  deriving DecidableEq

/-- The count that a call carries. -/
def Call.count? : Call → Option UInt32
  | declare .. => none
  | resolve _ _ count => count

/-- The calls made since the labels and counters were empty, the newest first. -/
abbrev History := List Call

namespace History

/-- Counts are at least one. -/
def Counted (history : History) : Prop :=
  ∀ call ∈ history, ∀ count ∈ call.count?, 1 ≤ count.toNat

/-- The labels and counters after the calls. -/
def state : History → Jumps
  | [] => {}
  | .declare name line :: before => (state before).declare name line
  | .resolve site label count :: before =>
    match (Jumps.resolve site label count).run (state before) with
    | .ok _ left => left
    | .error _ left => left

/-- The line on which a label was declared last. -/
def declared? (label : String) : History → Option Nat
  | [] => none
  | .declare name line :: before => if name = label then some line else declared? label before
  | .resolve .. :: before => declared? label before

end History

/-- A counted jump that has been decided: the calls before it, what it asked for, and where it
leads. -/
structure Decision where
  before : History
  label : String
  count : UInt32
  transfer : Transfer
  deriving DecidableEq

/-- What a call decides of the counted jumps from a site. -/
def decision? (site : Nat) (before : History) : Call → Option Decision
  | .resolve here label (some count) =>
    if here = site then
      match (resolve here label (some count)).run before.state with
      | .ok transfer _ => some { before, label, count, transfer }
      | .error .. => none
    else none
  | _ => none

/-- All that was decided of the counted jumps from a site, in order. -/
def decisions (site : Nat) : History → List Decision
  | [] => []
  | call :: before => decisions site before ++ (decision? site before call).toList

/-! ## Cycles -/

/-- The jump leads behind the declaration of its label that was then the latest. -/
def Decision.Taken (decision : Decision) : Prop :=
  ∃ line, decision.before.declared? decision.label = some line ∧
    decision.transfer = .jump (line + 1)

/-- As many decisions as the count of the first one says. All but the last are jumps; with the last
the site is left. -/
structure IsCycle (site : Nat) (cycle : List Decision) : Prop where
  length : ∀ first ∈ cycle.head?, cycle.length = first.count.toNat
  taken : ∀ decision ∈ cycle.dropLast, decision.Taken
  left : cycle.getLast?.map (·.transfer) = some (.fallThrough (site + 1))

/-- Nothing, or jumps that are fewer than the count of the first one says. -/
structure Begins (begun : List Decision) : Prop where
  length : ∀ first ∈ begun.head?, begun.length < first.count.toNat
  taken : ∀ decision ∈ begun, decision.Taken

/-- The jumps that are left of a cycle that has begun. -/
def remaining (begun : List Decision) : Option Nat :=
  begun.head?.map fun first => first.count.toNat - 1 - begun.length

/-- The decisions are cycles and what has begun of a further one, and the counter holds the jumps
that are left of that. -/
def CyclesTo (site : Nat) (decisions : List Decision) (counter : Option Nat) : Prop :=
  ∃ cycles begun, decisions = List.flatten cycles ++ begun ∧
    (∀ cycle ∈ cycles, IsCycle site cycle) ∧ Begins begun ∧ counter = remaining begun

/-- The decision at an index does not continue a cycle: it comes first or after one that left the
site. -/
def Opens (decisions : List Decision) (i : Nat) : Prop :=
  ∀ j, j + 1 = i → ∀ decision ∈ decisions[j]?, decision.transfer.isJump = false

/-- As many decisions, with the same counts wherever a cycle is opened. -/
structure SameOpenings (decisions other : List Decision) : Prop where
  length : other.length = decisions.length
  counts : ∀ i, Opens decisions i → other[i]?.map (·.count) = decisions[i]?.map (·.count)

/-! ## What one call does -/

theorem exists_resolve_of_declared {jumps : Jumps} {label : String} {line : Nat}
    (h : jumps.labels.get? label = some line) (site : Nat) (count : UInt32) :
    ∃ transfer next, (resolve site label (some count)).run jumps = .ok transfer next := by
  obtain ⟨hunknown, -⟩ | ⟨_, transfer, next, -, hresolve, -⟩ :=
    resolve_cases jumps site label (some count)
  · rw [h] at hunknown
    cases hunknown
  · exact ⟨transfer, next, hresolve⟩

theorem History.Counted.tail {call : Call} {before : History}
    (h : Counted (call :: before)) : before.Counted :=
  fun other hmem => h other (List.mem_cons_of_mem call hmem)

theorem History.state_labels (history : History) (label : String) :
    history.state.labels.get? label = history.declared? label := by
  induction history with
  | nil => rfl
  | cons call before ih =>
    cases call with
    | declare name line =>
      rw [state, declared?, ← ih]
      exact Table.get?_set ..
    | resolve site name count =>
      rw [state, declared?, ← ih]
      split
      · rename_i transfer next hresolve
        obtain ⟨line, -, hresolved⟩ := resolve_eq_ok hresolve
        rw [hresolved.labels]
      · rename_i error left hresolve
        rw [(resolve_eq_error hresolve).1]

/-- A call decides nothing at the site and leaves its counter as it is, or it decides a counted jump
from the site. The jump is taken as long as the counter, or the count in its place, is not used
up. -/
theorem decision?_cases (site : Nat) (before : History) (call : Call) :
    (decision? site before call = none ∧
      (History.state (call :: before)).counters.get? site = before.state.counters.get? site) ∨
    ∃ decision, decision? site before call = some decision ∧ decision.count ∈ call.count? ∧
      (((before.state.counters.get? site).getD (decision.count.toNat - 1) = 0 ∧
        decision.transfer = .fallThrough (site + 1) ∧
        (History.state (call :: before)).counters.get? site = none) ∨
      ∃ left, (before.state.counters.get? site).getD (decision.count.toNat - 1) = left + 1 ∧
        decision.Taken ∧
        (History.state (call :: before)).counters.get? site = some left) := by
  cases call with
  | declare name line => exact .inl ⟨rfl, rfl⟩
  | resolve here label count =>
    cases hresolve : (Jumps.resolve here label count).run before.state with
    | error error left =>
      obtain ⟨rfl, -⟩ := resolve_eq_error hresolve
      refine .inl ⟨?_, by simp only [History.state, hresolve]⟩
      cases count with
      | none => rfl
      | some count => simp [decision?, hresolve]
    | ok transfer next =>
      have hstate : History.state (.resolve here label count :: before) = next := by
        simp only [History.state, hresolve]
      rw [hstate]
      obtain ⟨line, hline, hresolved⟩ := resolve_eq_ok hresolve
      cases count with
      | none =>
        cases hresolved
        exact .inl ⟨rfl, rfl⟩
      | some n =>
        by_cases hhere : here = site
        · subst hhere
          have hdecided : decision? here before (.resolve here label (some n)) =
              some ⟨before, label, n, transfer⟩ := by
            simp [decision?, hresolve]
          refine .inr ⟨_, hdecided, rfl, ?_⟩
          cases hresolved with
          | spent hzero => exact .inl ⟨hzero, rfl, (Table.get?_erase ..).trans (if_pos rfl)⟩
          | counted hleft =>
            refine .inr ⟨_, hleft, ⟨line, ?_, rfl⟩, (Table.get?_set ..).trans (if_pos rfl)⟩
            rw [← History.state_labels, hline]
        · exact .inl ⟨if_neg hhere, hresolved.counter_of_ne (Ne.symm hhere)⟩

/-! ## What all calls together do -/

/-- One more decision ends the cycle that has begun, or makes up one of its own. -/
theorem Begins.isCycle {site : Nat} {begun : List Decision} (h : Begins begun) {last : Decision}
    (hcount : 1 ≤ last.count.toNat)
    (hzero : (remaining begun).getD (last.count.toNat - 1) = 0)
    (hleft : last.transfer = .fallThrough (site + 1)) : IsCycle site (begun ++ [last]) := by
  refine ⟨?_, by simpa using h.taken, by simp [hleft]⟩
  intro first hfirst
  cases begun with
  | nil =>
    obtain rfl : last = first := by simpa using hfirst
    have hone : last.count.toNat - 1 = 0 := hzero
    rw [List.nil_append, List.length_singleton]
    omega
  | cons opening rest =>
    obtain rfl : opening = first := by simpa using hfirst
    have hfewer := h.length opening rfl
    have hnone : opening.count.toNat - 1 - (opening :: rest).length = 0 := hzero
    rw [List.length_append, List.length_singleton]
    omega

/-- One more jump goes on with the cycle that has begun, or begins one. -/
theorem Begins.concat {begun : List Decision} (h : Begins begun) {next : Decision} {left : Nat}
    (hleft : (remaining begun).getD (next.count.toNat - 1) = left + 1) (htaken : next.Taken) :
    Begins (begun ++ [next]) ∧ some left = remaining (begun ++ [next]) := by
  have hall : ∀ decision ∈ begun ++ [next], decision.Taken := by
    intro decision hmem
    rcases List.mem_append.mp hmem with hbefore | hlast
    · exact h.taken decision hbefore
    · obtain rfl := List.mem_singleton.mp hlast
      exact htaken
  -- the count that the cycle began with is known, and one more than `left` is left of it
  obtain ⟨opening, hopening, hcount⟩ : ∃ opening, (begun ++ [next]).head? = some opening ∧
      opening.count.toNat = left + 1 + (begun ++ [next]).length := by
    rw [List.length_append, List.length_singleton]
    cases begun with
    | nil =>
      have hnext : next.count.toNat - 1 = left + 1 := hleft
      exact ⟨next, rfl, by rw [List.length_nil]; omega⟩
    | cons opening rest =>
      have hrest : opening.count.toNat - 1 - (opening :: rest).length = left + 1 := hleft
      exact ⟨opening, rfl, by omega⟩
  refine ⟨⟨?_, hall⟩, ?_⟩
  · intro first hfirst
    obtain rfl : opening = first := Option.some.inj (hopening.symm.trans hfirst)
    omega
  · rw [remaining, hopening, Option.map_some]
    congr 1
    omega

theorem CyclesTo.concat_left {site : Nat} {decisions : List Decision} {counter : Option Nat}
    (h : CyclesTo site decisions counter) {last : Decision} (hcount : 1 ≤ last.count.toNat)
    (hzero : counter.getD (last.count.toNat - 1) = 0)
    (hleft : last.transfer = .fallThrough (site + 1)) :
    CyclesTo site (decisions ++ [last]) none := by
  obtain ⟨cycles, begun, rfl, hcycles, hbegun, rfl⟩ := h
  refine ⟨cycles ++ [begun ++ [last]], [], by simp, ?_, ⟨by simp, by simp⟩, rfl⟩
  intro cycle hmem
  rcases List.mem_append.mp hmem with hbefore | hlast
  · exact hcycles cycle hbefore
  · obtain rfl := List.mem_singleton.mp hlast
    exact hbegun.isCycle hcount hzero hleft

theorem CyclesTo.concat_taken {site : Nat} {decisions : List Decision} {counter : Option Nat}
    (h : CyclesTo site decisions counter) {next : Decision} {left : Nat}
    (hleft : counter.getD (next.count.toNat - 1) = left + 1) (htaken : next.Taken) :
    CyclesTo site (decisions ++ [next]) (some left) := by
  obtain ⟨cycles, begun, rfl, hcycles, hbegun, rfl⟩ := h
  obtain ⟨hnext, hcounter⟩ := hbegun.concat hleft htaken
  exact ⟨cycles, begun ++ [next], List.append_assoc .., hcycles, hnext, hcounter⟩

/-- After any calls, the counter of a site is what is left of the cycle that has begun there. -/
theorem History.cyclesTo {history : History} (h : history.Counted) (site : Nat) :
    CyclesTo site (decisions site history) (history.state.counters.get? site) := by
  induction history with
  | nil => exact ⟨[], [], rfl, by simp, ⟨by simp, by simp⟩, rfl⟩
  | cons call before ih =>
    have hbefore := ih h.tail
    rw [decisions]
    obtain ⟨hnone, hsame⟩ | ⟨decision, hsome, hcount, hdecided⟩ := decision?_cases site before call
    · rw [hnone, hsame, Option.toList_none, List.append_nil]
      exact hbefore
    · rw [hsome, Option.toList_some]
      obtain ⟨hzero, hleft, hcounter⟩ | ⟨left, hleft, htaken, hcounter⟩ := hdecided
      · rw [hcounter]
        exact hbefore.concat_left (h call List.mem_cons_self _ hcount) hzero hleft
      · rw [hcounter]
        exact hbefore.concat_taken hleft htaken

/-! ## What the decisions depend on -/

theorem map_isJump_of_taken {taken : List Decision} (h : ∀ decision ∈ taken, decision.Taken) :
    taken.map (·.transfer.isJump) = List.replicate taken.length true := by
  refine List.eq_replicate_iff.mpr ⟨List.length_map _, ?_⟩
  intro flag hflag
  obtain ⟨decision, hmem, rfl⟩ := List.mem_map.mp hflag
  obtain ⟨line, -, hjump⟩ := h decision hmem
  rw [hjump]
  rfl

namespace IsCycle

variable {site : Nat} {cycle : List Decision}

theorem exists_concat (h : IsCycle site cycle) :
    ∃ taken last, cycle = taken ++ [last] ∧ (∀ decision ∈ taken, decision.Taken) ∧
      last.transfer = .fallThrough (site + 1) := by
  obtain ⟨last, hlast, hleft⟩ := Option.map_eq_some_iff.mp h.left
  obtain ⟨taken, rfl⟩ := List.getLast?_eq_some_iff.mp hlast
  exact ⟨taken, last, rfl, by simpa using h.taken, hleft⟩

theorem map_isJump (h : IsCycle site cycle) :
    cycle.map (·.transfer.isJump) = List.replicate (cycle.length - 1) true ++ [false] := by
  obtain ⟨taken, last, rfl, htaken, hlast⟩ := h.exists_concat
  rw [List.map_append, map_isJump_of_taken htaken, List.map_singleton, hlast, List.length_append,
    List.length_singleton, Nat.add_sub_cancel]
  rfl

/-- The first count in decisions that start with a cycle is the length of the cycle. -/
theorem head_count (h : IsCycle site cycle) {rest : List Decision} {first : Decision}
    (hfirst : (cycle ++ rest)[0]? = some first) : first.count.toNat = cycle.length := by
  obtain ⟨taken, last, rfl, -, -⟩ := h.exists_concat
  refine (h.length first ?_).symm
  rw [← List.head?_eq_getElem?] at hfirst
  simpa [List.head?_append] using hfirst

theorem getElem?_ne_none (h : IsCycle site cycle) (rest : List Decision) :
    (cycle ++ rest)[0]? ≠ none := by
  obtain ⟨taken, last, rfl, -, -⟩ := h.exists_concat
  simp

theorem opens_append (h : IsCycle site cycle) {rest : List Decision} {i : Nat} (hi : Opens rest i) :
    Opens (cycle ++ rest) (cycle.length + i) := by
  intro j hj decision hdecision
  obtain ⟨taken, last, rfl, -, hlast⟩ := h.exists_concat
  cases i with
  | zero =>
    -- the decision before is the last one of the cycle
    obtain rfl : j = taken.length := by simpa using hj
    obtain rfl : last = decision := by simpa using hdecision
    rw [hlast]
    rfl
  | succ k =>
    obtain rfl : j = (taken ++ [last]).length + k := by omega
    refine hi k rfl decision ?_
    rwa [List.getElem?_append_right (Nat.le_add_right ..), Nat.add_sub_cancel_left] at hdecision

end IsCycle

namespace SameOpenings

variable {site : Nat} {cycle other : List Decision} {rest more : List Decision}

theorem first_count (h : SameOpenings rest more) :
    more[0]?.map (·.count) = rest[0]?.map (·.count) :=
  h.counts 0 fun j hj => absurd hj (Nat.succ_ne_zero j)

theorem length_eq (hcycle : IsCycle site cycle) (hother : IsCycle site other)
    (h : SameOpenings (cycle ++ rest) (other ++ more)) : other.length = cycle.length := by
  have hsame := h.first_count
  obtain ⟨first, hfirst⟩ := Option.ne_none_iff_exists'.mp (hcycle.getElem?_ne_none rest)
  obtain ⟨first', hfirst'⟩ := Option.ne_none_iff_exists'.mp (hother.getElem?_ne_none more)
  have hcount : first'.count = first.count := by simpa [hfirst, hfirst'] using hsame
  rw [← hother.head_count hfirst', ← hcycle.head_count hfirst, hcount]

/-- What has only begun cannot go along with decisions that start with a whole cycle. -/
theorem not_begins (hcycle : IsCycle site cycle) {begun : List Decision} (hbegun : Begins begun)
    (hlength : begun.length = (cycle ++ rest).length)
    (hcount : begun[0]?.map (·.count) = (cycle ++ rest)[0]?.map (·.count)) : False := by
  obtain ⟨first, hfirst⟩ := Option.ne_none_iff_exists'.mp (hcycle.getElem?_ne_none rest)
  rw [hfirst, Option.map_some, Option.map_eq_some_iff] at hcount
  obtain ⟨first', hfirst', hsame⟩ := hcount
  have hfewer := hbegun.length first' (by rw [List.head?_eq_getElem?]; exact hfirst')
  rw [hsame, hcycle.head_count hfirst, hlength, List.length_append] at hfewer
  omega

theorem tail (hcycle : IsCycle site cycle) (hother : IsCycle site other)
    (h : SameOpenings (cycle ++ rest) (other ++ more)) : SameOpenings rest more := by
  have hsize := h.length_eq hcycle hother
  refine ⟨?_, fun i hi => ?_⟩
  · have hlength := h.length
    rw [List.length_append, List.length_append] at hlength
    omega
  · have hcounts := h.counts _ (hcycle.opens_append hi)
    rwa [List.getElem?_append_right (Nat.le_add_right ..), Nat.add_sub_cancel_left, ← hsize,
      List.getElem?_append_right (Nat.le_add_right ..), Nat.add_sub_cancel_left] at hcounts

/-- The induction goes from cycle to cycle: the count that opens one says how long it is. -/
theorem map_isJump {cycles others : List (List Decision)} {begun begun' : List Decision}
    (hcycles : ∀ cycle ∈ cycles, IsCycle site cycle) (hbegun : Begins begun)
    (hothers : ∀ cycle ∈ others, IsCycle site cycle) (hbegun' : Begins begun')
    (h : SameOpenings (cycles.flatten ++ begun) (others.flatten ++ begun')) :
    (others.flatten ++ begun').map (·.transfer.isJump) =
      (cycles.flatten ++ begun).map (·.transfer.isJump) := by
  induction cycles generalizing others with
  | nil =>
    cases others with
    | nil =>
      have hlength : begun'.length = begun.length := h.length
      simp only [List.flatten_nil, List.nil_append]
      rw [map_isJump_of_taken hbegun.taken, map_isJump_of_taken hbegun'.taken, hlength]
    | cons other others =>
      rw [List.flatten_cons, List.append_assoc] at h
      exact (not_begins (hothers other List.mem_cons_self) hbegun h.length.symm
        h.first_count.symm).elim
  | cons cycle cycles ih =>
    rw [List.flatten_cons, List.append_assoc] at h ⊢
    have hcycle := hcycles cycle List.mem_cons_self
    cases others with
    | nil => exact (not_begins hcycle hbegun' h.length h.first_count).elim
    | cons other others =>
      rw [List.flatten_cons, List.append_assoc] at h ⊢
      have hother := hothers other List.mem_cons_self
      have hrest := ih (fun cycle hmem => hcycles cycle (List.mem_cons_of_mem _ hmem))
        (fun cycle hmem => hothers cycle (List.mem_cons_of_mem _ hmem)) (h.tail hcycle hother)
      rw [List.map_append, hrest, hother.map_isJump, h.length_eq hcycle hother,
        ← hcycle.map_isJump, ← List.map_append]

end SameOpenings

/-- **The counted jumps from a site go round in cycles.** Whatever calls are made, the counted jumps
from a site that do not fail split into cycles, and the last of them may have only begun. Whether
each jump is taken is settled by the counts that open the cycles, and by nothing else that has
happened. Of the calls that have no part in this, a jump without a count is always taken, and a jump
to a label that is not declared fails and changes nothing. -/
theorem counted_jumps_go_in_cycles {history : History} (h : history.Counted) (site : Nat) :
    (∃ cycles begun, decisions site history = List.flatten cycles ++ begun ∧
      (∀ cycle ∈ cycles, IsCycle site cycle) ∧ Begins begun) ∧
    (∀ other : History, other.Counted →
      SameOpenings (decisions site history) (decisions site other) →
      (decisions site other).map (·.transfer.isJump) =
        (decisions site history).map (·.transfer.isJump)) ∧
    (∀ label line, history.declared? label = some line → ∀ here,
      (resolve here label none).run history.state = .ok (.jump (line + 1)) history.state ∧
      ∀ count, ∃ transfer next,
        (resolve here label (some count)).run history.state = .ok transfer next) ∧
    ∀ label, history.declared? label = none → ∀ here count,
      (resolve here label count).run history.state =
        .error (.undefinedLabel here label) history.state ∧
      History.state (.resolve here label count :: history) = history.state := by
  obtain ⟨cycles, begun, hsplit, hcycles, hbegun, -⟩ := History.cyclesTo h site
  refine ⟨⟨cycles, begun, hsplit, hcycles, hbegun⟩, ?_, ?_, ?_⟩
  · intro other hother hsame
    obtain ⟨others, begun', hsplit', hothers, hbegun', -⟩ := History.cyclesTo hother site
    rw [hsplit, hsplit'] at hsame ⊢
    exact hsame.map_isJump hcycles hbegun hothers hbegun'
  · intro label line hline here
    rw [← History.state_labels] at hline
    exact ⟨resolve_uncounted hline here, exists_resolve_of_declared hline here⟩
  · intro label hnone here count
    rw [← History.state_labels] at hnone
    have herror := resolve_of_unknown hnone here count
    exact ⟨herror, by simp only [History.state, herror]⟩

/-- A label that moves, a site that is used with other counts within a cycle, and calls in between
that have no part in its cycles. -/
def interleavedCalls : History :=
  List.reverse
    [.declare "top" 0, .resolve 5 "top" (some 3), .resolve 5 "gone" (some 9), .declare "top" 4,
      .resolve 7 "top" (some 2), .resolve 5 "top" none, .resolve 5 "top" (some 1),
      .resolve 5 "top" (some 8), .resolve 5 "top" (some 2)]

theorem interleavedCalls_cycle :
    interleavedCalls.Counted ∧
    (decisions 5 interleavedCalls).map (fun decision => (decision.count, decision.transfer)) =
      [(3, .jump 1), (1, .jump 5), (8, .fallThrough 6), (2, .jump 5)] ∧
    ∃ cycles begun, decisions 5 interleavedCalls = List.flatten cycles ++ begun ∧
      (∀ cycle ∈ cycles, IsCycle 5 cycle) ∧ Begins begun := by
  have hcounted : interleavedCalls.Counted := by
    simp [interleavedCalls, History.Counted, Call.count?]
  exact ⟨hcounted, by decide +kernel, (counted_jumps_go_in_cycles hcounted 5).1⟩

end Jumps

end MacroScript
