import MacroScript.Files
import MacroScript.Proofs.Canonical
import Mathlib.Data.List.Forall2
import Mathlib.Data.List.Nodup

/-! # Trees whose entries are enumerated in another order

A directory lists its entries in some order, which is not part of what the tree holds. Two trees
that differ only in these orders, at any depth, are `Reordered`. In a well-formed tree no directory
has two entries of one name, so looking a name up finds the same entry in both, and a path leads to
the same thing in both, up to the order of entries. -/

namespace MacroScript

/-- A name that an entry of a directory can have. -/
structure IsEntryName (name : String) : Prop where
  ne_empty : name ≠ ""
  no_slash : '/' ∉ name.toList

namespace Entries

/-- Names are proper and distinct, here and in all directories below. -/
inductive WellFormed : Entries → Prop where
  | intro {entries : Entries} (distinct : (entries.map Prod.fst).Nodup)
      (proper : ∀ entry ∈ entries, IsEntryName entry.1)
      (below : ∀ name inner, (name, Node.directory inner) ∈ entries → WellFormed inner) :
      WellFormed entries

/-- The same entries in another order, and so in the directories below. -/
inductive Reordered : Entries → Entries → Prop where
  | refl (entries : Entries) : Reordered entries entries
  | cons (entry : String × Node) {rest other : Entries} (h : Reordered rest other) :
      Reordered (entry :: rest) (entry :: other)
  | inside (name : String) {inner other : Entries} (rest : Entries) (h : Reordered inner other) :
      Reordered ((name, .directory inner) :: rest) ((name, .directory other) :: rest)
  | swap (first second : String × Node) (rest : Entries) :
      Reordered (first :: second :: rest) (second :: first :: rest)
  | trans {first second third : Entries} (h : Reordered first second)
      (h' : Reordered second third) : Reordered first third

/-- The same node, or directories with the same entries in another order. -/
inductive NodeReordered : Node → Node → Prop where
  | refl (node : Node) : NodeReordered node node
  | directory {inner other : Entries} (h : Reordered inner other) :
      NodeReordered (.directory inner) (.directory other)

/-- Well-formed entries, and the same in another order. -/
structure Alike (entries other : Entries) : Prop where
  wellFormed : WellFormed entries
  reordered : Reordered entries other

namespace Reordered

variable {entries other : Entries}

theorem symm (h : Reordered entries other) : Reordered other entries := by
  induction h with
  | refl entries => exact .refl entries
  | cons entry _ ih => exact .cons entry ih
  | inside name rest _ ih => exact .inside name rest ih
  | swap first second rest => exact .swap second first rest
  | trans _ _ ih ih' => exact .trans ih' ih

theorem names_perm (h : Reordered entries other) :
    (entries.map Prod.fst).Perm (other.map Prod.fst) := by
  induction h with
  | refl entries => exact .refl _
  | cons entry _ ih => exact .cons _ ih
  | inside name rest _ _ => exact .refl _
  | swap first second rest => exact .swap ..
  | trans _ _ ih ih' => exact ih.trans ih'

end Reordered

theorem NodeReordered.trans {first second third : Node} (h : NodeReordered first second)
    (h' : NodeReordered second third) : NodeReordered first third := by
  cases h with
  | refl => exact h'
  | directory hinner =>
    cases h' with
    | refl => exact .directory hinner
    | directory hinner' => exact .directory (hinner.trans hinner')

theorem Reordered.exists_mem {entries other : Entries} (h : Reordered entries other) :
    ∀ {name : String} {node : Node}, (name, node) ∈ entries →
      ∃ node', (name, node') ∈ other ∧ NodeReordered node node' := by
  induction h with
  | refl entries => exact fun hmem => ⟨_, hmem, .refl _⟩
  | cons entry _ ih =>
    intro name node hmem
    rcases List.mem_cons.mp hmem with rfl | hrest
    · exact ⟨node, List.mem_cons_self, .refl node⟩
    · obtain ⟨node', hmem', hnode⟩ := ih hrest
      exact ⟨node', List.mem_cons_of_mem _ hmem', hnode⟩
  | inside dir rest hinner _ =>
    intro name node hmem
    rcases List.mem_cons.mp hmem with heq | hrest
    · cases heq
      exact ⟨_, List.mem_cons_self, .directory hinner⟩
    · exact ⟨node, List.mem_cons_of_mem _ hrest, .refl node⟩
  | swap first second rest =>
    intro name node hmem
    exact ⟨node, (List.Perm.swap second first rest).mem_iff.mp hmem, .refl node⟩
  | trans _ _ ih ih' =>
    intro name node hmem
    obtain ⟨node', hmem', hnode⟩ := ih hmem
    obtain ⟨node'', hmem'', hnode'⟩ := ih' hmem'
    exact ⟨node'', hmem'', hnode.trans hnode'⟩

theorem WellFormed.reordered {entries : Entries} (hw : WellFormed entries) :
    ∀ {other : Entries}, Reordered entries other → WellFormed other := by
  induction hw with
  | intro distinct proper below ih =>
    intro other h
    refine ⟨h.names_perm.nodup distinct, ?_, ?_⟩
    · intro entry hmem
      obtain ⟨node, hmem', -⟩ := h.symm.exists_mem hmem
      exact proper (entry.1, node) hmem'
    · intro name inner hmem
      obtain ⟨node, hmem', hnode⟩ := h.symm.exists_mem hmem
      cases hnode with
      | refl => exact below name _ hmem'
      | directory hinner => exact ih name _ hmem' hinner.symm

theorem WellFormed.nil : WellFormed [] := ⟨List.nodup_nil, by simp, by simp⟩

theorem WellFormed.put {entries : Entries} (hw : WellFormed entries) {name : String}
    (hname : IsEntryName name) {node : Node}
    (hnode : ∀ inner, node = .directory inner → WellFormed inner) :
    WellFormed (entries.filter (·.1 ≠ name) ++ [(name, node)]) := by
  obtain ⟨distinct, proper, below⟩ := hw
  have hold : ∀ entry ∈ entries.filter (·.1 ≠ name), entry ∈ entries ∧ entry.1 ≠ name := by
    intro entry hmem
    simpa using List.mem_filter.mp hmem
  refine ⟨?_, ?_, ?_⟩
  · rw [List.map_append, List.map_singleton, List.nodup_append]
    refine ⟨(List.filter_sublist.map Prod.fst).nodup distinct, List.nodup_singleton name, ?_⟩
    intro a ha b hb heq
    obtain ⟨entry, hmem, rfl⟩ := List.mem_map.mp ha
    exact (hold entry hmem).2 (heq.trans (List.mem_singleton.mp hb))
  · intro entry hmem
    rcases List.mem_append.mp hmem with hbefore | hlast
    · exact proper entry (hold entry hbefore).1
    · obtain rfl := List.mem_singleton.mp hlast
      exact hname
  · intro other inner hmem
    rcases List.mem_append.mp hmem with hbefore | hlast
    · exact below other inner (hold _ hbefore).1
    · exact hnode inner (Prod.mk.inj (List.mem_singleton.mp hlast)).2.symm

/-! ## Looking a name up -/

theorem lookup_eq_some_iff {entries : Entries} (hw : WellFormed entries) {name : String}
    {node : Node} : entries.lookup name = some node ↔ (name, node) ∈ entries := by
  obtain ⟨distinct, -, -⟩ := hw
  induction entries with
  | nil => simp
  | cons entry rest ih =>
    obtain ⟨first, node'⟩ := entry
    rw [List.map_cons, List.nodup_cons] at distinct
    by_cases hname : name = first
    · subst hname
      have hnew : (name, node) ∉ rest := by
        intro hmem
        exact distinct.1 (List.mem_map.mpr ⟨_, hmem, rfl⟩)
      simp [hnew, eq_comm]
    · have hkey : (name == first) = false := beq_false_of_ne hname
      simp [List.lookup_cons, hkey, hname, ih distinct.2]

theorem Alike.refl {entries : Entries} (h : WellFormed entries) : Alike entries entries :=
  ⟨h, .refl entries⟩

theorem Alike.lookup_none {entries other : Entries} (h : Alike entries other) {name : String}
    (hnone : entries.lookup name = none) : other.lookup name = none := by
  cases hsome : other.lookup name with
  | none => rfl
  | some node =>
    have hmem := (lookup_eq_some_iff (h.wellFormed.reordered h.reordered)).mp hsome
    obtain ⟨node', hmem', -⟩ := h.reordered.symm.exists_mem hmem
    rw [(lookup_eq_some_iff h.wellFormed).mpr hmem'] at hnone
    cases hnone

theorem Alike.lookup_some {entries other : Entries} (h : Alike entries other) {name : String}
    {node : Node} (hsome : entries.lookup name = some node) :
    ∃ node', other.lookup name = some node' ∧ NodeReordered node node' := by
  obtain ⟨node', hmem, hnode⟩ :=
    h.reordered.exists_mem ((lookup_eq_some_iff h.wellFormed).mp hsome)
  exact ⟨node', (lookup_eq_some_iff (h.wellFormed.reordered h.reordered)).mpr hmem, hnode⟩

theorem Alike.lookup_file {entries other : Entries} (h : Alike entries other) {name : String}
    {bytes : ByteArray} (hsome : entries.lookup name = some (.file bytes)) :
    other.lookup name = some (.file bytes) := by
  obtain ⟨node, hlookup, hnode⟩ := h.lookup_some hsome
  cases hnode
  exact hlookup

theorem Alike.lookup_link {entries other : Entries} (h : Alike entries other) {name target : String}
    (hsome : entries.lookup name = some (.link target)) :
    other.lookup name = some (.link target) := by
  obtain ⟨node, hlookup, hnode⟩ := h.lookup_some hsome
  cases hnode
  exact hlookup

theorem Alike.lookup_directory {entries other : Entries} (h : Alike entries other) {name : String}
    {inner : Entries} (hsome : entries.lookup name = some (.directory inner)) :
    ∃ inner', other.lookup name = some (.directory inner') ∧ Alike inner inner' := by
  have hmem := (lookup_eq_some_iff h.wellFormed).mp hsome
  obtain ⟨node, hlookup, hnode⟩ := h.lookup_some hsome
  obtain ⟨-, -, hbelow⟩ := h.wellFormed
  have hinner := hbelow name inner hmem
  cases hnode with
  | refl => exact ⟨inner, hlookup, .refl hinner⟩
  | directory hreordered => exact ⟨_, hlookup, hinner, hreordered⟩

end Entries

/-! ## Places -/

open Entries (WellFormed)

/-- Places with the same directories at and above them, up to the order of entries. -/
structure Place.Alike (place other : Place) : Prop where
  entries : Entries.Alike place.entries other.entries
  above : List.Forall₂ Entries.Alike place.above other.above

/-- The same was found, up to the order of entries. -/
inductive Found.Alike : Except ReadFault Found → Except ReadFault Found → Prop where
  | error (fault : ReadFault) : Alike (.error fault) (.error fault)
  | file (bytes : ByteArray) : Alike (.ok (.file bytes)) (.ok (.file bytes))
  | link (target : String) : Alike (.ok (.link target)) (.ok (.link target))
  | directory {place other : Place} (h : place.Alike other) :
      Alike (.ok (.directory place)) (.ok (.directory other))

namespace Place

variable {place other : Place}

theorem Alike.up (h : place.Alike other) : place.up.Alike other.up := by
  obtain ⟨entries, above⟩ := place
  obtain ⟨entries', above'⟩ := other
  obtain ⟨hentries, habove⟩ := h
  cases habove with
  | nil => exact ⟨hentries, .nil⟩
  | cons hnext hrest => exact ⟨hnext, hrest⟩

theorem Alike.top (h : place.Alike other) : place.top.Alike other.top := by
  obtain ⟨entries, above⟩ := place
  obtain ⟨entries', above'⟩ := other
  obtain ⟨hentries, habove⟩ := h
  refine ⟨?_, .nil⟩
  dsimp only at hentries habove
  induction habove generalizing entries entries' with
  | nil => exact hentries
  | cons hnext _ ih =>
    simp only [Place.top, List.getLastD_cons]
    exact ih _ _ hnext

theorem Alike.down (h : place.Alike other) {inner inner' : Entries}
    (hinner : Entries.Alike inner inner') : (place.down inner).Alike (other.down inner') :=
  ⟨hinner, .cons h.entries h.above⟩

end Place

/-! ## Following a path -/

namespace Place

section Steps

variable {follow : Bool} {links : Nat} {place : Place} {name : String} {rest : List String}

theorem walk_blank (h : name = "" ∨ name = ".") :
    place.walk follow links (name :: rest) = place.walk follow links rest := by
  rw [Place.walk, if_pos h]

theorem walk_up : place.walk follow links (".." :: rest) = place.up.walk follow links rest := by
  rw [Place.walk, if_neg (by decide), if_pos rfl]

variable (hname : ¬ (name = "" ∨ name = ".")) (hup : name ≠ "..")
include hname hup

theorem walk_long (h : nameBound < name.utf8ByteSize) :
    place.walk follow links (name :: rest) = .error .nameTooLong := by
  rw [Place.walk, if_neg hname, if_neg hup, if_pos h]

variable (hshort : ¬ nameBound < name.utf8ByteSize)
include hshort

theorem walk_missing (h : place.entries.lookup name = none) :
    place.walk follow links (name :: rest) = .error .notFound := by
  simp only [Place.walk, hname, hup, hshort, if_false, h]

theorem walk_directory {inner : Entries}
    (h : place.entries.lookup name = some (.directory inner)) :
    place.walk follow links (name :: rest) = (place.down inner).walk follow links rest := by
  simp only [Place.walk, hname, hup, hshort, if_false, h]

theorem walk_file {bytes : ByteArray} (h : place.entries.lookup name = some (.file bytes)) :
    place.walk follow links (name :: rest) =
      if rest.isEmpty then .ok (.file bytes) else .error .notDirectory := by
  simp only [Place.walk, hname, hup, hshort, if_false, h]

variable {target : String} (h : place.entries.lookup name = some (.link target))
include h

theorem walk_link_kept (hkept : (rest.isEmpty && !follow) = true) :
    place.walk follow links (name :: rest) = .ok (.link target) := by
  simp only [Place.walk, hname, hup, hshort, if_false, h, hkept, if_true]

variable (hkept : ¬ (rest.isEmpty && !follow) = true)
include hkept

theorem walk_link_refused :
    place.walk follow 0 (name :: rest) = .error .tooManyLinks := by
  simp only [Place.walk, hname, hup, hshort, if_false, h, if_neg hkept]

theorem walk_link_followed :
    place.walk follow (links + 1) (name :: rest) =
      (if Path.isAbsolute target then place.top else place).walk follow links
        (Path.components target ++ rest) := by
  simp only [Place.walk, hname, hup, hshort, if_false, h, if_neg hkept]

end Steps

/-- A path leads to the same from places that are alike. The induction is on the way the path
takes from the first place. -/
theorem Alike.walk (follow : Bool) (links : Nat) (place : Place) (components : List String) :
    ∀ {other : Place}, place.Alike other →
      Found.Alike (place.walk follow links components) (other.walk follow links components) := by
  induction links, place, components using Place.walk.induct follow with
  | case1 links place =>
    intro other h
    rw [Place.walk, Place.walk]
    exact .directory h
  | case2 links place name rest hblank ih =>
    intro other h
    rw [walk_blank hblank, walk_blank hblank]
    exact ih h
  | case3 links place rest _ ih =>
    intro other h
    rw [walk_up, walk_up]
    exact ih h.up
  | case4 links place name rest hname hup hlong =>
    intro other h
    rw [walk_long hname hup hlong, walk_long hname hup hlong]
    exact .error _
  | case5 links place name rest hname hup hshort hlookup =>
    intro other h
    rw [walk_missing hname hup hshort hlookup,
      walk_missing hname hup hshort (h.entries.lookup_none hlookup)]
    exact .error _
  | case6 links place name rest hname hup hshort inner hlookup ih =>
    intro other h
    obtain ⟨inner', hlookup', hinner⟩ := h.entries.lookup_directory hlookup
    rw [walk_directory hname hup hshort hlookup, walk_directory hname hup hshort hlookup']
    exact ih (h.down hinner)
  | case7 links place name rest hname hup hshort bytes hlookup hlast =>
    intro other h
    have hlookup' := h.entries.lookup_file hlookup
    rw [walk_file hname hup hshort hlookup, walk_file hname hup hshort hlookup', if_pos hlast]
    exact .file bytes
  | case8 links place name rest hname hup hshort bytes hlookup hlast =>
    intro other h
    have hlookup' := h.entries.lookup_file hlookup
    rw [walk_file hname hup hshort hlookup, walk_file hname hup hshort hlookup', if_neg hlast]
    exact .error _
  | case9 links place name rest hname hup hshort target hlookup hkept =>
    intro other h
    have hlookup' := h.entries.lookup_link hlookup
    rw [walk_link_kept hname hup hshort hlookup hkept,
      walk_link_kept hname hup hshort hlookup' hkept]
    exact .link target
  | case10 place name rest hname hup hshort target hlookup hkept =>
    intro other h
    have hlookup' := h.entries.lookup_link hlookup
    rw [walk_link_refused hname hup hshort hlookup hkept,
      walk_link_refused hname hup hshort hlookup' hkept]
    exact .error _
  | case11 place name rest hname hup hshort target hlookup hkept links ih =>
    intro other h
    have hlookup' := h.entries.lookup_link hlookup
    rw [walk_link_followed hname hup hshort hlookup hkept,
      walk_link_followed hname hup hshort hlookup' hkept]
    apply ih
    split
    · exact h.top
    · exact h

/-- Whether a link at the end is followed makes no difference unless there is one. -/
theorem walk_true_of_false (links : Nat) (place : Place) (components : List String) :
    (∀ target, place.walk false links components ≠ .ok (.link target)) →
      place.walk true links components = place.walk false links components := by
  induction links, place, components using Place.walk.induct false with
  | case1 links place =>
    intro _
    rw [Place.walk, Place.walk]
  | case2 links place name rest hblank ih =>
    rw [walk_blank hblank, walk_blank hblank]
    exact ih
  | case3 links place rest _ ih =>
    rw [walk_up, walk_up]
    exact ih
  | case4 links place name rest hname hup hlong =>
    intro _
    rw [walk_long hname hup hlong, walk_long hname hup hlong]
  | case5 links place name rest hname hup hshort hlookup =>
    intro _
    rw [walk_missing hname hup hshort hlookup, walk_missing hname hup hshort hlookup]
  | case6 links place name rest hname hup hshort inner hlookup ih =>
    rw [walk_directory hname hup hshort hlookup, walk_directory hname hup hshort hlookup]
    exact ih
  | case7 links place name rest hname hup hshort bytes hlookup _ =>
    intro _
    rw [walk_file hname hup hshort hlookup, walk_file hname hup hshort hlookup]
  | case8 links place name rest hname hup hshort bytes hlookup _ =>
    intro _
    rw [walk_file hname hup hshort hlookup, walk_file hname hup hshort hlookup]
  | case9 links place name rest hname hup hshort target hlookup hkept =>
    intro h
    exact absurd (walk_link_kept hname hup hshort hlookup hkept) (h target)
  | case10 place name rest hname hup hshort target hlookup hkept =>
    intro _
    rw [walk_link_refused hname hup hshort hlookup hkept,
      walk_link_refused hname hup hshort hlookup (by simp)]
  | case11 place name rest hname hup hshort target hlookup hkept links ih =>
    rw [walk_link_followed hname hup hshort hlookup hkept,
      walk_link_followed hname hup hshort hlookup (by simp)]
    exact ih

end Place

namespace Tree

/-- A path is refused in every tree, or it is followed in every tree. -/
theorem find_cases (path : String) :
    (∃ fault, ∀ (tree : Tree) follow, tree.find follow path = .error fault) ∨
    ∀ (tree : Tree) follow, tree.find follow path =
      Place.walk follow Place.linkBound ⟨tree.entries, []⟩ (Path.components path) := by
  by_cases hnul : path.toList.contains '\x00' = true
  · exact .inl ⟨.nulInName, fun tree follow => if_pos hnul⟩
  · by_cases hempty : path.isEmpty = true
    · exact .inl ⟨.notFound, fun tree follow => by rw [find, if_neg hnul, if_pos hempty]⟩
    · by_cases hlong : Place.pathBound ≤ path.utf8ByteSize
      · refine .inl ⟨.nameTooLong, fun tree follow => ?_⟩
        rw [find, if_neg hnul, if_neg hempty, if_pos hlong]
      · refine .inr fun tree follow => ?_
        rw [find, if_neg hnul, if_neg hempty, if_neg hlong]

theorem find_alike {tree other : Tree} (h : Entries.Alike tree.entries other.entries)
    (follow : Bool) (path : String) :
    Found.Alike (tree.find follow path) (other.find follow path) := by
  obtain ⟨fault, hrefused⟩ | hfollowed := find_cases path
  · rw [hrefused, hrefused]
    exact .error fault
  · rw [hfollowed, hfollowed]
    exact Place.Alike.walk follow _ _ _ ⟨h, .nil⟩

theorem find_true_of_false {tree : Tree} {path : String}
    (h : ∀ target, tree.find false path ≠ .ok (.link target)) :
    tree.find true path = tree.find false path := by
  obtain ⟨fault, hrefused⟩ | hfollowed := find_cases path
  · rw [hrefused, hrefused]
  · rw [hfollowed] at h
    rw [hfollowed, hfollowed]
    exact Place.walk_true_of_false _ _ _ h

theorem wellFormed_of_find {tree : Tree} (hw : WellFormed tree.entries) {follow : Bool}
    {path : String} {place : Place} (h : tree.find follow path = .ok (.directory place)) :
    WellFormed place.entries := by
  have halike := find_alike (.refl hw) follow path
  rw [h] at halike
  cases halike with
  | directory hplace => exact hplace.entries.wellFormed

theorem insertEntry_wellFormed {node : Node}
    (hnode : ∀ inner, node = .directory inner → WellFormed inner) {components : List String}
    (hnames : ∀ name ∈ components, IsEntryName name) {entries : Entries}
    (hw : WellFormed entries) : WellFormed (insertEntry node components entries) := by
  induction components generalizing entries with
  | nil => exact hw
  | cons name rest ih =>
    have hname := hnames name List.mem_cons_self
    cases rest with
    | nil =>
      unfold insertEntry
      split
      · exact hw
      · exact hw.put hname hnode
    | cons next rest =>
      refine hw.put hname fun inner hinner => ?_
      cases hinner
      refine ih (fun other hmem => hnames other (List.mem_cons_of_mem name hmem)) ?_
      split
      · rename_i inner hlookup
        have hmem := (Entries.lookup_eq_some_iff hw).mp hlookup
        obtain ⟨-, -, hbelow⟩ := hw
        exact hbelow name inner hmem
      · exact .nil

/-- Putting nodes into a tree keeps it well formed. -/
theorem insert_wellFormed {tree : Tree} (hw : WellFormed tree.entries) (path : String) {node : Node}
    (hnode : ∀ inner, node = .directory inner → WellFormed inner) :
    WellFormed (tree.insert path node).entries := by
  refine insertEntry_wellFormed hnode (fun name hmem => ?_) hw
  obtain ⟨hmem, hkept⟩ := List.mem_filter.mp hmem
  obtain ⟨field, hfield, rfl⟩ := List.mem_map.mp hmem
  have hne : String.ofList field ≠ "" := (of_decide_eq_true hkept).1
  exact ⟨hne, by rw [String.toList_ofList]; exact (Text.of_mem_fields hfield).1⟩

end Tree

end MacroScript
