import MacroScript.Proofs.ByteOrder
import MacroScript.Proofs.Enumeration
import MacroScript.Proofs.Grammar

/-! # Every case is listed once, in order

Which files are cases is said here by the way that leads to them: one entry after another, from the
directory at the start through directories and to a regular file. The listing goes through the tree
from directory to directory, collects the ways, sorts them and puts each behind the path at the
start. Names are distinct, so each way is collected once; and since all the paths have the same
beginning, their parts are in the order in which the ways were sorted. -/

namespace MacroScript

/-! ## Paths and their parts -/

theorem Text.fields_append_sep (sep : Char) (before after : List Char) :
    fields sep (before ++ sep :: after) = fields sep before ++ fields sep after := by
  induction before with
  | nil => simp [fields]
  | cons c before ih =>
    by_cases hc : c = sep
    · simp [fields, hc, ih]
    · obtain ⟨first, rest, hfields⟩ := List.exists_cons_of_ne_nil (fields_ne_nil sep before)
      simp [fields, hc, ih, hfields]

namespace Path

/-- The components of a path that are not empty. -/
def parts (path : String) : List String := (components path).filter (· ≠ "")

/-- Paths are compared part by part, and each part by its bytes. -/
def Precedes (path other : String) : Prop :=
  List.Lex Text.BytesBefore (parts path) (parts other)

theorem Precedes.ne {path other : String} (h : Precedes path other) : path ≠ other := by
  rintro rfl
  exact List.lex_irrefl (fun part => List.lex_irrefl UInt8.lt_irrefl (Text.bytes part)) _ h

/-- The path that goes along the components. -/
def relative (components : List String) : String :=
  String.ofList (Text.joinWith ['/'] (components.map String.toList))

/-- The path with a slash behind it, where it needs one to be gone on with. -/
def lead (base : String) : String :=
  if base.isEmpty || base.toList.getLast? = some '/' then base else base ++ "/"

theorem join_of_not_absolute {base part : String} (h : isAbsolute part = false) :
    join base part = lead base ++ part := by
  unfold join lead
  by_cases hempty : base.isEmpty = true
  · have hbase : base = "" := by simpa using hempty
    simp [h, hbase]
  · by_cases hslash : base.toList.getLast? = some '/'
    · simp [h, hempty, hslash]
    · simp [h, hempty, hslash]

theorem not_absolute_append {name : String} (h : IsEntryName name) (rest : String) :
    isAbsolute (name ++ rest) = false := by
  have hne : name.toList ≠ [] := by simpa using h.ne_empty
  obtain ⟨c, cs, hname⟩ := List.exists_cons_of_ne_nil hne
  have hc : c ≠ '/' := by
    rintro rfl
    exact h.no_slash (hname ▸ List.mem_cons_self)
  simp [isAbsolute, hname, hc]

theorem lead_append {name : String} (h : IsEntryName name) (base : String) :
    lead (base ++ name) = base ++ name ++ "/" := by
  have hne : name.toList ≠ [] := by simpa using h.ne_empty
  have hlast : (base ++ name).toList.getLast? ≠ some '/' := by
    intro hslash
    rw [String.toList_append, List.getLast?_append_of_ne_nil _ hne] at hslash
    exact h.no_slash (List.mem_of_getLast? hslash)
  have hempty : (base ++ name).isEmpty = false := by simp [h.ne_empty]
  simp only [lead, hempty, hlast, decide_false, Bool.or_false, Bool.false_eq_true, if_false]

theorem parts_of_isEntryName {name : String} (h : IsEntryName name) : parts name = [name] := by
  simp [parts, components, Text.fields_of_not_mem h.no_slash, h.ne_empty]

theorem parts_append_slash (before after : String) :
    parts (before ++ "/" ++ after) = parts before ++ parts after := by
  have htext : (before ++ "/" ++ after).toList = before.toList ++ '/' :: after.toList := by simp
  simp only [parts, components, htext, Text.fields_append_sep, List.map_append, List.filter_append]

theorem parts_lead_append (base after : String) :
    parts (lead base ++ after) = parts base ++ parts after := by
  by_cases hempty : base = ""
  · subst hempty
    simp [lead, parts, components, Text.fields]
  · by_cases hslash : base.toList.getLast? = some '/'
    · -- the slash at the end leaves an empty component, which is no part
      obtain ⟨before, hbefore⟩ := List.getLast?_eq_some_iff.mp hslash
      have hbase : base = String.ofList before ++ "/" ++ "" := by
        rw [String.append_empty, ← String.toList_inj, hbefore]
        simp
      have hlead : lead base ++ after = String.ofList before ++ "/" ++ after := by
        simp only [lead, hslash, decide_true, Bool.or_true, if_true]
        rw [hbase, String.append_empty]
      have hnone : parts "" = [] := by simp [parts, components, Text.fields]
      rw [hlead, parts_append_slash, hbase, parts_append_slash, hnone, List.append_nil]
    · have hlead : lead base = base ++ "/" := by simp [lead, hempty, hslash]
      rw [hlead, parts_append_slash]

theorem relative_singleton (name : String) : relative [name] = name := by
  simp [relative, Text.joinWith]

theorem relative_cons_cons (name next : String) (rest : List String) :
    relative (name :: next :: rest) = name ++ "/" ++ relative (next :: rest) := by
  simp [relative, Text.joinWith, ← String.toList_inj]

theorem not_absolute_relative {components : List String}
    (h : ∀ name ∈ components, IsEntryName name) : isAbsolute (relative components) = false := by
  cases components with
  | nil => rfl
  | cons name rest =>
    have hname := h name List.mem_cons_self
    cases rest with
    | nil =>
      rw [relative_singleton, ← String.append_empty (s := name)]
      exact not_absolute_append hname ""
    | cons next rest =>
      rw [relative_cons_cons, String.append_assoc]
      exact not_absolute_append hname _

theorem parts_relative {components : List String} (h : ∀ name ∈ components, IsEntryName name) :
    parts (relative components) = components := by
  induction components with
  | nil => simp [relative, Text.joinWith, parts, Path.components, Text.fields]
  | cons name rest ih =>
    have hname := parts_of_isEntryName (h name List.mem_cons_self)
    have hrest := ih fun other hmem => h other (List.mem_cons_of_mem name hmem)
    cases rest with
    | nil => rw [relative_singleton, hname]
    | cons next rest =>
      rw [relative_cons_cons, parts_append_slash, hname, hrest, List.singleton_append]

theorem parts_join_relative {components : List String} (h : ∀ name ∈ components, IsEntryName name)
    (start : String) : parts (join start (relative components)) = parts start ++ components := by
  rw [join_of_not_absolute (not_absolute_relative h), parts_lead_append, parts_relative h]

/-- Going on component by component is going on by the relative path at once. -/
theorem foldl_join {components : List String} (hne : components ≠ [])
    (h : ∀ name ∈ components, IsEntryName name) (start : String) :
    components.foldl join start = join start (relative components) := by
  induction components generalizing start with
  | nil => exact absurd rfl hne
  | cons name rest ih =>
    have hname := h name List.mem_cons_self
    have hrest : ∀ other ∈ rest, IsEntryName other :=
      fun other hmem => h other (List.mem_cons_of_mem name hmem)
    cases rest with
    | nil => rw [relative_singleton, List.foldl_cons, List.foldl_nil]
    | cons next rest =>
      have hsingle : isAbsolute (relative [name]) = false :=
        not_absolute_relative (List.forall_mem_singleton.mpr hname)
      rw [relative_singleton] at hsingle
      rw [List.foldl_cons, ih (List.cons_ne_nil _ _) hrest,
        join_of_not_absolute (not_absolute_relative hrest),
        join_of_not_absolute (not_absolute_relative h), join_of_not_absolute hsingle,
        lead_append hname, relative_cons_cons]
      simp only [String.append_assoc]

end Path

/-! ## The ways to cases -/

open Entries (WellFormed Reordered)

/-- From a directory with these entries, the components lead through directories to a regular
file. -/
inductive Reaches : Entries → List String → Prop where
  | file {entries : Entries} {name : String} {bytes : ByteArray}
      (mem : (name, Node.file bytes) ∈ entries) : Reaches entries [name]
  | inside {entries inner : Entries} {name : String} {components : List String}
      (mem : (name, Node.directory inner) ∈ entries) (rest : Reaches inner components) :
      Reaches entries (name :: components)

/-- What is found from a path: the file that it leads to itself, or the files that are reached from
the directory that it leads to, also by a link. -/
inductive IsCase (tree : Tree) (start : String) : String → Prop where
  | itself {bytes : ByteArray} (leads : tree.find false start = .ok (.file bytes))
      (name : Path.name? start = some "testcase.json") : IsCase tree start start
  | reached {place : Place} {components : List String}
      (leads : tree.find true start = .ok (.directory place))
      (reaches : Reaches place.entries components)
      (name : components.getLast? = some "testcase.json") :
      IsCase tree start (Path.join start (Path.relative components))

theorem Reaches.ne_nil {entries : Entries} {components : List String}
    (h : Reaches entries components) : components ≠ [] := by
  cases h <;> exact List.cons_ne_nil _ _

theorem Reaches.isEntryName {entries : Entries} {components : List String}
    (h : Reaches entries components) (hw : WellFormed entries) :
    ∀ name ∈ components, IsEntryName name := by
  induction h with
  | file mem =>
    obtain ⟨-, proper, -⟩ := hw
    exact List.forall_mem_singleton.mpr (proper _ mem)
  | inside mem _ ih =>
    obtain ⟨-, proper, below⟩ := hw
    exact List.forall_mem_cons.mpr ⟨proper _ mem, ih (below _ _ mem)⟩

theorem entriesCases_eq_flatMap (entries : Entries) :
    entriesCases entries = entries.flatMap fun entry => entry.2.cases entry.1 := by
  induction entries with
  | nil => rfl
  | cons entry rest ih => rw [entriesCases, List.flatMap_cons, ih]

theorem mem_cases_directory_iff {name : String} {inner : Entries} {components : List String} :
    components ∈ (Node.directory inner).cases name ↔
      ∃ rest ∈ entriesCases inner, components = name :: rest := by
  rw [Node.cases, List.mem_map]
  simp only [eq_comm]

theorem mem_cases_file_iff {name : String} {bytes : ByteArray} {components : List String} :
    components ∈ (Node.file bytes).cases name ↔
      name = "testcase.json" ∧ components = [name] := by
  rw [Node.cases]
  by_cases hname : name = caseFileName
  · rw [if_pos hname, List.mem_singleton]
    exact ⟨fun h => ⟨hname, h⟩, fun h => h.2⟩
  · rw [if_neg hname]
    exact ⟨fun h => absurd h List.not_mem_nil, fun h => absurd h.1 hname⟩

theorem head?_of_mem_cases {name : String} {node : Node} {components : List String}
    (h : components ∈ node.cases name) : components.head? = some name := by
  cases node with
  | file bytes =>
    obtain ⟨-, rfl⟩ := mem_cases_file_iff.mp h
    rfl
  | directory inner =>
    obtain ⟨rest, -, rfl⟩ := mem_cases_directory_iff.mp h
    rfl
  | link target => cases h

/-- The ways that are collected are those that end at a file with the name of a case. -/
theorem mem_entriesCases_iff {entries : Entries} {components : List String} :
    components ∈ entriesCases entries ↔
      Reaches entries components ∧ components.getLast? = some "testcase.json" := by
  rw [entriesCases_eq_flatMap, List.mem_flatMap]
  constructor
  · -- the induction is on the way: what follows the first name is collected in a directory
    induction components generalizing entries with
    | nil =>
      rintro ⟨⟨name, node⟩, hmem, hcase⟩
      cases node with
      | file bytes => exact absurd (mem_cases_file_iff.mp hcase).2 (List.cons_ne_nil _ _).symm
      | directory inner =>
        obtain ⟨rest, -, hrest⟩ := mem_cases_directory_iff.mp hcase
        cases hrest
      | link target => cases hcase
    | cons first rest ih =>
      rintro ⟨⟨name, node⟩, hmem, hcase⟩
      cases node with
      | file bytes =>
        obtain ⟨rfl, hsingle⟩ := mem_cases_file_iff.mp hcase
        rw [hsingle]
        exact ⟨.file hmem, rfl⟩
      | directory inner =>
        obtain ⟨rest', hrest, heq⟩ := mem_cases_directory_iff.mp hcase
        cases heq
        rw [entriesCases_eq_flatMap, List.mem_flatMap] at hrest
        obtain ⟨hreaches, hlast⟩ := ih hrest
        exact ⟨.inside hmem hreaches, by rw [List.getLast?_cons_of_ne_nil hreaches.ne_nil, hlast]⟩
      | link target => cases hcase
  · rintro ⟨hreaches, hlast⟩
    induction hreaches with
    | @file entries name bytes mem =>
      have hname : name = "testcase.json" := by simpa using hlast
      exact ⟨_, mem, mem_cases_file_iff.mpr ⟨hname, rfl⟩⟩
    | inside mem hrest ih =>
      rw [List.getLast?_cons_of_ne_nil hrest.ne_nil] at hlast
      refine ⟨_, mem, mem_cases_directory_iff.mpr ⟨_, ?_, rfl⟩⟩
      rw [entriesCases_eq_flatMap, List.mem_flatMap]
      exact ih hlast

/-- No way is collected twice. -/
theorem nodup_entriesCases {entries : Entries} (h : WellFormed entries) :
    (entriesCases entries).Nodup := by
  induction h with
  | @intro entries distinct proper below ih =>
    rw [entriesCases_eq_flatMap, List.nodup_flatMap]
    constructor
    · rintro ⟨name, node⟩ hmem
      cases node with
      | file bytes =>
        by_cases hname : name = caseFileName <;> simp [Node.cases, hname]
      | directory inner =>
        exact (ih name inner hmem).map fun _ _ heq => (List.cons.inj heq).2
      | link target => exact List.nodup_nil
    · -- the ways through different entries differ in their first name
      refine (List.pairwise_map.mp distinct).imp ?_
      intro entry entry' hne components hcase hcase'
      have hhead := head?_of_mem_cases hcase
      rw [head?_of_mem_cases hcase'] at hhead
      exact hne (Option.some.inj hhead).symm

theorem Entries.Reordered.entriesCases_perm {entries other : Entries}
    (h : Reordered entries other) : (entriesCases entries).Perm (entriesCases other) := by
  induction h with
  | refl entries => exact .refl _
  | cons entry _ ih =>
    rw [entriesCases, entriesCases]
    exact ih.append_left _
  | inside name rest _ ih =>
    rw [entriesCases, entriesCases, Node.cases, Node.cases]
    exact (ih.map _).append_right _
  | swap first second rest =>
    simp only [entriesCases]
    exact List.perm_append_comm_assoc ..
  | trans _ _ ih ih' => exact ih.trans ih'

/-! ## The order of the listing -/

theorem componentsLe_iff {a b : List String} :
    componentsLe a b = true ↔ a = b ∨ List.Lex (· < ·) a b := by
  induction a generalizing b with
  | nil =>
    cases b with
    | nil => simp [componentsLe]
    | cons y b => simp [componentsLe]
  | cons x a ih =>
    cases b with
    | nil => simp [componentsLe]
    | cons y b =>
      rw [componentsLe, List.cons_lex_cons_iff]
      by_cases hsame : x = y
      · subst hsame
        simp [ih]
      · simp [hsame]

theorem componentsLe_trans (a b c : List String) (hab : componentsLe a b = true)
    (hbc : componentsLe b c = true) : componentsLe a c = true := by
  rw [componentsLe_iff] at hab hbc ⊢
  rcases hab with rfl | hab
  · exact hbc
  · rcases hbc with rfl | hbc
    · exact .inr hab
    · exact .inr (List.lex_trans String.lt_trans hab hbc)

theorem componentsLe_total (a b : List String) :
    (componentsLe a b || componentsLe b a) = true := by
  induction a generalizing b with
  | nil => simp [componentsLe]
  | cons x a ih =>
    cases b with
    | nil => simp [componentsLe]
    | cons y b =>
      by_cases hsame : x = y
      · subst hsame
        simpa [componentsLe] using ih b
      · have hlt : x < y ∨ y < x := by
          by_contra hneither
          rw [not_or, String.not_lt, String.not_lt] at hneither
          exact hsame (String.le_antisymm hneither.2 hneither.1)
        simpa [componentsLe, hsame, Ne.symm hsame] using hlt

theorem mergeSort_eq_of_perm {ways other : List (List String)} (h : ways.Perm other) :
    ways.mergeSort componentsLe = other.mergeSort componentsLe := by
  have hperm : (ways.mergeSort componentsLe).Perm (other.mergeSort componentsLe) :=
    (List.mergeSort_perm ..).trans (h.trans (List.mergeSort_perm ..).symm)
  refine hperm.eq_of_pairwise (fun a b _ _ hab hba => ?_)
    (List.pairwise_mergeSort componentsLe_trans componentsLe_total _)
    (List.pairwise_mergeSort componentsLe_trans componentsLe_total _)
  rw [componentsLe_iff] at hab hba
  rcases hab with rfl | hab
  · rfl
  · rcases hba with rfl | hba
    · rfl
    · have hself : List.Lex (· < ·) a a := List.lex_trans String.lt_trans hab hba
      exact absurd hself (List.lex_irrefl String.lt_irrefl a)

section Below

variable {place : Place} (hw : WellFormed place.entries) (start : String)
include hw

theorem mem_casesBelow_iff {path : String} :
    path ∈ casesBelow start place ↔
      ∃ components, Reaches place.entries components ∧
        components.getLast? = some "testcase.json" ∧
        path = Path.join start (Path.relative components) := by
  rw [casesBelow, List.mem_map]
  constructor
  · rintro ⟨components, hmem, rfl⟩
    obtain ⟨hreaches, hlast⟩ := mem_entriesCases_iff.mp (List.mem_mergeSort.mp hmem)
    exact ⟨components, hreaches, hlast,
      Path.foldl_join hreaches.ne_nil (hreaches.isEntryName hw) start⟩
  · rintro ⟨components, hreaches, hlast, rfl⟩
    exact ⟨components, List.mem_mergeSort.mpr (mem_entriesCases_iff.mpr ⟨hreaches, hlast⟩),
      Path.foldl_join hreaches.ne_nil (hreaches.isEntryName hw) start⟩

theorem pairwise_casesBelow : (casesBelow start place).Pairwise Path.Precedes := by
  have hsorted := List.pairwise_mergeSort componentsLe_trans componentsLe_total
    (entriesCases place.entries)
  have hdistinct : ((entriesCases place.entries).mergeSort componentsLe).Nodup :=
    (List.mergeSort_perm ..).nodup_iff.mpr (nodup_entriesCases hw)
  rw [casesBelow, List.pairwise_map]
  refine (hsorted.and hdistinct).imp_of_mem ?_
  rintro a b ha hb ⟨hle, hne⟩
  obtain ⟨hreaches, -⟩ := mem_entriesCases_iff.mp (List.mem_mergeSort.mp ha)
  obtain ⟨hreaches', -⟩ := mem_entriesCases_iff.mp (List.mem_mergeSort.mp hb)
  have hlex : List.Lex Text.BytesBefore a b :=
    ((componentsLe_iff.mp hle).resolve_left hne).imp (fun _ _ => Text.bytesBefore_of_lt) _ _
  rw [Path.foldl_join hreaches.ne_nil (hreaches.isEntryName hw),
    Path.foldl_join hreaches'.ne_nil (hreaches'.isEntryName hw), Path.Precedes,
    Path.parts_join_relative (hreaches.isEntryName hw),
    Path.parts_join_relative (hreaches'.isEntryName hw)]
  exact hlex.append_left _ _

end Below

/-! ## What is listed from a path -/

section Listing

variable {tree : Tree} {start : String}

theorem find_true_of_file {bytes : ByteArray} (h : tree.find false start = .ok (.file bytes)) :
    tree.find true start = .ok (.file bytes) := by
  refine (Tree.find_true_of_false ?_).trans h
  intro target
  rw [h]
  nofun

/-- The look-up that follows a link at the end says whether there is a directory to be entered. -/
theorem findCases_of_directory {place : Place}
    (h : tree.find true start = .ok (.directory place)) :
    findCases tree start = casesBelow start place := by
  by_cases hlink : ∃ target, tree.find false start = .ok (.link target)
  · obtain ⟨target, hlink⟩ := hlink
    simp only [findCases, hlink, h]
  · have hsame := Tree.find_true_of_false fun target ht => hlink ⟨target, ht⟩
    rw [h] at hsame
    simp only [findCases, ← hsame]

theorem findCases_of_neither (hfile : ∀ bytes, tree.find false start ≠ .ok (.file bytes))
    (hdirectory : ∀ place, tree.find true start ≠ .ok (.directory place)) :
    findCases tree start = [] := by
  unfold findCases
  cases hfind : tree.find false start with
  | error fault => rfl
  | ok found =>
    cases found with
    | file bytes => exact absurd hfind (hfile bytes)
    | directory place =>
      have hsame : tree.find true start = tree.find false start := by
        refine Tree.find_true_of_false fun target => ?_
        rw [hfind]
        nofun
      exact absurd (hsame.trans hfind) (hdirectory place)
    | link target =>
      dsimp only
      split
      · rename_i place hplace
        exact absurd hplace (hdirectory place)
      · rfl

theorem isCase_of_file_iff {bytes : ByteArray} (h : tree.find false start = .ok (.file bytes))
    {path : String} :
    IsCase tree start path ↔ Path.name? start = some "testcase.json" ∧ path = start := by
  constructor
  · intro hcase
    cases hcase with
    | itself _ name => exact ⟨name, rfl⟩
    | reached leads =>
      rw [find_true_of_file h] at leads
      cases leads
  · rintro ⟨hname, rfl⟩
    exact .itself h hname

theorem isCase_of_directory_iff {place : Place}
    (h : tree.find true start = .ok (.directory place)) {path : String} :
    IsCase tree start path ↔ ∃ components, Reaches place.entries components ∧
      components.getLast? = some "testcase.json" ∧
      path = Path.join start (Path.relative components) := by
  constructor
  · intro hcase
    cases hcase with
    | itself leads =>
      rw [find_true_of_file leads] at h
      cases h
    | @reached place' components leads reaches name =>
      rw [h] at leads
      cases leads
      exact ⟨components, reaches, name, rfl⟩
  · rintro ⟨components, hreaches, hlast, rfl⟩
    exact .reached h hreaches hlast

theorem findCases_lists (hw : WellFormed tree.entries) (start : String) :
    (findCases tree start).Pairwise Path.Precedes ∧
      ∀ path, path ∈ findCases tree start ↔ IsCase tree start path := by
  by_cases hfile : ∃ bytes, tree.find false start = .ok (.file bytes)
  · obtain ⟨bytes, hfile⟩ := hfile
    simp only [findCases, hfile, isCase_of_file_iff hfile]
    by_cases hname : Path.name? start = some caseFileName
    · rw [if_pos hname]
      refine ⟨List.pairwise_singleton .., fun path => List.mem_singleton.trans ?_⟩
      exact ⟨fun h => ⟨hname, h⟩, fun h => h.2⟩
    · rw [if_neg hname]
      refine ⟨.nil, fun path => ⟨fun h => absurd h List.not_mem_nil, fun h => ?_⟩⟩
      exact absurd h.1 hname
  · by_cases hdirectory : ∃ place, tree.find true start = .ok (.directory place)
    · obtain ⟨place, hplace⟩ := hdirectory
      have hbelow := Tree.wellFormed_of_find hw hplace
      rw [findCases_of_directory hplace]
      refine ⟨pairwise_casesBelow hbelow start, fun path => ?_⟩
      rw [mem_casesBelow_iff hbelow, isCase_of_directory_iff hplace]
    · rw [findCases_of_neither (fun bytes h => hfile ⟨bytes, h⟩)
        fun place h => hdirectory ⟨place, h⟩]
      refine ⟨.nil, fun path => ⟨fun h => absurd h List.not_mem_nil, fun h => ?_⟩⟩
      cases h with
      | itself leads => exact absurd ⟨_, leads⟩ hfile
      | reached leads => exact absurd ⟨_, leads⟩ hdirectory

theorem findCases_of_reordered {other : Tree} (h : Entries.Alike tree.entries other.entries)
    (start : String) : findCases other start = findCases tree start := by
  have hbelow : ∀ {place place' : Place}, place.Alike place' →
      casesBelow start place' = casesBelow start place := by
    intro place place' hplace
    rw [casesBelow, casesBelow,
      mergeSort_eq_of_perm hplace.entries.reordered.entriesCases_perm]
  have hfalse := Tree.find_alike h false start
  have htrue := Tree.find_alike h true start
  unfold findCases
  generalize tree.find false start = found at hfalse ⊢
  generalize other.find false start = found' at hfalse ⊢
  generalize tree.find true start = entered at htrue ⊢
  generalize other.find true start = entered' at htrue ⊢
  cases hfalse with
  | error fault => rfl
  | file bytes => rfl
  | directory hplace => exact hbelow hplace
  | link target =>
    cases htrue with
    | directory hplace => exact hbelow hplace
    | error fault => rfl
    | file bytes => rfl
    | link target => rfl

end Listing

theorem discoverCases_of_ne_nil {tree : Tree} {start : String} (h : findCases tree start ≠ []) :
    discoverCases tree start = .ok (findCases tree start) := by
  unfold discoverCases
  split
  · rename_i hnone
    exact absurd hnone h
  · rfl

/-- **Every case is listed once, in order.** In a well-formed tree, the paths listed from a start
path are in strict order, part by part and each part by its bytes, and they are exactly those of the
cases that are found from there. There is an error exactly when there is no case. The order in which
directories have their entries makes no difference. -/
theorem discoverCases_lists_each_case {tree : Tree} (hw : WellFormed tree.entries)
    (start : String) :
    (∀ found, discoverCases tree start = .ok found →
      found.Pairwise Path.Precedes ∧ found.Nodup ∧ ∀ path, path ∈ found ↔ IsCase tree start path) ∧
    (∀ error, discoverCases tree start = .error error ↔
      error = .noCases start ∧ ∀ path, ¬ IsCase tree start path) ∧
    ∀ other : Tree, Reordered tree.entries other.entries →
      discoverCases other start = discoverCases tree start := by
  obtain ⟨hsorted, hmem⟩ := findCases_lists hw start
  have hdistinct : (findCases tree start).Nodup := hsorted.imp Path.Precedes.ne
  have hreordered : ∀ other : Tree, Reordered tree.entries other.entries →
      discoverCases other start = discoverCases tree start := by
    intro other h
    unfold discoverCases
    rw [findCases_of_reordered ⟨hw, h⟩ start]
  by_cases hnone : findCases tree start = []
  · have herror : discoverCases tree start = .error (.noCases start) := by rw [discoverCases, hnone]
    have hno : ∀ path, ¬ IsCase tree start path := by
      intro path hcase
      rw [← hmem, hnone] at hcase
      exact List.not_mem_nil hcase
    refine ⟨fun found hfound => ?_, fun error => ?_, hreordered⟩
    · rw [herror] at hfound
      cases hfound
    · rw [herror, Except.error.injEq, eq_comm]
      exact ⟨fun h => ⟨h, hno⟩, fun h => h.1⟩
  · have hok := discoverCases_of_ne_nil hnone
    obtain ⟨path, hpath⟩ := List.exists_mem_of_ne_nil _ hnone
    refine ⟨fun found hfound => ?_, fun error => ⟨fun h => ?_, fun h => ?_⟩, hreordered⟩
    · rw [hok] at hfound
      cases hfound
      exact ⟨hsorted, hdistinct, hmem⟩
    · rw [hok] at h
      cases h
    · exact absurd ((hmem path).mp hpath) (h.2 path)

/-- A tree with a link to a directory that holds two cases and a link back to the top. -/
def linkedTree : Tree :=
  ((({} : Tree).insert "d/a-b/testcase.json" (.file .empty)).insert "d/a/x/testcase.json"
    (.file .empty)).insert "d/loop" (.link "..") |>.insert "l" (.link "d")

theorem linkedTree_listed :
    let paths := ["l/a/x/testcase.json", "l/a-b/testcase.json"]
    WellFormed linkedTree.entries ∧ discoverCases linkedTree "l" = .ok paths ∧
      paths.Pairwise Path.Precedes ∧ paths.Nodup ∧
      ∀ path, path ∈ paths ↔ IsCase linkedTree "l" path := by
  intro paths
  have hw : WellFormed linkedTree.entries := by
    have hempty : WellFormed ({} : Tree).entries := .nil
    refine Tree.insert_wellFormed (Tree.insert_wellFormed (Tree.insert_wellFormed
      (Tree.insert_wellFormed hempty _ ?_) _ ?_) _ ?_) _ ?_ <;> nofun
  let inner : Entries :=
    [("a-b", .directory [("testcase.json", .file .empty)]),
      ("a", .directory [("x", .directory [("testcase.json", .file .empty)])]),
      ("loop", .link "..")]
  have hentries : linkedTree.entries = [("d", .directory inner), ("l", .link "d")] := rfl
  have hl : Path.components "l" = ["l"] := by decide +kernel
  have hd : Path.components "d" = ["d"] ∧ Path.isAbsolute "d" = false := by decide +kernel
  have hshort : ¬ Place.nameBound < "l".utf8ByteSize ∧ ¬ Place.nameBound < "d".utf8ByteSize := by
    decide +kernel
  have hfind : linkedTree.find true "l" = .ok (.directory ⟨inner, [linkedTree.entries]⟩) := by
    rw [Tree.find, if_neg (by decide +kernel), if_neg (by decide +kernel),
      if_neg (by decide +kernel), hl, Place.linkBound, hentries]
    simp [Place.walk, hd, hshort, List.lookup_cons, Place.down]
  have hways : (entriesCases inner).mergeSort componentsLe =
      [["a", "x", "testcase.json"], ["a-b", "testcase.json"]] := by
    have hperm : (entriesCases inner).Perm
        [["a", "x", "testcase.json"], ["a-b", "testcase.json"]] := .swap ..
    rw [mergeSort_eq_of_perm hperm]
    exact List.mergeSort_of_pairwise (by decide +kernel)
  have hcases : findCases linkedTree "l" = paths := by
    rw [findCases_of_directory hfind, casesBelow, hways]
    decide +kernel
  have hfound : discoverCases linkedTree "l" = .ok paths := by
    rw [discoverCases_of_ne_nil (by rw [hcases]; exact List.cons_ne_nil _ _), hcases]
  exact ⟨hw, hfound, (discoverCases_lists_each_case hw "l").1 _ hfound⟩

end MacroScript
