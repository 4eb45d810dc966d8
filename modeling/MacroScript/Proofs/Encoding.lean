import MacroScript.Case.Basic
import MacroScript.Proofs.Records

/-! # Written values read back

States, changes, directives and cases are read back from every text of the value they are written
as. Changes and cases have all the forms of a record. A directive has them too, with the names that
belong to its kind, but it is taken in whole before the kind is known, so its numbers have to
fit a double. -/

namespace MacroScript

open Json (Value Fields ReadsBack OrderFree MayOmit Repeated RecordForm)

/-! ## States and changes -/

namespace RunState

theorem ofValue?_toValue (state : RunState) : ofValue? state.toValue = some state :=
  ofCode?_code state

theorem readsBack : ReadsBack toValue ofValue? :=
  Json.readsBack_of_writable (fun state => Value.writable_text state.code) ofValue?_toValue

/-- An object that holds a state has only one member. -/
theorem orderFree : OrderFree ofValue? := by
  intro members other hperm
  cases members with
  | nil => rw [hperm.nil_eq]
  | cons member members =>
    cases members with
    | nil => rw [List.singleton_perm.mp hperm]
    | cons next members =>
      have hlength := hperm.length_eq
      cases other with
      | nil => cases hlength
      | cons member' other =>
        cases other with
        | nil => cases hlength
        | cons next' other => simp [ofValue?]

end RunState

namespace StateChange

theorem recordForm : RecordForm ofValue? fieldNames := by
  unfold ofValue?
  apply RecordForm.of_fields (by decide)
  · intro fields other h
    simp only [fieldNames, List.forall_mem_cons] at h
    simp only [ofFields?, Fields.required?, Fields.optional?, h]
  · intro fields name hname hnone
    simp only [fieldNames, List.mem_cons, List.not_mem_nil, or_false] at hname
    rcases hname with rfl | rfl <;> simp [ofFields?, Fields.required?, Fields.optional?, hnone]

theorem mayOmit_message : MayOmit ofValue? "message" .null := by
  unfold ofValue?
  apply Json.mayOmit_of_fields
  intro fields hfields
  have hnull : Value.nullable? Value.text? .null = some none := rfl
  rw [ofFields?, ofFields?, Fields.required?_cons_of_ne (by decide),
    Fields.optional?_cons_default hfields hnull]

theorem readsBack : ReadsBack toValue ofValue? := by
  apply Json.readsBack_of_writable
  · intro change
    apply Value.writable_record
    simp [RunState.toValue, Value.writable_option]
  · intro change
    simp [toValue, Value.record, ofValue?, Fields.ofValue?, Fields.ofMembers?, ofFields?,
      Fields.required?, Fields.optional?, Fields.get?, RunState.ofValue?_toValue,
      Value.nullable?_text]

end StateChange

/-! ## Directives -/

namespace Directive

theorem fieldNames?_cases {kind : String} {names : List String}
    (h : fieldNames? kind = some names) :
    kind = "label" ∧ names = ["name"] ∨ kind = "var" ∧ names = ["key", "value"] ∨
      kind = "jumpTo" ∧ names = ["label", "count"] ∨ kind = "end" ∧ names = [] ∨
      kind = "command" ∧ names = ["text"] := by
  unfold fieldNames? at h
  split at h <;> simp_all

/-- A directive is read from what stands under the names of its kind. -/
theorem ofFields?_congr {kind : String} {fields other : Fields}
    (h : ∀ names, fieldNames? kind = some names →
      ∀ name ∈ names, fields.get? name = other.get? name) :
    ofFields? fields kind = ofFields? other kind := by
  cases hnames : fieldNames? kind with
  | some names =>
    have hsame := h names hnames
    obtain ⟨rfl, rfl⟩ | ⟨rfl, rfl⟩ | ⟨rfl, rfl⟩ | ⟨rfl, rfl⟩ | ⟨rfl, rfl⟩ :=
      fieldNames?_cases hnames
    · simp [ofFields?, Fields.required?, hsame]
    · simp [ofFields?, Fields.required?, hsame]
    · simp [ofFields?, Fields.required?, Fields.optional?, hsame]
    · rfl
    · simp [ofFields?, Fields.required?, hsame]
  | none =>
    have hnone : ∀ fields, ofFields? fields kind = none := by
      intro fields
      unfold ofFields?
      split <;> first | rfl | cases hnames
    rw [hnone, hnone]

theorem ofFields?_of_repeated {kind name : String} {names : List String} {fields : Fields}
    (hnames : fieldNames? kind = some names) (hname : name ∈ names)
    (hnone : fields.get? name = none) : ofFields? fields kind = none := by
  obtain ⟨rfl, rfl⟩ | ⟨rfl, rfl⟩ | ⟨rfl, rfl⟩ | ⟨rfl, rfl⟩ | ⟨rfl, rfl⟩ :=
    fieldNames?_cases hnames <;>
    simp only [List.mem_cons, List.not_mem_nil, or_false] at hname
  · simp [ofFields?, Fields.required?, ← hname, hnone]
  · rcases hname with rfl | rfl <;> simp [ofFields?, Fields.required?, hnone]
  · rcases hname with rfl | rfl <;> simp [ofFields?, Fields.required?, Fields.optional?, hnone]
  · simp [ofFields?, Fields.required?, ← hname, hnone]

theorem kind_not_mem {kind : String} {names : List String} (h : fieldNames? kind = some names) :
    "kind" ∉ names := by
  obtain ⟨-, rfl⟩ | ⟨-, rfl⟩ | ⟨-, rfl⟩ | ⟨-, rfl⟩ | ⟨-, rfl⟩ := fieldNames?_cases h <;> decide

theorem ofValue?_object (members : List (Json.Name × Value)) :
    ofValue? (.object members) =
      if Value.membersHoldable (nestingBound - 1) members then
        (Fields.ofMembers? members).bind ofObject?
      else none := rfl

theorem orderFree : OrderFree ofValue? := by
  intro members other hperm
  rw [ofValue?_object, ofValue?_object, Value.membersHoldable_eq_all, Value.membersHoldable_eq_all,
    hperm.all_eq]
  congr 1
  apply Fields.ofMembers?_bind_perm hperm
  intro fields found hfields
  have hsame : ∀ kind, ofFields? fields kind = ofFields? found kind := fun kind =>
    ofFields?_congr fun _ _ name _ => Fields.get?_perm hfields name
  rw [ofObject?, ofObject?, Fields.required?, Fields.required?, Fields.get?_perm hfields,
    funext hsame]

theorem ofObject?_of_repeated {fields : Fields} (h : fields.get? "kind" = none) :
    ofObject? fields = none := by
  simp [ofObject?, Fields.required?, h]

theorem mayOmit_count : MayOmit ofValue? "count" .null := by
  intro members hmembers
  have hroom : Value.membersHoldable (nestingBound - 1) ((some "count", .null) :: members) =
      Value.membersHoldable (nestingBound - 1) members := rfl
  rw [ofValue?_object, ofValue?_object, hroom]
  congr 1
  rw [Fields.ofMembers?]
  cases hread : Fields.ofMembers? members with
  | none => rfl
  | some fields =>
    have hfields := Fields.ne_of_ofMembers? hread hmembers
    show ofObject? (("count", .null) :: fields) = ofObject? fields
    have hnull : Value.nullable? count? .null = some none := rfl
    have hsame : ∀ kind, ofFields? (("count", .null) :: fields) kind = ofFields? fields kind := by
      intro kind
      unfold ofFields?
      split
      · rw [Fields.required?_cons_of_ne (by decide)]
      · rw [Fields.required?_cons_of_ne (by decide), Fields.required?_cons_of_ne (by decide)]
      · rw [Fields.required?_cons_of_ne (by decide), Fields.optional?_cons_default hfields hnull]
      · rfl
      · rw [Fields.required?_cons_of_ne (by decide)]
      · rfl
    rw [ofObject?, ofObject?, Fields.required?_cons_of_ne (by decide), funext hsame]

/-- The array of a kind and all its fields is as good as the object. -/
theorem ofValue?_array {kind : String} {names : List String}
    (hnames : fieldNames? kind = some names) {items : List Value}
    (hlength : items.length = names.length) :
    ofValue? (.array (.text kind :: items)) =
      ofValue? (.record (("kind", .text kind) :: names.zip items)) := by
  have hother : ∀ field ∈ names.zip items, field.1 ≠ "kind" := by
    intro field hfield hkind
    exact kind_not_mem hnames (hkind ▸ (List.of_mem_zip hfield).1)
  have hroom : Value.isHoldable nestingBound (.array (.text kind :: items)) =
      Value.membersHoldable (nestingBound - 1)
        ((("kind", .text kind) :: names.zip items).map fun field => (some field.1, field.2)) := by
    rw [List.map_cons, Value.membersHoldable, Value.membersHoldable_zip _ hlength]
    rfl
  have hsame : ofFields? (("kind", .text kind) :: names.zip items) kind =
      ofFields? (names.zip items) kind := by
    apply ofFields?_congr
    intro names' hnames' name hname
    refine Fields.get?_cons_of_ne ?_ _ _
    rintro rfl
    exact kind_not_mem hnames' hname
  rw [Value.record, ofValue?_object, ← hroom, Fields.ofMembers?_map, Option.bind_some, ofObject?,
    Fields.required?, Fields.get?_cons_self hother]
  show (if _ then
      ((Value.text kind).text?.bind fun kind => (fieldNames? kind).bind fun names =>
        (Fields.ofItems? names names.length items).bind fun fields => ofFields? fields kind)
    else none) = _
  simp [hnames, Fields.ofItems?, hlength, hsame]

theorem refusesRepeated_kind {members : List (Json.Name × Value)} (h : Repeated "kind" members) :
    ofValue? (.object members) = none := by
  rw [ofValue?_object]
  split
  · cases hread : Fields.ofMembers? members with
    | none => rfl
    | some fields => exact ofObject?_of_repeated (Fields.get?_of_repeated_members hread h)
  · rfl

theorem refusesRepeated_field {kind name : String} {names : List String}
    {members : List (Json.Name × Value)} (hkind : (some "kind", .text kind) ∈ members)
    (hnames : fieldNames? kind = some names) (hname : name ∈ names) (h : Repeated name members) :
    ofValue? (.object members) = none := by
  rw [ofValue?_object]
  split
  · cases hread : Fields.ofMembers? members with
    | none => rfl
    | some fields =>
      have hmem : ("kind", Value.text kind) ∈ fields := by
        rw [Fields.ofMembers?_eq_some_iff] at hread
        simpa [hread] using hkind
      show ofObject? fields = none
      rcases Fields.get?_of_mem hmem with hfound | hfound
      · rw [ofObject?, Fields.required?, hfound]
        exact ofFields?_of_repeated hnames hname (Fields.get?_of_repeated_members hread h)
      · exact ofObject?_of_repeated hfound
  · rfl

theorem count?_nat (n : UInt32) : count? (.nat n.toNat) = some n := by
  rw [count?, Value.nat?_nat n.toNat_lt_size]
  simp

theorem readsBack : ReadsBack toValue ofValue? := by
  apply Json.readsBack_of_writable
  · intro directive
    apply Value.writable_record
    cases directive <;> simp [toFields, Value.writable_option]
  · intro directive
    have hroom : Value.membersHoldable (nestingBound - 1)
        ((("kind", .text directive.tag) :: directive.toFields).map fun field =>
          (some field.1, field.2)) = true := by
      cases directive <;>
        simp [toFields, Value.membersHoldable, Value.isHoldable_text, Value.isHoldable_count]
    rw [toValue, Value.record, ofValue?_object, hroom, if_pos rfl, Fields.ofMembers?_map]
    have hcount := fun count : Option UInt32 =>
      Value.nullable?_option (fun n : UInt32 => Value.noConfusion) count?_nat count
    cases directive <;>
      simp [ofObject?, tag, toFields, ofFields?, Fields.required?, Fields.optional?, Fields.get?,
        hcount]

end Directive

/-! ## Cases -/

namespace TestCase

/-- The fields that have a default, with what is written for it. -/
def defaultFields : Fields :=
  [("script", .text defaultScript), ("failingCommands", textsValue []),
    ("stopAfterCommands", .null), ("expectedCommands", textsValue []), ("expectedMessage", .null)]

theorem recordForm : RecordForm ofValue? fieldNames := by
  unfold ofValue?
  apply RecordForm.of_fields (by decide)
  · intro fields other h
    simp only [fieldNames, List.forall_mem_cons] at h
    simp only [ofFields?, Fields.required?, Fields.optional?, h]
  · intro fields name hname hnone
    simp only [fieldNames, List.mem_cons, List.not_mem_nil, or_false] at hname
    rcases hname with rfl | rfl | rfl | rfl | rfl | rfl | rfl <;>
      simp [ofFields?, Fields.required?, Fields.optional?, hnone]

theorem mayOmit_default : ∀ field ∈ defaultFields, MayOmit ofValue? field.1 field.2 := by
  intro field hfield
  unfold ofValue?
  apply Json.mayOmit_of_fields
  intro fields hfields
  have hscript : Value.text? (.text defaultScript) = some defaultScript := rfl
  have htexts : Value.texts? (textsValue []) = some [] := rfl
  have hlimit : Value.nullable? limit? .null = some none := rfl
  have hmessage : Value.nullable? Value.text? .null = some none := rfl
  simp only [defaultFields, List.mem_cons, List.not_mem_nil, or_false] at hfield
  rcases hfield with rfl | rfl | rfl | rfl | rfl <;>
    simp (disch := first | decide | assumption) only [ofFields?, Fields.required?_cons_of_ne,
      Fields.optional?_cons_of_ne, Fields.optional?_cons_default]

theorem texts?_textsValue (texts : List String) : (textsValue texts).texts? = some texts := by
  induction texts with
  | nil => rfl
  | cons text texts ih =>
    rw [textsValue, Value.texts?] at ih
    simp [textsValue, Value.texts?, ih]

theorem limit?_nat (n : UInt64) : limit? (.nat n.toNat) = some n := by
  rw [limit?, Value.nat?_nat n.toNat_lt_size]
  simp

theorem readsBack : ReadsBack toValue ofValue? := by
  apply Json.readsBack_of_writable
  · intro test
    have htexts : ∀ texts, (textsValue texts).Writable := by
      intro texts
      apply Value.writable_array
      simp
    apply Value.writable_record
    simp [RunState.toValue, Value.writable_option, htexts]
  · intro test
    have hlimit := Value.nullable?_option (fun n : UInt64 => Value.noConfusion) limit?_nat
      test.stopAfterCommands
    simp [toValue, Value.record, ofValue?, Fields.ofValue?, Fields.ofMembers?, ofFields?,
      Fields.required?, Fields.optional?, Fields.get?, RunState.ofValue?_toValue,
      Value.nullable?_text, texts?_textsValue, hlimit]

end TestCase

/-! ## All that is written -/

/-- What is written for a state, a change, a directive or a case reads back. Every text of a value
is read as that value, whatever its blanks and escapes. The members of an object may stand in any
order. Names that a change or a case does not have are passed over, and what equals its default may
be left out. The array of all fields is read as the object is. A repeated field or kind
is refused. -/
theorem decoding_undoes_encoding :
    (ReadsBack RunState.toValue RunState.ofValue? ∧
      ReadsBack StateChange.toValue StateChange.ofValue? ∧
      ReadsBack Directive.toValue Directive.ofValue? ∧
      ReadsBack TestCase.toValue TestCase.ofValue?) ∧
    (∀ (value : Value) (text : String), value.Written text → Value.parse? text = some value) ∧
    (OrderFree RunState.ofValue? ∧ OrderFree Directive.ofValue?) ∧
    (RecordForm StateChange.ofValue? StateChange.fieldNames ∧
      RecordForm TestCase.ofValue? TestCase.fieldNames) ∧
    (MayOmit StateChange.ofValue? "message" .null ∧
      MayOmit Directive.ofValue? "count" .null ∧
      ∀ field ∈ TestCase.defaultFields, MayOmit TestCase.ofValue? field.1 field.2) ∧
    (∀ (kind : String) (names : List String) (items : List Value),
      Directive.fieldNames? kind = some names → items.length = names.length →
      Directive.ofValue? (.array (.text kind :: items)) =
        Directive.ofValue? (.record (("kind", .text kind) :: names.zip items))) ∧
    (∀ members : List (Json.Name × Value), Repeated "kind" members →
      Directive.ofValue? (.object members) = none) ∧
    (∀ (kind name : String) (names : List String) (members : List (Json.Name × Value)),
      (some "kind", .text kind) ∈ members → Directive.fieldNames? kind = some names →
      name ∈ names → Repeated name members → Directive.ofValue? (.object members) = none) := by
  refine ⟨⟨RunState.readsBack, StateChange.readsBack, Directive.readsBack, TestCase.readsBack⟩,
    fun _ _ => Value.parse?_of_written, ⟨RunState.orderFree, Directive.orderFree⟩,
    ⟨StateChange.recordForm, TestCase.recordForm⟩,
    ⟨StateChange.mayOmit_message, Directive.mayOmit_count, TestCase.mayOmit_default⟩, ?_, ?_, ?_⟩
  · intro kind names items hnames hlength
    exact Directive.ofValue?_array hnames hlength
  · intro members hkind
    exact Directive.refusesRepeated_kind hkind
  · intro kind name names members hkind hnames hname hrepeated
    exact Directive.refusesRepeated_field hkind hnames hname hrepeated

/-- A state with blanks around it and one letter of it escaped. -/
def spacedState : String := "\t\"F\\u0041ILED\" "

theorem spacedState_reads :
    RunState.failed.toValue.Written spacedState ∧
    (Value.parse? spacedState).bind RunState.ofValue? = some .failed ∧
    Directive.ofValue? (.array [.text "jumpTo", .text "top", .null]) =
      Directive.ofValue?
        (.record [("kind", .text "jumpTo"), ("label", .text "top"), ("count", .null)]) ∧
    Directive.ofValue?
      (.object [(some "text", .text "a"), (some "kind", .text "command"), (some "text", .null)]) =
      none := by
  obtain ⟨⟨hstate, -⟩, -, -, -, -, harray, -, hrepeated⟩ := decoding_undoes_encoding
  have hletter : Json.SpellsChar "\\u0041".toList 'A' :=
    .unit ⟨'0', '0', '4', '1', 0, 0, 4, 1, rfl, rfl, rfl, rfl, rfl, rfl⟩
  have hplain : ∀ {c : Char}, 0x20 ≤ c.toNat → c ≠ '\x22' → c ≠ '\\' → Json.SpellsChar [c] c :=
    fun visible quote backslash => .plain visible quote backslash
  have hbody : Json.SpellsText "F\\u0041ILED".toList "FAILED".toList :=
    .cons (hplain (by decide) (by decide) (by decide)) <| .cons hletter <|
      .cons (hplain (by decide) (by decide) (by decide)) <|
      .cons (hplain (by decide) (by decide) (by decide)) <|
      .cons (hplain (by decide) (by decide) (by decide)) <|
      .cons (hplain (by decide) (by decide) (by decide)) .nil
  have htoken : (Json.Token.string "FAILED").Spelled "\"F\\u0041ILED\"".toList := ⟨_, hbody, rfl⟩
  have hwritten : RunState.failed.toValue.Written spacedState :=
    .token (by simp [Json.isSpace] : ∀ c ∈ ['\t'], Json.isSpace c = true) htoken
      (.done (by simp [Json.isSpace] : ∀ c ∈ [' '], Json.isSpace c = true))
  refine ⟨hwritten, (hstate .failed).2 _ hwritten,
    harray "jumpTo" ["label", "count"] [.text "top", .null] rfl rfl, ?_⟩
  exact hrepeated "command" "text" ["text"] _ (by simp) rfl (by simp)
    (by simp [Repeated])

end MacroScript
