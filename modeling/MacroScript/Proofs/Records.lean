import Mathlib.Data.List.TakeWhile
import MacroScript.Json.Bounds
import MacroScript.Json.Fields
import MacroScript.Proofs.Reading
import MacroScript.Proofs.Spelling

/-! # The forms of a record

What a reader of fields takes from an object is what stands under each name it knows. So the order
of the members does not count, a name it does not know is passed over, a field may be left out where
its default stands, an array of the fields is as good as the object, and a name it knows may not
stand twice. -/

namespace MacroScript.Json

/-! ## The forms of a record -/

section Forms

variable {α : Type}

/-- What is written for a value is a text of it, and every such text is read as the value. -/
def ReadsBack (toValue : α → Value) (ofValue? : Value → Option α) : Prop :=
  ∀ a, (toValue a).Written (toValue a).render ∧
    ∀ text, (toValue a).Written text → (Value.parse? text).bind ofValue? = some a

/-- The members of an object may stand in any order. -/
def OrderFree (ofValue? : Value → Option α) : Prop :=
  ∀ members other : List (Name × Value), members.Perm other →
    ofValue? (.object members) = ofValue? (.object other)

/-- A field may be left out where it holds the given value. -/
def MayOmit (ofValue? : Value → Option α) (name : String) (value : Value) : Prop :=
  ∀ members : List (Name × Value), (∀ member ∈ members, member.1 ≠ some name) →
    ofValue? (.object ((some name, value) :: members)) = ofValue? (.object members)

/-- The name stands in the object more than once. -/
def Repeated (name : String) (members : List (Name × Value)) : Prop :=
  2 ≤ members.countP (·.1 = some name)

/-- A record with the given fields, as it is read from an object or from an array. -/
structure RecordForm (ofValue? : Value → Option α) (names : List String) : Prop where
  orderFree : OrderFree ofValue?
  passesOver : ∀ members extra : List (Name × Value),
    (∀ member ∈ extra, ∃ name, member.1 = some name ∧ name ∉ names) →
    ofValue? (.object (extra ++ members)) = ofValue? (.object members)
  ofArray : ∀ items : List Value, items.length = names.length →
    ofValue? (.array items) = ofValue? (.record (names.zip items))
  refusesRepeated : ∀ members : List (Name × Value), ∀ name ∈ names, Repeated name members →
    ofValue? (.object members) = none

end Forms

/-! ## Looking up fields -/

namespace Fields

theorem get?_perm {fields other : Fields} (h : fields.Perm other) (name : String) :
    fields.get? name = other.get? name := by
  have hfound := h.filter (·.1 = name)
  unfold get?
  generalize fields.filter (·.1 = name) = found at hfound
  generalize other.filter (·.1 = name) = found' at hfound
  cases found with
  | nil => rw [hfound.nil_eq]
  | cons first found =>
    cases found with
    | nil => rw [List.singleton_perm.mp hfound]
    | cons second found =>
      -- the other side has as many, so neither of the other two branches is taken there
      have hlength := hfound.length_eq
      cases found' with
      | nil => cases hlength
      | cons first' found' =>
        cases found' with
        | nil => cases hlength
        | cons second' found' => rfl

theorem filter_of_unknown {fields : Fields} {name : String}
    (h : ∀ field ∈ fields, field.1 ≠ name) : fields.filter (·.1 = name) = [] := by
  simpa using h

theorem get?_append_of_unknown {extra : Fields} {name : String}
    (h : ∀ field ∈ extra, field.1 ≠ name) (fields : Fields) :
    (extra ++ fields).get? name = fields.get? name := by
  rw [get?, get?, List.filter_append, filter_of_unknown h, List.nil_append]

theorem get?_cons_of_ne {name other : String} (h : name ≠ other) (value : Value) (fields : Fields) :
    get? ((name, value) :: fields) other = fields.get? other := by
  rw [get?, get?, List.filter_cons_of_neg (by simpa using h)]

theorem get?_of_unknown {fields : Fields} {name : String} (h : ∀ field ∈ fields, field.1 ≠ name) :
    fields.get? name = some none := by
  rw [get?, filter_of_unknown h]

theorem get?_cons_self {fields : Fields} {name : String} (h : ∀ field ∈ fields, field.1 ≠ name)
    (value : Value) : get? ((name, value) :: fields) name = some (some value) := by
  rw [get?, List.filter_cons_of_pos (by simp), filter_of_unknown h]

theorem get?_of_repeated {fields : Fields} {name : String}
    (h : 2 ≤ fields.countP (·.1 = name)) : fields.get? name = none := by
  rw [List.countP_eq_length_filter] at h
  unfold get?
  split
  · simp_all
  · simp_all
  · rfl

/-- Whatever stands under a name that is not repeated is what is found. -/
theorem get?_of_mem {fields : Fields} {name : String} {value : Value} (h : (name, value) ∈ fields) :
    fields.get? name = some (some value) ∨ fields.get? name = none := by
  have hfound : (name, value) ∈ fields.filter (·.1 = name) := by simpa using h
  unfold get?
  split
  · simp_all
  · simp_all
  · exact .inr rfl

/-! ## The fields of an object -/

theorem ofMembers?_map (fields : Fields) :
    ofMembers? (fields.map fun field => (some field.1, field.2)) = some fields := by
  induction fields with
  | nil => rfl
  | cons field fields ih => simp [ofMembers?, ih]

/-- The fields are the members themselves. -/
theorem ofMembers?_eq_some_iff {members : List (Name × Value)} {fields : Fields} :
    ofMembers? members = some fields ↔
      members = fields.map fun field => (some field.1, field.2) := by
  constructor
  · intro h
    induction members generalizing fields with
    | nil =>
      cases h
      rfl
    | cons member members ih =>
      obtain ⟨name, value⟩ := member
      cases name with
      | none => cases h
      | some name =>
        obtain ⟨rest, hrest, rfl⟩ := Option.map_eq_some_iff.mp h
        simp [ih hrest]
  · rintro rfl
    exact ofMembers?_map fields

theorem exists_of_perm {members other : List (Name × Value)} (h : members.Perm other)
    {fields : Fields} (hfields : ofMembers? members = some fields) :
    ∃ found, ofMembers? other = some found ∧ fields.Perm found := by
  induction h generalizing fields with
  | nil => exact ⟨fields, hfields, .refl fields⟩
  | cons member _ ih =>
    obtain ⟨name, value⟩ := member
    cases name with
    | none => cases hfields
    | some name =>
      obtain ⟨rest, hrest, rfl⟩ := Option.map_eq_some_iff.mp hfields
      obtain ⟨found, hfound, hperm⟩ := ih hrest
      exact ⟨(name, value) :: found, by simp [ofMembers?, hfound], hperm.cons _⟩
  | swap first second members =>
    rw [ofMembers?_eq_some_iff] at hfields
    obtain ⟨head, rest, rfl, hhead, hrest⟩ := List.map_eq_cons_iff.mp hfields.symm
    obtain ⟨next, rest, rfl, hnext, rfl⟩ := List.map_eq_cons_iff.mp hrest
    refine ⟨next :: head :: rest, ?_, .swap next head rest⟩
    rw [ofMembers?_eq_some_iff, ← hhead, ← hnext]
    rfl
  | trans _ _ ih ih' =>
    obtain ⟨middle, hmiddle, hperm⟩ := ih hfields
    obtain ⟨found, hfound, hperm'⟩ := ih' hmiddle
    exact ⟨found, hfound, hperm.trans hperm'⟩

/-- A reader of fields that does not mind their order does not mind the order of the members. -/
theorem ofMembers?_bind_perm {α : Type} {members other : List (Name × Value)}
    (h : members.Perm other) {read : Fields → Option α}
    (hread : ∀ fields found : Fields, fields.Perm found → read fields = read found) :
    (ofMembers? members).bind read = (ofMembers? other).bind read := by
  cases hfields : ofMembers? members with
  | some fields =>
    obtain ⟨found, hfound, hperm⟩ := exists_of_perm h hfields
    rw [hfound, Option.bind_some, Option.bind_some, hread fields found hperm]
  | none =>
    cases hfound : ofMembers? other with
    | none => rfl
    | some found =>
      obtain ⟨fields, hsome, -⟩ := exists_of_perm h.symm hfound
      rw [hsome] at hfields
      cases hfields

theorem ofMembers?_append {extra : List (Name × Value)} {fields : Fields}
    (h : ofMembers? extra = some fields) (members : List (Name × Value)) :
    ofMembers? (extra ++ members) = (ofMembers? members).map (fields ++ ·) := by
  rw [ofMembers?_eq_some_iff] at h
  subst h
  induction fields with
  | nil => simp
  | cons field fields ih => simp [ofMembers?, ih, Function.comp_def]

theorem exists_of_unknown {names : List String} {extra : List (Name × Value)}
    (h : ∀ member ∈ extra, ∃ name, member.1 = some name ∧ name ∉ names) :
    ∃ fields, ofMembers? extra = some fields ∧ ∀ field ∈ fields, field.1 ∉ names := by
  induction extra with
  | nil => exact ⟨[], rfl, by simp⟩
  | cons member extra ih =>
    obtain ⟨name, value⟩ := member
    obtain ⟨name, rfl, hname⟩ := h _ List.mem_cons_self
    obtain ⟨fields, hfields, hunknown⟩ :=
      ih fun other hother => h other (List.mem_cons_of_mem _ hother)
    refine ⟨(name, value) :: fields, by simp [ofMembers?, hfields], ?_⟩
    intro field hfield
    rcases List.mem_cons.mp hfield with rfl | hfield
    · exact hname
    · exact hunknown field hfield

theorem ne_of_ofMembers? {members : List (Name × Value)} {fields : Fields} {name : String}
    (hfields : ofMembers? members = some fields) (h : ∀ member ∈ members, member.1 ≠ some name) :
    ∀ field ∈ fields, field.1 ≠ name := by
  rw [ofMembers?_eq_some_iff] at hfields
  subst hfields
  intro field hfield hname
  exact h _ (List.mem_map_of_mem hfield) (congrArg some hname)

theorem get?_of_repeated_members {members : List (Name × Value)} {fields : Fields} {name : String}
    (hfields : ofMembers? members = some fields) (h : Repeated name members) :
    fields.get? name = none := by
  rw [ofMembers?_eq_some_iff] at hfields
  subst hfields
  rw [Repeated, List.countP_map] at h
  exact get?_of_repeated (by simpa [Function.comp_def] using h)

end Fields

theorem readsBack_of_writable {α : Type} {toValue : α → Value} {ofValue? : Value → Option α}
    (hwritable : ∀ a, (toValue a).Writable) (hread : ∀ a, ofValue? (toValue a) = some a) :
    ReadsBack toValue ofValue? := by
  intro a
  refine ⟨(hwritable a).written_render, fun text htext => ?_⟩
  rw [Value.parse?_of_written htext]
  exact hread a

/-- What is read from the fields alone, under the names of the record and no others, and is refused
when one of these is repeated, has all the forms of a record. -/
theorem RecordForm.of_fields {α : Type} {names : List String} {least : Nat}
    {ofFields? : Fields → Option α} (hleast : least ≤ names.length)
    (hcongr : ∀ fields other : Fields,
      (∀ name ∈ names, fields.get? name = other.get? name) → ofFields? fields = ofFields? other)
    (hrepeated : ∀ fields : Fields, ∀ name ∈ names, fields.get? name = none →
      ofFields? fields = none) :
    RecordForm (fun value => (Fields.ofValue? names least value).bind ofFields?) names where
  orderFree members other hperm :=
    Fields.ofMembers?_bind_perm hperm fun fields found hfields =>
      hcongr fields found fun name _ => Fields.get?_perm hfields name
  passesOver members extra hextra := by
    obtain ⟨unknown, hunknown, hother⟩ := Fields.exists_of_unknown hextra
    show (Fields.ofMembers? (extra ++ members)).bind ofFields? =
      (Fields.ofMembers? members).bind ofFields?
    rw [Fields.ofMembers?_append hunknown, Option.bind_map]
    congr 1
    funext fields
    refine hcongr _ _ fun name hname => Fields.get?_append_of_unknown ?_ fields
    intro field hfield hsame
    exact hother field hfield (hsame ▸ hname)
  ofArray items hlength := by
    show (Fields.ofItems? names least items).bind ofFields? =
      (Fields.ofMembers? ((names.zip items).map fun field => (some field.1, field.2))).bind
        ofFields?
    rw [Fields.ofMembers?_map, Fields.ofItems?, if_pos (by omega)]
  refusesRepeated members name hname hmany := by
    show (Fields.ofMembers? members).bind ofFields? = none
    cases hfields : Fields.ofMembers? members with
    | none => rfl
    | some fields =>
      exact hrepeated fields name hname (Fields.get?_of_repeated_members hfields hmany)

theorem mayOmit_of_fields {α : Type} {names : List String} {least : Nat}
    {ofFields? : Fields → Option α} {name : String} {value : Value}
    (h : ∀ fields : Fields, (∀ field ∈ fields, field.1 ≠ name) →
      ofFields? ((name, value) :: fields) = ofFields? fields) :
    MayOmit (fun value => (Fields.ofValue? names least value).bind ofFields?) name value := by
  intro members hmembers
  show ((Fields.ofMembers? members).map ((name, value) :: ·)).bind ofFields? =
    (Fields.ofMembers? members).bind ofFields?
  cases hfields : Fields.ofMembers? members with
  | none => rfl
  | some fields => exact h fields (Fields.ne_of_ofMembers? hfields hmembers)

namespace Fields

variable {α : Type} {fields : Fields} {name other : String} {value : Value} {default : α}
  {decode : Value → Option α}

theorem required?_cons_of_ne (h : name ≠ other) :
    required? ((name, value) :: fields) other decode = fields.required? other decode := by
  rw [required?, required?, get?_cons_of_ne h]

theorem optional?_cons_of_ne (h : name ≠ other) :
    optional? ((name, value) :: fields) other default decode =
      fields.optional? other default decode := by
  rw [optional?, optional?, get?_cons_of_ne h]

/-- A field that holds its default counts for nothing. -/
theorem optional?_cons_default (hfields : ∀ field ∈ fields, field.1 ≠ name)
    (hvalue : decode value = some default) :
    optional? ((name, value) :: fields) name default decode =
      fields.optional? name default decode := by
  rw [optional?, optional?, get?_cons_self hfields, get?_of_unknown hfields]
  exact hvalue

end Fields

/-! ## Parts of records -/

namespace Value

@[simp] theorem text?_text (s : String) : (text s).text? = some s := rfl

theorem nullable?_option {α : Type} {encode : α → Value} {decode : Value → Option α}
    (hnull : ∀ a, encode a ≠ .null) (h : ∀ a, decode (encode a) = some a) (value : Option α) :
    nullable? decode (option encode value) = some value := by
  cases value with
  | none => rfl
  | some a =>
    have hread : nullable? decode (encode a) = (decode (encode a)).map some := by
      unfold nullable?
      split
      · rename_i heq
        exact absurd heq (hnull a)
      · rfl
    rw [option, hread, h a]
    rfl

theorem nullable?_text (message : Option String) :
    nullable? text? (option text message) = some message :=
  nullable?_option (fun _ => Value.noConfusion) text?_text message

theorem nat?_nat {bound n : Nat} (h : n < bound) : (nat n).nat? bound = some n := by
  have hdigits := Text.digits?_decimal n
  rw [Text.decimal, String.toList_ofList] at hdigits
  simp [nat, nat?, hdigits, h]

end Value

/-! ## Numbers that are taken in whole -/

namespace Scaled

theorem le_ofDigitChars (cs : List Char) (n : Nat) : n ≤ Nat.ofDigitChars 10 cs n := by
  induction cs generalizing n with
  | nil => simp
  | cons c cs ih =>
    rw [Nat.ofDigitChars_cons]
    exact Nat.le_trans (by omega) (ih _)

theorem readWhole_cons {number : Scaled} {c : Char} {n : Nat} (hroom : number.full = false)
    (hpush : number.push? c = some n) (cs : List Char) :
    number.readWhole (c :: cs) = readWhole { number with significand := n } cs := by
  conv_lhs => unfold readWhole
  rw [hroom, hpush]

theorem readWhole_of_lt {cs : List Char} {n : Nat}
    (h : Nat.ofDigitChars 10 cs n < UInt64.size) :
    readWhole { significand := n } cs = { significand := Nat.ofDigitChars 10 cs n } := by
  induction cs generalizing n with
  | nil => rfl
  | cons c cs ih =>
    rw [Nat.ofDigitChars_cons, Nat.mul_comm 10] at h
    have hroom := Nat.lt_of_le_of_lt (le_ofDigitChars cs _) h
    have hpush : push? { significand := n } c = some (n * 10 + (c.toNat - '0'.toNat)) :=
      if_pos hroom
    rw [readWhole_cons rfl hpush, Nat.ofDigitChars_cons, Nat.mul_comm 10]
    exact ih h

theorem ofLiteral_toDigits {n : Nat} (h : n < UInt64.size) :
    ofLiteral (Nat.toDigits 10 n) = { significand := n } := by
  have hdigit : ∀ c ∈ Nat.toDigits 10 n, c.isDigit = true := fun c hc =>
    Nat.isDigit_of_mem_toDigits (by decide) (by decide) hc
  have hbody : (Nat.toDigits 10 n).dropWhile (· = '-') = Nat.toDigits 10 n := by
    rw [Text.dropWhile_eq_self_iff]
    intro c hc
    have hc := hdigit c (List.mem_of_mem_head? hc)
    rw [decide_eq_false_iff_not]
    rintro rfl
    cases hc
  have hwhole : (Nat.toDigits 10 n).takeWhile Char.isDigit = Nat.toDigits 10 n := by
    rw [List.takeWhile_eq_self_iff]
    exact hdigit
  have hvalue : Nat.ofDigitChars 10 (Nat.toDigits 10 n) 0 = n := Nat.ofDigitChars_ten_toDigits
  have hread : readWhole {} (Nat.toDigits 10 n) = { significand := n } := by
    rw [readWhole_of_lt (by rw [hvalue]; exact h), hvalue]
  simp only [ofLiteral, hbody, hwhole, hread, List.drop_length]
  rfl

/-- A number of 53 binary digits or less is a double itself. -/
theorem roundToDouble_of_lt {n : Nat} (h : n < 9007199254740992) : roundToDouble n = n := by
  have hspare : n.log2 - 52 = 0 := by
    rcases Nat.eq_zero_or_pos n with rfl | hpos
    · decide
    · have hlog : n.log2 < 53 := (Nat.log2_lt (Nat.ne_of_gt hpos)).mpr h
      omega
  simp [roundToDouble, hspare, Nat.mod_one]

theorem fitsDouble_toDigits {n : Nat} (h : n < UInt32.size) :
    (ofLiteral (Nat.toDigits 10 n)).fitsDouble = true := by
  have hsmall : n < 4294967296 := h
  have hsize : n < UInt64.size := Nat.lt_trans h (by decide)
  have hbound : 4294967296 < doubleBound := by decide +kernel
  have hone : roundToDouble (Nat.pow 10 0) = 1 := by decide
  rw [ofLiteral_toDigits hsize]
  simp only [fitsDouble, Bool.or_eq_true, decide_eq_true_eq]
  split
  · rfl
  · rw [if_neg (by decide), roundToDouble_of_lt (by omega), Int.toNat_zero, hone,
      decide_eq_true_eq]
    omega

end Scaled

namespace Value

theorem isHoldable_text (room : Nat) (s : String) : (text s).isHoldable room = true := rfl

theorem isHoldable_count (room : Nat) (count : Option UInt32) :
    (option (fun n : UInt32 => nat n.toNat) count).isHoldable room = true := by
  cases count with
  | none => rfl
  | some n => exact Scaled.fitsDouble_toDigits n.toNat_lt_size

theorem membersHoldable_eq_all (room : Nat) (members : List (Name × Value)) :
    membersHoldable room members =
      members.all fun member => member.1.isSome && member.2.isHoldable room := by
  induction members with
  | nil => rfl
  | cons member members ih => simp [membersHoldable, ih]

/-- Names put before the items of an array change nothing. -/
theorem membersHoldable_zip (room : Nat) {names : List String} {items : List Value}
    (h : items.length = names.length) :
    membersHoldable room ((names.zip items).map fun field => (some field.1, field.2)) =
      itemsHoldable room items := by
  induction items generalizing names with
  | nil => simp [membersHoldable, itemsHoldable]
  | cons item items ih =>
    cases names with
    | nil => cases h
    | cons name names =>
      have hrest := ih (Nat.succ.inj h)
      simp [membersHoldable, itemsHoldable, hrest]

end Value

end MacroScript.Json
