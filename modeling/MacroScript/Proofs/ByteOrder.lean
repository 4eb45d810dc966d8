import Mathlib.Algebra.Group.Nat.Defs
import Mathlib.Data.List.Lex
import MacroScript.Case.Discovery

/-! # Texts in the order of their bytes

The encoding of a character is one leading byte and then up to three bytes that hold six bits each.
Leading bytes grow with the number of bytes that follow, so of two characters the smaller one has
the smaller encoding, and neither encoding is the beginning of the other. Therefore texts are in the
order of their bytes as soon as they are in the order of their characters, which is the one that the
sorting of paths goes by. -/

namespace MacroScript.Text

/-- The bytes of a text. -/
def bytes (text : String) : List UInt8 := text.toUTF8.data.toList

/-- The bytes of a text come before those of another one. -/
def BytesBefore (text other : String) : Prop := List.Lex (· < ·) (bytes text) (bytes other)

/-! ## One character -/

/-- The last bytes of an encoding: the lowest digits to the base 64, highest first. -/
def following : (count value : Nat) → List UInt8
  | 0, _ => []
  | count + 1, value => .ofNat (value / 64 ^ count % 64 + 0x80) :: following count value

/-- The encoding of a value has so many bytes after a leading one, which is given. -/
inductive Leads : (value count leading : Nat) → Prop where
  | one {value : Nat} (high : value < 0x80) : Leads value 0 value
  | two {value : Nat} (low : 0x80 ≤ value) (high : value < 0x800) :
      Leads value 1 (value / 64 + 0xC0)
  | three {value : Nat} (low : 0x800 ≤ value) (high : value < 0x10000) :
      Leads value 2 (value / 4096 + 0xE0)
  | four {value : Nat} (low : 0x10000 ≤ value) (high : value < 0x110000) :
      Leads value 3 (value / 262144 + 0xF0)

theorem Leads.lt_256 {value count leading : Nat} (h : Leads value count leading) :
    leading < 256 := by
  cases h <;> omega

theorem Leads.lt_or_eq {v w count count' leading leading' : Nat} (hv : Leads v count leading)
    (hw : Leads w count' leading') (h : v < w) :
    leading < leading' ∨
      leading = leading' ∧ count = count' ∧ v % 64 ^ count < w % 64 ^ count := by
  cases hv <;> cases hw <;> omega

theorem exists_leads (c : Char) :
    ∃ count leading, Leads c.val.toNat count leading ∧
      String.utf8EncodeChar c = .ofNat leading :: following count c.val.toNat := by
  have hvalid := c.valid
  simp only [UInt32.isValidChar, Nat.isValidChar] at hvalid
  unfold String.utf8EncodeChar
  generalize c.val.toNat = v at hvalid ⊢
  by_cases h1 : v ≤ 0x7f
  · exact ⟨0, v, .one (by omega), by simp [h1, following]⟩
  · by_cases h2 : v ≤ 0x7ff
    · have hleading : v / 64 % 0x20 = v / 64 := Nat.mod_eq_of_lt (by omega)
      exact ⟨1, _, .two (by omega) (by omega), by simp [h1, h2, following, hleading]⟩
    · by_cases h3 : v ≤ 0xffff
      · have hleading : v / 4096 % 0x10 = v / 4096 := Nat.mod_eq_of_lt (by omega)
        exact ⟨2, _, .three (by omega) (by omega), by simp [h1, h2, h3, following, hleading]⟩
      · have hleading : v / 262144 % 0x08 = v / 262144 := Nat.mod_eq_of_lt (by omega)
        exact ⟨3, _, .four (by omega) (by omega), by simp [h1, h2, h3, following, hleading]⟩

theorem lex_ofNat_cons {a b : Nat} (ha : a < 256) (hb : b < 256) {xs ys : List UInt8}
    (h : a < b ∨ a = b ∧ List.Lex (· < ·) xs ys) :
    List.Lex (· < ·) (UInt8.ofNat a :: xs) (UInt8.ofNat b :: ys) := by
  rcases h with hlt | ⟨rfl, hrest⟩
  · refine .rel (UInt8.lt_iff_toNat_lt.mpr ?_)
    rwa [UInt8.toNat_ofNat_of_lt' ha, UInt8.toNat_ofNat_of_lt' hb]
  · exact .cons hrest

theorem lex_following {count v w : Nat} (h : v % 64 ^ count < w % 64 ^ count)
    (xs ys : List UInt8) :
    List.Lex (· < ·) (following count v ++ xs) (following count w ++ ys) := by
  induction count with
  | zero =>
    rw [Nat.pow_zero, Nat.mod_one, Nat.mod_one] at h
    exact absurd h (Nat.lt_irrefl 0)
  | succ count ih =>
    rw [Nat.mod_pow_succ, Nat.mod_pow_succ] at h
    refine lex_ofNat_cons (by omega) (by omega) ?_
    have hpos : 0 < 64 ^ count := Nat.pow_pos (by decide)
    have hv := Nat.mod_lt v hpos
    rcases Nat.lt_trichotomy (v / 64 ^ count % 64) (w / 64 ^ count % 64) with hlt | heq | hgt
    · exact .inl (by omega)
    · rw [heq] at h ⊢
      exact .inr ⟨rfl, ih (by omega)⟩
    · -- a greater digit outweighs all that is below it
      have hmul := Nat.mul_le_mul_left (64 ^ count) hgt
      rw [Nat.mul_succ] at hmul
      have hw := Nat.mod_lt w hpos
      omega

theorem lex_utf8EncodeChar {c d : Char} (h : c < d) (xs ys : List UInt8) :
    List.Lex (· < ·) (String.utf8EncodeChar c ++ xs) (String.utf8EncodeChar d ++ ys) := by
  obtain ⟨count, leading, hleads, hc⟩ := exists_leads c
  obtain ⟨count', leading', hleads', hd⟩ := exists_leads d
  rw [hc, hd]
  refine lex_ofNat_cons hleads.lt_256 hleads'.lt_256 ?_
  obtain hlt | ⟨heq, rfl, hrest⟩ := hleads.lt_or_eq hleads' h
  · exact .inl hlt
  · exact .inr ⟨heq, lex_following hrest xs ys⟩

/-! ## Whole texts -/

theorem bytes_eq_flatMap (text : String) :
    bytes text = text.toList.flatMap String.utf8EncodeChar := by
  calc bytes text = bytes (String.ofList text.toList) := by rw [String.ofList_toList]
    _ = (List.utf8Encode text.toList).data.toList := by
      rw [bytes, String.toUTF8_eq_toByteArray, String.toByteArray_ofList]
    _ = text.toList.flatMap String.utf8EncodeChar := by rw [List.utf8Encode, List.data_toByteArray]

theorem lex_flatMap_of_lex {cs ds : List Char} (h : List.Lex (· < ·) cs ds) :
    List.Lex (· < ·) (cs.flatMap String.utf8EncodeChar) (ds.flatMap String.utf8EncodeChar) := by
  induction h with
  | @nil d ds =>
    obtain ⟨count, leading, -, hd⟩ := exists_leads d
    rw [List.flatMap_nil, List.flatMap_cons, hd]
    exact .nil
  | @cons c cs ds _ ih =>
    rw [List.flatMap_cons, List.flatMap_cons]
    exact ih.append_left _ _
  | rel hlt =>
    rw [List.flatMap_cons, List.flatMap_cons]
    exact lex_utf8EncodeChar hlt _ _

theorem bytesBefore_of_lt {a b : String} (h : a < b) : BytesBefore a b := by
  rw [BytesBefore, bytes_eq_flatMap, bytes_eq_flatMap]
  exact lex_flatMap_of_lex h

end MacroScript.Text
