import Mathlib.Data.List.Chain
import MacroScript.Json.Value

/-! # The texts of a JSON value

One value has many texts. Blanks may stand before, between and behind its tokens, and a character of
a string may be written as it is, by a one-letter escape, by the number of its UTF-16 unit or by the
numbers of a pair. A number can be told from what follows it because no value has two numbers side
by side. So every text of a value is scanned into its tokens, and the tokens are read as
the value. The text that is rendered is one of them. -/

namespace MacroScript.Json

/-! ## How tokens are written -/

/-- Four hexadecimal digits, in either case, that give a number. -/
def HexUnit (digits : List Char) (unit : Nat) : Prop :=
  ∃ a b c d w x y z, digits = [a, b, c, d] ∧ Text.hexDigit? a = some w ∧
    Text.hexDigit? b = some x ∧ Text.hexDigit? c = some y ∧ Text.hexDigit? d = some z ∧
    unit = ((w * 16 + x) * 16 + y) * 16 + z

/-- The ways to write a character inside a string literal. -/
inductive SpellsChar : List Char → Char → Prop where
  | plain {c : Char} (visible : 0x20 ≤ c.toNat) (notQuote : c ≠ '\x22') (notBackslash : c ≠ '\\') :
      SpellsChar [c] c
  | short {letter c : Char} (escape : shortEscape? letter = some c) : SpellsChar ['\\', letter] c
  | unit {digits : List Char} {c : Char} (digits_eq : HexUnit digits c.toNat) :
      SpellsChar ('\\' :: 'u' :: digits) c
  | pair {upper lower : List Char} {u l : Nat} {c : Char} (upper_eq : HexUnit upper u)
      (lower_eq : HexUnit lower l) (upper_half : 0xD800 ≤ u ∧ u < 0xDC00)
      (lower_half : 0xDC00 ≤ l ∧ l < 0xE000)
      (joined : c.toNat = 0x10000 + (u - 0xD800) * 0x400 + (l - 0xDC00)) :
      SpellsChar ('\\' :: 'u' :: upper ++ '\\' :: 'u' :: lower) c

/-- The ways to write a text between the quotes of a string literal. -/
inductive SpellsText : List Char → List Char → Prop where
  | nil : SpellsText [] []
  | cons {piece body text : List Char} {c : Char} (first : SpellsChar piece c)
      (rest : SpellsText body text) : SpellsText (piece ++ body) (c :: text)

/-- One or more digits. -/
def IsDigits (cs : List Char) : Prop := cs ≠ [] ∧ ∀ c ∈ cs, c.isDigit = true

/-- A number as JSON has it: an optional minus sign, digits without a zero in front of others, an
optional fraction and an optional exponent. -/
def IsNumber (literal : List Char) : Prop :=
  ∃ sign whole fraction exponent, literal = sign ++ (whole ++ (fraction ++ exponent)) ∧
    (sign = [] ∨ sign = ['-']) ∧
    (whole = ['0'] ∨ IsDigits whole ∧ whole.head? ≠ some '0') ∧
    (fraction = [] ∨ ∃ digits, fraction = '.' :: digits ∧ IsDigits digits) ∧
    (exponent = [] ∨ ∃ e sign digits, exponent = e :: (sign ++ digits) ∧ (e = 'e' ∨ e = 'E') ∧
      (sign = [] ∨ sign = ['+'] ∨ sign = ['-']) ∧ IsDigits digits)

/-- The ways to write a token. A string that has no text is not written at all. -/
def Token.Spelled : Token → List Char → Prop
  | number literal, chars => IsNumber literal ∧ chars = literal
  | string none, _ => False
  | string (some text), chars =>
    ∃ body, SpellsText body text.toList ∧ chars = '\x22' :: (body ++ ['\x22'])
  | token, chars => chars = token.chars

/-- The texts of a row of tokens, with any blanks before, between and behind them. -/
inductive Spelling : List Token → List Char → Prop where
  | done {blanks : List Char} (spaces : ∀ c ∈ blanks, isSpace c = true) : Spelling [] blanks
  | token {token : Token} {tokens : List Token} {blanks chars rest : List Char}
      (spaces : ∀ c ∈ blanks, isSpace c = true) (spelled : token.Spelled chars)
      (more : Spelling tokens rest) : Spelling (token :: tokens) (blanks ++ (chars ++ rest))

/-- The text is one of the texts of the value. -/
def Value.Written (value : Value) (text : String) : Prop := Spelling value.tokens text.toList

/-! ## Scanning string literals -/

/-- The unit of a character is no half of a pair. -/
theorem Literal.pushUnit_toNat (literal : Literal) (c : Char) :
    literal.pushUnit c.toNat = literal.push c := by
  have hvalid : c.toNat < 0xD800 ∨ 0xDFFF < c.toNat ∧ c.toNat < 0x110000 := c.valid
  rw [pushUnit, if_neg (by omega), if_neg (by omega), Char.ofNat_toNat]

theorem Literal.pushUnit_pair {literal : Literal} {u l : Nat} {c : Char}
    (hwhole : literal.upperHalf = none) (hu : 0xD800 ≤ u ∧ u < 0xDC00)
    (hl : 0xDC00 ≤ l ∧ l < 0xE000)
    (hc : c.toNat = 0x10000 + (u - 0xD800) * 0x400 + (l - 0xDC00)) :
    (literal.pushUnit u).pushUnit l = literal.push c := by
  have hupper : literal.pushUnit u =
      { literal with upperHalf := some u } := by
    simp [pushUnit, hu, hwhole]
  rw [hupper, pushUnit, if_neg (by omega), if_pos hl]
  simp [push, hwhole, ← hc, Char.ofNat_toNat]

namespace Mode

variable {done : List Token} {rest : List Char}

theorem scanFrom?_cons {mode next : Mode} {c : Char} {tokens : List Token}
    (h : mode.step c = some (tokens, next)) :
    scanFrom? done mode (c :: rest) = scanFrom? (tokens.reverse ++ done) next rest := by
  rw [scanFrom?, h]

theorem scanFrom?_hex {digits : List Char} {unit : Nat} (h : HexUnit digits unit)
    (literal : Literal) :
    scanFrom? done (.string literal .backslash) ('u' :: (digits ++ rest)) =
      scanFrom? done (.string (literal.pushUnit unit) .outside) rest := by
  obtain ⟨a, b, c, d, w, x, y, z, rfl, ha, hb, hc, hd, rfl⟩ := h
  simp [scanFrom?, step, stepString, ha, hb, hc, hd]

theorem scanFrom?_backslash (literal : Literal) :
    scanFrom? done (.string literal .outside) ('\\' :: rest) =
      scanFrom? done (.string literal .backslash) rest := by
  simp [scanFrom?, step, stepString]

theorem scanFrom?_char {piece : List Char} {c : Char} (h : SpellsChar piece c) {literal : Literal}
    (hwhole : literal.upperHalf = none) :
    scanFrom? done (.string literal .outside) (piece ++ rest) =
      scanFrom? done (.string (literal.push c) .outside) rest := by
  cases h with
  | plain visible notQuote notBackslash =>
    have hvisible : ¬ c.toNat < 0x20 := Nat.not_lt.mpr visible
    simp [scanFrom?, step, stepString, notQuote, notBackslash, hvisible]
  | short escape =>
    rename_i letter
    have hu : letter ≠ 'u' := by
      rintro rfl
      cases escape
    simp [scanFrom?, step, stepString, hu, escape]
  | unit digits_eq =>
    rw [List.cons_append, List.cons_append, scanFrom?_backslash, scanFrom?_hex digits_eq,
      Literal.pushUnit_toNat]
  | pair upper_eq lower_eq upper_half lower_half joined =>
    rw [List.cons_append, List.cons_append, List.cons_append, List.cons_append, List.append_assoc,
      scanFrom?_backslash, scanFrom?_hex upper_eq, List.cons_append, List.cons_append,
      scanFrom?_backslash, scanFrom?_hex lower_eq,
      Literal.pushUnit_pair hwhole upper_half lower_half joined]

theorem scanFrom?_body {body text : List Char} (h : SpellsText body text) {literal : Literal}
    (hsound : literal.sound = true) (hwhole : literal.upperHalf = none) :
    scanFrom? done (.string literal .outside) (body ++ '\x22' :: rest) =
      scanFrom? (.string (some (String.ofList (literal.reversed.reverse ++ text))) :: done)
        .between rest := by
  induction h generalizing literal with
  | nil => simp [scanFrom?, step, stepString, Literal.token, hsound, hwhole]
  | cons first _ ih =>
    rw [List.append_assoc, scanFrom?_char first hwhole, ih (by simp [Literal.push, hsound, hwhole])
      rfl]
    simp [Literal.push]

/-! ## Scanning numbers -/

/-- The text starts with nothing that could continue a number. -/
def Breaks (text : List Char) : Prop :=
  ∀ c ∈ text.head?, c.isDigit = false ∧ c ≠ '.' ∧ c ≠ 'e' ∧ c ≠ 'E'

theorem scanFrom?_parts {part next : NumberPart} {cs : List Char}
    (h : cs.foldlM NumberPart.step part = some next) (reversed : List Char) :
    scanFrom? done (.number reversed part) (cs ++ rest) =
      scanFrom? done (.number (cs.reverse ++ reversed) next) rest := by
  induction cs generalizing part reversed with
  | nil =>
    cases h
    rfl
  | cons c cs ih =>
    rw [List.foldlM_cons, Option.bind_eq_bind, Option.bind_eq_some_iff] at h
    obtain ⟨middle, hstep, hrest⟩ := h
    have hread : (Mode.number reversed part).step c =
        some ([], .number (c :: reversed) middle) := by
      rw [Mode.step, hstep]
    rw [List.cons_append, scanFrom?_cons hread, List.reverse_nil, List.nil_append, ih hrest]
    simp

theorem scanFrom?_break {part : NumberPart} (hcomplete : part.isComplete = true)
    (hbreaks : Breaks rest) (reversed : List Char) :
    scanFrom? done (.number reversed part) rest =
      scanFrom? (.number reversed.reverse :: done) .between rest := by
  cases rest with
  | nil => simp [scanFrom?, finish?, hcomplete]
  | cons c cs =>
    obtain ⟨hdigit, hpoint, he, hE⟩ := hbreaks c rfl
    have hstep : part.step c = none := by
      cases part <;> simp_all [NumberPart.step, NumberPart.isComplete]
    rw [scanFrom?, scanFrom?, Mode.step, Mode.step, hstep]
    cases startToken c with
    | none => simp [hcomplete]
    | some found => simp [hcomplete]

end Mode

namespace NumberPart

theorem foldlM_digits {part : NumberPart}
    (hstays : ∀ c : Char, c.isDigit = true → part.step c = some part) {cs : List Char}
    (hdigits : ∀ c ∈ cs, c.isDigit = true) : cs.foldlM step part = some part := by
  induction cs with
  | nil => rfl
  | cons c cs ih =>
    rw [List.foldlM_cons, hstays c (hdigits c List.mem_cons_self)]
    exact ih fun d hd => hdigits d (List.mem_cons_of_mem c hd)

/-- From a part that a digit leads out of, one or more digits lead to the same place. -/
theorem foldlM_isDigits {part next : NumberPart}
    (hleads : ∀ c : Char, c.isDigit = true → part.step c = some next)
    (hstays : ∀ c : Char, c.isDigit = true → next.step c = some next) {cs : List Char}
    (h : IsDigits cs) : cs.foldlM step part = some next := by
  obtain ⟨hne, hdigits⟩ := h
  cases cs with
  | nil => contradiction
  | cons c cs =>
    rw [List.foldlM_cons, hleads c (hdigits c List.mem_cons_self)]
    exact foldlM_digits hstays fun d hd => hdigits d (List.mem_cons_of_mem c hd)

theorem foldlM_fraction {part : NumberPart} (hpart : part = zero ∨ part = whole)
    {fraction : List Char}
    (h : fraction = [] ∨ ∃ digits, fraction = '.' :: digits ∧ IsDigits digits) :
    ∃ next, fraction.foldlM step part = some next ∧
      (next = zero ∨ next = whole ∨ next = .fraction) := by
  obtain rfl | ⟨digits, rfl, hdigits⟩ := h
  · exact ⟨part, rfl, hpart.imp_right .inl⟩
  · refine ⟨.fraction, ?_, .inr (.inr rfl)⟩
    have hpoint : part.step '.' = some point := by
      rcases hpart with rfl | rfl <;> rfl
    rw [List.foldlM_cons, hpoint]
    exact foldlM_isDigits (fun c hc => by simp [step, hc]) (fun c hc => by simp [step, hc]) hdigits

theorem foldlM_exponent {part : NumberPart} (hpart : part = zero ∨ part = whole ∨ part = .fraction)
    {exponent : List Char}
    (h : exponent = [] ∨ ∃ e sign digits, exponent = e :: (sign ++ digits) ∧ (e = 'e' ∨ e = 'E') ∧
      (sign = [] ∨ sign = ['+'] ∨ sign = ['-']) ∧ IsDigits digits) :
    ∃ next, exponent.foldlM step part = some next ∧ next.isComplete = true := by
  obtain rfl | ⟨e, sign, digits, rfl, he, hsign, hdigits⟩ := h
  · refine ⟨part, rfl, ?_⟩
    rcases hpart with rfl | rfl | rfl <;> rfl
  · have hstep : part.step e = some .exponent := by
      rcases hpart with rfl | rfl | rfl <;> rcases he with rfl | rfl <;> rfl
    have hlast : ∀ c : Char, c.isDigit = true → exponentDigits.step c = some exponentDigits :=
      fun c hc => by simp [step, hc]
    have hsigned : ∀ c : Char, c.isDigit = true → exponentSign.step c = some exponentDigits :=
      fun c hc => by simp [step, hc]
    refine ⟨exponentDigits, ?_, rfl⟩
    rw [List.foldlM_cons, hstep]
    obtain rfl | rfl | rfl := hsign
    · exact foldlM_isDigits (fun c hc => by simp [step, hc]) hlast hdigits
    · exact foldlM_isDigits hsigned hlast hdigits
    · exact foldlM_isDigits hsigned hlast hdigits

/-- What follows the digits before the point leads to a place where a number may end. -/
theorem foldlM_tail {part : NumberPart} (hpart : part = zero ∨ part = whole)
    {fraction exponent : List Char}
    (hfraction : fraction = [] ∨ ∃ digits, fraction = '.' :: digits ∧ IsDigits digits)
    (hexponent : exponent = [] ∨ ∃ e sign digits, exponent = e :: (sign ++ digits) ∧
      (e = 'e' ∨ e = 'E') ∧ (sign = [] ∨ sign = ['+'] ∨ sign = ['-']) ∧ IsDigits digits) :
    ∃ next, (fraction ++ exponent).foldlM step part = some next ∧ next.isComplete = true := by
  obtain ⟨middle, hmiddle, hkind⟩ := foldlM_fraction hpart hfraction
  obtain ⟨next, hnext, hcomplete⟩ := foldlM_exponent hkind hexponent
  refine ⟨next, ?_, hcomplete⟩
  rw [List.foldlM_append, hmiddle]
  exact hnext

end NumberPart

theorem startToken_digit {c : Char} (hdigit : c.isDigit = true) (hzero : c ≠ '0') :
    startToken c = some ([], .number [c] .whole) := by
  have hspace : isSpace c = false := by
    cases hsame : isSpace c with
    | false => rfl
    | true =>
      simp only [isSpace, Bool.or_eq_true, beq_iff_eq] at hsame
      rcases hsame with ((rfl | rfl) | rfl) | rfl <;> cases hdigit
  unfold startToken
  rw [hspace, if_neg Bool.false_ne_true]
  split
  any_goals cases hdigit
  · contradiction
  · rw [if_pos hdigit]

/-- A number leads from its first character to a place where it may end. -/
theorem IsNumber.exists_parts {literal : List Char} (h : IsNumber literal) :
    ∃ c cs part next, literal = c :: cs ∧ startToken c = some ([], .number [c] part) ∧
      cs.foldlM NumberPart.step part = some next ∧ next.isComplete = true := by
  obtain ⟨sign, whole, fraction, exponent, rfl, hsign, hwhole, hfraction, hexponent⟩ := h
  obtain rfl | ⟨⟨hne, hdigits⟩, hfirst⟩ := hwhole
  · obtain ⟨next, hnext, hcomplete⟩ := NumberPart.foldlM_tail (.inl rfl) hfraction hexponent
    obtain rfl | rfl := hsign
    · exact ⟨'0', _, .zero, next, rfl, rfl, hnext, hcomplete⟩
    · exact ⟨'-', _, .minus, next, rfl, rfl, hnext, hcomplete⟩
  · obtain ⟨next, hnext, hcomplete⟩ := NumberPart.foldlM_tail (.inr rfl) hfraction hexponent
    cases whole with
    | nil => contradiction
    | cons d ds =>
      have hd : d.isDigit = true := hdigits d List.mem_cons_self
      have hzero : d ≠ '0' := fun heq => hfirst (congrArg some heq)
      have hrest : (ds ++ (fraction ++ exponent)).foldlM NumberPart.step .whole = some next := by
        rw [List.foldlM_append, NumberPart.foldlM_digits (fun c hc => by simp [NumberPart.step, hc])
          fun c hc => hdigits c (List.mem_cons_of_mem d hc)]
        exact hnext
      obtain rfl | rfl := hsign
      · exact ⟨d, _, .whole, next, rfl, startToken_digit hd hzero, hrest, hcomplete⟩
      · have hstep : NumberPart.minus.step d = some .whole := by
          simp [NumberPart.step, hzero, hd]
        refine ⟨'-', d :: (ds ++ (fraction ++ exponent)), .minus, next, rfl, rfl, ?_, hcomplete⟩
        rw [List.foldlM_cons, hstep]
        exact hrest

/-! ## Scanning tokens -/

/-- The token is a number. -/
def Token.isNumber : Token → Bool
  | number _ => true
  | _ => false

theorem Mode.scanFrom?_token {token : Token} {chars rest : List Char} (h : token.Spelled chars)
    (hbreaks : token.isNumber = true → Breaks rest) (done : List Token) :
    scanFrom? done .between (chars ++ rest) = scanFrom? (token :: done) .between rest := by
  cases token with
  | openBrace | closeBrace | openBracket | closeBracket | colon | comma =>
    obtain rfl : chars = _ := h
    simp [Token.chars, scanFrom?, step, startToken, isSpace]
  | null =>
    obtain rfl : chars = _ := h
    simp [Token.chars, scanFrom?, step, startToken, isSpace]
  | bool value =>
    obtain rfl : chars = _ := h
    cases value <;> simp [Token.chars, scanFrom?, step, startToken, isSpace]
  | number literal =>
    obtain ⟨hnumber, rfl⟩ := h
    obtain ⟨c, cs, part, next, rfl, hstart, hparts, hcomplete⟩ := hnumber.exists_parts
    change Mode.between.step c = _ at hstart
    rw [List.cons_append, scanFrom?_cons hstart, List.reverse_nil, List.nil_append,
      scanFrom?_parts hparts, scanFrom?_break hcomplete (hbreaks rfl)]
    simp
  | string text =>
    cases text with
    | none => cases h
    | some text =>
      obtain ⟨body, hbody, rfl⟩ := h
      have hstart : Mode.between.step '\x22' = some ([], .string {} .outside) := rfl
      rw [List.cons_append, scanFrom?_cons hstart, List.append_assoc, List.singleton_append,
        scanFrom?_body hbody rfl rfl]
      simp

theorem Mode.scanFrom?_blanks {blanks rest : List Char} (h : ∀ c ∈ blanks, isSpace c = true)
    (done : List Token) :
    scanFrom? done .between (blanks ++ rest) = scanFrom? done .between rest := by
  induction blanks with
  | nil => rfl
  | cons c blanks ih =>
    have hstart : Mode.between.step c = some ([], .between) := by
      simp [step, startToken, h c List.mem_cons_self]
    rw [List.cons_append, scanFrom?_cons hstart]
    exact ih fun d hd => h d (List.mem_cons_of_mem c hd)

/-- No two numbers stand side by side. -/
def Apart (tokens : List Token) : Prop :=
  tokens.IsChain fun token next => token.isNumber = true → next.isNumber = false

theorem Apart.append {tokens more : List Token} (h : Apart tokens) (hmore : Apart more)
    (hfirst : ∀ token ∈ more.head?, token.isNumber = false) : Apart (tokens ++ more) :=
  List.isChain_append.mpr ⟨h, hmore, fun _ _ token htoken _ => hfirst token htoken⟩

theorem Apart.cons {token : Token} {tokens : List Token} (h : Apart tokens)
    (htoken : token.isNumber = false) : Apart (token :: tokens) :=
  List.isChain_cons.mpr ⟨fun _ _ hnumber => absurd hnumber (by simp [htoken]), h⟩

theorem Token.Spelled.breaks {token : Token} {chars : List Char} (h : token.Spelled chars)
    (hnumber : token.isNumber = false) (rest : List Char) : Mode.Breaks (chars ++ rest) := by
  intro c hc
  cases token with
  | number literal => cases hnumber
  | string text =>
    cases text with
    | none => cases h
    | some text =>
      obtain ⟨body, -, rfl⟩ := h
      obtain rfl : '\x22' = c := by simpa using hc
      decide
  | bool value =>
    obtain rfl : chars = _ := h
    cases value <;> cases hc <;> decide
  | _ =>
    obtain rfl : chars = _ := h
    cases hc
    decide

theorem Spelling.breaks {tokens : List Token} {text : List Char} (h : Spelling tokens text)
    (hnumber : ∀ token ∈ tokens.head?, token.isNumber = false) : Mode.Breaks text := by
  have hblank : ∀ blanks rest : List Char, (∀ c ∈ blanks, isSpace c = true) → Mode.Breaks rest →
      Mode.Breaks (blanks ++ rest) := by
    intro blanks rest hspaces hrest
    cases blanks with
    | nil => exact hrest
    | cons c blanks =>
      intro d hd
      obtain rfl : c = d := by simpa using hd
      have hspace := hspaces c List.mem_cons_self
      simp only [isSpace, Bool.or_eq_true, beq_iff_eq] at hspace
      rcases hspace with ((rfl | rfl) | rfl) | rfl <;> decide
  cases h with
  | done spaces =>
    rw [← List.append_nil text]
    exact hblank _ _ spaces fun c hc => by cases hc
  | token spaces spelled more =>
    exact hblank _ _ spaces (spelled.breaks (hnumber _ rfl) _)

theorem Spelling.scanFrom? {tokens : List Token} {text : List Char} (h : Spelling tokens text)
    (hapart : Apart tokens) (done : List Token) :
    Mode.scanFrom? done .between text = some (done.reverse ++ tokens) := by
  induction h generalizing done with
  | done spaces =>
    rename_i blanks
    rw [← List.append_nil blanks, Mode.scanFrom?_blanks spaces]
    simp [Mode.scanFrom?, Mode.finish?]
  | @token token tokens blanks chars rest spaces spelled more ih =>
    have hbreaks : token.isNumber = true → Mode.Breaks rest := by
      intro hnumber
      refine more.breaks fun next hnext => ?_
      cases tokens with
      | nil => cases hnext
      | cons first tokens =>
        cases hnext
        exact (List.isChain_cons_cons.mp hapart).1 hnumber
    rw [Mode.scanFrom?_blanks spaces, Mode.scanFrom?_token spelled hbreaks, ih hapart.tail]
    simp

namespace Value

/-! ## Reading values -/

/-- The first token of a value is not taken for the end of an array. -/
theorem run?_firstItem (item : Value) (frames : List Frame) (rest : List Token) :
    (Expect.firstItem frames).run? (item.tokens ++ rest) =
      (Expect.value (.item [] :: frames)).run? (item.tokens ++ rest) := by
  cases item with
  | null | bool | number | string => simp [tokens, Expect.run?, Expect.step]
  | array items => cases items <;> simp [tokens, Expect.run?, Expect.step]
  | object members => cases members <;> simp [tokens, Expect.run?, Expect.step]

mutual

/-- The tokens of a value complete it, whatever it stands in. -/
theorem run?_tokens (value : Value) (frames : List Frame) (rest : List Token) :
    (Expect.value frames).run? (value.tokens ++ rest) =
      (Expect.deliver value frames).run? rest := by
  cases value with
  | null | bool | number | string => simp [tokens, Expect.run?, Expect.step, Expect.startValue]
  | array items =>
    cases items with
    | nil => simp [tokens, Expect.run?, Expect.step, Expect.startValue]
    | cons item items =>
      calc (Expect.value frames).run? (tokens (.array (item :: items)) ++ rest)
        _ = (Expect.firstItem frames).run? (item.tokens ++ (itemTokens items ++ rest)) := by
          simp [tokens, Expect.run?, Expect.step, Expect.startValue]
        _ = (Expect.afterItem [item] frames).run? (itemTokens items ++ rest) := by
          rw [run?_firstItem, run?_tokens item]
          rfl
        _ = (Expect.deliver (.array (item :: items)) frames).run? rest :=
          run?_itemTokens items [item] frames rest
  | object members =>
    cases members with
    | nil => simp [tokens, Expect.run?, Expect.step, Expect.startValue]
    | cons member members =>
      obtain ⟨key, held⟩ := member
      calc (Expect.value frames).run? (tokens (.object ((key, held) :: members)) ++ rest)
        _ = (Expect.value (.member key [] :: frames)).run?
              (held.tokens ++ (memberTokens members ++ rest)) := by
          simp [tokens, Expect.run?, Expect.step, Expect.startValue]
        _ = (Expect.afterMember [(key, held)] frames).run? (memberTokens members ++ rest) := by
          rw [run?_tokens held]
          rfl
        _ = (Expect.deliver (.object ((key, held) :: members)) frames).run? rest :=
          run?_memberTokens members [(key, held)] frames rest

theorem run?_itemTokens (items before : List Value) (frames : List Frame) (rest : List Token) :
    (Expect.afterItem before frames).run? (itemTokens items ++ rest) =
      (Expect.deliver (.array (before.reverse ++ items)) frames).run? rest := by
  cases items with
  | nil => simp [itemTokens, Expect.run?, Expect.step]
  | cons item items =>
    calc (Expect.afterItem before frames).run? (itemTokens (item :: items) ++ rest)
      _ = (Expect.value (.item before :: frames)).run?
            (item.tokens ++ (itemTokens items ++ rest)) := by
        simp [itemTokens, Expect.run?, Expect.step]
      _ = (Expect.afterItem (item :: before) frames).run? (itemTokens items ++ rest) := by
        rw [run?_tokens item]
        rfl
      _ = (Expect.deliver (.array (before.reverse ++ item :: items)) frames).run? rest := by
        rw [run?_itemTokens items]
        simp

theorem run?_memberTokens (members before : List (Name × Value)) (frames : List Frame)
    (rest : List Token) :
    (Expect.afterMember before frames).run? (memberTokens members ++ rest) =
      (Expect.deliver (.object (before.reverse ++ members)) frames).run? rest := by
  cases members with
  | nil => simp [memberTokens, Expect.run?, Expect.step]
  | cons member members =>
    obtain ⟨key, held⟩ := member
    calc (Expect.afterMember before frames).run? (memberTokens ((key, held) :: members) ++ rest)
      _ = (Expect.value (.member key before :: frames)).run?
            (held.tokens ++ (memberTokens members ++ rest)) := by
        simp [memberTokens, Expect.run?, Expect.step]
      _ = (Expect.afterMember ((key, held) :: before) frames).run?
            (memberTokens members ++ rest) := by
        rw [run?_tokens held]
        rfl
      _ = (Expect.deliver (.object (before.reverse ++ (key, held) :: members)) frames).run?
            rest := by
        rw [run?_memberTokens members]
        simp

end

theorem ofTokens?_tokens (value : Value) : ofTokens? value.tokens = some value := by
  have hread := value.run?_tokens [] []
  rw [List.append_nil] at hread
  simp [ofTokens?, hread, Expect.deliver, Expect.run?]

/-! ## Numbers of a value are apart -/

theorem isNumber_itemTokens (items : List Value) :
    ∀ token ∈ (itemTokens items).head?, token.isNumber = false := by
  cases items <;> simp [itemTokens, Token.isNumber]

theorem isNumber_memberTokens (members : List (Name × Value)) :
    ∀ token ∈ (memberTokens members).head?, token.isNumber = false := by
  cases members <;> simp [memberTokens, Token.isNumber]

mutual

theorem apart_tokens (value : Value) : Apart value.tokens := by
  cases value with
  | null | bool | number | string => simp [tokens, Apart]
  | array items =>
    cases items with
    | nil => simp [tokens, Apart, Token.isNumber]
    | cons item items =>
      have hrest := (apart_tokens item).append (apart_itemTokens items) (isNumber_itemTokens items)
      exact hrest.cons rfl
  | object members =>
    cases members with
    | nil => simp [tokens, Apart, Token.isNumber]
    | cons member members =>
      obtain ⟨key, held⟩ := member
      have hrest := (apart_tokens held).append (apart_memberTokens members)
        (isNumber_memberTokens members)
      exact ((hrest.cons rfl).cons rfl).cons rfl

theorem apart_itemTokens (items : List Value) : Apart (itemTokens items) := by
  cases items with
  | nil => simp [itemTokens, Apart]
  | cons item items =>
    have hrest := (apart_tokens item).append (apart_itemTokens items) (isNumber_itemTokens items)
    exact hrest.cons rfl

theorem apart_memberTokens (members : List (Name × Value)) : Apart (memberTokens members) := by
  cases members with
  | nil => simp [memberTokens, Apart]
  | cons member members =>
    obtain ⟨key, held⟩ := member
    have hrest := (apart_tokens held).append (apart_memberTokens members)
      (isNumber_memberTokens members)
    exact ((hrest.cons rfl).cons rfl).cons rfl

end

/-- Every text of a value is read as the value. -/
theorem parse?_of_written {value : Value} {text : String} (h : value.Written text) :
    parse? text = some value := by
  have hscan : scan? text.toList = some value.tokens := h.scanFrom? value.apart_tokens []
  rw [parse?, hscan]
  exact value.ofTokens?_tokens

end Value

/-! ## The text that is rendered -/

theorem hexDigit?_hexDigit : ∀ n < 16, Text.hexDigit? (hexDigit n) = some n := by
  decide

theorem spellsChar_escape (c : Char) : SpellsChar (escape c) c := by
  unfold escape
  split
  any_goals exact .short rfl
  rename_i hquote hbackslash _ _ _ _ _
  split
  · rename_i hcontrol
    refine .unit ⟨'0', '0', _, _, 0, 0, c.toNat / 16, c.toNat % 16, rfl, rfl, rfl,
      hexDigit?_hexDigit _ (by omega), hexDigit?_hexDigit _ (by omega), by omega⟩
  · rename_i hvisible
    exact .plain (Nat.not_lt.mp hvisible) hquote hbackslash

theorem spellsText_escape (text : List Char) : SpellsText (text.flatMap escape) text := by
  induction text with
  | nil => exact .nil
  | cons c text ih => exact .cons (spellsChar_escape c) ih

/-- There is a way to write the token. -/
def Token.Writable : Token → Prop
  | number literal => IsNumber literal
  | string text => text ≠ none
  | _ => True

theorem Token.Writable.spelled {token : Token} (h : token.Writable) :
    token.Spelled token.chars := by
  cases token with
  | number literal => exact ⟨h, rfl⟩
  | string text =>
    cases text with
    | none => exact absurd rfl h
    | some text => exact ⟨_, spellsText_escape text.toList, rfl⟩
  | _ => exact rfl

theorem head?_toDigits {n : Nat} (h : 0 < n) : (Nat.toDigits 10 n).head? ≠ some '0' := by
  induction n using Nat.strongRecOn with
  | _ n ih =>
    rcases Nat.lt_or_ge n 10 with hlt | hge
    · have hdigit : ∀ m < 10, 0 < m → Nat.digitChar m ≠ '0' := by decide
      rw [Nat.toDigits_of_lt_base hlt]
      simpa using hdigit n hlt h
    · have hne : (Nat.toDigits 10 (n / 10)).head?.isSome := by
        simp [Nat.toDigits_ne_nil]
      rw [Nat.toDigits_of_base_le (by decide) hge, List.head?_append, Option.or_of_isSome hne]
      exact ih (n / 10) (by omega) (by omega)

theorem isNumber_toDigits (n : Nat) : IsNumber (Nat.toDigits 10 n) := by
  refine ⟨[], Nat.toDigits 10 n, [], [], by simp, .inl rfl, ?_, .inl rfl, .inl rfl⟩
  rcases Nat.eq_zero_or_pos n with rfl | hpos
  · exact .inl (by decide)
  · exact .inr ⟨⟨Nat.toDigits_ne_nil, fun c hc => Nat.isDigit_of_mem_toDigits (by decide)
      (by decide) hc⟩, head?_toDigits hpos⟩

namespace Value

/-- Every token of the value can be written. -/
def Writable (value : Value) : Prop := ∀ token ∈ value.tokens, token.Writable

theorem Writable.written_render {value : Value} (h : value.Writable) :
    value.Written value.render := by
  have hspelling : ∀ tokens : List Token, (∀ token ∈ tokens, token.Writable) →
      Spelling tokens (tokens.flatMap Token.chars) := by
    intro tokens hall
    induction tokens with
    | nil => exact .done (by simp)
    | cons token tokens ih =>
      have hfirst := (hall token List.mem_cons_self).spelled
      have hmore := ih fun other hother => hall other (List.mem_cons_of_mem token hother)
      have hblanks : ∀ c ∈ ([] : List Char), isSpace c = true := by simp
      exact .token hblanks hfirst hmore
  rw [Written, render, String.toList_ofList]
  exact hspelling value.tokens h

@[simp] theorem writable_null : null.Writable := by
  simp [Writable, tokens, Token.Writable]

@[simp] theorem writable_text (s : String) : (text s).Writable := by
  simp [Writable, text, tokens, Token.Writable]

@[simp] theorem writable_nat (n : Nat) : (nat n).Writable := by
  simp [Writable, nat, tokens, Token.Writable, isNumber_toDigits]

theorem writable_option {α : Type} {encode : α → Value} (h : ∀ a, (encode a).Writable)
    (value : Option α) : (option encode value).Writable := by
  cases value with
  | none => exact writable_null
  | some a => exact h a

theorem writable_itemTokens {items : List Value} (h : ∀ item ∈ items, item.Writable) :
    ∀ token ∈ itemTokens items, token.Writable := by
  induction items with
  | nil => simp [itemTokens, Token.Writable]
  | cons item items ih =>
    have hitem := h item List.mem_cons_self
    have hrest := ih fun other hother => h other (List.mem_cons_of_mem item hother)
    intro token htoken
    rw [itemTokens, List.cons_append, List.mem_cons, List.mem_append] at htoken
    rcases htoken with rfl | htoken | htoken
    · trivial
    · exact hitem token htoken
    · exact hrest token htoken

theorem writable_array {items : List Value} (h : ∀ item ∈ items, item.Writable) :
    (array items).Writable := by
  cases items with
  | nil => simp [Writable, tokens, Token.Writable]
  | cons item items =>
    -- behind its first token an array is written as more items are, a comma apart
    have hitems := writable_itemTokens h
    intro token htoken
    rw [tokens, List.cons_append, List.mem_cons] at htoken
    rcases htoken with rfl | htoken
    · trivial
    · exact hitems token (List.mem_cons_of_mem _ htoken)

theorem writable_memberTokens {fields : List (String × Value)}
    (h : ∀ field ∈ fields, field.2.Writable) :
    ∀ token ∈ memberTokens (fields.map fun field => (some field.1, field.2)), token.Writable := by
  induction fields with
  | nil => simp [memberTokens, Token.Writable]
  | cons field fields ih =>
    have hfield := h field List.mem_cons_self
    have hrest := ih fun other hother => h other (List.mem_cons_of_mem field hother)
    intro token htoken
    simp only [List.map_cons, memberTokens, List.cons_append, List.mem_cons,
      List.mem_append] at htoken
    rcases htoken with rfl | rfl | rfl | htoken | htoken
    · trivial
    · exact Option.some_ne_none field.1
    · trivial
    · exact hfield token htoken
    · exact hrest token htoken

theorem writable_record {fields : List (String × Value)} (h : ∀ field ∈ fields, field.2.Writable) :
    (record fields).Writable := by
  cases fields with
  | nil => simp [Writable, record, tokens, Token.Writable]
  | cons field fields =>
    have hmembers := writable_memberTokens h
    intro token htoken
    simp only [record, List.map_cons, tokens, List.cons_append] at htoken
    rcases List.mem_cons.mp htoken with rfl | htoken
    · trivial
    · exact hmembers token (List.mem_cons_of_mem _ htoken)

end Value

end MacroScript.Json
