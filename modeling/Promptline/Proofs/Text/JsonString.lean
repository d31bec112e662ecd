import Promptline.Text.JsonString

/-!
# Spellings of JSON strings

One text has many JSON spellings: most characters may stand for themselves, some have a short
escape, and each may be escaped by its UTF-16 code units.  Here these spellings are a relation of
their own.  Every one of them ends at its closing quotation mark and is decoded to the text that it
spells.
-/

namespace Promptline.Text.JsonString

/-- The letters of the short escapes, with the characters that they stand for. -/
def shortEscapes : List (Char × Char) :=
  [('"', '"'), ('\\', '\\'), ('/', '/'), ('b', '\x08'), ('f', '\x0c'), ('n', '\n'), ('r', '\r'),
    ('t', '\t')]

/-- A hexadecimal digit, in either case, and its value. -/
def IsHexDigit (c : Char) (n : Nat) : Prop :=
  n < 16 ∧ (c = n.digitChar ∨ c = n.digitChar.toUpper)

/-- The escape of a UTF-16 code unit: four hexadecimal digits. -/
inductive EscapesUnit : List Char → Nat → Prop
  /-- The digits, the most significant one first. -/
  | digits {a b c d : Char} {i j k l : Nat} (first : IsHexDigit a i) (second : IsHexDigit b j)
      (third : IsHexDigit c k) (fourth : IsHexDigit d l) :
      EscapesUnit ['\\', 'u', a, b, c, d] (i * 0x1000 + j * 0x100 + k * 0x10 + l)

/-- A spelling of one character. -/
inductive SpellsChar : List Char → Char → Prop
  /-- The character itself, unless it is a quotation mark, a backslash or a control character. -/
  | raw {c : Char} (unquoted : c ≠ '"') (unescaped : c ≠ '\\') (printed : 0x20 ≤ c.toNat) :
      SpellsChar [c] c
  /-- A short escape. -/
  | short {letter c : Char} (listed : (letter, c) ∈ shortEscapes) : SpellsChar ['\\', letter] c
  /-- The escape of the only code unit. -/
  | unit {text : List Char} {c : Char} (escape : EscapesUnit text c.toNat) : SpellsChar text c
  /-- The escapes of both code units of a surrogate pair. -/
  | pair {front back : List Char} {high low : Nat} {c : Char}
      (first : EscapesUnit front (0xD800 + high)) (second : EscapesUnit back (0xDC00 + low))
      (high_lt : high < 0x400) (low_lt : low < 0x400)
      (stands : c.toNat = 0x10000 + high * 0x400 + low) : SpellsChar (front ++ back) c

/-- A spelling of a text between quotation marks: the spellings of its characters, in order. -/
inductive Spells : List Char → List Char → Prop
  /-- The empty text. -/
  | nil : Spells [] []
  /-- A character and the characters after it. -/
  | cons {text rest cs : List Char} {c : Char} (first : SpellsChar text c)
      (later : Spells rest cs) : Spells (text ++ rest) (c :: cs)

/-- A JSON string literal of a text. -/
def Denotes (literal text : String) : Prop :=
  ∃ inner, literal.toList = '"' :: (inner ++ ['"']) ∧ Spells inner text.toList

/-! ## Code units -/

theorem IsHexDigit.hexValue?_eq {c : Char} {n : Nat} (digit : IsHexDigit c n) :
    hexValue? c = some n := by
  have every : ∀ m < 16, hexValue? m.digitChar = some m ∧
      hexValue? m.digitChar.toUpper = some m := by decide
  obtain ⟨below, rfl | rfl⟩ := digit
  · exact (every n below).1
  · exact (every n below).2

/-- An escaped code unit is a backslash, a letter and four digits that decode to it. -/
theorem EscapesUnit.exists_hexCode? {text : List Char} {unit : Nat}
    (escape : EscapesUnit text unit) :
    ∃ a b c d, text = ['\\', 'u', a, b, c, d] ∧ hexCode? a b c d = some unit := by
  obtain ⟨first, second, third, fourth⟩ := escape
  refine ⟨_, _, _, _, rfl, ?_⟩
  simp only [hexCode?, first.hexValue?_eq, second.hexValue?_eq, third.hexValue?_eq,
    fourth.hexValue?_eq, bind, Option.bind]
  congr 1
  omega

/-- No character is a surrogate. -/
theorem not_isSurrogate (c : Char) :
    isHighSurrogate c.toNat = false ∧ isLowSurrogate c.toNat = false := by
  have scalar : c.toNat < 0xD800 ∨ 0xDFFF < c.toNat ∧ c.toNat < 0x110000 := c.valid
  constructor
  · rw [isHighSurrogate, Bool.and_eq_false_iff, decide_eq_false_iff_not, decide_eq_false_iff_not]
    omega
  · rw [isLowSurrogate, Bool.and_eq_false_iff, decide_eq_false_iff_not, decide_eq_false_iff_not]
    omega

/-! ## Decoding -/

theorem decode?_raw {c : Char} (unquoted : c ≠ '"') (unescaped : c ≠ '\\')
    (printed : 0x20 ≤ c.toNat) (rest : List Char) :
    decode? (c :: rest) = (decode? rest).map (c :: ·) := by
  have plain : ¬ (c = '\\' ∨ c = '"' ∨ c.toNat < 0x20) := by
    rintro (rfl | rfl | control)
    · exact unescaped rfl
    · exact unquoted rfl
    · omega
  rw [decode?.eq_5 _ _ (by simp [unescaped]) (by simp [unescaped]) (by simp [unescaped]),
    if_neg plain]

theorem decode?_short {letter c : Char} (listed : (letter, c) ∈ shortEscapes) (rest : List Char) :
    decode? ('\\' :: letter :: rest) = (decode? rest).map (c :: ·) := by
  have every : ∀ entry ∈ shortEscapes, entry.1 ≠ 'u' ∧ shortEscape? entry.1 = some entry.2 := by
    decide
  obtain ⟨other, stands⟩ := every _ listed
  rw [decode?.eq_4 _ _ (by simp [other]) (by simp [other]), stands]

theorem decode?_unit {text : List Char} {c : Char} (escape : EscapesUnit text c.toNat)
    (rest : List Char) : decode? (text ++ rest) = (decode? rest).map (c :: ·) := by
  obtain ⟨d₁, d₂, d₃, d₄, rfl, code⟩ := escape.exists_hexCode?
  obtain ⟨not_high, not_low⟩ := not_isSurrogate c
  simp only [List.cons_append, List.nil_append]
  -- Whether another escape follows decides only which equation of the decoder applies.
  by_cases more : ∃ e f g h others, rest = '\\' :: 'u' :: e :: f :: g :: h :: others
  · obtain ⟨e, f, g, h, others, rfl⟩ := more
    rw [decode?.eq_2, code]
    simp [not_high, not_low, Char.ofNat_toNat]
  · rw [decode?.eq_3 _ _ _ _ _ fun e f g h others same => more ⟨e, f, g, h, others, same⟩, code]
    simp [not_high, not_low, Char.ofNat_toNat]

theorem decode?_pair {front back : List Char} {high low : Nat} {c : Char}
    (first : EscapesUnit front (0xD800 + high)) (second : EscapesUnit back (0xDC00 + low))
    (high_lt : high < 0x400) (low_lt : low < 0x400)
    (stands : c.toNat = 0x10000 + high * 0x400 + low) (rest : List Char) :
    decode? (front ++ back ++ rest) = (decode? rest).map (c :: ·) := by
  obtain ⟨d₁, d₂, d₃, d₄, rfl, high_code⟩ := first.exists_hexCode?
  obtain ⟨e₁, e₂, e₃, e₄, rfl, low_code⟩ := second.exists_hexCode?
  have is_high : isHighSurrogate (0xD800 + high) = true := by
    rw [isHighSurrogate, Bool.and_eq_true, decide_eq_true_eq, decide_eq_true_eq]
    omega
  have is_low : isLowSurrogate (0xDC00 + low) = true := by
    rw [isLowSurrogate, Bool.and_eq_true, decide_eq_true_eq, decide_eq_true_eq]
    omega
  have joined : pairChar (0xD800 + high) (0xDC00 + low) = c := by
    rw [pairChar, Nat.add_sub_cancel_left, Nat.add_sub_cancel_left, ← stands, Char.ofNat_toNat]
  simp only [List.cons_append, List.nil_append]
  rw [decode?.eq_2, high_code, low_code]
  simp [is_high, is_low, joined]

theorem SpellsChar.decode?_append {text : List Char} {c : Char} (spells : SpellsChar text c)
    (rest : List Char) : decode? (text ++ rest) = (decode? rest).map (c :: ·) := by
  cases spells with
  | raw unquoted unescaped printed => exact decode?_raw unquoted unescaped printed rest
  | short listed => exact decode?_short listed rest
  | unit escape => exact decode?_unit escape rest
  | pair first second high_lt low_lt stands =>
      exact decode?_pair first second high_lt low_lt stands rest

/-- Every spelling is decoded to the text that it spells. -/
theorem Spells.decode?_eq {inner s : List Char} (spells : Spells inner s) :
    decode? inner = some s := by
  induction spells with
  | nil => rfl
  | cons first later ih => rw [first.decode?_append, ih, Option.map_some]

/-! ## The closing quotation mark -/

theorem closingLength_of_plain {c : Char} (unquoted : c ≠ '"') (unbroken : c ≠ '\n')
    (unescaped : c ≠ '\\') (rest : List Char) :
    closingLength (c :: rest) = (closingLength rest).map (· + 1) :=
  closingLength.eq_6 c rest unquoted unbroken (fun same _ => unescaped same)
    fun _ _ same _ => unescaped same

theorem closingLength_of_escape {letter : Char} (unbroken : letter ≠ '\n') (rest : List Char) :
    closingLength ('\\' :: letter :: rest) = (closingLength rest).map (· + 2) := by
  rw [closingLength.eq_5, if_neg unbroken]

theorem IsHexDigit.plain {c : Char} {n : Nat} (digit : IsHexDigit c n) :
    c ≠ '"' ∧ c ≠ '\n' ∧ c ≠ '\\' := by
  have small : ∀ m < 16,
      m.digitChar ≠ '"' ∧ m.digitChar ≠ '\n' ∧ m.digitChar ≠ '\\' := by decide
  have large : ∀ m < 16,
      m.digitChar.toUpper ≠ '"' ∧ m.digitChar.toUpper ≠ '\n' ∧ m.digitChar.toUpper ≠ '\\' := by
    decide
  obtain ⟨below, rfl | rfl⟩ := digit
  · exact small n below
  · exact large n below

theorem EscapesUnit.closingLength_append {text : List Char} {unit : Nat}
    (escape : EscapesUnit text unit) (rest : List Char) :
    closingLength (text ++ rest) = (closingLength rest).map (· + text.length) := by
  have digit {c : Char} {n : Nat} (is : IsHexDigit c n) (later : List Char) :
      closingLength (c :: later) = (closingLength later).map (· + 1) :=
    closingLength_of_plain is.plain.1 is.plain.2.1 is.plain.2.2 later
  obtain ⟨first, second, third, fourth⟩ := escape
  simp only [List.cons_append, List.nil_append]
  rw [closingLength_of_escape (by decide), digit first, digit second, digit third, digit fourth]
  simp only [Option.map_map]
  rfl

theorem SpellsChar.closingLength_append {text : List Char} {c : Char} (spells : SpellsChar text c)
    (rest : List Char) :
    closingLength (text ++ rest) = (closingLength rest).map (· + text.length) := by
  cases spells with
  | raw unquoted unescaped printed =>
      have unbroken : c ≠ '\n' := by
        rintro rfl
        exact absurd printed (by decide)
      exact closingLength_of_plain unquoted unbroken unescaped rest
  | short listed =>
      have every : ∀ entry ∈ shortEscapes, entry.1 ≠ '\n' := by decide
      exact closingLength_of_escape (every _ listed) rest
  | unit escape => exact escape.closingLength_append rest
  | pair first second =>
      rw [List.append_assoc, first.closingLength_append, second.closingLength_append,
        Option.map_map, List.length_append]
      congr 1
      funext length
      simp only [Function.comp_apply]
      omega

/-- The string ends at the first quotation mark that is no part of a spelling. -/
theorem Spells.closingLength_append {inner s : List Char} (spells : Spells inner s)
    (rest : List Char) :
    closingLength (inner ++ '"' :: rest) = some (inner.length + 1) := by
  induction spells with
  | nil => rfl
  | @cons text more _ _ first later ih =>
      rw [List.append_assoc, first.closingLength_append, ih, Option.map_some, List.length_append]
      congr 1
      omega

end Promptline.Text.JsonString
