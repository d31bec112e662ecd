import Promptline.Text.Digit
import Promptline.Text.Quoted

/-!
# JSON strings

Texts between double quotes as JSON writes them: control characters are escaped, and an escape
of a surrogate is valid only in a pair.
-/

namespace Promptline.Text.JsonString

/-- Length of what follows an opening quotation mark, the closing one included. A line feed
cannot occur inside, not even after a backslash. -/
def closingLength : List Char → Option Nat
  | [] => none
  | '"' :: _ => some 1
  | '\n' :: _ => none
  | ['\\'] => none
  | '\\' :: c :: cs => if c = '\n' then none else (closingLength cs).map (· + 2)
  | _ :: cs => (closingLength cs).map (· + 1)

/-- The number that four hexadecimal digits stand for. -/
def hexCode? (a b c d : Char) : Option Nat := do
  let a ← hexValue? a
  let b ← hexValue? b
  let c ← hexValue? c
  let d ← hexValue? d
  some (((a * 16 + b) * 16 + c) * 16 + d)

/-- The character that a one-letter escape stands for. -/
def shortEscape? : Char → Option Char
  | '"' => some '"'
  | '\\' => some '\\'
  | '/' => some '/'
  | 'b' => some '\x08'
  | 'f' => some '\x0c'
  | 'n' => some '\n'
  | 'r' => some '\r'
  | 't' => some '\t'
  | _ => none

/-- Whether a code unit is the first half of a surrogate pair. -/
def isHighSurrogate (code : Nat) : Bool :=
  0xD800 ≤ code && code ≤ 0xDBFF

/-- Whether a code unit is the second half of a surrogate pair. -/
def isLowSurrogate (code : Nat) : Bool :=
  0xDC00 ≤ code && code ≤ 0xDFFF

/-- The character that a surrogate pair stands for. -/
def pairChar (high low : Nat) : Char :=
  Char.ofNat (0x10000 + (high - 0xD800) * 0x400 + (low - 0xDC00))

/-- Decode the text between the quotes. A raw control character, an unknown escape and a
surrogate without its partner are refused. -/
def decode? : List Char → Option (List Char)
  | [] => some []
  | '\\' :: 'u' :: a :: b :: c :: d :: '\\' :: 'u' :: e :: f :: g :: h :: rest =>
      match hexCode? a b c d with
      | none => none
      | some code =>
          if isHighSurrogate code then
            match hexCode? e f g h with
            | none => none
            | some low =>
                if isLowSurrogate low then (decode? rest).map (pairChar code low :: ·) else none
          else if isLowSurrogate code then none
          else (decode? ('\\' :: 'u' :: e :: f :: g :: h :: rest)).map (Char.ofNat code :: ·)
  | '\\' :: 'u' :: a :: b :: c :: d :: rest =>
      match hexCode? a b c d with
      | none => none
      | some code =>
          if isHighSurrogate code || isLowSurrogate code then none
          else (decode? rest).map (Char.ofNat code :: ·)
  | '\\' :: c :: rest =>
      match shortEscape? c with
      | some escaped => (decode? rest).map (escaped :: ·)
      | none => none
  | c :: rest =>
      if c = '\\' ∨ c = '"' ∨ c.toNat < 0x20 then none else (decode? rest).map (c :: ·)

/-- One character between the quotes. -/
def encodeChar (c : Char) : List Char :=
  if c = '"' then ['\\', '"']
  else if c = '\\' then ['\\', '\\']
  else if c = '\x08' then ['\\', 'b']
  else if c = '\x0c' then ['\\', 'f']
  else if c = '\n' then ['\\', 'n']
  else if c = '\r' then ['\\', 'r']
  else if c = '\t' then ['\\', 't']
  else if c.toNat < 0x20 then '\\' :: 'u' :: hexPadded 4 c.toNat
  else [c]

/-- A text between double quotes; only quotes, backslashes and control characters are escaped. -/
def encode (text : String) : String :=
  String.ofList ('"' :: text.toList.flatMap encodeChar ++ ['"'])

/-- An escaped code unit. -/
def unitEscape (unit : Nat) : List Char :=
  '\\' :: 'u' :: hexPadded 4 unit

/-- One character between the quotes in ASCII; a character outside the first plane becomes a
surrogate pair. -/
def encodeCharAscii (c : Char) : List Char :=
  if c.toNat < 0x7F then encodeChar c
  else if c.toNat < 0x10000 then unitEscape c.toNat
  else
    let offset := c.toNat - 0x10000
    unitEscape (0xD800 + offset / 0x400) ++ unitEscape (0xDC00 + offset % 0x400)

/-- A text between double quotes, in ASCII. -/
def encodeAscii (text : String) : String :=
  String.ofList ('"' :: text.toList.flatMap encodeCharAscii ++ ['"'])

end Promptline.Text.JsonString
