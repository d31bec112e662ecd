/-!
# Pieces of texts

Searching, cutting and joining over lists of characters.
-/

namespace Promptline.Text

/-- What follows a prefix, if the text starts with it. -/
def afterPrefix? : List Char → List Char → Option (List Char)
  | [], cs => some cs
  | _ :: _, [] => none
  | p :: ps, c :: cs => if p = c then afterPrefix? ps cs else none

theorem eq_append_of_afterPrefix? {lead cs rest : List Char}
    (found : afterPrefix? lead cs = some rest) : cs = lead ++ rest := by
  induction lead generalizing cs with
  | nil => simpa [afterPrefix?] using found
  | cons p ps ih =>
      cases cs with
      | nil => simp [afterPrefix?] at found
      | cons c cs =>
          by_cases same : p = c
          · simp only [afterPrefix?, same, if_true] at found
            rw [ih found, same, List.cons_append]
          · simp [afterPrefix?, same] at found

@[simp]
theorem afterPrefix?_append (lead rest : List Char) :
    afterPrefix? lead (lead ++ rest) = some rest := by
  induction lead with
  | nil => rfl
  | cons p ps ih => simp [afterPrefix?, ih]

/-- Whether the text starts with the given one. -/
def startsWith (lead cs : List Char) : Bool :=
  (afterPrefix? lead cs).isSome

/-- Number of leading characters of a class. -/
def extent (p : Char → Bool) (cs : List Char) : Nat :=
  (cs.takeWhile p).length

theorem extent_le_length (p : Char → Bool) (cs : List Char) : extent p cs ≤ cs.length := by
  simpa [extent] using List.takeWhile_sublist p |>.length_le

/-- Length of an optional sign. -/
def signLength : List Char → Nat
  | '+' :: _ => 1
  | '-' :: _ => 1
  | _ => 0

/-- The fields between the separators; there is always at least one. -/
def splitOn (separator : Char) : List Char → List (List Char)
  | [] => [[]]
  | c :: cs =>
      if c = separator then [] :: splitOn separator cs
      else match splitOn separator cs with
        | field :: fields => (c :: field) :: fields
        | [] => [[c]]

/-- Put the separator between the fields. -/
def joinWith (separator : List Char) : List (List Char) → List Char
  | [] => []
  | [field] => field
  | field :: fields => field ++ separator ++ joinWith separator fields

/-- Fields of a string between separators. -/
def split (separator : Char) (text : String) : List String :=
  (splitOn separator text.toList).map String.ofList

/-- Cut at the leftmost occurrences of a separating text; the separator must not be empty.
`current` collects the current field in reverse, `skip` counts separator characters to pass. -/
def splitTextFrom (separator : List Char) (current : List Char) :
    Nat → List Char → List (List Char)
  | _, [] => [current.reverse]
  | skip + 1, _ :: cs => splitTextFrom separator current skip cs
  | 0, c :: cs =>
      if startsWith separator (c :: cs) then
        current.reverse :: splitTextFrom separator [] (separator.length - 1) cs
      else splitTextFrom separator (c :: current) 0 cs

/-- The fields between the leftmost, non-overlapping occurrences of a non-empty text. -/
def splitText (separator cs : List Char) : List (List Char) :=
  splitTextFrom separator [] 0 cs

/-- Replace every occurrence, leftmost first. An empty `old` occurs before every character and
at the end. -/
def replaceAll (old new cs : List Char) : List Char :=
  if old.isEmpty then new ++ cs.flatMap (fun c => c :: new)
  else joinWith new (splitText old cs)

/-- Whether a text occurs inside another. -/
def occursIn (part : List Char) : List Char → Bool
  | [] => part.isEmpty
  | c :: cs => startsWith part (c :: cs) || occursIn part cs

/-- Pad with a character on the left up to a width. -/
def padLeft (width : Nat) (fill : Char) (cs : List Char) : List Char :=
  List.replicate (width - cs.length) fill ++ cs

/-- Pad with blanks on the right up to a width. -/
def padRight (width : Nat) (text : String) : String :=
  text ++ String.ofList (List.replicate (width - text.length) ' ')

/-- Decimal text of a number with at least `width` digits. -/
def zeroPadded (width n : Nat) : String :=
  String.ofList (padLeft width '0' (Nat.toDigits 10 n))

end Promptline.Text
