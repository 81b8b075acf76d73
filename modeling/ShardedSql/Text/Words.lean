/-!
Words compared, cut and joined: case folding over ASCII, trimming of blanks, and splitting at a
separator. Main statement: joining the pieces of a split gives the text back.
-/

namespace ShardedSql.Text

/-- The characters Unicode calls white space. -/
def isBlank (c : Char) : Bool :=
  let n := c.toNat
  (0x9 ≤ n && n ≤ 0xD) || n == 0x20 || n == 0x85 || n == 0xA0 || n == 0x1680 ||
    (0x2000 ≤ n && n ≤ 0x200A) || n == 0x2028 || n == 0x2029 || n == 0x202F || n == 0x205F ||
    n == 0x3000

/-- The characters without the blanks at either end. -/
def trim (chars : List Char) : List Char :=
  ((chars.dropWhile isBlank).reverse.dropWhile isBlank).reverse

def trimmed (text : String) : String :=
  String.ofList (trim text.toList)

/-- The characters with every ASCII letter in lower case. -/
def foldCase (chars : List Char) : List Char :=
  chars.map Char.toLower

/-- Equality that ignores the case of ASCII letters. -/
def sameChars (left right : List Char) : Bool :=
  foldCase left == foldCase right

def sameWord (left right : String) : Bool :=
  sameChars left.toList right.toList

def upperAscii (text : String) : String :=
  String.ofList (text.toList.map Char.toUpper)

def lowerAscii (text : String) : String :=
  String.ofList (foldCase text.toList)

/-- The pieces between the separators; there is always one piece more than there are separators. -/
def splitAt (separator : Char) : List Char → List (List Char)
  | [] => [[]]
  | c :: rest =>
      if c = separator then [] :: splitAt separator rest
      else
        match splitAt separator rest with
        | piece :: pieces => (c :: piece) :: pieces
        | [] => [[c]]

def joinWith (separator : Char) : List (List Char) → List Char
  | [] => []
  | [piece] => piece
  | piece :: pieces => piece ++ separator :: joinWith separator pieces

theorem splitAt_ne_nil (separator : Char) (chars : List Char) :
    splitAt separator chars ≠ [] := by
  cases chars with
  | nil => simp [splitAt]
  | cons c rest =>
      simp only [splitAt]
      split
      · simp
      · split <;> simp

theorem joinWith_splitAt (separator : Char) (chars : List Char) :
    joinWith separator (splitAt separator chars) = chars := by
  induction chars with
  | nil => rfl
  | cons c rest ih =>
      cases h : splitAt separator rest with
      | nil => exact absurd h (splitAt_ne_nil separator rest)
      | cons piece pieces =>
          rw [h] at ih
          by_cases hc : c = separator
          · simp [splitAt, hc, h, joinWith, ih]
          · cases pieces <;> simp_all [splitAt, joinWith]

/-- The part before the first separator and the part after it. -/
def cutAt (separator : Char) (chars : List Char) : Option (List Char × List Char) :=
  match chars.span (· ≠ separator) with
  | (before, _ :: after) => some (before, after)
  | (_, []) => none

/-- What stands before the first occurrence of `closer`, and what follows it. -/
def cutAtPair (first second : Char) : List Char → Option (List Char × List Char)
  | [] => none
  | [_] => none
  | c :: d :: rest =>
      if c = first ∧ d = second then some ([], rest)
      else (cutAtPair first second (d :: rest)).map fun (before, after) => (c :: before, after)

/-- The texts one after the other, with `separator` between neighbours. -/
def joined (separator : String) (texts : List String) : String :=
  separator.intercalate texts

end ShardedSql.Text
