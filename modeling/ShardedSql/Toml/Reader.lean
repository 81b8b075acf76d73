import ShardedSql.Toml.Quoted

/-!
The lines of a document: headers, and values under keys. A reader takes what it reads off the front
of the text; every loop is bounded by the characters that are left, and values by how deep they are
nested.
-/

namespace ShardedSql.Toml

abbrev Reader := StateT (List Char) Option

namespace Reader

def peek? : Reader (Option Char) := do
  return (← get).head?

def expect (c : Char) : Reader Unit := fun chars =>
  match chars with
  | d :: rest => if d = c then some ((), rest) else none
  | [] => none

/-- The characters at the front that belong to a class. -/
def takeAll (p : Char → Bool) : Reader (List Char) := fun chars =>
  some (chars.takeWhile p, chars.dropWhile p)

def skipSpace : Reader Unit := do
  let _ ← takeAll isLineSpace

/-- A comment, if there is one. -/
def skipComment : Reader Unit := do
  if (← peek?) = some '#' then
    let _ ← takeAll isPlain

/-- The end of a line, behind blanks and perhaps a comment. -/
def endLine : Reader Unit := do
  skipSpace
  skipComment
  if (← peek?).isSome then expect '\n'

/-- Blanks, comments and line ends, as far as `fuel` lines go. -/
def skipLines : Nat → Reader Unit
  | 0 => pure ()
  | fuel + 1 => do
      skipSpace
      skipComment
      if (← peek?) = some '\n' then
        expect '\n'
        skipLines fuel

/-- Runs a reader that loops with enough fuel for the characters that are left. -/
def bounded (loop : Nat → Reader α) : Reader α := do
  loop ((← get).length + 1)

/-! ## Keys -/

/-- The characters of keys without quotes. -/
def isKeyChar (c : Char) : Bool :=
  c.isAlphanum || c == '_' || c == '-'

/-- What a function on characters cuts off the front. -/
def ofCut (cut : List Char → Option (α × List Char)) : Reader α := cut

/-- One part of a key, without quotes or as a text on one line. -/
def simpleKey : Reader String := do
  let next ← peek?
  if next = some '"' ∨ next = some '\'' then
    return String.ofList (← ofCut cutLine)
  let chars ← takeAll isKeyChar
  guard !chars.isEmpty
  return String.ofList chars

/-- At most so many keys with points between them: those that lead to the last one, and the last
one. -/
def dottedKey : Nat → Reader (List String × String)
  | 0 => failure
  | parts + 1 => do
      skipSpace
      let first ← simpleKey
      skipSpace
      if (← peek?) = some '.' then
        expect '.'
        let (path, last) ← dottedKey parts
        return (first :: path, last)
      else return ([], first)

/-- How deep values may be nested, and how many parts a key may have. -/
def maxDepth : Nat :=
  79

def key : Reader (List String × String) :=
  dottedKey maxDepth

/-! ## Values -/

/-- The items of an array up to its bracket; a comma may follow the last one. -/
def arrayItems (item : Reader Value) : Nat → Reader (List Value)
  | 0 => failure
  | fuel + 1 => do
      bounded skipLines
      if (← peek?) = some ']' then
        expect ']'
        return []
      let first ← item
      bounded skipLines
      if (← peek?) = some ',' then
        expect ','
        return first :: (← arrayItems item fuel)
      else
        expect ']'
        return [first]

/-- A value under a key, behind an equals sign. -/
def assignment (item : Reader Value) : Reader (List String × String × Value) := do
  let (path, last) ← key
  expect '='
  skipSpace
  return (path, last, ← item)

/-- The entries of a table in braces up to the brace; no comma follows the last one. -/
def braceEntries (item : Reader Value) : Nat → Table → Reader Table
  | 0, _ => failure
  | fuel + 1, table => do
      let (path, key, value) ← assignment item
      let some table := table.assign path key value | failure
      skipSpace
      if (← peek?) = some ',' then
        expect ','
        braceEntries item fuel table
      else
        expect '}'
        return table

/-- A table in braces, behind its opening brace. -/
def braceTable (item : Reader Value) : Reader Table := do
  skipSpace
  if (← peek?) = some '}' then
    expect '}'
    return .empty .braces
  else bounded fun fuel => braceEntries item fuel (.empty .braces)

/-- A text, or a value that is written without quotes. -/
def plainValue : Reader Value := do
  let next ← peek?
  if next = some '"' ∨ next = some '\'' then
    return .text (String.ofList (← ofCut cutText))
  ofCut cutScalar

/-- A value whose arrays and tables in braces are nested at most `depth` deep. -/
def value : Nat → Reader Value
  | 0 => plainValue
  | depth + 1 => do
      match ← peek? with
      | some '[' =>
          expect '['
          return .array (← bounded (arrayItems (value depth)))
      | some '{' =>
          expect '{'
          return .table (← braceTable (value depth))
      | _ => plainValue

/-! ## Lines -/

inductive Line where
  | header (path : List String) (key : String)
  | repeatedHeader (path : List String) (key : String)
  | entry (path : List String) (key : String) (value : Value)

/-- A header behind its first bracket. -/
def headerLine : Reader Line := do
  if (← peek?) = some '[' then
    expect '['
    let (path, last) ← key
    expect ']'
    expect ']'
    return .repeatedHeader path last
  else
    let (path, last) ← key
    expect ']'
    return .header path last

def line : Reader Line := do
  if (← peek?) = some '[' then
    expect '['
    headerLine
  else
    let (path, key, content) ← assignment (value maxDepth)
    return .entry path key content

/-- The lines that hold something, up to the end of the text. -/
def lines : Nat → Reader (List Line)
  | 0 => failure
  | fuel + 1 => do
      bounded skipLines
      skipSpace
      if (← peek?).isNone then return []
      let first ← line
      endLine
      return first :: (← lines fuel)

end Reader

/-- The text with every line ending in a single character. -/
def joinLineEnds : List Char → List Char
  | [] => []
  | '\r' :: '\n' :: rest => '\n' :: joinLineEnds rest
  | c :: rest => c :: joinLineEnds rest

/-- The mark that a text may start with. -/
def byteOrderMark : Char :=
  Char.ofNat 0xFEFF

def withoutMark : List Char → List Char
  | [] => []
  | c :: rest => if c = byteOrderMark then rest else c :: rest

/-- The lines of a document, if every one can be read. -/
def readLines (document : String) : Option (List Reader.Line) :=
  ((Reader.bounded Reader.lines).run (joinLineEnds (withoutMark document.toList))).map (·.1)

end ShardedSql.Toml
