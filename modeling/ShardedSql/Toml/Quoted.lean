import ShardedSql.Toml.Scalar

/-!
Texts in quotes. Between double quotes a backslash escapes, between single quotes every character is
itself. Three quotes hold a text of several lines, whose first line may be empty. Every line ends
with a single character.
-/

namespace ShardedSql.Toml

/-- The characters that stand for themselves on a line: no control character but the tab. -/
def isPlain (c : Char) : Bool :=
  c == '\t' || (0x20 ≤ c.toNat && c.toNat != 0x7F)

/-- A text and what follows its closing quotes. -/
abbrev Quoted := Option (List Char × List Char)

/-- One more piece in front of a text. -/
def Quoted.after (front : List Char) (quoted : Quoted) : Quoted :=
  quoted.map fun (content, rest) => (front ++ content, rest)

/-- The character that a letter behind a backslash stands for. -/
def escaped? : Char → Option Char
  | 'b' => some (Char.ofNat 8)
  | 't' => some '\t'
  | 'n' => some '\n'
  | 'f' => some (Char.ofNat 12)
  | 'r' => some '\r'
  | '"' => some '"'
  | '\\' => some '\\'
  | _ => none

/-- The character with the number that hexadecimal digits write. -/
def numbered? (digits : List Char) : Option Char := do
  let values ← digits.mapM (digitIn 16)
  let n := values.foldl (fun n digit => 16 * n + digit) 0
  if n.isValidChar then return Char.ofNat n else none

/-- The escape behind a backslash, and the number of characters it takes. -/
def cutEscape : List Char → Option (Char × Nat)
  | 'u' :: rest =>
      if rest.length < 4 then none else (numbered? (rest.take 4)).map (·, 5)
  | 'U' :: rest =>
      if rest.length < 8 then none else (numbered? (rest.take 8)).map (·, 9)
  | c :: _ => (escaped? c).map (·, 1)
  | [] => none

/-- The text up to a double quote on the same line. -/
def cutBasic : List Char → Quoted
  | [] => none
  | c :: rest =>
      if c = '"' then some ([], rest)
      else if c = '\\' then
        match cutEscape rest with
        | some (escaped, length) => Quoted.after [escaped] (cutBasic (rest.drop length))
        | none => none
      else if isPlain c then Quoted.after [c] (cutBasic rest)
      else none
termination_by chars => chars.length
decreasing_by
  all_goals
    simp only [List.length_drop, List.length_cons]
    omega

/-- The text up to a single quote on the same line. -/
def cutLiteral : List Char → Quoted
  | [] => none
  | c :: rest =>
      if c = '\'' then some ([], rest)
      else if isPlain c then Quoted.after [c] (cutLiteral rest)
      else none

/-- The text without a line end in front. -/
def dropLineEnd : List Char → List Char
  | '\n' :: rest => rest
  | chars => chars

def isLineSpace (c : Char) : Bool :=
  c == ' ' || c == '\t'

/-- What follows a backslash that ends a line: the first character that is neither a blank nor
a line end. -/
def afterLineJoin (chars : List Char) : Option (List Char) :=
  match chars.dropWhile isLineSpace with
  | '\n' :: rest => some (rest.dropWhile fun c => isLineSpace c || c == '\n')
  | _ => none

theorem length_afterLineJoin {chars rest : List Char} (found : afterLineJoin chars = some rest) :
    rest.length ≤ chars.length := by
  unfold afterLineJoin at found
  split at found
  · next joined behind =>
      have whole := (List.dropWhile_sublist isLineSpace (l := chars)).length_le
      have tail :=
        (List.dropWhile_sublist (fun c => isLineSpace c || c == '\n') (l := joined)).length_le
      simp only [Option.some.injEq] at found
      subst found
      rw [behind, List.length_cons] at whole
      omega
  · simp at found

/-- The quotes of a text that three or more quotes close: up to two of them are its own. -/
def closing? (quote : Char) (chars : List Char) : Quoted :=
  let quotes := min 5 (chars.takeWhile (· == quote)).length
  if quotes < 3 then none else some (List.replicate (quotes - 3) quote, chars.drop quotes)

/-- The text of several lines up to three double quotes. -/
def cutBasicLines : List Char → Quoted
  | [] => none
  | c :: rest =>
      match closing? '"' (c :: rest) with
      | some closed => some closed
      | none =>
          if c = '\\' then
            match cutEscape rest with
            | some (escaped, length) => Quoted.after [escaped] (cutBasicLines (rest.drop length))
            | none =>
                match _joined : afterLineJoin rest with
                | some after => cutBasicLines after
                | none => none
          else if c = '\n' ∨ isPlain c then Quoted.after [c] (cutBasicLines rest)
          else none
termination_by chars => chars.length
decreasing_by
  · simp only [List.length_drop, List.length_cons]
    omega
  · have := length_afterLineJoin _joined
    simp only [List.length_cons]
    omega
  · simp only [List.length_cons]
    omega

/-- The text of several lines up to three single quotes. -/
def cutLiteralLines : List Char → Quoted
  | [] => none
  | c :: rest =>
      match closing? '\'' (c :: rest) with
      | some closed => some closed
      | none =>
          if c = '\n' ∨ isPlain c then Quoted.after [c] (cutLiteralLines rest)
          else none

/-- A text on one line, with its opening quote. -/
def cutLine : List Char → Quoted
  | '"' :: rest => cutBasic rest
  | '\'' :: rest => cutLiteral rest
  | _ => none

/-- A text of any kind, with its opening quotes. -/
def cutText : List Char → Quoted
  | '"' :: '"' :: '"' :: rest => cutBasicLines (dropLineEnd rest)
  | '\'' :: '\'' :: '\'' :: rest => cutLiteralLines (dropLineEnd rest)
  | chars => cutLine chars

end ShardedSql.Toml
