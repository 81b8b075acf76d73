import ShardedSql.Numeric.Digits
import ShardedSql.Text.Words

/-!
Results written as JSON, one item on a line, indented by how deep it stands.
-/

namespace ShardedSql.CommandLine

open Numeric Text

inductive JsonText where
  | string (text : String)
  | number (n : Nat)
  | array (items : List JsonText)
  | object (fields : List (String × JsonText))

namespace JsonText

/-- Four hexadecimal digits. -/
def codeDigits (n : Nat) : List Char :=
  let digits := Nat.toDigits 16 n
  List.replicate (4 - digits.length) '0' ++ digits

def escapedChar (c : Char) : List Char :=
  match c with
  | '"' => ['\\', '"']
  | '\\' => ['\\', '\\']
  | '\n' => ['\\', 'n']
  | '\r' => ['\\', 'r']
  | '\t' => ['\\', 't']
  | _ =>
      if c.toNat = 8 then ['\\', 'b']
      else if c.toNat = 12 then ['\\', 'f']
      else if c.toNat < 0x20 then '\\' :: 'u' :: codeDigits c.toNat
      else [c]

def stringText (text : String) : String :=
  "\"" ++ String.ofList (text.toList.flatMap escapedChar) ++ "\""

def indent (depth : Nat) : String :=
  String.ofList (List.replicate (2 * depth) ' ')

/-- Items between brackets, each on a line of its own. -/
def bracketed (opening closing : String) (depth : Nat) (items : List String) : String :=
  if items.isEmpty then opening ++ closing
  else
    opening ++ "\n" ++ joined ",\n" (items.map (indent (depth + 1) ++ ·)) ++ "\n" ++ indent depth
      ++ closing

mutual

def render (depth : Nat) : JsonText → String
  | .string text => stringText text
  | .number n => natText n
  | .array items => bracketed "[" "]" depth (renderItems (depth + 1) items)
  | .object fields => bracketed "\x7b" "\x7d" depth (renderFields (depth + 1) fields)

def renderItems (depth : Nat) : List JsonText → List String
  | [] => []
  | item :: rest => item.render depth :: renderItems depth rest

def renderFields (depth : Nat) : List (String × JsonText) → List String
  | [] => []
  | (name, item) :: rest =>
      (stringText name ++ ": " ++ item.render depth) :: renderFields depth rest

end

end JsonText

end ShardedSql.CommandLine
