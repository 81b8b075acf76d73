import ShardedSql.Sql.Syntax

/-!
The outline of an expression: every node by its name, with its parts in a fixed order. Messages show
it for an expression that cannot be used where it stands.
-/

namespace ShardedSql.Sql

open Numeric Text

/-- A node with unnamed parts. -/
def node (name : String) (parts : List String) : String :=
  name ++ "(" ++ joined ", " parts ++ ")"

/-- A node with named parts. -/
def record (name : String) (parts : List (String × String)) : String :=
  name ++ " \x7b " ++ joined ", " (parts.map fun (label, part) => label ++ ": " ++ part) ++ " \x7d"

def optionOutline : Option String → String
  | some part => node "Some" [part]
  | none => "None"

def boolOutline (b : Bool) : String :=
  if b then "true" else "false"

def nameOutline (name : Option String) : String :=
  optionOutline (name.map quoted)

def Span.outline (span : Span) : String :=
  record "Span" [("start", natText span.start), ("end", natText span.stop)]

def Literal.outline : Literal → String
  | .integer n => node "Integer" [intText n.toInt]
  | .float x => node "Float" [x.pointedText]
  | .string text => node "String" [quoted text]
  | .blob bytes => node "Blob" [listing (bytes.map fun b => natText b.toNat)]
  | .boolean b => node "Boolean" [boolOutline b]
  | .null => "Null"

def Placeholder.outline : Placeholder → String
  | .positional ordinal => node "Positional" [natText ordinal]
  | .named name => node "Named" [quoted name]

def BinaryOp.title : BinaryOp → String
  | .add => "Add" | .sub => "Sub" | .mul => "Mul" | .div => "Div" | .mod => "Mod"
  | .eq => "Eq" | .notEq => "NotEq" | .lt => "Lt" | .ltEq => "LtEq" | .gt => "Gt"
  | .gtEq => "GtEq" | .and => "And" | .or => "Or" | .concat => "Concat" | .like => "Like"
  | .notLike => "NotLike" | .bitAnd => "BitAnd" | .bitOr => "BitOr"
  | .leftShift => "LeftShift" | .rightShift => "RightShift"

def UnaryOp.title : UnaryOp → String
  | .neg => "Neg" | .not => "Not" | .bitNot => "BitNot"

def JoinKind.title : JoinKind → String
  | .inner => "Inner" | .left => "Left" | .right => "Right" | .full => "Full" | .cross => "Cross"

def Direction.title : Direction → String
  | .ascending => "Asc"
  | .descending => "Desc"

mutual

def Expr.outline : Expr → String
  | .literal value => node "Literal" [value.outline]
  | .column table name span =>
      record "Column"
        [("table", nameOutline table), ("name", quoted name), ("span", span.outline)]
  | .binary left op right =>
      record "Binary" [("left", left.outline), ("op", op.title), ("right", right.outline)]
  | .unary op operand => record "Unary" [("op", op.title), ("operand", operand.outline)]
  | .call function args distinct =>
      node "Function"
        [record "FunctionCall"
          [("name", quoted function), ("args", listing (listOutlines args)),
           ("distinct", boolOutline distinct)]]
  | .subquery query => node "Subquery" [query.outline]
  | .existence query negated =>
      record "Exists" [("query", query.outline), ("negated", boolOutline negated)]
  | .isNull operand negated =>
      record "IsNull" [("expr", operand.outline), ("negated", boolOutline negated)]
  | .inList operand items negated =>
      record "In"
        [("expr", operand.outline), ("list", listing (listOutlines items)),
         ("negated", boolOutline negated)]
  | .between operand low high negated =>
      record "Between"
        [("expr", operand.outline), ("low", low.outline), ("high", high.outline),
         ("negated", boolOutline negated)]
  | .choice subject branches otherwise =>
      record "Case"
        [("operand", match subject with | some e => node "Some" [e.outline] | none => "None"),
         ("when_clauses", listing (branchOutlines branches)),
         ("else_clause", match otherwise with | some e => node "Some" [e.outline] | none => "None")]
  | .cast operand typeName =>
      record "Cast" [("expr", operand.outline), ("type_name", quoted typeName)]
  | .paren inner => node "Paren" [inner.outline]
  | .placeholder place => node "Parameter" [place.outline]
  | .wildcard table => record "Wildcard" [("table", nameOutline table)]

def listOutlines : List Expr → List String
  | [] => []
  | e :: rest => e.outline :: listOutlines rest

def branchOutlines : List Branch → List String
  | [] => []
  | ⟨condition, result⟩ :: rest =>
      node "" [condition.outline, result.outline] :: branchOutlines rest

def itemOutlines : List SelectItem → List String
  | [] => []
  | ⟨e, label⟩ :: rest =>
      record "SelectColumn" [("expr", e.outline), ("alias", nameOutline label)]
        :: itemOutlines rest

def orderOutlines : List OrderItem → List String
  | [] => []
  | ⟨e, direction⟩ :: rest =>
      record "OrderBy" [("expr", e.outline), ("direction", direction.title)]
        :: orderOutlines rest

def TableRef.outline : TableRef → String
  | .table schema name label =>
      record "Table"
        [("schema", nameOutline schema), ("name", quoted name), ("alias", nameOutline label)]
  | .derived query label =>
      record "Subquery" [("query", query.outline), ("alias", nameOutline label)]
  | .join left kind right condition shared =>
      record "Join"
        [("left", left.outline),
         ("join", record "JoinClause"
           [("join_type", kind.title), ("table", right.outline),
            ("on", match condition with | some e => node "Some" [e.outline] | none => "None"),
            ("using", listing (shared.map quoted))])]

def Select.outline : Select → String
  | ⟨distinct, items, source, condition, groups, having, order, limit, offset⟩ =>
      record "SelectStatement"
        [("distinct", boolOutline distinct),
         ("columns", listing (itemOutlines items)),
         ("from", match source with | some t => node "Some" [t.outline] | none => "None"),
         ("where_clause",
           match condition with | some e => node "Some" [e.outline] | none => "None"),
         ("group_by", listing (listOutlines groups)),
         ("having", match having with | some e => node "Some" [e.outline] | none => "None"),
         ("order_by", listing (orderOutlines order)),
         ("limit", match limit with | some e => node "Some" [e.outline] | none => "None"),
         ("offset", match offset with | some e => node "Some" [e.outline] | none => "None")]

end

end ShardedSql.Sql
