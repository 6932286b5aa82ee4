import ReactiveScript.Fault

/-! # Operators

The four families of operators, their symbols, and the operator that a symbol names. -/

namespace ReactiveScript

/-- The arithmetic operators. -/
inductive BinaryOp where
  | add
  | sub
  | mul
  | div
  | mod
deriving DecidableEq, Repr, Inhabited

/-- The comparisons. -/
inductive CompareOp where
  | less
  | lessEqual
  | greater
  | greaterEqual
  | equal
  | notEqual
deriving DecidableEq, Repr, Inhabited

/-- The connectives of truth values. -/
inductive LogicalOp where
  | and
  | or
  | xor
deriving DecidableEq, Repr, Inhabited

/-- The operators of one operand. -/
inductive UnaryOp where
  | negate
  | not
deriving DecidableEq, Repr, Inhabited

/-- The symbol of an arithmetic operator. -/
def BinaryOp.symbol : BinaryOp → String
  | .add => "+"
  | .sub => "-"
  | .mul => "*"
  | .div => "/"
  | .mod => "%"

/-- The symbol of a comparison. -/
def CompareOp.symbol : CompareOp → String
  | .less => "<"
  | .lessEqual => "<="
  | .greater => ">"
  | .greaterEqual => ">="
  | .equal => "=="
  | .notEqual => "!="

/-- The symbol of a connective. -/
def LogicalOp.symbol : LogicalOp → String
  | .and => "&"
  | .or => "|"
  | .xor => "^"

/-- The symbol of an operator of one operand. -/
def UnaryOp.symbol : UnaryOp → String
  | .negate => "-"
  | .not => "!"

/-- The arithmetic operator of a bare symbol. -/
def BinaryOp.ofBare? : String → Option BinaryOp
  | "+" => some .add
  | "-" => some .sub
  | "*" => some .mul
  | "/" => some .div
  | "%" => some .mod
  | _ => none

/-- A symbol without the equals signs at its end. -/
def withoutEquals (symbol : String) : String :=
  String.ofList (symbol.toList.reverse.dropWhile (· = '=')).reverse

/-- The arithmetic operator of a symbol, which equals signs may follow. -/
def BinaryOp.ofSymbol (symbol : String) : Except Fault BinaryOp :=
  match BinaryOp.ofBare? (withoutEquals symbol) with
  | some op => .ok op
  | none => .error (Cause.unknownOperator "arithmetic" symbol).fault

/-- The comparison of a symbol. -/
def CompareOp.ofSymbol (symbol : String) : Except Fault CompareOp :=
  match symbol with
  | "<" => .ok .less
  | "<=" => .ok .lessEqual
  | ">" => .ok .greater
  | ">=" => .ok .greaterEqual
  | "==" => .ok .equal
  | "!=" => .ok .notEqual
  | _ => .error (Cause.unknownOperator "comparison" symbol).fault

/-- The connective of a symbol. -/
def LogicalOp.ofSymbol (symbol : String) : Except Fault LogicalOp :=
  match symbol with
  | "&" => .ok .and
  | "|" => .ok .or
  | "^" => .ok .xor
  | _ => .error (Cause.unknownOperator "logical" symbol).fault

end ReactiveScript
