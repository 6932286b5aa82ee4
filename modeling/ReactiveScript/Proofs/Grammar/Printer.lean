import ReactiveScript.Parser.Expression
import ReactiveScript.Proofs.Token.Spelling

/-! # Printing expressions

An expression is printed as the words of a source, without their places. Every expression has a
layer of the grammar, and every place in which one stands asks for a layer; an expression whose
layer is looser than that stands in parentheses there, and no other does. -/

namespace ReactiveScript

/-! ## Layers -/

/-- The layers in order, the loosest first. -/
def Level.rank : Level → Nat
  | .either => 0
  | .both => 1
  | .equality => 2
  | .order => 3
  | .range => 4
  | .sum => 5
  | .product => 6
  | .unary => 7
  | .indexed => 8
  | .primary => 9

/-- The layer of an arithmetic operator. -/
def BinaryOp.level : BinaryOp → Level
  | .add | .sub => .sum
  | .mul | .div | .mod => .product

/-- The layer of a comparison. -/
def CompareOp.level : CompareOp → Level
  | .equal | .notEqual => .equality
  | _ => .order

/-- The layer of a connective. -/
def LogicalOp.level : LogicalOp → Level
  | .and => .both
  | .or | .xor => .either

/-- The layer of an expression. -/
def Expr.level : Expr → Level
  | .binary _ op .. => op.level
  | .logical _ op .. => op.level
  | .comparison _ op .. => op.level
  | .unary .. => .unary
  | .cast .. => .unary
  | .range .. => .range
  | .index .. => .indexed
  | _ => .primary

/-! ## Words -/

/-- The words of a type; containers of anything are written without their parameters. -/
def Ty.words : Ty → List Word
  | .any => [.symbol "?"]
  | .list element =>
    if element.isAny then [(.keyword, "list")]
    else (.keyword, "list") :: .symbol "<" :: (element.words ++ [.symbol ">"])
  | .dict key value =>
    if key.isAny && value.isAny then [(.keyword, "dict")]
    else (.keyword, "dict") :: .symbol "<" ::
      (key.words ++ .symbol "," :: (value.words ++ [.symbol ">"]))
  | type => [(.keyword, type.render)]

/-- The word of a literal. Only integers that are not negative, truth values and texts have one. -/
def Literal.word : Literal → Word
  | .int n => (.number, n.toInt.toNat.repr)
  | .boolean b => (.keyword, if b then "true" else "false")
  | .text s => (.text, s)
  | _ => .symbol ""

/-- The symbol of a range. -/
def rangeSymbol (inclusive : Bool) : String := if inclusive then "..." else ".."

/-- The words of an expression where a layer is asked for: in parentheses if the expression is
looser. -/
def Expr.enclose (position : Level) (expression : Expr) (words : List Word) : List Word :=
  if expression.level.rank < position.rank then .symbol "(" :: (words ++ [.symbol ")"]) else words

/-- Some groups of words with commas between them. -/
def separated : List (List Word) → List Word
  | [] => []
  | [words] => words
  | words :: next :: rest => words ++ .symbol "," :: separated (next :: rest)

mutual

/-- **The words of an expression.** -/
def Expr.words : Expr → List Word
  | .literal _ value => [value.word]
  | .var _ name => [(.identifier, name)]
  | .binary _ op left right =>
    left.enclose op.level left.words ++
      .symbol op.symbol :: right.enclose op.level.tighter right.words
  | .logical _ op left right =>
    left.enclose op.level left.words ++
      .symbol op.symbol :: right.enclose op.level.tighter right.words
  | .comparison _ op left right =>
    left.enclose op.level left.words ++
      .symbol op.symbol :: right.enclose op.level.tighter right.words
  | .unary _ op operand => .symbol op.symbol :: operand.enclose .unary operand.words
  | .cast _ target operand => target.words ++ .symbol "->" :: operand.enclose .unary operand.words
  | .call _ function arguments =>
    (.identifier, function) :: .symbol "(" ::
      (separated (Expr.groups arguments) ++ [.symbol ")"])
  | .range _ first last none inclusive =>
    first.enclose .sum first.words ++
      .symbol (rangeSymbol inclusive) :: last.enclose .sum last.words
  | .range _ first last (some step) inclusive =>
    first.enclose .sum first.words ++ .symbol (rangeSymbol inclusive) ::
      (last.enclose .sum last.words ++ .symbol ":" :: step.enclose .sum step.words)
  | .list _ items => .symbol "[" :: (separated (Expr.groups items) ++ [.symbol "]"])
  | .dict _ entries =>
    .symbol "\x7b" :: (separated (Expr.entryGroups entries) ++ [.symbol "\x7d"])
  | .index _ target position =>
    target.enclose .indexed target.words ++ .symbol "[" :: (position.words ++ [.symbol "]"])

/-- The words of each of some expressions. -/
def Expr.groups : List Expr → List (List Word)
  | [] => []
  | first :: rest => first.words :: Expr.groups rest

/-- The words of each of some entries of a dictionary. -/
def Expr.entryGroups : List (Expr × Expr) → List (List Word)
  | [] => []
  | (key, value) :: rest =>
    (key.words ++ .symbol ":" :: value.words) :: Expr.entryGroups rest

end

/-! ## Trees without places -/

mutual

/-- An expression without the places in it. -/
def Expr.bare : Expr → Expr
  | .literal _ value => .literal .unknown value
  | .var _ name => .var .unknown name
  | .binary _ op left right => .binary .unknown op left.bare right.bare
  | .logical _ op left right => .logical .unknown op left.bare right.bare
  | .comparison _ op left right => .comparison .unknown op left.bare right.bare
  | .unary _ op operand => .unary .unknown op operand.bare
  | .cast _ target operand => .cast .unknown target operand.bare
  | .call _ function arguments => .call .unknown function (Expr.bareAll arguments)
  | .range _ first last none inclusive => .range .unknown first.bare last.bare none inclusive
  | .range _ first last (some step) inclusive =>
    .range .unknown first.bare last.bare (some step.bare) inclusive
  | .list _ items => .list .unknown (Expr.bareAll items)
  | .dict _ entries => .dict .unknown (Expr.bareEntries entries)
  | .index _ target position => .index .unknown target.bare position.bare

/-- Some expressions without the places in them. -/
def Expr.bareAll : List Expr → List Expr
  | [] => []
  | first :: rest => first.bare :: Expr.bareAll rest

/-- The entries of a dictionary without the places in them. -/
def Expr.bareEntries : List (Expr × Expr) → List (Expr × Expr)
  | [] => []
  | (key, value) :: rest => (key.bare, value.bare) :: Expr.bareEntries rest

end

/-! ## What can be printed -/

/-- Whether no name in a type is the name of no type. -/
def Ty.isKnown : Ty → Bool
  | .unknown _ => false
  | .list element => element.isKnown
  | .dict key value => key.isKnown && value.isKnown
  | _ => true

/-- Whether a literal has a word. -/
def Literal.isPrintable : Literal → Bool
  | .int n => 0 ≤ n.toInt
  | .boolean _ => true
  | .text _ => true
  | _ => false

mutual

/-- Whether an expression can be printed; `stepped` says whether ranges in it may have a step, which
they may not have anywhere in the key of a dictionary. -/
def Expr.isPrintable (stepped : Bool) : Expr → Bool
  | .literal _ value => value.isPrintable
  | .var .. => true
  | .binary _ _ left right => left.isPrintable stepped && right.isPrintable stepped
  | .logical _ _ left right => left.isPrintable stepped && right.isPrintable stepped
  | .comparison _ _ left right => left.isPrintable stepped && right.isPrintable stepped
  | .unary _ _ operand => operand.isPrintable stepped
  | .cast _ target operand => target.isKnown && operand.isPrintable stepped
  | .call _ _ arguments => Expr.arePrintable stepped arguments
  | .range _ first last none _ => first.isPrintable stepped && last.isPrintable stepped
  | .range _ first last (some step) _ =>
    stepped && first.isPrintable stepped && last.isPrintable stepped && step.isPrintable stepped
  | .list _ items => Expr.arePrintable stepped items
  | .dict _ entries => Expr.entriesPrintable stepped entries
  | .index _ target position => target.isPrintable stepped && position.isPrintable stepped

/-- Whether some expressions can be printed. -/
def Expr.arePrintable (stepped : Bool) : List Expr → Bool
  | [] => true
  | first :: rest => first.isPrintable stepped && Expr.arePrintable stepped rest

/-- Whether the entries of a dictionary can be printed. -/
def Expr.entriesPrintable (stepped : Bool) : List (Expr × Expr) → Bool
  | [] => true
  | (key, value) :: rest =>
    key.isPrintable false && value.isPrintable stepped && Expr.entriesPrintable stepped rest

end

end ReactiveScript
