import ReactiveScript.Parser.Statement
import ReactiveScript.Proofs.Grammar.Printer

/-! # Printing programs

A statement is printed as the words of its plainest form: bodies and alternatives in braces, the
statements of a case closed by a break, the fallback of a choice behind its cases, the type of a
loop variable and the parentheses around the name of a handler written out. How expressions are
printed is left open: `spell` gives the words of each. -/

namespace ReactiveScript

/-- A keyword as a word. -/
def Word.keyword (text : String) : Word := (.keyword, text)

/-- A name as a word. -/
def Word.name (text : String) : Word := (.identifier, text)

/-- Words in braces. -/
def braced (words : List Word) : List Word := .symbol "\x7b" :: (words ++ [.symbol "\x7d"])

/-- The words of an expression in parentheses, before others. -/
def parenthesizedWords (inner rest : List Word) : List Word :=
  .symbol "(" :: (inner ++ .symbol ")" :: rest)

theorem length_braced (words : List Word) : (braced words).length = words.length + 2 := by
  simp [braced]

theorem length_parenthesizedWords (inner rest : List Word) :
    (parenthesizedWords inner rest).length = inner.length + rest.length + 2 := by
  simp only [parenthesizedWords, List.length_cons, List.length_append]
  omega

/-- The words of a parameter. -/
def Param.words (param : Param) : List Word := param.type.words ++ [.name param.name]

/-- The words of the count between a loop's condition and its body, which is written only if it is
not zero. -/
def prerollWords (count : Nat) : List Word :=
  if count = 0 then [] else [.symbol ":", (.number, count.repr)]

/-- The words of the value that a declaration may give. -/
def initialWords (spell : Expr → List Word) : Option Expr → List Word
  | none => []
  | some value => .symbol "=" :: spell value

namespace Stmt

/-- Whether a statement is a declaration, an assignment or an expression. -/
def isSimple : Stmt → Bool
  | .expression .. | .declaration .. | .assignment .. | .compound .. | .element .. => true
  | _ => false

/-- The words of a declaration, an assignment or an expression, without the semicolon. -/
def simpleWords (spell : Expr → List Word) : Stmt → List Word
  | .expression _ value => spell value
  | .declaration _ type name value => type.words ++ .name name :: initialWords spell value
  | .assignment _ name value => .name name :: .symbol "=" :: spell value
  | .compound _ name op value => .name name :: .symbol (op.symbol ++ "=") :: spell value
  | .element _ target position value =>
    spell (.index .unknown target position) ++ .symbol "=" :: spell value
  | _ => []

mutual

/-- **The words of a statement.** -/
def words (spell : Expr → List Word) : Stmt → List Word
  | .function _ returns name params body =>
    returns.words ++ .name name ::
      parenthesizedWords (separated (params.map Param.words)) (braced (wordsOf spell body))
  | .leave _ none => [.keyword "return", .symbol ";"]
  | .leave _ (some value) => .keyword "return" :: (spell value ++ [.symbol ";"])
  | .raise _ value => .keyword "throw" :: (spell value ++ [.symbol ";"])
  | .load _ path none => [.keyword "import", (.text, path), .symbol ";"]
  | .load _ path (some label) =>
    [.keyword "import", (.text, path), .keyword "as", .name label, .symbol ";"]
  | .branch _ condition thenBody none =>
    .keyword "if" :: parenthesizedWords (spell condition) (braced (wordsOf spell thenBody))
  | .branch _ condition thenBody (some elseBody) =>
    .keyword "if" :: parenthesizedWords (spell condition)
      (braced (wordsOf spell thenBody) ++ .keyword "else" :: braced (wordsOf spell elseBody))
  | .whileLoop _ condition preroll body =>
    .keyword "while" :: parenthesizedWords (spell condition)
      (prerollWords preroll ++ braced (wordsOf spell body))
  | .untilLoop _ condition preroll body =>
    .keyword "until" :: parenthesizedWords (spell condition)
      (prerollWords preroll ++ braced (wordsOf spell body))
  | .forLoop _ first condition step body =>
    .keyword "for" :: parenthesizedWords
      (first.simpleWords spell ++ .symbol ";" :: (spell condition ++ .symbol ";" ::
        step.simpleWords spell))
      (braced (wordsOf spell body))
  | .forEach _ type name iterable body =>
    .keyword "for" :: parenthesizedWords
      (type.words ++ .name name :: .keyword "in" :: spell iterable) (braced (wordsOf spell body))
  | .choice _ subject cases none =>
    .keyword "switch" :: parenthesizedWords (spell subject) (braced (caseWords spell cases))
  | .choice _ subject cases (some fallback) =>
    .keyword "switch" :: parenthesizedWords (spell subject)
      (braced (caseWords spell cases ++ .keyword "default" :: .symbol ":" ::
        (wordsOf spell fallback ++ [.keyword "break", .symbol ";"])))
  | .signal _ name => [.keyword "signal", .name name, .symbol ";"]
  | .emit _ name => [.keyword "emit", .name name, .symbol ";"]
  | .when _ name body =>
    .keyword "when" :: parenthesizedWords [.name name] (braced (wordsOf spell body))
  | .watch _ name body =>
    .keyword "watch" :: parenthesizedWords [.name name] (braced (wordsOf spell body))
  | statement => statement.simpleWords spell ++ [.symbol ";"]

/-- The words of some statements. -/
def wordsOf (spell : Expr → List Word) : List Stmt → List Word
  | [] => []
  | first :: rest => words spell first ++ wordsOf spell rest

/-- The words of the cases of a choice. -/
def caseWords (spell : Expr → List Word) : List (Case Stmt) → List Word
  | [] => []
  | ⟨_, label, body⟩ :: rest =>
    .keyword "case" :: (spell label ++ .symbol ":" ::
      (wordsOf spell body ++ .keyword "break" :: .symbol ";" :: caseWords spell rest))

end

/-! ## Trees without places -/

mutual

/-- A statement without the places in it. -/
def bare : Stmt → Stmt
  | .expression _ value => .expression .unknown value.bare
  | .declaration _ type name value => .declaration .unknown type name (value.map Expr.bare)
  | .assignment _ name value => .assignment .unknown name value.bare
  | .compound _ name op value => .compound .unknown name op value.bare
  | .element _ target position value => .element .unknown target.bare position.bare value.bare
  | .function _ returns name params body => .function .unknown returns name params (bareAll body)
  | .leave _ value => .leave .unknown (value.map Expr.bare)
  | .raise _ value => .raise .unknown value.bare
  | .load _ path label => .load .unknown path label
  | .branch _ condition thenBody none => .branch .unknown condition.bare (bareAll thenBody) none
  | .branch _ condition thenBody (some elseBody) =>
    .branch .unknown condition.bare (bareAll thenBody) (some (bareAll elseBody))
  | .whileLoop _ condition preroll body =>
    .whileLoop .unknown condition.bare preroll (bareAll body)
  | .untilLoop _ condition preroll body =>
    .untilLoop .unknown condition.bare preroll (bareAll body)
  | .forLoop _ first condition step body =>
    .forLoop .unknown (bare first) condition.bare (bare step) (bareAll body)
  | .forEach _ type name iterable body =>
    .forEach .unknown type name iterable.bare (bareAll body)
  | .choice _ subject cases none => .choice .unknown subject.bare (bareCases cases) none
  | .choice _ subject cases (some fallback) =>
    .choice .unknown subject.bare (bareCases cases) (some (bareAll fallback))
  | .signal _ name => .signal .unknown name
  | .emit _ name => .emit .unknown name
  | .when _ name body => .when .unknown name (bareAll body)
  | .watch _ name body => .watch .unknown name (bareAll body)

/-- Some statements without the places in them. -/
def bareAll : List Stmt → List Stmt
  | [] => []
  | first :: rest => bare first :: bareAll rest

/-- The cases of a choice without the places in them. -/
def bareCases : List (Case Stmt) → List (Case Stmt)
  | [] => []
  | ⟨_, label, body⟩ :: rest => ⟨.unknown, label.bare, bareAll body⟩ :: bareCases rest

end

/-! ## What can be printed -/

mutual

/-- The expressions of a statement as they are printed; the place of an element is printed as one
expression. -/
def expressions : Stmt → List Expr
  | .expression _ value => [value]
  | .declaration _ _ _ value => value.toList
  | .assignment _ _ value => [value]
  | .compound _ _ _ value => [value]
  | .element _ target position value => [.index .unknown target position, value]
  | .function _ _ _ _ body => expressionsOf body
  | .leave _ value => value.toList
  | .raise _ value => [value]
  | .branch _ condition thenBody none => condition :: expressionsOf thenBody
  | .branch _ condition thenBody (some elseBody) =>
    condition :: (expressionsOf thenBody ++ expressionsOf elseBody)
  | .whileLoop _ condition _ body => condition :: expressionsOf body
  | .untilLoop _ condition _ body => condition :: expressionsOf body
  | .forLoop _ first condition step body =>
    expressions first ++ condition :: (expressions step ++ expressionsOf body)
  | .forEach _ _ _ iterable body => iterable :: expressionsOf body
  | .choice _ subject cases none => subject :: caseExpressions cases
  | .choice _ subject cases (some fallback) =>
    subject :: (caseExpressions cases ++ expressionsOf fallback)
  | .when _ _ body => expressionsOf body
  | .watch _ _ body => expressionsOf body
  | .load .. | .signal .. | .emit .. => []

/-- The expressions of some statements. -/
def expressionsOf : List Stmt → List Expr
  | [] => []
  | first :: rest => expressions first ++ expressionsOf rest

/-- The expressions of the cases of a choice. -/
def caseExpressions : List (Case Stmt) → List Expr
  | [] => []
  | ⟨_, label, body⟩ :: rest => label :: (expressionsOf body ++ caseExpressions rest)

end

end Stmt

mutual

/-- Whether no range anywhere in an expression has a step. -/
def Expr.isStepless : Expr → Bool
  | .literal .. | .var .. => true
  | .binary _ _ left right => left.isStepless && right.isStepless
  | .logical _ _ left right => left.isStepless && right.isStepless
  | .comparison _ _ left right => left.isStepless && right.isStepless
  | .unary _ _ operand => operand.isStepless
  | .cast _ _ operand => operand.isStepless
  | .call _ _ arguments => Expr.areStepless arguments
  | .range _ first last none _ => first.isStepless && last.isStepless
  | .range _ _ _ (some _) _ => false
  | .list _ items => Expr.areStepless items
  | .dict _ entries => Expr.entriesStepless entries
  | .index _ target position => target.isStepless && position.isStepless

/-- Whether no range in some expressions has a step. -/
def Expr.areStepless : List Expr → Bool
  | [] => true
  | first :: rest => first.isStepless && Expr.areStepless rest

/-- Whether no range in the entries of a dictionary has a step. -/
def Expr.entriesStepless : List (Expr × Expr) → Bool
  | [] => true
  | (key, value) :: rest => key.isStepless && value.isStepless && Expr.entriesStepless rest

end

namespace Stmt

mutual

/-- Whether a statement can be printed: its types are types, the clauses of its loops are simple,
counts are small enough to be read, and the labels of its cases take no step. -/
def isPrintable : Stmt → Bool
  | .declaration _ type _ _ => type.isKnown
  | .function _ returns _ params body =>
    returns.isKnown && params.all (·.type.isKnown) && arePrintable body
  | .branch _ _ thenBody none => arePrintable thenBody
  | .branch _ _ thenBody (some elseBody) => arePrintable thenBody && arePrintable elseBody
  | .whileLoop _ _ preroll body => preroll < prerollBound && arePrintable body
  | .untilLoop _ _ preroll body => preroll < prerollBound && arePrintable body
  | .forLoop _ first _ step body =>
    first.isSimple && step.isSimple && isPrintable first && isPrintable step && arePrintable body
  | .forEach _ type _ _ body => type.isKnown && arePrintable body
  | .choice _ _ cases none => casesPrintable cases
  | .choice _ _ cases (some fallback) => casesPrintable cases && arePrintable fallback
  | .when _ _ body => arePrintable body
  | .watch _ _ body => arePrintable body
  | _ => true

/-- Whether some statements can be printed. -/
def arePrintable : List Stmt → Bool
  | [] => true
  | first :: rest => isPrintable first && arePrintable rest

/-- Whether the cases of a choice can be printed. -/
def casesPrintable : List (Case Stmt) → Bool
  | [] => true
  | ⟨_, label, body⟩ :: rest => label.isStepless && arePrintable body && casesPrintable rest

end

end Stmt

end ReactiveScript
