import StatementReader.Grammar.Rule

/-!
# The statement grammar

The rules of the language:

* a statement is a definition of a `val`, a `var` or a `def`, an `import`, or an expression;
* a type is a dotted path with optional arguments, or a list of types in parentheses, and an arrow
  leads to the result type of a function;
* an expression is a conditional, a loop, a function literal, or a row of operands with operators
  between them, which an assignment may follow. An identifier between two operands is an operator.

A line break ends a statement at the top level and inside the braces of a block, and nowhere else:
inside parentheses, square brackets and the braces of an import it is blank space. It also counts as
blank space where the grammar asks for a certain token next, as after an operator.

`Rule.construct` gives the body of the two constructs that contain themselves, and `read` ties the
knot with a budget of `maxNesting` levels.
-/

namespace StatementReader
namespace Rule

/-- The mark of a bracket, a separator or an arrow. -/
def openParen : Text := ['(']
@[inherit_doc openParen] def closeParen : Text := [')']
@[inherit_doc openParen] def openBracket : Text := ['[']
@[inherit_doc openParen] def closeBracket : Text := [']']
@[inherit_doc openParen] def openBrace : Text := ['\x7b']
@[inherit_doc openParen] def closeBrace : Text := ['\x7d']
@[inherit_doc openParen] def comma : Text := [',']
@[inherit_doc openParen] def semicolon : Text := [';']
@[inherit_doc openParen] def dot : Text := ['.']
@[inherit_doc openParen] def colon : Text := [':']
@[inherit_doc openParen] def equals : Text := ['=']
@[inherit_doc openParen] def arrow : Text := ['=', '>']

/-- A type, one level deeper. -/
def type : Rule := call .type

/-- An expression, one level deeper. -/
def expr : Rule := call .expr

/-! ### Types -/

/-- Type arguments, `[T, U]`. -/
def typeArgs : Rule :=
  opening openBracket false >> commaSeparated type >> closing closeBracket

/-- A function type with a list of parameter types, `(T, U) => R`. -/
def functionType : Rule :=
  opening openParen false >>
  optional (.no (.mark closeParen)) (commaSeparated type) >>
  closing closeParen >> mark arrow >> type

/-- A named type with its arguments, and the result type if it is that of a function,
`a.b[T] => R`. -/
def namedType : Rule :=
  branch .ident token (refuse .type) >>
  repeatWhile (.mark dot) (token >> ident) >>
  optional (.mark openBracket) typeArgs >>
  optional (.mark arrow) (token >> type)

/-- The body of a type. -/
def typeBody : Rule := branch (.mark openParen) functionType namedType

/-- A type ascription `: T`, or nothing. -/
def typeAscription : Rule := optional (.mark colon) (token >> type)

/-! ### Definitions -/

/-- What a `val` binds, `x` or `(x, y)`. -/
def pattern : Rule :=
  branch (.mark openParen)
    (opening openParen false >> commaSeparated ident >> closing closeParen)
    ident

/-- The parameters of a `def`, `(x: T, y: U)`. -/
def params : Rule :=
  opening openParen false >>
  optional (.no (.mark closeParen)) (commaSeparated (ident >> mark colon >> type)) >>
  closing closeParen

/-- The right-hand side of a definition, `= e`. -/
def definiens : Rule := mark equals >> expr

/-- The braces at the end of an import. -/
def importGroup : Rule :=
  opening openBrace false >> commaSeparated ident >> closing closeBrace

/-- A path `a.b.c`, or a path with a group of names in braces after its last point. -/
def importPath : Rule :=
  ident >>
  repeatWhile (.markNotBefore dot openBrace) (token >> ident) >>
  optional (.mark dot) (token >> importGroup)

/-- A statement. -/
def statement : Rule :=
  branch (.keyword "val".toList) (token >> pattern >> typeAscription >> definiens) <|
  branch (.keyword "var".toList) (token >> ident >> typeAscription >> definiens) <|
  branch (.keyword "def".toList)
    (token >> ident >> optional (.mark openParen) params >> typeAscription >> definiens) <|
  branch (.keyword "import".toList) (token >> importPath) expr

/-! ### Expressions -/

/-- Any number of semicolons. -/
def semicolons : Rule := repeatWhile (.mark semicolon) token

/-- The statements between braces. -/
def block : Rule :=
  opening openBrace true >> semicolons >>
  repeatWhile (.no (.mark closeBrace))
    (statement >>
      endOfStatement (.either (.mark semicolon) (.mark closeBrace)) .blockSeparator >>
      semicolons) >>
  closing closeBrace

/-- Arguments, or a tuple, `(e, f)`. -/
def args : Rule :=
  opening openParen false >>
  optional (.no (.mark closeParen)) (commaSeparated expr) >>
  closing closeParen

/-- The condition of a conditional or a loop, `(e)`. -/
def condition : Rule := opening openParen false >> expr >> closing closeParen

/-- An object creation, `new T` or `new T(e)`. -/
def construction : Rule :=
  token >> type >> optional (.sameLine (.mark openParen)) args

/-- An operand without what may follow it. -/
def primary : Rule :=
  branch .literal token <|
  branch .ident token <|
  branch (.either (.keyword "this".toList) (.keyword "super".toList)) token <|
  branch (.keyword "new".toList) construction <|
  branch (.mark openParen) args <|
  branch (.mark openBrace) block (refuse .expression)

/-- A member access, arguments, type arguments or a block after an operand, on the same line. -/
def trailer : Rule :=
  branch (.mark dot) (token >> ident) <|
  branch (.mark openParen) args <|
  branch (.mark openBracket) typeArgs block

/-- What a trailer begins with. -/
def trailerStart : Look :=
  .sameLine (.either (.either (.mark dot) (.mark openParen))
    (.either (.mark openBracket) (.mark openBrace)))

/-- An operand and what follows it. -/
def operand : Rule := primary >> repeatWhile trailerStart trailer

/-- An operand that a sign may precede. -/
def signedOperand : Rule := optional .sign token >> operand

/-- Operands with operators between them. -/
def operation : Rule :=
  signedOperand >> repeatWhile (.sameLine .infixOperator) (token >> signedOperand)

/-- The body of an expression. -/
def exprBody : Rule :=
  branch (.keyword "if".toList)
    (token >> condition >> expr >> optional (.keyword "else".toList) (token >> expr)) <|
  branch (.keyword "while".toList) (token >> condition >> expr) <|
  branch .lambda (token >> token >> expr)
    (operation >> optional (.sameLine (.mark equals)) (token >> expr))

/-! ### Nesting -/

/-- The body of a construct that contains itself. -/
def construct : Construct → Rule
  | .type => typeBody
  | .expr => exprBody

/-- Types and expressions may be nested this deeply in one another. -/
def maxNesting : Nat := 256

/-- Reads a construct with a budget of levels. -/
def read : Nat → Construct → Production
  | 0, _ => fun s => .error (s.stop .shallowerNesting)
  | levels + 1, c => run (read levels) (construct c)

/-- Reads one statement at the top level. -/
def readStatement : Production := run (read maxNesting) statement

end Rule
end StatementReader
