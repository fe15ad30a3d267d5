import StatementReader.Completion.Reply

/-!
# The symbols of a session

An oracle that knows the reserved words, two built-in objects with their members, and the names
that earlier statements defined. After a point it completes the members of the object before the
point, and elsewhere every name it knows. The cursor on a name whose latest definition was a `def`
is answered with the header of that definition.
-/

namespace StatementReader

/-- The built-in objects, each with the names and signatures of its members. -/
def builtinMembers : List (Text × List (Text × Text)) :=
  [("math".toList,
    [("abs".toList, "def abs(x: Int): Int".toList),
     ("max".toList, "def max(a: Int, b: Int): Int".toList),
     ("min".toList, "def min(a: Int, b: Int): Int".toList),
     ("pow".toList, "def pow(x: Double, y: Double): Double".toList),
     ("sqrt".toList, "def sqrt(x: Double): Double".toList)]),
   ("console".toList,
    [("print".toList, "def print(x: Any): Unit".toList),
     ("println".toList, "def println(x: Any): Unit".toList),
     ("readLine".toList, "def readLine(): String".toList)])]

/-- The names that statements have defined, in ascending order, each with the header of its latest
definition if that was a `def`. -/
structure Symbols where
  names : List (Text × Option Text)
  deriving DecidableEq, Repr

namespace Symbols

/-- Nothing defined. -/
def empty : Symbols := ⟨[]⟩

/-- A name has been defined. -/
def knows (s : Symbols) (name : Text) : Bool := s.names.any (·.1 == name)

/-- The header of the latest definition of a name. -/
def header? (s : Symbols) (name : Text) : Option Text :=
  (s.names.find? (·.1 == name)).bind (·.2)

/-- Puts a name at its place, or gives it a new header. -/
def insertName (name : Text) (header : Option Text) :
    List (Text × Option Text) → List (Text × Option Text)
  | [] => [(name, header)]
  | (n, h) :: names =>
    if name = n then (name, header) :: names
    else if name < n then (name, header) :: (n, h) :: names
    else (n, h) :: insertName name header names

/-- The offset of the first `=` outside parentheses and square brackets. The brackets are counted
and not matched, so a stray one shifts the count. -/
def definiensStart? (depth : Int) : List Lexeme → Option Nat
  | [] => none
  | l :: lexemes =>
    if l.text = ['('] ∨ l.text = ['['] then definiensStart? (depth + 1) lexemes
    else if l.text = [')'] ∨ l.text = [']'] then definiensStart? (depth - 1) lexemes
    else if l.text = ['='] ∧ depth = 0 then some l.start
    else definiensStart? depth lexemes

/-- Records the name that a `val`, `var` or `def` statement introduces. -/
def learn (s : Symbols) (statement : Text) : Symbols :=
  match (Lexeme.scan statement).filter (·.kind ≠ .comment) with
  | keyword :: name :: lexemes =>
    if keyword.kind = .keyword ∧ keyword.text ∈ ["val", "var", "def"].map String.toList
        ∧ name.kind = .ident then
      let stop := (definiensStart? 0 lexemes).getD (Text.size statement)
      let header :=
        if keyword.text = "def".toList then some (Text.trimEnd (Text.upTo stop statement))
        else none
      ⟨insertName name.text header s.names⟩
    else s
  | _ => s

/-- The identifier characters at the end of a text. -/
def partialWord (t : Text) : Text := (t.reverse.takeWhile Text.isWordChar).reverse

/-- What stands before the identifier characters at the end of a text. -/
def beforeWord (t : Text) : Text := (t.reverse.dropWhile Text.isWordChar).reverse

/-- The members of a built-in object, and none of anything else. -/
def membersOf (object : Text) : List (Text × Text) :=
  ((builtinMembers.find? (·.1 == object)).map (·.2)).getD []

/-- Everything that may be completed where no point precedes. -/
def allNames (s : Symbols) : List Text :=
  Lexeme.keywords ++ builtinMembers.map (·.1) ++ s.names.map (·.1)

/-- The answer of the oracle. -/
def oracle (s : Symbols) : Oracle := fun cursor t =>
  let before := Text.upTo cursor t
  let word := partialWord before
  let head := beforeWord before
  if head.getLast? = some '.' then
    let members := membersOf (partialWord head.dropLast)
    ⟨Text.size head, (members.map (·.1)).filter word.isPrefixOf,
      (members.filter (·.1 == word)).map (·.2)⟩
  else if word = [] then ⟨Text.size head, [], []⟩
  else ⟨Text.size head, s.allNames.filter word.isPrefixOf, (s.header? word).toList⟩

end Symbols

end StatementReader
