import NodeLint.Source.Syntax
import NodeLint.Text.Words

/-!
# Members of a class

The functions directly in the body of a class, classified by their names and decorators. Only
plain public instance methods have to be decorated. A decorator qualifies if it is one of the
wanted names, bare or called; what it is called with does not matter.
-/

namespace NodeLint

open Source

/-- What a member is for. -/
inductive MemberKind where
  | method
  | constructor
  | getter
  | setter
  /-- A hook of a protocol, with two underscores on both sides. -/
  | special
deriving Repr, DecidableEq

/-- The word for a kind. -/
def MemberKind.text : MemberKind → String
  | .method => "method"
  | .constructor => "constructor"
  | .getter => "getter"
  | .setter => "setter"
  | .special => "special"

/-- Who may use a member, by the underscores of its name. -/
inductive Visibility where
  | everyone
  | subclasses
  | ownClass
deriving Repr, DecidableEq

/-- The word for a visibility. -/
def Visibility.text : Visibility → String
  | .everyone => "public"
  | .subclasses => "protected"
  | .ownClass => "private"

/-- The shape of a decorator. -/
inductive DecoratorForm where
  | bare
  | call
  | other
deriving Repr, DecidableEq

/-- The word for a shape. -/
def DecoratorForm.text : DecoratorForm → String
  | .bare => "bare"
  | .call => "call"
  | .other => "other"

/-- A decorator: its shape and, unless the shape is `other`, the name it refers to. -/
structure Decorator where
  form : DecoratorForm
  name : Option String
deriving Repr, DecidableEq

/-- The decorator an expression is. -/
def Decorator.ofExpr : Expr → Decorator
  | .name id _ => ⟨.bare, some id⟩
  | .call (.name id _) _ => ⟨.call, some id⟩
  | _ => ⟨.other, none⟩

/-- Whether a decorator is one of the wanted names. -/
def Decorator.isOneOf (names : List String) (d : Decorator) : Bool :=
  d.form ≠ .other && d.name.any names.contains

/-- The names joined by dots that an expression consists of. -/
def dottedName? : Expr → Option String
  | .name id _ => some id
  | .attribute value attr _ => (dottedName? value).map fun n => n ++ "." ++ attr
  | _ => none

/-- A name with two underscores on both sides and something between. -/
def isDunder (name : String) : Bool :=
  name.toList.length > 4 && Text.startsWith name "__" && Text.endsWith name "__"

/-- A name that is private to its class: two underscores in front and not behind. -/
def isMangled (name : String) : Bool :=
  Text.startsWith name "__" && !Text.endsWith name "__"

/-- Who may use a member with this name. -/
def Visibility.ofName (name : String) : Visibility :=
  if isMangled name then .ownClass
  else if Text.startsWith name "_" && !isDunder name then .subclasses
  else .everyone

def constructorNames : List String := ["__init__", "__new__"]
def getterDecorators : List String := ["property", "cached_property", "functools.cached_property"]
def staticDecorators : List String := ["staticmethod", "classmethod"]

/-- The kind that a dotted decorator gives a member, if it gives one. -/
def MemberKind.ofDecorator? (dotted : String) : Option MemberKind :=
  if getterDecorators.contains dotted || Text.endsWith dotted ".getter" then some .getter
  else if Text.endsWith dotted ".setter" || Text.endsWith dotted ".deleter" then some .setter
  else none

/-- The kind of a member by its name and its dotted decorators; the first that decides wins. -/
def MemberKind.of (name : String) (dotted : List String) : MemberKind :=
  if constructorNames.contains name then .constructor
  else match dotted.findSome? MemberKind.ofDecorator? with
    | some k => k
    | none => if isDunder name then .special else .method

/-- What a class or a member without a name is called. -/
def classDisplayName (name : String) : String := if name = "" then "(anonymous)" else name
def memberDisplayName (name : String) : String := if name = "" then "(computed)" else name

/-- A member of a class. -/
structure Member where
  name : String
  kind : MemberKind
  isStatic : Bool
  visibility : Visibility
  isMangled : Bool
  decorators : List Decorator
  span : Span
deriving Repr, DecidableEq

namespace Member

/-- The member that a function with this name and these decorators is. -/
def ofFunction (name : String) (decorators : List Expr) (span : Span) : Member :=
  let dotted := decorators.filterMap dottedName?
  { name := memberDisplayName name
    kind := MemberKind.of name dotted
    isStatic := dotted.any staticDecorators.contains
    visibility := Visibility.ofName name
    isMangled := NodeLint.isMangled name
    decorators := decorators.map Decorator.ofExpr
    span := span }

/-- The member that a statement in the body of a class is. -/
def ofStmt? (s : Stmt) : Option Member :=
  match s.form with
  | .function name decorators => some (ofFunction name decorators s.span)
  | _ => none

/-- The members of a class, in the order of its body. -/
def ofClass (s : Stmt) : List Member := s.body.filterMap ofStmt?

/-- Whether a member has to be decorated. -/
def isCheckable (m : Member) : Bool :=
  m.kind = .method && !m.isStatic && m.visibility = .everyone && !m.isMangled

/-- Whether a member carries one of the wanted decorators. -/
def qualifies (names : List String) (m : Member) : Bool :=
  m.decorators.any (Decorator.isOneOf names)

end Member

/-- The decorators that make a method part of the interface, or hide it. -/
def qualifyingDecorators : List String := ["edge", "method", "hidden"]

end NodeLint
