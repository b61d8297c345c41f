import NodeLint.Template
import NodeLint.Text.Blank
import NodeLint.Text.Case

/-!
# Rules

What is known about a rule apart from its check: how it is called, what kind of rule it is, and
the templates of its messages. There is one rule.
-/

namespace NodeLint

/-- Kinds of rules. -/
inductive RuleType where
  | problem
  | suggestion
  | layout
deriving Repr, DecidableEq

namespace RuleType

def all : List RuleType := [.problem, .suggestion, .layout]

/-- The word for a kind. -/
def text : RuleType → String
  | .problem => "problem"
  | .suggestion => "suggestion"
  | .layout => "layout"

/-- The kind with a word. -/
def ofText? (s : String) : Option RuleType := all.find? fun t => t.text = s

end RuleType

/-- A rule: its code, its name, and its description. `hasOptions` says whether it can be
configured beyond its severity. -/
structure Rule where
  code : String
  name : String
  type : RuleType
  description : String
  messages : List (String × String)
  docsUrl : Option String
  hasOptions : Bool
deriving Repr, DecidableEq

namespace Rule

/-- The template for a method without a decorator. -/
def missingDecorator : String := "missing-decorator"

/-- Public methods of direct subclasses of the tracked class need a decorator. -/
def requireDecorator : Rule where
  code := "GPC001"
  name := "require-decorator"
  type := .problem
  description := "Require @edge, @method, or @hidden on public methods of Node subclasses"
  messages := [(missingDecorator,
    "Public method \"\x7bname\x7d\" on Node subclass \"\x7bclass_name\x7d\" must be decorated " ++
    "with @edge, @method, or @hidden. Undecorated methods are rejected at runtime.")]
  docsUrl := some "https://github.com/zenazn/graphpc/blob/main/docs/type-checking.md"
  hasOptions := false

/-- All rules. -/
def all : List Rule := [requireDecorator]

/-- The codes of all rules. -/
def codes : List String := all.map Rule.code

/-- Look a rule up by its code or its name, in any case and with blanks around it. -/
def find? (identifier : String) : Option Rule :=
  let wanted := Text.trimmed identifier
  all.find? fun r => r.code = Text.upper wanted || r.name = Text.lower wanted

end Rule
end NodeLint
