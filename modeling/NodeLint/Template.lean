import NodeLint.Text.Quoted

/-!
# Message templates

A template is a text with named fields in braces; a doubled brace is a brace. Fields are filled
from left to right, so the first fault from the left is the one reported. A filled-in value is not
looked at again.
-/

namespace NodeLint

/-- Why a template cannot be filled. -/
inductive TemplateError where
  | singleOpen
  | singleClose
  | unclosedField
  | nestedField
  | positionalField
  | unknownField (name : String)
  | unknownTemplate (id : String)
deriving Repr, DecidableEq

/-- The words for a fault; a name that is not known is only quoted. -/
def TemplateError.message : TemplateError → String
  | .singleOpen => "Single '\x7b' encountered in format string"
  | .singleClose => "Single '\x7d' encountered in format string"
  | .unclosedField => "expected '\x7d' before end of string"
  | .nestedField => "unexpected '\x7b' in field name"
  | .positionalField => "Format string contains positional fields"
  | .unknownField name => Text.quoted name
  | .unknownTemplate id => Text.quoted id

namespace Template

/-- Whether a field asks for a value by position. -/
def isPositional (name : List Char) : Bool := name.all Char.isDigit

/-- The value of a field. -/
def fieldValue (data : List (String × String)) (name : List Char) : Except TemplateError String :=
  if isPositional name then .error .positionalField
  else match data.lookup (String.ofList name) with
    | some value => .ok value
    | none => .error (.unknownField (String.ofList name))

/-- Fill the rest of a template. `field` is the name of the field it starts inside, last character
first, if it starts inside one. -/
def fill (data : List (String × String)) :
    (field : Option (List Char)) → List Char → Except TemplateError String
  | none, [] => .ok ""
  | some _, [] => .error .unclosedField
  | none, '\x7b' :: '\x7b' :: cs => (fill data none cs).map ("\x7b" ++ ·)
  | none, '\x7d' :: '\x7d' :: cs => (fill data none cs).map ("\x7d" ++ ·)
  | none, ['\x7b'] => .error .singleOpen
  | none, c :: cs =>
    if c = '\x7d' then .error .singleClose
    else if c = '\x7b' then fill data (some []) cs
    else (fill data none cs).map (c.toString ++ ·)
  | some name, c :: cs =>
    if c = '\x7b' then .error .nestedField
    else if c = '\x7d' then do
      let value ← fieldValue data name.reverse
      let rest ← fill data none cs
      return value ++ rest
    else fill data (some (c :: name)) cs

/-- Fill a template. -/
def render (template : String) (data : List (String × String)) : Except TemplateError String :=
  fill data none template.toList

/-- Fill the template with an identifier. -/
def renderById (templates : List (String × String)) (id : String)
    (data : List (String × String)) : Except TemplateError String :=
  match templates.lookup id with
  | some template => render template data
  | none => .error (.unknownTemplate id)

end Template
end NodeLint
