import NodeLint.Settings

/-!
# The rule catalog

What is told about rules on request: a sheet for one rule, or a table of all rules in the order of
their codes.
-/

namespace NodeLint

/-- What is known about a rule: its description, and what it finds good and bad. Texts may have
several lines; a text that is empty is left out where that makes sense. -/
structure RuleSheet where
  code : String
  name : String
  title : String
  type : RuleType := .problem
  description : String := ""
  details : String := ""
  bad : String := ""
  good : String := ""
  limitations : String := ""
  docsUrl : Option String := none
  hasOptions : Bool := false
deriving Repr, DecidableEq

namespace RuleSheet

/-- The sheet of the rule on decorators. -/
def requireDecorator : RuleSheet where
  code := Rule.requireDecorator.code
  name := Rule.requireDecorator.name
  title := "Undecorated Node Method"
  type := Rule.requireDecorator.type
  description := Rule.requireDecorator.description
  details := Text.join "\n" [
    "Every public method on a class that extends graphpc's Node must",
    "be decorated with @edge, @method, or @hidden. The runtime refuses",
    "to expose undecorated methods, yet they still appear in client",
    "autocomplete. Constructors, properties, static/class methods and",
    "underscore-prefixed names are not checked."]
  bad := Text.join "\n" [
    "from graphpc import Node",
    "class Api(Node):",
    "    def ping(self): ..."]
  good := Text.join "\n" [
    "from graphpc import Node, method",
    "class Api(Node):",
    "    @method",
    "    def ping(self): ..."]
  limitations := Text.join "\n" [
    "Only direct subclasses (class X(Node)) are checked; a subclass of",
    "a Node subclass is not."]
  docsUrl := Rule.requireDecorator.docsUrl
  hasOptions := Rule.requireDecorator.hasOptions

/-- The sheets of all rules. -/
def all : List RuleSheet := [requireDecorator]

/-- The last of several sheets that has a code. -/
def ofCode? (sheets : List RuleSheet) (code : String) : Option RuleSheet :=
  sheets.reverse.find? fun sheet => sheet.code = code

/-- The lines of a text, each with something in front. -/
def indented (front text : String) : List String := (Text.blockLines text).map (front ++ ·)

/-- The lines on the limits of a rule, if it has any. -/
def limitationLines (r : RuleSheet) : List String :=
  if r.limitations = "" then [] else ["", "  Limitations:"] ++ indented "    " r.limitations

/-- The lines on further reading, if there is any. -/
def docsLines (r : RuleSheet) : List String :=
  match r.docsUrl with
  | none => []
  | some "" => []
  | some url => ["", "  Docs: " ++ url]

/-- The whole sheet in print, with the severity by default and the one that is set. -/
def text (r : RuleSheet) (byDefault configured : String) : String :=
  Text.join "\n" ([
    r.code ++ " (" ++ r.name ++ "): " ++ r.title,
    "Type: " ++ r.type.text ++ " | Default severity: " ++ byDefault ++ " | Configured: " ++
      configured ++ " | Options: " ++ (if r.hasOptions then "yes" else "none"),
    "",
    "  " ++ r.description,
    ""] ++
    indented "  " r.details ++
    ["", "  Bad:"] ++ indented "    " r.bad ++
    ["  Good:"] ++ indented "    " r.good ++
    r.limitationLines ++ r.docsLines ++
    ["", "  Suppress: # graphpc-lint: ignore[" ++ r.code ++ "] because: <reason>"])

/-- A text filled up with spaces to a width. -/
def padded (width : Nat) (s : String) : String :=
  String.ofList (s.toList ++ List.replicate (width - s.toList.length) ' ')

/-- One row of the table. -/
def row (code name severity title : String) : String :=
  padded 8 code ++ " " ++ padded 20 name ++ " " ++ padded 10 severity ++ " " ++ title

/-- All sheets as a table, with severities by code. Where two sheets have one code the last
counts. -/
def table (sheets : List RuleSheet) (severities : List (String × String)) : String :=
  let codes := Text.sortedSet (sheets.map RuleSheet.code)
  Text.join "\n" ([
    row "CODE" "NAME" "SEVERITY" "TITLE",
    String.ofList (List.replicate 64 '-')] ++
    (codes.filterMap (ofCode? sheets)).map fun r =>
      row r.code r.name ((severities.lookup r.code).getD "off") r.title)

end RuleSheet
end NodeLint
