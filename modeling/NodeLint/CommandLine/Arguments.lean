import NodeLint.Text.Lines

/-!
# Arguments

Arguments are options and operands. An option starts with a dash and is written in full; its value
is the next argument, or stands behind an equals sign. Two dashes alone end the options. Where
options and operands may not be mixed, the first operand ends them as well. The first fault from
the left is the one reported.
-/

namespace NodeLint.CommandLine

/-- An option that a command knows. -/
structure OptionForm where
  name : String
  takesValue : Bool := false
deriving Repr, DecidableEq

/-- What is wrong with an option. -/
inductive OptionFault where
  | unknown (name : String)
  | needsValue (name : String)
  | unwantedValue (name : String)
deriving Repr, DecidableEq

/-- An option that was given. -/
structure GivenOption where
  name : String
  value : String := ""
deriving Repr, DecidableEq

/-- Options in the order they were given, and operands in theirs. -/
structure Arguments where
  options : List GivenOption := []
  operands : List String := []
deriving Repr, DecidableEq

namespace Arguments

/-- Put an option in front. -/
def addOption (name value : String) (a : Arguments) : Arguments :=
  { a with options := ⟨name, value⟩ :: a.options }

/-- Put an operand in front. -/
def addOperand (word : String) (a : Arguments) : Arguments :=
  { a with operands := word :: a.operands }

/-- Whether an argument is read as an option; a single dash is none. -/
def isOption (arg : String) : Bool :=
  match arg.toList with
  | '-' :: _ :: _ => true
  | _ => false

/-- The name of an option and the value behind its equals sign. -/
def nameAndValue (arg : String) : String × Option String :=
  let cs := arg.toList
  (String.ofList (cs.takeWhile (· ≠ '=')),
    match cs.dropWhile (· ≠ '=') with
    | [] => none
    | _ :: value => some (String.ofList value))

/-- The name that an unknown option is called by: behind a single dash, its first letter only. -/
def blamedName (arg : String) : String :=
  match arg.toList with
  | '-' :: '-' :: _ => (nameAndValue arg).1
  | cs => String.ofList (cs.take 2)

/-- Tell options from operands. -/
def read (known : List OptionForm) (isMixed : Bool) : List String → Except OptionFault Arguments
  | [] => .ok {}
  | arg :: rest =>
    if arg = "--" then .ok ⟨[], rest⟩
    else if !isOption arg then
      if isMixed then (read known isMixed rest).map (addOperand arg) else .ok ⟨[], arg :: rest⟩
    else
      let (name, value?) := nameAndValue arg
      match known.find? fun o => o.name = name with
      | none => .error (.unknown (blamedName arg))
      | some o =>
        match o.takesValue, value?, rest with
        | false, none, rest => (read known isMixed rest).map (addOption name "")
        | false, some _, _ => .error (.unwantedValue name)
        | true, some value, rest => (read known isMixed rest).map (addOption name value)
        | true, none, value :: rest => (read known isMixed rest).map (addOption name value)
        | true, none, [] => .error (.needsValue name)

/-- Whether an option was given. -/
def has (a : Arguments) (name : String) : Bool := a.options.any fun o => o.name = name

/-- The last value of an option. -/
def value? (a : Arguments) (name : String) : Option String :=
  (a.options.reverse.find? fun o => o.name = name).map GivenOption.value

/-- The first of several options that was given. -/
def first? (a : Arguments) (names : List String) : Option String :=
  (a.options.find? fun o => names.contains o.name).map GivenOption.name

end Arguments
end NodeLint.CommandLine
