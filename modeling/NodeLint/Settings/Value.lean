/-!
# Setting values

The values a configuration document is made of. Tables keep the order they were written in. Dates
and times are told apart by kind only, and so are fractional numbers: no setting takes one.
-/

namespace NodeLint

/-- A value of a configuration document. -/
inductive Value where
  | null
  | bool (b : Bool)
  | int (n : Int)
  | float
  | str (s : String)
  | date
  | datetime
  | time
  | list (items : List Value)
  | table (entries : List (String × Value))
deriving Repr, Inhabited

namespace Value

/-- The word for the type of a value. -/
def typeName : Value → String
  | .null => "NoneType"
  | .bool _ => "bool"
  | .int _ => "int"
  | .float => "float"
  | .str _ => "str"
  | .date => "datetime.date"
  | .datetime => "datetime.datetime"
  | .time => "datetime.time"
  | .list _ => "list"
  | .table _ => "dict"

/-- The text of a string value. -/
def text? : Value → Option String
  | .str s => some s
  | _ => none

/-- The texts of a list of strings. -/
def texts? : Value → Option (List String)
  | .list items => items.mapM text?
  | _ => none

end Value

/-- The entries of a table, in order. -/
abbrev Table := List (String × Value)

namespace Table

/-- The value under a key. -/
def get? (t : Table) (key : String) : Option Value := t.lookup key

/-- The keys of a table. -/
def keys (t : Table) : List String := t.map Prod.fst

/-- Put a value under a key: in place if the key is there, otherwise at the end. -/
def set : Table → String → Value → Table
  | [], key, v => [(key, v)]
  | (k, old) :: rest, key, v => if k = key then (k, v) :: rest else (k, old) :: set rest key v

end Table
end NodeLint
