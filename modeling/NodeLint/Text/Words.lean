/-!
# Words

Starts and ends of words, and sets of words in their order.
-/

namespace NodeLint.Text

/-- Whether a word starts with another. -/
def startsWith (s front : String) : Bool := front.toList.isPrefixOf s.toList

/-- Whether a word ends with another. -/
def endsWith (s back : String) : Bool := back.toList.isSuffixOf s.toList

/-- Sorted, and each word once. -/
def sortedSet (ss : List String) : List String :=
  (ss.mergeSort fun a b => a ≤ b).foldr
    (fun s rest => if rest.head? = some s then rest else s :: rest) []

end NodeLint.Text
