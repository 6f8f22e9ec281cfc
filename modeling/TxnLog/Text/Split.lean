/-!
# Splitting texts

A text splits at every separator, so it has one part more than separators.
-/

namespace TxnLog.Text

/-- The parts of a text; `part` holds the characters of the present one, latest first. -/
def splitFrom (separator : Char) (part : List Char) : List Char → List (List Char)
  | [] => [part.reverse]
  | c :: cs =>
    if c = separator then part.reverse :: splitFrom separator [] cs
    else splitFrom separator (c :: part) cs

/-- The parts of a text between separators, at least one. -/
def split (separator : Char) (cs : List Char) : List (List Char) := splitFrom separator [] cs

/-- There is a part. -/
theorem splitFrom_ne_nil (separator : Char) (part cs : List Char) :
    splitFrom separator part cs ≠ [] := by
  fun_induction splitFrom separator part cs <;> simp_all

end TxnLog.Text
