/-!
# Code tables

The characters of a coded character set by their number. A table is written as rows of equal width,
in which a dot marks a number without a character; dots at the end of a row may be left out.
-/

namespace ChatClient.Encoding

/-- The characters of a character set. -/
structure CodeTable where
  width : Nat
  rows : Array String

/-- The character with a number, if there is one. -/
def CodeTable.get? (t : CodeTable) (n : Nat) : Option Char :=
  match t.rows[n / t.width]? with
  | none => none
  | some row => (row.toList[n % t.width]?).filter (· ≠ '.')

/-- A number past the last row has no character. -/
theorem CodeTable.get?_of_size_le {t : CodeTable} {n : Nat} (h : t.rows.size ≤ n / t.width) :
    t.get? n = none := by
  simp [CodeTable.get?, Array.getElem?_eq_none h]

/-- No number has the dot. -/
theorem CodeTable.get?_ne_dot (t : CodeTable) (n : Nat) : t.get? n ≠ some '.' := by
  unfold CodeTable.get?
  split
  · simp
  · simp [Option.filter_eq_some_iff]

end ChatClient.Encoding
