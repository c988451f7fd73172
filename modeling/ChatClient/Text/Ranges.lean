/-!
# Ranges of code points

A Unicode property is a list of ranges of code points in ascending order. `InRanges` says that a
character lies in one of them; `mem` finds the range (`inRanges_of_mem`).
-/

namespace ChatClient.Text.Ranges

/-- Ranges of code points, both ends included. -/
abbrev Table := List (Nat × Nat)

/-- The code point lies in one of the ranges. -/
def InRanges (t : Table) (n : Nat) : Prop := ∃ r ∈ t, r.1 ≤ n ∧ n ≤ r.2

/-- Membership in an ascending table: the search stops at the first range that ends at or after the
code point. -/
def mem (n : Nat) : Table → Bool
  | [] => false
  | (lo, hi) :: r => if n ≤ hi then lo ≤ n else mem n r

/-- A member lies in a range of the table. -/
theorem inRanges_of_mem {t : Table} {n : Nat} (h : mem n t = true) : InRanges t n := by
  induction t with
  | nil => simp [mem] at h
  | cons r t ih =>
      rw [mem] at h
      split at h
      · exact ⟨r, List.mem_cons_self, by simpa using h, by assumption⟩
      · obtain ⟨q, hq, hn⟩ := ih h
        exact ⟨q, List.mem_cons_of_mem _ hq, hn⟩

end ChatClient.Text.Ranges
