/-!
# JSON values

Numbers are integers from `-2 ^ 63` to `2 ^ 64 - 1`, or 64-bit floats given by their bits, so that
equality of values is decidable. The members of an object stand in ascending order of their keys;
`Fields.insert` keeps that order, and `Fields.get?_insert` says what a look-up finds afterwards.
-/

namespace ChatClient

/-- A JSON number. -/
inductive Number where
  | int (n : Int)
  | float (bits : UInt64)
deriving DecidableEq, Repr, Inhabited

/-- A JSON value. -/
inductive Json where
  | null
  | bool (b : Bool)
  | number (n : Number)
  | string (s : String)
  | array (items : List Json)
  | object (fields : List (String × Json))
deriving Repr, Inhabited

/-- The members of an object, or any other finite map keyed by text. -/
abbrev Fields (α : Type) := List (String × α)

namespace Fields

variable {α : Type}

/-- The value under a key. -/
def get? (key : String) : Fields α → Option α
  | [] => none
  | (k, v) :: r => if k = key then some v else get? key r

/-- The fields with `key` set to `value`, in its place by the order of keys. -/
def insert (key : String) (value : α) : Fields α → Fields α
  | [] => [(key, value)]
  | (k, v) :: r =>
      if k = key then (key, value) :: r
      else if key < k then (key, value) :: (k, v) :: r
      else (k, v) :: insert key value r

/-- The keys in order. -/
def keys (f : Fields α) : List String := f.map Prod.fst

/-- Fields in order from pairs in any order; of two pairs with one key the later counts. -/
def ofPairs (pairs : List (String × α)) : Fields α :=
  pairs.foldl (fun f p => insert p.1 p.2 f) []

/-- A look-up after an insertion finds the new value under its key and the old one elsewhere. -/
theorem get?_insert (key other : String) (value : α) (f : Fields α) :
    get? other (insert key value f) = if key = other then some value else get? other f := by
  induction f with
  | nil => rfl
  | cons p r ih =>
      obtain ⟨k, v⟩ := p
      rw [insert]
      split
      · rename_i h
        subst h
        by_cases e : k = other <;> simp [get?, e]
      · rename_i h
        split
        · by_cases e : key = other <;> simp [get?, e]
        · rw [get?, ih]
          by_cases e : key = other
          · subst e
            simp [h]
          · simp [get?, e]

/-- Insertion adds its key and no other. -/
theorem mem_keys_insert (key other : String) (value : α) (f : Fields α) :
    other ∈ keys (insert key value f) ↔ other = key ∨ other ∈ keys f := by
  induction f with
  | nil => simp [insert, keys]
  | cons p r ih =>
      obtain ⟨k, v⟩ := p
      rw [insert]
      split
      · rename_i h
        subst h
        simp [keys]
      · split
        · simp [keys]
        · simp only [keys, List.map_cons, List.mem_cons] at ih ⊢
          rw [ih]
          grind

end Fields

namespace Json

mutual

/-- Equality of values. -/
def beq : Json → Json → Bool
  | .null, .null => true
  | .bool a, .bool b => a == b
  | .number a, .number b => a == b
  | .string a, .string b => a == b
  | .array a, .array b => beqItems a b
  | .object a, .object b => beqFields a b
  | _, _ => false

/-- Equality of lists of values. -/
def beqItems : List Json → List Json → Bool
  | [], [] => true
  | a :: r, b :: s => beq a b && beqItems r s
  | _, _ => false

/-- Equality of lists of members. -/
def beqFields : List (String × Json) → List (String × Json) → Bool
  | [], [] => true
  | (k, a) :: r, (l, b) :: s => k == l && beq a b && beqFields r s
  | _, _ => false

end

mutual

theorem eq_of_beq : ∀ {a b : Json}, beq a b = true → a = b
  | .null, b, h => by cases b <;> simp_all [beq]
  | .bool x, b, h => by cases b <;> simp_all [beq]
  | .number x, b, h => by cases b <;> simp_all [beq]
  | .string x, b, h => by cases b <;> simp_all [beq]
  | .array x, b, h => by
      cases b with
      | array y => exact congrArg Json.array (eq_of_beqItems (by simpa [beq] using h))
      | _ => simp [beq] at h
  | .object x, b, h => by
      cases b with
      | object y => exact congrArg Json.object (eq_of_beqFields (by simpa [beq] using h))
      | _ => simp [beq] at h

theorem eq_of_beqItems : ∀ {a b : List Json}, beqItems a b = true → a = b
  | [], b, h => by cases b <;> simp_all [beqItems]
  | x :: r, b, h => by
      cases b with
      | nil => simp [beqItems] at h
      | cons y s =>
          simp only [beqItems, Bool.and_eq_true] at h
          rw [eq_of_beq h.1, eq_of_beqItems h.2]

theorem eq_of_beqFields : ∀ {a b : List (String × Json)}, beqFields a b = true → a = b
  | [], b, h => by cases b <;> simp_all [beqFields]
  | (k, x) :: r, b, h => by
      cases b with
      | nil => simp [beqFields] at h
      | cons y s =>
          obtain ⟨l, y⟩ := y
          simp only [beqFields, Bool.and_eq_true, beq_iff_eq] at h
          rw [h.1.1, eq_of_beq h.1.2, eq_of_beqFields h.2]

end

mutual

theorem beq_self : ∀ a : Json, beq a a = true
  | .null => by simp [beq]
  | .bool _ => by simp [beq]
  | .number _ => by simp [beq]
  | .string _ => by simp [beq]
  | .array x => by simpa [beq] using beqItems_self x
  | .object x => by simpa [beq] using beqFields_self x

theorem beqItems_self : ∀ a : List Json, beqItems a a = true
  | [] => by simp [beqItems]
  | x :: r => by simp [beqItems, beq_self x, beqItems_self r]

theorem beqFields_self : ∀ a : List (String × Json), beqFields a a = true
  | [] => by simp [beqFields]
  | (_, x) :: r => by simp [beqFields, beq_self x, beqFields_self r]

end

instance : DecidableEq Json := fun a b =>
  decidable_of_iff (beq a b = true) ⟨eq_of_beq, fun h => h ▸ beq_self a⟩

/-- The member of an object under a key; other values have none. -/
def get? (key : String) : Json → Option Json
  | .object fields => Fields.get? key fields
  | _ => none

/-- The integer that fits 64 bits with a sign. -/
def int64? : Json → Option Int
  | .number (.int n) => if 2 * n < UInt64.size then some n else none
  | _ => none

/-- The text of a string. -/
def string? : Json → Option String
  | .string s => some s
  | _ => none

/-- The name of the kind of a value. -/
def kind : Json → String
  | .null => "null"
  | .bool _ => "bool"
  | .number _ => "number"
  | .string _ => "string"
  | .array _ => "array"
  | .object _ => "object"

/-- A float as a value: numbers that are not finite become null. -/
def ofFloat (x : Float) : Json :=
  if x.isFinite then .number (.float x.toBits) else .null

end Json

end ChatClient
