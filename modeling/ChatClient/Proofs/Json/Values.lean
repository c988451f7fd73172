import ChatClient.Proofs.Json.Reader
import Mathlib.Algebra.Group.Int.Defs

/-!
# The values of texts

What the value of a text says about the text, and what the text says about its value. The blanks
around a value do not matter (`Json.parse?_trim`). An object with members is written with a colon
(`Json.colon_mem_of_parse?`). The integers of a value fit 64 bits, with a sign when negative
(`Json.inRange_of_parse?`).
-/

namespace ChatClient

/-- An integer fits 64 bits, with a sign when negative; a float always does. -/
def Number.InRange : Number → Prop
  | .int n => -2 ^ 63 ≤ n ∧ n < 2 ^ 64
  | .float _ => True

/-- All numbers in a value are in range. -/
inductive Json.InRange : Json → Prop
  | null : InRange .null
  | bool (b : Bool) : InRange (.bool b)
  | number {n : Number} : n.InRange → InRange (.number n)
  | string (s : String) : InRange (.string s)
  | array {items : List Json} : (∀ v ∈ items, InRange v) → InRange (.array items)
  | object {fields : Fields Json} : (∀ p ∈ fields, InRange p.2) → InRange (.object fields)

/-- A number of a text has a value in range, if it has one. -/
theorem NumberLexeme.value?_inRange {l : NumberLexeme} {n : Number} (h : l.value? = some n) :
    n.InRange := by
  have float {x : Option Float} (h : (x.map fun x => Number.float x.toBits) = some n) :
      n.InRange := by
    obtain ⟨x, -, rfl⟩ := Option.map_eq_some_iff.1 h
    exact True.intro
  have size : UInt64.size = 2 ^ 64 := rfl
  rw [value?] at h
  split at h
  · exact float h
  · split at h
    · split at h
      · next fits =>
          cases h
          exact ⟨by omega, by omega⟩
      · exact float h
    · split at h
      · next fits =>
          cases h
          exact ⟨by omega, by omega⟩
      · exact float h

namespace Fields

variable {α : Type} {key : String} {v : α} {p : String × α}

/-- An insertion brings no other member than its own. -/
theorem mem_insert {f : Fields α} (h : p ∈ insert key v f) : p = (key, v) ∨ p ∈ f := by
  induction f with
  | nil => exact .inl (List.mem_singleton.1 h)
  | cons q f ih =>
      obtain ⟨k, w⟩ := q
      rw [insert] at h
      split at h
      · exact (List.mem_cons.1 h).imp_right (List.mem_cons_of_mem _)
      · split at h
        · exact List.mem_cons.1 h
        · rcases List.mem_cons.1 h with rfl | h
          · exact .inr List.mem_cons_self
          · exact (ih h).imp_right (List.mem_cons_of_mem _)

/-- The members of an object are among those it was made from. -/
theorem mem_ofPairs {pairs : List (String × α)} (h : p ∈ ofPairs pairs) : p ∈ pairs := by
  have build (f : Fields α) (pairs : List (String × α))
      (h : p ∈ pairs.foldl (fun f p => insert p.1 p.2 f) f) : p ∈ f ∨ p ∈ pairs := by
    induction pairs generalizing f with
    | nil => exact .inl h
    | cons q pairs ih =>
        rcases ih _ h with h | h
        · rcases mem_insert h with rfl | h
          · exact .inr List.mem_cons_self
          · exact .inl h
        · exact .inr (List.mem_cons_of_mem q h)
  exact (build [] pairs h).resolve_left List.not_mem_nil

theorem mem_of_get? {f : Fields α} (h : get? key f = some v) : (key, v) ∈ f := by
  induction f with
  | nil => cases h
  | cons q f ih =>
      rw [get?] at h
      split at h
      · next same =>
          cases h
          exact same ▸ List.mem_cons_self
      · exact List.mem_cons_of_mem q (ih h)

end Fields

namespace Raw

/-- The value of a tree is in range, if it has one. -/
def ValueInRange (raw : Raw) : Prop := ∀ v, raw.toJson? = some v → v.InRange

/-- An array is in range if its items are. -/
theorem ValueInRange.array {items : List Raw} (h : ∀ raw ∈ items, raw.ValueInRange) :
    (array items).ValueInRange := by
  have each (vs : List Json) (read : toItems? items = some vs) : ∀ v ∈ vs, v.InRange := by
    induction items generalizing vs with
    | nil =>
        cases read
        exact List.forall_mem_nil _
    | cons raw items ih =>
        obtain ⟨here, later⟩ := List.forall_mem_cons.1 h
        rw [toItems?] at read
        split at read
        · next v vs' value values =>
            cases read
            exact List.forall_mem_cons.2 ⟨here v value, ih later vs' values⟩
        · cases read
  intro v value
  rw [toJson?] at value
  obtain ⟨vs, read, rfl⟩ := Option.map_eq_some_iff.1 value
  exact .array (each vs read)

/-- An object is in range if its members are; a member whose key comes again does not count. -/
theorem ValueInRange.object {members : List (Option String × Raw)}
    (h : ∀ m ∈ members, m.2.ValueInRange) : (object members).ValueInRange := by
  have each (pairs : List (String × Json)) (read : toPairs? members = some pairs) :
      ∀ p ∈ pairs, p.2.InRange := by
    induction members generalizing pairs with
    | nil =>
        cases read
        exact List.forall_mem_nil _
    | cons m members ih =>
        obtain ⟨here, later⟩ := List.forall_mem_cons.1 h
        obtain ⟨key, raw⟩ := m
        rw [toPairs?.eq_def] at read
        dsimp only at read
        split at read
        · next k v pairs' value values =>
            cases read
            exact List.forall_mem_cons.2 ⟨here v value, ih later pairs' values⟩
        · cases read
  intro v value
  rw [toJson?] at value
  obtain ⟨pairs, read, rfl⟩ := Option.map_eq_some_iff.1 value
  exact .object fun p hp => each pairs read p (Fields.mem_ofPairs hp)

theorem ValueInRange.of_value {fuel depth : Nat} {s r : List Char} {raw : Raw}
    (h : Value fuel depth s raw r)
    (ofItems : ∀ depth s items r, readItems fuel depth [] s = some (items, r) →
      ∀ raw ∈ items, raw.ValueInRange)
    (ofMembers : ∀ depth s members r, readMembers fuel depth [] s = some (members, r) →
      ∀ m ∈ members, m.2.ValueInRange) : raw.ValueInRange := by
  cases h with
  | items more read => exact .array (ofItems _ _ _ _ read)
  | members more read => exact .object (ofMembers _ _ _ _ read)
  | noItems => exact .array (List.forall_mem_nil _)
  | noMembers => exact .object (List.forall_mem_nil _)
  | null =>
      rintro v ⟨⟩
      exact .null
  | true =>
      rintro v ⟨⟩
      exact .bool _
  | false =>
      rintro v ⟨⟩
      exact .bool _
  | string =>
      intro v value
      rw [toJson?] at value
      obtain ⟨s, -, rfl⟩ := Option.map_eq_some_iff.1 value
      exact .string s
  | number =>
      intro v value
      rw [toJson?] at value
      obtain ⟨n, found, rfl⟩ := Option.map_eq_some_iff.1 value
      exact .number (NumberLexeme.value?_inRange found)

/-- The readers give trees whose values are in range. -/
theorem valueInRange_of_fuel (fuel : Nat) :
    (∀ depth s raw r, readValue fuel depth s = some (raw, r) → raw.ValueInRange) ∧
    (∀ depth acc s items r, readItems fuel depth acc s = some (items, r) →
      (∀ raw ∈ acc, raw.ValueInRange) → ∀ raw ∈ items, raw.ValueInRange) ∧
    (∀ depth acc s members r, readMembers fuel depth acc s = some (members, r) →
      (∀ m ∈ acc, m.2.ValueInRange) → ∀ m ∈ members, m.2.ValueInRange) := by
  induction fuel with
  | zero => exact ⟨nofun, nofun, nofun⟩
  | succ fuel ih =>
      obtain ⟨ofValue, ofItems, ofMembers⟩ := ih
      refine ⟨?_, ?_, ?_⟩
      · intro depth s raw r h
        apply ValueInRange.of_value (readValue_eq_some_iff.1 h)
        · intro depth s items r read
          exact ofItems _ _ _ _ _ read (List.forall_mem_nil _)
        · intro depth s members r read
          exact ofMembers _ _ _ _ _ read (List.forall_mem_nil _)
      · intro depth acc s items r h earlier
        obtain ⟨raw, t, value, rest⟩ := readItems_eq_some_iff.1 h
        -- what was read before is kept, last first
        have all := List.forall_mem_cons.2 ⟨ofValue _ _ _ _ value, earlier⟩
        rcases rest with ⟨t', -, rest⟩ | ⟨-, rfl⟩
        · exact ofItems _ _ _ _ _ rest all
        · intro raw hraw
          exact all raw (List.mem_reverse.1 hraw)
      · intro depth acc s members r h earlier
        obtain ⟨key, raw, t, ⟨s₁, s₂, s₃, -, -, -, value⟩, rest⟩ := readMembers_eq_some_iff.1 h
        have all : ∀ m ∈ (key, raw) :: acc, m.2.ValueInRange :=
          List.forall_mem_cons.2 ⟨ofValue _ _ _ _ value, earlier⟩
        rcases rest with ⟨t', -, rest⟩ | ⟨-, rfl⟩
        · exact ofMembers _ _ _ _ _ rest all
        · intro m hm
          exact all m (List.mem_reverse.1 hm)

/-- A key is written with a colon after it. -/
theorem Member.colon_mem {fuel depth : Nat} {key : Option String} {v : Raw} {s r : List Char}
    (h : Member fuel depth key v s r) : ':' ∈ s := by
  obtain ⟨s₁, s₂, s₃, quote, text, colon, -⟩ := h
  obtain ⟨b, rfl, -⟩ := exists_blanks_of_append (p := []) quote
  obtain ⟨q, rfl, -⟩ := readString_local text
  obtain ⟨b', rfl, -⟩ := exists_blanks_of_append (p := []) colon
  simp

/-- An object with members has a colon in its text. -/
theorem colon_mem_of_read? {depth : Nat} {t : List Char} {members : List (Option String × Raw)}
    (h : read? depth t = some (.object members)) (more : members ≠ []) : ':' ∈ t := by
  rw [read?] at h
  split at h
  · next raw r read =>
      obtain ⟨-, found⟩ := Option.ite_none_right_eq_some.1 h
      have value := readValue_eq_some_iff.1 read
      obtain ⟨b, -, whole⟩ := exists_blanks t
      rw [whole]
      apply List.mem_append_right
      generalize skipBlanks t = s at value
      cases value with
      | @members _ s _ _ _ read =>
          obtain ⟨b, -, whole⟩ := exists_blanks s
          rw [readMembers_eq_some_iff] at read
          obtain ⟨key, v, t', member, -⟩ := read
          rw [whole]
          apply List.mem_cons_of_mem
          apply List.mem_append_right
          exact member.colon_mem
      | noMembers =>
          cases found
          exact absurd rfl more
      | _ => cases found
  · cases h

end Raw

namespace Json

/-- The blanks around a value do not matter, those of Unicode included. -/
theorem parse?_trim {t : List Char} {v : Json} (h : parse? t = some v) :
    parse? (Text.trim t) = some v := by
  obtain ⟨raw, read, value⟩ := Option.bind_eq_some_iff.1 h
  exact Option.bind_eq_some_iff.2 ⟨raw, Raw.read?_trim read, value⟩

/-- The numbers of a text are in range. -/
theorem inRange_of_parse? {t : List Char} {v : Json} (h : parse? t = some v) : v.InRange := by
  obtain ⟨raw, read, value⟩ := Option.bind_eq_some_iff.1 h
  rw [Raw.read?] at read
  split at read
  · next raw' r found =>
      obtain ⟨-, same⟩ := Option.ite_none_right_eq_some.1 read
      cases same
      exact (Raw.valueInRange_of_fuel _).1 _ _ _ _ found v value
  · cases read

/-- An object with members has a colon in its text. -/
theorem colon_mem_of_parse? {t : List Char} {fields : Fields Json}
    (h : parse? t = some (.object fields)) (more : fields ≠ []) : ':' ∈ t := by
  obtain ⟨raw, read, value⟩ := Option.bind_eq_some_iff.1 h
  cases raw with
  | object members =>
      apply Raw.colon_mem_of_read? read
      rintro rfl
      cases value
      exact more rfl
  | null | bool => cases value
  | number | string | array =>
      obtain ⟨_, -, other⟩ := Option.map_eq_some_iff.1 value
      cases other

end Json

end ChatClient
