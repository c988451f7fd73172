import ChatClient.Message.Record
import Mathlib.Data.List.Forall2

/-!
# Lists of records

Which values stand for a message, and what becomes of a list of them.

A value stands for a message in one of two shapes, an object or a pair, and names its role in one of
two ways (`Represents`, `ofRecord_eq_ok_iff`). Only one of the four combinations is a record with
`role` and `content` (`IsRecord`); the other three are irregular. So a list is read as a conversation
just if each value stands for its message, and the lists that are accepted although not all of their
values are records are those with an irregular value (`Conversation.ofRecords_iff_represents`).

A list is judged value by value. If each value is accepted alone, the list gives the messages of all
of them; otherwise the first one that is not decides alone, and the error differs from its own only
in the place that it names (`Conversation.ofRecords_of_first_rejected`).
-/

namespace ChatClient

/-! ## Values that stand for a message -/

namespace Message

/-- The value is an object with the name of the role and the content of the message. Other members do
not count. -/
def IsRecord (v : Json) (m : Message) : Prop :=
  ∃ fields, v = .object fields ∧ Fields.get? "role" fields = some (.string m.role.name) ∧
    Fields.get? "content" fields = some (.string m.content)

/-- The value names the role: it is the name, or an object whose only member is the name with the
value null. -/
inductive NamesRole : Json → Role → Prop
  | name (r : Role) : NamesRole (.string r.name) r
  | key (r : Role) : NamesRole (.object [(r.name, .null)]) r

/-- The value stands for the message: it is an object with a value that names the role and the
content, or an array of the two. -/
inductive Represents : Json → Message → Prop
  | object {fields : Fields Json} {role : Json} {m : Message} :
      Fields.get? "role" fields = some role → NamesRole role m.role →
        Fields.get? "content" fields = some (.string m.content) → Represents (.object fields) m
  | pair {role : Json} {m : Message} :
      NamesRole role m.role → Represents (.array [role, .string m.content]) m

/-- The value has a shape that no record has: it is an array, or its role is an object. -/
inductive Irregular : Json → Prop
  | array (items : List Json) : Irregular (.array items)
  | role {fields members : Fields Json} :
      Fields.get? "role" fields = some (.object members) → Irregular (.object fields)

section Reading

variable {v : Json} {m : Message}

/-- Two readings in a row succeed just if each of them does. -/
theorem bind_eq_ok_iff {α β : Type} {x : Except RecordFault α} {f : α → Except RecordFault β} {b : β} :
    (x >>= f) = .ok b ↔ ∃ a, x = .ok a ∧ f a = .ok b := by
  cases x with
  | error fault => simp [bind, Except.bind]
  | ok a => simp [bind, Except.bind]

/-- A member is read to a value just if it is there and its own reading succeeds. -/
theorem mapM_eq_ok_some_iff {α β : Type} {x : Option α} {f : α → Except RecordFault β} {b : β} :
    x.mapM f = .ok (some b) ↔ ∃ a, x = some a ∧ f a = .ok b := by
  cases x with
  | none => simp [pure, Except.pure]
  | some a =>
      cases read : f a with
      | error fault => simp [read]
      | ok b => simp [read]

theorem roleNamed_eq_ok_iff {name : String} {r : Role} : roleNamed name = .ok r ↔ name = r.name := by
  constructor
  · intro h
    unfold roleNamed at h
    split at h
    · next found =>
        cases h
        exact Role.eq_name_of_ofName? found
    · cases h
  · rintro rfl
    rw [roleNamed, Role.ofName?_name]

theorem readRole_eq_ok_iff {r : Role} : readRole v = .ok r ↔ NamesRole v r := by
  constructor
  · intro h
    unfold readRole at h
    split at h
    · rw [roleNamed_eq_ok_iff] at h
      rw [h]
      exact .name r
    · obtain ⟨found, named, h⟩ := bind_eq_ok_iff.1 h
      rw [roleNamed_eq_ok_iff] at named
      split at h
      · next null =>
          cases h
          rw [named, null]
          exact .key r
      · cases h
    · cases h
    · cases h
  · intro h
    have named := (roleNamed_eq_ok_iff (r := r)).2 rfl
    cases h with
    | name => exact named
    | key => exact bind_eq_ok_iff.2 ⟨r, named, if_pos rfl⟩

theorem readContent_eq_ok_iff {s : String} : readContent v = .ok s ↔ v = .string s := by
  cases v with
  | string t => simp [readContent]
  | _ => simp [readContent]

/-- The members of an object give a message just if both are there and mean its role and content. -/
theorem ofRecord_object_eq_ok_iff {fields : Fields Json} :
    ofRecord (.object fields) = .ok m ↔
      ∃ role, Fields.get? "role" fields = some role ∧ NamesRole role m.role ∧
        Fields.get? "content" fields = some (.string m.content) := by
  constructor
  · intro h
    obtain ⟨content, content_read, h⟩ := bind_eq_ok_iff.1 h
    obtain ⟨role, role_read, h⟩ := bind_eq_ok_iff.1 h
    cases role with
    | none => cases h
    | some r =>
        cases content with
        | none => cases h
        | some c =>
            cases h
            obtain ⟨role, role_at, named⟩ := mapM_eq_ok_some_iff.1 role_read
            obtain ⟨content, content_at, text⟩ := mapM_eq_ok_some_iff.1 content_read
            rw [readContent_eq_ok_iff] at text
            exact ⟨role, role_at, readRole_eq_ok_iff.1 named, text ▸ content_at⟩
  · rintro ⟨role, role_at, named, content_at⟩
    have content_read := mapM_eq_ok_some_iff.2 ⟨_, content_at, readContent_eq_ok_iff.2 rfl⟩
    have role_read := mapM_eq_ok_some_iff.2 ⟨_, role_at, readRole_eq_ok_iff.2 named⟩
    exact bind_eq_ok_iff.2 ⟨_, content_read, bind_eq_ok_iff.2 ⟨_, role_read, rfl⟩⟩

/-- The items of an array give a message just if there are two, the role and the content. -/
theorem ofRecord_array_eq_ok_iff {items : List Json} :
    ofRecord (.array items) = .ok m ↔
      ∃ role, items = [role, .string m.content] ∧ NamesRole role m.role := by
  constructor
  · intro h
    rcases items with _ | ⟨role, _ | ⟨content, rest⟩⟩
    · cases h
    · obtain ⟨_, _, h⟩ := bind_eq_ok_iff.1 h
      cases h
    · obtain ⟨r, role_read, h⟩ := bind_eq_ok_iff.1 h
      obtain ⟨c, content_read, h⟩ := bind_eq_ok_iff.1 h
      cases rest with
      | nil =>
          cases h
          rw [readContent_eq_ok_iff.1 content_read]
          exact ⟨role, rfl, readRole_eq_ok_iff.1 role_read⟩
      | cons => cases h
  · rintro ⟨role, rfl, named⟩
    have role_read := readRole_eq_ok_iff.2 named
    exact bind_eq_ok_iff.2 ⟨_, role_read, bind_eq_ok_iff.2 ⟨_, readContent_eq_ok_iff.2 rfl, rfl⟩⟩

/-- A value is read as the message that it stands for. -/
theorem ofRecord_eq_ok_iff : ofRecord v = .ok m ↔ Represents v m := by
  constructor
  · intro h
    cases v with
    | object fields =>
        obtain ⟨role, role_at, named, content_at⟩ := ofRecord_object_eq_ok_iff.1 h
        exact .object role_at named content_at
    | array items =>
        obtain ⟨role, rfl, named⟩ := ofRecord_array_eq_ok_iff.1 h
        exact .pair named
    | _ => cases h
  · intro h
    cases h with
    | object role_at named content_at =>
        exact ofRecord_object_eq_ok_iff.2 ⟨_, role_at, named, content_at⟩
    | pair named => exact ofRecord_array_eq_ok_iff.2 ⟨_, rfl, named⟩

end Reading

/-! ## Records among them -/

section Shapes

variable {v : Json} {m : Message}

theorem IsRecord.represents (h : IsRecord v m) : Represents v m := by
  obtain ⟨fields, rfl, role_at, content_at⟩ := h
  exact .object role_at (.name m.role) content_at

/-- No record has the shape of the other values. -/
theorem IsRecord.not_irregular (h : IsRecord v m) : ¬Irregular v := by
  obtain ⟨fields, rfl, role_at, -⟩ := h
  intro irregular
  cases irregular with
  | role members_at =>
      rw [role_at] at members_at
      cases members_at

/-- A value that stands for a message is a record of it unless its shape forbids it. -/
theorem Represents.isRecord (h : Represents v m) (regular : ¬Irregular v) : IsRecord v m := by
  cases h with
  | object role_at named content_at =>
      rename_i role
      generalize name : m.role = r at named
      cases named with
      | name => exact ⟨_, rfl, name ▸ role_at, content_at⟩
      | key => exact absurd (.role role_at) regular
  | pair => exact absurd (.array _) regular

end Shapes

end Message

namespace Conversation

open Message (IsRecord Irregular Represents ofRecord_eq_ok_iff)

/-! ## Lists of values -/

section Lists

variable {records before : List Json} {bad : Json} {c : Conversation} {fault : RecordFault}

/-- Values that all stand for messages are read as those messages. -/
theorem ofRecordsFrom_of_represents (index : Nat) (h : List.Forall₂ Represents records c) :
    ofRecordsFrom index records = .ok c := by
  induction h generalizing index with
  | nil => rfl
  | cons here _ ih => rw [ofRecordsFrom, ofRecord_eq_ok_iff.2 here, ih]

/-- After values that stand for messages, a value that does not is the error, whatever comes after
it. -/
theorem ofRecordsFrom_of_bad (index : Nat) (good : ∀ v ∈ before, ∃ m, Represents v m)
    (rejected : Message.ofRecord bad = .error fault) (after : List Json) :
    ofRecordsFrom index (before ++ bad :: after) =
      .error (recordError (index + before.length) fault) := by
  induction before generalizing index with
  | nil =>
      rw [List.nil_append, ofRecordsFrom, rejected]
      rfl
  | cons v before ih =>
      obtain ⟨m, here⟩ := good v List.mem_cons_self
      have later := ih (index + 1) fun w hw => good w (List.mem_cons_of_mem v hw)
      rw [List.cons_append, ofRecordsFrom, ofRecord_eq_ok_iff.2 here, later, List.length_cons,
        Nat.add_assoc, Nat.add_comm 1]

/-- Either all values stand for messages, or there is a first one that is rejected. -/
theorem represents_or_first_bad (records : List Json) :
    (∃ c, List.Forall₂ Represents records c) ∨
      ∃ before bad after fault, records = before ++ bad :: after ∧
        (∀ v ∈ before, ∃ m, Represents v m) ∧ Message.ofRecord bad = .error fault := by
  induction records with
  | nil => exact .inl ⟨[], .nil⟩
  | cons v records ih =>
      cases read : Message.ofRecord v with
      | error fault => exact .inr ⟨[], v, records, fault, rfl, List.forall_mem_nil _, read⟩
      | ok m =>
          have here := ofRecord_eq_ok_iff.1 read
          rcases ih with ⟨c, later⟩ | ⟨before, bad, after, fault, rfl, good, rejected⟩
          · exact .inl ⟨m :: c, .cons here later⟩
          · exact .inr ⟨v :: before, bad, after, fault, rfl,
              List.forall_mem_cons.2 ⟨⟨m, here⟩, good⟩, rejected⟩

/-- A list is read as the messages that its values stand for. -/
theorem ofRecords_eq_ok_iff : ofRecords records = .ok c ↔ List.Forall₂ Represents records c := by
  constructor
  · intro h
    rcases represents_or_first_bad records with
      ⟨c', all⟩ | ⟨before, bad, after, fault, rfl, good, rejected⟩
    · rw [ofRecords, ofRecordsFrom_of_represents 0 all] at h
      cases h
      exact all
    · rw [ofRecords, ofRecordsFrom_of_bad 0 good rejected] at h
      cases h
  · exact ofRecordsFrom_of_represents 0

/-- A value alone is accepted just if it stands for a message. -/
theorem ofRecords_singleton_eq_ok_iff {v : Json} :
    ofRecords [v] = .ok c ↔ ∃ m, Represents v m ∧ c = [m] := by
  rw [ofRecords_eq_ok_iff, List.forall₂_cons_left_iff]
  simp

/-- What single values give, one after another, are the messages that they stand for. -/
theorem represents_flatten {cs : List Conversation}
    (all : List.Forall₂ (fun v c => ofRecords [v] = .ok c) records cs) :
    List.Forall₂ Represents records cs.flatten := by
  induction all with
  | nil => exact .nil
  | cons here _ ih =>
      obtain ⟨m, represents, rfl⟩ := ofRecords_singleton_eq_ok_iff.1 here
      exact .cons represents ih

theorem exists_represented (all : List.Forall₂ Represents records c) :
    ∀ v ∈ records, ∃ m, Represents v m := by
  have each := all.imp fun v m h => And.intro (Exists.intro m h) h
  exact ((List.forall₂_and_left _ _).1 each).1

end Lists

/-- A list of values is read as a conversation just if each value stands for the message in its
place; every other list is a validation error. The list is read as if only records stood for messages,
unless each of its values stands for one and some of them is irregular. -/
theorem ofRecords_iff_represents (records : List Json) :
    (∀ c, ofRecords records = .ok c ↔ List.Forall₂ Represents records c) ∧
      ((¬∃ c, List.Forall₂ Represents records c) →
        ∃ message context, ofRecords records = .error (.validation message context)) ∧
      ((∀ c, ofRecords records = .ok c ↔ List.Forall₂ IsRecord records c) ↔
        ¬((∃ c, List.Forall₂ Represents records c) ∧ ∃ v ∈ records, Irregular v)) ∧
      (MessagesInput.raw records).normalize = ofRecords records := by
  refine ⟨fun c => ofRecords_eq_ok_iff, ?_, ?_, rfl⟩
  · intro some_not
    rcases represents_or_first_bad records with
      all | ⟨before, bad, after, fault, rfl, good, rejected⟩
    · exact absurd all some_not
    · exact ⟨_, _, ofRecordsFrom_of_bad 0 good rejected after⟩
  · constructor
    · rintro exact_list ⟨⟨c, all⟩, v, hv, irregular⟩
      have only_records := (exact_list c).1 (ofRecords_eq_ok_iff.2 all)
      have regular := only_records.imp fun _ _ h => And.intro h.not_irregular h
      exact ((List.forall₂_and_left _ _).1 regular).1 v hv irregular
    · intro not_mixed c
      constructor
      · intro read
        have all := ofRecords_eq_ok_iff.1 read
        have regular : ∀ v ∈ records, ¬Irregular v := fun v hv irregular =>
          not_mixed ⟨⟨c, all⟩, v, hv, irregular⟩
        exact ((List.forall₂_and_left _ _).2 ⟨regular, all⟩).imp fun _ _ h => h.2.isRecord h.1
      · intro only_records
        exact ofRecords_eq_ok_iff.2 (only_records.imp fun _ _ h => h.represents)

/-- A record with a further member and a pair whose role is an object are read in order; an unknown role
after the record is an error. -/
theorem ofRecords_of_pair_after_record :
    let record : Json :=
      .object [("content", .string "hi"), ("id", .number (.int 7)), ("role", .string "user")]
    let pair : Json := .array [.object [("assistant", .null)], .string "ha"]
    let unknown : Json := .object [("content", .string "beep"), ("role", .string "robot")]
    List.Forall₂ Represents [record, pair] [⟨.user, "hi"⟩, ⟨.assistant, "ha"⟩] ∧
      ofRecords [record, pair] = .ok [⟨.user, "hi"⟩, ⟨.assistant, "ha"⟩] ∧
      (¬∃ c, List.Forall₂ Represents [record, unknown] c) ∧
      ∃ message context, ofRecords [record, unknown] = .error (.validation message context) := by
  intro record pair unknown
  have first : Represents record ⟨.user, "hi"⟩ := .object rfl (.name .user) rfl
  have second : Represents pair ⟨.assistant, "ha"⟩ :=
    @Represents.pair _ ⟨.assistant, "ha"⟩ (.key .assistant)
  have both : List.Forall₂ Represents [record, pair] [⟨.user, "hi"⟩, ⟨.assistant, "ha"⟩] :=
    .cons first (.cons second .nil)
  have not_both : ¬∃ c, List.Forall₂ Represents [record, unknown] c := by
    rintro ⟨c, all⟩
    have rejected : (ofRecords [record, unknown]).toBool = false := by decide
    rw [ofRecords_eq_ok_iff.2 all] at rejected
    cases rejected
  exact ⟨both, ((ofRecords_iff_represents _).1 _).2 both, not_both,
    (ofRecords_iff_represents _).2.1 not_both⟩

/-- A pair is accepted, and so is a role that is an object, although neither value is a record. -/
theorem ofRecords_of_pair :
    let pair : Json := .array [.string "user", .string "hi"]
    let keyed : Json := .object [("content", .string "hi"), ("role", .object [("user", .null)])]
    (ofRecords [pair] = .ok [⟨.user, "hi"⟩] ∧ ∀ m, ¬IsRecord pair m) ∧
      ofRecords [keyed] = .ok [⟨.user, "hi"⟩] ∧ ∀ m, ¬IsRecord keyed m := by
  intro pair keyed
  refine ⟨⟨by decide, ?_⟩, by decide, ?_⟩
  · intro m h
    exact h.not_irregular (.array _)
  · intro m h
    exact h.not_irregular (.role rfl)

/-- If each value is accepted alone, the list of them is accepted and gives their messages in order.
Otherwise there is a first value that is rejected alone, and the list is rejected with the error of that
value, but for the place that it names, which is the place of the value in the list; other values after
it, and other accepted ones before it, as many as there were, change nothing. -/
theorem ofRecords_of_first_rejected (records : List Json) :
    (∀ cs, List.Forall₂ (fun v c => ofRecords [v] = .ok c) records cs →
        ofRecords records = .ok cs.flatten) ∧
      ((¬∀ v ∈ records, ∃ c, ofRecords [v] = .ok c) →
        ∃ before bad after message details origin,
          records = before ++ bad :: after ∧
            (∀ v ∈ before, ∃ c, ofRecords [v] = .ok c) ∧
              ofRecords [bad] = .error (.validation message ⟨some "messages[0]", details, origin⟩) ∧
                ∀ before' after', before'.length = before.length →
                  (∀ v ∈ before', ∃ c, ofRecords [v] = .ok c) →
                    ofRecords (before' ++ bad :: after') =
                      .error (.validation message
                        ⟨some ("messages[" ++ toString before.length ++ "]"), details, origin⟩)) := by
  have alone : ∀ v, (∃ c, ofRecords [v] = .ok c) ↔ ∃ m, Represents v m := by
    simp [ofRecords_singleton_eq_ok_iff]
  constructor
  · intro cs all
    exact ofRecords_eq_ok_iff.2 (represents_flatten all)
  · intro some_not
    simp only [alone] at some_not ⊢
    rcases represents_or_first_bad records with
      ⟨c, all⟩ | ⟨before, bad, after, fault, rfl, good, rejected⟩
    · exact absurd (exists_represented all) some_not
    · have own := ofRecordsFrom_of_bad 0 (List.forall_mem_nil _) rejected []
      refine ⟨before, bad, after, _, _, _, rfl, good, own, ?_⟩
      intro before' after' same good'
      have first := ofRecordsFrom_of_bad 0 good' rejected after'
      rw [Nat.zero_add, same] at first
      exact first

/-- Of two bad values between accepted ones the first is named, with the details that it has alone. -/
theorem ofRecords_of_two_rejected :
    let records : List Json :=
      [.array [.string "system", .string "be brief"], .object [("role", .string "user")],
        .object [("content", .null), ("role", .string "robot")],
        .object [("content", .string "hi"), ("role", .string "user")]]
    (¬∀ v ∈ records, ∃ c, ofRecords [v] = .ok c) ∧
      ∃ before bad after message details origin,
        records = before ++ bad :: after ∧
          ofRecords [bad] = .error (.validation message ⟨some "messages[0]", details, origin⟩) ∧
            ofRecords records = .error (.validation message
              ⟨some ("messages[" ++ toString before.length ++ "]"), details, origin⟩) := by
  intro records
  have some_not : ¬∀ v ∈ records, ∃ c, ofRecords [v] = .ok c := by
    intro all
    obtain ⟨c, read⟩ := all (.object [("role", .string "user")]) (by simp [records])
    have rejected : (ofRecords [.object [("role", .string "user")]]).toBool = false := by decide
    rw [read] at rejected
    cases rejected
  obtain ⟨before, bad, after, message, details, origin, split, good, own, named⟩ :=
    (ofRecords_of_first_rejected records).2 some_not
  refine ⟨some_not, before, bad, after, message, details, origin, split, own, ?_⟩
  rw [split]
  exact named before after rfl good

end Conversation

end ChatClient
