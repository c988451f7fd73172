import ChatClient.Message.Record
import ChatClient.Proofs.Json.Reader
import ChatClient.Request
import Mathlib.Data.List.Basic

/-!
# Conversations on the wire

A conversation leaves the client in two forms: as the records in the body of a call, and as a JSON
text. Neither loses anything. The records are read back one by one
(`Conversation.ofRecordsFrom_toRecords`). The text is read back by the reader of JSON: an escaped
string first (`Raw.readText_stringChars`), then a message, then the messages in order
(`Conversation.read?_text`). The tree so read has the records as its value, and the conversation is
read off it.

The records in a body stand among the parameters of the call, which they do not disturb: the keys
`messages` and `stream` are those of the call, and all other members are the parameters
(`Conversation.survives_wire`).
-/

namespace ChatClient

/-! ## Strings -/

namespace Raw

open Json (escapeChar stringChars)

/-- Control characters are no halves of surrogate pairs, and two hexadecimal digits write them. -/
theorem hex4?_hexPair {n : Nat} (h : n < 0x20) :
    hex4? '0' '0' (Nat.digitChar (n / 16)) (Nat.digitChar (n % 16)) = some n ∧
      isHighSurrogate n = false ∧ isLowSurrogate n = false := by
  revert n
  decide

theorem readString_unit (acc : List Char) {a b c d : Char} {n : Nat} (read : hex4? a b c d = some n)
    (high : isHighSurrogate n = false) (low : isLowSurrogate n = false) (r : List Char) :
    readString acc true none ('\\' :: 'u' :: a :: b :: c :: d :: r) =
      readString (Char.ofNat n :: acc) true none r := by
  have unit := @readString_of_hex acc true a b c d n read r
  rw [high, low] at unit
  exact unit

theorem readString_plain (acc : List Char) {c : Char} (quote : c ≠ '"') (backslash : c ≠ '\\')
    (plain : ¬c.toNat < 0x20) (r : List Char) :
    readString acc true none (c :: r) = readString (c :: acc) true none r := by
  rw [readString, if_neg (not_or.2 ⟨plain, backslash⟩)]
  · exact quote
  · intro _ _ _ _ _ h
    exact absurd h backslash
  · intro _ _ h
    exact absurd h backslash

/-- A character is read back from its escaped form. -/
theorem readString_escapeChar (acc : List Char) (c : Char) (r : List Char) :
    readString acc true none (escapeChar c ++ r) = readString (c :: acc) true none r := by
  by_cases letter : c ∈ ['"', '\\', '\x08', '\x0c', '\n', '\r', '\t']
  · -- the escapes of one letter compute
    simp only [List.mem_cons, List.not_mem_nil, or_false] at letter
    rcases letter with rfl | rfl | rfl | rfl | rfl | rfl | rfl
    all_goals rfl
  · simp only [List.mem_cons, List.not_mem_nil, or_false, not_or] at letter
    obtain ⟨quote, backslash, b, f, n, r, t⟩ := letter
    rw [escapeChar, if_neg quote, if_neg backslash, if_neg b, if_neg f, if_neg n, if_neg r,
      if_neg t]
    by_cases control : c.toNat < 0x20
    · obtain ⟨read, high, low⟩ := hex4?_hexPair control
      rw [if_pos control]
      have unit := readString_unit acc read high low
      rw [Char.ofNat_toNat] at unit
      exact unit _
    · rw [if_neg control, List.singleton_append, readString_plain acc quote backslash control]

theorem readString_flatMap (acc s r : List Char) :
    readString acc true none (s.flatMap escapeChar ++ '"' :: r) =
      some (some (String.ofList (acc.reverse ++ s)), r) := by
  induction s generalizing acc with
  | nil =>
      rw [List.append_nil]
      rfl
  | cons c s ih =>
      rw [List.flatMap_cons, List.append_assoc, readString_escapeChar, ih, List.reverse_cons,
        List.append_assoc, List.singleton_append]

/-- A string is read back from its text, whatever comes after it. -/
theorem readText_stringChars (s r : List Char) :
    readText (s.flatMap escapeChar ++ '"' :: r) = some (some (String.ofList s), r) :=
  readString_flatMap [] s r

theorem readValue_stringChars (fuel depth : Nat) (s r : List Char) :
    readValue (fuel + 1) depth (stringChars s ++ r) =
      some (.string (some (String.ofList s)), r) := by
  have value : readValue (fuel + 1) depth ('"' :: (s.flatMap escapeChar ++ '"' :: r)) =
      (readText (s.flatMap escapeChar ++ '"' :: r)).map fun p => (.string p.1, p.2) := rfl
  rw [stringChars, List.cons_append, List.cons_append, List.append_assoc, List.singleton_append,
    value, readText_stringChars]
  rfl

/-! ## Members and items -/

theorem skipBlanks_cons {c : Char} (h : isBlank c = false) (r : List Char) :
    skipBlanks (c :: r) = c :: r := by
  apply skipBlanks_of_head
  rintro d ⟨⟩
  exact h

section Members

variable {fuel depth : Nat} (acc : List (Option String × Raw)) (key : List Char) {v : Raw}
  {s r : List Char}

/-- A member, before another one. -/
theorem readMembers_of_comma (value : readValue fuel depth s = some (v, ',' :: r)) :
    readMembers (fuel + 1) depth acc (stringChars key ++ ':' :: s) =
      readMembers fuel depth ((some (String.ofList key), v) :: acc) r := by
  have quote := skipBlanks_cons (c := '"') rfl (key.flatMap escapeChar ++ '"' :: ':' :: s)
  have colon := skipBlanks_cons (c := ':') rfl s
  have comma := skipBlanks_cons (c := ',') rfl r
  rw [stringChars, List.cons_append, List.cons_append, List.append_assoc, List.singleton_append]
  simp only [readMembers, quote, readText_stringChars, colon, value, comma]

/-- The last member. -/
theorem readMembers_of_brace (value : readValue fuel depth s = some (v, '}' :: r)) :
    readMembers (fuel + 1) depth acc (stringChars key ++ ':' :: s) =
      some (((some (String.ofList key), v) :: acc).reverse, r) := by
  have quote := skipBlanks_cons (c := '"') rfl (key.flatMap escapeChar ++ '"' :: ':' :: s)
  have colon := skipBlanks_cons (c := ':') rfl s
  have brace := skipBlanks_cons (c := '}') rfl r
  rw [stringChars, List.cons_append, List.cons_append, List.append_assoc, List.singleton_append]
  simp only [readMembers, quote, readText_stringChars, colon, value, brace]

/-- The members of an object. -/
theorem readValue_of_readMembers {members : List (Option String × Raw)}
    (read : readMembers fuel depth [] (stringChars key ++ s) = some (members, r)) :
    readValue (fuel + 1) (depth + 1) ('{' :: (stringChars key ++ s)) =
      some (.object members, r) := by
  have object : readValue (fuel + 1) (depth + 1) ('{' :: (stringChars key ++ s)) =
      (readMembers fuel depth [] (stringChars key ++ s)).map fun p =>
        (.object p.1, p.2) := rfl
  rw [object, read]
  rfl

end Members

section Items

variable {fuel depth : Nat} (acc : List Raw) {v : Raw} {s r : List Char}

/-- An item, before another one. -/
theorem readItems_of_comma (value : readValue fuel depth s = some (v, ',' :: r)) :
    readItems (fuel + 1) depth acc s = readItems fuel depth (v :: acc) r := by
  rw [readItems, value]
  rfl

/-- The last item. -/
theorem readItems_of_bracket (value : readValue fuel depth s = some (v, ']' :: r)) :
    readItems (fuel + 1) depth acc s = some ((v :: acc).reverse, r) := by
  rw [readItems, value]
  rfl

/-- An array of objects that is a text of its own. -/
theorem read?_of_readItems {items : List Raw}
    (read : readItems (2 * ('{' :: s).length + 3) depth [] ('{' :: s) = some (items, [])) :
    read? (depth + 1) ('[' :: '{' :: s) = some (.array items) := by
  have array : readValue (2 * ('{' :: s).length + 3 + 1) (depth + 1) ('[' :: '{' :: s) =
      (readItems (2 * ('{' :: s).length + 3) depth [] ('{' :: s)).map fun p =>
        (.array p.1, p.2) := rfl
  have fuel : 2 * ('[' :: '{' :: s).length + 2 = 2 * ('{' :: s).length + 3 + 1 := by
    rw [List.length_cons]
    omega
  rw [read] at array
  rw [read?, fuel, array]
  rfl

end Items

end Raw

namespace Conversation

open Json (stringChars)
open Raw (readValue readItems readMembers)

/-! ## Messages as texts -/

/-- The characters of the text of a message. -/
def messageChars (m : Message) : List Char :=
  '{' :: (stringChars "role".toList ++ ':' :: (stringChars m.role.name.toList ++ ',' ::
    (stringChars "content".toList ++ ':' :: (stringChars m.content.toList ++ ['}']))))

theorem toList_messageText (m : Message) : (messageText m).toList = messageChars m := by
  simp only [messageText, messageChars, Json.stringText, String.toList_append, String.toList_ofList,
    List.append_assoc]
  rfl

/-- The tree of the text of a message. -/
def messageRaw (m : Message) : Raw :=
  .object [(some "role", .string (some m.role.name)), (some "content", .string (some m.content))]

theorem readValue_messageChars (fuel depth : Nat) (m : Message) (r : List Char) :
    readValue (fuel + 4) (depth + 1) (messageChars m ++ r) = some (messageRaw m, r) := by
  have content := Raw.readValue_stringChars fuel depth m.content.toList ('}' :: r)
  have last := Raw.readMembers_of_brace
    [(some (String.ofList "role".toList), .string (some (String.ofList m.role.name.toList)))]
    "content".toList content
  have role := Raw.readValue_stringChars (fuel + 1) depth m.role.name.toList
    (',' :: (stringChars "content".toList ++ ':' :: (stringChars m.content.toList ++ '}' :: r)))
  have members := Raw.readMembers_of_comma [] "role".toList role
  rw [last] at members
  have object := Raw.readValue_of_readMembers "role".toList members
  simp only [messageChars, List.cons_append, List.append_assoc, List.nil_append]
  rw [object, List.reverse_cons]
  simp [messageRaw]

/-- The characters of the text of a conversation after its first message. -/
def laterChars (c : Conversation) : List Char :=
  c.flatMap (fun m => ',' :: messageChars m) ++ [']']

theorem laterChars_cons (m : Message) (c : Conversation) :
    laterChars (m :: c) = ',' :: (messageChars m ++ laterChars c) := by
  rw [laterChars, List.flatMap_cons, List.append_assoc]
  rfl

theorem length_lt_laterChars (c : Conversation) : c.length < (laterChars c).length := by
  induction c with
  | nil => exact Nat.one_pos
  | cons m c ih =>
      rw [laterChars_cons, List.length_cons, List.length_cons, List.length_append]
      omega

theorem intercalate_messageChars (m : Message) (c : Conversation) :
    [','].intercalate ((m :: c).map messageChars) ++ [']'] = messageChars m ++ laterChars c := by
  induction c generalizing m with
  | nil => simp [laterChars, List.intercalate]
  | cons n c ih =>
      rw [laterChars_cons, ← ih n]
      simp [List.intercalate]

theorem toList_text_cons (m : Message) (c : Conversation) :
    (text (m :: c)).toList = '[' :: (messageChars m ++ laterChars c) := by
  rw [← intercalate_messageChars]
  have texts : ((m :: c).map messageText).map String.toList = (m :: c).map messageChars := by
    rw [List.map_map]
    exact List.map_congr_left fun n _ => toList_messageText n
  simp only [text, String.toList_append, String.toList_intercalate, texts]
  rfl

/-- The messages of a text in order. -/
theorem readItems_messageChars {fuel : Nat} (depth : Nat) (acc : List Raw) (m : Message)
    {c : Conversation} (enough : c.length + 5 ≤ fuel) :
    readItems fuel (depth + 1) acc (messageChars m ++ laterChars c) =
      some (acc.reverse ++ (m :: c).map messageRaw, []) := by
  induction c generalizing fuel acc m with
  | nil =>
      obtain ⟨fuel, rfl⟩ := Nat.exists_eq_add_of_le' enough
      have item := readValue_messageChars fuel depth m [']']
      have items := Raw.readItems_of_bracket acc item
      rw [List.reverse_cons] at items
      exact items
  | cons n c ih =>
      obtain ⟨fuel, rfl⟩ := Nat.exists_eq_add_of_le' enough
      have item := readValue_messageChars (fuel + c.length + 1) depth m
        (',' :: (messageChars n ++ laterChars c))
      have left : c.length + 5 ≤ fuel + c.length + 5 := by omega
      have rest := ih (messageRaw m :: acc) n left
      rw [laterChars_cons]
      refine (Raw.readItems_of_comma acc item).trans (rest.trans ?_)
      rw [List.reverse_cons, List.append_assoc]
      rfl

/-- The tree of the text of a conversation, read with any bound on the nesting that allows it. -/
theorem read?_text (c : Conversation) {depth : Nat} (deep : 2 ≤ depth) :
    Raw.read? depth c.text.toList = some (.array (c.map messageRaw)) := by
  obtain ⟨depth, rfl⟩ := Nat.exists_eq_add_of_le' deep
  cases c with
  | nil => rfl
  | cons m c =>
      -- the fuel is twice the length of the text, which is more than the number of messages
      have enough : c.length + 5 ≤ 2 * (messageChars m ++ laterChars c).length + 3 := by
        have long := length_lt_laterChars c
        rw [List.length_append]
        omega
      have items := readItems_messageChars depth [] m enough
      rw [toList_text_cons]
      exact Raw.read?_of_readItems items

theorem two_le_length_text (c : Conversation) : 2 ≤ c.text.toList.length := by
  cases c with
  | nil => decide
  | cons m c =>
      have long := length_lt_laterChars c
      rw [toList_text_cons, List.length_cons, List.length_append]
      omega

/-! ## The value and the messages of the tree -/

theorem toJson?_messageRaw (m : Message) : (messageRaw m).toJson? = some m.toRecord := by
  have before : "content" < "role" := by decide
  have other : ¬"role" = "content" := by decide
  simp only [messageRaw, Raw.toJson?, Raw.toPairs?, Option.map_some, Fields.ofPairs,
    List.foldl_cons, List.foldl_nil, Fields.insert, other, before, if_true, if_false]
  rfl

theorem toItems?_map_messageRaw (c : Conversation) :
    Raw.toItems? (c.map messageRaw) = some c.toRecords := by
  induction c with
  | nil => rfl
  | cons m c ih =>
      rw [List.map_cons, Raw.toItems?, toJson?_messageRaw, ih]
      rfl

theorem messageOfRaw?_messageRaw (m : Message) : messageOfRaw? (messageRaw m) = some m := by
  have role : membersNamed "role" [(some "role", .string (some m.role.name)),
      (some "content", .string (some m.content))] = [.string (some m.role.name)] := rfl
  have content : membersNamed "content" [(some "role", .string (some m.role.name)),
      (some "content", .string (some m.content))] = [.string (some m.content)] := rfl
  rw [messageRaw, messageOfRaw?, role, content]
  simp [roleOfRaw?, contentOfRaw?]

theorem mapM_messageOfRaw? (c : Conversation) :
    (c.map messageRaw).mapM messageOfRaw? = some c := by
  induction c with
  | nil => rfl
  | cons m c ih =>
      rw [List.map_cons, List.mapM_cons, messageOfRaw?_messageRaw, ih]
      rfl

/-! ## Records -/

theorem ofRecord_toRecord (m : Message) : Message.ofRecord m.toRecord = .ok m := by
  have role : Message.readRole (.string m.role.name) = .ok m.role := by
    rw [Message.readRole, Message.roleNamed, Role.ofName?_name]
  have content_at : Fields.get? "content"
      [("content", Json.string m.content), ("role", Json.string m.role.name)] =
        some (.string m.content) := rfl
  have role_at : Fields.get? "role"
      [("content", Json.string m.content), ("role", Json.string m.role.name)] =
        some (.string m.role.name) := rfl
  rw [Message.toRecord, Message.ofRecord, content_at, role_at, Option.mapM_some, Option.mapM_some,
    role]
  rfl

theorem ofRecordsFrom_toRecords (index : Nat) (c : Conversation) :
    ofRecordsFrom index c.toRecords = .ok c := by
  induction c generalizing index with
  | nil => rfl
  | cons m c ih =>
      show ofRecordsFrom index (m.toRecord :: toRecords c) = _
      rw [ofRecordsFrom, ofRecord_toRecord]
      dsimp only
      rw [ih]

end Conversation

/-! ## Members of a body -/

/-- An insertion leaves the members under other keys as they are. -/
theorem Fields.filter_insert {α : Type} {key : String} {others : String → Bool}
    (h : others key = false) (value : α) (f : Fields α) :
    (insert key value f).filter (others ∘ Prod.fst) = f.filter (others ∘ Prod.fst) := by
  have own (v : α) : ¬(others ∘ Prod.fst) (key, v) = true := by
    rw [Function.comp_apply, h]
    exact Bool.false_ne_true
  induction f with
  | nil => exact List.filter_cons_of_neg (own value)
  | cons p r ih =>
      obtain ⟨k, v⟩ := p
      rw [insert]
      split
      · next same =>
          subst same
          rw [List.filter_cons_of_neg (own value), List.filter_cons_of_neg (own v)]
      · split
        · exact List.filter_cons_of_neg (own value)
        · rw [List.filter_cons, List.filter_cons, ih]

/-- The key is none of the two that a call sets itself. -/
def Request.isParam (key : String) : Bool := key != "messages" && key != "stream"

theorem Request.get?_body (r : Request) (key : String) :
    r.body.get? key =
      if "stream" = key then some (.bool r.stream)
      else if "messages" = key then some (.array r.messages.toRecords)
      else Fields.get? key r.params := by
  show Fields.get? key r.bodyFields = _
  rw [bodyFields, Fields.get?_insert, paramsWithMessages, Fields.get?_insert]

/-- Conversations survive the wire. The records of a conversation are read back as the conversation.
They are the `messages` of the body of a call, its `stream` is the mode of the call, and all other
members are the parameters, whatever their keys. The text of the conversation has the value of the
records, and it is read back as the conversation too. -/
theorem Conversation.survives_wire (b : Conversation) (params : Fields Json) (stream : Bool)
    (r : Request) :
    let call := { r with messages := b, stream, params }
    ofRecords b.toRecords = .ok b ∧
      (call.body.get? "messages" = some (.array b.toRecords) ∧
        call.body.get? "stream" = some (.bool stream) ∧
        (∀ key, Request.isParam key = true → call.body.get? key = Fields.get? key params) ∧
        ∃ fields, call.body = .object fields ∧
          fields.filter (Request.isParam ∘ Prod.fst) = params.filter (Request.isParam ∘ Prod.fst)) ∧
      Json.parse? b.text.toList = some (.array b.toRecords) ∧ ofText? b.text = some b := by
  intro call
  refine ⟨ofRecordsFrom_toRecords 0 b, ⟨?_, ?_, ?_, call.bodyFields, rfl, ?_⟩, ?_, ?_⟩
  · rw [Request.get?_body, if_neg (by decide), if_pos rfl]
  · rw [Request.get?_body, if_pos rfl]
  · intro key param
    rw [Request.isParam, Bool.and_eq_true, bne_iff_ne, bne_iff_ne] at param
    rw [Request.get?_body, if_neg param.2.symm, if_neg param.1.symm]
  · rw [Request.bodyFields, Fields.filter_insert (by decide), Request.paramsWithMessages,
      Fields.filter_insert (by decide)]
  · have deep : 2 ≤ Json.maxDepth := by decide
    rw [Json.parse?, read?_text b deep, Option.bind_some, Raw.toJson?, toItems?_map_messageRaw]
    rfl
  · rw [ofText?, read?_text b (two_le_length_text b), Option.bind_some]
    exact mapM_messageOfRaw? b

end ChatClient
