import ChatClient.Json.Raw
import ChatClient.Json.Printer

/-!
# Messages and conversations

A conversation is a list of messages, each with a role and a text; it grows at its end only. A round
of continuation adds two messages: what the assistant has said so far and the prompt to go on.

A conversation is written as a list of records `{role, content}`, or as the JSON text of that list.
Reading the text back is strict about the two keys, which must occur exactly once, and blind to all
others, whose values are skipped unread.
-/

namespace ChatClient

/-- Who speaks. -/
inductive Role where
  | system
  | user
  | assistant
deriving DecidableEq, Repr, Inhabited

namespace Role

/-- The name of a role. -/
def name : Role → String
  | .system => "system"
  | .user => "user"
  | .assistant => "assistant"

/-- The role with the given name. -/
def ofName? (s : String) : Option Role :=
  if s = "system" then some .system
  else if s = "user" then some .user
  else if s = "assistant" then some .assistant
  else none

/-- A role is read back from its name. -/
@[simp] theorem ofName?_name (r : Role) : ofName? r.name = some r := by cases r <;> decide

/-- Only the name of a role is read as that role. -/
theorem eq_name_of_ofName? {s : String} {r : Role} (h : ofName? s = some r) : s = r.name := by
  unfold ofName? at h
  split at h
  · cases h; assumption
  · split at h
    · cases h; assumption
    · split at h
      · cases h; assumption
      · cases h

end Role

/-- One entry of a conversation. -/
structure Message where
  role : Role
  content : String
deriving DecidableEq, Repr, Inhabited

/-- The record of a message. -/
def Message.toRecord (m : Message) : Json :=
  .object [("content", .string m.content), ("role", .string m.role.name)]

/-- The messages of a conversation, oldest first. -/
abbrev Conversation := List Message

/-- The user's turn that asks for the rest of a truncated reply. -/
def continuationPrompt : String := "继续"

namespace Conversation

/-- The conversation with one more message. -/
def push (c : Conversation) (m : Message) : Conversation := c ++ [m]

/-- The conversation with one more message, given by content and role. -/
def append (c : Conversation) (content : String) (role : Role) : Conversation :=
  c.push ⟨role, content⟩

/-- The conversation after one round of continuation: the fragment as the assistant's turn, then the
prompt. -/
def appendContinuation (c : Conversation) (fragment : String) : Conversation :=
  (c.append fragment .assistant).append continuationPrompt .user

theorem appendContinuation_eq (c : Conversation) (fragment : String) :
    c.appendContinuation fragment =
      c ++ [⟨.assistant, fragment⟩, ⟨.user, continuationPrompt⟩] := by
  simp [appendContinuation, append, push]

@[simp] theorem length_appendContinuation (c : Conversation) (fragment : String) :
    (c.appendContinuation fragment).length = c.length + 2 := by
  simp [appendContinuation_eq]

/-- The records of a conversation. -/
def toRecords (c : Conversation) : List Json := c.map Message.toRecord

/-- The JSON text of a message, the role before the content. -/
def messageText (m : Message) : String :=
  "\x7b\"role\":" ++ Json.stringText m.role.name ++ ",\"content\":" ++
    Json.stringText m.content ++ "\x7d"

/-- The JSON text of a conversation. -/
def text (c : Conversation) : String :=
  "[" ++ String.intercalate "," (c.map messageText) ++ "]"

/-- The role of a raw tree: its name, or an object whose only key is its name, with the value
null. -/
def roleOfRaw? : Raw → Option Role
  | .string t => t.bind Role.ofName?
  | .object [(key, .null)] => key.bind Role.ofName?
  | _ => none

/-- The text of a raw tree that is a string. -/
def contentOfRaw? : Raw → Option String
  | .string t => t
  | _ => none

/-- The values of the members with the given key. -/
def membersNamed (key : String) (members : List (Option String × Raw)) : List Raw :=
  (members.filter fun m => m.1 == some key).map Prod.snd

/-- The message of a raw tree: the pair of role and content as an array, or an object with each of
the two keys exactly once. -/
def messageOfRaw? : Raw → Option Message
  | .array [role, content] => do
      let r ← roleOfRaw? role
      let t ← contentOfRaw? content
      return ⟨r, t⟩
  | .object members =>
      if members.any (·.1.isNone) then none
      else
        match membersNamed "role" members, membersNamed "content" members with
        | [role], [content] => do
            let r ← roleOfRaw? role
            let t ← contentOfRaw? content
            return ⟨r, t⟩
        | _, _ => none
  | _ => none

/-- The conversation of a raw tree. -/
def ofRaw? : Raw → Option Conversation
  | .array items => items.mapM messageOfRaw?
  | _ => none

/-- The conversation of a JSON text. -/
def ofText? (s : String) : Option Conversation :=
  let cs := s.toList
  (Raw.read? cs.length cs).bind ofRaw?

end Conversation

end ChatClient
