import ChatClient.Message
import ChatClient.Error

/-!
# Records as messages

A record is a JSON object with a role and a content, or an array of the two. A record that is
neither is refused with the first fault found: the members of an object are looked at in the order
of their keys, so the content comes before the role, and a missing member is reported only when
those present are sound.

A list of records becomes a conversation if every record becomes a message; otherwise the first bad
one is named (`Conversation.ofRecords`).
-/

namespace ChatClient

/-- Why a record is not a message. -/
inductive RecordFault where
  /-- The record is neither an object nor an array. -/
  | notRecord (found : Json)
  /-- The content is not a string. -/
  | contentNotString (found : Json)
  /-- The role is neither a string nor an object. -/
  | roleNotNamed (found : Json)
  /-- The role is an object that does not have exactly one key. -/
  | roleNotSingle
  /-- The role is an object with a value other than null. -/
  | rolePayload (found : Json)
  /-- The role has a name that is not known. -/
  | unknownRole (name : String)
  /-- The record has no such member. -/
  | missing (key : String)
  /-- The array has fewer than two items. -/
  | tooShort (length : Nat)
  /-- The array has more than two items. -/
  | tooLong (length : Nat)
deriving Repr

namespace RecordFault

/-- What a value is, in the words of a fault. -/
def describe : Json → String
  | .null => "null"
  | .bool b => "boolean `" ++ (if b then "true" else "false") ++ "`"
  | .number (.int n) => "integer `" ++ Number.intText n ++ "`"
  | .number (.float bits) => "floating point `" ++ Number.floatText bits ++ "`"
  | .string s => "string " ++ quoted s
  | .array _ => "sequence"
  | .object _ => "map"

/-- The text of a value of the wrong kind. -/
def wrongKind (found : Json) (expected : String) : String :=
  "invalid type: " ++ describe found ++ ", expected " ++ expected

/-- The text of a fault. -/
def text : RecordFault → String
  | .notRecord found => wrongKind found "struct Message"
  | .contentNotString found => wrongKind found "a string"
  | .roleNotNamed found => wrongKind found "string or map"
  | .roleNotSingle => "invalid value: map, expected map with a single key"
  | .rolePayload found => wrongKind found "unit"
  | .unknownRole name =>
      "unknown variant `" ++ name ++ "`, expected one of `system`, `user`, `assistant`"
  | .missing key => "missing field `" ++ key ++ "`"
  | .tooShort length =>
      "invalid length " ++ toString length ++ ", expected struct Message with 2 elements"
  | .tooLong length =>
      "invalid length " ++ toString length ++ ", expected fewer elements in array"

end RecordFault

namespace Message

/-- The role of that name. -/
def roleNamed (name : String) : Except RecordFault Role :=
  match Role.ofName? name with
  | some r => .ok r
  | none => .error (.unknownRole name)

/-- The role that a value stands for. -/
def readRole : Json → Except RecordFault Role
  | .string name => roleNamed name
  | .object [(name, payload)] => do
      let r ← roleNamed name
      if payload = .null then return r else throw (.rolePayload payload)
  | .object _ => .error .roleNotSingle
  | found => .error (.roleNotNamed found)

/-- The content that a value stands for. -/
def readContent : Json → Except RecordFault String
  | .string s => .ok s
  | found => .error (.contentNotString found)

/-- The message that a record stands for. -/
def ofRecord : Json → Except RecordFault Message
  | .object fields => do
      -- members are looked at in the order of their keys
      let content ← (Fields.get? "content" fields).mapM readContent
      let role ← (Fields.get? "role" fields).mapM readRole
      match role, content with
      | none, _ => throw (.missing "role")
      | some _, none => throw (.missing "content")
      | some r, some c => return ⟨r, c⟩
  | .array [] => .error (.tooShort 0)
  | .array [role] => do
      let _ ← readRole role
      throw (.tooShort 1)
  | .array (role :: content :: rest) => do
      let r ← readRole role
      let c ← readContent content
      if rest.isEmpty then return ⟨r, c⟩ else throw (.tooLong (rest.length + 2))
  | found => .error (.notRecord found)

end Message

namespace Conversation

/-- The error for the bad record at the given place. -/
def recordError (index : Nat) (fault : RecordFault) : Error :=
  .validation "record is not a \x7brole, content\x7d message"
    { field := some ("messages[" ++ toString index ++ "]")
      details := some fault.text
      origin := some "messages_input" }

/-- The messages of a list of records, the first of which stands at place `index`. -/
def ofRecordsFrom (index : Nat) : List Json → Except Error Conversation
  | [] => .ok []
  | record :: rest =>
      match Message.ofRecord record with
      | .error fault => .error (recordError index fault)
      | .ok m =>
          match ofRecordsFrom (index + 1) rest with
          | .error e => .error e
          | .ok c => .ok (m :: c)

/-- The conversation of a list of records; the first bad record is the error. -/
def ofRecords (records : List Json) : Except Error Conversation := ofRecordsFrom 0 records

end Conversation

/-- A conversation as a caller may give it. -/
inductive MessagesInput where
  | typed (conversation : Conversation)
  | raw (records : List Json)

/-- The conversation that the caller means. -/
def MessagesInput.normalize : MessagesInput → Except Error Conversation
  | .typed c => .ok c
  | .raw records => Conversation.ofRecords records

end ChatClient
