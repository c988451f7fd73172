import ChatClient.Executor

/-!
# The state of a continuation

Bookkeeping for one reply that is asked for in several calls. `absorb` takes in the text of one
envelope, `beginRound` turns the text of the last call into an assistant's turn and asks for more.
The conversation is a working copy; the number of rounds may be capped.
-/

namespace ChatClient

namespace Continuation

/-- Bookkeeping for one reply that is asked for in several calls. -/
structure State where
  /-- The text of all calls so far. -/
  accumulated : String := ""
  /-- The text of the last call. -/
  current : String := ""
  /-- The last envelope was cut short. -/
  isTruncated : Bool := false
  /-- The conversation as the next call will see it. -/
  messages : Conversation
  /-- The rounds begun so far. -/
  rounds : Nat := 0
  /-- The most rounds allowed; `none` for no bound. -/
  maxRounds : Option Nat
deriving DecidableEq, Repr

namespace State

/-- The state before the first envelope. -/
def new (messages : Conversation) (maxRounds : Option Nat) : State := { messages, maxRounds }

/-- The state after one more envelope. -/
def absorb (st : State) (e : Envelope) : State :=
  { st with
    accumulated := st.accumulated ++ e.result
    current := st.current ++ e.result
    isTruncated := e.isTruncated }

/-- The cap leaves no room for another round. -/
def atCap (st : State) : Bool :=
  match st.maxRounds with
  | none => false
  | some m => m ≤ st.rounds

/-- The state after the start of one more round, if the cap allows it. -/
def beginRound (st : State) : Except Error State :=
  if st.atCap then .error (.continuationLimitExceeded st.rounds)
  else
    .ok { st with
      messages := st.messages.appendContinuation st.current
      current := ""
      rounds := st.rounds + 1 }

/-- The notice for a round that has begun. -/
def roundNotice (st : State) : Notice :=
  .requestingContinuation st.rounds st.messages.length

end State

end Continuation

end ChatClient
