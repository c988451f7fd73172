import ChatClient.Continuation.Generator

/-!
# Continuation of a stream as an iterator

The iterator hands on every item of every call, one for each request of its caller. It keeps the
stream it is reading, if there is one, and a mark that it has come to its end.
-/

namespace ChatClient.Continuation

variable {σ : Type}

/-- An iterator between two requests. -/
structure Iterator where
  continuation : Continuation
  state : State
  /-- The rest of the stream that is being read. -/
  current : Option (List Item)
  /-- The last item has been handed on. -/
  done : Bool := false

namespace Iterator

/-- The iterator before the first item. -/
def new (c : Continuation) (first : List Item) : Iterator :=
  { continuation := c, state := c.start, current := some first }

/-- The iterator at its end. -/
def close (it : Iterator) : Iterator := { it with done := true, current := none }

/-- The next item of the stream that is being read, with the iterator after it; `none` when there is
no such item. -/
def read? (it : Iterator) : Option (Item × Iterator) :=
  match it.current with
  | some (.ok e :: rest) =>
      some (.ok e, { it with current := some rest, state := it.state.absorb e })
  | some (.error e :: _) => some (.error e, it.close)
  | some [] => none
  | none => none

/-- The next item. -/
def next (E : Executor σ) (it : Iterator) (w : World σ) : Option Item × Iterator × World σ :=
  if it.done then (none, it, w)
  else
    match it.read? with
    | some (item, it) => (some item, it, w)
    | none =>
        if it.state.isTruncated then
          match it.state.beginRound with
          | .error e => (some (.error e), it.close, w)
          | .ok st =>
              match _h : E.invoke .blocking (it.continuation.template.followUp st.messages true)
                  (w.note st.roundNotice) with
              | (.error e, w) => (some (.error e), { it with state := st }.close, w)
              | (.ok reply, w) =>
                  match reply.intoStream with
                  | .error e => (some (.error e), { it with state := st }.close, w)
                  | .ok items => Iterator.next E { it with state := st, current := some items } w
        else (none, it.close, Generator.noteEnd it.state w)
termination_by E.supply w.supplier
decreasing_by
  have lt := E.supply_lt _ _ _ _ _ _h
  exact lt

end Iterator

end ChatClient.Continuation
