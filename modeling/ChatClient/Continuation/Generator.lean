import ChatClient.Continuation.Single

/-!
# Continuation of a stream as a generator

The generator hands on every item of every call. It runs only when it is resumed, up to the next
item: it drains the stream of a call, and when that is exhausted and its last envelope was
truncated, it makes the next call and drains the stream of that. The first error is its last item.
-/

namespace ChatClient.Continuation

variable {σ : Type}

/-- Where a generator stands between two items. -/
inductive Point where
  /-- In the stream of a call, before these items. -/
  | draining (items : List Item)
  /-- After its last item. -/
  | finished

/-- A generator at rest. -/
structure Generator where
  continuation : Continuation
  state : State
  point : Point

namespace Generator

/-- The generator before the first item. -/
def new (c : Continuation) (first : List Item) : Generator := ⟨c, c.start, .draining first⟩

/-- The notice at the regular end of a stream that took more than one call. -/
def noteEnd (st : State) (w : World σ) : World σ :=
  if 0 < st.rounds then w.note (.streamCompleted st.rounds) else w

/-- The run of a generator from a stream to its next item. -/
def resumeFrom (c : Continuation) (E : Executor σ) (st : State) (items : List Item) (w : World σ) :
    Option Item × Generator × World σ :=
  match items with
  | .ok e :: rest => (some (.ok e), ⟨c, st.absorb e, .draining rest⟩, w)
  | .error e :: _ => (some (.error e), ⟨c, st, .finished⟩, w)
  | [] =>
      if st.isTruncated then
        match st.beginRound with
        | .error e => (some (.error e), ⟨c, st, .finished⟩, w)
        | .ok st =>
            match _h : E.invoke .async (c.template.followUp st.messages true)
                (w.note st.roundNotice) with
            | (.error e, w) => (some (.error e), ⟨c, st, .finished⟩, w)
            | (.ok reply, w) =>
                match reply.intoStream with
                | .error e => (some (.error e), ⟨c, st, .finished⟩, w)
                | .ok next => resumeFrom c E st next w
      else (none, ⟨c, st, .finished⟩, noteEnd st w)
termination_by E.supply w.supplier
decreasing_by
  have lt := E.supply_lt _ _ _ _ _ _h
  exact lt

/-- The run of a generator to its next item. -/
def resume (E : Executor σ) (gen : Generator) (w : World σ) : Option Item × Generator × World σ :=
  match gen.point with
  | .finished => (none, gen, w)
  | .draining items => resumeFrom gen.continuation E gen.state items w

end Generator

end ChatClient.Continuation
