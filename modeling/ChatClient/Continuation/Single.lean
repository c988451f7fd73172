import ChatClient.Continuation.State

/-!
# Continuation of a single reply

As long as the last envelope was truncated, the reply is asked for further, one call after the
other. The answer is the last envelope; when there was more than one call, it holds the text of all.
-/

namespace ChatClient

/-- A reply to be completed: the first call, which further calls repeat with a longer conversation,
and the cap on rounds. -/
structure Continuation where
  template : Request
  maxRounds : Option Nat

namespace Continuation

variable {σ : Type}

/-- The state before the first envelope. -/
def start (c : Continuation) : State := .new c.template.messages c.maxRounds

/-- The final envelope: untouched after the first call, else with the text of all calls. -/
def finish (st : State) (last : Envelope) (w : World σ) : Except Error Envelope × World σ :=
  if 0 < st.rounds then
    (.ok (last.replaceResult st.accumulated), w.note (.replyCompleted st.rounds))
  else (.ok last, w)

/-- Completion of a reply whose last envelope has been absorbed. -/
def completeFrom (c : Continuation) (E : Executor σ) (g : Regime) (st : State) (last : Envelope)
    (w : World σ) : Except Error Envelope × World σ :=
  if st.isTruncated then
    match st.beginRound with
    | .error e => (.error e, w)
    | .ok st =>
        match _h : E.invoke g (c.template.followUp st.messages false) (w.note st.roundNotice) with
        | (.error e, w) => (.error e, w)
        | (.ok reply, w) =>
            match reply.intoEnvelope with
            | .error e => (.error e, w)
            | .ok e => completeFrom c E g (st.absorb e) e w
  else finish st last w
termination_by E.supply w.supplier
decreasing_by
  have lt := E.supply_lt _ _ _ _ _ _h
  exact lt

/-- Completion of a reply that begins with the given envelope. -/
def complete (c : Continuation) (E : Executor σ) (g : Regime) (first : Envelope) (w : World σ) :
    Except Error Envelope × World σ :=
  completeFrom c E g (c.start.absorb first) first w

end Continuation

end ChatClient
