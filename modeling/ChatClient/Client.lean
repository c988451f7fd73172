import ChatClient.Catalog
import ChatClient.Feed
import ChatClient.Message.Record

/-!
# The client

A completion goes to the alternate backend when one is installed, it is not disabled, and it may
serve the model; the reply then reaches the caller as it is. In every other case it goes to the
executor. With automatic continuation a truncated reply is asked for further: a single one until it
is complete, a stream as its items are read.
-/

namespace ChatClient

/-- A completion as a caller asks for it. -/
structure CompletionRequest where
  messages : MessagesInput
  model : Option String := none
  endpoint : Option String := none
  stream : Bool := false
  options : Options := {}
  /-- Go on asking until the reply is no longer truncated. -/
  autoContinue : Bool := false
  /-- The cap on rounds for this completion alone, `some none` for no cap. -/
  maxRounds : Option (Option Nat) := none
  params : Fields Json := []

namespace CompletionRequest

/-- Sets one parameter. -/
def withParam (q : CompletionRequest) (key : String) (value : Json) : CompletionRequest :=
  { q with params := Fields.insert key value q.params }

/-- Sets the sampling temperature. -/
def withTemperature (q : CompletionRequest) (t : Float) : CompletionRequest :=
  q.withParam "temperature" (.ofFloat t)

/-- Sets the bound of nucleus sampling. -/
def withTopP (q : CompletionRequest) (p : Float) : CompletionRequest :=
  q.withParam "top_p" (.ofFloat p)

/-- Sets the cap on rounds; zero stands for no cap. -/
def withMaxRounds (q : CompletionRequest) (rounds : Nat) : CompletionRequest :=
  { q with maxRounds := some (Settings.capOf rounds) }

/-- The first call, once the conversation is known. -/
def request (q : CompletionRequest) (messages : Conversation) : Request where
  model := q.model
  endpoint := q.endpoint
  stream := q.stream
  messages := messages
  options := q.options
  params := q.params

/-- The notices before the first call: parameters that the model does not document, and the call
itself. -/
def notices (q : CompletionRequest) (messages : Conversation) : List Notice :=
  let unknown := Catalog.undocumented q.model q.endpoint q.params
  (if unknown.isEmpty then []
   else [.undocumentedParams (q.model.getD Catalog.defaultModel) unknown]) ++
    [.dispatching q.model q.endpoint q.stream messages.length q.autoContinue]

end CompletionRequest

/-- A client: its settings, what answers its calls, and what may answer some of them instead. -/
structure Client (σ : Type) where
  settings : Settings
  executor : Executor σ
  alternate : Option (Backend σ) := none

/-- The stream of a continuation in the regime of its caller. -/
def Continuation.feed (c : Continuation) (g : Regime) (first : List Item) : Feed :=
  match g with
  | .async => .generated (.new c first)
  | .blocking => .iterated (.new c first)

/-- The reply with its stream opened as it is. -/
def Reply.opened : Reply (List Item) → Reply Feed
  | .single e => .single e
  | .stream items => .stream (.plain items)

namespace Client

variable {σ : Type}

/-- The backend that serves the model instead of the executor, if one does. -/
def alternateFor (c : Client σ) (model : Option String) : Option (Backend σ) :=
  match c.alternate, model with
  | some b, some m =>
      if !c.settings.disableAlternate && Catalog.alternateModels.contains m then some b else none
  | _, _ => none

/-- The call of the alternate backend for a request. -/
def alternateCall (c : Client σ) (r : Request) : AlternateCall where
  credentials := c.settings.credentials
  model := Catalog.alternateName (r.model.getD "")
  stream := r.stream
  params := r.paramsWithMessages

/-- The cap on rounds of a completion: its own, or else that of the client. -/
def cap (c : Client σ) (q : CompletionRequest) : Option Nat :=
  q.maxRounds.getD c.settings.maxRounds

/-- The reply of a call, continued as long as it is truncated. -/
def continueReply (c : Client σ) (g : Regime) (k : Continuation) (reply : Reply (List Item))
    (w : World σ) : Except Error (Reply Feed) × World σ :=
  if k.template.stream then
    match reply.intoStream with
    | .error e => (.error e, w)
    | .ok items => (.ok (.stream (k.feed g items)), w)
  else
    match reply.intoEnvelope with
    | .error e => (.error e, w)
    | .ok first =>
        match k.complete c.executor g first w with
        | (.error e, w) => (.error e, w)
        | (.ok e, w) => (.ok (.single e), w)

/-- A completion by the executor. -/
def completeNative (c : Client σ) (g : Regime) (q : CompletionRequest) (r : Request)
    (w : World σ) : Except Error (Reply Feed) × World σ :=
  match c.executor.invoke g r w with
  | (.error e, w) => (.error e, w)
  | (.ok reply, w) =>
      if q.autoContinue then c.continueReply g ⟨r, c.cap q⟩ reply w
      else (.ok reply.opened, w)

/-- A completion by the alternate backend. -/
def completeAlternate (c : Client σ) (b : Backend σ) (g : Regime) (r : Request) (w : World σ) :
    Except Error (Reply Feed) × World σ :=
  let call := c.alternateCall r
  match b.create g call (w.note (.delegating call.model)) with
  | (.error e, w) => (.error e, w)
  | (.ok reply, w) => (.ok reply.opened, w)

/-- A completion. -/
def complete (c : Client σ) (g : Regime) (q : CompletionRequest) (w : World σ) :
    Except Error (Reply Feed) × World σ :=
  match q.messages.normalize with
  | .error e => (.error e, w)
  | .ok messages =>
      let r := q.request messages
      let w := (q.notices messages).foldl World.note w
      match c.alternateFor r.model with
      | some b => c.completeAlternate b g r w
      | none => c.completeNative g q r w

end Client

end ChatClient
