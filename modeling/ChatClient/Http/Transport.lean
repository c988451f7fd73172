import ChatClient.Catalog
import ChatClient.EventStream.Chunked
import ChatClient.EventStream.Lined
import ChatClient.Http.Payload
import ChatClient.Http.RequestId
import ChatClient.Http.Url
import ChatClient.Retry.Run

/-!
# The HTTP executor

Every call is a `POST` of the request's JSON body to the URL of its endpoint, repeated as the retry
policy says. A single reply is read from the whole body. A streaming reply is open as soon as the
answer is accepted; what happens inside the stream is not retried. The two regimes decode the stream
in different ways.

Names are looked up, connections opened and numbers drawn outside of the executor. What comes of that
is given to it, whatever it is (`Surroundings`).
-/

namespace ChatClient.Http

/-- What the executor finds around itself. -/
structure Surroundings where
  /-- The URL leads to the server: its host is found, and a connection is opened as the scheme asks
  for it. A host name beyond ASCII is given as it was written. -/
  leads : Url → Bool := fun _ => true
  /-- The random part of a wait, from 0 to below 1, by the number of requests sent so far. -/
  chance : Nat → Float := fun _ => 0.0
  /-- The random number of 122 bits in the identifier of a request, by the number of requests sent
  before it. -/
  draw : Nat → Nat := fun n => n

/-- What the executor needs of the settings, and what it finds around itself. -/
structure Transport extends Surroundings where
  baseUrl : String
  accessToken : Option String
  retryCodes : CodeSet
  maxWait : Duration
  jitter : Float

namespace Transport

/-- The executor of a client's settings. -/
def ofSettings (s : Settings) (around : Surroundings := {}) : Transport where
  toSurroundings := around
  baseUrl := dropTrailingSlashes s.baseUrl
  accessToken := s.credentials.accessToken
  retryCodes := s.retryCodes
  maxWait := s.maxWait
  jitter := s.jitter

/-- The URL of a request. -/
def url (t : Transport) (r : Request) : Except Error String :=
  match Catalog.resolve r.model r.endpoint with
  | .error e => .error e
  | .ok path => .ok (t.baseUrl ++ path)

/-- The retry policy of a request. -/
def policy (t : Transport) (r : Request) : RetryPolicy :=
  (RetryPolicy.new r.options t.retryCodes t.maxWait).withJitter t.jitter

/-- The URL with the access token, if there is one. -/
def authorize (t : Transport) (u : Url) : Url :=
  match t.accessToken with
  | none => u
  | some token => u.withPair "access_token" token

/-- The request as the server receives it. -/
def message (t : Transport) (r : Request) (u : Url) (serial : Nat) : Message where
  method := "POST"
  target := u.target
  contentType := "application/json"
  requestId := RequestId.ofNat (t.draw serial)
  body := r.body.render

/-- The world after a request was sent. -/
def sendMessage (t : Transport) (r : Request) (u : Url) (w : World Server) : World Server :=
  { w.record (.sent (t.message r u w.serial)) with serial := w.serial + 1 }

/-- The response if it reports success, else the error. Redirects have been followed before. -/
def judge (r : Response) : Except Error Response :=
  if r.isSuccess then .ok r
  else
    let text := match r.text with
      | .ok text => text
      | .error _ => ""
    .error (Payload.statusError r.status r.headers text)

/-- The URL that a request is sent to, with the access token, if it leads to the server. -/
def address (t : Transport) (url : String) : Except Error Url :=
  match (Url.parse? url).map t.authorize with
  | none => .error (.transport .invalidUrl)
  | some u =>
      if !u.isShort then .error (.transport .invalidUrl)
      else if t.leads u then .ok u
      else .error (.transport .unreachable)

/-- One attempt up to the head of the answer. -/
def send (t : Transport) (r : Request) (url : String) (w : World Server) :
    Except Error Response × World Server :=
  let w := w.note (.sending r.stream)
  match t.address url with
  | .error e => (.error e, w)
  | .ok u =>
      let w := t.sendMessage r u w
      let (response, rest) := w.supplier.next
      let outcome := match response with
        | none => .error (.transport .noAnswer)
        | some response => judge response
      (outcome, w.withSupplier rest)

/-- The statistics of an exchange that began at `start` and is read out at `now`. -/
def statistics (start now : Duration) : Statistics where
  requestLatency := some (start.since now)
  totalLatency := some (start.since now)
  startTimestamp := some start.millis

/-- What is known of the time of a stream: when its call began, when it was opened, and when the last
chunk so far came. -/
structure ChunkTimer where
  start : Duration
  opened : Duration
  last : Option Duration := none

/-- The statistics of a chunk that comes now, and the timer after it. The latency of the first chunk
counts from the start, that of any other from the chunk before it. -/
def ChunkTimer.tick (timer : ChunkTimer) (now : Duration) : Statistics × ChunkTimer :=
  let firstTokenLatency := timer.start.since timer.opened
  let requestLatency := match timer.last with
    | none => firstTokenLatency
    | some before => before.since now
  ({ requestLatency := some requestLatency
     firstTokenLatency := some firstTokenLatency
     totalLatency := some (timer.start.since now)
     startTimestamp := some timer.start.millis },
    { timer with last := some now })

/-- The envelope of a payload, with what is known of the answer. -/
def label (r : Response) (s : Statistics) (e : Envelope) : Envelope :=
  ((e.withStatus r.status).withHeaders (Headers.toFields r.headers)).withStatistics s

/-- One attempt at a single reply. -/
def single (t : Transport) (r : Request) (url : String) (w : World Server) :
    Except Error Envelope × World Server :=
  let start := w.clock
  match t.send r url w with
  | (.error e, w) => (.error e, w)
  | (.ok response, w) =>
      match response.text with
      | .error e => (.error e, w)
      | .ok text =>
          ((Payload.readText response.status text).map (label response (statistics start w.clock)),
            w)

/-- The chunks of a body as they arrive. -/
def chunks (b : Body) : List Chunked.Chunk :=
  b.pieces.map .ok ++ (if b.complete then [] else [.error (.transport .bodyBroken)])

/-- The reads of a body. -/
def reads (b : Body) : List Lined.Read :=
  b.pieces.map .ok ++ (if b.complete then [] else [.error TransportFailure.bodyBroken.text])

/-- The events of a body in each regime. -/
def events (g : Regime) (b : Body) : List Event :=
  match g with
  | .async => Chunked.decode (chunks b)
  | .blocking => Lined.decode (reads b)

/-- The item of an event. -/
def itemOf (r : Response) (s : Statistics) : Event → Item
  | .error e => .error e
  | .ok payload => (Payload.read payload).map (label r s)

/-- The items of events that come now. -/
def itemsOf (r : Response) (now : Duration) (timer : ChunkTimer) : List Event → List Item
  | [] => []
  | event :: rest =>
      match itemOf r (timer.tick now).1 event with
      | .ok e => .ok e :: itemsOf r now (timer.tick now).2 rest
      -- an error is no chunk
      | .error e => .error e :: itemsOf r now timer rest

/-- One attempt at a stream. The clock stands still while a stream is read. -/
def openStream (t : Transport) (g : Regime) (r : Request) (url : String) (w : World Server) :
    Except Error (List Item) × World Server :=
  let start := w.clock
  match t.send r url w with
  | (.error e, w) => (.error e, w)
  | (.ok response, w) =>
      if Headers.isJson response.headers then
        match response.text with
        | .error e => (.error e, w)
        | .ok text => (.error (Payload.unexpectedJson response.status text), w)
      else
        let timer : ChunkTimer := { start, opened := w.clock }
        (.ok (itemsOf response w.clock timer (events g response.body)), w)

/-- A call of the executor. -/
def invoke (t : Transport) (g : Regime) (r : Request) (w : World Server) :
    Outcome × World Server :=
  match t.url r with
  | .error e => (.error e, w)
  | .ok url =>
      if r.stream then
        match (t.policy r).run t.chance (t.openStream g r url) 0 w with
        | (.error e, w) => (.error e, w)
        | (.ok items, w) => (.ok (.stream items), w)
      else
        match (t.policy r).run t.chance (t.single r url) 0 w with
        | (.error e, w) => (.error e, w)
        | (.ok e, w) => (.ok (.single e), w)

/-- No attempt adds to the answers of the server. -/
theorem length_send_le (t : Transport) (r : Request) (url : String) (w : World Server) :
    (t.send r url w).2.supplier.length ≤ w.supplier.length := by
  unfold send
  split
  · exact Nat.le_refl _
  · exact Server.length_next_le w.supplier

/-- An accepted answer is one of the server's. -/
theorem length_send_lt (t : Transport) (r : Request) (url : String) (w : World Server)
    {response : Response} {w' : World Server} (h : t.send r url w = (.ok response, w')) :
    w'.supplier.length < w.supplier.length := by
  unfold send at h
  split at h
  · cases h
  · simp only [Prod.mk.injEq] at h
    obtain ⟨h1, rfl⟩ := h
    split at h1
    · cases h1
    · rename_i resp hr
      unfold judge at h1
      split at h1
      · rename_i hs
        exact Server.length_next_lt hr hs
      · cases h1

theorem length_single_le (t : Transport) (r : Request) (url : String) (w : World Server) :
    (t.single r url w).2.supplier.length ≤ w.supplier.length := by
  have le := length_send_le t r url w
  unfold single
  split
  · rename_i h
    rw [h] at le
    exact le
  · rename_i h
    rw [h] at le
    split <;> exact le

theorem length_single_lt (t : Transport) (r : Request) (url : String) (w : World Server)
    (e : Envelope) (w' : World Server) (h : t.single r url w = (.ok e, w')) :
    w'.supplier.length < w.supplier.length := by
  unfold single at h
  split at h
  · cases h
  · rename_i hs
    have lt := length_send_lt t r url w hs
    split at h
    · cases h
    · simp only [Prod.mk.injEq] at h
      obtain ⟨-, rfl⟩ := h
      exact lt

theorem length_openStream_le (t : Transport) (g : Regime) (r : Request) (url : String)
    (w : World Server) : (t.openStream g r url w).2.supplier.length ≤ w.supplier.length := by
  have le := length_send_le t r url w
  unfold openStream
  split
  · rename_i h
    rw [h] at le
    exact le
  · rename_i h
    rw [h] at le
    split
    · split <;> exact le
    · exact le

theorem length_openStream_lt (t : Transport) (g : Regime) (r : Request) (url : String)
    (w : World Server) (items : List Item) (w' : World Server)
    (h : t.openStream g r url w = (.ok items, w')) :
    w'.supplier.length < w.supplier.length := by
  unfold openStream at h
  split at h
  · cases h
  · rename_i hs
    have lt := length_send_lt t r url w hs
    split at h
    · split at h <;> cases h
    · simp only [Prod.mk.injEq] at h
      obtain ⟨-, rfl⟩ := h
      exact lt

/-- A reply uses up an answer of the server. -/
theorem length_invoke_lt (t : Transport) (g : Regime) (r : Request) (w : World Server)
    (reply : Reply (List Item)) (w' : World Server) (h : t.invoke g r w = (.ok reply, w')) :
    w'.supplier.length < w.supplier.length := by
  unfold invoke at h
  split at h
  · cases h
  · rename_i url _
    split at h
    · split at h
      · cases h
      · rename_i hr
        cases h
        exact RetryPolicy.run_supply_lt _ _ _ List.length
          (length_openStream_le t g r url) (length_openStream_lt t g r url) 0 w hr
    · split at h
      · cases h
      · rename_i hr
        cases h
        exact RetryPolicy.run_supply_lt _ _ _ List.length
          (length_single_le t r url) (length_single_lt t r url) 0 w hr

/-- The executor that talks HTTP to a server. -/
def executor (t : Transport) : Executor Server where
  invoke := t.invoke
  supply := List.length
  supply_lt := length_invoke_lt t

end Transport

end ChatClient.Http
