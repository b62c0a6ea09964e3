import Kubauth.Claims
import Kubauth.Dialogue
import Kubauth.GoMap

/-!
# The logging middleware

Every server of the repository may be wrapped by a handler that logs requests
and responses.  The wrapped handler is given a response writer that takes notes
and a request whose body has been read before.  What it is told, what the
server's own writer is told, and what is logged are three views of one
exchange.
-/

namespace Kubauth.HttpServer

open Dialogue

abbrev Bytes := List UInt8

abbrev Headers := GoMap String (List String)

/-- `Header.Get`. -/
def Headers.first (headers : Headers) (key : String) : String :=
  (((GoMap.get headers key).getD []).head?).getD ""

structure Request where
  method : String
  path : String
  rawQuery : String
  remoteAddr : String
  host : String
  contentLength : Int
  header : Headers
  -- `r.Body != nil`
  hasBody : Bool
  deriving Repr, DecidableEq

/-! ## What a handler does -/

/-- What the writer of a server may offer besides the methods of
`http.ResponseWriter`. -/
inductive Optional where
  | flusher
  | hijacker
  | readerFrom
  | pusher
  | closeNotifier
  | unwrap
  deriving Repr, DecidableEq

/-- The reads of the body, the calls on the response writer, and the question
whether the writer implements an interface. -/
inductive Call where
  | read (size : Nat)
  | readAll
  | header
  | setHeader (key : String) (values : List String)
  | writeHeader (code : Int)
  | write (bytes : Bytes)
  | implements (optional : Optional)
  deriving Repr, DecidableEq

/-- Why a read is the last one. -/
inductive Ending where
  | eof
  | failure (reason : String)
  deriving Repr, DecidableEq

/-- `io.ReadAll` gives what all reads give together, and the error that ended
them before the end of the body.  A write says how many bytes it took, and why
not all. -/
abbrev Reply : Call → Type
  | .read _ => Bytes × Option Ending
  | .readAll => Bytes × Option String
  | .header => Headers
  | .setHeader _ _ => Unit
  | .writeHeader _ => Unit
  | .write _ => Nat × Option String
  | .implements _ => Bool

abbrev Calls := List (Event Reply)

abbrev Handler := Request → Dialogue Reply Unit

/-! ## What a handler is given -/

/-- `responseWriter`, without the writer that it wraps. -/
structure ResponseWriter where
  statusCode : Int
  body : Bytes
  size : Nat
  deriving Repr, DecidableEq

namespace ResponseWriter

/-- `newResponseWriter`. -/
def new : ResponseWriter :=
  { statusCode := 200, body := [], size := 0 }

/-- What `Write` keeps when the wrapped writer has taken `n` bytes. -/
def wrote (rw : ResponseWriter) (b : Bytes) (n : Nat) : ResponseWriter :=
  { rw with
    body := if rw.body.length < 4096 then rw.body ++ b.take n else rw.body
    size := rw.size + n }

end ResponseWriter

/-- `Read` of a `bytes.Buffer`. -/
def bufferRead (buffer : Bytes) (size : Nat) : Bytes × Option Ending :=
  if buffer = [] then ([], if size = 0 then none else some .eof)
  else (buffer.take size, none)

/-- The writer, and what is left of the buffer that has replaced the body. -/
structure Wrapper where
  rw : ResponseWriter
  buffer : Option Bytes
  deriving Repr, DecidableEq

/-- The methods of the writer and of the body that the handler is given.
`Header` is promoted from the wrapped writer; other methods than those of
`http.ResponseWriter` are not. -/
def Wrapper.methods : Layer Reply Wrapper
  | wrapper, .read size =>
      match wrapper.buffer with
      | none => do
          let reply ← Dialogue.query (Call.read size)
          pure (reply, wrapper)
      | some buffer =>
          pure (bufferRead buffer size,
            { wrapper with buffer := some (buffer.drop size) })
  | wrapper, .readAll =>
      match wrapper.buffer with
      | none => do
          let reply ← Dialogue.query Call.readAll
          pure (reply, wrapper)
      | some buffer =>
          pure ((buffer, none), { wrapper with buffer := some [] })
  | wrapper, .header => do
      let headers ← Dialogue.query Call.header
      pure (headers, wrapper)
  | wrapper, .setHeader key values => do
      let done ← Dialogue.query (Call.setHeader key values)
      pure (done, wrapper)
  | wrapper, .writeHeader code => do
      let rw := { wrapper.rw with statusCode := code }
      let done ← Dialogue.query (Call.writeHeader code)
      pure (done, { wrapper with rw := rw })
  | wrapper, .write b => do
      let (n, err) ← Dialogue.query (Call.write b)
      pure ((n, err), { wrapper with rw := wrapper.rw.wrote b n })
  | wrapper, .implements _ => pure (false, wrapper)

/-! ## What is logged -/

/-- The quotient of the source is compared as floating point numbers, which
makes no difference for bodies that fit into memory. -/
def isPrintable (data : Bytes) : Bool :=
  let printable := data.filter fun b =>
    (32 ≤ b && b ≤ 126) || b = 10 || b = 13 || b = 9
  data.length * 4 ≤ printable.length * 5

def text (s : String) : Bytes := s.toUTF8.toList

def getSafeBodyString (body : Bytes) : Bytes :=
  if body = [] then []
  else if ¬ isPrintable body then text "[binary content]"
  else if body.length > 192 then
    body.take 192 ++ text "... [truncated]"
  else body

/-- A body in a full dump: parsed, or as a string with the reason why it is
not parsed if it should be. -/
inductive DumpedBody where
  | json (object : ClaimSet)
  | string (reason : Option String) (shown : Bytes)

structure RequestLog where
  id : Int
  method : String
  path : String
  rawQuery : String
  bodySize : Nat
  body : DumpedBody
  remoteAddr : String
  userAgent : String
  referer : String
  host : String
  contentType : String
  contentLength : Int
  header : Headers

structure ResponseLog where
  id : Int
  statusCode : Int
  responseSize : Nat
  duration : Int
  headers : Headers
  contentType : String
  body : DumpedBody

inductive Entry where
  | shortRequest (method path rawQuery : String)
  | longRequest (method path rawQuery remoteAddr userAgent host referer :
      String) (contentLength : Int) (bodySize : Nat) (contentType : String)
      (header : Headers) (body : Bytes)
  | request (log : RequestLog)
  | shortResponse (statusCode : Int) (size : Nat)
  | longResponse (statusCode : Int) (size : Nat) (duration : Int)
      (headers : Headers) (body : Bytes)
  | response (log : ResponseLog)

/-- What an exchange takes from its surroundings: whether there is a logger in
the context, two numbers of the global counter, how long the exchange lasts,
and `json.Unmarshal` into an object. -/
structure Surroundings where
  logger : Bool
  requestId : Int
  responseId : Int
  duration : Int
  unmarshal : Bytes → Except String ClaimSet

section

variable (surroundings : Surroundings) (level : Int)

def dumpBody (contentType : String) (body : Bytes) : DumpedBody :=
  if contentType.startsWith "application/json" then
    match surroundings.unmarshal body with
    | .ok object => .json object
    | .error failure => .string (some failure) (getSafeBodyString body)
  else .string none (getSafeBodyString body)

def requestEntries (r : Request) (requestBody : Bytes) : List Entry :=
  if surroundings.logger ∧ level = 1 then
    [.shortRequest r.method r.path r.rawQuery]
  else if surroundings.logger ∧ level = 2 then
    [.longRequest r.method r.path r.rawQuery r.remoteAddr
      (r.header.first "User-Agent") r.host (r.header.first "Referer")
      r.contentLength requestBody.length (r.header.first "Content-Type")
      r.header (getSafeBodyString requestBody)]
  else if level ≥ 3 then
    [.request
      { id := surroundings.requestId
        method := r.method
        path := r.path
        rawQuery := r.rawQuery
        bodySize := requestBody.length
        body := dumpBody surroundings (r.header.first "Content-Type")
          requestBody
        remoteAddr := r.remoteAddr
        userAgent := r.header.first "User-Agent"
        referer := r.header.first "Referer"
        host := r.host
        contentType := r.header.first "Content-Type"
        contentLength := r.contentLength
        header := r.header }]
  else []

def responseEntries (rw : ResponseWriter) : Dialogue Reply (List Entry) := do
  if surroundings.logger ∧ level = 1 then
    pure [.shortResponse rw.statusCode rw.size]
  else if surroundings.logger ∧ level = 2 then
    let headers ← Dialogue.query Call.header
    pure [.longResponse rw.statusCode rw.size surroundings.duration headers
      (getSafeBodyString rw.body)]
  else if level ≥ 3 then
    let headers ← Dialogue.query Call.header
    pure [.response
      { id := surroundings.responseId
        statusCode := rw.statusCode
        responseSize := rw.size
        duration := surroundings.duration
        headers := headers
        contentType := Headers.first headers "Content-Type"
        body := dumpBody surroundings (Headers.first headers "Content-Type")
          rw.body }]
  else pure []

/-- The body is read and replaced by a buffer.  The error of `io.ReadAll` is
dropped. -/
def captureBody (r : Request) : Dialogue Reply (Option Bytes) := do
  if r.hasBody then
    let (requestBody, _) ← Dialogue.query Call.readAll
    pure (some requestBody)
  else pure none

/-- `LoggingMiddleware`: a handler, with what it logs. -/
def loggingMiddleware (next : Handler) (r : Request) :
    Dialogue Reply (List Entry) := do
  let captured ← captureBody r
  let logged := requestEntries surroundings level r (captured.getD [])
  let (_, wrapper) ← through Wrapper.methods (next r)
    { rw := .new, buffer := captured }
  let answered ← responseEntries surroundings level wrapper.rw
  pure (logged ++ answered)

end

/-! ## The handler's view -/

/-- A body that has the content and ends without an error, as its reads show
it: they give the content from the front, and nothing only where nothing is
asked for or left. -/
inductive Delivers : Bytes → Calls → Prop where
  | nil (content : Bytes) : Delivers content []
  | read (size : Nat) {taken rest : Bytes} {calls : Calls} :
      taken.length ≤ size → (taken = [] → size = 0) →
      Delivers rest calls →
      Delivers (taken ++ rest) (⟨.read size, (taken, none)⟩ :: calls)
  | eof (size : Nat) {calls : Calls} :
      Delivers [] calls →
      Delivers [] (⟨.read size, ([], some .eof)⟩ :: calls)
  | readAll (content : Bytes) {calls : Calls} :
      Delivers [] calls →
      Delivers content (⟨.readAll, (content, none)⟩ :: calls)
  | other {content : Bytes} {event : Event Reply} {calls : Calls} :
      (∀ size, event.1 ≠ .read size) → event.1 ≠ .readAll →
      Delivers content calls →
      Delivers content (event :: calls)

/-- The calls of a handler that reach the server. -/
def Call.passedOn (replaced : Bool) : Call → Bool
  | .read _ => !replaced
  | .readAll => !replaced
  | .implements _ => false
  | _ => true

/-- What the notes of the writer come to. -/
def ResponseWriter.note (rw : ResponseWriter) :
    Event Reply → ResponseWriter
  | ⟨.write b, (n, _)⟩ => rw.wrote b n
  | ⟨.writeHeader code, _⟩ => { rw with statusCode := code }
  | _ => rw

/-- One call, answered by the wrapper. -/
structure Answered (wrapper : Wrapper) (event : Event Reply) (first : Calls)
    (after : Wrapper) : Prop where
  calls : first =
    if event.1.passedOn wrapper.buffer.isSome then [event] else []
  noted : after.rw = wrapper.rw.note event
  replaced : after.buffer.isSome = wrapper.buffer.isSome
  delivered : ∀ content rest calls, wrapper.buffer = some content →
    after.buffer = some rest → Delivers rest calls →
    Delivers content (event :: calls)
  declined : ∀ optional answer, event = ⟨.implements optional, answer⟩ →
    answer = false

theorem answered_of_query {wrapper after : Wrapper} {call : Call}
    {reply : Reply call} {first : Calls} (keep : Reply call → Wrapper)
    (passed : call.passedOn wrapper.buffer.isSome = true)
    (noted : ∀ reply, (keep reply).rw = wrapper.rw.note ⟨call, reply⟩)
    (kept : ∀ reply, (keep reply).buffer = wrapper.buffer)
    (conversation : Converses
      (Dialogue.query call >>= fun reply => pure (reply, keep reply)) first
      (reply, after)) :
    Answered wrapper ⟨call, reply⟩ first after := by
  cases conversation with
  | ask given rest =>
  cases rest
  refine ⟨(if_pos passed).symm, noted reply, congrArg _ (kept reply), ?_, ?_⟩
  · intro content rest calls buffered left delivers
    rw [kept, buffered] at left
    cases left
    rw [buffered] at passed
    refine .other (fun size same => ?_) (fun same => ?_) delivers
    · rw [show call = .read size from same] at passed
      cases passed
    · rw [show call = .readAll from same] at passed
      cases passed
  · rintro optional answer same
    rw [show call = .implements optional from congrArg Sigma.fst same] at passed
    cases passed

theorem answered_of_buffer {wrapper : Wrapper} {content rest : Bytes}
    {call : Call} {reply : Reply call}
    (buffered : wrapper.buffer = some content)
    (kept : call.passedOn true = false)
    (silent : wrapper.rw.note ⟨call, reply⟩ = wrapper.rw)
    (reads : ∀ optional, call ≠ .implements optional)
    (delivered : ∀ calls, Delivers rest calls →
      Delivers content (⟨call, reply⟩ :: calls)) :
    Answered wrapper ⟨call, reply⟩ []
      { wrapper with buffer := some rest } := by
  refine ⟨?_, silent.symm, ?_, ?_, ?_⟩
  · rw [buffered]
    exact (if_neg (by simp [kept])).symm
  · rw [buffered]
    rfl
  · intro other left calls same next delivers
    cases buffered.symm.trans same
    cases next
    exact delivered calls delivers
  · intro optional answer same
    exact absurd (congrArg Sigma.fst same) (reads optional)

theorem delivers_bufferRead {buffer : Bytes} {size : Nat} {calls : Calls}
    (delivers : Delivers (buffer.drop size) calls) :
    Delivers buffer (⟨.read size, bufferRead buffer size⟩ :: calls) := by
  unfold bufferRead
  split
  · next empty =>
      subst empty
      rw [List.drop_nil] at delivers
      split
      · next nothing =>
          have taken := Delivers.read size (List.length_nil.le.trans
            (Nat.zero_le size)) (fun _ => nothing) delivers
          exact taken
      · exact .eof size delivers
  · next left =>
      have taken := Delivers.read size (List.length_take_le size buffer)
        (fun nothing => (List.take_eq_nil_iff.mp nothing).resolve_right left)
        delivers
      rwa [List.take_append_drop] at taken

theorem answered_of_methods {wrapper after : Wrapper} {call : Call}
    {reply : Reply call} {first : Calls}
    (conversation :
      Converses (wrapper.methods call) first (reply, after)) :
    Answered wrapper ⟨call, reply⟩ first after := by
  cases call with
  | read size =>
      simp only [Wrapper.methods] at conversation
      split at conversation
      · next same =>
          exact answered_of_query (fun _ => wrapper) (by rw [same]; rfl)
            (fun _ => rfl) (fun _ => rfl) conversation
      · next buffer same =>
          cases conversation
          exact answered_of_buffer same rfl rfl (fun _ => Call.noConfusion)
            fun _ => delivers_bufferRead
  | readAll =>
      simp only [Wrapper.methods] at conversation
      split at conversation
      · next same =>
          exact answered_of_query (fun _ => wrapper) (by rw [same]; rfl)
            (fun _ => rfl) (fun _ => rfl) conversation
      · next buffer same =>
          cases conversation
          exact answered_of_buffer same rfl rfl (fun _ => Call.noConfusion)
            fun _ => .readAll buffer
  | header =>
      exact answered_of_query (fun _ => wrapper) rfl (fun _ => rfl)
        (fun _ => rfl) conversation
  | setHeader key values =>
      exact answered_of_query (fun _ => wrapper) rfl (fun _ => rfl)
        (fun _ => rfl) conversation
  | writeHeader code =>
      exact answered_of_query (fun _ => { wrapper with
        rw := { wrapper.rw with statusCode := code } }) rfl (fun _ => rfl)
        (fun _ => rfl) conversation
  | write b =>
      exact answered_of_query (fun reply => { wrapper with
        rw := wrapper.rw.wrote b reply.1 }) rfl (fun _ => rfl)
        (fun _ => rfl) conversation
  | implements optional =>
      cases conversation
      refine ⟨rfl, rfl, rfl, fun content rest calls same left delivers => ?_,
        fun other answer same => ?_⟩
      · cases same.symm.trans left
        exact .other (fun _ => Call.noConfusion) Call.noConfusion delivers
      · cases same
        rfl

/-- All calls of a handler, answered by the wrapper. -/
structure Wrapped (wrapper : Wrapper) (calls passed : Calls)
    (final : Wrapper) : Prop where
  passed : passed =
    calls.filter fun event => event.1.passedOn wrapper.buffer.isSome
  noted : final.rw = calls.foldl ResponseWriter.note wrapper.rw
  delivered : ∀ content, wrapper.buffer = some content →
    Delivers content calls
  declined : ∀ optional answer, ⟨.implements optional, answer⟩ ∈ calls →
    answer = false

theorem wrapped_of_relays {wrapper final : Wrapper} {calls passed : Calls}
    (relayed : Relays Wrapper.methods wrapper calls passed final) :
    Wrapped wrapper calls passed final := by
  induction relayed with
  | nil wrapper =>
      exact ⟨rfl, rfl, fun content _ => .nil content,
        fun _ _ member => by cases member⟩
  | @cons wrapper middle final call reply first calls passed conversation _
      induction =>
      have answered := answered_of_methods conversation
      constructor
      · rw [answered.calls, induction.passed, answered.replaced,
          List.filter_cons]
        split <;> rfl
      · rw [List.foldl_cons, ← answered.noted]
        exact induction.noted
      · intro content buffered
        have left : middle.buffer.isSome = true := by
          rw [answered.replaced, buffered]
          rfl
        obtain ⟨rest, left⟩ := Option.isSome_iff_exists.mp left
        exact answered.delivered content rest calls buffered left
          (induction.delivered rest left)
      · intro optional answer member
        rcases List.mem_cons.mp member with same | later
        · exact answered.declined optional answer same.symm
        · exact induction.declined optional answer later

/-- The calls by which a body is captured. -/
def capturing (captured : Option Bytes) (failure : Option String) : Calls :=
  match captured with
  | none => []
  | some content => [⟨.readAll, (content, failure)⟩]

section

variable {surroundings : Surroundings} {level : Int} {next : Handler}
  {r : Request} {trace : Calls} {entries : List Entry}

theorem captureBody_converses {captured : Option Bytes}
    (conversation : Converses (captureBody r) trace captured) :
    captured.isSome = r.hasBody ∧
      ∃ failure, trace = capturing captured failure := by
  unfold captureBody at conversation
  split at conversation
  · next has =>
      rw [has]
      cases conversation with
      | ask reply rest =>
          cases rest
          exact ⟨rfl, reply.2, rfl⟩
  · next hasNot =>
      cases conversation
      exact ⟨(Bool.eq_false_of_not_eq_true hasNot).symm, none, rfl⟩

/-- An exchange, from the capture of the body to the last entry. -/
structure Exchange (surroundings : Surroundings) (level : Int)
    (next : Handler) (r : Request) (captured : Option Bytes)
    (failure : Option String) (calls looks trace : Calls)
    (entries : List Entry) : Prop where
  has : captured.isSome = r.hasBody
  served : Converses (next r) calls ()
  trace_eq : trace = capturing captured failure ++
    calls.filter (fun event => event.1.passedOn r.hasBody) ++ looks
  delivered : ∀ content, captured = some content → Delivers content calls
  declined : ∀ optional answer, ⟨.implements optional, answer⟩ ∈ calls →
    answer = false
  logged : ∃ answered,
    Converses (responseEntries surroundings level
      (calls.foldl ResponseWriter.note .new)) looks answered ∧
    entries = requestEntries surroundings level r (captured.getD []) ++
      answered

theorem loggingMiddleware_exchange
    (conversation : Converses (loggingMiddleware surroundings level next r)
      trace entries) :
    ∃ captured failure calls looks, Exchange surroundings level next r
      captured failure calls looks trace entries := by
  unfold loggingMiddleware at conversation
  obtain ⟨first, captured, later, rfl, captures, rest⟩ :=
    converses_bind.mp conversation
  obtain ⟨passed, ⟨⟨⟩, wrapper⟩, looks, rfl, behind, rest⟩ :=
    converses_bind.mp rest
  obtain ⟨looked, answered, nothing, rfl, logged, ended⟩ :=
    converses_bind.mp rest
  cases ended
  obtain ⟨has, failure, rfl⟩ := captureBody_converses captures
  obtain ⟨calls, served, relayed⟩ := converses_through.mp behind
  have wrapped := wrapped_of_relays relayed
  refine ⟨captured, failure, calls, looked, has, served, ?_,
    wrapped.delivered, wrapped.declined, answered, ?_, rfl⟩
  · rw [wrapped.passed, ← has, List.append_nil, List.append_assoc]
  · rw [← wrapped.noted]
    exact logged

theorem responseEntries_looks {rw : ResponseWriter}
    (conversation : Converses (responseEntries surroundings level rw) trace
      entries) :
    ∀ event ∈ trace, event.1 = .header := by
  have one {shown : Headers → Dialogue Reply (List Entry)}
      (ends : ∀ headers, ∃ logged, shown headers = .done logged)
      (asked : Converses (Dialogue.query Call.header >>= shown) trace entries) :
      ∀ event ∈ trace, event.1 = .header := by
    obtain ⟨first, headers, second, rfl, looked, rest⟩ :=
      converses_bind.mp asked
    obtain ⟨logged, done⟩ := ends headers
    rw [done] at rest
    cases rest
    cases looked with
    | ask reply ended =>
        cases ended
        intro event member
        rw [List.mem_singleton.mp member]
  unfold responseEntries at conversation
  split at conversation
  · cases conversation
    intro event member
    cases member
  · split at conversation
    · exact one (fun headers => ⟨_, rfl⟩) conversation
    · split at conversation
      · exact one (fun headers => ⟨_, rfl⟩) conversation
      · cases conversation
        intro event member
        cases member

end

/-- What a handler does on its writer reaches the server as it is, but for the
optional interfaces, which it is told that there are none of.  Of the body it is
told what could be read, and that this was all: an error that ended the reading
is not told. -/
theorem loggingMiddleware_transparent (surroundings : Surroundings)
    (level : Int) (next : Handler) (r : Request) {trace : Calls}
    {entries : List Entry}
    (conversation :
      Converses (loggingMiddleware surroundings level next r) trace entries) :
    ∃ captured failure calls looks,
      captured.isSome = r.hasBody ∧
      Converses (next r) calls () ∧
      trace = capturing captured failure ++
        calls.filter (fun event => event.1.passedOn r.hasBody) ++ looks ∧
      (∀ content, captured = some content → Delivers content calls) ∧
      (∀ optional answer, ⟨.implements optional, answer⟩ ∈ calls →
        answer = false) ∧
      ∀ event ∈ looks, event.1 = .header := by
  obtain ⟨captured, failure, calls, looks, exchange⟩ :=
    loggingMiddleware_exchange conversation
  obtain ⟨answered, logged, -⟩ := exchange.logged
  exact ⟨captured, failure, calls, looks, exchange.has, exchange.served,
    exchange.trace_eq, exchange.delivered, exchange.declined,
    responseEntries_looks logged⟩

/-- A page for an error, after a look at the body and at what the writer can
do. -/
def sampleHandler : Handler := fun _ => do
  let _ ← Dialogue.query (Call.read 512)
  let _ ← Dialogue.query (Call.read 512)
  let _ ← Dialogue.query (Call.implements .flusher)
  let _ ← Dialogue.query (Call.writeHeader 404)
  let _ ← Dialogue.query (Call.write [60, 104, 49, 62])
  pure ()

def sampleSurroundings : Surroundings :=
  { logger := true
    requestId := 1
    responseId := 2
    duration := 0
    unmarshal := fun _ => .error "unexpected end of JSON input" }

def sampleRequest : Request :=
  { method := "POST"
    path := "/index"
    rawQuery := ""
    remoteAddr := "10.0.0.1:4000"
    host := "kubauth"
    contentLength := 10
    header := []
    hasBody := true }

/-- The connection broke after two bytes of the body. -/
def brokenConnection : Peer Reply Unit
  | (), .read _ => (([97, 61], some (.failure "unexpected EOF")), ())
  | (), .readAll => (([97, 61], some "unexpected EOF"), ())
  | (), .header => ([], ())
  | (), .setHeader _ _ => ((), ())
  | (), .writeHeader _ => ((), ())
  | (), .write bytes => ((bytes.length, none), ())
  | (), .implements _ => (true, ())

def sampleTrace : Calls :=
  [⟨.readAll, ([97, 61], some "unexpected EOF")⟩, ⟨.writeHeader 404, ()⟩,
    ⟨.write [60, 104, 49, 62], (4, none)⟩]

def sampleEntries : List Entry :=
  [.shortRequest "POST" "/index" "", .shortResponse 404 4]

theorem sample_converses :
    Converses
      (loggingMiddleware sampleSurroundings 1 sampleHandler sampleRequest)
      sampleTrace sampleEntries :=
  converses_run brokenConnection
    (loggingMiddleware sampleSurroundings 1 sampleHandler sampleRequest) ()

/-- The broken connection is the end of the body for the handler, and the
flusher of the server is hidden from it. -/
theorem loggingMiddleware_transparent_broken :
    ∃ captured failure calls looks,
      captured.isSome = true ∧
      Converses (sampleHandler sampleRequest) calls () ∧
      sampleTrace = capturing captured failure ++
        calls.filter (fun event => event.1.passedOn true) ++ looks ∧
      (∀ content, captured = some content → Delivers content calls) ∧
      (∀ optional answer, ⟨.implements optional, answer⟩ ∈ calls →
        answer = false) ∧
      ∀ event ∈ looks, event.1 = .header :=
  loggingMiddleware_transparent sampleSurroundings 1 sampleHandler
    sampleRequest sample_converses

/-! ## The record and the response -/

/-- What the writer of the server took of the body. -/
def written (calls : Calls) : Bytes :=
  calls.flatMap fun
    | ⟨.write b, (n, _)⟩ => b.take n
    | _ => []

/-- A write does not take more than it is given. -/
def Honest : Event Reply → Prop
  | ⟨.write b, (n, _)⟩ => n ≤ b.length
  | _ => True

/-- Informational responses may precede the response. -/
def informational (code : Int) : Bool :=
  100 ≤ code ∧ code ≤ 199 ∧ code ≠ 101

/-- The status that the client is sent: that of the first call that decides
it. -/
def sending (status : Option Int) : Event Reply → Option Int
  | ⟨.writeHeader code, _⟩ =>
      match status with
      | some sent => some sent
      | none => if informational code then none else some code
  | ⟨.write _, _⟩ => some (status.getD 200)
  | _ => status

def sentStatus (calls : Calls) : Int :=
  (calls.foldl sending none).getD 200

/-- Every call of `WriteHeader` decides the status. -/
def Timely (calls : Calls) : Prop :=
  ∀ before code after, calls = before ++ ⟨.writeHeader code, ()⟩ :: after →
    before.foldl sending none = none ∧ informational code = false

/-- The record is about the response. -/
structure Accounts (rw : ResponseWriter) (calls : Calls) : Prop where
  size : rw.size = (written calls).length
  captured : rw.body <+: written calls
  complete : rw.body.length < 4096 → rw.body = written calls
  status : Timely calls → rw.statusCode = sentStatus calls

theorem written_append (calls : Calls) (event : Event Reply) :
    written (calls ++ [event]) = written calls ++ written [event] :=
  List.flatMap_append

theorem Timely.of_append {calls : Calls} {event : Event Reply}
    (timely : Timely (calls ++ [event])) : Timely calls := by
  intro before code after split
  apply timely before code (after ++ [event])
  rw [split, List.append_assoc, List.cons_append]

theorem Accounts.write {rw : ResponseWriter} {calls : Calls}
    (accounts : Accounts rw calls) {b : Bytes} {n : Nat}
    {failure : Option String} (honest : n ≤ b.length) :
    Accounts (rw.note ⟨.write b, (n, failure)⟩)
      (calls ++ [⟨.write b, (n, failure)⟩]) := by
  have all : written (calls ++ [⟨.write b, (n, failure)⟩]) =
      written calls ++ b.take n := by
    rw [written_append]
    simp [written]
  constructor
  · rw [all, List.length_append, List.length_take, Nat.min_eq_left honest,
      ← accounts.size]
    rfl
  · rw [all]
    simp only [ResponseWriter.note, ResponseWriter.wrote]
    split
    · next room =>
        exact ⟨[], by rw [List.append_nil, accounts.complete room]⟩
    · exact accounts.captured.trans (List.prefix_append _ _)
  · rw [all]
    simp only [ResponseWriter.note, ResponseWriter.wrote]
    split
    · next room =>
        intro _
        rw [accounts.complete room]
    · next full => exact fun room => absurd room full
  · intro timely
    have before := accounts.status timely.of_append
    rw [sentStatus, List.foldl_concat]
    exact before

theorem Accounts.writeHeader {rw : ResponseWriter} {calls : Calls}
    (accounts : Accounts rw calls) (code : Int) :
    Accounts (rw.note ⟨.writeHeader code, ()⟩)
      (calls ++ [⟨.writeHeader code, ()⟩]) := by
  have all : written (calls ++ [⟨.writeHeader code, ()⟩]) = written calls := by
    rw [written_append]
    exact List.append_nil _
  refine ⟨all ▸ accounts.size, all ▸ accounts.captured,
    all ▸ accounts.complete, ?_⟩
  intro timely
  obtain ⟨undecided, final⟩ := timely calls code [] rfl
  rw [sentStatus, List.foldl_concat, undecided]
  simp [sending, final, ResponseWriter.note]

theorem Accounts.other {rw : ResponseWriter} {calls : Calls}
    (accounts : Accounts rw calls) {event : Event Reply}
    (noted : rw.note event = rw) (nothing : written [event] = [])
    (undecided : ∀ status, sending status event = status) :
    Accounts (rw.note event) (calls ++ [event]) := by
  have all : written (calls ++ [event]) = written calls := by
    rw [written_append, nothing, List.append_nil]
  rw [noted]
  refine ⟨all ▸ accounts.size, all ▸ accounts.captured,
    all ▸ accounts.complete, ?_⟩
  intro timely
  rw [sentStatus, List.foldl_concat, undecided]
  exact accounts.status timely.of_append

theorem Accounts.note {rw : ResponseWriter} {calls : Calls}
    (accounts : Accounts rw calls) {event : Event Reply}
    (honest : Honest event) :
    Accounts (rw.note event) (calls ++ [event]) := by
  obtain ⟨call, reply⟩ := event
  cases call with
  | writeHeader code => exact accounts.writeHeader code
  | write b => exact accounts.write honest
  | _ => exact accounts.other rfl rfl fun _ => rfl

theorem accounts_of_honest {calls : Calls}
    (honest : ∀ event ∈ calls, Honest event) :
    Accounts (calls.foldl ResponseWriter.note .new) calls := by
  induction calls using List.reverseRecOn with
  | nil => exact ⟨rfl, List.prefix_rfl, fun _ => rfl, fun _ => rfl⟩
  | append_singleton calls event induction =>
      rw [List.foldl_concat]
      apply Accounts.note
      · exact induction fun other member =>
          honest other (List.mem_append_left _ member)
      · exact honest event (by simp)

/-- What is logged of a response is what became of it: its size, its body up to
where the record was full, and its status provided that the handler does not
try to set it once it is decided. -/
theorem loggingMiddleware_accounts (surroundings : Surroundings)
    (level : Int) (next : Handler) (r : Request) (trace : Calls)
    (entries : List Entry)
    (conversation :
      Converses (loggingMiddleware surroundings level next r) trace entries)
    (honest : ∀ event ∈ trace, Honest event) :
    ∃ captured failure calls looks rw answered,
      trace = capturing captured failure ++
        calls.filter (fun event => event.1.passedOn r.hasBody) ++ looks ∧
      Converses (next r) calls () ∧ Accounts rw calls ∧
      Converses (responseEntries surroundings level rw) looks answered ∧
      entries = requestEntries surroundings level r (captured.getD []) ++
        answered := by
  obtain ⟨captured, failure, calls, looks, exchange⟩ :=
    loggingMiddleware_exchange conversation
  obtain ⟨answered, logged, shown⟩ := exchange.logged
  refine ⟨captured, failure, calls, looks, _, answered, exchange.trace_eq,
    exchange.served, accounts_of_honest fun event member => ?_, logged, shown⟩
  by_cases passed : event.1.passedOn r.hasBody = true
  · apply honest
    rw [exchange.trace_eq]
    exact List.mem_append_left _ (List.mem_append_right _
      (List.mem_filter.mpr ⟨member, passed⟩))
  · obtain ⟨call, reply⟩ := event
    cases call with
    | write b => exact absurd rfl passed
    | _ => trivial

theorem sampleHandler_timely {calls : Calls}
    (served : Converses (sampleHandler sampleRequest) calls ()) :
    Timely calls := by
  cases served with | ask first served =>
  cases served with | ask second served =>
  cases served with | ask answer served =>
  cases served with | ask done served =>
  cases served with | ask taken served =>
  cases served
  intro before code after split
  rcases before with _ | ⟨_, _ | ⟨_, _ | ⟨_, _ | ⟨_, _ | ⟨_, before⟩⟩⟩⟩⟩
  · cases split
  · cases split
  · cases split
  · cases split
    exact ⟨rfl, rfl⟩
  · cases split
  · simp at split

/-- The size and the status that are logged are those of the response. -/
theorem loggingMiddleware_accounts_sample :
    ∃ captured failure calls looks rw answered,
      sampleTrace = capturing captured failure ++
        calls.filter (fun event => event.1.passedOn true) ++ looks ∧
      Converses (sampleHandler sampleRequest) calls () ∧
      Accounts rw calls ∧ rw.statusCode = sentStatus calls ∧
      Converses (responseEntries sampleSurroundings 1 rw) looks answered ∧
      sampleEntries =
        requestEntries sampleSurroundings 1 sampleRequest
          (captured.getD []) ++ answered := by
  have honest : ∀ event ∈ sampleTrace, Honest event :=
    List.forall_mem_cons.mpr ⟨trivial, List.forall_mem_cons.mpr ⟨trivial,
      List.forall_mem_cons.mpr ⟨Nat.le_refl 4, List.forall_mem_nil _⟩⟩⟩
  obtain ⟨captured, failure, calls, looks, rw, answered, same, served,
      accounts, logged, shown⟩ :=
    loggingMiddleware_accounts sampleSurroundings 1 sampleHandler sampleRequest
      sampleTrace sampleEntries sample_converses honest
  exact ⟨captured, failure, calls, looks, rw, answered, same, served, accounts,
    accounts.status (sampleHandler_timely served), logged, shown⟩

/-- A status that comes too late is logged, but not sent. -/
theorem statusCode_of_late {calls : Calls} {sent : Int} (code : Int)
    (decided : calls.foldl sending none = some sent) :
    ((calls ++ [⟨.writeHeader code, ()⟩] : Calls).foldl ResponseWriter.note
        .new).statusCode = code ∧
      sentStatus (calls ++ [⟨.writeHeader code, ()⟩]) = sent := by
  constructor
  · rw [List.foldl_concat]
    rfl
  · rw [sentStatus, List.foldl_concat, decided]
    rfl

end Kubauth.HttpServer
