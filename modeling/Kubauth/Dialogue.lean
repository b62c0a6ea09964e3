import Mathlib.Data.List.Basic

/-!
# Dialogues with a peer

A program that puts queries to a peer and goes on with the replies.  The peer
is not trusted: a conversation is any sequence of replies that the types allow.
A monitor follows a conversation and says at each point which queries are
permitted.
-/

/-- A program whose queries are answered by values of the type `Reply`. -/
inductive Dialogue {Query : Type} (Reply : Query → Type) (α : Type) : Type where
  | done (result : α) : Dialogue Reply α
  | ask (query : Query) (next : Reply query → Dialogue Reply α) :
      Dialogue Reply α

namespace Dialogue

variable {Query : Type} {Reply : Query → Type} {ε σ α β : Type}

protected def bind : Dialogue Reply α → (α → Dialogue Reply β) →
    Dialogue Reply β
  | .done result, following => following result
  | .ask query next, following =>
      .ask query fun reply => (next reply).bind following

instance : Monad (Dialogue Reply) where
  pure := .done
  bind := Dialogue.bind

/-- A single query. -/
def query (query : Query) : Dialogue Reply (Reply query) :=
  .ask query .done

/-- A query with the reply that was given to it. -/
abbrev Event {Query : Type} (Reply : Query → Type) := Sigma Reply

/-- The program may put these queries, be given these replies, and end with
this result. -/
inductive Converses : Dialogue Reply α → List (Event Reply) → α → Prop where
  | done (result : α) : Converses (.done result) [] result
  | ask {query : Query} {next : Reply query → Dialogue Reply α}
      (reply : Reply query) {trace : List (Event Reply)} {result : α} :
      Converses (next reply) trace result →
      Converses (.ask query next) (⟨query, reply⟩ :: trace) result

theorem converses_bind {program : Dialogue Reply α}
    {following : α → Dialogue Reply β} {trace : List (Event Reply)}
    {result : β} :
    Converses (program >>= following) trace result ↔
      ∃ first middle second, trace = first ++ second ∧
        Converses program first middle ∧
        Converses (following middle) second result := by
  constructor
  · intro conversation
    induction program generalizing trace with
    | done middle => exact ⟨[], middle, trace, rfl, .done middle, conversation⟩
    | ask query next induction =>
        cases conversation with
        | ask reply rest =>
            obtain ⟨first, middle, second, rfl, one, other⟩ :=
              induction reply rest
            exact ⟨⟨query, reply⟩ :: first, middle, second, rfl,
              .ask reply one, other⟩
  · rintro ⟨first, middle, second, rfl, one, other⟩
    induction one with
    | done middle => exact other
    | ask reply _ induction => exact .ask reply (induction other)

/-- The program has put these queries and been given these replies, and this is
what is left of it. -/
inductive Proceeds (program : Dialogue Reply α) :
    List (Event Reply) → Dialogue Reply α → Prop where
  | start : Proceeds program [] program
  | next {trace : List (Event Reply)} {query : Query}
      {next : Reply query → Dialogue Reply α} :
      Proceeds program trace (.ask query next) →
      ∀ reply, Proceeds program (trace ++ [⟨query, reply⟩]) (next reply)

theorem Proceeds.converses {program rest : Dialogue Reply α}
    {first second : List (Event Reply)} {result : α}
    (proceeds : Proceeds program first rest)
    (conversation : Converses rest second result) :
    Converses program (first ++ second) result := by
  induction proceeds generalizing second with
  | start => exact conversation
  | next _ reply induction =>
      rw [List.append_assoc]
      exact induction (.ask reply conversation)

theorem Proceeds.ended {program : Dialogue Reply α}
    {trace : List (Event Reply)} {result : α}
    (proceeds : Proceeds program trace (.done result)) :
    Converses program trace result := by
  have whole := proceeds.converses (.done result)
  rwa [List.append_nil] at whole

/-! ## Layers -/

/-- What stands between a program and its peer.  It answers a query by a program
of its own, and keeps a state. -/
abbrev Layer {Query : Type} (Reply : Query → Type) (σ : Type) :=
  σ → (query : Query) → Dialogue Reply (Reply query × σ)

/-- The program behind the layer. -/
def through (layer : Layer Reply σ) :
    Dialogue Reply α → σ → Dialogue Reply (α × σ)
  | .done result, state => .done (result, state)
  | .ask query next, state => do
      let (reply, after) ← layer state query
      through layer (next reply) after

/-- The events of the program, those that the layer makes of them, and the
state in which it is left. -/
inductive Relays (layer : Layer Reply σ) :
    σ → List (Event Reply) → List (Event Reply) → σ → Prop where
  | nil (state : σ) : Relays layer state [] [] state
  | cons {state middle final : σ} {query : Query} {reply : Reply query}
      {first inner outer : List (Event Reply)} :
      Converses (layer state query) first (reply, middle) →
      Relays layer middle inner outer final →
      Relays layer state (⟨query, reply⟩ :: inner) (first ++ outer) final

theorem converses_through {layer : Layer Reply σ} {program : Dialogue Reply α}
    {state final : σ} {trace : List (Event Reply)} {result : α} :
    Converses (through layer program state) trace (result, final) ↔
      ∃ inner, Converses program inner result ∧
        Relays layer state inner trace final := by
  constructor
  · intro conversation
    induction program generalizing state trace with
    | done given =>
        cases conversation
        exact ⟨[], .done result, .nil _⟩
    | ask query next induction =>
        obtain ⟨first, ⟨reply, middle⟩, outer, rfl, answered, rest⟩ :=
          converses_bind.mp conversation
        obtain ⟨inner, same, relayed⟩ := induction reply rest
        exact ⟨⟨query, reply⟩ :: inner, .ask reply same,
          .cons answered relayed⟩
  · rintro ⟨inner, conversation, relayed⟩
    induction conversation generalizing state trace with
    | done given =>
        cases relayed
        exact .done _
    | ask reply _ induction =>
        cases relayed with
        | cons answered rest =>
            exact converses_bind.mpr
              ⟨_, (reply, _), _, rfl, answered, induction rest⟩

/-! ## Monitors -/

/-- What an observer keeps of the events, and the queries that it permits. -/
structure Monitor {Query : Type} (Reply : Query → Type) (σ : Type) where
  permitted : σ → Query → Prop
  next : σ → Event Reply → σ

/-- Whatever the replies, all queries of the program are permitted, and its
result and the state of the observer are as stated. -/
def Keeps (monitor : Monitor Reply σ) :
    Dialogue Reply α → (α → σ → Prop) → σ → Prop
  | .done result, post, state => post result state
  | .ask query next, post, state =>
      monitor.permitted state query ∧
        ∀ reply, Keeps monitor (next reply) post
          (monitor.next state ⟨query, reply⟩)

/-- In every conversation of such a program each query is permitted where it
is put. -/
theorem Keeps.sound {monitor : Monitor Reply σ} {program : Dialogue Reply α}
    {post : α → σ → Prop} {state : σ} {trace : List (Event Reply)}
    {result : α} (kept : Keeps monitor program post state)
    (conversation : Converses program trace result) :
    (∀ before event after, trace = before ++ event :: after →
        monitor.permitted (before.foldl monitor.next state) event.1) ∧
      post result (trace.foldl monitor.next state) := by
  induction conversation generalizing state with
  | done result =>
      refine ⟨fun before event after split => ?_, kept⟩
      simp at split
  | @ask query next reply trace result _ induction =>
      obtain ⟨permitted, later⟩ := kept
      obtain ⟨each, final⟩ := induction (later reply)
      refine ⟨fun before event after split => ?_, final⟩
      cases before with
      | nil =>
          obtain ⟨rfl, -⟩ := List.cons.inj split
          exact permitted
      | cons head before =>
          obtain ⟨rfl, rest⟩ := List.cons.inj split
          exact each before event after rest

section Rules

variable {monitor : Monitor Reply σ} {state : σ}

theorem keeps_bind (program : Dialogue Reply α)
    (following : α → Dialogue Reply β) (post : β → σ → Prop) :
    Keeps monitor (program >>= following) post state ↔
      Keeps monitor program
        (fun result after => Keeps monitor (following result) post after)
        state := by
  induction program generalizing state with
  | done result => rfl
  | ask query next induction =>
      exact and_congr_right fun _ => forall_congr' fun reply => induction reply

theorem Keeps.mono {program : Dialogue Reply α} {post weaker : α → σ → Prop}
    (kept : Keeps monitor program post state)
    (implies : ∀ result after, post result after → weaker result after) :
    Keeps monitor program weaker state := by
  induction program generalizing state with
  | done result => exact implies result state kept
  | ask query next induction =>
      exact ⟨kept.1, fun reply => induction reply (kept.2 reply)⟩

/-- The observer that forgets nothing. -/
def Monitor.history (permitted : List (Event Reply) → Query → Prop) :
    Monitor Reply (List (Event Reply)) where
  permitted := permitted
  next := fun trace event => trace ++ [event]

theorem Monitor.foldl_history
    (permitted : List (Event Reply) → Query → Prop)
    (before trace : List (Event Reply)) :
    trace.foldl (history permitted).next before = before ++ trace := by
  induction trace generalizing before with
  | nil => exact (List.append_nil before).symm
  | cons event trace induction =>
      rw [List.foldl_cons, induction]
      exact List.append_cons before event trace |>.symm

theorem keeps_query_history {permitted : List (Event Reply) → Query → Prop}
    {query : Query} {post : Reply query → List (Event Reply) → Prop}
    {trace : List (Event Reply)} :
    Keeps (.history permitted) (Dialogue.query query) post trace ↔
      permitted trace query ∧
        ∀ reply, post reply (trace ++ [⟨query, reply⟩]) :=
  Iff.rfl

theorem Keeps.extends {permitted : List (Event Reply) → Query → Prop}
    {program : Dialogue Reply α} {post : α → List (Event Reply) → Prop}
    {before : List (Event Reply)}
    (kept : Keeps (.history permitted) program post before) :
    Keeps (.history permitted) program
      (fun result after => before <+: after ∧ post result after) before := by
  induction program generalizing before with
  | done result => exact ⟨List.prefix_rfl, kept⟩
  | ask query next induction =>
      refine ⟨kept.1, fun reply => (induction reply (kept.2 reply)).mono ?_⟩
      rintro result after ⟨extended, held⟩
      exact ⟨(List.prefix_append before _).trans extended, held⟩

end Rules

/-! ## Dialogues that may fail -/

/-- A dialogue that ends with a result or with an error. -/
abbrev Fallible {Query : Type} (ε : Type) (Reply : Query → Type) (α : Type) :=
  ExceptT ε (Dialogue Reply) α

namespace Fallible

/-- The rest of a fallible program, entered unless the first part failed. -/
def Onward (good : α → σ → Prop) (bad : ε → σ → Prop) :
    Except ε α → σ → Prop
  | .ok result, state => good result state
  | .error failure, state => bad failure state

variable {monitor : Monitor Reply σ} {state : σ}
  {good : β → σ → Prop} {bad : ε → σ → Prop}

theorem keeps_bind {program : Fallible ε Reply α}
    {following : α → Fallible ε Reply β}
    (kept : Keeps monitor program.run
      (Onward (fun result after =>
        Keeps monitor (following result).run (Onward good bad) after) bad)
      state) :
    Keeps monitor (program >>= following).run (Onward good bad) state := by
  rw [ExceptT.run_bind, Dialogue.keeps_bind]
  refine kept.mono fun outcome after held => ?_
  cases outcome with
  | ok result => exact held
  | error failure => exact held

theorem keeps_lift (program : Dialogue Reply β) :
    Keeps monitor (ExceptT.lift program : Fallible ε Reply β).run
        (Onward good bad) state ↔
      Keeps monitor program good state :=
  Dialogue.keeps_bind program (fun result => pure (Except.ok result)) _

theorem keeps_foldlM {items : List α} {body : β → α → Fallible ε Reply β}
    {accumulated : β}
    (step : ∀ before item state, item ∈ items → good before state →
      Keeps monitor (body before item).run (Onward good bad) state)
    (initial : good accumulated state) :
    Keeps monitor (items.foldlM body accumulated).run (Onward good bad)
      state := by
  induction items generalizing accumulated state with
  | nil => exact initial
  | cons item items induction =>
      rw [List.foldlM_cons]
      apply keeps_bind
      apply (step accumulated item state List.mem_cons_self initial).mono
      intro outcome after held
      cases outcome with
      | error failure => exact held
      | ok reached =>
          exact induction
            (fun before later state member =>
              step before later state (List.mem_cons_of_mem item member))
            held

end Fallible

/-! ## Peers -/

/-- A peer that answers from a state of its own. -/
abbrev Peer {Query : Type} (Reply : Query → Type) (σ : Type) :=
  σ → (query : Query) → Reply query × σ

/-- What the program returns when it talks to the peer, and the state in which
the peer is left. -/
def run (peer : Peer Reply σ) : Dialogue Reply α → σ → α × σ
  | .done result, state => (result, state)
  | .ask query next, state =>
      run peer (next (peer state query).1) (peer state query).2

theorem run_bind (peer : Peer Reply σ) (program : Dialogue Reply α)
    (following : α → Dialogue Reply β) (state : σ) :
    run peer (program >>= following) state =
      run peer (following (run peer program state).1)
        (run peer program state).2 := by
  induction program generalizing state with
  | done result => rfl
  | ask query next induction => exact induction _ _

namespace Fallible

variable {peer : Peer Reply σ} {state after : σ}

theorem run_bind_ok {program : Fallible ε Reply α} {result : α}
    (first : run peer program.run state = (.ok result, after))
    (following : α → Fallible ε Reply β) :
    run peer (program >>= following).run state =
      run peer (following result).run after := by
  rw [ExceptT.run_bind, Dialogue.run_bind, first]

theorem run_bind_error {program : Fallible ε Reply α} {failure : ε}
    (first : run peer program.run state = (.error failure, after))
    (following : α → Fallible ε Reply β) :
    run peer (program >>= following).run state = (.error failure, after) := by
  rw [ExceptT.run_bind, Dialogue.run_bind, first]
  rfl

theorem run_lift (program : Dialogue Reply α) :
    run peer (ExceptT.lift program : Fallible ε Reply α).run state =
      (.ok (run peer program state).1, (run peer program state).2) :=
  Dialogue.run_bind peer program (fun result => pure (Except.ok result)) state

theorem run_bind_fst {program : Fallible ε Reply α} {plain : Except ε α}
    {following : α → Fallible ε Reply β} {rest : α → Except ε β}
    (first : run peer program.run state = (plain, after))
    (later : ∀ result, plain = .ok result →
      (run peer (following result).run after).1 = rest result) :
    (run peer (program >>= following).run state).1 = plain >>= rest := by
  cases plain with
  | error failure =>
      rw [run_bind_error first]
      rfl
  | ok result =>
      rw [run_bind_ok first]
      exact later result rfl

theorem run_bind_steady {program : Fallible ε Reply α} {plain : Except ε α}
    {following : α → Fallible ε Reply β} {rest : α → Except ε β}
    (first : run peer program.run state = (plain, state))
    (later : ∀ result,
      run peer (following result).run state = (rest result, state)) :
    run peer (program >>= following).run state = (plain >>= rest, state) := by
  cases plain with
  | error failure => exact run_bind_error first _
  | ok result => exact (run_bind_ok first _).trans (later result)

theorem run_foldlM {body : β → α → Fallible ε Reply β}
    {plain : β → α → Except ε β}
    (steady : ∀ accumulated item,
      run peer (body accumulated item).run state =
        (plain accumulated item, state))
    (items : List α) (accumulated : β) :
    run peer (items.foldlM body accumulated).run state =
      (items.foldlM plain accumulated, state) := by
  induction items generalizing accumulated with
  | nil => rfl
  | cons item items induction =>
      rw [List.foldlM_cons, List.foldlM_cons]
      exact run_bind_steady (steady accumulated item) induction

end Fallible

/-- The events of such a run. -/
def events (peer : Peer Reply σ) :
    Dialogue Reply α → σ → List (Event Reply)
  | .done _, _ => []
  | .ask query next, state =>
      ⟨query, (peer state query).1⟩ ::
        events peer (next (peer state query).1) (peer state query).2

/-- A run is a conversation. -/
theorem converses_run (peer : Peer Reply σ) (program : Dialogue Reply α)
    (state : σ) :
    Converses program (events peer program state)
      (run peer program state).1 := by
  induction program generalizing state with
  | done result => exact .done result
  | ask query next induction => exact .ask _ (induction _ _)

end Dialogue
