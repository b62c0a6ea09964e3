import Kubauth.Locking

/-!
# Operations under locks are atomic

Where the code of every operation keeps the discipline of the locks, threads
that run in any interleaving cannot be told from threads whose operations
happen at once.  An operation happens when it gives its first lock back: until
then nobody else sees what it has changed, and from then on it changes nothing.
-/

namespace Locking

variable {Thread Lock Table Op σ α : Type} {Contents : Table → Type}
  {Answer : Op → Type}

/-! ## Operations that happen at once -/

/-- A state, and the threads between their operations. -/
structure Atomic (Thread σ : Type) {Op : Type} (Answer : Op → Type)
    (α : Type) where
  state : σ
  threads : Thread → Dialogue Answer α

/-- The thread does its next operation. -/
def Atomic.step [DecidableEq Thread]
    (effect : (op : Op) → σ → Answer op × σ)
    (atomic : Atomic Thread σ Answer α) (thread : Thread) :
    Option (Atomic Thread σ Answer α) :=
  match atomic.threads thread with
  | .done _ => none
  | .ask op rest =>
      some
        { state := (effect op atomic.state).2
          threads := Function.update atomic.threads thread
            (rest (effect op atomic.state).1) }

/-- Steps as a relation. -/
def Atomic.Step [DecidableEq Thread]
    (effect : (op : Op) → σ → Answer op × σ)
    (before : Atomic Thread σ Answer α) (thread : Thread)
    (after : Atomic Thread σ Answer α) : Prop :=
  before.step effect thread = some after

/-! ## Code that runs alone -/

section Alone

variable [DecidableEq Table]

/-- Tables that answer to one thread only. -/
def tables : Dialogue.Peer (@Action.Reply Lock Table Contents)
    (∀ table, Contents table)
  | store, .announce _ => ((), store)
  | store, .acquire _ => ((), store)
  | store, .rlock _ => ((), store)
  | store, .unlock _ => ((), store)
  | store, .runlock _ => ((), store)
  | store, .read table => (store table, store)
  | store, .update table change =>
      ((), Function.update store table (change (store table)))

/-- What the code returns and leaves when no other thread runs. -/
def alone (code : Code Lock Contents α) (store : ∀ table, Contents table) :
    α × ∀ table, Contents table :=
  code.run tables store

variable {β : Type}

@[simp] theorem alone_pure (result : α) (store : ∀ table, Contents table) :
    alone (pure result : Code Lock Contents α) store = (result, store) :=
  rfl

theorem alone_bind (code : Code Lock Contents α)
    (following : α → Code Lock Contents β)
    (store : ∀ table, Contents table) :
    alone (code >>= following) store =
      alone (following (alone code store).1) (alone code store).2 :=
  Dialogue.run_bind tables code following store

@[simp] theorem alone_locked (lock : Lock) (body : Code Lock Contents α)
    (store : ∀ table, Contents table) :
    alone (locked lock body) store = alone body store :=
  alone_bind body _ store

@[simp] theorem alone_rlocked (lock : Lock) (body : Code Lock Contents α)
    (store : ∀ table, Contents table) :
    alone (rlocked lock body) store = alone body store :=
  alone_bind body _ store

variable [DecidableEq Lock] {rank : Lock → Nat} {rules : Table → Rule Lock}

/-- Once a lock is given back, the tables are neither read nor changed. -/
theorem alone_released {code : Code Lock Contents α}
    {standing : Standing Lock}
    (disciplined : Disciplined rank rules code standing)
    (released : standing.released = true)
    (store other : ∀ table, Contents table) :
    alone code store = ((alone code other).1, store) := by
  induction code generalizing standing with
  | done result => rfl
  | ask action next induction =>
      obtain ⟨permitted, later⟩ := disciplined
      cases action with
      | announce lock =>
          rw [permitted.1] at released
          cases released
      | acquire lock =>
          rw [permitted.1] at released
          cases released
      | rlock lock =>
          rw [permitted.1] at released
          cases released
      | unlock lock => exact induction () (later ()) rfl
      | runlock lock => exact induction () (later ()) rfl
      | read table =>
          rw [permitted.1] at released
          cases released
      | update table change =>
          rw [permitted.1] at released
          cases released

end Alone

/-! ## Hiding what is not finished -/

theorem Rule.not_writes_free {held : Lock → Hold} {rule : Rule Lock}
    (checked : rule ≠ .unchecked) (free : ∀ lock, held lock = .free) :
    ¬rule.Writes held := by
  intro writes
  cases rule with
  | guarded lock => exact Hold.noConfusion ((free lock).symm.trans writes)
  | frozen => exact writes
  | unchecked => exact checked rfl

section Holds

variable [DecidableEq Lock] {held : Lock → Hold} {lock : Lock}

theorem Rule.Reads.update {rule : Rule Lock} (reads : rule.Reads held)
    (unread : held lock = .free ∨ held lock = .announced) (hold : Hold) :
    rule.Reads (Function.update held lock hold) := by
  cases rule with
  | guarded other =>
      have different : other ≠ lock := by
        rintro rfl
        rcases unread with free | announced <;> rcases reads with now | now
        · exact Hold.noConfusion (free.symm.trans now)
        · exact Hold.noConfusion (free.symm.trans now)
        · exact Hold.noConfusion (announced.symm.trans now)
        · exact Hold.noConfusion (announced.symm.trans now)
      change Function.update held lock hold other = .shared ∨ _
      rw [Function.update_of_ne different]
      exact reads
  | frozen => trivial
  | unchecked => trivial

theorem Rule.writes_update {rule : Rule Lock} {hold : Hold}
    (before : held lock ≠ .exclusive) (after : hold ≠ .exclusive) :
    rule.Writes (Function.update held lock hold) ↔ rule.Writes held := by
  cases rule with
  | guarded other =>
      change Function.update held lock hold other = .exclusive ↔
        held other = .exclusive
      by_cases same : other = lock
      · subst same
        rw [Function.update_self]
        exact iff_of_false after before
      · rw [Function.update_of_ne same]
  | frozen => rfl
  | unchecked => rfl

end Holds

/-- The second store, with the tables that may be changed from the first. -/
def overlay (rules : Table → Rule Lock) (held : Lock → Hold)
    (own seen : ∀ table, Contents table) : ∀ table, Contents table :=
  fun table => if (rules table).Writes held then own table else seen table

section Overlay

variable {rules : Table → Rule Lock} {held : Lock → Hold}
  {own seen : ∀ table, Contents table} {table : Table}

theorem overlay_of_writes (writes : (rules table).Writes held) :
    overlay rules held own seen table = own table :=
  if_pos writes

theorem overlay_of_not (unwritten : ¬(rules table).Writes held) :
    overlay rules held own seen table = seen table :=
  if_neg unwritten

theorem overlay_free (checked : ∀ table, rules table ≠ .unchecked)
    (free : ∀ lock, held lock = .free) : overlay rules held own seen = seen := by
  funext table
  exact overlay_of_not (Rule.not_writes_free (checked table) free)

end Overlay

variable [DecidableEq Table]

/-- How a thread and its atomic counterpart belong together.  As long as no
lock is given back, the counterpart has not begun the operation, and beginning
it now would lead to where the thread is. -/
def Task.Tracks (rules : Table → Rule Lock)
    (codes : (op : Op) → Code Lock Contents (Answer op))
    (own seen : ∀ table, Contents table) (standing : Standing Lock) :
    Task Lock Contents Answer α → Dialogue Answer α → Prop
  | .idle rest, counterpart => counterpart = rest
  | .busy op rest code, counterpart =>
      (standing.released = true →
        ∀ store, counterpart = rest (alone code store).1) ∧
      (standing.released = false → counterpart = .ask op rest ∧
        ∀ store,
          (∀ table, (rules table).Reads standing.held →
            store table = seen table) →
          alone (codes op) store =
            alone code (overlay rules standing.held own store))

/-- A thread is not affected by changes to what it has no lock for. -/
theorem Task.Tracks.congr {rules : Table → Rule Lock}
    {codes : (op : Op) → Code Lock Contents (Answer op)}
    {own seen own' seen' : ∀ table, Contents table} {standing : Standing Lock}
    {task : Task Lock Contents Answer α} {counterpart : Dialogue Answer α}
    (tracks : task.Tracks rules codes own seen standing counterpart)
    (sameOwn : ∀ table, (rules table).Writes standing.held →
      own' table = own table)
    (sameSeen : ∀ table, (rules table).Reads standing.held →
      seen' table = seen table) :
    task.Tracks rules codes own' seen' standing counterpart := by
  cases task with
  | idle rest => exact tracks
  | busy op rest code =>
      refine ⟨tracks.1, fun growing => ?_⟩
      obtain ⟨asks, replays⟩ := tracks.2 growing
      refine ⟨asks, fun store agrees => ?_⟩
      have hidden : overlay rules standing.held own' store =
          overlay rules standing.held own store := by
        funext table
        by_cases writes : (rules table).Writes standing.held
        · rw [overlay_of_writes writes, overlay_of_writes writes,
            sameOwn table writes]
        · rw [overlay_of_not writes, overlay_of_not writes]
      rw [hidden]
      exact replays store fun table reads =>
        (agrees table reads).trans (sameSeen table reads)

/-- What the counterpart does when the thread has nothing left to access. -/
theorem Task.Tracks.commit {rules : Table → Rule Lock}
    {codes : (op : Op) → Code Lock Contents (Answer op)}
    {view : σ → ∀ table, Contents table}
    {effect : (op : Op) → σ → Answer op × σ}
    (implements : ∀ op state, alone (codes op) (view state) =
      ((effect op state).1, view (effect op state).2))
    {op : Op} {rest : Answer op → Dialogue Answer α}
    {code : Code Lock Contents (Answer op)} {answer : Answer op}
    {own : ∀ table, Contents table} {standing : Standing Lock} {state : σ}
    {counterpart : Dialogue Answer α}
    (tracks : (Task.busy op rest code).Tracks rules codes own (view state)
      standing counterpart)
    (growing : standing.released = false)
    (settled : ∀ store, alone code store = (answer, store)) :
    counterpart = .ask op rest ∧ (effect op state).1 = answer ∧
      view (effect op state).2 =
        overlay rules standing.held own (view state) := by
  obtain ⟨asks, replays⟩ := tracks.2 growing
  have ended := replays (view state) fun _ _ => rfl
  rw [implements, settled] at ended
  exact ⟨asks, congrArg Prod.fst ended, congrArg Prod.snd ended⟩

/-- How a configuration and its atomic counterpart belong together. -/
structure Follows (rules : Table → Rule Lock)
    (codes : (op : Op) → Code Lock Contents (Answer op))
    (view : σ → ∀ table, Contents table)
    (config : Config Thread Lock Contents Answer α)
    (standings : Thread → Standing Lock)
    (atomic : Atomic Thread σ Answer α) : Prop where
  store : ∀ table,
    (∀ thread, (standings thread).released = false →
      ¬(rules table).Writes (standings thread).held) →
    view atomic.state table = config.shared.store table
  tracks : ∀ thread, (config.threads thread).Tracks rules codes
    config.shared.store (view atomic.state) (standings thread)
    (atomic.threads thread)

section Simulation

variable [DecidableEq Thread] {rank : Lock → Nat} {rules : Table → Rule Lock}
  {codes : (op : Op) → Code Lock Contents (Answer op)}
  {view : σ → ∀ table, Contents table}
  {effect : (op : Op) → σ → Answer op × σ}
  {config after : Config Thread Lock Contents Answer α}
  {standings : Thread → Standing Lock} {thread : Thread}
  {atomic : Atomic Thread σ Answer α}

theorem Follows.update
    (follows : Follows rules codes view config standings atomic)
    {shared : Shared Thread Lock Contents} {task : Task Lock Contents Answer α}
    {standing : Standing Lock} {state : σ} {counterpart : Dialogue Answer α}
    (store : ∀ table,
      (∀ other, other ≠ thread → (standings other).released = false →
        ¬(rules table).Writes (standings other).held) →
      (standing.released = false → ¬(rules table).Writes standing.held) →
      view state table = shared.store table)
    (own : ∀ other, other ≠ thread → ∀ table,
      (rules table).Reads (standings other).held →
      shared.store table = config.shared.store table ∧
        view state table = view atomic.state table)
    (tracks : task.Tracks rules codes shared.store (view state) standing
      counterpart) :
    Follows rules codes view
      { shared := shared
        threads := Function.update config.threads thread task }
      (Function.update standings thread standing)
      { state := state
        threads := Function.update atomic.threads thread counterpart } := by
  constructor
  · intro table unwritten
    refine store table (fun other different => ?_) ?_
    · have there := unwritten other
      rwa [Function.update_of_ne different] at there
    · have here := unwritten thread
      rwa [Function.update_self] at here
  · intro other
    change (Function.update config.threads thread task other).Tracks rules codes
      shared.store (view state) (Function.update standings thread standing other)
      (Function.update atomic.threads thread counterpart other)
    by_cases same : other = thread
    · subst same
      rw [Function.update_self, Function.update_self, Function.update_self]
      exact tracks
    · rw [Function.update_of_ne same, Function.update_of_ne same,
        Function.update_of_ne same]
      exact (follows.tracks other).congr
        (fun table writes => (own other same table writes.reads).1)
        (fun table reads => (own other same table reads).2)

omit [DecidableEq Table] in
theorem update_counterpart (atomic : Atomic Thread σ Answer α)
    (thread : Thread) :
    { state := atomic.state
      threads := Function.update atomic.threads thread
        (atomic.threads thread) : Atomic Thread σ Answer α } = atomic := by
  rw [Function.update_eq_self]

/-- Rebuilding the relation after a step of one thread that its counterpart
does not notice. -/
theorem Follows.stay
    (follows : Follows rules codes view config standings atomic)
    {shared : Shared Thread Lock Contents} {task : Task Lock Contents Answer α}
    {standing : Standing Lock}
    (store : ∀ table,
      (∀ other, other ≠ thread → (standings other).released = false →
        ¬(rules table).Writes (standings other).held) →
      (standing.released = false → ¬(rules table).Writes standing.held) →
      view atomic.state table = shared.store table)
    (own : ∀ other, other ≠ thread → ∀ table,
      (rules table).Reads (standings other).held →
      shared.store table = config.shared.store table)
    (tracks : task.Tracks rules codes shared.store (view atomic.state) standing
      (atomic.threads thread)) :
    Follows rules codes view
      { shared := shared
        threads := Function.update config.threads thread task }
      (Function.update standings thread standing) atomic := by
  have followed := follows.update store
    (fun other different table reads => ⟨own other different table reads, rfl⟩)
    tracks
  rwa [update_counterpart] at followed

variable [DecidableEq Lock]

/-- A table that the thread may read, and that no other thread changes, is as
the counterpart has it unless the thread itself may change it. -/
theorem Follows.seen (checked : ∀ table, rules table ≠ .unchecked)
    (orderly : Orderly rank rules config standings)
    (follows : Follows rules codes view config standings atomic)
    {table : Table} (reads : (rules table).Reads (standings thread).held)
    (unwritten : ¬(rules table).Writes (standings thread).held) :
    view atomic.state table = config.shared.store table := by
  apply follows.store
  intro other _ writes
  by_cases same : other = thread
  · subst same
    exact unwritten writes
  · exact orderly.not_reads same (checked table) writes reads

/-- The counterpart does the operation of a thread that has nothing left to
access. -/
theorem Follows.commit
    (implements : ∀ op state, alone (codes op) (view state) =
      ((effect op state).1, view (effect op state).2))
    (checked : ∀ table, rules table ≠ .unchecked)
    (orderly : Orderly rank rules config standings)
    (follows : Follows rules codes view config standings atomic)
    {op : Op} {rest : Answer op → Dialogue Answer α}
    {code : Code Lock Contents (Answer op)} {answer : Answer op}
    (here : config.threads thread = .busy op rest code)
    (growing : (standings thread).released = false)
    (settled : ∀ store, alone code store = (answer, store))
    {shared : Shared Thread Lock Contents} {task : Task Lock Contents Answer α}
    {standing : Standing Lock} (kept : shared.store = config.shared.store)
    (tracks : ∀ seen, task.Tracks rules codes shared.store seen standing
      (rest answer)) :
    ∃ stepped, Atomic.Step effect atomic thread stepped ∧
      Follows rules codes view
        { shared := shared
          threads := Function.update config.threads thread task }
        (Function.update standings thread standing) stepped := by
  have tracked := follows.tracks thread
  rw [here] at tracked
  obtain ⟨asks, answered, left⟩ := tracked.commit implements growing settled
  refine ⟨⟨(effect op atomic.state).2, Function.update atomic.threads thread
    (rest answer)⟩, ?_, follows.update ?_ ?_ (tracks _)⟩
  · unfold Atomic.Step Atomic.step
    rw [asks, ← answered]
  · intro table others _
    rw [left, kept]
    by_cases writes : (rules table).Writes (standings thread).held
    · exact overlay_of_writes writes
    · rw [overlay_of_not writes]
      apply follows.store
      intro other still
      by_cases same : other = thread
      · rw [same]
        exact writes
      · exact others other same still
  · intro other different table reads
    rw [left, kept]
    refine ⟨rfl, overlay_of_not fun writes => ?_⟩
    exact orderly.not_reads (Ne.symm different) (checked table) writes reads

/-! ## Steps -/

theorem Follows.take
    (follows : Follows rules codes view config standings atomic)
    {op : Op} {rest : Answer op → Dialogue Answer α}
    {code next : Code Lock Contents (Answer op)} {lock : Lock} {hold : Hold}
    {shared : Shared Thread Lock Contents}
    (here : config.threads thread = .busy op rest code)
    (same : ∀ store, alone code store = alone next store)
    (growing : (standings thread).released = false)
    (unheld : (standings thread).held lock = .free)
    (inclusive : hold ≠ .exclusive)
    (kept : shared.store = config.shared.store) :
    Follows rules codes view
      { shared := shared
        threads := Function.update config.threads thread
          (.busy op rest next) }
      (Function.update standings thread ((standings thread).set lock hold))
      atomic := by
  have before : (standings thread).held lock ≠ .exclusive := by
    rw [unheld]
    exact Hold.noConfusion
  have tracked := follows.tracks thread
  rw [here] at tracked
  obtain ⟨asks, replays⟩ := tracked.2 growing
  refine follows.stay ?_ ?_ ⟨?_, fun _ => ⟨asks, ?_⟩⟩
  · intro table others unwritten
    rw [kept]
    apply follows.store
    intro other still writes
    by_cases own : other = thread
    · subst own
      exact unwritten growing
        ((Rule.writes_update before inclusive).mpr writes)
    · exact others other own still writes
  · intro _ _ _ _
    rw [kept]
  · intro released
    exact absurd (growing.symm.trans released) Bool.false_ne_true
  · intro store agrees
    have hidden : overlay rules ((standings thread).set lock hold).held
        shared.store store =
        overlay rules (standings thread).held config.shared.store store := by
      rw [kept]
      funext table
      unfold overlay Standing.set
      simp only [Rule.writes_update before inclusive]
    rw [hidden, ← same]
    exact replays store fun table reads =>
      agrees table (reads.update (.inl unheld) hold)

theorem Follows.acquire (checked : ∀ table, rules table ≠ .unchecked)
    {op : Op} {rest : Answer op → Dialogue Answer α}
    {code next : Code Lock Contents (Answer op)} {lock : Lock}
    (follows : Follows rules codes view config standings atomic)
    (here : config.threads thread = .busy op rest code)
    (same : ∀ store, alone code store = alone next store)
    (growing : (standings thread).released = false)
    (announced : (standings thread).held lock = .announced)
    (orderly : Orderly rank rules
      { config with
        threads := Function.update config.threads thread
          (.busy op rest next) }
      (Function.update standings thread
        ((standings thread).set lock .exclusive))) :
    Follows rules codes view
      { config with
        threads := Function.update config.threads thread
          (.busy op rest next) }
      (Function.update standings thread
        ((standings thread).set lock .exclusive))
      atomic := by
  have tracked := follows.tracks thread
  rw [here] at tracked
  obtain ⟨asks, replays⟩ := tracked.2 growing
  have grows : ∀ table, (rules table).Writes (standings thread).held →
      (rules table).Writes ((standings thread).set lock .exclusive).held := by
    intro table writes
    cases rule : rules table with
    | guarded other =>
        rw [rule] at writes
        change Function.update (standings thread).held lock .exclusive other =
          .exclusive
        by_cases same : other = lock
        · rw [same, Function.update_self]
        · rw [Function.update_of_ne same]
          exact writes
    | frozen =>
        rw [rule] at writes
        exact writes
    | unchecked => exact absurd rule (checked table)
  -- what the lock guards is seen by all as it is
  have unseen : ∀ table,
      (rules table).Writes ((standings thread).set lock .exclusive).held →
      ¬(rules table).Writes (standings thread).held →
      view atomic.state table = config.shared.store table := by
    intro table writes unwritten
    apply follows.store
    intro other _ otherWrites
    by_cases own : other = thread
    · subst own
      exact unwritten otherWrites
    · have excluded := orderly.not_reads (Ne.symm own) (checked table)
        (by rw [Function.update_self]; exact writes)
      rw [Function.update_of_ne own] at excluded
      exact excluded otherWrites.reads
  refine follows.stay ?_ (fun _ _ _ _ => rfl) ⟨?_, fun _ => ⟨asks, ?_⟩⟩
  · intro table others unwritten
    apply follows.store
    intro other still writes
    by_cases own : other = thread
    · subst own
      exact unwritten growing (grows table writes)
    · exact others other own still writes
  · intro released
    exact absurd (growing.symm.trans released) Bool.false_ne_true
  · intro store agrees
    have hidden : overlay rules ((standings thread).set lock .exclusive).held
        config.shared.store store =
        overlay rules (standings thread).held config.shared.store store := by
      funext table
      by_cases before : (rules table).Writes (standings thread).held
      · rw [overlay_of_writes before, overlay_of_writes (grows table before)]
      · rw [overlay_of_not before]
        by_cases writes :
            (rules table).Writes ((standings thread).set lock .exclusive).held
        · rw [overlay_of_writes writes, agrees table writes.reads,
            unseen table writes before]
        · rw [overlay_of_not writes]
    rw [hidden, ← same]
    exact replays store fun table reads =>
      agrees table (reads.update (.inr announced) .exclusive)

theorem Follows.read (checked : ∀ table, rules table ≠ .unchecked)
    (orderly : Orderly rank rules config standings)
    (follows : Follows rules codes view config standings atomic)
    {op : Op} {rest : Answer op → Dialogue Answer α} {table : Table}
    {next : Contents table → Code Lock Contents (Answer op)}
    (here : config.threads thread = .busy op rest (.ask (.read table) next))
    (growing : (standings thread).released = false)
    (reads : (rules table).Reads (standings thread).held) :
    Follows rules codes view
      { config with
        threads := Function.update config.threads thread
          (.busy op rest (next (config.shared.store table))) }
      (Function.update standings thread (standings thread)) atomic := by
  have tracked := follows.tracks thread
  rw [here] at tracked
  obtain ⟨asks, replays⟩ := tracked.2 growing
  refine follows.stay ?_ (fun _ _ _ _ => rfl) ⟨?_, fun _ => ⟨asks, ?_⟩⟩
  · intro table others unwritten
    apply follows.store
    intro other still
    by_cases own : other = thread
    · subst own
      exact unwritten still
    · exact others other own still
  · intro released
    exact absurd (growing.symm.trans released) Bool.false_ne_true
  · intro store agrees
    have found : overlay rules (standings thread).held config.shared.store
        store table = config.shared.store table := by
      by_cases writes : (rules table).Writes (standings thread).held
      · exact overlay_of_writes writes
      · rw [overlay_of_not writes, agrees table reads]
        exact follows.seen checked orderly reads writes
    rw [← found]
    exact replays store agrees

theorem Follows.change (checked : ∀ table, rules table ≠ .unchecked)
    (orderly : Orderly rank rules config standings)
    (follows : Follows rules codes view config standings atomic)
    {op : Op} {rest : Answer op → Dialogue Answer α} {table : Table}
    {change : Contents table → Contents table}
    {next : Unit → Code Lock Contents (Answer op)}
    (here : config.threads thread =
      .busy op rest (.ask (.update table change) next))
    (growing : (standings thread).released = false)
    (writes : (rules table).Writes (standings thread).held) :
    Follows rules codes view
      { shared :=
          { config.shared with
            store := Function.update config.shared.store table
              (change (config.shared.store table)) }
        threads := Function.update config.threads thread
          (.busy op rest (next ())) }
      (Function.update standings thread (standings thread)) atomic := by
  have tracked := follows.tracks thread
  rw [here] at tracked
  obtain ⟨asks, replays⟩ := tracked.2 growing
  refine follows.stay ?_ ?_ ⟨?_, fun _ => ⟨asks, ?_⟩⟩
  · intro other others unwritten
    have different : other ≠ table := by
      rintro rfl
      exact unwritten growing writes
    change view atomic.state other =
      Function.update config.shared.store table _ other
    rw [Function.update_of_ne different]
    apply follows.store
    intro reader still
    by_cases own : reader = thread
    · subst own
      exact unwritten still
    · exact others reader own still
  · intro other different read reads
    apply Function.update_of_ne
    rintro rfl
    exact orderly.not_reads (Ne.symm different) (checked read) writes reads
  · intro released
    exact absurd (growing.symm.trans released) Bool.false_ne_true
  · intro store agrees
    have own : overlay rules (standings thread).held config.shared.store
        store table = config.shared.store table :=
      overlay_of_writes writes
    have changed : overlay rules (standings thread).held
        (Function.update config.shared.store table
          (change (config.shared.store table))) store =
        Function.update
          (overlay rules (standings thread).held config.shared.store store)
          table (change (overlay rules (standings thread).held
            config.shared.store store table)) := by
      rw [own]
      funext other
      by_cases same : other = table
      · subst same
        rw [overlay_of_writes writes, Function.update_self,
          Function.update_self]
      · unfold overlay
        rw [Function.update_of_ne same, Function.update_of_ne same]
    change _ = alone (next ()) (overlay rules (standings thread).held
      (Function.update config.shared.store table _) store)
    rw [changed]
    exact replays store agrees

/-- A thread gives a lock back.  If it is the first one, the operation happens
here. -/
theorem Follows.release
    (implements : ∀ op state, alone (codes op) (view state) =
      ((effect op state).1, view (effect op state).2))
    (checked : ∀ table, rules table ≠ .unchecked)
    (orderly : Orderly rank rules config standings)
    (follows : Follows rules codes view config standings atomic)
    {op : Op} {rest : Answer op → Dialogue Answer α}
    {code next : Code Lock Contents (Answer op)} {lock : Lock}
    {shared : Shared Thread Lock Contents}
    (here : config.threads thread = .busy op rest code)
    (same : ∀ store, alone code store = alone next store)
    (disciplined : Disciplined rank rules next
      ((standings thread).release lock))
    (kept : shared.store = config.shared.store) :
    ∃ stepped, (stepped = atomic ∨
        Atomic.Step effect atomic thread stepped) ∧
      Follows rules codes view
        { shared := shared
          threads := Function.update config.threads thread
            (.busy op rest next) }
        (Function.update standings thread ((standings thread).release lock))
        stepped := by
  have settled : ∀ store, alone next store =
      ((alone next config.shared.store).1, store) :=
    fun store => alone_released disciplined rfl store config.shared.store
  cases growing : (standings thread).released with
  | false =>
      have tracks : ∀ seen, (Task.busy op rest next).Tracks rules codes
          shared.store seen ((standings thread).release lock)
          (rest (alone next config.shared.store).1) := by
        intro seen
        refine ⟨fun _ store => ?_, fun growing => ?_⟩
        · rw [settled store]
        · exact absurd growing Bool.noConfusion
      obtain ⟨stepped, taken, followed⟩ := follows.commit implements checked
        orderly here growing (fun store => (same store).trans (settled store))
        kept tracks
      exact ⟨stepped, .inr taken, followed⟩
  | true =>
      have tracked := follows.tracks thread
      rw [here] at tracked
      refine ⟨atomic, .inl rfl, follows.stay ?_ ?_ ⟨?_, ?_⟩⟩
      · intro table others _
        rw [kept]
        apply follows.store
        intro other still
        by_cases own : other = thread
        · subst own
          exact absurd (still.symm.trans growing) Bool.false_ne_true
        · exact others other own still
      · intro _ _ _ _
        rw [kept]
      · intro _ store
        rw [← same]
        exact tracked.1 growing store
      · intro released
        exact absurd released Bool.noConfusion

theorem Follows.enter (checked : ∀ table, rules table ≠ .unchecked)
    (orderly : Orderly rank rules config standings)
    (follows : Follows rules codes view config standings atomic)
    {op : Op} {rest : Answer op → Dialogue Answer α}
    (here : config.threads thread = .idle (.ask op rest)) :
    Follows rules codes view
      { config with
        threads := Function.update config.threads thread
          (.busy op rest (codes op)) }
      (Function.update standings thread .start) atomic := by
  have obeys := orderly.obeys thread
  have tracked := follows.tracks thread
  rw [here] at obeys tracked
  refine follows.stay ?_ (fun _ _ _ _ => rfl) ⟨?_, fun _ => ⟨tracked, ?_⟩⟩
  · intro table others unwritten
    apply follows.store
    intro other still
    by_cases own : other = thread
    · subst own
      rw [obeys]
      exact unwritten rfl
    · exact others other own still
  · intro released
    exact absurd released Bool.false_ne_true
  · intro store _
    have nothing : overlay rules Standing.start.held config.shared.store store =
        store :=
      overlay_free checked fun _ => rfl
    rw [nothing]

/-- A thread leaves an operation.  If no lock was given back in it, the
operation happens here. -/
theorem Follows.leave
    (implements : ∀ op state, alone (codes op) (view state) =
      ((effect op state).1, view (effect op state).2))
    (checked : ∀ table, rules table ≠ .unchecked)
    (orderly : Orderly rank rules config standings)
    (follows : Follows rules codes view config standings atomic)
    {op : Op} {rest : Answer op → Dialogue Answer α} {answer : Answer op}
    (here : config.threads thread = .busy op rest (.done answer)) :
    ∃ stepped, (stepped = atomic ∨
        Atomic.Step effect atomic thread stepped) ∧
      Follows rules codes view
        { config with
          threads := Function.update config.threads thread
            (.idle (rest answer)) }
        (Function.update standings thread .start) stepped := by
  cases growing : (standings thread).released with
  | false =>
      have tracks : ∀ seen, (Task.idle (rest answer)).Tracks rules codes
          config.shared.store seen .start (rest answer) := fun _ => rfl
      obtain ⟨stepped, taken, followed⟩ := follows.commit implements checked
        orderly here growing (fun _ => rfl) rfl tracks
      exact ⟨stepped, .inr taken, followed⟩
  | true =>
      have tracked := follows.tracks thread
      rw [here] at tracked
      refine ⟨atomic, .inl rfl, follows.stay ?_ (fun _ _ _ _ => rfl) ?_⟩
      · intro table others _
        apply follows.store
        intro other still
        by_cases own : other = thread
        · subst own
          exact absurd (still.symm.trans growing) Bool.false_ne_true
        · exact others other own still
      · exact tracked.1 growing config.shared.store

/-- Step: the counterpart stays, or the thread does an operation in it. -/
theorem Follows.step
    (implements : ∀ op state, alone (codes op) (view state) =
      ((effect op state).1, view (effect op state).2))
    (checked : ∀ table, rules table ≠ .unchecked)
    (disciplined : ∀ op, Disciplined rank rules (codes op) .start)
    (orderly : Orderly rank rules config standings)
    (follows : Follows rules codes view config standings atomic)
    (taken : Config.Step codes config thread after) :
    ∃ stepped, (stepped = atomic ∨
        Atomic.Step effect atomic thread stepped) ∧
      Follows rules codes view after (Function.update standings thread
        ((config.threads thread).nextStanding (standings thread)))
        stepped := by
  have next := orderly.step disciplined taken
  rcases taken.cases with ⟨op, rest, here, rfl⟩ |
    ⟨op, rest, answer, here, rfl⟩ |
    ⟨op, rest, action, remaining, reply, shared, here, performed, rfl⟩
  · rw [here]
    exact ⟨atomic, .inl rfl, follows.enter checked orderly here⟩
  · rw [here]
    exact follows.leave implements checked orderly here
  · have obeys := orderly.obeys thread
    rw [here] at obeys next ⊢
    obtain ⟨permitted, later⟩ := obeys
    cases action with
    | announce lock =>
        simp only [Shared.perform] at performed
        split at performed
        · cases performed
          exact ⟨atomic, .inl rfl, follows.take here (fun _ => rfl)
            permitted.1 permitted.2.1 Hold.noConfusion rfl⟩
        · cases performed
    | acquire lock =>
        simp only [Shared.perform] at performed
        split at performed
        · cases performed
          exact ⟨atomic, .inl rfl, follows.acquire checked here (fun _ => rfl)
            permitted.1 permitted.2.1 next⟩
        · cases performed
    | rlock lock =>
        simp only [Shared.perform] at performed
        split at performed
        · cases performed
          exact ⟨atomic, .inl rfl, follows.take here (fun _ => rfl)
            permitted.1 permitted.2.1 Hold.noConfusion rfl⟩
        · cases performed
    | unlock lock =>
        cases performed
        exact follows.release implements checked orderly here (fun _ => rfl)
          (later ()) rfl
    | runlock lock =>
        cases performed
        exact follows.release implements checked orderly here (fun _ => rfl)
          (later ()) rfl
    | read table =>
        cases performed
        exact ⟨atomic, .inl rfl,
          follows.read checked orderly here permitted.1 permitted.2⟩
    | update table change =>
        cases performed
        exact ⟨atomic, .inl rfl,
          follows.change checked orderly here permitted.1 permitted.2⟩

/-- Run: whatever the schedule, the operations happen at once and one after the
other, each at a step of its own thread. -/
theorem Follows.of_run
    (implements : ∀ op state, alone (codes op) (view state) =
      ((effect op state).1, view (effect op state).2))
    (checked : ∀ table, rules table ≠ .unchecked)
    (disciplined : ∀ op, Disciplined rank rules (codes op) .start)
    {schedule : List Thread}
    (orderly : Orderly rank rules config standings)
    (follows : Follows rules codes view config standings atomic)
    (run : Run (Config.Step codes) config schedule after) :
    ∃ order final last, order.Sublist schedule ∧
      Run (Atomic.Step effect) atomic order final ∧
      Orderly rank rules after last ∧
      Follows rules codes view after last final := by
  induction run generalizing standings atomic with
  | nil config =>
      exact ⟨[], atomic, standings, .slnil, .nil atomic, orderly, follows⟩
  | cons taken _ induction =>
      obtain ⟨stepped, stay | happens, followed⟩ :=
        follows.step implements checked disciplined orderly taken
      · subst stay
        obtain ⟨order, final, last, sublist, run, kept⟩ :=
          induction (orderly.step disciplined taken) followed
        exact ⟨order, final, last, sublist.cons _, run, kept⟩
      · obtain ⟨order, final, last, sublist, run, kept⟩ :=
          induction (orderly.step disciplined taken) followed
        exact ⟨_ :: order, final, last, sublist.cons_cons _,
          .cons happens run, kept⟩

/-- Threads from the beginning of their programs.  A thread between two
operations is where its counterpart is, and if all threads are, then so are
the tables. -/
theorem atomic_of_run
    (implements : ∀ op state, alone (codes op) (view state) =
      ((effect op state).1, view (effect op state).2))
    (checked : ∀ table, rules table ≠ .unchecked)
    (disciplined : ∀ op, Disciplined rank rules (codes op) .start)
    {state : σ} {programs : Thread → Dialogue Answer α}
    {schedule : List Thread}
    (run : Run (Config.Step codes) (.start (view state) programs) schedule
      after) :
    ∃ order final, order.Sublist schedule ∧
      Run (Atomic.Step effect) { state := state, threads := programs } order
        final ∧
      (∀ thread rest, after.threads thread = .idle rest →
        final.threads thread = rest) ∧
      ((∀ thread, ∃ rest, after.threads thread = .idle rest) →
        view final.state = after.shared.store) := by
  have orderly : Orderly rank rules
      (.start (view state) programs : Config Thread Lock Contents Answer α)
      fun _ => .start :=
    Orderly.start _ _
  have initial : Follows rules codes view (.start (view state) programs)
      (fun _ => .start) { state := state, threads := programs } :=
    ⟨fun _ _ => rfl, fun _ => rfl⟩
  obtain ⟨order, final, last, sublist, happened, ordered, follows⟩ :=
    initial.of_run implements checked disciplined orderly run
  refine ⟨order, final, sublist, happened, ?_, ?_⟩
  · intro thread rest idle
    have tracked := follows.tracks thread
    rw [idle] at tracked
    exact tracked
  · intro idle
    funext table
    apply follows.store
    intro thread _ writes
    obtain ⟨rest, between⟩ := idle thread
    have obeys := ordered.obeys thread
    rw [between] at obeys
    rw [obeys] at writes
    exact Rule.not_writes_free (checked table) (fun _ => rfl) writes

end Simulation

end Locking
