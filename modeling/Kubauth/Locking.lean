import Kubauth.Dialogue
import Kubauth.Run
import Mathlib.Data.Set.Finite.Lemmas
import Mathlib.Data.Finite.Defs
import Mathlib.Logic.Function.Basic

/-!
# Threads that share tables under read-write locks

Threads call operations, and the code of an operation takes locks and reads and
changes shared tables, one action after the other.  A writer first announces
itself, which holds new readers off, and then waits for the readers that are
left.  Code that takes its locks in one order never blocks for good, and code
that accesses each table under the lock that guards it never races.
-/

namespace Locking

variable {Thread Lock Table Op α β : Type} {Contents : Table → Type}
  {Answer : Op → Type}

/-! ## Actions -/

inductive Action (Lock : Type) {Table : Type} (Contents : Table → Type) where
  | announce (lock : Lock)
  | acquire (lock : Lock)
  | rlock (lock : Lock)
  | unlock (lock : Lock)
  | runlock (lock : Lock)
  | read (table : Table)
  | update (table : Table) (change : Contents table → Contents table)

def Action.Reply : Action Lock Contents → Type
  | .read table => Contents table
  | _ => Unit

/-- The code of an operation. -/
abbrev Code (Lock : Type) {Table : Type} (Contents : Table → Type)
    (α : Type) :=
  Dialogue (@Action.Reply Lock Table Contents) α

/-- The body between `Lock` and a deferred `Unlock`. -/
def locked (lock : Lock) (body : Code Lock Contents α) :
    Code Lock Contents α :=
  .ask (.announce lock) fun _ => .ask (.acquire lock) fun _ =>
    body >>= fun result => .ask (.unlock lock) fun _ => .done result

/-- The body between `RLock` and a deferred `RUnlock`. -/
def rlocked (lock : Lock) (body : Code Lock Contents α) :
    Code Lock Contents α :=
  .ask (.rlock lock) fun _ =>
    body >>= fun result => .ask (.runlock lock) fun _ => .done result

/-! ## Threads -/

/-- A lock: the thread that writes or has announced itself, and the threads
that read. -/
structure Mutex (Thread : Type) where
  writer : Option Thread
  readers : List Thread

structure Shared (Thread Lock : Type) {Table : Type}
    (Contents : Table → Type) where
  store : ∀ table, Contents table
  mutexes : Lock → Mutex Thread

namespace Shared

variable [DecidableEq Thread] [DecidableEq Lock] [DecidableEq Table]

def setMutex (shared : Shared Thread Lock Contents) (lock : Lock)
    (mutex : Mutex Thread) : Shared Thread Lock Contents :=
  { shared with mutexes := Function.update shared.mutexes lock mutex }

/-- An action of a thread, unless the thread has to wait. -/
def perform (shared : Shared Thread Lock Contents) (thread : Thread) :
    (action : Action Lock Contents) →
      Option (action.Reply × Shared Thread Lock Contents)
  | .announce lock =>
      match (shared.mutexes lock).writer with
      | none =>
          some ((), shared.setMutex lock
            { shared.mutexes lock with writer := some thread })
      | some _ => none
  | .acquire lock =>
      match (shared.mutexes lock).readers with
      | [] => some ((), shared)
      | _ :: _ => none
  | .rlock lock =>
      match (shared.mutexes lock).writer with
      | none =>
          some ((), shared.setMutex lock
            { shared.mutexes lock with
              readers := thread :: (shared.mutexes lock).readers })
      | some _ => none
  | .unlock lock =>
      some ((), shared.setMutex lock
        { shared.mutexes lock with writer := none })
  | .runlock lock =>
      some ((), shared.setMutex lock
        { shared.mutexes lock with
          readers := (shared.mutexes lock).readers.erase thread })
  | .read table => some (shared.store table, shared)
  | .update table change =>
      some ((), { shared with
        store := Function.update shared.store table
          (change (shared.store table)) })

theorem perform_eq_none {shared : Shared Thread Lock Contents}
    {thread : Thread} {action : Action Lock Contents}
    (waits : shared.perform thread action = none) :
    (∃ lock holder, (action = .announce lock ∨ action = .rlock lock) ∧
      (shared.mutexes lock).writer = some holder) ∨
    ∃ lock holder, action = .acquire lock ∧
      holder ∈ (shared.mutexes lock).readers := by
  cases action with
  | announce lock =>
      simp only [perform] at waits
      split at waits
      · cases waits
      · next holder writes => exact .inl ⟨lock, holder, .inl rfl, writes⟩
  | rlock lock =>
      simp only [perform] at waits
      split at waits
      · cases waits
      · next holder writes => exact .inl ⟨lock, holder, .inr rfl, writes⟩
  | acquire lock =>
      simp only [perform] at waits
      split at waits
      · cases waits
      · next holder others reads =>
          refine .inr ⟨lock, holder, rfl, ?_⟩
          rw [reads]
          exact List.mem_cons_self
  | unlock lock => cases waits
  | runlock lock => cases waits
  | read table => cases waits
  | update table change => cases waits

end Shared

/-- A thread between two operations, or inside of one. -/
inductive Task (Lock : Type) {Table Op : Type} (Contents : Table → Type)
    (Answer : Op → Type) (α : Type) where
  | idle (rest : Dialogue Answer α)
  | busy (op : Op) (rest : Answer op → Dialogue Answer α)
      (code : Code Lock Contents (Answer op))

/-- The action that the thread is about to do. -/
def Task.pending : Task Lock Contents Answer α → Option (Action Lock Contents)
  | .busy _ _ (.ask action _) => some action
  | _ => none

structure Config (Thread Lock : Type) {Table Op : Type}
    (Contents : Table → Type) (Answer : Op → Type) (α : Type) where
  shared : Shared Thread Lock Contents
  threads : Thread → Task Lock Contents Answer α

namespace Config

/-- All threads are at the beginning of their programs. -/
def start (store : ∀ table, Contents table)
    (programs : Thread → Dialogue Answer α) :
    Config Thread Lock Contents Answer α where
  shared :=
    { store := store, mutexes := fun _ => { writer := none, readers := [] } }
  threads := fun thread => .idle (programs thread)

/-- The thread has come to the end of its program. -/
def Finished (config : Config Thread Lock Contents Answer α)
    (thread : Thread) : Prop :=
  ∃ result, config.threads thread = .idle (.done result)

/-- Two threads are about to access the table, and one of them to change
it. -/
def Race (config : Config Thread Lock Contents Answer α)
    (table : Table) : Prop :=
  ∃ first second, first ≠ second ∧
    (∃ change,
      (config.threads first).pending = some (.update table change)) ∧
    ((config.threads second).pending = some (.read table) ∨
      ∃ change,
        (config.threads second).pending = some (.update table change))

variable [DecidableEq Thread] [DecidableEq Lock] [DecidableEq Table]

/-- The thread takes its next step, unless it is finished or has to wait. -/
def step (codes : (op : Op) → Code Lock Contents (Answer op))
    (config : Config Thread Lock Contents Answer α) (thread : Thread) :
    Option (Config Thread Lock Contents Answer α) :=
  match config.threads thread with
  | .idle (.done _) => none
  | .idle (.ask op rest) =>
      some { config with
        threads := Function.update config.threads thread
          (.busy op rest (codes op)) }
  | .busy _ rest (.done answer) =>
      some { config with
        threads := Function.update config.threads thread
          (.idle (rest answer)) }
  | .busy op rest (.ask action next) =>
      match config.shared.perform thread action with
      | none => none
      | some (reply, shared) =>
          some
            { shared := shared
              threads := Function.update config.threads thread
                (.busy op rest (next reply)) }

/-- Steps as a relation. -/
def Step (codes : (op : Op) → Code Lock Contents (Answer op))
    (before : Config Thread Lock Contents Answer α) (thread : Thread)
    (after : Config Thread Lock Contents Answer α) : Prop :=
  before.step codes thread = some after

variable {codes : (op : Op) → Code Lock Contents (Answer op)}
  {config after : Config Thread Lock Contents Answer α} {thread : Thread}

/-- A step enters an operation, leaves it, or performs an action of it. -/
theorem Step.cases (taken : Step codes config thread after) :
    (∃ op rest, config.threads thread = .idle (.ask op rest) ∧
      after = { config with
        threads := Function.update config.threads thread
          (.busy op rest (codes op)) }) ∨
    (∃ op rest answer,
      config.threads thread = .busy op rest (.done answer) ∧
      after = { config with
        threads := Function.update config.threads thread
          (.idle (rest answer)) }) ∨
    ∃ op rest action next reply shared,
      config.threads thread = .busy op rest (.ask action next) ∧
      config.shared.perform thread action = some (reply, shared) ∧
      after =
        { shared := shared
          threads := Function.update config.threads thread
            (.busy op rest (next reply)) } := by
  unfold Step step at taken
  split at taken
  · cases taken
  · next op rest here => exact .inl ⟨op, rest, here, (Option.some.inj taken).symm⟩
  · next op rest answer here =>
      exact .inr (.inl ⟨op, rest, answer, here, (Option.some.inj taken).symm⟩)
  · next op rest action next here =>
      split at taken
      · cases taken
      · next reply shared performed =>
          exact .inr (.inr ⟨op, rest, action, next, reply, shared, here,
            performed, (Option.some.inj taken).symm⟩)

theorem step_enter {op : Op} {rest : Answer op → Dialogue Answer α}
    (here : config.threads thread = .idle (.ask op rest)) :
    Step codes config thread
      { config with
        threads := Function.update config.threads thread
          (.busy op rest (codes op)) } := by
  unfold Step step
  rw [here]

theorem step_perform {op : Op} {rest : Answer op → Dialogue Answer α}
    {action : Action Lock Contents}
    {next : action.Reply → Code Lock Contents (Answer op)}
    {reply : action.Reply} {shared : Shared Thread Lock Contents}
    (here : config.threads thread = .busy op rest (.ask action next))
    (performed : config.shared.perform thread action = some (reply, shared)) :
    Step codes config thread
      { shared := shared
        threads := Function.update config.threads thread
          (.busy op rest (next reply)) } := by
  unfold Step step
  rw [here]
  simp only [performed]

theorem step_eq_none (stuck : config.step codes thread = none) :
    config.Finished thread ∨
      ∃ action, (config.threads thread).pending = some action ∧
        config.shared.perform thread action = none := by
  unfold step at stuck
  split at stuck
  · next result here => exact .inl ⟨result, here⟩
  · cases stuck
  · cases stuck
  · next op rest action next here =>
      split at stuck
      · next waits =>
          refine .inr ⟨action, ?_, waits⟩
          rw [here]
          rfl
      · cases stuck

end Config

/-- The thread gets from one place in the code to another if no other thread
steps. -/
inductive Advances [DecidableEq Thread] [DecidableEq Lock] [DecidableEq Table]
    (thread : Thread) : Shared Thread Lock Contents → Code Lock Contents α →
      Shared Thread Lock Contents → Code Lock Contents α → Prop where
  | refl (shared : Shared Thread Lock Contents) (code : Code Lock Contents α) :
      Advances thread shared code shared code
  | step {shared middle last : Shared Thread Lock Contents}
      {action : Action Lock Contents} {reply : action.Reply}
      {next : action.Reply → Code Lock Contents α}
      {code : Code Lock Contents α} :
      shared.perform thread action = some (reply, middle) →
      Advances thread middle (next reply) last code →
      Advances thread shared (.ask action next) last code

section Alone

variable [DecidableEq Thread] [DecidableEq Lock] [DecidableEq Table]
  {codes : (op : Op) → Code Lock Contents (Answer op)} {thread : Thread}
  {shared last : Shared Thread Lock Contents}

theorem Advances.run {op : Op} {rest : Answer op → Dialogue Answer α}
    {first code : Code Lock Contents (Answer op)}
    (advances : Advances thread shared first last code)
    (threads : Thread → Task Lock Contents Answer α) :
    ∃ schedule, Run (Config.Step codes)
      { shared := shared
        threads := Function.update threads thread (.busy op rest first) }
      schedule
      { shared := last
        threads := Function.update threads thread (.busy op rest code) } := by
  induction advances with
  | refl shared code => exact ⟨[], .nil _⟩
  | @step shared middle last action reply next code performed _ induction =>
      obtain ⟨schedule, run⟩ := induction
      refine ⟨thread :: schedule, .cons (Config.step_perform
        (Function.update_self _ _ _) performed) ?_⟩
      rwa [Function.update_idem]

theorem Advances.bind {first code : Code Lock Contents α}
    (advances : Advances thread shared first last code)
    (following : α → Code Lock Contents β) :
    Advances thread shared (first >>= following) last
      (code >>= following) := by
  induction advances with
  | refl shared code => exact .refl _ _
  | step performed _ induction => exact .step performed induction

/-- The thread gets a lock that nobody has, and to a place behind it. -/
theorem Advances.locked {lock : Lock} {body code : Code Lock Contents α}
    (free : shared.mutexes lock = { writer := none, readers := [] })
    (inner : Advances thread
      (shared.setMutex lock { writer := some thread, readers := [] }) body
      last code) :
    Advances thread shared (locked lock body) last
      (code >>= fun result => .ask (.unlock lock) fun _ => .done result) := by
  have announced : shared.perform thread (.announce lock) =
      some ((), shared.setMutex lock
        { writer := some thread, readers := [] }) := by
    simp only [Shared.perform, free]
    rfl
  have acquired : (shared.setMutex lock
        { writer := some thread, readers := [] }).perform thread
        (.acquire lock) =
      some ((), shared.setMutex lock
        { writer := some thread, readers := [] }) := by
    simp only [Shared.perform, Shared.setMutex, Function.update_self]
    rfl
  exact .step announced (.step acquired (inner.bind _))

theorem Advances.rlocked {lock : Lock} {body code : Code Lock Contents α}
    (free : shared.mutexes lock = { writer := none, readers := [] })
    (inner : Advances thread
      (shared.setMutex lock { writer := none, readers := [thread] }) body
      last code) :
    Advances thread shared (rlocked lock body) last
      (code >>= fun result => .ask (.runlock lock) fun _ => .done result) := by
  have taken : shared.perform thread (.rlock lock) =
      some ((), shared.setMutex lock
        { writer := none, readers := [thread] }) := by
    simp only [Shared.perform, free]
    rfl
  exact .step taken (inner.bind _)

theorem Advances.enter {op : Op} {rest : Answer op → Dialogue Answer α}
    {code : Code Lock Contents (Answer op)}
    (advances : Advances thread shared (codes op) last code)
    {threads : Thread → Task Lock Contents Answer α}
    (here : threads thread = .idle (.ask op rest)) :
    ∃ schedule, Run (Config.Step codes)
      { shared := shared, threads := threads } schedule
      { shared := last
        threads := Function.update threads thread (.busy op rest code) } := by
  obtain ⟨schedule, run⟩ := advances.run threads
  exact ⟨thread :: schedule, .cons (Config.step_enter here) run⟩

/-- Two operations race if they get one after the other to conflicting
accesses. -/
theorem exists_race {store : ∀ table, Contents table}
    {programs : Thread → Dialogue Answer α} {first second : Thread}
    (different : first ≠ second) {writer other : Op}
    {writerRest : Answer writer → Dialogue Answer α}
    {otherRest : Answer other → Dialogue Answer α}
    (writes : programs first = .ask writer writerRest)
    (follows : programs second = .ask other otherRest)
    {middle : Shared Thread Lock Contents} {table : Table}
    {change : Contents table → Contents table}
    {writerNext : Unit → Code Lock Contents (Answer writer)}
    {action : Action Lock Contents}
    {otherNext : action.Reply → Code Lock Contents (Answer other)}
    (arrives : Advances first
      (Config.start store programs :
        Config Thread Lock Contents Answer α).shared (codes writer) middle
      (.ask (.update table change) writerNext))
    (meets : Advances second middle (codes other) last
      (.ask action otherNext))
    (conflicts : action = .read table ∨
      ∃ change, action = .update table change) :
    ∃ schedule config, Run (Config.Step codes) (.start store programs) schedule
      config ∧ config.Race table := by
  let begin : Thread → Task Lock Contents Answer α :=
    fun thread => .idle (programs thread)
  let arrived := Function.update begin first
    (.busy writer writerRest (.ask (.update table change) writerNext))
  let met := Function.update arrived second
    (.busy other otherRest (.ask action otherNext))
  have starts : begin first = .idle (.ask writer writerRest) :=
    congrArg Task.idle writes
  have waits : arrived second = .idle (.ask other otherRest) := by
    unfold arrived
    rw [Function.update_of_ne (Ne.symm different)]
    exact congrArg Task.idle follows
  obtain ⟨firstSchedule, firstRun⟩ := arrives.enter starts
  obtain ⟨secondSchedule, secondRun⟩ := meets.enter waits
  refine ⟨firstSchedule ++ secondSchedule, { shared := last, threads := met },
    firstRun.append secondRun, first, second, different, ⟨change, ?_⟩, ?_⟩
  · have pending : met first = arrived first :=
      Function.update_of_ne different _ _
    change (met first).pending = _
    rw [pending]
    unfold arrived
    rw [Function.update_self]
    rfl
  · have pending : (met second).pending = some action := by
      unfold met
      rw [Function.update_self]
      rfl
    rcases conflicts with rfl | ⟨otherChange, rfl⟩
    · exact .inl pending
    · exact .inr ⟨otherChange, pending⟩

end Alone

/-! ## The discipline -/

/-- What a thread has of a lock. -/
inductive Hold where
  | free
  | announced
  | shared
  | exclusive
  deriving DecidableEq

/-- What a thread has of each lock, and whether it has given one back since its
operation began. -/
structure Standing (Lock : Type) where
  held : Lock → Hold
  released : Bool

/-- How a table is protected: by a lock, by never being changed, or not at
all. -/
inductive Rule (Lock : Type) where
  | guarded (lock : Lock)
  | frozen
  | unchecked

namespace Rule

def Reads (held : Lock → Hold) : Rule Lock → Prop
  | .guarded lock => held lock = .shared ∨ held lock = .exclusive
  | .frozen => True
  | .unchecked => True

def Writes (held : Lock → Hold) : Rule Lock → Prop
  | .guarded lock => held lock = .exclusive
  | .frozen => False
  | .unchecked => True

instance (held : Lock → Hold) (rule : Rule Lock) :
    Decidable (rule.Writes held) := by
  cases rule <;> unfold Writes <;> infer_instance

theorem Writes.reads {held : Lock → Hold} {rule : Rule Lock}
    (writes : rule.Writes held) : rule.Reads held := by
  cases rule with
  | guarded lock => exact .inr writes
  | frozen => trivial
  | unchecked => trivial

end Rule

namespace Standing

variable [DecidableEq Lock]

/-- Nothing is held yet. -/
def start : Standing Lock where
  held := fun _ => .free
  released := false

def set (standing : Standing Lock) (lock : Lock) (hold : Hold) :
    Standing Lock :=
  { standing with held := Function.update standing.held lock hold }

/-- A lock is given back. -/
def release (standing : Standing Lock) (lock : Lock) : Standing Lock where
  held := Function.update standing.held lock .free
  released := true

def next (standing : Standing Lock) : Action Lock Contents → Standing Lock
  | .announce lock => standing.set lock .announced
  | .acquire lock => standing.set lock .exclusive
  | .rlock lock => standing.set lock .shared
  | .unlock lock => standing.release lock
  | .runlock lock => standing.release lock
  | .read _ => standing
  | .update _ _ => standing

/-- All other locks that are held come before this one. -/
def Below (rank : Lock → Nat) (standing : Standing Lock) (lock : Lock) :
    Prop :=
  ∀ other, other ≠ lock → standing.held other ≠ .free → rank other < rank lock

end Standing

variable [DecidableEq Lock]

/-- Locks are taken in the order of their ranks, none after one has been given
back, and tables are accessed before that and under their rules. -/
def discipline (rank : Lock → Nat) (rules : Table → Rule Lock) :
    Dialogue.Monitor (@Action.Reply Lock Table Contents) (Standing Lock) where
  permitted standing
    | .announce lock =>
        standing.released = false ∧ standing.held lock = .free ∧
          standing.Below rank lock
    | .acquire lock =>
        standing.released = false ∧ standing.held lock = .announced ∧
          standing.Below rank lock
    | .rlock lock =>
        standing.released = false ∧ standing.held lock = .free ∧
          standing.Below rank lock
    | .unlock lock => standing.held lock = .exclusive
    | .runlock lock => standing.held lock = .shared
    | .read table =>
        standing.released = false ∧ (rules table).Reads standing.held
    | .update table _ =>
        standing.released = false ∧ (rules table).Writes standing.held
  next standing event := standing.next event.1

/-- The code keeps the discipline and gives all locks back. -/
def Disciplined (rank : Lock → Nat) (rules : Table → Rule Lock)
    (code : Code Lock Contents α) (standing : Standing Lock) : Prop :=
  Dialogue.Keeps (discipline rank rules) code
    (fun _ last => ∀ lock, last.held lock = .free) standing

section Rules

variable {rank : Lock → Nat} {rules : Table → Rule Lock}
  {post : α → Standing Lock → Prop} {standing : Standing Lock}
  {body : Code Lock Contents α} {lock : Lock}

theorem keeps_locked
    (growing : standing.released = false)
    (unheld : standing.held lock = .free) (below : standing.Below rank lock)
    (inner : Dialogue.Keeps (discipline rank rules) body
      (fun result last => last.held lock = .exclusive ∧
        post result (last.release lock))
      (standing.set lock .exclusive)) :
    Dialogue.Keeps (discipline rank rules) (locked lock body) post
      standing := by
  have announced : (standing.set lock .announced).Below rank lock := by
    intro other different held
    refine below other different ?_
    simpa only [Standing.set, Function.update_of_ne different] using held
  have twice : (standing.set lock .announced).set lock .exclusive =
      standing.set lock .exclusive := by
    unfold Standing.set
    rw [Function.update_idem]
  unfold locked
  refine ⟨⟨growing, unheld, below⟩, fun _ => ⟨⟨growing, ?_, announced⟩, ?_⟩⟩
  · exact Function.update_self lock _ _
  · intro _
    change Dialogue.Keeps (discipline rank rules) (body >>= _) post
      ((standing.set lock .announced).set lock .exclusive)
    rw [twice, Dialogue.keeps_bind]
    exact inner.mono fun result last ended => ⟨ended.1, fun _ => ended.2⟩

theorem keeps_rlocked
    (growing : standing.released = false)
    (unheld : standing.held lock = .free) (below : standing.Below rank lock)
    (inner : Dialogue.Keeps (discipline rank rules) body
      (fun result last => last.held lock = .shared ∧
        post result (last.release lock))
      (standing.set lock .shared)) :
    Dialogue.Keeps (discipline rank rules) (rlocked lock body) post
      standing := by
  unfold rlocked
  refine ⟨⟨growing, unheld, below⟩, fun _ => ?_⟩
  rw [Dialogue.keeps_bind]
  exact inner.mono fun result last ended => ⟨ended.1, fun _ => ended.2⟩

end Rules

/-! ## What the locks know -/

/-- The lock records what the threads have of it. -/
structure Mutex.Records (mutex : Mutex Thread) (holds : Thread → Hold) :
    Prop where
  writer : ∀ thread, mutex.writer = some thread ↔
    holds thread = .announced ∨ holds thread = .exclusive
  readers : ∀ thread, thread ∈ mutex.readers ↔ holds thread = .shared
  nodup : mutex.readers.Nodup
  alone : ∀ thread, holds thread = .exclusive → mutex.readers = []

namespace Mutex.Records

variable {mutex : Mutex Thread} {holds : Thread → Hold}

/-- No other thread has anything of a lock that is held exclusively. -/
theorem eq_free (records : mutex.Records holds) {first second : Thread}
    (different : first ≠ second) (exclusive : holds first = .exclusive) :
    holds second = .free := by
  have writes := (records.writer first).mpr (.inr exclusive)
  cases held : holds second with
  | free => rfl
  | announced =>
      have also := (records.writer second).mpr (.inl held)
      rw [writes] at also
      exact absurd (Option.some.inj also) different
  | exclusive =>
      have also := (records.writer second).mpr (.inr held)
      rw [writes] at also
      exact absurd (Option.some.inj also) different
  | shared =>
      have reads := (records.readers second).mpr held
      rw [records.alone first exclusive] at reads
      cases reads

theorem ne_of_writer (records : mutex.Records holds)
    (writer : mutex.writer = none) (thread : Thread) :
    holds thread ≠ .announced ∧ holds thread ≠ .exclusive := by
  constructor
  · intro announced
    have writes := (records.writer thread).mpr (.inl announced)
    rw [writer] at writes
    cases writes
  · intro exclusive
    have writes := (records.writer thread).mpr (.inr exclusive)
    rw [writer] at writes
    cases writes

variable [DecidableEq Thread] {thread : Thread}

theorem announce (records : mutex.Records holds)
    (writer : mutex.writer = none) (unheld : holds thread = .free) :
    Records { mutex with writer := some thread }
      (Function.update holds thread .announced) := by
  have others := records.ne_of_writer writer
  constructor
  · intro other
    by_cases same : other = thread
    · subst same
      simp
    · rw [Function.update_of_ne same]
      simp [others other, Ne.symm same]
  · intro other
    by_cases same : other = thread
    · subst same
      rw [Function.update_self, records.readers, unheld]
      simp
    · rw [Function.update_of_ne same]
      exact records.readers other
  · exact records.nodup
  · intro other exclusive
    by_cases same : other = thread
    · subst same
      rw [Function.update_self] at exclusive
      cases exclusive
    · rw [Function.update_of_ne same] at exclusive
      exact absurd exclusive (others other).2

theorem acquire (records : mutex.Records holds)
    (readers : mutex.readers = []) (announced : holds thread = .announced) :
    mutex.Records (Function.update holds thread .exclusive) := by
  constructor
  · intro other
    by_cases same : other = thread
    · subst same
      simp [(records.writer other).mpr (.inl announced)]
    · rw [Function.update_of_ne same]
      exact records.writer other
  · intro other
    by_cases same : other = thread
    · subst same
      simp [readers]
    · rw [Function.update_of_ne same]
      exact records.readers other
  · exact records.nodup
  · intro _ _
    exact readers

theorem rlock (records : mutex.Records holds) (writer : mutex.writer = none)
    (unheld : holds thread = .free) :
    Records { mutex with readers := thread :: mutex.readers }
      (Function.update holds thread .shared) := by
  have others := records.ne_of_writer writer
  have absent : thread ∉ mutex.readers := by
    rw [records.readers, unheld]
    simp
  constructor
  · intro other
    by_cases same : other = thread
    · subst same
      simp [writer]
    · rw [Function.update_of_ne same]
      exact records.writer other
  · intro other
    by_cases same : other = thread
    · subst same
      simp
    · rw [Function.update_of_ne same, List.mem_cons, records.readers]
      simp [same]
  · exact List.nodup_cons.mpr ⟨absent, records.nodup⟩
  · intro other exclusive
    by_cases same : other = thread
    · subst same
      rw [Function.update_self] at exclusive
      cases exclusive
    · rw [Function.update_of_ne same] at exclusive
      exact absurd exclusive (others other).2

theorem unlock (records : mutex.Records holds)
    (exclusive : holds thread = .exclusive) :
    Records { mutex with writer := none }
      (Function.update holds thread .free) := by
  have readers := records.alone thread exclusive
  constructor
  · intro other
    by_cases same : other = thread
    · subst same
      simp
    · rw [Function.update_of_ne same, records.eq_free (Ne.symm same) exclusive]
      simp
  · intro other
    by_cases same : other = thread
    · subst same
      simp [readers]
    · rw [Function.update_of_ne same]
      exact records.readers other
  · exact records.nodup
  · intro _ _
    exact readers

theorem runlock (records : mutex.Records holds)
    (shared : holds thread = .shared) :
    Records { mutex with readers := mutex.readers.erase thread }
      (Function.update holds thread .free) := by
  have reads := (records.readers thread).mpr shared
  constructor
  · intro other
    by_cases same : other = thread
    · subst same
      rw [Function.update_self, records.writer, shared]
      simp
    · rw [Function.update_of_ne same]
      exact records.writer other
  · intro other
    rw [records.nodup.mem_erase_iff]
    by_cases same : other = thread
    · subst same
      simp
    · rw [Function.update_of_ne same, records.readers]
      simp [same]
  · exact records.nodup.erase thread
  · intro other exclusive
    by_cases same : other = thread
    · subst same
      rw [Function.update_self] at exclusive
      cases exclusive
    · rw [Function.update_of_ne same] at exclusive
      rw [records.alone other exclusive] at reads
      cases reads

end Mutex.Records

/-! ## Orderly configurations -/

/-- Where the thread stands fits to where it is. -/
def Task.Obeys (rank : Lock → Nat) (rules : Table → Rule Lock)
    (standing : Standing Lock) : Task Lock Contents Answer α → Prop
  | .idle _ => standing = .start
  | .busy _ _ code => Disciplined rank rules code standing

structure Orderly (rank : Lock → Nat) (rules : Table → Rule Lock)
    (config : Config Thread Lock Contents Answer α)
    (standings : Thread → Standing Lock) : Prop where
  records : ∀ lock, (config.shared.mutexes lock).Records
    fun thread => (standings thread).held lock
  obeys : ∀ thread,
    (config.threads thread).Obeys rank rules (standings thread)

namespace Orderly

variable {rank : Lock → Nat} {rules : Table → Rule Lock}
  {config after : Config Thread Lock Contents Answer α}
  {standings : Thread → Standing Lock}

theorem start (store : ∀ table, Contents table)
    (programs : Thread → Dialogue Answer α) :
    Orderly rank rules (.start store programs) fun _ => .start := by
  constructor
  · intro lock
    constructor <;> simp [Config.start, Standing.start]
  · intro thread
    rfl

/-- Two threads never hold a table at once, one of them to change it. -/
theorem not_reads (orderly : Orderly rank rules config standings)
    {first second : Thread} (different : first ≠ second) {table : Table}
    (checked : rules table ≠ .unchecked)
    (writes : (rules table).Writes (standings first).held) :
    ¬(rules table).Reads (standings second).held := by
  cases rule : rules table with
  | guarded lock =>
      rw [rule] at writes
      have free := (orderly.records lock).eq_free different writes
      rintro (shared | exclusive)
      · exact Hold.noConfusion (free.symm.trans shared)
      · exact Hold.noConfusion (free.symm.trans exclusive)
  | frozen =>
      rw [rule] at writes
      exact absurd writes id
  | unchecked => exact absurd rule checked

theorem permitted (orderly : Orderly rank rules config standings)
    {thread : Thread} {action : Action Lock Contents}
    (pending : (config.threads thread).pending = some action) :
    (discipline rank rules).permitted (standings thread) action := by
  have obeys := orderly.obeys thread
  cases here : config.threads thread with
  | idle rest =>
      rw [here] at pending
      cases pending
  | busy op rest code =>
      rw [here] at obeys pending
      cases code with
      | done answer => cases pending
      | ask asked next =>
          cases pending
          exact obeys.1

theorem not_race (orderly : Orderly rank rules config standings)
    {table : Table} (checked : rules table ≠ .unchecked) :
    ¬config.Race table := by
  rintro ⟨first, second, different, ⟨change, writes⟩, other⟩
  have written : (rules table).Writes (standings first).held :=
    (orderly.permitted writes).2
  apply orderly.not_reads different checked written
  rcases other with reads | ⟨change, writes⟩
  · exact (orderly.permitted reads).2
  · exact Rule.Writes.reads (orderly.permitted writes).2

theorem pending_of_held (orderly : Orderly rank rules config standings)
    {thread : Thread} {lock : Lock}
    (held : (standings thread).held lock ≠ .free) :
    ¬config.Finished thread := by
  rintro ⟨result, finished⟩
  have obeys := orderly.obeys thread
  rw [finished] at obeys
  apply held
  rw [obeys]
  rfl

end Orderly

/-! ## Progress -/

/-- How far up the order of the locks a thread waits.  A writer that has
announced itself waits above those who wait for it. -/
def Action.level (rank : Lock → Nat) : Action Lock Contents → Nat
  | .announce lock => 2 * rank lock
  | .rlock lock => 2 * rank lock
  | .acquire lock => 2 * rank lock + 1
  | _ => 0

namespace Orderly

variable {rank : Lock → Nat} {rules : Table → Rule Lock}
  {config : Config Thread Lock Contents Answer α}
  {standings : Thread → Standing Lock}

variable [DecidableEq Thread] [DecidableEq Table]

/-- A thread that waits while it has something of a lock waits above it. -/
theorem lt_level (orderly : Orderly rank rules config standings)
    {thread : Thread} {action : Action Lock Contents} {lock : Lock}
    (pending : (config.threads thread).pending = some action)
    (waits : config.shared.perform thread action = none)
    (held : (standings thread).held lock ≠ .free) :
    2 * rank lock < action.level rank ∧
      ((standings thread).held lock = .shared →
        2 * rank lock + 1 < action.level rank) := by
  have permitted := orderly.permitted pending
  rcases Shared.perform_eq_none waits with
    ⟨wanted, holder, wanting, -⟩ | ⟨wanted, holder, rfl, -⟩
  · have unheld : (standings thread).held wanted = .free ∧
        (standings thread).Below rank wanted ∧
        action.level rank = 2 * rank wanted := by
      rcases wanting with rfl | rfl
      · exact ⟨permitted.2.1, permitted.2.2, rfl⟩
      · exact ⟨permitted.2.1, permitted.2.2, rfl⟩
    obtain ⟨free, below, level⟩ := unheld
    have above : rank lock < rank wanted := by
      refine below lock ?_ held
      rintro rfl
      exact held free
    rw [level]
    exact ⟨by omega, fun _ => by omega⟩
  · change 2 * rank lock < 2 * rank wanted + 1 ∧
      (_ → 2 * rank lock + 1 < 2 * rank wanted + 1)
    by_cases same : lock = wanted
    · subst same
      refine ⟨Nat.lt_succ_self _, fun shared => ?_⟩
      exact Hold.noConfusion (permitted.2.1.symm.trans shared)
    · have above := permitted.2.2 lock same held
      exact ⟨by omega, fun _ => by omega⟩

/-- Whoever waits is waited for by somebody further up, or somebody can
step. -/
theorem exists_lt_level (orderly : Orderly rank rules config standings)
    {thread : Thread} {action : Action Lock Contents}
    (waits : config.shared.perform thread action = none) :
    ∃ holder, ¬config.Finished holder ∧
      ∀ other, (config.threads holder).pending = some other →
        config.shared.perform holder other = none →
        action.level rank < other.level rank := by
  rcases Shared.perform_eq_none waits with
    ⟨lock, holder, wanting, writes⟩ | ⟨lock, holder, rfl, reads⟩
  · have held : (standings holder).held lock ≠ .free := by
      rcases ((orderly.records lock).writer holder).mp writes with
        announced | exclusive
      · rw [announced]
        exact Hold.noConfusion
      · rw [exclusive]
        exact Hold.noConfusion
    refine ⟨holder, orderly.pending_of_held held, fun other pending stuck => ?_⟩
    have above := (orderly.lt_level pending stuck held).1
    rcases wanting with rfl | rfl
    · exact above
    · exact above
  · have shared := ((orderly.records lock).readers holder).mp reads
    have held : (standings holder).held lock ≠ .free := by
      rw [shared]
      exact Hold.noConfusion
    exact ⟨holder, orderly.pending_of_held held, fun other pending stuck =>
      (orderly.lt_level pending stuck held).2 shared⟩

/-- Where not all threads are finished, some thread can step. -/
theorem progress [Finite Thread]
    {codes : (op : Op) → Code Lock Contents (Answer op)}
    (orderly : Orderly rank rules config standings) :
    (∀ thread, config.Finished thread) ∨
      ∃ thread after, Config.Step codes config thread after := by
  by_contra stuck
  rw [not_or, not_forall] at stuck
  obtain ⟨⟨unfinished, running⟩, blocked⟩ := stuck
  have waiting : ∀ thread, ¬config.Finished thread →
      ∃ action, (config.threads thread).pending = some action ∧
        config.shared.perform thread action = none := by
    intro thread running
    cases stepped : config.step codes thread with
    | none => exact (Config.step_eq_none stepped).resolve_left running
    | some after => exact absurd ⟨thread, after, stepped⟩ blocked
  let level : Thread → Nat := fun thread =>
    match (config.threads thread).pending with
    | none => 0
    | some action => action.level rank
  -- the thread that waits furthest up waits for one that waits further up
  obtain ⟨highest, waits, most⟩ := Set.exists_max_image
    { thread | ¬config.Finished thread } level (Set.toFinite _)
    ⟨unfinished, running⟩
  obtain ⟨action, pending, stuck⟩ := waiting highest waits
  obtain ⟨holder, active, above⟩ := orderly.exists_lt_level stuck
  obtain ⟨other, otherPending, otherStuck⟩ := waiting holder active
  have higher := above other otherPending otherStuck
  have bounded := most holder active
  simp only [level, pending, otherPending] at bounded
  omega

end Orderly

/-! ## Runs -/

section Runs

variable [DecidableEq Thread] [DecidableEq Table]
  {rank : Lock → Nat} {rules : Table → Rule Lock}
  {config after : Config Thread Lock Contents Answer α}
  {standings : Thread → Standing Lock} {thread : Thread}
  {codes : (op : Op) → Code Lock Contents (Answer op)}

theorem records_set {mutexes : Lock → Mutex Thread} {lock : Lock}
    {mutex : Mutex Thread} {standing : Standing Lock} {hold : Hold}
    (records : ∀ lock, (mutexes lock).Records
      fun thread => (standings thread).held lock)
    (changed : standing.held =
      Function.update (standings thread).held lock hold)
    (here : mutex.Records (Function.update
      (fun thread => (standings thread).held lock) thread hold)) :
    ∀ other, (Function.update mutexes lock mutex other).Records
      fun reader => (Function.update standings thread standing reader).held
        other := by
  intro other
  by_cases same : other = lock
  · subst same
    rw [Function.update_self]
    convert here using 2 with reader
    by_cases own : reader = thread
    · subst own
      rw [Function.update_self, Function.update_self, changed,
        Function.update_self]
    · rw [Function.update_of_ne own, Function.update_of_ne own]
  · rw [Function.update_of_ne same]
    convert records other using 2 with reader
    by_cases own : reader = thread
    · subst own
      rw [Function.update_self, changed, Function.update_of_ne same]
    · rw [Function.update_of_ne own]

theorem records_perform {action : Action Lock Contents}
    {reply : action.Reply} {shared : Shared Thread Lock Contents}
    (records : ∀ lock, (config.shared.mutexes lock).Records
      fun thread => (standings thread).held lock)
    (permitted : (discipline rank rules).permitted (standings thread) action)
    (performed : config.shared.perform thread action = some (reply, shared)) :
    ∀ lock, (shared.mutexes lock).Records fun reader =>
      (Function.update standings thread ((standings thread).next action)
        reader).held lock := by
  cases action with
  | announce lock =>
      simp only [Shared.perform] at performed
      split at performed
      · next writer =>
          cases performed
          exact records_set records rfl
            ((records lock).announce writer permitted.2.1)
      · cases performed
  | acquire lock =>
      simp only [Shared.perform] at performed
      split at performed
      · next readers =>
          cases performed
          have changed : ((standings thread).set lock .exclusive).held =
            Function.update (standings thread).held lock .exclusive := rfl
          have kept := records_set records changed
            ((records lock).acquire readers permitted.2.1)
          rw [Function.update_eq_self] at kept
          exact kept
      · cases performed
  | rlock lock =>
      simp only [Shared.perform] at performed
      split at performed
      · next writer =>
          cases performed
          exact records_set records rfl
            ((records lock).rlock writer permitted.2.1)
      · cases performed
  | unlock lock =>
      cases performed
      exact records_set records rfl ((records lock).unlock permitted)
  | runlock lock =>
      cases performed
      exact records_set records rfl ((records lock).runlock permitted)
  | read table =>
      cases performed
      simpa only [Standing.next, Function.update_eq_self] using records
  | update table change =>
      cases performed
      simpa only [Standing.next, Function.update_eq_self] using records

/-- Where a thread stands after a step of its own. -/
def Task.nextStanding (standing : Standing Lock) :
    Task Lock Contents Answer α → Standing Lock
  | .busy _ _ (.ask action _) => standing.next action
  | _ => .start

theorem Orderly.step (disciplined : ∀ op, Disciplined rank rules (codes op)
      .start)
    (orderly : Orderly rank rules config standings)
    (taken : Config.Step codes config thread after) :
    Orderly rank rules after (Function.update standings thread
      ((config.threads thread).nextStanding (standings thread))) := by
  have obeys := orderly.obeys thread
  have others : ∀ (task : Task Lock Contents Answer α) (standing : Standing Lock),
      task.Obeys rank rules standing → ∀ other,
      (Function.update config.threads thread task other).Obeys rank rules
        (Function.update standings thread standing other) := by
    intro task standing own other
    by_cases same : other = thread
    · subst same
      rw [Function.update_self, Function.update_self]
      exact own
    · rw [Function.update_of_ne same, Function.update_of_ne same]
      exact orderly.obeys other
  rcases taken.cases with ⟨op, rest, here, rfl⟩ |
    ⟨op, rest, answer, here, rfl⟩ |
    ⟨op, rest, action, next, reply, shared, here, performed, rfl⟩
  · rw [here] at obeys ⊢
    refine ⟨?_, others _ _ (disciplined op)⟩
    have unchanged : Function.update standings thread .start = standings := by
      rw [← obeys, Function.update_eq_self]
    intro lock
    change (config.shared.mutexes lock).Records fun reader =>
      (Function.update standings thread .start reader).held lock
    rw [unchanged]
    exact orderly.records lock
  · rw [here] at obeys ⊢
    refine ⟨?_, others _ _ rfl⟩
    intro lock
    convert orderly.records lock using 2 with reader
    by_cases own : reader = thread
    · subst own
      rw [Function.update_self]
      exact (obeys lock).symm
    · rw [Function.update_of_ne own]
  · rw [here] at obeys ⊢
    exact ⟨records_perform orderly.records obeys.1 performed,
      others _ _ (obeys.2 reply)⟩

/-- Run: every configuration that is reached is orderly. -/
theorem Orderly.of_run
    (disciplined : ∀ op, Disciplined rank rules (codes op) .start)
    {store : ∀ table, Contents table}
    {programs : Thread → Dialogue Answer α} {schedule : List Thread}
    (run : Run (Config.Step codes) (.start store programs) schedule config) :
    ∃ standings, Orderly rank rules config standings := by
  refine run.invariant (fun config => ∃ standings,
    Orderly rank rules config standings) ?_ ⟨_, Orderly.start store programs⟩
  rintro before thread after - ⟨standings, orderly⟩ taken
  exact ⟨_, orderly.step disciplined taken⟩

end Runs

end Locking
