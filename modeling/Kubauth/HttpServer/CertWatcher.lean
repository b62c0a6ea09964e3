import Kubauth.Run
import Mathlib.Logic.Function.Basic

/-!
# The certificate watcher

The server presents a certificate that is read from two files.  `New` reads
them once; then a goroutine sets a watch on each file, waits for events, and
reads both files again, one after the other.

The files change at any time, also between any two steps of the watcher, and a
change puts anything or nothing under a path.  Which events `fsnotify` gives,
and whether it accepts a watch, is left open: a run records what it did.
-/

namespace Kubauth.CertWatcher

variable {Certificate : Type}

/-! ## Events -/

inductive Path where
  | certPath
  | keyPath
  deriving Repr, DecidableEq

/-- `fsnotify.Op`: a set of flags. -/
structure Op where
  create : Bool := false
  write : Bool := false
  remove : Bool := false
  rename : Bool := false
  chmod : Bool := false
  deriving Repr, DecidableEq

structure Event where
  name : Path
  op : Op
  deriving Repr, DecidableEq

def isWrite (event : Event) : Bool := event.op.write

def isCreate (event : Event) : Bool := event.op.create

def isRemove (event : Event) : Bool := event.op.remove

/-- The events that `handleEvent` cares about. -/
def relevant (event : Event) : Bool :=
  isWrite event || isRemove event || isCreate event

/-! ## The watcher -/

/-- Who has called `ReadCertificate`. -/
inductive Caller where
  | new
  | handleEvent
  deriving Repr, DecidableEq

/-- Where the program is: in `ReadCertificate` before the first or the second
file, in `New` before `NewWatcher`, in `Start` or in `handleEvent` before a call
of `Add`, or in `Watch` before the next event.  `New` may have failed, and the
watching may have come to an end. -/
inductive Phase where
  | reading (caller : Caller)
  | readingKey (caller : Caller) (certFile : String)
  | opening
  | starting (path : Path)
  | waiting
  | rewatching (path : Path)
  | failed
  | ended
  deriving Repr, DecidableEq

/-- Where an error of `ReadCertificate` leads: `handleEvent` only logs it. -/
def Caller.onError : Caller → Phase
  | .new => .failed
  | .handleEvent => .waiting

def Caller.onSuccess : Caller → Phase
  | .new => .opening
  | .handleEvent => .waiting

namespace Phase

/-- `handleEvent`, up to its first call. -/
def handleEvent (event : Event) : Phase :=
  if !relevant event then .waiting
  -- if the file was removed, re-add the watch
  else if isRemove event then .rewatching event.name
  else .reading .handleEvent

/-- The file that is passed to `Add` next. -/
def adding : Phase → Option Path
  | .starting path => some path
  | .rewatching path => some path
  | _ => none

/-- Where the result of `Add` leads.  An error ends `Start`, and is only logged
by `handleEvent`. -/
def afterAdd : Phase → Bool → Phase
  | .starting .certPath, true => .starting .keyPath
  | .starting .keyPath, true => .waiting
  | .starting _, false => .ended
  | .rewatching _, _ => .reading .handleEvent
  | phase, _ => phase

/-- `New` has read a certificate, and has not failed since.  The server listens
after that only. -/
def hasRead : Phase → Bool
  | .reading .new => false
  | .readingKey .new _ => false
  | .failed => false
  | _ => true

/-- The watcher is not in `handleEvent`. -/
def idle : Phase → Bool
  | .reading _ => false
  | .readingKey _ _ => false
  | .rewatching _ => false
  | _ => true

end Phase

/-- The files and the `CertWatcher`. -/
structure State (Certificate : Type) where
  files : Path → Option String
  phase : Phase
  currentCert : Option Certificate

/-- What happens: to the files, by a call of `fsnotify`, on its channel, or by
the next read of a file. -/
inductive Action where
  | change (path : Path) (file : Option String)
  | newWatcher (accepted : Bool)
  | add (path : Path) (accepted : Bool)
  | receive (event : Event)
  | close
  | read
  deriving Repr, DecidableEq

section Watcher

variable (x509KeyPair : String → String → Option Certificate)

/-- `tls.LoadX509KeyPair`, with files that stand still. -/
def loadX509KeyPair (files : Path → Option String) : Option Certificate := do
  x509KeyPair (← files .certPath) (← files .keyPath)

namespace State

/-- The call of `New`. -/
def new (files : Path → Option String) : State Certificate where
  files := files
  phase := .reading .new
  currentCert := none

def getCertificate (state : State Certificate) : Option Certificate :=
  state.currentCert

/-- `ReadCertificate`, one file at a time. -/
def readCertificate (state : State Certificate) :
    Option (State Certificate) :=
  match state.phase with
  | .reading caller =>
      match state.files .certPath with
      | none => some { state with phase := caller.onError }
      | some certFile =>
          some { state with phase := .readingKey caller certFile }
  | .readingKey caller certFile =>
      match (state.files .keyPath).bind (x509KeyPair certFile) with
      | none => some { state with phase := caller.onError }
      | some cert =>
          some { state with
            phase := caller.onSuccess
            currentCert := some cert }
  | _ => none

def step (state : State Certificate) : Action → Option (State Certificate)
  | .change path file =>
      some { state with files := Function.update state.files path file }
  | .newWatcher accepted =>
      if state.phase = .opening then
        some { state with
          phase := if accepted then .starting .certPath else .failed }
      else none
  | .add path accepted =>
      if state.phase.adding = some path then
        some { state with phase := state.phase.afterAdd accepted }
      else none
  | .receive event =>
      if state.phase = .waiting then
        some { state with phase := .handleEvent event }
      else none
  | .close =>
      if state.phase = .waiting then some { state with phase := .ended }
      else none
  | .read => state.readCertificate x509KeyPair

end State

def Step (before : State Certificate) (action : Action)
    (after : State Certificate) : Prop :=
  before.step x509KeyPair action = some after

/-- What a step can be. -/
inductive Moved (state : State Certificate) :
    Action → State Certificate → Prop where
  | changed (path : Path) (file : Option String) :
      Moved state (.change path file)
        { state with files := Function.update state.files path file }
  | opened (accepted : Bool) :
      state.phase = .opening →
      Moved state (.newWatcher accepted)
        { state with
          phase := if accepted then .starting .certPath else .failed }
  | added (path : Path) (accepted : Bool) :
      state.phase.adding = some path →
      Moved state (.add path accepted)
        { state with phase := state.phase.afterAdd accepted }
  | received (event : Event) :
      state.phase = .waiting →
      Moved state (.receive event) { state with phase := .handleEvent event }
  | closed :
      state.phase = .waiting →
      Moved state .close { state with phase := .ended }
  | missing (caller : Caller) :
      state.phase = .reading caller → state.files .certPath = none →
      Moved state .read { state with phase := caller.onError }
  | found (caller : Caller) (certFile : String) :
      state.phase = .reading caller → state.files .certPath = some certFile →
      Moved state .read { state with phase := .readingKey caller certFile }
  | refused (caller : Caller) (certFile : String) :
      state.phase = .readingKey caller certFile →
      (state.files .keyPath).bind (x509KeyPair certFile) = none →
      Moved state .read { state with phase := caller.onError }
  | loaded (caller : Caller) (certFile : String) (cert : Certificate) :
      state.phase = .readingKey caller certFile →
      (state.files .keyPath).bind (x509KeyPair certFile) = some cert →
      Moved state .read
        { state with phase := caller.onSuccess, currentCert := some cert }

end Watcher

variable {x509KeyPair : String → String → Option Certificate}
  {state after : State Certificate}

theorem moved_of_read
    (taken : state.readCertificate x509KeyPair = some after) :
    Moved x509KeyPair state .read after := by
  unfold State.readCertificate at taken
  split at taken
  · next caller reads =>
      split at taken
      · next missing =>
          exact Option.some.inj taken ▸ .missing caller reads missing
      · next certFile found =>
          exact Option.some.inj taken ▸ .found caller certFile reads found
  · next caller certFile reads =>
      split at taken
      · next refused =>
          exact Option.some.inj taken ▸ .refused caller certFile reads refused
      · next cert loaded =>
          exact Option.some.inj taken ▸
            .loaded caller certFile cert reads loaded
  · cases taken

theorem moved_of_step {action : Action}
    (taken : Step x509KeyPair state action after) :
    Moved x509KeyPair state action after := by
  unfold Step State.step at taken
  cases action with
  | change path file => exact Option.some.inj taken ▸ .changed path file
  | newWatcher accepted =>
      obtain ⟨opens, same⟩ := Option.ite_none_right_eq_some.mp taken
      exact Option.some.inj same ▸ .opened accepted opens
  | add path accepted =>
      obtain ⟨adds, same⟩ := Option.ite_none_right_eq_some.mp taken
      exact Option.some.inj same ▸ .added path accepted adds
  | receive event =>
      obtain ⟨waits, same⟩ := Option.ite_none_right_eq_some.mp taken
      exact Option.some.inj same ▸ .received event waits
  | close =>
      obtain ⟨waits, same⟩ := Option.ite_none_right_eq_some.mp taken
      exact Option.some.inj same ▸ .closed waits
  | read => exact moved_of_read taken

theorem afterAdd_ne_readingKey {path : Path} {phase : Phase}
    (adds : phase.adding = some path) (accepted : Bool) (caller : Caller)
    (certFile : String) :
    phase.afterAdd accepted ≠ .readingKey caller certFile := by
  cases phase with
  | starting path => cases path <;> cases accepted <;> exact Phase.noConfusion
  | rewatching path => exact Phase.noConfusion
  | _ => cases adds

/-- The certificate file that `ReadCertificate` goes on with has just been read,
or was read before the files changed. -/
theorem certFile_of_step {action : Action} {caller : Caller}
    {certFile : String} (taken : Step x509KeyPair state action after)
    (reads : after.phase = .readingKey caller certFile) :
    state.files .certPath = some certFile ∨
      ∃ path file, action = .change path file ∧
        state.phase = .readingKey caller certFile := by
  cases moved_of_step taken with
  | changed path file => exact .inr ⟨path, file, rfl, reads⟩
  | opened accepted => cases accepted <;> cases reads
  | added path accepted adds =>
      exact absurd reads (afterAdd_ne_readingKey adds accepted caller certFile)
  | received event =>
      simp only [Phase.handleEvent] at reads
      split at reads
      · cases reads
      · split at reads <;> cases reads
  | closed => cases reads
  | missing reader => cases reader <;> cases reads
  | found reader read _ found =>
      cases reads
      exact .inl found
  | refused reader => cases reader <;> cases reads
  | loaded reader => cases reader <;> cases reads

theorem files_of_step {action : Action}
    (taken : Step x509KeyPair state action after)
    (still : ∀ path file, action ≠ .change path file) :
    after.files = state.files := by
  cases moved_of_step taken with
  | changed path file => exact absurd rfl (still path file)
  | _ => rfl

/-! ## Keeping up with the files -/

theorem loadX509KeyPair_eq {files : Path → Option String} {certFile : String}
    (found : files .certPath = some certFile) :
    loadX509KeyPair x509KeyPair files =
      (files .keyPath).bind (x509KeyPair certFile) := by
  unfold loadX509KeyPair
  rw [found]
  rfl

theorem loadX509KeyPair_missing {files : Path → Option String}
    (missing : files .certPath = none) :
    loadX509KeyPair x509KeyPair files = none := by
  unfold loadX509KeyPair
  rw [missing]
  rfl

/-- The files stand still, and the watcher presents `target` once it has read
them. -/
structure Heading (x509KeyPair : String → String → Option Certificate)
    (target : Option Certificate) (state : State Certificate) : Prop where
  target_eq :
    (loadX509KeyPair x509KeyPair state.files).or state.currentCert = target
  arrived : state.phase.idle = true → state.currentCert = target
  halfway : ∀ caller certFile, state.phase = .readingKey caller certFile →
    state.files .certPath = some certFile

theorem idle_of_adding {path : Path} {accepted : Bool} {phase : Phase}
    (adds : phase.adding = some path)
    (idle : (phase.afterAdd accepted).idle = true) : phase.idle = true := by
  cases phase with
  | starting path => rfl
  | rewatching path => cases idle
  | _ => cases adds

theorem Heading.step {target : Option Certificate} {action : Action}
    (heading : Heading x509KeyPair target state)
    (still : ∀ path file, action ≠ .change path file)
    (taken : Step x509KeyPair state action after) :
    Heading x509KeyPair target after := by
  have halfway : ∀ caller certFile,
      after.phase = .readingKey caller certFile →
      after.files .certPath = some certFile := by
    intro caller certFile reads
    rw [files_of_step taken still]
    rcases certFile_of_step taken reads with found | ⟨path, file, same, -⟩
    · exact found
    · exact absurd same (still path file)
  obtain ⟨target_eq, arrived, was⟩ := heading
  cases moved_of_step taken with
  | changed path file => exact absurd rfl (still path file)
  | opened accepted opens =>
      rw [opens] at arrived
      exact ⟨target_eq, fun _ => arrived rfl, halfway⟩
  | added path accepted adds =>
      exact ⟨target_eq, fun idle => arrived (idle_of_adding adds idle),
        halfway⟩
  | received event waits =>
      rw [waits] at arrived
      exact ⟨target_eq, fun _ => arrived rfl, halfway⟩
  | closed waits =>
      rw [waits] at arrived
      exact ⟨target_eq, fun _ => arrived rfl, halfway⟩
  | missing caller reads missing =>
      refine ⟨target_eq, fun _ => ?_, halfway⟩
      rwa [loadX509KeyPair_missing missing] at target_eq
  | found caller certFile reads found =>
      refine ⟨target_eq, fun idle => ?_, halfway⟩
      cases idle
  | refused caller certFile reads refused =>
      refine ⟨target_eq, fun _ => ?_, halfway⟩
      rwa [loadX509KeyPair_eq (was caller certFile reads), refused]
        at target_eq
  | loaded caller certFile cert reads loaded =>
      have load : loadX509KeyPair x509KeyPair state.files = some cert :=
        (loadX509KeyPair_eq (was caller certFile reads)).trans loaded
      rw [load] at target_eq
      refine ⟨?_, fun _ => target_eq, halfway⟩
      rw [load]
      exact target_eq

theorem not_idle_handleEvent {event : Event} (cares : relevant event = true) :
    (Phase.handleEvent event).idle = false := by
  unfold Phase.handleEvent
  rw [cares]
  cases isRemove event <;> rfl

/-- The watcher presents the certificate of the files as they are, or keeps the
one it had if they hold none, when it has handled an event that was received
after the last change of them. -/
theorem certificate_fresh {before heard : State Certificate} {event : Event}
    {later : List Action} (cares : relevant event = true)
    (received : Step x509KeyPair before (.receive event) heard)
    (run : Run (Step x509KeyPair) heard later state)
    (still : ∀ path file, .change path file ∉ later)
    (waits : state.phase = .waiting) :
    state.getCertificate =
      (loadX509KeyPair x509KeyPair state.files).or before.getCertificate := by
  have moved := moved_of_step received
  cases moved with
  | received event waited =>
  have unchanged : state.files = before.files := by
    refine run.invariant (fun state => state.files = before.files) ?_ rfl
    intro start action finish member same taken
    refine (files_of_step taken fun path file changes => ?_).trans same
    exact still path file (changes ▸ member)
  have heading : Heading x509KeyPair
      ((loadX509KeyPair x509KeyPair before.files).or before.currentCert)
      state := by
    refine run.invariant _ ?_
      ⟨rfl, fun idle => ?_, fun caller certFile reads => ?_⟩
    · intro start action finish member heading taken
      refine heading.step (fun path file same => ?_) taken
      exact still path file (same ▸ member)
    · exact absurd idle (by simp [not_idle_handleEvent cares])
    · rcases certFile_of_step received reads with found | ⟨_, _, same, _⟩
      · exact found
      · cases same
  rw [unchanged]
  exact heading.arrived (by rw [waits]; rfl)

/-- A sample in which the parts of a certificate fit if they are the same. -/
def samplePair (certFile keyFile : String) : Option String :=
  if certFile = keyFile then some certFile else none

def removed (path : Path) : Event where
  name := path
  op := { remove := true }

/-- `New` and `Start`, with nothing else in between. -/
def startup : List Action :=
  [.read, .read, .newWatcher true, .add .certPath true, .add .keyPath true]

def sampleState : State String where
  files := fun _ => some "1"
  phase := .waiting
  currentCert := some "1"

theorem sampleState_started :
    Run (Step samplePair) (.new fun _ => some "1") startup sampleState :=
  .cons rfl (.cons rfl (.cons rfl (.cons rfl (.cons rfl (.nil _)))))

/-- Both files are replaced, and the watcher reads them in between. -/
theorem certificate_fresh_rotation :
    ∃ before heard state : State String,
      Run (Step samplePair) sampleState
        [.change .certPath (some "2"), .receive (removed .certPath),
          .add .certPath true, .read, .change .keyPath (some "2"), .read]
        before ∧
      Step samplePair before (.receive (removed .keyPath)) heard ∧
      Run (Step samplePair) heard [.add .keyPath true, .read, .read] state ∧
      state.getCertificate = some "2" := by
  have run : ∃ before heard state : State String,
      Run (Step samplePair) sampleState
        [.change .certPath (some "2"), .receive (removed .certPath),
          .add .certPath true, .read, .change .keyPath (some "2"), .read]
        before ∧
      Step samplePair before (.receive (removed .keyPath)) heard ∧
      Run (Step samplePair) heard [.add .keyPath true, .read, .read] state ∧
      state.phase = .waiting ∧
      loadX509KeyPair samplePair state.files = some "2" :=
    ⟨_, _, _, .cons rfl (.cons rfl (.cons rfl (.cons rfl (.cons rfl
      (.cons rfl (.nil _)))))), rfl,
      .cons rfl (.cons rfl (.cons rfl (.nil _))), rfl, rfl⟩
  obtain ⟨before, heard, state, earlier, received, run, waits, loads⟩ := run
  refine ⟨before, heard, state, earlier, received, run, ?_⟩
  rw [certificate_fresh rfl received run (by simp) waits, loads]
  rfl

/-! ## Changes that go unnoticed -/

/-- The files change between the reads of `New` and the watches of `Start`,
and nobody is told. -/
example :
    ∃ state : State String,
      Run (Step samplePair) (.new fun _ => some "1")
        [.read, .read, .newWatcher true, .change .certPath (some "2"),
          .change .keyPath (some "2"), .add .certPath true,
          .add .keyPath true] state ∧
      loadX509KeyPair samplePair state.files = some "2" ∧
      state.getCertificate = some "1" :=
  ⟨_, .cons rfl (.cons rfl (.cons rfl (.cons rfl (.cons rfl (.cons rfl
    (.cons rfl (.nil _))))))), rfl, rfl⟩

/-! ## Losing a watch -/

namespace Action

/-- A call of `Add` for the file. -/
def adds (path : Path) : Action → Bool
  | .add other _ => other = path
  | _ => false

/-- The removal of the file is told. -/
def removal (path : Path) : Action → Bool
  | .receive event => event.name = path && isRemove event
  | _ => false

end Action

/-- The watches that `fsnotify` has accepted for the file. -/
def watches (path : Path) (actions : List Action) : Nat :=
  actions.count (.add path true)

def removals (path : Path) (actions : List Action) : Nat :=
  actions.countP (Action.removal path)

/-- What `fsnotify` is trusted with: an event comes from a watch that it has
accepted, and a watch tells the removal of its file once and nothing after
it. -/
def FromWatches (actions : List Action) : Prop :=
  ∀ earlier event, earlier ++ [.receive event] <+: actions →
    removals event.name earlier < watches event.name earlier

/-- `Add` is still to be called for the file. -/
def Phase.owes : Phase → Path → Bool
  | .reading .new, _ => true
  | .readingKey .new _, _ => true
  | .opening, _ => true
  | .starting .certPath, _ => true
  | .starting .keyPath, path => path = .keyPath
  | .rewatching lost, path => path = lost
  | _, _ => false

theorem owes_afterAdd {phase : Phase} {path : Path} (accepted : Bool)
    (adds : phase.adding = some path) (other : Path) :
    (decide (path = other)).toNat +
        ((phase.afterAdd accepted).owes other).toNat ≤
      (phase.owes other).toNat := by
  cases phase with
  | starting path =>
      cases adds
      cases path <;> cases other <;> cases accepted <;> decide
  | rewatching path =>
      cases adds
      cases accepted <;> cases path <;> cases other <;> decide
  | _ => cases adds

theorem owes_handleEvent (event : Event) (path : Path) :
    ((Phase.handleEvent event).owes path).toNat ≤
      ((Action.receive event).removal path).toNat := by
  unfold Phase.handleEvent Action.removal
  split
  · exact Nat.zero_le _
  · split
    · next removes =>
        simp only [Phase.owes, removes, Bool.and_true, eq_comm]
        exact Nat.le_refl _
    · exact Nat.zero_le _

theorem owes_onError (caller : Caller) (path : Path) :
    caller.onError.owes path = false := by
  cases caller <;> rfl

theorem owes_onSuccess (caller : Caller) (certFile : String) (path : Path) :
    caller.onSuccess.owes path =
      (Phase.readingKey caller certFile).owes path := by
  cases caller <;> rfl

theorem owes_reading (caller : Caller) (certFile : String) (path : Path) :
    (Phase.readingKey caller certFile).owes path =
      (Phase.reading caller).owes path := by
  cases caller <;> rfl

/-- Step: `Add` is called where it is owed, and the removal of a file makes it
owed once more. -/
theorem owes_step {action : Action} (path : Path)
    (taken : Step x509KeyPair state action after) :
    (action.adds path).toNat + (after.phase.owes path).toNat ≤
      (state.phase.owes path).toNat + (action.removal path).toNat := by
  cases moved_of_step taken with
  | changed other file => simp [Action.adds]
  | opened accepted opens =>
      rw [opens]
      cases accepted <;> simp [Action.adds, Phase.owes]
  | added other accepted adds =>
      have owed := owes_afterAdd accepted adds path
      exact Nat.le_trans owed (Nat.le_add_right _ _)
  | received event waits =>
      have owed := owes_handleEvent event path
      simp only [Action.adds, Bool.toNat_false]
      omega
  | closed waits => simp [Action.adds, Phase.owes]
  | missing caller reads => simp [Action.adds, owes_onError]
  | found caller certFile reads =>
      simp [Action.adds, owes_reading, reads]
  | refused caller certFile reads => simp [Action.adds, owes_onError]
  | loaded caller certFile cert reads =>
      simp [Action.adds, owes_onSuccess caller certFile, reads]

/-- `Add` is called once by `Start`, and once for each removal. -/
def Balanced (past : List Action) (state : State Certificate) : Prop :=
  ∀ path, past.countP (Action.adds path) + (state.phase.owes path).toNat ≤
    1 + removals path past

theorem Balanced.step {past : List Action} {action : Action}
    (balanced : Balanced past state)
    (taken : Step x509KeyPair state action after) :
    Balanced (past ++ [action]) after := by
  intro path
  have before := balanced path
  have now := owes_step path taken
  unfold removals at before ⊢
  simp only [List.countP_append, List.countP_singleton]
  cases added : action.adds path <;> cases told : action.removal path <;>
    simp only [added, told, Bool.toNat_true, Bool.toNat_false, if_true,
      Bool.false_eq_true, if_false] at now ⊢ <;>
    omega

theorem FromWatches.of_append {earlier later : List Action}
    (lawful : FromWatches (earlier ++ later)) : FromWatches earlier :=
  fun past event told =>
    lawful past event (told.trans (List.prefix_append earlier later))

def sampleReturn : List Action :=
  [.change .certPath (some "2"), .change .keyPath (some "2")]

/-- The file has had the content since `New` was called. -/
def Held (files : Path → Option String) (actions : List Action) (path : Path)
    (content : String) : Prop :=
  files path = some content ∨ .change path (some content) ∈ actions

/-- All that the watcher knows comes from the files. -/
structure Sourced (x509KeyPair : String → String → Option Certificate)
    (held : Path → String → Prop) (state : State Certificate) : Prop where
  files : ∀ path content, state.files path = some content → held path content
  reading : ∀ caller certFile, state.phase = .readingKey caller certFile →
    held .certPath certFile
  presented : state.phase.hasRead = true →
    ∃ cert certFile keyFile, state.currentCert = some cert ∧
      x509KeyPair certFile keyFile = some cert ∧
      held .certPath certFile ∧ held .keyPath keyFile

theorem hasRead_of_step {action : Action}
    (taken : Step x509KeyPair state action after)
    (read : after.phase.hasRead = true) :
    state.phase.hasRead = true ∧ after.currentCert = state.currentCert ∨
      ∃ caller certFile cert, state.phase = .readingKey caller certFile ∧
        (state.files .keyPath).bind (x509KeyPair certFile) = some cert ∧
        after.currentCert = some cert := by
  cases moved_of_step taken with
  | changed path file => exact .inl ⟨read, rfl⟩
  | opened accepted opens =>
      rw [opens]
      exact .inl ⟨rfl, rfl⟩
  | added path accepted adds =>
      refine .inl ⟨?_, rfl⟩
      generalize state.phase = phase at adds
      cases phase with
      | starting path => rfl
      | rewatching path => rfl
      | _ => cases adds
  | received event waits =>
      rw [waits]
      exact .inl ⟨rfl, rfl⟩
  | closed waits =>
      rw [waits]
      exact .inl ⟨rfl, rfl⟩
  | missing caller reads =>
      rw [reads]
      cases caller
      · cases read
      · exact .inl ⟨rfl, rfl⟩
  | found caller certFile reads =>
      rw [reads]
      cases caller
      · cases read
      · exact .inl ⟨rfl, rfl⟩
  | refused caller certFile reads =>
      rw [reads]
      cases caller
      · cases read
      · exact .inl ⟨rfl, rfl⟩
  | loaded caller certFile cert reads loaded =>
      exact .inr ⟨caller, certFile, cert, reads, loaded, rfl⟩

theorem Sourced.step {held : Path → String → Prop} {action : Action}
    (sourced : Sourced x509KeyPair held state)
    (put : ∀ path content, action = .change path (some content) →
      held path content)
    (taken : Step x509KeyPair state action after) :
    Sourced x509KeyPair held after := by
  obtain ⟨files, reading, presented⟩ := sourced
  refine ⟨fun path content found => ?_, fun caller certFile reads => ?_,
    fun read => ?_⟩
  · by_cases changes : ∃ other file, action = .change other file
    · obtain ⟨other, file, rfl⟩ := changes
      cases taken
      simp only [Function.update_apply] at found
      split at found
      · next same =>
          subst same found
          exact put path content rfl
      · exact files path content found
    · rw [files_of_step taken fun other file same =>
        changes ⟨other, file, same⟩] at found
      exact files path content found
  · rcases certFile_of_step taken reads with found | ⟨_, _, -, before⟩
    · exact files .certPath certFile found
    · exact reading caller certFile before
  · rcases hasRead_of_step taken read with
      ⟨before, same⟩ | ⟨caller, certFile, cert, reads, loaded, now⟩
    · rw [same]
      exact presented before
    · obtain ⟨keyFile, found, fits⟩ := Option.bind_eq_some_iff.mp loaded
      exact ⟨cert, certFile, keyFile, now, fits,
        reading caller certFile reads, files .keyPath keyFile found⟩

/-- Whatever happens to the files, the server presents a certificate that was
read from them, with a key that belongs to it. -/
theorem certificate_loaded {files : Path → Option String}
    {actions : List Action}
    (run : Run (Step x509KeyPair) (.new files) actions state)
    (read : state.phase.hasRead = true) :
    ∃ cert certFile keyFile, state.getCertificate = some cert ∧
      x509KeyPair certFile keyFile = some cert ∧
      Held files actions .certPath certFile ∧
      Held files actions .keyPath keyFile := by
  have sourced : Sourced x509KeyPair (Held files actions) state := by
    refine run.invariant _ ?_ ⟨fun path content => .inl,
      fun caller certFile reads => ?_, fun read => ?_⟩
    · intro before action after member sourced taken
      refine sourced.step (fun path content same => ?_) taken
      exact .inr (same ▸ member)
    · cases reads
    · cases read
  exact sourced.presented read

/-- Only the certificate has been replaced. -/
def sampleHalf : List Action :=
  startup ++ [.change .certPath (some "2"), .receive (removed .certPath),
    .add .certPath true, .read, .read]

/-- It is not presented without its key. -/
theorem certificate_loaded_sample :
    ∃ state, Run (Step samplePair) (.new fun _ => some "1") sampleHalf state ∧
      ∃ cert certFile keyFile, state.getCertificate = some cert ∧
        samplePair certFile keyFile = some cert ∧
        Held (fun _ => some "1") sampleHalf .certPath certFile ∧
        Held (fun _ => some "1") sampleHalf .keyPath keyFile := by
  have run : ∃ state,
      Run (Step samplePair) (.new fun _ => some "1") sampleHalf state ∧
      state.phase.hasRead = true :=
    ⟨_, sampleState_started.append (.cons rfl (.cons rfl (.cons rfl
      (.cons rfl (.cons rfl (.nil _)))))), rfl⟩
  obtain ⟨state, run, read⟩ := run
  exact ⟨state, run, certificate_loaded run read⟩

end Kubauth.CertWatcher
