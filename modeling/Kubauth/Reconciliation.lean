import Kubauth.Dialogue
import Kubauth.Run
import Mathlib.Logic.Function.Basic

/-!
# Workers that follow a changing world

The work on a key is a program that looks things up in the world, one after the
other, and ends with a result.  The world may change between any two of its
reads.  A change wakes some keys: they are queued, and a queued key is worked
on again, after its present work if there is any.  A key that every change to
what its work reads would wake is up to date whenever it rests: all that its
latest work has read is still so.
-/

namespace Reconciliation

open Dialogue (Converses Event Proceeds)

section Programs

variable {Address : Type} {Value : Address → Type} {ρ τ : Type}
  {look other : (address : Address) → Value address}

/-- What a program returns in a world that stands still. -/
def evaluate (look : (address : Address) → Value address)
    (program : Dialogue Value ρ) : ρ :=
  (program.run (fun _ address => (look address, ())) ()).1

/-- The program looks at the address, in a world that stands still. -/
def Reads (look : (address : Address) → Value address) :
    Dialogue Value ρ → Address → Prop
  | .done _, _ => False
  | .ask query next, address =>
      address = query ∨ Reads look (next (look query)) address

theorem reads_bind {program : Dialogue Value τ}
    {following : τ → Dialogue Value ρ} {address : Address}
    (reading : Reads look (program >>= following) address) :
    Reads look program address ∨
      Reads look (following (evaluate look program)) address := by
  induction program with
  | done result => exact .inr reading
  | ask query next induction =>
      rcases reading with here | later
      · exact .inl (.inl here)
      · exact (induction _ later).imp_left .inr

theorem Reads.congr {program : Dialogue Value ρ} {address : Address}
    (reading : Reads look program address)
    (same : ∀ address, Reads look program address →
      other address = look address) :
    Reads other program address := by
  induction program with
  | done result => cases reading
  | ask query next induction =>
      rcases reading with here | later
      · exact .inl here
      · have agree : other query = look query := same query (.inl rfl)
        unfold Reads
        rw [agree]
        exact .inr (induction _ later fun address reading =>
          same address (.inr reading))

/-- All that was read is still so. -/
def Current (look : (address : Address) → Value address)
    (reads : List (Event Value)) : Prop :=
  ∀ read ∈ reads, look read.1 = read.2

theorem Current.of_append {first second : List (Event Value)}
    (current : Current look (first ++ second)) : Current look first :=
  fun read member => current read (List.mem_append_left second member)

theorem reads_of_rest {program rest : Dialogue Value ρ}
    {reads : List (Event Value)} (proceeds : Proceeds program reads rest)
    (current : Current look reads) {address : Address}
    (reading : Reads look rest address) : Reads look program address := by
  induction proceeds with
  | start => exact reading
  | @next trace query next _ reply induction =>
      have answered : look query = reply :=
        current ⟨query, reply⟩
          (List.mem_append_right _ (List.mem_singleton_self _))
      refine induction current.of_append (.inr ?_)
      rw [answered]
      exact reading

theorem reads_of_mem {program rest : Dialogue Value ρ}
    {reads : List (Event Value)} (proceeds : Proceeds program reads rest)
    (current : Current look reads) {read : Event Value}
    (member : read ∈ reads) : Reads look program read.1 := by
  induction proceeds with
  | start => cases member
  | @next trace query next earlier reply induction =>
      rcases List.mem_append.mp member with before | last
      · exact induction current.of_append before
      · rw [List.mem_singleton.mp last]
        exact reads_of_rest earlier current.of_append (.inl rfl)

theorem Current.change {program rest : Dialogue Value ρ}
    {reads : List (Event Value)} (current : Current look reads)
    (proceeds : Proceeds program reads rest)
    (same : ∀ address, Reads look program address →
      other address = look address) : Current other reads := by
  intro read member
  rw [same read.1 (reads_of_mem proceeds current member)]
  exact current read member

end Programs

/-! ## Controllers -/

/-- How the world is looked at and changed, which keys a change wakes once it
has been made, and the work on a key, under a seed of which it may make use. -/
structure Controller (World Change : Type) {Address : Type}
    (Value : Address → Type) (κ ι ρ : Type) where
  look : World → (address : Address) → Value address
  change : World → Change → World
  woken : World → Change → List κ
  work : ι → κ → Dialogue Value ρ

/-- Work that is under way, with what it has read. -/
structure Work {Address : Type} (Value : Address → Type) (ι ρ : Type) where
  seed : ι
  reads : List (Event Value)
  rest : Dialogue Value ρ

structure Outcome {Address : Type} (Value : Address → Type) (ι ρ : Type) where
  seed : ι
  reads : List (Event Value)
  result : ρ

/-- The world, the keys that are queued, the work that is under way and the
outcome of the latest work on each key. -/
structure State (World : Type) {Address : Type} (Value : Address → Type)
    (κ ι ρ : Type) where
  world : World
  queued : List κ
  running : κ → Option (Work Value ι ρ)
  latest : κ → Option (Outcome Value ι ρ)

/-- What happens.  `misread` is a read that gets another reply than the world's,
`fail` ends the work on a key by an error, upon which it is queued again, and
`wake` queues a key for any other reason. -/
inductive Step (Change : Type) {Address : Type} (Value : Address → Type)
    (κ ι : Type) where
  | change (change : Change)
  | start (key : κ) (seed : ι)
  | read (key : κ)
  | misread (key : κ) (reply : (address : Address) → Value address)
  | finish (key : κ)
  | fail (key : κ)
  | wake (key : κ)

namespace Controller

variable {World Change Address : Type} {Value : Address → Type}
  {κ ι ρ : Type}

/-- Nothing was done yet. -/
def initial (world : World) : State World Value κ ι ρ :=
  { world := world
    queued := []
    running := fun _ => none
    latest := fun _ => none }

variable [DecidableEq κ] (controller : Controller World Change Value κ ι ρ)

/-- The work on the key goes on with a reply. -/
def reply (state : State World Value κ ι ρ) (key : κ)
    (answer : (address : Address) → Value address) :
    State World Value κ ι ρ :=
  match state.running key with
  | some ⟨seed, reads, .ask address next⟩ =>
      { state with
        running := Function.update state.running key
          (some ⟨seed, reads ++ [⟨address, answer address⟩],
            next (answer address)⟩) }
  | _ => state

/-- One step.  A key is not worked on twice at a time. -/
def step (state : State World Value κ ι ρ) :
    Step Change Value κ ι → State World Value κ ι ρ
  | .change change =>
      let world := controller.change state.world change
      { state with
        world := world
        queued := controller.woken world change ++ state.queued }
  | .start key seed =>
      if key ∈ state.queued ∧ (state.running key).isNone then
        { state with
          queued := state.queued.filter (· ≠ key)
          running := Function.update state.running key
            (some ⟨seed, [], controller.work seed key⟩) }
      else state
  | .read key => reply state key (controller.look state.world)
  | .misread key answer => reply state key answer
  | .finish key =>
      match state.running key with
      | some ⟨seed, reads, .done result⟩ =>
          { state with
            running := Function.update state.running key none
            latest := Function.update state.latest key
              (some ⟨seed, reads, result⟩) }
      | _ => state
  | .fail key =>
      match state.running key with
      | some _ =>
          { state with
            queued := key :: state.queued
            running := Function.update state.running key none }
      | none => state
  | .wake key => { state with queued := key :: state.queued }

/-- A change to what the work on the key reads wakes the key, and no read of
that work gets a wrong reply. -/
def Heeds (key : κ) (state : State World Value κ ι ρ) :
    Step Change Value κ ι → Prop
  | .change change =>
      let world := controller.change state.world change
      key ∈ controller.woken world change ∨ ∀ seed address,
        Reads (controller.look state.world) (controller.work seed key)
          address →
        controller.look world address = controller.look state.world address
  | .misread other _ => key ≠ other
  | _ => True

/-- The key is queued, or its work has only read what is so now.  A key that was
never worked on would read what it would have read at the beginning. -/
def InSync (start : World) (key : κ) (state : State World Value κ ι ρ) :
    Prop :=
  key ∈ state.queued ∨
    match state.running key with
    | some work =>
        Proceeds (controller.work work.seed key) work.reads work.rest ∧
          Current (controller.look state.world) work.reads
    | none =>
        match state.latest key with
        | some outcome =>
            Proceeds (controller.work outcome.seed key) outcome.reads
                (.done outcome.result) ∧
              Current (controller.look state.world) outcome.reads
        | none => ∀ seed address,
            Reads (controller.look start) (controller.work seed key)
              address →
            controller.look state.world address =
              controller.look start address

variable {controller} {state : State World Value κ ι ρ} {start : World}
  {key : κ}

omit [DecidableEq κ] in
theorem InSync.frame {after : State World Value κ ι ρ}
    (sync : controller.InSync start key state)
    (world : after.world = state.world)
    (queued : key ∈ state.queued → key ∈ after.queued)
    (running : after.running key = state.running key)
    (latest : after.latest key = state.latest key) :
    controller.InSync start key after := by
  unfold InSync at sync ⊢
  rw [world, running, latest]
  exact sync.imp_left queued

omit [DecidableEq κ] in
/-- A change that wakes the key, or is to nothing that its work reads. -/
theorem InSync.change {change : Change}
    (sync : controller.InSync start key state)
    (heeds : controller.Heeds key state (.change change)) :
    controller.InSync start key
      { state with
        world := controller.change state.world change
        queued := controller.woken (controller.change state.world change)
          change ++ state.queued } := by
  rcases sync with queued | sync
  · exact .inl (List.mem_append_right _ queued)
  rcases heeds with woken | same
  · exact .inl (List.mem_append_left _ woken)
  right
  simp only
  split at sync
  · obtain ⟨proceeds, current⟩ := sync
    exact ⟨proceeds, current.change proceeds (same _)⟩
  · split at sync
    · obtain ⟨proceeds, current⟩ := sync
      exact ⟨proceeds, current.change proceeds (same _)⟩
    · intro seed address reading
      -- what is read at the beginning is read now, too
      have now := reading.congr (sync seed)
      exact (same seed address now).trans (sync seed address reading)

theorem InSync.reply {other : κ}
    {answer : (address : Address) → Value address}
    (sync : controller.InSync start key state)
    (honest : key = other → answer = controller.look state.world) :
    controller.InSync start key (reply state other answer) := by
  unfold Controller.reply
  split
  · next seed reads address next working =>
      by_cases here : key = other
      · subst here
        obtain rfl := honest rfl
        refine sync.imp_right fun known => ?_
        simp only [Function.update_self]
        rw [working] at known
        obtain ⟨proceeds, current⟩ := known
        refine ⟨proceeds.next _, ?_⟩
        intro read member
        rcases List.mem_append.mp member with before | last
        · exact current read before
        · rw [List.mem_singleton.mp last]
      · exact sync.frame rfl id (Function.update_of_ne here _ _) rfl
  · exact sync

theorem InSync.step (sync : controller.InSync start key state)
    {event : Step Change Value κ ι}
    (heeds : controller.Heeds key state event) :
    controller.InSync start key (controller.step state event) := by
  cases event with
  | change change => exact sync.change heeds
  | read other => exact sync.reply fun _ => rfl
  | misread other answer => exact sync.reply fun same => absurd same heeds
  | wake other => exact sync.frame rfl (List.mem_cons_of_mem other) rfl rfl
  | start other seed =>
      simp only [Controller.step]
      split
      · by_cases here : key = other
        · subst here
          right
          simp only [Function.update_self]
          exact ⟨.start, fun read member => by cases member⟩
        · refine sync.frame rfl ?_ (Function.update_of_ne here _ _) rfl
          exact fun queued => List.mem_filter.mpr ⟨queued, by simpa using here⟩
      · exact sync
  | finish other =>
      simp only [Controller.step]
      split
      · next seed reads result working =>
          by_cases here : key = other
          · subst here
            refine sync.imp_right fun known => ?_
            simp only [Function.update_self]
            rw [working] at known
            exact known
          · exact sync.frame rfl id (Function.update_of_ne here _ _)
              (Function.update_of_ne here _ _)
      · exact sync
  | fail other =>
      simp only [Controller.step]
      split
      · by_cases here : key = other
        · subst here
          exact .inl List.mem_cons_self
        · exact sync.frame rfl (List.mem_cons_of_mem other)
            (Function.update_of_ne here _ _) rfl
      · exact sync

/-- The work on the key, under way or done, was started under a seed of these. -/
def Seeded (among : ι → Prop) (key : κ) (state : State World Value κ ι ρ) :
    Prop :=
  (∀ work, state.running key = some work → among work.seed) ∧
    ∀ outcome, state.latest key = some outcome → among outcome.seed

omit [DecidableEq κ] in
theorem Seeded.frame {among : ι → Prop} {after : State World Value κ ι ρ}
    (seeded : Seeded among key state)
    (running : after.running key = state.running key)
    (latest : after.latest key = state.latest key) :
    Seeded among key after := by
  unfold Seeded
  rw [running, latest]
  exact seeded

theorem Seeded.reply {among : ι → Prop} (seeded : Seeded among key state)
    (other : κ) (answer : (address : Address) → Value address) :
    Seeded among key (reply state other answer) := by
  unfold Controller.reply
  split
  · next seed reads address next working =>
      by_cases here : key = other
      · subst here
        refine ⟨fun work running => ?_, seeded.2⟩
        simp only [Function.update_self, Option.some.injEq] at running
        rw [← running]
        exact seeded.1 ⟨seed, reads, .ask address next⟩ working
      · exact seeded.frame (Function.update_of_ne here _ _) rfl
  · exact seeded

theorem Seeded.step {among : ι → Prop} (seeded : Seeded among key state)
    {event : Step Change Value κ ι}
    (starts : ∀ seed, event = .start key seed → among seed) :
    Seeded among key (controller.step state event) := by
  cases event with
  | change change => exact seeded
  | wake other => exact seeded
  | read other => exact seeded.reply _ _
  | misread other answer => exact seeded.reply _ _
  | start other seed =>
      simp only [Controller.step]
      split
      · by_cases here : key = other
        · subst here
          refine ⟨fun work running => ?_, seeded.2⟩
          simp only [Function.update_self, Option.some.injEq] at running
          rw [← running]
          exact starts seed rfl
        · exact seeded.frame (Function.update_of_ne here _ _) rfl
      · exact seeded
  | finish other =>
      simp only [Controller.step]
      split
      · next seed reads result working =>
          by_cases here : key = other
          · subst here
            refine ⟨fun work running => ?_, fun outcome latest => ?_⟩
            · simp [Function.update_self] at running
            · simp only [Function.update_self, Option.some.injEq] at latest
              rw [← latest]
              exact seeded.1 ⟨seed, reads, .done result⟩ working
          · exact seeded.frame (Function.update_of_ne here _ _)
              (Function.update_of_ne here _ _)
      · exact seeded
  | fail other =>
      simp only [Controller.step]
      split
      · by_cases here : key = other
        · subst here
          refine ⟨fun work running => ?_, seeded.2⟩
          simp [Function.update_self] at running
        · exact seeded.frame (Function.update_of_ne here _ _) rfl
      · exact seeded

/-- The outcome of work that was started in the run, and all that it has read is
so in the world. -/
structure Fresh (controller : Controller World Change Value κ ι ρ)
    (events : List (Step Change Value κ ι)) (world : World) (key : κ)
    (outcome : Outcome Value ι ρ) : Prop where
  started : .start key outcome.seed ∈ events
  conversed : Converses (controller.work outcome.seed key) outcome.reads
    outcome.result
  current : Current (controller.look world) outcome.reads

end Controller

end Reconciliation
