import Kubauth.Storage.Memory
import Kubauth.Run

/-!
# JWT assertions are accepted once

The store keeps the identifier of every accepted assertion until it expires.
Each acceptance also drops the identifiers that have expired by its own
readings of the clock.  An identifier is therefore kept, whatever happens to
the others, until the time given at its acceptance.
-/

namespace Kubauth.MemoryStore

/-- The methods of the store on identifiers of assertions. -/
inductive JwtOperation where
  | clientAssertionJWTValid (jti : String)
  | isJWTUsed (jti : String)
  | setClientAssertionJWT (jti : String) (exp : Int)
  | markJWTUsedForTime (jti : String) (exp : Int)

def JwtOperation.jti : JwtOperation → String
  | .clientAssertionJWTValid jti => jti
  | .isJWTUsed jti => jti
  | .setClientAssertionJWT jti _ => jti
  | .markJWTUsedForTime jti _ => jti

/-- The expiry that the operation records, if it records any. -/
def JwtOperation.exp? : JwtOperation → Option Int
  | .clientAssertionJWTValid _ => none
  | .isJWTUsed _ => none
  | .setClientAssertionJWT _ exp => some exp
  | .markJWTUsedForTime _ exp => some exp

/-- A call ends at the time `now`.  A check reads the clock then, and the loop
of an acceptance has read it before, once for each entry. -/
structure JwtCall where
  operation : JwtOperation
  now : Int
  clock : String → Int
  clock_le : ∀ jti, clock jti ≤ now

/-- What a call returns. -/
inductive JwtAnswer where
  | returned (failure : Option StoreError)
  | used (value : Bool)
  deriving Repr, DecidableEq

/-- The answers that say that the identifier was used. -/
def JwtAnswer.known : JwtAnswer → Bool
  | .returned failure => failure = some .jtiKnown
  | .used value => value

namespace JwtCall

def answer (call : JwtCall) (store : MemoryStore) : JwtAnswer :=
  match call.operation with
  | .clientAssertionJWTValid jti =>
      .returned (store.clientAssertionJWTValid call.now jti)
  | .isJWTUsed jti => .used (store.isJWTUsed call.now jti)
  | .setClientAssertionJWT jti exp =>
      .returned (store.setClientAssertionJWT call.clock jti exp).2
  | .markJWTUsedForTime jti exp =>
      .returned (store.markJWTUsedForTime call.clock jti exp).2

/-- The store after the call. -/
def next (store : MemoryStore) (call : JwtCall) : MemoryStore :=
  match call.operation with
  | .clientAssertionJWTValid _ => store
  | .isJWTUsed _ => store
  | .setClientAssertionJWT jti exp =>
      (store.setClientAssertionJWT call.clock jti exp).1
  | .markJWTUsedForTime jti exp =>
      (store.markJWTUsedForTime call.clock jti exp).1

end JwtCall

/-- The clock never runs backwards from one call to a later one. -/
def ClockRuns (calls : List JwtCall) : Prop :=
  calls.Pairwise fun earlier later => earlier.now ≤ later.now

/-- The identifier is kept with this expiry. -/
def Remembers (store : MemoryStore) (jti : String) (exp : Int) : Prop :=
  GoMap.get store.blacklistedJTIs jti = some exp

/-! ## One operation -/

theorem setClientAssertionJWT_cases (store : MemoryStore)
    (clock : String → Int) (jti : String) (exp : Int) :
    ∃ remaining,
      remaining = store.blacklistedJTIs.filter
          (fun entry => clock entry.1 ≤ entry.2) ∧
        ((∃ old, GoMap.get remaining jti = some old ∧
            store.setClientAssertionJWT clock jti exp =
              ({ store with blacklistedJTIs := remaining },
                some .jtiKnown)) ∨
          (GoMap.get remaining jti = none ∧
            store.setClientAssertionJWT clock jti exp =
              ({ store with
                  blacklistedJTIs := GoMap.set remaining jti exp },
                none))) := by
  refine ⟨_, rfl, ?_⟩
  unfold setClientAssertionJWT
  cases found : GoMap.get (store.blacklistedJTIs.filter
      fun entry => clock entry.1 ≤ entry.2) jti with
  | none =>
      right
      simp only [found, and_self]
  | some old =>
      left
      refine ⟨old, rfl, ?_⟩
      simp only [found]

theorem remembers_of_accepted {store : MemoryStore} {clock : String → Int}
    {jti : String} {exp : Int}
    (accepted : (store.setClientAssertionJWT clock jti exp).2 = none) :
    (store.setClientAssertionJWT clock jti exp).1.Remembers jti exp := by
  obtain ⟨remaining, -, ⟨old, -, result⟩ | ⟨-, result⟩⟩ :=
    store.setClientAssertionJWT_cases clock jti exp
  · rw [result] at accepted
    cases accepted
  · rw [result]
    exact GoMap.get_set_self remaining jti exp

section

variable {store : MemoryStore} {jti : String} {exp : Int}

/-- What is remembered survives the pruning of an acceptance that has read the
clock no later than the expiry. -/
private theorem Remembers.pruned (remembers : store.Remembers jti exp)
    {clock : String → Int} (early : clock jti ≤ exp) :
    GoMap.get (store.blacklistedJTIs.filter
      fun entry => clock entry.1 ≤ entry.2) jti = some exp := by
  apply GoMap.get_filter_of_get remembers
  simpa using early

/-- A second acceptance fails, and one of another identifier changes nothing
for this one. -/
theorem Remembers.setClientAssertionJWT
    (remembers : store.Remembers jti exp) {clock : String → Int}
    (early : clock jti ≤ exp) (written : String) (other : Int) :
    (store.setClientAssertionJWT clock written other).1.Remembers jti exp ∧
      (written = jti →
        (store.setClientAssertionJWT clock written other).2 =
          some .jtiKnown) := by
  have kept := remembers.pruned early
  obtain ⟨remaining, same, ⟨old, -, result⟩ | ⟨absent, result⟩⟩ :=
    store.setClientAssertionJWT_cases clock written other
  · rw [← same] at kept
    rw [result]
    exact ⟨kept, fun _ => rfl⟩
  · rw [← same] at kept
    have different : written ≠ jti := by
      intro equal
      rw [equal, kept] at absent
      cases absent
    rw [result]
    refine ⟨?_, fun equal => absurd equal different⟩
    exact (GoMap.get_set_of_ne remaining other different).trans kept

theorem Remembers.clientAssertionJWTValid
    (remembers : store.Remembers jti exp) {now : Int} (early : now < exp) :
    store.clientAssertionJWTValid now jti = some .jtiKnown := by
  unfold MemoryStore.clientAssertionJWTValid
  rw [remembers]
  exact if_pos early

/-! ## Whole histories -/

theorem Remembers.next (remembers : store.Remembers jti exp)
    {call : JwtCall} (early : call.now < exp) :
    (JwtCall.next store call).Remembers jti exp := by
  have read : call.clock jti ≤ exp :=
    Int.le_trans (call.clock_le jti) (Int.le_of_lt early)
  unfold JwtCall.next
  split
  · exact remembers
  · exact remembers
  · next written other _ =>
      exact (remembers.setClientAssertionJWT read written other).1
  · next written other _ =>
      exact (remembers.setClientAssertionJWT read written other).1

theorem Remembers.answer (remembers : store.Remembers jti exp)
    {call : JwtCall} (early : call.now < exp)
    (concerned : call.operation.jti = jti) :
    (call.answer store).known = true := by
  have read : call.clock jti ≤ exp :=
    Int.le_trans (call.clock_le jti) (Int.le_of_lt early)
  unfold JwtCall.answer
  cases operation : call.operation with
  | clientAssertionJWTValid checked =>
      rw [operation] at concerned
      obtain rfl : checked = jti := concerned
      simp [remembers.clientAssertionJWTValid early, JwtAnswer.known]
  | isJWTUsed checked =>
      rw [operation] at concerned
      obtain rfl : checked = jti := concerned
      simp [isJWTUsed, remembers.clientAssertionJWTValid early,
        JwtAnswer.known]
  | setClientAssertionJWT written other =>
      rw [operation] at concerned
      have refused :=
        (remembers.setClientAssertionJWT read written other).2 concerned
      simp [refused, JwtAnswer.known]
  | markJWTUsedForTime written other =>
      rw [operation] at concerned
      have refused :=
        (remembers.setClientAssertionJWT read written other).2 concerned
      simp [markJWTUsedForTime, refused, JwtAnswer.known]

end

theorem JwtCall.remembers_of_answer {call : JwtCall} {store : MemoryStore}
    {exp : Int} (records : call.operation.exp? = some exp)
    (accepted : call.answer store = .returned none) :
    (JwtCall.next store call).Remembers call.operation.jti exp := by
  unfold JwtCall.answer at accepted
  unfold JwtCall.next
  cases operation : call.operation with
  | clientAssertionJWTValid checked =>
      rw [operation] at records
      cases records
  | isJWTUsed checked =>
      rw [operation] at records
      cases records
  | setClientAssertionJWT written recorded =>
      rw [operation] at records accepted
      cases records
      exact remembers_of_accepted (JwtAnswer.returned.inj accepted)
  | markJWTUsedForTime written recorded =>
      rw [operation] at records accepted
      cases records
      exact remembers_of_accepted (JwtAnswer.returned.inj accepted)

/-- No assertion is accepted twice.  Once an acceptance of an identifier has
succeeded, whatever calls follow, every call about that identifier that ends
before the expiry reports that the identifier was used. -/
theorem jwt_accepted_once (store : MemoryStore) (accepted : JwtCall)
    (between : List JwtCall) (last : JwtCall) (exp : Int)
    (records : accepted.operation.exp? = some exp)
    (succeeded : accepted.answer store = .returned none)
    (clock : ClockRuns (accepted :: (between ++ [last])))
    (concerned : last.operation.jti = accepted.operation.jti)
    (early : last.now < exp) :
    (last.answer ((accepted :: between).foldl JwtCall.next store)).known =
      true := by
  have clockAfter := (List.pairwise_cons.mp clock).2
  have beforeLast : ∀ call ∈ between, call.now < exp := by
    intro call member
    have ordered := (List.pairwise_append.mp clockAfter).2.2 call member last
      (List.mem_singleton_self last)
    exact Int.lt_of_le_of_lt ordered early
  have run := Run.of_foldl JwtCall.next (JwtCall.next store accepted) between
  have remembers := run.invariant
    (fun state => state.Remembers accepted.operation.jti exp)
    (by
      rintro before call after member held rfl
      exact held.next (beforeLast call member))
    (JwtCall.remembers_of_answer records succeeded)
  exact remembers.answer early concerned

/-- A call at one instant. -/
def JwtCall.instant (operation : JwtOperation) (now : Int) : JwtCall :=
  { operation := operation
    now := now
    clock := fun _ => now
    clock_le := fun _ => Int.le_refl now }

/-- An assertion is presented again after another one, which has expired in the
meantime, was accepted. -/
theorem jwt_accepted_once_replayed :
    ((JwtCall.instant (.setClientAssertionJWT "a" 100) 90).answer
      ([JwtCall.instant (.setClientAssertionJWT "a" 100) 10,
        JwtCall.instant (.markJWTUsedForTime "b" 15) 12,
        JwtCall.instant (.setClientAssertionJWT "c" 120) 60].foldl
          JwtCall.next MemoryStore.empty)).known = true := by
  apply jwt_accepted_once MemoryStore.empty
    (JwtCall.instant (.setClientAssertionJWT "a" 100) 10)
    [JwtCall.instant (.markJWTUsedForTime "b" 15) 12,
      JwtCall.instant (.setClientAssertionJWT "c" 120) 60]
    (JwtCall.instant (.setClientAssertionJWT "a" 100) 90) 100
  · rfl
  · rfl
  · simp [ClockRuns, JwtCall.instant]
  · rfl
  · decide

end Kubauth.MemoryStore
