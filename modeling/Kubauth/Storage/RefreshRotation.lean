import Kubauth.Exclusive
import Kubauth.Storage.Revocation

/-!
# Rotating refresh tokens

Any number of refresh requests belong to one grant, that is to one request id.
The OAuth2 library performs four store calls for each of them, in order: it
reads the presented token, rotates, and creates the new access and refresh
tokens, under signatures never used before.  The calls of different requests
interleave freely.

Rotation does not look at the presented token: it revokes the token in the
slot of the request id.  The right to create the next refresh token is
available while some refresh token of the grant is active, and held from
rotation until that token is created.
-/

namespace Kubauth.RefreshRotation

inductive Phase where
  | idle
  | got
  | rotated
  | accessCreated
  | refreshed
  | failed
  deriving Repr, DecidableEq

namespace Phase

/-- The request has read the token that it presents. -/
def hasRead : Phase → Bool
  | .got | .rotated | .accessCreated | .refreshed => true
  | .idle | .failed => false

/-- The request has rotated the token that it presents. -/
def hasRotated : Phase → Bool
  | .rotated | .accessCreated | .refreshed => true
  | .idle | .got | .failed => false

/-- The request has rotated, and has not created its refresh token yet. -/
def pending : Phase → Bool
  | .rotated | .accessCreated => true
  | .idle | .got | .refreshed | .failed => false

theorem hasRead_of_hasRotated {phase : Phase}
    (rotated : phase.hasRotated = true) : phase.hasRead = true := by
  cases phase <;> first | rfl | cases rotated

end Phase

structure State (ι : Type) where
  store : MemoryStore
  phase : ι → Phase

/-- The next store call of one request. -/
inductive Action (ι : Type) where
  | get (request : ι)
  | rotate (request : ι)
  | createAccess (request : ι) (signature : String) (requester : Requester)
  | createRefresh (request : ι) (signature accessTokenSignature : String)
      (requester : Requester)

variable {ι : Type} [DecidableEq ι]

def State.advance (state : State ι) (request : ι) (phase : Phase) :
    State ι :=
  { state with phase := Function.update state.phase request phase }

/-- The token can be read without error and belongs to the grant. -/
def Presentable (grant : String) (store : MemoryStore) (signature : String) :
    Prop :=
  ∃ requester, store.getRefreshTokenSession signature = (some requester, none) ∧
    requester.id = grant

/-- One store call of one request, taken in the order of the library.
`presented` gives the token that each request presents. -/
inductive Step (grant : String) (presented : ι → String) :
    State ι → Action ι → State ι → Prop where
  | get (state : State ι) (request : ι) (idle : state.phase request = .idle)
      (active : Presentable grant state.store (presented request)) :
      Step grant presented state (.get request) (state.advance request .got)
  | getFailed (state : State ι) (request : ι)
      (idle : state.phase request = .idle)
      (inactive : ¬Presentable grant state.store (presented request)) :
      Step grant presented state (.get request)
        (state.advance request .failed)
  | rotate (state : State ι) (request : ι) (store : MemoryStore)
      (failure : Option StoreError) (got : state.phase request = .got)
      (returned : state.store.rotateRefreshToken grant (presented request) =
        (store, failure)) :
      Step grant presented state (.rotate request)
        ({ state with store := store }.advance request
          (if failure = none then .rotated else .failed))
  | createAccess (state : State ι) (request : ι) (signature : String)
      (requester : Requester) (ready : state.phase request = .rotated)
      (sameGrant : requester.id = grant) :
      Step grant presented state (.createAccess request signature requester)
        ({ state with
            store :=
              state.store.createAccessTokenSession signature
                requester }.advance request .accessCreated)
  | createRefresh (state : State ι) (request : ι)
      (signature accessTokenSignature : String) (requester : Requester)
      (ready : state.phase request = .accessCreated)
      (sameGrant : requester.id = grant)
      (fresh : GoMap.get state.store.refreshTokens signature = none) :
      Step grant presented state
        (.createRefresh request signature accessTokenSignature requester)
        ({ state with
            store :=
              state.store.createRefreshTokenSession signature
                accessTokenSignature requester }.advance request .refreshed)

/-- The token is active and belongs to the grant. -/
def Active (grant : String) (store : MemoryStore) (signature : String) :
    Prop :=
  store.refreshRegistry.owner signature = some grant

/-- The token presented by a rotation is still active when it happens. -/
def Undisturbed (presented : ι → String) (state : State ι) :
    Action ι → Prop
  | .rotate request =>
      (state.store.getRefreshTokenSession (presented request)).2 = none
  | _ => True

/-- The request holds the right to create the next refresh token. -/
def Pending (state : State ι) (request : ι) : Prop :=
  (state.phase request).pending = true

/-- Whether a token is active does not change that it is stored. -/
def Stored (grant : String) (store : MemoryStore) (signature : String) :
    Prop :=
  ∃ token, GoMap.get store.refreshTokens signature = some token ∧
    token.requester.id = grant

/-- The token is stored and can no longer be presented. -/
def Inactive (store : MemoryStore) (signature : String) : Prop :=
  ∃ token, GoMap.get store.refreshTokens signature = some token ∧
    token.active = false

/-- What holds of every state of an undisturbed run. -/
structure Sound (grant : String) (presented : ι → String)
    (state : State ι) : Prop where
  covered : state.store.refreshRegistry.Covered grant
  exclusive : Exclusive (∃ signature, Active grant state.store signature)
    (Pending state)
  known : ∀ request, (state.phase request).hasRead = true →
    Stored grant state.store (presented request)
  spent : ∀ request, (state.phase request).hasRotated = true →
    ¬Active grant state.store (presented request)

theorem active_iff (grant : String) (store : MemoryStore)
    (signature : String) :
    Active grant store signature ↔
      ∃ token, GoMap.get store.refreshTokens signature = some token ∧
        token.active = true ∧ token.requester.id = grant :=
  MemoryStore.refreshRegistry_owner_iff store signature grant

theorem presentable_iff_active (grant : String) (store : MemoryStore)
    (signature : String) :
    Presentable grant store signature ↔ Active grant store signature := by
  rw [active_iff]
  unfold Presentable MemoryStore.getRefreshTokenSession
  cases GoMap.get store.refreshTokens signature with
  | none => simp
  | some token =>
      cases active : token.active <;> simp [active]

theorem Stored.active_of_readable {grant : String} {store : MemoryStore}
    {signature : String} (stored : Stored grant store signature)
    (readable : (store.getRefreshTokenSession signature).2 = none) :
    Active grant store signature := by
  obtain ⟨token, found, same⟩ := stored
  rw [active_iff]
  refine ⟨token, found, ?_, same⟩
  unfold MemoryStore.getRefreshTokenSession at readable
  rw [found] at readable
  by_contra inactive
  simp [inactive] at readable

theorem Stored.inactive {grant : String} {store : MemoryStore}
    {signature : String} (stored : Stored grant store signature)
    (inactive : ¬Active grant store signature) : Inactive store signature := by
  obtain ⟨token, found, same⟩ := stored
  refine ⟨token, found, ?_⟩
  by_contra active
  apply inactive
  rw [active_iff]
  exact ⟨token, found, by simpa using active, same⟩

/-! ## What the calls keep -/

theorem Stored.revoke {grant : String} {store : MemoryStore}
    {signature : String} (stored : Stored grant store signature)
    (requestID : String) :
    Stored grant (store.revokeRefreshToken requestID).1 signature := by
  obtain ⟨token, found, same⟩ := stored
  unfold MemoryStore.revokeRefreshToken
  split
  · exact ⟨token, found, same⟩
  · next indexed _ =>
      split
      · exact ⟨token, found, same⟩
      · next revoked revokedFound =>
          by_cases equal : indexed = signature
          · subst equal
            obtain rfl : revoked = token :=
              Option.some.inj (revokedFound.symm.trans found)
            exact ⟨{ revoked with active := false }, by simp, same⟩
          · exact ⟨token, by simpa [GoMap.get_set, equal] using found, same⟩

theorem Stored.rotate {grant : String} {store : MemoryStore}
    {signature : String} (stored : Stored grant store signature)
    (requestID presented : String) :
    Stored grant (store.rotateRefreshToken requestID presented).1
      signature := by
  have revoked := stored.revoke requestID
  unfold MemoryStore.rotateRefreshToken
  cases called : store.revokeRefreshToken requestID with
  | mk after failure =>
      rw [called] at revoked
      cases failure with
      | some failure => exact revoked
      | none =>
          simp only
          unfold MemoryStore.revokeAccessToken
          split <;> exact revoked

theorem Stored.create {grant : String} {store : MemoryStore}
    {signature : String} (stored : Stored grant store signature)
    {created : String} (accessTokenSignature : String)
    (requester : Requester)
    (fresh : GoMap.get store.refreshTokens created = none) :
    created ≠ signature ∧
      Stored grant
        (store.createRefreshTokenSession created accessTokenSignature
          requester) signature := by
  obtain ⟨token, found, same⟩ := stored
  have different : created ≠ signature := by
    rintro rfl
    rw [fresh] at found
    cases found
  refine ⟨different, token, ?_, same⟩
  simpa [MemoryStore.createRefreshTokenSession, GoMap.get_set, different]
    using found

theorem active_of_active_rotate {grant requestID presented signature : String}
    {store : MemoryStore}
    (active : Active grant (store.rotateRefreshToken requestID presented).1
      signature) : Active grant store signature := by
  unfold Active at active ⊢
  rw [MemoryStore.refreshRegistry_rotateRefreshToken] at active
  exact SlotRegistry.owner_of_owner_revoke active

/-- A rotation while every active token of the grant is indexed leaves none
active. -/
theorem not_active_rotate {grant : String} {store : MemoryStore}
    (covered : store.refreshRegistry.Covered grant)
    (presented signature : String) :
    ¬Active grant (store.rotateRefreshToken grant presented).1 signature := by
  unfold Active
  rw [MemoryStore.refreshRegistry_rotateRefreshToken]
  exact (SlotRegistry.clear_revoke_iff _ grant).mpr covered signature

theorem active_create_iff {grant : String} {store : MemoryStore}
    {created : String} (accessTokenSignature : String)
    {requester : Requester} (sameGrant : requester.id = grant)
    (signature : String) :
    Active grant
        (store.createRefreshTokenSession created accessTokenSignature
          requester) signature ↔
      signature = created ∨ Active grant store signature := by
  unfold Active
  rw [MemoryStore.refreshRegistry_createRefreshTokenSession, sameGrant]
  by_cases same : signature = created
  · simp [SlotRegistry.create, same]
  · simp [SlotRegistry.create, same]

/-! ## Steps -/

theorem advance_phase (state : State ι) (request other : ι) (phase : Phase) :
    (state.advance request phase).phase other =
      if other = request then phase else state.phase other := by
  by_cases same : other = request
  · subst same
    simp [State.advance]
  · simp [State.advance, same]

/-- A pending request of the next state was pending, unless it is the one that
moved. -/
theorem pending_advance {state : State ι} {request other : ι} {phase : Phase}
    (pending : Pending (state.advance request phase) other) :
    other = request ∧ phase.pending = true ∨
      other ≠ request ∧ Pending state other := by
  unfold Pending at pending ⊢
  rw [advance_phase] at pending
  split at pending
  · next same => exact .inl ⟨same, pending⟩
  · next different => exact .inr ⟨different, pending⟩

/-- What has to be shown of a call: the other requests follow from what the
call keeps. -/
theorem Sound.advance {grant : String} {presented : ι → String}
    {state : State ι} (sound : Sound grant presented state)
    {store : MemoryStore} {request : ι} {phase : Phase}
    (stored : ∀ signature, Stored grant state.store signature →
      Stored grant store signature)
    (inactive : ∀ signature, Stored grant state.store signature →
      Active grant store signature → Active grant state.store signature)
    (covered : store.refreshRegistry.Covered grant)
    (exclusive : Exclusive (∃ signature, Active grant store signature)
      (Pending ({ state with store := store }.advance request phase)))
    (known : phase.hasRead = true →
      Stored grant store (presented request))
    (spent : phase.hasRotated = true →
      ¬Active grant store (presented request)) :
    Sound grant presented
      ({ state with store := store }.advance request phase) := by
  refine ⟨covered, exclusive, ?_, ?_⟩
  · intro other read
    rw [advance_phase] at read
    split at read
    · next same =>
        subst same
        exact known read
    · exact stored _ (sound.known other read)
  · intro other rotated
    rw [advance_phase] at rotated
    split at rotated
    · next same =>
        subst same
        exact spent rotated
    · intro active
      have before := sound.known other (Phase.hasRead_of_hasRotated rotated)
      exact sound.spent other rotated (inactive _ before active)

private theorem sound_get {grant : String} {presented : ι → String}
    {state : State ι} (sound : Sound grant presented state) (request : ι)
    (active : Presentable grant state.store (presented request)) :
    Sound grant presented (state.advance request .got) := by
  refine sound.advance (fun _ => id) (fun _ _ => id) sound.covered
    (sound.exclusive.weaken id fun other pending => ?_)
    (fun _ => ?_) (fun rotated => by cases rotated)
  · rcases pending_advance pending with ⟨-, moved⟩ | ⟨-, before⟩
    · cases moved
    · exact before
  · obtain ⟨token, found, -, same⟩ := (active_iff _ _ _).mp
      ((presentable_iff_active _ _ _).mp active)
    exact ⟨token, found, same⟩

private theorem sound_failed {grant : String} {presented : ι → String}
    {state : State ι} (sound : Sound grant presented state)
    {store : MemoryStore} (request : ι)
    (stored : ∀ signature, Stored grant state.store signature →
      Stored grant store signature)
    (inactive : ∀ signature, Active grant store signature →
      Active grant state.store signature)
    (covered : store.refreshRegistry.Covered grant) :
    Sound grant presented
      ({ state with store := store }.advance request .failed) := by
  refine sound.advance stored (fun signature _ => inactive signature) covered
    (sound.exclusive.weaken ?_ fun other pending => ?_)
    (fun read => by cases read) (fun rotated => by cases rotated)
  · rintro ⟨signature, active⟩
    exact ⟨signature, inactive signature active⟩
  · rcases pending_advance pending with ⟨-, moved⟩ | ⟨-, before⟩
    · cases moved
    · exact before

private theorem covered_rotate {grant presented : String}
    {store : MemoryStore} (covered : store.refreshRegistry.Covered grant) :
    (store.rotateRefreshToken grant presented).1.refreshRegistry.Covered
      grant := by
  rw [MemoryStore.refreshRegistry_rotateRefreshToken]
  exact covered.revoke grant

private theorem sound_rotate {grant : String} {presented : ι → String}
    {state : State ι} (sound : Sound grant presented state) (request : ι)
    (got : state.phase request = .got)
    (readable :
      (state.store.getRefreshTokenSession (presented request)).2 = none) :
    Sound grant presented
      ({ state with
          store := (state.store.rotateRefreshToken grant
            (presented request)).1 }.advance request .rotated) := by
  have known : Stored grant state.store (presented request) :=
    sound.known request (by rw [got]; rfl)
  have here : ∃ signature, Active grant state.store signature :=
    ⟨_, known.active_of_readable readable⟩
  have gone := not_active_rotate sound.covered (presented request)
  refine sound.advance (fun _ stored => stored.rotate grant _)
    (fun signature _ active => active_of_active_rotate active)
    (covered_rotate sound.covered)
    (sound.exclusive.take here request ?_ fun other pending => ?_)
    (fun _ => known.rotate grant _) (fun _ => gone _)
  · rintro ⟨signature, active⟩
    exact gone signature active
  · rcases pending_advance pending with ⟨same, -⟩ | ⟨-, before⟩
    · exact .inl same
    · exact .inr before

private theorem sound_createAccess {grant : String} {presented : ι → String}
    {state : State ι} (sound : Sound grant presented state) (request : ι)
    (signature : String) (requester : Requester)
    (ready : state.phase request = .rotated) :
    Sound grant presented
      ({ state with
          store := state.store.createAccessTokenSession signature
            requester }.advance request .accessCreated) := by
  refine sound.advance (fun _ => id) (fun _ _ => id) sound.covered
    (sound.exclusive.weaken id fun other pending => ?_)
    (fun _ => sound.known request (by rw [ready]; rfl))
    (fun _ => sound.spent request (by rw [ready]; rfl))
  rcases pending_advance pending with ⟨same, -⟩ | ⟨-, before⟩
  · subst same
    unfold Pending
    rw [ready]
    rfl
  · exact before

private theorem sound_createRefresh {grant : String}
    {presented : ι → String} {state : State ι}
    (sound : Sound grant presented state) (request : ι)
    {signature : String} (accessTokenSignature : String)
    {requester : Requester} (ready : state.phase request = .accessCreated)
    (sameGrant : requester.id = grant)
    (fresh : GoMap.get state.store.refreshTokens signature = none) :
    Sound grant presented
      ({ state with
          store := state.store.createRefreshTokenSession signature
            accessTokenSignature requester }.advance request .refreshed) := by
  have holder : Pending state request := by
    unfold Pending
    rw [ready]
    rfl
  have noneActive : ∀ other, ¬Active grant state.store other :=
    fun other active => sound.exclusive.free ⟨other, active⟩ request holder
  have kept : ∀ other, Stored grant state.store other →
      ¬Active grant
        (state.store.createRefreshTokenSession signature
          accessTokenSignature requester) other := by
    intro other stored active
    rcases (active_create_iff accessTokenSignature sameGrant other).mp active
      with same | before
    · exact (stored.create accessTokenSignature requester fresh).1 same.symm
    · exact noneActive other before
  have known : Stored grant state.store (presented request) :=
    sound.known request (by rw [ready]; rfl)
  refine sound.advance
    (fun _ stored => (stored.create accessTokenSignature requester fresh).2)
    (fun other stored active => absurd active (kept other stored)) ?_
    (sound.exclusive.release holder fun other pending => ?_)
    (fun _ => (known.create accessTokenSignature requester fresh).2)
    (fun _ => kept _ known)
  · rw [MemoryStore.refreshRegistry_createRefreshTokenSession]
    refine sound.covered.create fun other live => ?_
    rw [sameGrant] at live
    exact absurd live (noneActive other)
  · rcases pending_advance pending with ⟨-, moved⟩ | ⟨different, before⟩
    · cases moved
    · exact ⟨before, different⟩

theorem sound_step {grant : String} {presented : ι → String}
    {before after : State ι} {action : Action ι}
    (sound : Sound grant presented before)
    (undisturbed : Undisturbed presented before action)
    (step : Step grant presented before action after) :
    Sound grant presented after := by
  cases step with
  | get request idle active => exact sound_get sound request active
  | getFailed request idle inactive =>
      exact sound_failed sound request (fun _ => id) (fun _ => id)
        sound.covered
  | rotate request store failure got returned =>
      obtain rfl : (before.store.rotateRefreshToken grant
          (presented request)).1 = store := congrArg Prod.fst returned
      split
      · exact sound_rotate sound request got undisturbed
      · exact sound_failed sound request
          (fun _ stored => stored.rotate grant _)
          (fun _ active => active_of_active_rotate active)
          (covered_rotate sound.covered)
  | createAccess request signature requester ready sameGrant =>
      exact sound_createAccess sound request signature requester ready
  | createRefresh request signature accessTokenSignature requester ready
      sameGrant fresh =>
      exact sound_createRefresh sound request accessTokenSignature ready
        sameGrant fresh

/-! ## Runs -/

/-- A grant that has just received its first refresh token. -/
def State.initial (base : MemoryStore)
    (signature accessTokenSignature : String) (requester : Requester) :
    State ι :=
  { store := base.createRefreshTokenSession signature accessTokenSignature
      requester
    phase := fun _ => .idle }

omit [DecidableEq ι] in
theorem sound_initial {base : MemoryStore} {requester : Requester}
    (presented : ι → String) (signature accessTokenSignature : String)
    (unused : base.refreshRegistry.Clear requester.id) :
    Sound requester.id presented
      (State.initial base signature accessTokenSignature requester) := by
  refine ⟨?_, ?_, ?_, ?_⟩
  · unfold State.initial
    rw [MemoryStore.refreshRegistry_createRefreshTokenSession]
    have empty : base.refreshRegistry.Covered requester.id :=
      fun key live => absurd live (unused key)
    exact empty.create fun other live => absurd live (unused other)
  · constructor <;> simp [Pending, State.initial, Phase.pending]
  · intro request read
    cases read
  · intro request rotated
    cases rotated

theorem sound_of_run {presented : ι → String} {base : MemoryStore}
    {signature accessTokenSignature : String} {requester : Requester}
    (unused : base.refreshRegistry.Clear requester.id)
    {actions : List (Action ι)} {state : State ι}
    (run : Run (Guarded (Undisturbed presented)
        (Step requester.id presented))
      (State.initial base signature accessTokenSignature requester)
      actions state) : Sound requester.id presented state := by
  refine run.invariant (Sound requester.id presented) ?_
    (sound_initial presented signature accessTokenSignature unused)
  rintro before action after - held ⟨undisturbed, step⟩
  exact sound_step held undisturbed step

/-- When every rotation finds the presented token still active, at most one
refresh token of the grant is ever active, a rotation leaves the presented
token inactive, and it stays so. -/
theorem one_active_token (presented : ι → String) (base : MemoryStore)
    (signature accessTokenSignature : String) (requester : Requester)
    (unused : base.refreshRegistry.Clear requester.id)
    (actions : List (Action ι)) (state : State ι)
    (run : Run (Guarded (Undisturbed presented)
        (Step requester.id presented))
      (State.initial base signature accessTokenSignature requester)
      actions state) :
    (∀ first second, Active requester.id state.store first →
      Active requester.id state.store second → first = second) ∧
    (∀ request after,
      Guarded (Undisturbed presented) (Step requester.id presented)
        state (.rotate request) after →
      Inactive after.store (presented request)) ∧
    ∀ request, (state.phase request).hasRotated = true →
      Inactive state.store (presented request) := by
  have sound := sound_of_run unused run
  refine ⟨fun first second left right => ?_, ?_, fun request rotated => ?_⟩
  · have sameSlot := (sound.covered first left).symm.trans
      (sound.covered second right)
    exact Option.some.inj sameSlot
  · rintro request after ⟨-, step⟩
    cases step with
    | rotate _ store failure got returned =>
        obtain rfl : (state.store.rotateRefreshToken requester.id
            (presented request)).1 = store := congrArg Prod.fst returned
        have known := sound.known request (by rw [got]; rfl)
        exact (known.rotate requester.id _).inactive
          (not_active_rotate sound.covered _ _)
  · have known := sound.known request (Phase.hasRead_of_hasRotated rotated)
    exact known.inactive (sound.spent request rotated)

def sampleRequester : Requester :=
  { (default : Requester) with id := "r" }

/-- One refresh, alone. -/
theorem one_active_token_alone :
    ∃ state : State Unit,
      Run (Guarded (Undisturbed fun _ => "old")
            (Step "r" fun _ => "old"))
          (State.initial MemoryStore.empty "old" "access" sampleRequester)
          [.get (), .rotate (), .createAccess () "access1" sampleRequester,
            .createRefresh () "new" "access1" sampleRequester]
          state ∧
        Active "r" state.store "new" ∧
        (∀ other, Active "r" state.store other → other = "new") ∧
        Inactive state.store "old" := by
  obtain ⟨state, run, active, refreshed⟩ : ∃ state : State Unit,
      Run (Guarded (Undisturbed fun _ => "old")
            (Step "r" fun _ => "old"))
          (State.initial MemoryStore.empty "old" "access" sampleRequester)
          [.get (), .rotate (), .createAccess () "access1" sampleRequester,
            .createRefresh () "new" "access1" sampleRequester]
          state ∧
        Active "r" state.store "new" ∧ state.phase () = .refreshed :=
    ⟨_, .cons ⟨trivial, .get _ () rfl ⟨sampleRequester, rfl, rfl⟩⟩
      (.cons ⟨rfl, .rotate _ () _ _ rfl rfl⟩
        (.cons ⟨trivial, .createAccess _ () _ _ rfl rfl⟩
          (.cons ⟨trivial, .createRefresh _ () _ _ _ rfl rfl rfl⟩
            (.nil _)))), rfl, rfl⟩
  obtain ⟨unique, -, spent⟩ := one_active_token (fun _ => "old")
    MemoryStore.empty "old" "access" sampleRequester
    (by intro key live; cases live) _ state run
  exact ⟨state, run, active, fun other live => unique other "new" live active,
    spent () (by rw [refreshed]; rfl)⟩

/-- Two requests present the same token, and a third one the token that the
first of them will create. -/
def contended (request : Fin 3) : String :=
  if request = 2 then "new1" else "old"

/-- Two requests that both read the token before either rotates it leave two
active tokens, and a later rotation of the first one revokes the second. -/
theorem two_active_tokens_interleaved :
    ∃ middle state : State (Fin 3),
      Run (Step "r" contended)
          (State.initial MemoryStore.empty "old" "access" sampleRequester)
          [.get 0, .get 1, .rotate 0, .rotate 1,
            .createAccess 0 "access1" sampleRequester,
            .createRefresh 0 "new1" "access1" sampleRequester,
            .createAccess 1 "access2" sampleRequester,
            .createRefresh 1 "new2" "access2" sampleRequester]
          middle ∧
        Active "r" middle.store "new1" ∧ Active "r" middle.store "new2" ∧
        Run (Step "r" contended) middle
          [.get 2, .rotate 2] state ∧
        state.phase 2 = .rotated ∧ Active "r" state.store "new1" := by
  refine ⟨_, _,
    .cons (.get _ 0 rfl ⟨sampleRequester, rfl, rfl⟩)
      (.cons (.get _ 1 rfl ⟨sampleRequester, rfl, rfl⟩)
        (.cons (.rotate _ 0 _ _ rfl rfl)
          (.cons (.rotate _ 1 _ _ rfl rfl)
            (.cons (.createAccess _ 0 _ _ rfl rfl)
              (.cons (.createRefresh _ 0 _ _ _ rfl rfl rfl)
                (.cons (.createAccess _ 1 _ _ rfl rfl)
                  (.cons (.createRefresh _ 1 _ _ _ rfl rfl rfl)
                    (.nil _)))))))),
    rfl, rfl,
    .cons (.get _ 2 rfl ⟨sampleRequester, rfl, rfl⟩)
      (.cons (.rotate _ 2 _ _ rfl rfl) (.nil _)),
    rfl, rfl⟩

end Kubauth.RefreshRotation
