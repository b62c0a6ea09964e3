import Kubauth.Api
import Kubauth.Run

/-!
# The signing key

Every server loads the key that signs its tokens from one secret.  A server
that finds no secret generates a key and creates the secret.  Several may do so
at the same time: the API keeps the secret of the first one, and the others
fail without having assigned the key that they generated.
-/

namespace Kubauth.Server

structure PemBlock where
  type : String
  bytes : String
  deriving Repr, DecidableEq, Inhabited

/-- A parsed PKCS8 key: an RSA key, or one of another Go type. -/
inductive AnyKey (Key : Type u) where
  | rsa (key : Key)
  | other (typeName : String)

/-- The functions of `pem` and `x509` on RSA keys.  A key that is marshalled
and encoded is decoded and parsed again. -/
structure KeyEncoding (Key : Type u) where
  decode : String → Option PemBlock
  encode : PemBlock → Except String String
  parsePKCS1PrivateKey : String → Except String Key
  parsePKCS8PrivateKey : String → Except String (AnyKey Key)
  marshalPKCS1PrivateKey : Key → String
  decode_encode : ∀ bytes text,
    encode ⟨"RSA PRIVATE KEY", bytes⟩ = .ok text →
      decode text = some ⟨"RSA PRIVATE KEY", bytes⟩
  parse_marshal : ∀ key,
    parsePKCS1PrivateKey (marshalPKCS1PrivateKey key) = .ok key

/-- How far a server is in `ensureJwtSigningKey`: before `Get`, before `Create`
with its local variables, or at its end. -/
inductive Progress (Key : Type u) where
  | starting
  | creating (priv : Key) (newKID : String) (sec : Secret)
  | returned (result : Except String Unit)

/-- The fields of a server that `ensureJwtSigningKey` assigns. -/
structure SigningServer (Key : Type u) where
  privateKey : Option Key
  keyID : String
  progress : Progress Key

section

variable {Key : Type u} (encoding : KeyEncoding Key) (key : String)

def parseBlock (block : PemBlock) : Except String Key :=
  if block.type = "RSA PRIVATE KEY" then
    match encoding.parsePKCS1PrivateKey block.bytes with
    | .error failure =>
        .error ("failed parsing PKCS1 private key from secret: " ++ failure)
    | .ok priv => .ok priv
  else if block.type = "PRIVATE KEY" then
    match encoding.parsePKCS8PrivateKey block.bytes with
    | .error failure =>
        .error ("failed parsing PKCS8 private key from secret: " ++ failure)
    | .ok (.other typeName) =>
        .error ("unsupported private key type in secret: " ++ typeName)
    | .ok (.rsa priv) => .ok priv
  else .error ("unsupported PEM block type in secret: " ++ block.type)

/-- The key and its id that a secret holds.  `key` is the namespace and name of
the secret. -/
def decodeSecret (secret : Secret) : Except String (Key × String) :=
  match GoMap.get secret.data "key.pem", GoMap.get secret.data "kid" with
  | some pemBytes, some kidBytes =>
      match encoding.decode pemBytes with
      | none => .error ("failed to decode PEM from secret " ++ key)
      | some block =>
          match parseBlock encoding block with
          | .error failure => .error failure
          | .ok priv => .ok (priv, kidBytes)
  | _, _ => .error ("secret " ++ key ++ " missing required data keys")

def SigningServer.fail (server : SigningServer Key) (message : String) :
    SigningServer Key :=
  { server with progress := .returned (.error message) }

def SigningServer.assign (server : SigningServer Key) (priv : Key)
    (kid : String) : SigningServer Key :=
  { server with
    privateKey := some priv
    keyID := kid
    progress := .returned (.ok ()) }

/-- `ensureJwtSigningKey` from the reply of `Get` on, up to `Create` or to its
end. -/
def SigningServer.afterGet (server : SigningServer Key)
    (reply : Except ApiError Secret) (generated : Except String Key)
    (newKID : String) : SigningServer Key :=
  match reply with
  | .ok secret =>
      match decodeSecret encoding key secret with
      | .error failure => server.fail failure
      | .ok (priv, kid) => server.assign priv kid
  | .error (.other message) =>
      server.fail ("failed to load JWT signing key: " ++ message)
  | .error (.notFound _) =>
      match generated with
      | .error failure =>
          server.fail ("failed to generate RSA key: " ++ failure)
      | .ok priv =>
          match encoding.encode
              ⟨"RSA PRIVATE KEY", encoding.marshalPKCS1PrivateKey priv⟩ with
          | .error failure =>
              server.fail ("failed to encode PEM: " ++ failure)
          | .ok text =>
              { server with
                progress := .creating priv newKID
                  { data := [("key.pem", text), ("kid", newKID)] } }

/-- `ensureJwtSigningKey` from the reply of `Create` on. -/
def SigningServer.afterCreate (server : SigningServer Key)
    (reply : Except ApiError Unit) (priv : Key) (newKID : String) :
    SigningServer Key :=
  match reply with
  | .error failure =>
      server.fail ("failed creating secret: " ++ failure.message)
  | .ok () => server.assign priv newKID

end

/-! ## Servers that share a secret -/

/-- What may go wrong with a `Create` of a secret that does not exist: it is
refused, or it is carried out but the reply is lost. -/
inductive CreateFault where
  | none
  | refused (failure : ApiError)
  | unanswered (failure : ApiError)
  deriving Repr, DecidableEq

/-- What its surroundings contribute to the next API call of a server.  A
`getFault` may also be a missing secret, as a cache may be late. -/
structure Surroundings (Key : Type u) where
  getFault : Option ApiError
  generated : Except String Key
  newKID : String
  createFault : CreateFault

/-- The secret that the API holds, if any, and the servers. -/
structure Fleet (ι : Type v) (Key : Type u) where
  secret : Option Secret
  servers : ι → SigningServer Key

/-- `Get` of the secret. -/
def getSecret (key : String) (stored : Option Secret)
    (fault : Option ApiError) : Except ApiError Secret :=
  match fault, stored with
  | some failure, _ => .error failure
  | none, some secret => .ok secret
  | none, none => .error (.notFound ("secrets \"" ++ key ++ "\" not found"))

/-- `Create` of the secret: what is stored afterwards, and the reply. -/
def createSecret (key : String) (stored : Option Secret) (sec : Secret)
    (fault : CreateFault) : Option Secret × Except ApiError Unit :=
  match stored, fault with
  | some secret, _ =>
      (some secret, .error (.other ("secrets \"" ++ key ++ "\" already exists")))
  | none, .none => (some sec, .ok ())
  | none, .refused failure => (none, .error failure)
  | none, .unanswered failure => (some sec, .error failure)

section

variable {ι : Type v} [DecidableEq ι] {Key : Type u}
  (encoding : KeyEncoding Key) (key : String)

/-- A server makes its next API call and goes on to the one after it: what is
stored then, and the server.  One whose call has returned makes no other. -/
def SigningServer.next (server : SigningServer Key) (stored : Option Secret)
    (surroundings : Surroundings Key) : Option Secret × SigningServer Key :=
  match server.progress with
  | .starting =>
      (stored,
        server.afterGet encoding key
          (getSecret key stored surroundings.getFault)
          surroundings.generated surroundings.newKID)
  | .creating priv newKID sec =>
      let outcome := createSecret key stored sec surroundings.createFault
      (outcome.1, server.afterCreate outcome.2 priv newKID)
  | .returned _ => (stored, server)

/-- It is the turn of one server. -/
def Fleet.next (fleet : Fleet ι Key) (turn : ι × Surroundings Key) :
    Fleet ι Key :=
  let outcome :=
    (fleet.servers turn.1).next encoding key fleet.secret turn.2
  { secret := outcome.1
    servers := Function.update fleet.servers turn.1 outcome.2 }

/-- Any interleaving of the API calls. -/
def Fleet.run (fleet : Fleet ι Key) (turns : List (ι × Surroundings Key)) :
    Fleet ι Key :=
  turns.foldl (Fleet.next encoding key) fleet

end

/-! ## What a server holds -/

section

variable {Key : Type u} {encoding : KeyEncoding Key} {key : String}

theorem parseBlock_marshal (priv : Key) :
    parseBlock encoding
      ⟨"RSA PRIVATE KEY", encoding.marshalPKCS1PrivateKey priv⟩ = .ok priv := by
  simp only [parseBlock, if_true, encoding.parse_marshal]

/-- The secret that a server is about to create decodes to the key that the
server generated. -/
theorem decodeSecret_generated {priv : Key} {newKID text : String}
    (encoded : encoding.encode
      ⟨"RSA PRIVATE KEY", encoding.marshalPKCS1PrivateKey priv⟩ = .ok text) :
    decodeSecret encoding key
      { data := [("key.pem", text), ("kid", newKID)] } = .ok (priv, newKID) := by
  have pem : GoMap.get [("key.pem", text), ("kid", newKID)] "key.pem" =
      some text := rfl
  have kid : GoMap.get [("key.pem", text), ("kid", newKID)] "kid" =
      some newKID := rfl
  simp only [decodeSecret, pem, kid, encoding.decode_encode _ _ encoded,
    parseBlock_marshal]

/-- The fields of a server at each point of its call.  Until it succeeds it has
those that it started with, and then those of the stored secret. -/
inductive SigningServer.Sound (encoding : KeyEncoding Key) (key : String)
    (stored : Option Secret) (start : SigningServer Key) :
    SigningServer Key → Prop where
  | starting :
      SigningServer.Sound encoding key stored start
        { start with progress := .starting }
  | creating {priv : Key} {newKID : String} {sec : Secret} :
      decodeSecret encoding key sec = .ok (priv, newKID) →
      SigningServer.Sound encoding key stored start
        { start with progress := .creating priv newKID sec }
  | failed (message : String) :
      SigningServer.Sound encoding key stored start (start.fail message)
  | succeeded {secret : Secret} {priv : Key} {kid : String} :
      stored = some secret →
      decodeSecret encoding key secret = .ok (priv, kid) →
      SigningServer.Sound encoding key stored start (start.assign priv kid)

variable {stored later : Option Secret} {start server : SigningServer Key}

theorem SigningServer.Sound.mono
    (sound : SigningServer.Sound encoding key stored start server)
    (kept : ∀ secret, stored = some secret → later = some secret) :
    SigningServer.Sound encoding key later start server := by
  cases sound with
  | starting => exact .starting
  | creating decoded => exact .creating decoded
  | failed message => exact .failed message
  | succeeded found decoded => exact .succeeded (kept _ found) decoded

theorem SigningServer.Sound.afterGet (fault : Option ApiError)
    (generated : Except String Key) (newKID : String) :
    SigningServer.Sound encoding key stored start
      (({ start with progress := .starting } : SigningServer Key).afterGet
        encoding key (getSecret key stored fault) generated newKID) := by
  cases reply : getSecret key stored fault with
  | error failure =>
      cases failure with
      | other message => exact .failed _
      | notFound message =>
          unfold SigningServer.afterGet
          cases generated with
          | error failure => exact .failed _
          | ok priv =>
              cases encoded : encoding.encode
                  ⟨"RSA PRIVATE KEY",
                    encoding.marshalPKCS1PrivateKey priv⟩ with
              | error failure =>
                  simp only [encoded]
                  exact .failed _
              | ok text =>
                  simp only [encoded]
                  exact .creating (decodeSecret_generated encoded)
  | ok secret =>
      have found : stored = some secret := by
        unfold getSecret at reply
        split at reply
        · cases reply
        · cases reply
          rfl
        · cases reply
      unfold SigningServer.afterGet
      cases decoded : decodeSecret encoding key secret with
      | error failure =>
          simp only [decoded]
          exact .failed _
      | ok holds =>
          simp only [decoded]
          exact .succeeded found decoded

/-- `Create` never replaces a secret. -/
theorem createSecret_keeps (sec : Secret) (fault : CreateFault)
    (secret : Secret) (found : stored = some secret) :
    (createSecret key stored sec fault).1 = some secret := by
  rw [found]
  rfl

theorem SigningServer.Sound.afterCreate {priv : Key} {newKID : String}
    {sec : Secret}
    (decoded : decodeSecret encoding key sec = .ok (priv, newKID))
    (fault : CreateFault) :
    SigningServer.Sound encoding key (createSecret key stored sec fault).1 start
      (({ start with progress := .creating priv newKID sec } :
        SigningServer Key).afterCreate
          (createSecret key stored sec fault).2 priv newKID) := by
  cases stored with
  | some secret => exact .failed _
  | none =>
      cases fault with
      | none => exact .succeeded rfl decoded
      | refused failure => exact .failed _
      | unanswered failure => exact .failed _

theorem SigningServer.next_keeps (server : SigningServer Key)
    (surroundings : Surroundings Key) (secret : Secret)
    (found : stored = some secret) :
    (server.next encoding key stored surroundings).1 = some secret := by
  unfold SigningServer.next
  split
  · exact found
  · exact createSecret_keeps _ _ secret found
  · exact found

theorem SigningServer.Sound.next
    (sound : SigningServer.Sound encoding key stored start server)
    (surroundings : Surroundings Key) :
    SigningServer.Sound encoding key
      (server.next encoding key stored surroundings).1 start
      (server.next encoding key stored surroundings).2 := by
  cases sound with
  | starting => exact .afterGet _ _ _
  | creating decoded => exact .afterCreate decoded _
  | failed message => exact .failed message
  | succeeded found decoded => exact .succeeded found decoded

end

/-! ## Agreement -/

/-- The call of the server returned nil. -/
def SigningServer.Succeeded {Key : Type u} (server : SigningServer Key) :
    Prop :=
  server.progress = .returned (.ok ())

/-- The call of the server returned an error. -/
def SigningServer.Failed {Key : Type u} (server : SigningServer Key) : Prop :=
  ∃ message, server.progress = .returned (.error message)

section

variable {ι : Type v} {Key : Type u} {encoding : KeyEncoding Key}
  {key : String}

/-- The server holds what the secret decodes to. -/
def SigningServer.Holds (encoding : KeyEncoding Key) (key : String)
    (server : SigningServer Key) (secret : Secret) : Prop :=
  ∃ priv kid, decodeSecret encoding key secret = .ok (priv, kid) ∧
    server.privateKey = some priv ∧ server.keyID = kid

theorem SigningServer.Sound.holds {stored : Option Secret}
    {start server : SigningServer Key}
    (sound : SigningServer.Sound encoding key stored start server)
    (succeeded : server.Succeeded) :
    ∃ secret, stored = some secret ∧ server.Holds encoding key secret := by
  cases sound with
  | starting => cases succeeded
  | creating decoded => cases succeeded
  | failed message => cases succeeded
  | succeeded found decoded =>
      exact ⟨_, found, _, _, decoded, rfl, rfl⟩

theorem SigningServer.Sound.unset {stored : Option Secret}
    {start server : SigningServer Key}
    (sound : SigningServer.Sound encoding key stored start server)
    (failed : server.Failed) :
    server.privateKey = start.privateKey ∧ server.keyID = start.keyID := by
  obtain ⟨message, returned⟩ := failed
  cases sound with
  | starting => cases returned
  | creating decoded => cases returned
  | failed message => exact ⟨rfl, rfl⟩
  | succeeded found decoded => cases returned

theorem SigningServer.Holds.agree {secret : Secret}
    {first second : SigningServer Key}
    (one : first.Holds encoding key secret)
    (other : second.Holds encoding key secret) :
    first.privateKey = second.privateKey ∧ first.keyID = second.keyID := by
  obtain ⟨priv, kid, decoded, privateKey, keyID⟩ := one
  obtain ⟨otherPriv, otherKid, same, otherPrivateKey, otherKeyID⟩ := other
  rw [decoded] at same
  cases same
  exact ⟨privateKey.trans otherPrivateKey.symm, keyID.trans otherKeyID.symm⟩

/-- Every server is sound for what is stored. -/
def Fleet.Sound (encoding : KeyEncoding Key) (key : String)
    (start fleet : Fleet ι Key) : Prop :=
  ∀ i, SigningServer.Sound encoding key fleet.secret (start.servers i)
    (fleet.servers i)

/-- Servers whose call succeeded hold the stored key, those whose call failed
have not assigned any. -/
structure Fleet.Agreed (encoding : KeyEncoding Key) (key : String)
    (start fleet : Fleet ι Key) : Prop where
  stored : ∀ i, (fleet.servers i).Succeeded → ∃ secret,
    fleet.secret = some secret ∧ (fleet.servers i).Holds encoding key secret
  same : ∀ i j, (fleet.servers i).Succeeded → (fleet.servers j).Succeeded →
    (fleet.servers i).privateKey = (fleet.servers j).privateKey ∧
      (fleet.servers i).keyID = (fleet.servers j).keyID
  unset : ∀ i, (fleet.servers i).Failed →
    (fleet.servers i).privateKey = (start.servers i).privateKey ∧
      (fleet.servers i).keyID = (start.servers i).keyID

variable [DecidableEq ι]

theorem Fleet.Sound.next {start fleet : Fleet ι Key}
    (sound : Fleet.Sound encoding key start fleet)
    (turn : ι × Surroundings Key) :
    Fleet.Sound encoding key start (fleet.next encoding key turn) := by
  intro i
  unfold Fleet.next
  by_cases same : i = turn.1
  · subst same
    simp only [Function.update_self]
    exact (sound turn.1).next turn.2
  · simp only [Function.update_of_ne same]
    exact (sound i).mono (SigningServer.next_keeps _ _)

theorem Fleet.run_sound {start : Fleet ι Key}
    (started : ∀ i, (start.servers i).progress = .starting)
    (turns : List (ι × Surroundings Key)) :
    Fleet.Sound encoding key start (start.run encoding key turns) := by
  have initial : Fleet.Sound encoding key start start := by
    intro i
    have same : start.servers i =
        { start.servers i with progress := .starting } := by
      rw [← started i]
    rw [same]
    exact .starting
  apply (Run.of_foldl (Fleet.next encoding key) start turns).invariant
    (Fleet.Sound encoding key start)
  · intro before turn after _ sound taken
    rw [taken]
    exact sound.next turn
  · exact initial

/-- All servers sign with one key, however their calls interleave. -/
theorem ensureJwtSigningKey_agreed (encoding : KeyEncoding Key) (key : String)
    (start : Fleet ι Key)
    (started : ∀ i, (start.servers i).progress = .starting)
    (turns : List (ι × Surroundings Key)) :
    Fleet.Agreed encoding key start (start.run encoding key turns) := by
  have sound : Fleet.Sound encoding key start (start.run encoding key turns) :=
    Fleet.run_sound started turns
  refine ⟨fun i => (sound i).holds, ?_, fun i => (sound i).unset⟩
  intro i j first second
  obtain ⟨secret, found, held⟩ := (sound i).holds first
  obtain ⟨other, again, alsoHeld⟩ := (sound j).holds second
  rw [found] at again
  cases again
  exact held.agree alsoHeld

end

/-- Keys that are their own encodings. -/
def plainEncoding : KeyEncoding String :=
  { decode := fun text => some ⟨"RSA PRIVATE KEY", text⟩
    encode := fun block => .ok block.bytes
    parsePKCS1PrivateKey := .ok
    parsePKCS8PrivateKey := fun _ => .error "x509: unknown format"
    marshalPKCS1PrivateKey := id
    decode_encode := by
      intro bytes text encoded
      cases encoded
      rfl
    parse_marshal := fun _ => rfl }

/-- Servers that have not made any call, and no secret. -/
def newFleet : Fleet Nat String :=
  { secret := none
    servers := fun _ =>
      { privateKey := none, keyID := "", progress := .starting } }

/-- Nothing goes wrong, and the server would generate this key. -/
def generating (priv kid : String) : Surroundings String :=
  { getFault := none, generated := .ok priv, newKID := kid,
    createFault := .none }

/-- Two servers find no secret.  The second one is the first to create it, and
a third one loads it. -/
def race : List (Nat × Surroundings String) :=
  [(0, generating "p" "a"), (1, generating "q" "b"), (1, generating "" ""),
    (0, generating "" ""), (2, generating "r" "c")]

theorem ensureJwtSigningKey_agreed_race :
    Fleet.Agreed plainEncoding "ns/key" newFleet
        (newFleet.run plainEncoding "ns/key" race) ∧
      ((newFleet.run plainEncoding "ns/key" race).servers 2).privateKey =
        some "q" ∧
      ((newFleet.run plainEncoding "ns/key" race).servers 0).privateKey =
        none := by
  have agreed := ensureJwtSigningKey_agreed plainEncoding "ns/key" newFleet
    (fun _ => rfl) race
  exact ⟨agreed, (agreed.same 2 1 rfl rfl).1.trans rfl,
    (agreed.unset 0 ⟨_, rfl⟩).1⟩

end Kubauth.Server
