import Kubauth.Base64Url
import Kubauth.Server.SigningKey
import Kubauth.Server.Token

/-!
# The published keys

A server publishes the public part of the key that it signs with, as a set of
one key.  A relying party looks for the key whose id stands in the header of a
token, and reads the two numbers of the public key from their texts.  With
several servers behind one address, the set may come from another server than
the token.
-/

namespace Kubauth.Server

/-- `rsa.PublicKey`.  No key with a negative exponent is parsed or
generated. -/
structure PublicKey where
  N : Nat
  E : Nat
  deriving Repr, DecidableEq

abbrev Jwk := GoMap String String

abbrev Jwks := GoMap String (List Jwk)

section

variable {Key : Type u} (publicOf : Key → PublicKey)

/-- `handleJWKS`.  Without a private key it panics. -/
def SigningServer.handleJWKS (server : SigningServer Key) : Option Jwks :=
  match server.privateKey with
  | none => none
  | some privateKey =>
      let publicKey := publicOf privateKey
      let nBytes := Base64Url.bigEndian publicKey.N
      let eBytes := Base64Url.bigEndian publicKey.E
      let jwk :=
        [("kty", "RSA"), ("use", "sig"), ("alg", "RS256"),
          ("kid", server.keyID), ("n", Base64Url.encode nBytes),
          ("e", Base64Url.encode eBytes)]
      some [("keys", [jwk])]

/-- `Setup` up to the composition of the OAuth2 library, as far as its call of
`ensureJwtSigningKey` has returned. -/
def OidcServer.setup (server : OidcServer) (signing : SigningServer Key) :
    Option (Except String OidcServer) :=
  match signing.progress with
  | .starting => none
  | .creating _ _ _ => none
  | .returned (.error failure) =>
      some (.error ("failed to load/generate JWT signing key: " ++ failure))
  | .returned (.ok ()) => some (.ok { server with keyID := signing.keyID })

end

/-! ## The reader of a set -/

def readNumber (text : String) : Option Nat :=
  (Base64Url.decode text).map Base64Url.ofBigEndian

theorem readNumber_encode (number : Nat) :
    readNumber (Base64Url.encode (Base64Url.bigEndian number)) =
      some number := by
  rw [readNumber, Base64Url.decode_encode, Option.map_some,
    Base64Url.ofBigEndian_bigEndian]

/-- The RSA key that an entry describes. -/
def Jwk.publicKey (jwk : Jwk) : Option PublicKey :=
  if GoMap.get jwk "kty" = some "RSA" then
    match (GoMap.get jwk "n").bind readNumber,
        (GoMap.get jwk "e").bind readNumber with
    | some N, some E => some ⟨N, E⟩
    | _, _ => none
  else none

/-- The key that a relying party checks a signature with, given the header of
the token. -/
def Jwks.verificationKey (jwks : Jwks) (kid : String) : Option PublicKey :=
  (((GoMap.get jwks "keys").getD []).find? fun jwk =>
    GoMap.get jwk "kid" = some kid).bind Jwk.publicKey

section

variable {Key : Type u}

theorem SigningServer.handleJWKS_verificationKey
    (publicOf : Key → PublicKey) {server : SigningServer Key}
    {priv : Key} (held : server.privateKey = some priv) :
    ∃ jwks, server.handleJWKS publicOf = some jwks ∧
      jwks.verificationKey server.keyID = some (publicOf priv) ∧
      ∀ kid, kid ≠ server.keyID → jwks.verificationKey kid = none := by
  refine ⟨_, by rw [SigningServer.handleJWKS, held], ?_, ?_⟩
  · simp [Jwks.verificationKey, Jwk.publicKey, GoMap.get, readNumber_encode]
  · intro kid different
    simp [Jwks.verificationKey, GoMap.get, different.symm]

theorem OidcServer.setup_eq_ok {server running : OidcServer}
    {signing : SigningServer Key}
    (up : server.setup signing = some (.ok running)) :
    signing.Succeeded ∧ running = { server with keyID := signing.keyID } := by
  unfold OidcServer.setup at up
  split at up
  · cases up
  · cases up
  · cases up
  · next returned =>
      cases up
      exact ⟨returned, rfl⟩

end

/-! ## Any server's set for any server's tokens -/

section

variable {ι : Type v} [DecidableEq ι] {Key : Type u}

/-- The set lists, under the id that stands in the header of every session of
the server, the public part of the key, and nothing under another id. -/
structure Verifies (jwks : Jwks) (server : OidcServer) (published : PublicKey) :
    Prop where
  session : ∀ now user clientId,
    jwks.verificationKey (server.newSession now user clientId).kid =
      some published
  password : ∀ now user clientId,
    jwks.verificationKey
        (server.passwordGrantHandler.createSessionWithUserClaims now user
          clientId).kid = some published
  only : ∀ kid, kid ≠ server.keyID → jwks.verificationKey kid = none

/-- A token of one server is checked with the set of any other, however the
servers came up. -/
theorem handleJWKS_verifies (encoding : KeyEncoding Key) (key : String)
    (publicOf : Key → PublicKey) (start : Fleet ι Key)
    (started : ∀ i, (start.servers i).progress = .starting)
    (turns : List (ι × Surroundings Key)) (settings : ι → OidcServer)
    {i j : ι} {issuing publishing : OidcServer}
    (issues : (settings i).setup ((start.run encoding key turns).servers i) =
      some (.ok issuing))
    (publishes :
      (settings j).setup ((start.run encoding key turns).servers j) =
        some (.ok publishing)) :
    ∃ priv jwks,
      ((start.run encoding key turns).servers i).privateKey = some priv ∧
      ((start.run encoding key turns).servers j).handleJWKS publicOf =
        some jwks ∧
      Verifies jwks issuing (publicOf priv) := by
  have sound : Fleet.Sound encoding key start (start.run encoding key turns) :=
    Fleet.run_sound started turns
  obtain ⟨first, rfl⟩ := OidcServer.setup_eq_ok issues
  obtain ⟨second, -⟩ := OidcServer.setup_eq_ok publishes
  obtain ⟨secret, found, held⟩ := (sound i).holds first
  obtain ⟨other, again, alsoHeld⟩ := (sound j).holds second
  rw [found] at again
  cases again
  -- both servers decoded the one secret that the API holds
  obtain ⟨sameKey, sameId⟩ := held.agree alsoHeld
  obtain ⟨priv, kid, -, signs, -⟩ := held
  obtain ⟨jwks, answered, listed, only⟩ :=
    SigningServer.handleJWKS_verificationKey publicOf
      (sameKey.symm.trans signs)
  rw [← sameId] at listed only
  exact ⟨priv, jwks, signs, answered, fun _ _ _ => listed,
    fun _ _ _ => listed, only⟩

end

/-- A public key that tells the keys of `race` apart. -/
def samplePublicOf (priv : String) : PublicKey :=
  if priv = "q" then ⟨3233, 17⟩ else ⟨187, 3⟩

/-- The server of each replica. -/
def sampleReplica : OidcServer :=
  sampleServer (sampleExchange .passwordChecked) .empty

/-- The third server loaded the key that the second one created. -/
theorem handleJWKS_verifies_race :
    ∃ jwks,
      ((newFleet.run plainEncoding "ns/key" race).servers 2).handleJWKS
          samplePublicOf = some jwks ∧
        Verifies jwks { sampleReplica with keyID := "b" } ⟨3233, 17⟩ := by
  have issues : sampleReplica.setup
      ((newFleet.run plainEncoding "ns/key" race).servers 1) =
        some (.ok { sampleReplica with keyID := "b" }) := rfl
  have publishes : sampleReplica.setup
      ((newFleet.run plainEncoding "ns/key" race).servers 2) =
        some (.ok { sampleReplica with keyID := "b" }) := rfl
  obtain ⟨priv, jwks, signs, answered, verifies⟩ :=
    handleJWKS_verifies plainEncoding "ns/key" samplePublicOf newFleet
      (fun _ => rfl) race (fun _ => sampleReplica) issues publishes
  cases signs
  exact ⟨jwks, answered, verifies⟩

end Kubauth.Server
