import Kubauth.Controllers.UpstreamProvider
import Kubauth.Server.Basic
import Mathlib.Data.List.Sort

/-!
# What the login page offers

`displayLoginResponse` fills the model of the login page.  A client that lists
upstream providers is offered those; the others are offered every upstream
that is not specific to a client, and the local login when there is none at
all.
-/

namespace Kubauth.Server

open Controllers (Event quoted)

structure UpstreamButtonModel where
  name : String
  displayName : String
  deriving Repr, DecidableEq

/-- The version and the build date, which are the same on every page, are left
out. -/
structure LoginModel where
  invalidLogin : Bool
  style : String
  upstreamButtons : List UpstreamButtonModel
  showLoginForm : Bool
  fieldsetLabel : String
  showNoProviderMessage : Bool
  showSsoCheck : Bool
  deriving Repr, DecidableEq

/-- The two variables that the loops over the upstreams fill in. -/
structure Offer where
  internal : Option Upstream
  upstreamButtons : List UpstreamButtonModel

namespace Offer

def nothing : Offer :=
  { internal := none, upstreamButtons := [] }

def button (upstream : Upstream) : UpstreamButtonModel :=
  { name := upstream.name, displayName := upstream.getDisplayName }

/-- The body of the loops: the last internal upstream wins. -/
def add (offer : Offer) (upstream : Upstream) : Offer :=
  if upstream.spec.type = .internal then
    { offer with internal := some upstream }
  else
    { offer with
      upstreamButtons := offer.upstreamButtons ++ [button upstream] }

end Offer

/-- The event for a name that no upstream is registered under. -/
def unavailableUpstream (upstreamName : String) : Event :=
  { eventType := "Warning"
    reason := "InvalidUpstreamProvider"
    message := "Referenced UpstreamProvider " ++ quoted upstreamName ++
      " is not available (unexisting or disabled)" }

/-- `sort.Slice` by name.  No two upstreams have the same one. -/
def sortByName (upstreams : List Upstream) : List Upstream :=
  upstreams.insertionSort fun first second => first.name ≤ second.name

/-- `url.QueryEscape`. -/
def queryEscape (text : String) : String :=
  let hex (digit : Nat) : Char := "0123456789ABCDEF".toList.getD digit '0'
  let escapeByte (byte : UInt8) : List Char :=
    let char := Char.ofNat byte.toNat
    if char.isAlphanum ∨ char ∈ ['-', '_', '.', '~'] then [char]
    else if char = ' ' then ['+']
    else ['%', hex (byte.toNat / 16), hex (byte.toNat % 16)]
  String.ofList (text.toUTF8.data.toList.flatMap escapeByte)

/-- What is sent instead of the page when there is nothing to choose. -/
inductive LoginResponse where
  | redirect (location : String) (status : Nat)
  | page (model : LoginModel)

namespace OidcServer

/-- The loop over the names that the client lists. -/
def offerListed (server : OidcServer) :
    List String → Offer → Offer × List Event
  | [], offer => (offer, [])
  | upstreamName :: names, offer =>
      match server.storage.getUpstream upstreamName with
      | none =>
          let (offered, events) := server.offerListed names offer
          (offered, unavailableUpstream upstreamName :: events)
      | some upstream => server.offerListed names (offer.add upstream)

/-- The loop over all the upstreams. -/
def offerGlobal (server : OidcServer) : Offer :=
  match server.storage.getUpstreams with
  | [] =>
      { Offer.nothing with
        internal :=
          some (Upstream.newInternalUpstream server.defaultLoginLabel) }
  | upstreams =>
      ((sortByName upstreams).filter fun upstream =>
        ¬upstream.spec.clientSpecific).foldl Offer.add .nothing

def offer (server : OidcServer) (client : KubauthClient) :
    Offer × List Event :=
  match client.getUpstreamProviders with
  | [] => (server.offerGlobal, [])
  | names => server.offerListed names .nothing

def populateLoginModelWithUpstreams (server : OidcServer)
    (client : KubauthClient) (model : LoginModel) :
    LoginModel × List Event :=
  let (offer, events) := server.offer client
  let buttons := offer.upstreamButtons
  ({ model with
      upstreamButtons :=
        if buttons ≠ [] then buttons else model.upstreamButtons
      showLoginForm := offer.internal.isSome ∨ model.showLoginForm
      fieldsetLabel :=
        (offer.internal.map Upstream.getDisplayName).getD model.fieldsetLabel
      showNoProviderMessage :=
        buttons = [] ∧ offer.internal.isNone ∨ model.showNoProviderMessage },
    events)

def getStyle (server : OidcServer) (clientId : String) : String :=
  if clientId = "" then server.defaultStyle
  else
    match server.storage.getKubauthClient clientId with
    | (some client, none) => client.getStyle
    | _ => server.defaultStyle

/-- The model of the login page, and the events recorded on the way. -/
def loginModel (server : OidcServer) (clientId : String)
    (invalidLogin : Bool) : LoginModel × List Event :=
  let model : LoginModel :=
    { invalidLogin := invalidLogin
      style := server.getStyle clientId
      upstreamButtons := []
      showLoginForm := false
      fieldsetLabel := ""
      showNoProviderMessage := false
      showSsoCheck := server.ssoMode = .onDemand }
  if clientId = "" then (model, [])
  else
    match server.storage.getKubauthClient clientId with
    | (some client, none) =>
        server.populateLoginModelWithUpstreams client model
    | _ => (model, [])

/-- `displayLoginResponse`: a single upstream is not asked about. -/
def displayLoginResponse (server : OidcServer) (clientId : String)
    (invalidLogin : Bool) : LoginResponse × List Event :=
  let (model, events) := server.loginModel clientId invalidLogin
  match model.upstreamButtons with
  | [button] =>
      if ¬invalidLogin ∧ ¬model.showLoginForm ∧
          ¬model.showNoProviderMessage then
        (.redirect
          ("/upstream/go?upstreamProvider=" ++ queryEscape button.name) 302,
          events)
      else (.page model, events)
  | _ => (.page model, events)

/-! ## Which upstreams are presented -/

/-- The upstreams that the page is made from: those that the client lists, or
else those that are for every client. -/
def Presents (server : OidcServer) (client : KubauthClient)
    (upstream : Upstream) : Prop :=
  match client.getUpstreamProviders with
  | [] =>
      upstream ∈ server.storage.getUpstreams ∧
        upstream.spec.clientSpecific = false
  | names =>
      ∃ name ∈ names, server.storage.getUpstream name = some upstream

end OidcServer

namespace Offer

theorem mem_foldl_add (upstreams : List Upstream) (offer : Offer) :
    (∀ shown, shown ∈ (upstreams.foldl add offer).upstreamButtons ↔
        shown ∈ offer.upstreamButtons ∨
          ∃ upstream ∈ upstreams, upstream.spec.type ≠ .internal ∧
            shown = button upstream) ∧
      ((upstreams.foldl add offer).internal.isSome ↔
        offer.internal.isSome ∨
          ∃ upstream ∈ upstreams, upstream.spec.type = .internal) := by
  induction upstreams generalizing offer with
  | nil => simp
  | cons upstream upstreams induction =>
      obtain ⟨buttons, internal⟩ := induction (offer.add upstream)
      rw [List.foldl_cons]
      by_cases kind : upstream.spec.type = .internal
      · constructor
        · intro shown
          rw [buttons]
          simp [add, kind]
        · rw [internal]
          simp [add, kind]
      · constructor
        · intro shown
          rw [buttons]
          simp [add, kind, or_assoc]
        · rw [internal]
          simp [add, kind]

end Offer

namespace OidcServer

theorem offerListed_fst (server : OidcServer) (names : List String)
    (offer : Offer) :
    (server.offerListed names offer).1 =
      (names.filterMap server.storage.getUpstream).foldl Offer.add offer := by
  induction names generalizing offer with
  | nil => rfl
  | cons name names induction =>
      cases found : server.storage.getUpstream name with
      | none => simp [offerListed, found, induction]
      | some upstream => simp [offerListed, found, induction]

/-- The buttons are the presented upstreams that are not internal, and the
form is there when one of them is internal or when there is no upstream to
choose from. -/
theorem offer_iff (server : OidcServer) (client : KubauthClient) :
    (∀ shown, shown ∈ (server.offer client).1.upstreamButtons ↔
        ∃ upstream, server.Presents client upstream ∧
          upstream.spec.type ≠ .internal ∧ shown = Offer.button upstream) ∧
      ((server.offer client).1.internal.isSome ↔
        (∃ upstream, server.Presents client upstream ∧
            upstream.spec.type = .internal) ∨
          client.getUpstreamProviders = [] ∧
            server.storage.getUpstreams = []) := by
  unfold offer Presents
  cases listed : client.getUpstreamProviders with
  | nil =>
      unfold offerGlobal
      cases registered : server.storage.getUpstreams with
      | nil => simp [Offer.nothing]
      | cons first rest =>
          have loop := Offer.mem_foldl_add
            ((sortByName (first :: rest)).filter fun upstream =>
              ¬upstream.spec.clientSpecific) .nothing
          have sorted : ∀ upstream,
              upstream ∈ sortByName (first :: rest) ↔
                upstream ∈ first :: rest := by
            intro upstream
            exact List.mem_insertionSort _
          simpa [Offer.nothing, sorted, and_assoc] using loop
  | cons first rest =>
      have loop := Offer.mem_foldl_add
        ((first :: rest).filterMap server.storage.getUpstream) .nothing
      simp only [List.mem_filterMap] at loop
      rw [← offerListed_fst] at loop
      simpa [Offer.nothing] using loop

theorem loginModel_of_client {server : OidcServer} {clientId : String}
    {client : KubauthClient} (invalidLogin : Bool) (named : clientId ≠ "")
    (registered :
      server.storage.getKubauthClient clientId = (some client, none)) :
    (server.loginModel clientId invalidLogin).1.upstreamButtons =
        (server.offer client).1.upstreamButtons ∧
      ((server.loginModel clientId invalidLogin).1.showLoginForm ↔
        (server.offer client).1.internal.isSome) := by
  unfold loginModel populateLoginModelWithUpstreams
  simp only [named, if_false, registered]
  by_cases none : (server.offer client).1.upstreamButtons = []
  · simp [none]
  · simp [none]

end OidcServer

end Kubauth.Server
