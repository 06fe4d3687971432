import SiteCache.Node.Reply
import SiteCache.Site.Remote
import SiteCache.Url

/-!
# Nodes

A `Node` is a remote store behind a URL.  Each of its answers comes from one call over HTTP; what a
request meets (`deliver`) may depend on all requests before it.  A request that gets no reply, a
status other than success, a reply that is no record of the wanted kind, an error and a missing
result are outages.
-/

namespace SiteCache

/-- What becomes of a request. -/
inductive Delivery where
  | lost
  | reply (status : Nat) (body : Octets)

/-- A node at a URL, with the bodies of the requests sent to it, newest first. -/
structure Node where
  url : String
  nextId : Nat := 1
  sent : List Octets := []
  deliver : List Octets → Delivery

namespace Node

/-- A node that no request reaches. -/
def unreachable (url : String) : Node := { url, deliver := fun _ => .lost }

/-- A node that meets its requests with these deliveries, in order, and no request after them. -/
def scripted (url : String) (deliveries : List Delivery) : Node :=
  { url, deliver := fun sent => deliveries[sent.length - 1]?.getD .lost }

/-- The request that follows the first so many. -/
def request? (n : Node) (before : Nat) : Option Octets := n.sent.reverse[before]?

/-- Sends a request, if the URL can be asked at, and answers status and body of the reply. -/
def post (body : Octets) : Action Node (Nat × Octets) :=
  .ofStep fun n =>
    match Url.parse? n.url with
    | none => (.error (.unavailable (.unusableUrl none)), n)
    | some url =>
      let url := url.shown
      if url.isHttp && url.isSendable then
        let n := { n with sent := body :: n.sent }
        match n.deliver n.sent with
        | .lost => (.error (.unavailable (.unreachable url.text)), n)
        | .reply status answer => (.ok (status, answer), n)
      else (.error (.unavailable (.unusableUrl (some url.text))), n)

/-- The next id for a call. -/
def freshId : Action Node Nat := .ofStep fun n => (.ok n.nextId, { n with nextId := n.nextId + 1 })

/-- Makes a call whose result is read in this way. -/
def call {α : Type} (method : String) (parameters : Octets) (result? : Json → Option α) :
    Action Node α := do
  let id ← freshId
  let (status, answer) ← post (NodeCall.body ⟨id, method, parameters⟩)
  if HttpStatus.isSuccess status then
    match Reply.outcome? result? answer with
    | none => throw (.unavailable .undecodable)
    | some ⟨_, some (code, text)⟩ => throw (.unavailable (.refused method code text))
    | some ⟨some result, none⟩ => pure result
    | some ⟨none, none⟩ => throw (.unavailable (.noResult method))
  else throw (.unavailable (.status method status))

instance : Remote Node where
  values address keys :=
    if keys.isEmpty then pure []
    else
      call NodeCall.valuesMethod (NodeCall.valuesParameters address keys) (Reply.list? Reply.entry?)
  keys address := do
    let infos ← call NodeCall.keysMethod (NodeCall.keysParameters address)
      (Reply.list? Reply.addressKeys?)
    match infos with
    | keys :: _ => pure keys
    | [] => throw (.corrupt (.unlisted address))

end Node

end SiteCache
