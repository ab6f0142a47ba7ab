import UniverEscrow.Backend.EscrowController
import UniverEscrow.Backend.PaymentController

/-!
# The requests of a tenant

What a tenant can ask for through the routes of escrows and handshakes, each with what the clock,
the random generator and the outside services give it.  `tenantAuth` hands over the tenant's id;
the routes that read an escrow go without.
-/

namespace UniverEscrow.Backend

open UniverEscrow.Js UniverEscrow.Merkle UniverEscrow.Lib

/-- The documents and the rows of all tenants. -/
structure TenantStore where
  escrows : Escrows
  handshakes : Handshakes

structure TenantPlatform where
  api : EscrowApi
  sha256 : Sha256
  jsonParse : JsonParse
  errors : CreateErrors
  tenantExists : String → Bool

/-- The routes of one escrow that change it. -/
inductive EscrowRoute where
  | lock
  | release
  | refund
  | dispute
deriving DecidableEq

inductive TenantRequest where
  | createEscrow (uuid : String) (createdAtMs : ℤ) (body : JsValue)
  | getEscrow (escrowId : String) (nowMs : ℤ)
  | getTenantEscrows (tenantId : String)
  | onEscrow (route : EscrowRoute) (request : EscrowRequest)
  | createHandshake (nextId : ℕ) (escrowUuid uuid : String) (body : JsValue)
  | verifyAsset (id : String) (hasImage : Bool) (model : (expectedItem : String) → ModelAnswer)
  | create (nextId : ℕ) (uuid : String) (n : Fin 1000000) (body : JsValue)
  | verify (request : VerifyHandshakeRequest)

/-- What a reply that reports success shows. -/
inductive Body where
  | escrow (escrow : Escrow)
  | checkedEscrow (checked : CheckedEscrow)
  | escrows (escrows : List Escrow)
  | openedHandshake (opened : OpenedHandshake)
  | verifiedAsset (reply : VerifyAssetReply)
  | createdHandshake (created : CreatedHandshake)
  | handshake (row : PayoutHandshake)

/-- The tenants whose documents or rows a body shows. -/
def Body.tenants : Body → List String
  | .escrow e => [e.tenantId]
  | .checkedEscrow checked => [checked.escrow.tenantId]
  | .escrows es => es.map Escrow.tenantId
  | .openedHandshake opened => [opened.created.tenantId]
  | .verifiedAsset _ => []
  | .createdHandshake created => [created.handshake.tenantId]
  | .handshake row => [row.tenantId]

/-! ## The answers -/

def EscrowRoute.handler : EscrowRoute → EscrowApi → EscrowRequest → Escrows →
    Escrows × Reply Escrow
  | .lock => EscrowController.lockEscrow
  | .release => EscrowController.releaseEscrow
  | .refund => EscrowController.refundEscrow
  | .dispute => EscrowController.disputeEscrow

/-- What a handler of escrows leaves behind and replies. -/
def TenantStore.afterEscrows {α : Type} (store : TenantStore) (body : α → Body)
    (result : Escrows × Reply α) : TenantStore × Reply Body :=
  ({ store with escrows := result.1 }, result.2.map body)

def TenantStore.afterHandshakes {α : Type} (store : TenantStore) (body : α → Body)
    (result : Handshakes × Reply α) : TenantStore × Reply Body :=
  ({ store with handshakes := result.1 }, result.2.map body)

/-- The rows after a handler, which an error leaves as they are. -/
def orUnchanged {α : Type} (handshakes : Handshakes) (result : Reply (Handshakes × α)) :
    Handshakes × Reply α :=
  match result with
  | .ok (after, a) => (after, .ok a)
  | .error e => (handshakes, .error e)

variable (platform : TenantPlatform) (tenant : String)

/-- The answer to a request of the tenant. -/
def respond (store : TenantStore) : TenantRequest → TenantStore × Reply Body
  | .createEscrow uuid createdAtMs body =>
      store.afterEscrows .escrow
        (EscrowController.createEscrow (some tenant) uuid createdAtMs body store.escrows)
  | .getEscrow escrowId nowMs =>
      (store, (EscrowController.getEscrow platform.api nowMs escrowId store.escrows).map
        .checkedEscrow)
  | .getTenantEscrows tenantId =>
      (store, (EscrowController.getTenantEscrows tenantId store.escrows).map .escrows)
  | .onEscrow route request =>
      store.afterEscrows .escrow (route.handler platform.api request store.escrows)
  | .createHandshake nextId escrowUuid uuid body =>
      store.afterHandshakes .openedHandshake (orUnchanged store.handshakes
        (HandshakeController.createHandshake platform.errors platform.tenantExists nextId escrowUuid
          uuid (some tenant) body store.handshakes))
  | .verifyAsset id hasImage model =>
      store.afterHandshakes .verifiedAsset (Backend.verifyAsset platform.jsonParse
        ⟨id, hasImage, some tenant, model⟩ store.handshakes)
  | .create nextId uuid n body =>
      store.afterHandshakes .createdHandshake (orUnchanged store.handshakes
        (PaymentController.create platform.sha256 platform.errors platform.tenantExists nextId uuid
          n body store.handshakes))
  | .verify request =>
      store.afterHandshakes .handshake (orUnchanged store.handshakes
        (PaymentController.verify platform.sha256 request store.handshakes))

end UniverEscrow.Backend
