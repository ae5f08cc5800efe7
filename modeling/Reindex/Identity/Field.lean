/-!
# The fields of an identity

A client identity has four fields. Names of secrets, values of secrets and checks all come four at a
time, one for each field, so they share the shape `PerField`.
-/

namespace Reindex

/-- A field of a client identity, in the order in which they are checked. -/
inductive IdentityField where
  | tenantId
  | clientId
  /-- What proves that it is the client. -/
  | clientSecret
  /-- The application that tokens are asked for. -/
  | audience
  deriving DecidableEq, Repr

namespace IdentityField

def all : List IdentityField := [.tenantId, .clientId, .clientSecret, .audience]

def label : IdentityField → String
  | .tenantId => "tenant-id"
  | .clientId => "client-id"
  | .clientSecret => "client-secret"
  | .audience => "audience"

end IdentityField

structure PerField (α : Type) where
  tenantId : α
  clientId : α
  clientSecret : α
  audience : α
  deriving DecidableEq, Repr

namespace PerField

variable {α β : Type}

def get (p : PerField α) : IdentityField → α
  | .tenantId => p.tenantId
  | .clientId => p.clientId
  | .clientSecret => p.clientSecret
  | .audience => p.audience

/-- The values in the order of the fields. -/
def toList (p : PerField α) : List α := IdentityField.all.map p.get

def map (f : α → β) (p : PerField α) : PerField β :=
  ⟨f p.tenantId, f p.clientId, f p.clientSecret, f p.audience⟩

/-- A function of every value that can fail; the first failure counts. -/
def mapM {m : Type → Type} [Monad m] (f : α → m β) (p : PerField α) : m (PerField β) := do
  return ⟨← f p.tenantId, ← f p.clientId, ← f p.clientSecret, ← f p.audience⟩

end PerField

end Reindex
