import Reindex.Identity.Field
import Reindex.Sealed

/-!
# Client identities

A client that can ask for tokens: four sealed texts, none of them blank.
-/

namespace Reindex

open Text

/-- The first field whose text is blank. -/
def firstBlank? (p : PerField String) : Option IdentityField :=
  IdentityField.all.find? fun field => isBlank (p.get field)

/-- A client that can ask for tokens. -/
structure ClientIdentity where
  given : PerField String
  complete : firstBlank? given = none

namespace ClientIdentity

/-- The identity of four texts, or the first field that is missing. -/
def create (given : PerField String) : Except IdentityField ClientIdentity :=
  match h : firstBlank? given with
  | none => .ok ⟨given, h⟩
  | some field => .error field

/-- What is wrong with an identity, in words. -/
def missingMessage (field : IdentityField) : String :=
  "Client identity is missing " ++ field.label

def tenantId (i : ClientIdentity) : String := trim i.given.tenantId

def clientId (i : ClientIdentity) : String := trim i.given.clientId

/-- The secret of the client, as it was given. -/
def clientSecret (i : ClientIdentity) : String := i.given.clientSecret

/-- The application that tokens are asked for. -/
def audience (i : ClientIdentity) : String := trim i.given.audience

/-- The scope that is asked for if there is no other. -/
def defaultScope (i : ClientIdentity) : String :=
  String.ofList (dropRightWhile (· = '/') i.audience.toList) ++ "/.default"

/-- What developers see of an identity. -/
def inspect (i : ClientIdentity) : String :=
  let shown (s : String) : String := (Sealed.mk s).inspect
  "ClientIdentity \x7b tenant_id: " ++ shown i.given.tenantId ++
    ", client_id: " ++ shown i.given.clientId ++
    ", client_secret: " ++ shown i.given.clientSecret ++
    ", audience: " ++ shown i.given.audience ++ " \x7d"

end ClientIdentity

end Reindex
