import Reindex.Instant
import Reindex.Sealed

/-!
# Access tokens

A token that lets its bearer in for a while. Nothing of it is printed but its length and the end of
its life.
-/

namespace Reindex

/-- A token, and when it expires if that is known. -/
structure AccessToken where
  value : Sealed
  expiresAt : Option Instant
  deriving DecidableEq

namespace AccessToken

/-- The greatest number of seconds that a lifetime can have: its milliseconds fit into 64 bits. -/
def maxLifetime : Int := 0x7FFFFFFFFFFFFFFF / 1000

/-- When something expires that has that many seconds to live; not known if it is too long. -/
def expiry? (now : Instant) (seconds : Int) : Option Instant :=
  let seconds := max seconds 0
  if seconds ≤ maxLifetime then now.addSeconds? seconds else none

/-- A token with the given number of seconds to live. -/
def expiringIn (now : Instant) (value : String) (seconds : Option Int) : AccessToken :=
  ⟨⟨value⟩, seconds.bind (expiry? now)⟩

/-- The token is of no use any more. -/
def isExpired (t : AccessToken) (now : Instant) : Bool :=
  match t.expiresAt with
  | some expiry => expiry.nanos ≤ now.nanos
  | none => false

/-- What is put into the header of a request. -/
def bearer (t : AccessToken) : String := "Bearer " ++ t.value.reveal

/-- What developers see of the end of a token's life. -/
def inspectExpiry (t : AccessToken) : String :=
  match t.expiresAt with
  | some expiry => "Some(" ++ expiry.inspect ++ ")"
  | none => "None"

/-- What developers see of a token. -/
def inspect (t : AccessToken) : String :=
  "AccessToken \x7b token: " ++ t.value.inspect ++ ", expires_at: " ++ t.inspectExpiry ++ " \x7d"

end AccessToken

end Reindex
