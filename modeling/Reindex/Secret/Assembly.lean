import Reindex.Config.Basic
import Reindex.Identity.Basic
import Reindex.Secret.Error
import Reindex.Secret.Value

/-!
# Identities made of secrets

Which secret holds which field of an identity, and the identity that a batch of secrets makes up.
-/

namespace Reindex

/-- The names of the secrets that hold the fields. -/
abbrev IdentitySecretNames := PerField SecretName

/-- The names that a configuration gives. -/
def IdentitySecretNames.ofConfig (names : PerField String) :
    Except SecretError IdentitySecretNames :=
  names.mapM SecretName.create

def IdentitySecretNames.default : IdentitySecretNames where
  tenantId := ⟨defaultSecretNames.tenantId, by decide⟩
  clientId := ⟨defaultSecretNames.clientId, by decide⟩
  clientSecret := ⟨defaultSecretNames.clientSecret, by decide⟩
  audience := ⟨defaultSecretNames.audience, by decide⟩

/-- The identity that a batch of secrets makes up. -/
def ClientIdentity.ofSecrets (names : IdentitySecretNames) (secrets : ResolvedSecrets) :
    Except SecretError ClientIdentity :=
  let texts := names.map fun name => ((secrets.get? name.text).map SecretValue.reveal).getD ""
  (ClientIdentity.create texts).mapError .incomplete

end Reindex
