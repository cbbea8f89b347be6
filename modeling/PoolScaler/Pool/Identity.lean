import PoolScaler.Json.Fields
set_option autoImplicit false

/-!
# Pool identities

A pool serves one repository, one organization or one enterprise.  Its identity
names the candidates; which of them counts is decided by its scope.
-/

namespace PoolScaler

/-- Whom a pool serves, and the pool's name. -/
structure Identity where
  enterprise : String
  organization : String
  /-- A repository as `owner/name`. -/
  repository : String
  poolName : String
  deriving DecidableEq, Repr, Inhabited

namespace Identity

/-- The key under which tokens of the identity's scope are kept. -/
def scopeKey (i : Identity) : String :=
  "org=" ++ i.organization ++ ",repo=" ++ i.repository ++ ",enterprise=" ++ i.enterprise

/-- The identity names nobody to serve. -/
def isUnscoped (i : Identity) : Bool :=
  i.enterprise.isEmpty && i.organization.isEmpty && i.repository.isEmpty

/-- The fields of a stored identity. -/
def fields : Json.Fields Identity :=
  Identity.mk
    <$> .defaulted "enterprise" Json.asText ""
    <*> .defaulted "organization" Json.asText ""
    <*> .defaulted "repository" Json.asText ""
    <*> .required "pool_name" Json.asText

/-- An identity as it is stored. -/
def toJson (i : Identity) : Json :=
  .object [
    ("enterprise", .str i.enterprise),
    ("organization", .str i.organization),
    ("repository", .str i.repository),
    ("pool_name", .str i.poolName)]

end Identity

end PoolScaler
