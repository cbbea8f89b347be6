import PoolScaler.Pool.Identity
import PoolScaler.Source.Fault
import PoolScaler.Text.Pieces
set_option autoImplicit false

/-!
# Scopes

The one repository, organization or enterprise that a pool serves at the job
source, and the addresses that belong to it.  A repository wins over an
organization, and an organization over an enterprise.
-/

namespace PoolScaler

/-- Whom a pool serves. -/
inductive Scope where
  /-- The runners of one repository. -/
  | repository (owner name : String)
  /-- The runners of one organization. -/
  | organization (name : String)
  /-- The runners of one enterprise. -/
  | enterprise (name : String)
  deriving DecidableEq, Repr, Inhabited

namespace Scope

/-- The parts of a text between its slashes. -/
def splitSlash (cs : List Char) : List (List Char) :=
  match cs with
  | [] => [[]]
  | '/' :: rest => [] :: splitSlash rest
  | c :: rest =>
    match splitSlash rest with
    | [] => [[c]]
    | part :: parts => (c :: part) :: parts

/-- The owner and the name of a repository: two parts with one slash between
them, neither empty. -/
def repository? (text : String) : Option Scope :=
  match splitSlash text.toList with
  | [owner, name] =>
    if owner.isEmpty || name.isEmpty then none
    else some (.repository (String.ofList owner) (String.ofList name))
  | _ => none

/-- The scope of an identity. -/
def ofIdentity (i : Identity) : Except SourceFault Scope :=
  if !i.repository.isEmpty then
    match repository? i.repository with
    | some scope => .ok scope
    | none => .error (.invalidScope
        ("invalid repository name: " ++ Text.Quoted.quote i.repository))
  else if !i.organization.isEmpty then .ok (.organization i.organization)
  else if !i.enterprise.isEmpty then .ok (.enterprise i.enterprise)
  else .error (.invalidScope "enterprise, organization and repository are all empty")

/-- The address runners of the scope are configured with. -/
def configUrl (webUrl : String) (s : Scope) : String :=
  let base := Text.trimEnd '/' webUrl
  match s with
  | .repository owner name => base ++ "/" ++ owner ++ "/" ++ name
  | .organization name => base ++ "/" ++ name
  | .enterprise name => base ++ "/enterprises/" ++ name

/-- The path of the scope's runners at the programming interface. -/
def runnersPath : Scope → String
  | .repository owner name => "/repos/" ++ owner ++ "/" ++ name ++ "/actions/runners"
  | .organization name => "/orgs/" ++ name ++ "/actions/runners"
  | .enterprise name => "/enterprises/" ++ name ++ "/actions/runners"

end Scope

end PoolScaler
