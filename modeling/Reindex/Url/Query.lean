import Reindex.Url.Basic
import Reindex.Url.Form

/-!
# Queries

Name and value pairs in the query of a URL, in form encoding.
-/

namespace Reindex.Url

def withoutQuery (u : Url) : Url := { u with query := none }

/-- The URL with pairs behind the pairs its query already has. -/
def appendPairs (u : Url) (pairs : List (String × String)) : Url :=
  match pairs with
  | [] => u
  | _ =>
    let front := match u.query with
      | some q => if q.isEmpty then "" else q ++ "&"
      | none => ""
    { u with query := some (front ++ Form.encode pairs) }

def queryPairs (u : Url) : List (String × String) := Form.decode (u.query.getD "")

end Reindex.Url
