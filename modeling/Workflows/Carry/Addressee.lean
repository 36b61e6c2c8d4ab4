import Workflows.Config
import Workflows.Execution.Context
import Workflows.Text.Search

/-!
# Whom to ask and whom to tell

* `Audience`: approvers, or recipients of a notification;
* `Addressee.isNamed`: whether a setting names anyone;
* `Addressee.resolve`: the addresses that a setting stands for, in order of first mention.
-/

namespace Workflows

/-- What addresses are needed for. -/
inductive Audience where
  | approvers
  | recipients
  deriving DecidableEq

namespace Addressee

/-- The addresses of a list divided by commas. -/
def splitList (s : String) : List String := (Text.splitAt ',' s).filterMap Text.nonBlank?

/-- The people that an attribute of the entity names: a text with commas, or a list of texts. -/
def people (ctx : Context) (key : String) : List String :=
  match ctx.entity.get? key with
  | some (.text s) => splitList s
  | some (.list items) => items.filterMap fun v => v.text?.bind Text.nonBlank?
  | _ => []

/-- The people that an attribute names, or the fallback. -/
def peopleOr (ctx : Context) (key fallback : String) : List String :=
  match people ctx key with
  | [] => [fallback]
  | found => found

/-- The addresses that one word stands for: an alias, a list of addresses, or a group. -/
def resolveOne (ctx : Context) (fallbacks : Fallbacks) (audience : Audience) (word : String) :
    List String :=
  let word := Text.trim word
  if word.isEmpty then []
  else if word = "requester" then ctx.actor.toList
  else if word = "domain_owners" then peopleOr ctx "domain_owners" fallbacks.domainOwner
  else if word = "project_owners" then peopleOr ctx "project_owners" fallbacks.projectOwner
  else if word = "owner" ∧ audience = .recipients then people ctx "owner"
  else if word.toList.contains '@' then splitList word
  else [word]

/-- The words of a setting: a text, or a list of texts. -/
def words : Value → List String
  | .text s => [s]
  | .list items => items.filterMap Value.text?
  | _ => []

/-- `xs` without what came before in it. -/
def distinct (xs : List String) : List String :=
  xs.foldl (fun acc x => if acc.contains x then acc else acc ++ [x]) []

/-- The addresses that a setting stands for, in order of first mention. -/
def resolve (ctx : Context) (fallbacks : Fallbacks) (audience : Audience) (setting : Value) :
    List String :=
  distinct ((words setting).flatMap (resolveOne ctx fallbacks audience))

/-- Whether a setting holds a word that is not blank. -/
def isNamed (setting : Option Value) : Bool :=
  match setting with
  | none => false
  | some v => (words v).any fun w => !Text.isBlank w

end Addressee

end Workflows
