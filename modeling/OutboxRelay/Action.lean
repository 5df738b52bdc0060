/-!
# Actions

An action is a kind of mutation that can be replayed.  Its tag is what the writing
side stores.
-/

namespace OutboxRelay

/-- A kind of mutation that can be replayed. -/
inductive Action
  | deleteTeam
  | createAsset
  | deleteAsset
  | updateAsset
  | deleteAllAssets
  | findingOverwrite
  deriving DecidableEq, Repr

namespace Action

/-- All actions. -/
def all : List Action :=
  [deleteTeam, createAsset, deleteAsset, updateAsset, deleteAllAssets,
    findingOverwrite]

/-- The tag of an action. -/
def tag : Action → String
  | deleteTeam => "DeleteTeam"
  | createAsset => "CreateAsset"
  | deleteAsset => "DeleteAsset"
  | updateAsset => "UpdateAsset"
  | deleteAllAssets => "DeleteAllAssets"
  | findingOverwrite => "FindingOverwrite"

/-- The action with a tag. -/
def ofTag? (tag : String) : Option Action :=
  all.find? fun action => action.tag == tag

/-- Every action is found by its tag. -/
@[simp] theorem ofTag?_tag (action : Action) :
    ofTag? action.tag = some action := by
  cases action <;> decide

end Action
end OutboxRelay
