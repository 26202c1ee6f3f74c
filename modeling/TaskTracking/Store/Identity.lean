import TaskTracking.Store.Entries
import TaskTracking.Text.Quoted

/-! # Task identity

  A page remembers the task it tracks by storing the task's id under a key of its own.
-/

namespace TaskTracking.Store

/-- The place of a page's task id. -/
structure Identity where
  key : String
deriving DecidableEq

namespace Identity

def load (i : Identity) : Request := .get i.key

def save (i : Identity) (taskId : String) : Request := .put i.key taskId

def clear (i : Identity) : Request := .delete i.key

/-- The task id in what was found under the key; an empty text is none. -/
def taskId? (found : Option String) : Option String := found.filter (· ≠ "")

/-- The text that describes the identity store itself, for logs. -/
def shown (i : Identity) : String :=
  "TaskIdentityStore \x7b key: " ++ Text.quoted i.key ++ ", .. \x7d"

end Identity

end TaskTracking.Store
