import Parley.Digraph.Walk
import Parley.Tree

/-!
# Which dialogues a conversation can come to

Dialogues are the nodes of a graph, with an edge for every listed action that exists and leads on to a dialogue that
exists.
-/

namespace Parley

/-- The dialogues that the actions listed by a dialogue lead to.  Actions and dialogues that do not exist are passed
over. -/
def Tree.successors (tree : Tree) (dialogue : String) : List String :=
  match tree.dialogues.get? dialogue with
  | none => []
  | some stored =>
    ((stored.actions.filterMap tree.actions.get?).filterMap (·.next.dialogue?)).filter tree.dialogues.contains

/-- The graph of the dialogues of a tree. -/
def Tree.graph (tree : Tree) : Digraph String := ⟨tree.dialogues.keys, tree.dialogues.nodup_keys, tree.successors⟩

namespace Integrity

/-- Whether a dialogue can be reached, and whether the conversation can come back to it. -/
inductive Reachability where
  | acyclic
  | cyclic
  | unreachable
  deriving DecidableEq, Inhabited

/-- The standing of a dialogue among the dialogues that are reached, and those of them that lie on a cycle. -/
def classify (reached looping : List String) (dialogue : String) : Reachability :=
  if !reached.contains dialogue then .unreachable
  else if looping.contains dialogue then .cyclic
  else .acyclic

end Integrity
end Parley
