import Parley.Entity
import Parley.Script.Position

/-!
# Statements of a script

A statement creates, updates or deletes one entity.  It names the entity, except that a creation may leave the name to
the library, and it gives the entity's fields, except for a deletion.
-/

namespace Parley
namespace Script

/-- What a statement does to an entity. -/
inductive Verb where
  | create
  | update
  | delete
  deriving DecidableEq, Inhabited

namespace Verb

/-- The word for a verb. -/
def keyword : Verb → String
  | .create => "create"
  | .update => "update"
  | .delete => "delete"

/-- The verb that a word stands for. -/
def ofKeyword? : String → Option Verb
  | "create" => some .create
  | "update" => some .update
  | "delete" => some .delete
  | _ => none

end Verb

/-- The fields that a statement gives, in the order in which they are written. -/
inductive Fields where
  | scene (start : String)
  | dialogue (text : String) (actions : List String)
  | action (owner : String) (next : Next) (text : Option String)
  deriving DecidableEq, Inhabited

/-- The kind of entity that has these fields. -/
def Fields.kind : Fields → Kind
  | .scene _ => .scene
  | .dialogue _ _ => .dialogue
  | .action _ _ _ => .action

/-- The entity with these fields under an identifier. -/
def Fields.toEntity (fields : Fields) (id : String) (context : Context) : Entity :=
  match fields with
  | .scene start => .scene { id, start, context }
  | .dialogue text actions => .dialogue { id, text, actions, context }
  | .action owner next text => .action { id, owner, next, text, context }

/-- One statement. -/
structure Statement where
  /-- Its number in the script, counted from one. -/
  index : Nat
  verb : Verb
  kind : Kind
  /-- The identifier, where it is written. -/
  id : Option String
  /-- The fields, where they are written. -/
  fields : Option Fields
  /-- Where its verb stands. -/
  position : Position
  deriving DecidableEq, Inhabited

end Script
end Parley
