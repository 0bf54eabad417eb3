import Mathlib
import Parley.Document.Format
import Parley.Proofs.Document.Completion
import Parley.Proofs.Document.Values

/-!
# Documents written in JSON

A document is read back from its JSON with what JSON keeps of its floating-point numbers, and otherwise as it was written,
if there is room for its contexts inside the three containers around them: the document, the group and the entry.
-/

namespace Parley

namespace Json

variable {α β : Type}

theorem seenItems_map
    (write : α → Json)
    (entries : List α) :
    seenItems (entries.map write) = entries.map fun entry => (write entry).seen := by
  induction entries with
  | nil => rfl
  | cons entry rest inductionHypothesis => rw [List.map_cons, seenItems, inductionHypothesis, List.map_cons]

/-- The room that the neediest of some values needs. -/
def mostNeeded (needed : α → Nat) (entries : List α) : Nat := (entries.map needed).foldr max 0

theorem mostNeeded_le_iff
    {needed : α → Nat}
    {entries : List α}
    {room : Nat} :
    mostNeeded needed entries ≤ room ↔ ∀ entry ∈ entries, needed entry ≤ room := by
  induction entries with
  | nil => simp [mostNeeded]
  | cons entry rest inductionHypothesis =>
      rw [List.forall_mem_cons, ← inductionHypothesis, ← max_le_iff]
      rfl

namespace Decoder

variable {write : α → Json} {entries : List α} {reading : α → β} {needed : α → Nat} {read : Decoder β}

theorem list_seen
    (inside : ∀ entry ∈ entries, ∀ room, read room (write entry).seen = inRoom (needed entry) room (reading entry))
    (room : Nat) :
    list read room (Json.array (entries.map write)).seen =
      inRoom (mostNeeded needed entries + 1) room (entries.map reading) := by
  rw [seen, list, seenItems_map]
  refine within_inRoom fun room => ?_
  have all : (entries.map fun entry => (write entry).seen).mapM (read room) =
      inRoom (mostNeeded needed entries) room (entries.map reading) := by
    induction entries with
    | nil => rfl
    | cons entry rest inductionHypothesis =>
        obtain ⟨first, further⟩ := List.forall_mem_cons.mp inside
        rw [List.map_cons, List.mapM_cons, first, inductionHypothesis further]
        exact inRoom_bind (inRoom_bind_ok rfl)
  rw [all]
  exact inRoom_bind_ok rfl

theorem context_seen
    (context : Context)
    (room : Nat) :
    Decoder.context room context.toJson.seen = inRoom context.depth room (context.recast kept) := by
  rw [Context.toJson, seen, Decoder.context]
  refine within_inRoom fun room => ?_
  rw [Value.anyFields_seen context.fields]
  exact inRoom_bind_ok (congrArg Except.ok (Context.ofFields_fields (context.recast kept)))

/-- A member that is read into a field needs the room that its value does, and then the other members theirs. -/
theorem recordMembers_cons
    {fields : List (Field α)}
    {label : String}
    {name : List Char}
    {put : β → α → α}
    {value : Outline}
    {content : β}
    {rest : List (Option (List Char) × Outline)}
    {met : List String}
    {record result : α}
    {room own others : Nat}
    (known : fields.find? (fun field => field.name.toList == name) = some (.of label read put))
    (first : met.contains label = false)
    (reads : read room value = inRoom own room content)
    (further : recordMembers fields room (put content record) (label :: met) rest = inRoom others room result) :
    recordMembers fields room record met ((some name, value) :: rest) = inRoom (max own others) room result := by
  rw [recordMembers, known]
  simp only [Field.of, first, reads, map_inRoom]
  exact inRoom_bind further

/-- A record needs room for itself and for its members. -/
theorem record_inRoom
    {fields : List (Field α)}
    {members : List (Option (List Char) × Outline)}
    {defaults result : α}
    {inside : Nat}
    (reads : ∀ room, recordMembers fields room defaults [] members = inRoom inside room result)
    (room : Nat) :
    record fields defaults room (.object members none) = inRoom (inside + 1) room result := by
  rw [record]
  refine within_inRoom fun room => ?_
  rw [reads]
  exact inRoom_bind_ok rfl

theorem ofJson_string
    (content : String)
    (room : Nat) :
    WrittenId.ofJson room (ofString content).seen = inRoom 0 room (.text content) := by
  rw [ofString, seen, WrittenId.ofJson, String.ofList_toList]
  rfl

theorem optional_string
    (content : String)
    (room : Nat) :
    optional WrittenId.ofJson room (ofString content).seen = inRoom 0 room (some (.text content)) :=
  congrArg (Except.map some) (ofJson_string content room)

theorem optional_text
    (content : String)
    (room : Nat) :
    optional text room (ofString content).seen = inRoom 0 room (some content) := by
  have read : text room (ofString content).seen = .ok content := by
    rw [ofString, seen, text, String.ofList_toList]
  exact congrArg (Except.map some) read

theorem optional_list
    (inside : ∀ entry ∈ entries, ∀ room, read room (write entry).seen = inRoom (needed entry) room (reading entry))
    (room : Nat) :
    optional (list read) room (Json.array (entries.map write)).seen =
      inRoom (mostNeeded needed entries + 1) room (some (entries.map reading)) :=
  (congrArg (Except.map some) (list_seen inside room)).trans (map_inRoom some)

theorem optional_strings
    (contents : List String)
    (room : Nat) :
    optional (list WrittenId.ofJson) room (Json.array (contents.map ofString)).seen =
      inRoom 1 room (some (contents.map .text)) := by
  have nothing : mostNeeded (fun _ => 0) contents = 0 := Nat.le_zero.mp (mostNeeded_le_iff.mpr fun _ _ => le_rfl)
  have inside (content : String) (_ : content ∈ contents) (room : Nat) :
      WrittenId.ofJson room (ofString content).seen = inRoom 0 room (.text content) := ofJson_string content room
  have read := optional_list inside room
  rwa [nothing] at read

theorem optional_context
    (context : Context)
    (room : Nat) :
    optional Decoder.context room context.toJson.seen =
      inRoom context.depth room (some (context.recast kept)) :=
  (congrArg (Except.map some) (context_seen context room)).trans (map_inRoom some)

end Decoder
end Json

namespace PartialDocument

open Json Json.Decoder

theorem sceneOfJson_seen
    (scene : Scene)
    (room : Nat) :
    sceneOfJson room (Document.sceneJson scene).seen =
      inRoom (scene.context.depth + 1) room (.of (scene.mapContext (Context.recast kept))) := by
  -- For each member in turn: its name finds the decoder, it was not met before, and its value is read.
  have read : sceneOfJson room (Document.sceneJson scene).seen =
      inRoom (max 0 (max 0 (max scene.context.depth 0)) + 1) room
        (.of (scene.mapContext (Context.recast kept))) :=
    record_inRoom (fun room => recordMembers_cons rfl rfl (optional_string scene.id room)
      (recordMembers_cons rfl rfl (optional_string scene.start room)
        (recordMembers_cons rfl rfl (optional_context _ room) rfl))) room
  simpa using read

theorem dialogueOfJson_seen
    (dialogue : Dialogue)
    (room : Nat) :
    dialogueOfJson room (Document.dialogueJson dialogue).seen =
      inRoom (dialogue.context.depth + 1) room (.of (dialogue.mapContext (Context.recast kept))) := by
  have read : dialogueOfJson room (Document.dialogueJson dialogue).seen =
      inRoom (max 0 (max 0 (max 1 (max dialogue.context.depth 0))) + 1) room
        (.of (dialogue.mapContext (Context.recast kept))) :=
    record_inRoom (fun room => recordMembers_cons rfl rfl (optional_string dialogue.id room)
      (recordMembers_cons rfl rfl (optional_text dialogue.text room)
        (recordMembers_cons rfl rfl (optional_strings dialogue.actions room)
          (recordMembers_cons rfl rfl (optional_context _ room) rfl)))) room
  have positive : 1 ≤ dialogue.context.depth := Nat.le_add_left _ _
  simpa [positive] using read

theorem actionOfJson_seen
    (action : Action)
    (room : Nat) :
    actionOfJson room (Document.actionJson action).seen =
      inRoom (action.context.depth + 1) room (.of (action.mapContext (Context.recast kept))) := by
  obtain ⟨id, owner, next, reply, context⟩ := action
  have read : actionOfJson room (Document.actionJson ⟨id, owner, next, reply, context⟩).seen =
      inRoom (max 0 (max 0 (max 0 (max context.depth 0))) + 1) room
        (.of (Action.mapContext (Context.recast kept) ⟨id, owner, next, reply, context⟩)) := by
    cases reply with
    | none =>
        exact record_inRoom (fun room => recordMembers_cons rfl rfl (optional_string id room)
          (recordMembers_cons rfl rfl (optional_string owner room)
            (recordMembers_cons rfl rfl (optional_string next.text room)
              (recordMembers_cons rfl rfl (optional_context _ room) rfl)))) room
    | some text =>
        exact record_inRoom (fun room => recordMembers_cons rfl rfl (optional_string id room)
          (recordMembers_cons rfl rfl (optional_string owner room)
            (recordMembers_cons rfl rfl (optional_string next.text room)
              (recordMembers_cons rfl rfl (optional_context _ room)
                (recordMembers_cons rfl rfl (optional_text text room) rfl))))) room
  simpa using read

/-- The room that a document needs: for itself, for its groups, and for the contexts in their entries. -/
def jsonRoom (document : Document) : Nat :=
  max (mostNeeded (fun scene => scene.context.depth + 1) document.scenes + 1)
    (max (mostNeeded (fun dialogue => dialogue.context.depth + 1) document.dialogues + 1)
      (max (mostNeeded (fun action => action.context.depth + 1) document.actions + 1) 0)) + 1

theorem ofJson_seen
    (document : Document)
    (room : Nat) :
    ofJson room document.toJson.seen =
      inRoom (jsonRoom document) room (of (document.mapContexts (Context.recast kept))) := by
  have scenes := optional_list fun scene (_ : scene ∈ document.scenes) => sceneOfJson_seen scene
  have dialogues := optional_list fun dialogue (_ : dialogue ∈ document.dialogues) => dialogueOfJson_seen dialogue
  have actions := optional_list fun action (_ : action ∈ document.actions) => actionOfJson_seen action
  have read : ofJson room document.toJson.seen = inRoom (jsonRoom document) room
      { scenes := some (document.scenes.map fun scene => .of (scene.mapContext (Context.recast kept)))
        dialogues := some (document.dialogues.map fun dialogue => .of (dialogue.mapContext (Context.recast kept)))
        actions := some (document.actions.map fun action => .of (action.mapContext (Context.recast kept))) } :=
    record_inRoom (fun room => recordMembers_cons rfl rfl (scenes room)
      (recordMembers_cons rfl rfl (dialogues room) (recordMembers_cons rfl rfl (actions room) rfl))) room
  rw [read, of, Document.mapContexts, List.map_map, List.map_map, List.map_map]
  rfl

/-- A document has the room that it needs if each of its contexts has three containers around it. -/
theorem jsonRoom_le_iff
    {document : Document} :
    jsonRoom document ≤ nestingLimit ↔ ∀ entity ∈ document.entities, entity.context.depth + 3 ≤ nestingLimit := by
  have group {α : Type} (depthOf : α → Nat) (entries : List α) :
      mostNeeded (fun entry => depthOf entry + 1) entries + 1 ≤ 126 ↔ ∀ entry ∈ entries, depthOf entry + 3 ≤ 127 := by
    refine Nat.succ_le_succ_iff.trans (mostNeeded_le_iff.trans (forall₂_congr fun entry _ => ?_))
    omega
  rw [Document.forall_mem_entities_iff, jsonRoom, nestingLimit]
  refine Nat.succ_le_succ_iff.trans ?_
  rw [max_le_iff, max_le_iff, max_le_iff, group, group, group]
  simp only [Nat.zero_le, and_true]
  rfl

end PartialDocument

/-! ## Whole texts -/

namespace Document

open Json

theorem properItems_map
    {α : Type}
    {write : α → Json}
    {entries : List α}
    (proper : ∀ entry ∈ entries, (write entry).Proper) :
    ProperItems (entries.map write) := by
  induction entries with
  | nil => trivial
  | cons entry rest inductionHypothesis =>
      obtain ⟨first, further⟩ := List.forall_mem_cons.mp proper
      exact ⟨first, inductionHypothesis further⟩

theorem proper_toJson
    (document : Document) :
    document.toJson.Proper := by
  have context (context : Context) : context.toJson.Proper := Value.proper_fieldsToJson context.fields
  refine ⟨properItems_map fun scene _ => ?_, properItems_map fun dialogue _ => ?_,
    properItems_map fun action _ => ?_, trivial⟩
  · exact ⟨trivial, trivial, context scene.context, trivial⟩
  · exact ⟨trivial, trivial, properItems_map fun _ _ => trivial, context dialogue.context, trivial⟩
  · obtain ⟨id, owner, next, reply, given⟩ := action
    cases reply with
    | none => exact ⟨trivial, trivial, trivial, context given, trivial⟩
    | some text => exact ⟨trivial, trivial, trivial, context given, trivial, trivial⟩

/-- A document is read from its JSON with what JSON keeps of its numbers, or not at all if one of its contexts is nested
too deep. -/
theorem parse_json_render
    {document : Document}
    (nextLegal : ∀ action ∈ document.actions, ∀ {next}, action.next = .dialogue next → Identifier.isLegal next) :
    parse .json document.toJson.pretty =
      if ∀ entity ∈ document.entities, entity.context.depth + 3 ≤ nestingLimit then
        .ok (document.mapContexts (Context.recast kept))
      else .error (.json .malformed) := by
  have decoded : decode PartialDocument.ofJson document.toJson.pretty =
      inRoom (PartialDocument.jsonRoom document) nestingLimit (.of (document.mapContexts (Context.recast kept))) := by
    rw [decode, outline_pretty (proper_toJson document)]
    simp only [PartialDocument.ofJson_seen]
    exact inRoom_bind_ok rfl
  have stillLegal := next_legal_mapContexts nextLegal (Context.recast kept)
  rw [parse, parsePartial, decoded, inRoom]
  simp only [PartialDocument.jsonRoom_le_iff]
  split_ifs
  · simp only [Except.mapError, bind, Except.bind, PartialDocument.complete_of stillLegal]
  · rfl

end Document
end Parley
