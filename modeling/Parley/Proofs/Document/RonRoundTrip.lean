import Mathlib
import Parley.Document.Format
import Parley.Proofs.Document.Completion
import Parley.Proofs.Document.Values

/-!
# Documents written in RON

A document is read back from its RON as it was written, but for the words that stand for no number, if its contexts are not
nested too deep for the eight containers and parts around them: two for the document and each field, group, entry and field
inside it.  Writing needs less room than that, as it does not count an optional value that is written without a mark.
-/

namespace Parley

namespace Ron

variable {α β : Type} {fit further : Bool} {value : α} {result : β}

/-! ## Decoders of written values -/

/-- What is read of a value that may be too deep. -/
def provided (fit : Bool) (value : α) : Option α := if fit then some value else none

theorem provided_bind
    {next : α → Option β}
    (continues : next value = provided further result) :
    (provided fit value >>= next) = provided (fit && further) result := by
  cases fit with
  | true => exact continues
  | false => rfl

theorem map_provided
    (change : α → β) :
    (provided fit value).map change = provided fit (change value) := by
  cases fit <;> rfl

namespace Decoder

variable {write : α → Ron} {entries : List α} {reading : α → β} {fitting : α → Bool} {read : Decoder β} {depth : Nat}

theorem list_write
    {depth : Nat}
    (inside : ∀ entry ∈ entries, read (depth + 2) (write entry) = provided (fitting entry) (reading entry)) :
    list read depth (.list (entries.map write)) = provided (entries.all fitting) (entries.map reading) := by
  rw [list]
  induction entries with
  | nil => rfl
  | cons entry rest inductionHypothesis =>
      obtain ⟨first, further⟩ := List.forall_mem_cons.mp inside
      rw [List.map_cons, List.mapM_cons, first, inductionHypothesis further, List.all_cons]
      exact provided_bind (by cases rest.all fitting <;> rfl)

/-- A field is read if its value is, and then the other fields are. -/
theorem recordFields_cons
    {fields : List (Field α)}
    {name : String}
    {label : List Char}
    {put : β → α → α}
    {field : Ron}
    {content : β}
    {rest : List (List Char × Ron)}
    {met : List String}
    {record result : α}
    (known : fields.find? (fun field => field.name.toList == label) = some (.of name read put))
    (first : met.contains name = false)
    (reads : read depth field = provided fit content)
    (others : recordFields fields depth (put content record) (name :: met) rest = provided further result) :
    recordFields fields depth record met ((label, field) :: rest) = provided (fit && further) result := by
  rw [recordFields, known]
  simp only [Field.of, first, reads, map_provided]
  exact provided_bind others

theorem record_write
    {fields : List (Field α)}
    {typeName : String}
    {found : List (List Char × Ron)}
    {defaults result : α}
    (reads : recordFields fields (depth + 2) defaults [] found = provided fit result) :
    record typeName fields defaults depth (.record none found) = provided fit result := reads

theorem ofRon_string
    (content : String)
    (depth : Nat) :
    WrittenId.ofRon depth (ofString content) = provided true (.text content) := by
  rw [ofString, WrittenId.ofRon, String.ofList_toList]
  rfl

theorem optional_string
    (content : String)
    (depth : Nat) :
    optional WrittenId.ofRon depth (ofString content) = provided true (some (.text content)) :=
  congrArg (Option.map some) (ofRon_string content (depth + 1))

theorem text_string
    (content : String)
    (depth : Nat) :
    text depth (ofString content) = provided true content := by
  rw [ofString, text, String.ofList_toList]
  rfl

theorem optional_text
    (content : String)
    (depth : Nat) :
    optional text depth (ofString content) = provided true (some content) :=
  congrArg (Option.map some) (text_string content (depth + 1))

theorem optional_present
    (content : String)
    (depth : Nat) :
    optional text depth (.present (ofString content)) = provided true (some content) :=
  congrArg (Option.map some) (text_string content (depth + 1))

theorem optional_list
    (depth : Nat)
    (inside : ∀ entry ∈ entries, read (depth + 3) (write entry) = provided (fitting entry) (reading entry)) :
    optional (list read) depth (.list (entries.map write)) =
      provided (entries.all fitting) (some (entries.map reading)) :=
  (congrArg (Option.map some) (list_write inside)).trans (map_provided some)

theorem optional_strings
    (contents : List String)
    (depth : Nat) :
    optional (list WrittenId.ofRon) depth (.list (contents.map ofString)) =
      provided true (some (contents.map .text)) := by
  have inside (content : String) (_ : content ∈ contents) :
      WrittenId.ofRon (depth + 3) (ofString content) = provided ((fun _ => true) content) (.text content) :=
    ofRon_string content (depth + 3)
  have read := optional_list depth inside
  rwa [List.all_eq_true.mpr fun _ _ => rfl] at read

theorem optional_context
    (context : Context)
    (depth : Nat) :
    optional Context.ofRon depth context.toRon = provided (fits (depth + 1) context.toRon) (some context) := by
  have read : Context.ofRon (depth + 1) context.toRon = provided (fits (depth + 1) context.toRon) context := by
    rw [Context.toRon, Context.ofRon, Value.entriesOfRon?_fieldsToRon context.fields, Option.map_some,
      Context.ofFields_fields]
    rfl
  exact (congrArg (Option.map some) read).trans (map_provided some)

end Decoder
end Ron

namespace PartialDocument

open Ron Ron.Decoder

theorem sceneOfRon_sceneRon
    (scene : Scene)
    (depth : Nat) :
    sceneOfRon depth (Document.sceneRon scene) = provided (fits (depth + 3) scene.context.toRon) (.of scene) := by
  -- For each field in turn: its label finds the decoder, it was not met before, and its value is read.
  have read : sceneOfRon depth (Document.sceneRon scene) =
      provided (true && (true && (fits (depth + 3) scene.context.toRon && true))) (.of scene) :=
    record_write (recordFields_cons rfl rfl (optional_string scene.id _)
      (recordFields_cons rfl rfl (optional_string scene.start _)
        (recordFields_cons rfl rfl (optional_context _ _) rfl)))
  simpa using read

theorem dialogueOfRon_dialogueRon
    (dialogue : Dialogue)
    (depth : Nat) :
    dialogueOfRon depth (Document.dialogueRon dialogue) =
      provided (fits (depth + 3) dialogue.context.toRon) (.of dialogue) := by
  have read : dialogueOfRon depth (Document.dialogueRon dialogue) =
      provided (true && (true && (true && (fits (depth + 3) dialogue.context.toRon && true)))) (.of dialogue) :=
    record_write (recordFields_cons rfl rfl (optional_string dialogue.id _)
      (recordFields_cons rfl rfl (optional_text dialogue.text _)
        (recordFields_cons rfl rfl (optional_strings dialogue.actions _)
          (recordFields_cons rfl rfl (optional_context _ _) rfl))))
  simpa using read

theorem actionOfRon_actionRon
    (action : Action)
    (depth : Nat) :
    actionOfRon depth (Document.actionRon action) = provided (fits (depth + 3) action.context.toRon) (.of action) := by
  obtain ⟨id, owner, next, reply, context⟩ := action
  have read : actionOfRon depth (Document.actionRon ⟨id, owner, next, reply, context⟩) =
      provided (true && (true && (true && (fits (depth + 3) context.toRon && true))))
        (.of ⟨id, owner, next, reply, context⟩) := by
    cases reply with
    | none =>
        exact record_write (recordFields_cons rfl rfl (optional_string id _)
          (recordFields_cons rfl rfl (optional_string owner _)
            (recordFields_cons rfl rfl (optional_string next.text _)
              (recordFields_cons rfl rfl (optional_context _ _) rfl))))
    | some text =>
        exact record_write (recordFields_cons rfl rfl (optional_string id _)
          (recordFields_cons rfl rfl (optional_string owner _)
            (recordFields_cons rfl rfl (optional_string next.text _)
              (recordFields_cons rfl rfl (optional_context _ _)
                (recordFields_cons rfl rfl (optional_present text _) rfl)))))
  simpa using read

theorem ofRon_toRon
    (document : Document) :
    ofRon 0 document.toRon = provided (document.entities.all fun entity => fits 8 entity.context.toRon) (of document) := by
  -- The document and one of its fields are around a group, which is an optional list; an entry is at depth five then.
  have scenes := optional_list 2 fun scene (_ : scene ∈ document.scenes) => sceneOfRon_sceneRon scene 5
  have dialogues := optional_list 2 fun dialogue (_ : dialogue ∈ document.dialogues) =>
    dialogueOfRon_dialogueRon dialogue 5
  have actions := optional_list 2 fun action (_ : action ∈ document.actions) => actionOfRon_actionRon action 5
  have read : ofRon 0 document.toRon =
      provided (document.scenes.all (fun scene => fits 8 scene.context.toRon) &&
        (document.dialogues.all (fun dialogue => fits 8 dialogue.context.toRon) &&
          (document.actions.all (fun action => fits 8 action.context.toRon) && true))) (of document) :=
    record_write (recordFields_cons rfl rfl scenes
      (recordFields_cons rfl rfl dialogues (recordFields_cons rfl rfl actions rfl)))
  rw [read, Document.entities, List.all_append, List.all_append, List.all_map, List.all_map, List.all_map, Bool.and_true,
    ← Bool.and_assoc]
  rfl

end PartialDocument

/-! ## Whole texts -/

namespace Document

open Ron

theorem plainItems_map
    {α : Type}
    {write : α → Ron}
    {entries : List α}
    (plain : ∀ entry ∈ entries, (write entry).Plain) :
    PlainItems (entries.map write) := by
  induction entries with
  | nil => trivial
  | cons entry rest inductionHypothesis =>
      obtain ⟨first, further⟩ := List.forall_mem_cons.mp plain
      exact ⟨first, inductionHypothesis further⟩

theorem isName_field
    (field : Field) :
    IsName field.name.toList := by
  cases field <;> exact isName_of_all (by decide) (by decide) (by decide)

theorem isName_groupName
    (kind : Kind) :
    IsName (groupName kind).toList := by
  cases kind <;> exact isName_of_all (by decide) (by decide) (by decide)

/-- A document with the numbers that RON keeps is plain. -/
theorem plain_toRon
    (document : Document) :
    (document.mapContexts (Context.recast kept)).toRon.Plain := by
  have context (context : Context) : (context.recast kept).toRon.Plain := Value.plain_fieldsToRon context.fields
  refine ⟨nofun, isName_groupName .scene, plainItems_map fun entry member => ?_, isName_groupName .dialogue,
    plainItems_map fun entry member => ?_, isName_groupName .action, plainItems_map fun entry member => ?_, trivial⟩
  · obtain ⟨scene, -, rfl⟩ := List.mem_map.mp member
    exact ⟨nofun, isName_field .sceneId, trivial, isName_field .dialogueId, trivial, isName_field .context,
      context scene.context, trivial⟩
  · obtain ⟨dialogue, -, rfl⟩ := List.mem_map.mp member
    exact ⟨nofun, isName_field .dialogueId, trivial, isName_field .text, trivial, isName_field .actions,
      plainItems_map fun _ _ => trivial, isName_field .context, context dialogue.context, trivial⟩
  · obtain ⟨⟨id, owner, next, reply, given⟩, -, rfl⟩ := List.mem_map.mp member
    refine ⟨nofun, isName_field .actionId, trivial, isName_field .dialogueId, trivial, isName_field .nextId, trivial,
      isName_field .context, context given, ?_⟩
    cases reply with
    | none => trivial
    | some text => exact ⟨isName_field .text, trivial, trivial⟩

/-- A change that makes no difference to the text of an entry makes none to that of a group. -/
theorem write_list_map
    {α : Type}
    {write : α → Ron}
    {change : α → α}
    (same : ∀ entry indent, Ron.write indent (write (change entry)) = Ron.write indent (write entry))
    (entries : List α)
    (indent : Nat) :
    Ron.write indent (.list ((entries.map change).map write)) = Ron.write indent (.list (entries.map write)) := by
  have items (entries : List α) (indent : Nat) :
      writeItems indent ((entries.map change).map write) = writeItems indent (entries.map write) := by
    induction entries with
    | nil => rfl
    | cons entry rest inductionHypothesis =>
        rw [List.map_cons, List.map_cons, List.map_cons, writeItems, writeItems, same, inductionHypothesis]
  cases entries with
  | nil => rfl
  | cons entry rest =>
      have all := items (entry :: rest) (indent + 1)
      rw [List.map_cons, List.map_cons, List.map_cons] at all ⊢
      rw [Ron.write, Ron.write, all]

/-- The numbers that RON keeps make no difference to the text of a document. -/
theorem write_toRon_mapContexts
    (document : Document) :
    (document.mapContexts (Context.recast kept)).toRon.pretty = document.toRon.pretty := by
  have context (context : Context) (indent : Nat) :
      Ron.write indent (context.recast kept).toRon = Ron.write indent context.toRon :=
    Value.write_toRon_recast (.map context.fields) indent
  have scene (scene : Scene) (indent : Nat) :
      Ron.write indent (sceneRon (scene.mapContext (Context.recast kept))) = Ron.write indent (sceneRon scene) := by
    simp only [sceneRon, Scene.mapContext, ronField, Ron.write, writeFields, context]
  have dialogue (dialogue : Dialogue) (indent : Nat) :
      Ron.write indent (dialogueRon (dialogue.mapContext (Context.recast kept))) =
        Ron.write indent (dialogueRon dialogue) := by
    simp only [dialogueRon, Dialogue.mapContext, ronField, Ron.write, writeFields, context]
  have action (action : Action) (indent : Nat) :
      Ron.write indent (actionRon (action.mapContext (Context.recast kept))) = Ron.write indent (actionRon action) := by
    simp only [actionRon, Action.mapContext, ronField, List.cons_append, Ron.write, writeFields, context]
  simp only [Ron.pretty, toRon, mapContexts, Ron.write, writeFields, write_list_map scene, write_list_map dialogue,
    write_list_map action]

theorem itemsNesting_le_iff
    {items : List Ron}
    {bound : Nat} :
    itemsNesting items ≤ bound ↔ ∀ item ∈ items, 1 + item.nesting ≤ bound := by
  induction items with
  | nil => simp [itemsNesting]
  | cons item rest inductionHypothesis => rw [itemsNesting, max_le_iff, List.forall_mem_cons, inductionHypothesis]

theorem itemsNesting_map_le_iff
    {α : Type}
    {write : α → Ron}
    {entries : List α}
    {bound : Nat} :
    itemsNesting (entries.map write) ≤ bound ↔ ∀ entry ∈ entries, 1 + (write entry).nesting ≤ bound :=
  itemsNesting_le_iff.trans List.forall_mem_map

theorem nesting_sceneRon_le_iff
    {scene : Scene}
    {bound : Nat} :
    (sceneRon scene).nesting ≤ bound ↔ scene.context.toRon.nesting + 2 ≤ bound := by
  simp only [sceneRon, ronField, ofString, nesting, fieldsNesting]
  omega

theorem nesting_dialogueRon_le_iff
    {dialogue : Dialogue}
    {bound : Nat}
    (large : 4 ≤ bound) :
    (dialogueRon dialogue).nesting ≤ bound ↔ dialogue.context.toRon.nesting + 2 ≤ bound := by
  have names : itemsNesting (dialogue.actions.map ofString) ≤ 1 := itemsNesting_map_le_iff.mpr fun _ _ => le_rfl
  simp only [dialogueRon, ronField, ofString, nesting, fieldsNesting]
  omega

theorem nesting_actionRon_le_iff
    {action : Action}
    {bound : Nat}
    (large : 4 ≤ bound) :
    (actionRon action).nesting ≤ bound ↔ action.context.toRon.nesting + 2 ≤ bound := by
  obtain ⟨id, owner, next, reply, context⟩ := action
  cases reply <;>
    simp only [actionRon, ronField, ofString, nesting, fieldsNesting, Option.toList, List.map_nil, List.map_cons,
      List.cons_append, List.nil_append] <;>
    omega

/-- A document can be written if its contexts are not nested too deep for the six containers and parts around them. -/
theorem nesting_toRon_le_iff
    {document : Document} :
    document.toRon.nesting ≤ nestingLimit ↔
      ∀ entity ∈ document.entities, entity.context.toRon.nesting + 6 ≤ nestingLimit := by
  have parts : document.toRon.nesting ≤ nestingLimit ↔ itemsNesting (document.scenes.map sceneRon) ≤ 125 ∧
      itemsNesting (document.dialogues.map dialogueRon) ≤ 125 ∧
        itemsNesting (document.actions.map actionRon) ≤ 125 := by
    simp only [toRon, nesting, fieldsNesting, nestingLimit]
    omega
  have group {α : Type} {write : α → Ron} {entries : List α} (contextOf : α → Context)
      (entryNesting : ∀ entry, (write entry).nesting ≤ 124 ↔ (contextOf entry).toRon.nesting + 2 ≤ 124) :
      itemsNesting (entries.map write) ≤ 125 ↔
        ∀ entry ∈ entries, (contextOf entry).toRon.nesting + 6 ≤ nestingLimit := by
    refine itemsNesting_map_le_iff.trans (forall₂_congr fun entry _ => ?_)
    have inside := entryNesting entry
    rw [nestingLimit]
    omega
  rw [parts, forall_mem_entities_iff, group Scene.context fun _ => nesting_sceneRon_le_iff,
    group Dialogue.context fun _ => nesting_dialogueRon_le_iff (by decide),
    group Action.context fun _ => nesting_actionRon_le_iff (by decide)]
  rfl

/-- A document is read from its RON with the numbers that RON keeps, or not at all if one of its contexts is nested too
deep. -/
theorem parse_ron_render
    {document : Document}
    (nextLegal : ∀ action ∈ document.actions, ∀ {next}, action.next = .dialogue next → Identifier.isLegal next) :
    parse .ron document.toRon.pretty =
      if ∀ entity ∈ document.entities, entity.context.toRon.nesting + 8 ≤ nestingLimit then
        .ok (document.mapContexts (Context.recast kept))
      else .error .ron := by
  have decoded : decode? true PartialDocument.ofRon document.toRon.pretty =
      provided ((document.mapContexts (Context.recast kept)).entities.all fun entity =>
        Decoder.fits 8 entity.context.toRon) (.of (document.mapContexts (Context.recast kept))) := by
    rw [← write_toRon_mapContexts, decode?, read?_pretty true (plain_toRon document)]
    exact PartialDocument.ofRon_toRon _
  have nesting (context : Context) : (context.recast kept).toRon.nesting = context.toRon.nesting :=
    Value.nesting_toRon_recast (.map context.fields)
  have fits : ((document.mapContexts (Context.recast kept)).entities.all fun entity =>
      Decoder.fits 8 entity.context.toRon) = true ↔
        ∀ entity ∈ document.entities, entity.context.toRon.nesting + 8 ≤ nestingLimit := by
    simp only [entities_mapContexts, List.all_map, List.all_eq_true, Function.comp_apply, Entity.context_mapContext,
      Decoder.fits, decide_eq_true_eq, nesting, add_comm 8]
  have stillLegal := next_legal_mapContexts nextLegal (Context.recast kept)
  rw [parse, parsePartial, decoded, provided]
  simp only [fits]
  split_ifs
  · simp only [bind, Except.bind, PartialDocument.complete_of stillLegal]
    rfl
  · rfl

end Document
end Parley
