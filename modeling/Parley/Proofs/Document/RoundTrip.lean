import Mathlib
import Parley.Proofs.Document.JsonRoundTrip
import Parley.Proofs.Document.RonRoundTrip

/-!
# Trees as texts

A tree whose names are in order is written to a text that gives the tree back with what the format keeps of its
floating-point numbers, as long as the reader of the format has room for its contexts.
-/

namespace Parley

open Integrity (ValidTree)

/-! ## Room for contexts -/

/-- A format has room for a context inside an entry of a document.  JSON counts containers, of which there are three around
a context.  RON counts a container and what it holds each by itself, and has eight of them around a context. -/
def Format.HasRoom (format : Format) (context : Context) : Prop :=
  match format with
  | .json => context.depth + 3 ≤ Json.nestingLimit
  | .ron => context.toRon.nesting + 8 ≤ Ron.nestingLimit

/-- What a format keeps of a floating-point number. -/
def Format.kept (format : Format) : Binary64 → Option Binary64 :=
  match format with
  | .json => Json.kept
  | .ron => Ron.kept

namespace Value

mutual

theorem nesting_toRon_le : (value : Value) → value.toRon.nesting ≤ 2 * value.depth
  | .list items => by
    have inside := itemsNesting_le items
    rw [toRon, Ron.nesting, depth]
    omega
  | .map fields => by
    have inside := entriesNesting_le fields
    rw [toRon, Ron.nesting, depth]
    omega
  | .null | .bool _ | .int _ | .float _ | .string _ => by
    rw [toRon]
    exact Nat.zero_le _

theorem itemsNesting_le : (items : List Value) → Ron.itemsNesting (itemsToRon items) ≤ 2 * itemsDepth items + 1
  | [] => Nat.zero_le _
  | item :: rest => by
    have first := nesting_toRon_le item
    have further := itemsNesting_le rest
    rw [itemsToRon, Ron.itemsNesting, itemsDepth]
    omega

theorem entriesNesting_le : (fields : List (String × Value)) →
    Ron.entriesNesting (fieldsToRon fields) ≤ 2 * fieldsDepth fields + 1
  | [] => Nat.zero_le _
  | (key, value) :: rest => by
    have first := nesting_toRon_le value
    have further := entriesNesting_le rest
    have leaf : (Ron.ofString key).nesting = 0 := rfl
    rw [fieldsToRon, Ron.entriesNesting, leaf, fieldsDepth]
    omega

end

end Value

/-- Either format has room for sixty maps and lists inside one another. -/
theorem Format.hasRoom_of_depth_le
    {context : Context}
    (format : Format)
    (shallow : context.depth ≤ 60) :
    format.HasRoom context := by
  cases format with
  | json =>
      rw [HasRoom, Json.nestingLimit]
      omega
  | ron =>
      have inside := Value.entriesNesting_le context.fields
      rw [Context.depth] at shallow
      rw [HasRoom, Context.toRon, Ron.nesting, Ron.nestingLimit]
      omega

/-! ## There and back -/

namespace Document

variable {document other : Document} {format : Format} {text : String}

/-- What is read of the text of a document is the document with what the format keeps of its numbers, if there is room for
its contexts, and nothing else. -/
theorem parse_render_eq_ok_iff
    (written : document.render format = .ok text)
    (nextLegal : ∀ action ∈ document.actions, ∀ {next}, action.next = .dialogue next → Identifier.isLegal next) :
    parse format text = .ok other ↔
      (∀ entity ∈ document.entities, format.HasRoom entity.context) ∧
        other = document.mapContexts (Context.recast format.kept) := by
  cases format with
  | json =>
      cases written
      rw [parse_json_render nextLegal]
      split_ifs with room
      · exact ⟨fun same => ⟨room, (Except.ok.inj same).symm⟩, fun same => congrArg Except.ok same.2.symm⟩
      · exact iff_of_false nofun fun same => room same.1
  | ron =>
      rw [render] at written
      split_ifs at written
      cases written
      rw [parse_ron_render nextLegal]
      split_ifs with room
      · exact ⟨fun same => ⟨room, (Except.ok.inj same).symm⟩, fun same => congrArg Except.ok same.2.symm⟩
      · exact iff_of_false nofun fun same => room same.1

theorem exists_render
    (room : ∀ entity ∈ document.entities, format.HasRoom entity.context) :
    ∃ text, document.render format = .ok text := by
  cases format with
  | json => exact ⟨_, rfl⟩
  | ron =>
      refine ⟨_, if_pos (nesting_toRon_le_iff.mpr fun entity member => ?_)⟩
      exact (Nat.add_le_add_left (by decide) _).trans (room entity member)

end Document

/-- What is read of the text of a tree whose names are in order is the tree with what the format keeps of its numbers, if
there is room for its contexts, and nothing else. -/
theorem Tree.Named.decode_eq_ok_iff
    {tree other : Tree}
    {format : Format}
    {text : String}
    (named : tree.Named)
    (written : tree.encode format = .ok text) :
    Tree.decode format text = .ok other ↔
      (∀ entity ∈ tree.entities, format.HasRoom entity.context) ∧
        other = tree.mapContexts (Context.recast format.kept) := by
  have reads {document : Document} : Document.parse format text = .ok document ↔
      (∀ entity ∈ tree.entities, format.HasRoom entity.context) ∧
        document = .ofTree (tree.mapContexts (Context.recast format.kept)) := by
    rw [ofTree_mapContexts]
    exact Document.parse_render_eq_ok_iff written named.next_legal
  have gives : (Document.ofTree (tree.mapContexts (Context.recast format.kept))).toTree =
      .ok (tree.mapContexts (Context.recast format.kept)) :=
    Document.toTree_ofTree (named.mapContexts (Context.recast format.kept))
  simp only [decode, bind_eq_ok_iff, reads, mapError_eq_ok_iff]
  constructor
  · rintro ⟨document, ⟨room, rfl⟩, given⟩
    rw [gives, Except.ok.injEq] at given
    exact ⟨room, given.symm⟩
  · rintro ⟨room, rfl⟩
    exact ⟨_, ⟨room, rfl⟩, gives⟩

/-- Without floating-point numbers nothing is lost of a tree. -/
theorem Tree.recast_of_floatFree
    {tree : Tree}
    (free : ∀ entity ∈ tree.entities, entity.context.FloatFree)
    (change : Binary64 → Option Binary64) :
    tree.mapContexts (Context.recast change) = tree := by
  have same : tree.mapContexts (Context.recast change) = tree.mapContexts id :=
    mapContexts_eq_mapContexts_iff.mpr fun entity member => (free entity member).recast_eq change
  rw [same, mapContexts_id]

/-- A tree whose names are in order and whose contexts have no floating-point numbers is read from its text as it is, exactly
if there is room for its contexts. -/
theorem Tree.Named.encode_decode_iff
    {tree : Tree}
    (named : tree.Named)
    (free : ∀ entity ∈ tree.entities, entity.context.FloatFree)
    (format : Format) :
    (∃ text, tree.encode format = .ok text ∧ Tree.decode format text = .ok tree) ↔
      ∀ entity ∈ tree.entities, format.HasRoom entity.context := by
  constructor
  · rintro ⟨text, written, read⟩
    exact ((named.decode_eq_ok_iff written).mp read).1
  · intro room
    have writable : ∃ text, (Document.ofTree tree).render format = .ok text := Document.exists_render room
    obtain ⟨text, written⟩ := writable
    exact ⟨text, written, (named.decode_eq_ok_iff written).mpr ⟨room, (tree.recast_of_floatFree free _).symm⟩⟩

/-- A certified tree without floating-point numbers in its contexts is written, and is read from its text as it is, exactly
if the format has room for each of its contexts. -/
theorem Integrity.ValidTree.round_trip_iff
    (valid : ValidTree)
    (free : ∀ entity ∈ valid.tree.entities, entity.context.FloatFree)
    (format : Format) :
    (∃ text, valid.tree.encode format = .ok text ∧ Tree.decode format text = .ok valid.tree) ↔
      ∀ entity ∈ valid.tree.entities, format.HasRoom entity.context :=
  valid.named.encode_decode_iff free format

/-- The small talk with data of the developer, which are of every kind that there is but floating-point numbers. -/
def seasonedTalk : Tree where
  scenes := .ofList
    [("tavern", { id := "tavern", start := "hello", context := .ofFields [("lit", .bool true), ("smoke", .null)] })]
  dialogues := .ofList
    [("hello",
      { id := "hello", text := "Hello?\n", actions := ["leave", "again"],
        context := .ofFields [("gold", .list [.int Int64.minValue, .map [("\"half\"", .string "½\\")]])] })]
  actions := .ofList
    [("again", { id := "again", owner := "hello", next := .dialogue "hello", text := some "" }),
      ("leave", { id := "leave", owner := "hello", next := .finish })]

theorem isOk_check_seasonedTalk :
    (Integrity.check {} seasonedTalk).isOk = true := by
  cbv

theorem contexts_seasonedTalk :
    ∀ entity ∈ seasonedTalk.entities, entity.context.FloatFree ∧ entity.context.depth ≤ 60 := by
  have contexts : seasonedTalk.entities.map (fun entity => entity.context.fields) =
      [[("lit", .bool true), ("smoke", .null)],
        [("gold", .list [.int Int64.minValue, .map [("\"half\"", .string "½\\")]])], [], []] := by
    cbv
  have all : ∀ fields ∈ seasonedTalk.entities.map (fun entity => entity.context.fields),
      Value.FloatFreeFields fields ∧ Value.fieldsDepth fields + 1 ≤ 60 := by
    rw [contexts]
    simp [Value.FloatFreeFields, Value.FloatFree, Value.FloatFreeItems, Value.fieldsDepth, Value.depth,
      Value.itemsDepth]
  exact List.forall_mem_map.mp all

/-- The seasoned small talk comes back from its text in either format. -/
theorem round_trip_seasonedTalk :
    (∀ entity ∈ seasonedTalk.entities, entity.context.FloatFree) ∧
      (∃ text, seasonedTalk.encode .json = .ok text ∧ Tree.decode .json text = .ok seasonedTalk) ∧
        ∃ text, seasonedTalk.encode .ron = .ok text ∧ Tree.decode .ron text = .ok seasonedTalk := by
  let valid : ValidTree := ⟨seasonedTalk, Integrity.check {} seasonedTalk, {}, rfl, isOk_check_seasonedTalk⟩
  have free : ∀ entity ∈ seasonedTalk.entities, entity.context.FloatFree := fun entity member =>
    (contexts_seasonedTalk entity member).1
  have room (format : Format) : ∀ entity ∈ seasonedTalk.entities, format.HasRoom entity.context := fun entity member =>
    format.hasRoom_of_depth_le (contexts_seasonedTalk entity member).2
  exact ⟨free, (valid.round_trip_iff free .json).mpr (room .json), (valid.round_trip_iff free .ron).mpr (room .ron)⟩

end Parley
