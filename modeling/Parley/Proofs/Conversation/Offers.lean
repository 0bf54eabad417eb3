import Parley.Proofs.Conversation.Course

/-!
# What is on offer

A dialogue of a certified tree offers the actions that it lists, in their order and as often as it lists them.  These are
the actions that it owns, so no other dialogue offers them.  To name an action on offer and to count to it is one choice.
-/

namespace Parley

open Integrity (ValidTree)

namespace Conversation

variable {valid : ValidTree} {conversation : Conversation} {dialogue : Dialogue} {id action : String} {found : Action}

/-! ## Listed actions are owned -/

theorem exists_of_listed
    (stored : valid.tree.dialogues.get? id = some dialogue)
    (listed : action ∈ dialogue.actions) :
    ∃ found, valid.tree.actions.get? action = some found ∧ found.owner = id ∧ found.id = action := by
  obtain ⟨found, isStored, owned⟩ := valid.coherent.listed_owned stored action listed
  exact ⟨found, isStored, owned, (valid.coherent.action_id isStored).1.symm⟩

/-- A dialogue lists an action exactly if it owns it. -/
theorem listed_iff
    (stored : valid.tree.dialogues.get? id = some dialogue) :
    action ∈ dialogue.actions ↔ ∃ found, valid.tree.actions.get? action = some found ∧ found.owner = id := by
  constructor
  · exact valid.coherent.listed_owned stored action
  · rintro ⟨found, isStored, rfl⟩
    obtain ⟨owner, ownerStored, listed⟩ := valid.coherent.owner_lists isStored
    obtain rfl := Option.some.inj (stored.symm.trans ownerStored)
    exact listed

/-! ## Offers in the order of the list -/

/-- No listed action is missing among the offers, so what is asked of the offers can be asked of the list. -/
theorem map_offers
    {β : Type}
    {ask : Action → β}
    {answer : String → β}
    (agree : ∀ action ∈ dialogue.actions, (valid.tree.actions.get? action).map ask = some (answer action)) :
    (offers valid dialogue).map ask = dialogue.actions.map answer := by
  rw [offers, List.map_filterMap, List.filterMap_congr agree]
  exact congrFun List.filterMap_eq_map dialogue.actions

theorem offers_ids
    (stored : valid.tree.dialogues.get? id = some dialogue) :
    (offers valid dialogue).map Action.id = dialogue.actions := by
  have agree : ∀ action ∈ dialogue.actions, (valid.tree.actions.get? action).map Action.id = some action := by
    intro action listed
    obtain ⟨found, isStored, -, named⟩ := exists_of_listed stored listed
    rw [isStored, Option.map_some, named]
  exact (map_offers agree).trans (List.map_id' _)

theorem offers_texts
    (stored : valid.tree.dialogues.get? id = some dialogue) :
    (offers valid dialogue).map Action.text =
      dialogue.actions.map fun action => (valid.tree.actions.get? action).bind Action.text := by
  refine map_offers fun action listed => ?_
  obtain ⟨found, isStored, -⟩ := exists_of_listed stored listed
  rw [isStored, Option.map_some, Option.bind_some]

theorem getElem?_offers
    (stored : valid.tree.dialogues.get? id = some dialogue)
    (index : Nat) :
    (offers valid dialogue)[index]? = dialogue.actions[index]?.bind valid.tree.actions.get? := by
  have all : (offers valid dialogue).map some = dialogue.actions.map valid.tree.actions.get? := by
    refine map_offers fun action listed => ?_
    obtain ⟨found, isStored, -⟩ := exists_of_listed stored listed
    rw [isStored, Option.map_some]
  have there := congrArg (·[index]?) all
  simp only [List.getElem?_map] at there
  cases listed : dialogue.actions[index]? with
  | none =>
      rw [listed] at there
      simpa using there
  | some action =>
      rw [listed] at there
      rw [Option.bind_some]
      cases offer : (offers valid dialogue)[index]? with
      | none => simp [offer] at there
      | some found => simpa [offer] using there

/-- All offers under one identifier are one action. -/
theorem pick?_named_eq_some_iff :
    (Choice.named action).pick? (offers valid dialogue) = some found ↔
      action ∈ dialogue.actions ∧ valid.tree.actions.get? action = some found := by
  have offer {other : Action} (member : other ∈ offers valid dialogue) :
      other.id ∈ dialogue.actions ∧ valid.tree.actions.get? other.id = some other := by
    obtain ⟨key, listed, isStored⟩ := List.mem_filterMap.mp member
    obtain rfl := (valid.coherent.action_id isStored).1
    exact ⟨listed, isStored⟩
  constructor
  · intro picked
    obtain rfl : found.id = action := by simpa using List.find?_some picked
    exact offer (Choice.mem_of_pick? picked)
  · rintro ⟨listed, isStored⟩
    obtain rfl := (valid.coherent.action_id isStored).1
    have member : found ∈ offers valid dialogue := List.mem_filterMap.mpr ⟨_, listed, isStored⟩
    have some : ((offers valid dialogue).find? (·.id == found.id)).isSome = true :=
      List.find?_isSome.mpr ⟨found, member, by simp⟩
    obtain ⟨other, picked⟩ := Option.isSome_iff_exists.mp some
    have sameId : other.id = found.id := by simpa using List.find?_some picked
    have otherStored := (offer (List.mem_of_find?_eq_some picked)).2
    rw [sameId, isStored] at otherStored
    obtain rfl := Option.some.inj otherStored
    exact picked

/-! ## Choices -/

/-- A choice succeeds exactly if it means an action on offer. -/
theorem exists_take_iff
    (active : conversation.active? valid = some dialogue)
    (choice : Choice) :
    (∃ step next, conversation.take valid choice = .ok (step, next)) ↔
      ∃ found, choice.pick? (offers valid dialogue) = some found := by
  constructor
  · rintro ⟨step, next, taken⟩
    obtain ⟨_, found, alsoActive, picked, -⟩ := take_eq_ok_iff.mp taken
    obtain rfl := Option.some.inj (active.symm.trans alsoActive)
    exact ⟨found, picked⟩
  · rintro ⟨found, picked⟩
    exact ⟨_, _, take_of_pick?_eq_some active picked⟩

section Active

variable (place : conversation.place = .dialogue id) (stored : valid.tree.dialogues.get? id = some dialogue)

include place stored

theorem offered_of_place : conversation.offered valid = dialogue.actions := by
  rw [offered, active?_of_dialogue place, stored]
  exact offers_ids stored

theorem view_of_place :
    conversation.view valid = .speaking dialogue.text
      (dialogue.actions.map fun action => (valid.tree.actions.get? action).bind Action.text) := by
  rw [view, active?_of_dialogue place, stored, ← offers_texts stored]

theorem exists_chooseNth_iff
    (index : Nat) :
    (∃ step next, conversation.chooseNth valid index = .ok (step, next)) ↔ index < dialogue.actions.length := by
  have active := (active?_of_dialogue place).trans stored
  refine (exists_take_iff active (.nth index)).trans ?_
  rw [← Option.isSome_iff_exists, Choice.pick?, isSome_getElem?, ← offers_ids stored, List.length_map]

/-- To count to an action is to name it. -/
theorem chooseNth_eq_choose
    {index : Nat}
    (listed : dialogue.actions[index]? = some action) :
    conversation.chooseNth valid index = conversation.choose valid action := by
  have active := (active?_of_dialogue place).trans stored
  have member := List.mem_of_getElem? listed
  obtain ⟨found, isStored, -⟩ := exists_of_listed stored member
  have byIndex : (Choice.nth index).pick? (offers valid dialogue) = some found := by
    rw [Choice.pick?, getElem?_offers stored, listed, Option.bind_some, isStored]
  have byName : (Choice.named action).pick? (offers valid dialogue) = some found :=
    pick?_named_eq_some_iff.mpr ⟨member, isStored⟩
  exact (take_of_pick?_eq_some active byIndex).trans (take_of_pick?_eq_some active byName).symm

theorem exists_choose_iff :
    (∃ step next, conversation.choose valid action = .ok (step, next)) ↔
      ∃ found, valid.tree.actions.get? action = some found ∧ found.owner = id := by
  have active := (active?_of_dialogue place).trans stored
  rw [← listed_iff stored]
  refine (exists_take_iff active (.named action)).trans ?_
  simp only [pick?_named_eq_some_iff]
  constructor
  · rintro ⟨_, listed, -⟩
    exact listed
  · intro listed
    obtain ⟨found, isStored, -⟩ := exists_of_listed stored listed
    exact ⟨found, listed, isStored⟩

end Active

/-- Wherever a conversation in a certified tree has come to, it offers the actions that its dialogue lists, in their order,
and shows one label for each.  A choice by number succeeds exactly below the length of the list, and is the choice of the
action that stands there.  A choice by name succeeds exactly for the actions that the dialogue owns, so each action is
offered by its owner and by no other dialogue. -/
theorem run_offers_owned
    (valid : ValidTree)
    {scene : String}
    {entered : Conversation}
    (started : start valid scene = .ok entered)
    (calls : List Call)
    {id : String}
    (there : (entered.run valid calls).dialogueId? = some id) :
    ∃ conversation dialogue,
      entered.run valid calls = conversation ∧
      valid.tree.dialogues.get? id = some dialogue ∧
      conversation.offered valid = dialogue.actions ∧
      conversation.view valid = .speaking dialogue.text
        (dialogue.actions.map fun action => (valid.tree.actions.get? action).bind Action.text) ∧
      (∀ index, (∃ step next, conversation.chooseNth valid index = .ok (step, next)) ↔
        index < (conversation.offered valid).length) ∧
      (∀ index action, (conversation.offered valid)[index]? = some action →
        conversation.chooseNth valid index = conversation.choose valid action) ∧
      (∀ action, (∃ step next, conversation.choose valid action = .ok (step, next)) ↔
        ∃ found, valid.tree.actions.get? action = some found ∧ found.owner = id) ∧
      ∀ action found, valid.tree.actions.get? action = some found →
        (action ∈ conversation.offered valid ↔ found.owner = id) := by
  have course := (onCourse_of_start started).run calls
  generalize entered.run valid calls = conversation at *
  have place := dialogueId?_eq_some_iff.mp there
  obtain ⟨dialogue, stored⟩ := Table.mem_keys_iff.mp (course.place_stored place)
  have offered := offered_of_place place stored
  refine ⟨conversation, dialogue, rfl, stored, offered, view_of_place place stored, ?_, ?_, ?_, ?_⟩
  · intro index
    rw [offered]
    exact exists_chooseNth_iff place stored index
  · intro index action listed
    rw [offered] at listed
    exact chooseNth_eq_choose place stored listed
  · exact fun action => exists_choose_iff place stored
  · intro action found isStored
    rw [offered, listed_iff stored, isStored]
    simp

end Conversation

/-! ## A repeated offer -/

/-- The small talk with one of its actions listed twice. -/
def echoTalk : Tree where
  scenes := .ofList [("tavern", { id := "tavern", start := "hello" })]
  dialogues := .ofList [("hello", { id := "hello", text := "Hello?", actions := ["again", "leave", "again"] })]
  actions := .ofList
    [("again", { id := "again", owner := "hello", next := .dialogue "hello", text := some "What?" }),
      ("leave", { id := "leave", owner := "hello", next := .finish })]

theorem isOk_check_echoTalk :
    (Integrity.check {} echoTalk).isOk = true := by
  cbv

/-- The talk with a repeated offer, certified. -/
def echoTalkValid : ValidTree :=
  ⟨echoTalk, Integrity.check {} echoTalk, {}, rfl, isOk_check_echoTalk⟩

/-- After the last offer is taken, the same three offers are there again, and the last of them is the first one. -/
theorem offers_echoTalk :
    ∃ entered conversation,
      Conversation.start echoTalkValid "tavern" = .ok entered ∧
      entered.run echoTalkValid [.choice (.nth 2)] = conversation ∧
      conversation.dialogueId? = some "hello" ∧
      conversation.offered echoTalkValid = ["again", "leave", "again"] ∧
      conversation.view echoTalkValid = .speaking "Hello?" [some "What?", none, some "What?"] ∧
      conversation.chooseNth echoTalkValid 2 = conversation.choose echoTalkValid "again" ∧
      ¬∃ step next, conversation.chooseNth echoTalkValid 3 = .ok (step, next) := by
  have begins : Conversation.start echoTalkValid "tavern" = .ok ⟨"tavern", .dialogue "hello"⟩ := rfl
  have there : (Conversation.run echoTalkValid ⟨"tavern", .dialogue "hello"⟩ [.choice (.nth 2)]).dialogueId? =
      some "hello" := rfl
  obtain ⟨conversation, dialogue, ran, stored, offered, shown, byNumber, sameChoice, -⟩ :=
    Conversation.run_offers_owned echoTalkValid begins [.choice (.nth 2)] there
  have isHello : some dialogue =
      some { id := "hello", text := "Hello?", actions := ["again", "leave", "again"] } :=
    stored.symm.trans rfl
  cases isHello
  refine ⟨_, conversation, begins, ran, ran ▸ there, offered, shown.trans rfl, sameChoice 2 "again" ?_, ?_⟩
  · rw [offered]
    rfl
  · rw [byNumber 3, offered]
    decide

end Parley
