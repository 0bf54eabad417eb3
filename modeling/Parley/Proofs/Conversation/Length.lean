import Parley.Proofs.Conversation.Coverage
import Parley.Proofs.Conversation.Offers

/-!
# How far a conversation can go

A conversation in a certified tree stalls at just those dialogues of which the check warns that they are dead ends.  If the
check notes no loop, then a conversation is at no dialogue twice, so it takes at most as many choices as the tree has
dialogues.
-/

namespace Parley

open Integrity (CanReach CanReturn Rules ValidTree)

namespace Conversation

variable {valid : ValidTree} {conversation entered last : Conversation} {choices : List Choice} {scene source id : String}

theorem OnCourse.plays
    (course : OnCourse valid scene conversation)
    (plays : Plays valid conversation choices last) :
    OnCourse valid scene last := by
  induction plays with
  | nil => exact course
  | cons taken _ inductionHypothesis => exact inductionHypothesis (course.take taken)

/-- Where a conversation comes to, the check comes to under any rules. -/
theorem canReach_of_plays
    {rules : Rules}
    (started : start valid scene = .ok entered)
    (plays : Plays valid entered choices conversation)
    (place : conversation.place = .dialogue id) :
    CanReach rules valid.tree id := by
  obtain ⟨entry, stored, begins⟩ := exists_of_start started
  exact canReach_of_scene stored (plays.reflTransGen begins place)

/-! ## Stalling -/

/-- The conversation is not over, and nothing is on offer. -/
def Stalls
    (valid : ValidTree)
    (conversation : Conversation) : Prop :=
  conversation.isFinished = false ∧ conversation.offered valid = []

theorem stalls_iff
    (started : start valid scene = .ok entered)
    (plays : Plays valid entered choices conversation) :
    conversation.Stalls valid ↔
      ∃ id, conversation.dialogueId? = some id ∧ valid.diagnostics.WarnsOfDeadEnd id := by
  obtain ⟨rules, found, -⟩ := valid.certified
  have course := (onCourse_of_start started).plays plays
  simp only [Stalls, isFinished, dialogueId?_eq_some_iff, decide_eq_false_iff_not, ← found,
    Integrity.warnsOfDeadEnd_check_iff]
  cases place : conversation.place with
  | finished => simp
  | dialogue id =>
      obtain ⟨dialogue, stored⟩ := Table.mem_keys_iff.mp (course.place_stored place)
      have reach : CanReach rules valid.tree id := canReach_of_plays started plays place
      simp [offered_of_place place stored, stored, reach]

/-! ## Length -/

/-- Each choice of a conversation is made at a dialogue from which a path leads to all later ones. -/
theorem Plays.exists_visited
    (plays : Plays valid conversation choices last)
    (place : conversation.place = .dialogue source) :
    ∃ visited : List String,
      visited.length = choices.length ∧
      (∀ dialogue ∈ visited, dialogue ∈ valid.tree.dialogues.keys ∧
        Relation.ReflTransGen valid.tree.LeadsTo source dialogue) ∧
      visited.Pairwise (Relation.TransGen valid.tree.LeadsTo) := by
  induction plays generalizing source with
  | nil => exact ⟨[], rfl, nofun, .nil⟩
  | @cons conversation next last choice choices step taken plays inductionHypothesis =>
      obtain ⟨dialogue, _, active, -⟩ := take_eq_ok_iff.mp taken
      have stored : source ∈ valid.tree.dialogues.keys :=
        Table.mem_keys_iff.mpr ⟨dialogue, (active?_of_dialogue place).symm.trans active⟩
      cases step with
      | finished =>
          have ended : next.place = .finished := by
            rw [eq_of_take taken]
            rfl
          obtain ⟨rfl, -⟩ := plays.eq_of_finished ended
          refine ⟨[source], rfl, ?_, List.pairwise_singleton _ _⟩
          rintro _ (_ | ⟨_, ⟨⟩⟩)
          exact ⟨stored, .refl⟩
      | moved middle =>
          have leads := leadsTo_of_take place taken
          have there : next.place = .dialogue middle := by
            rw [eq_of_take taken]
            rfl
          obtain ⟨visited, length, reached, ordered⟩ := inductionHypothesis there
          refine ⟨source :: visited, by simp [length], ?_, ?_⟩
          · rintro dialogue (_ | ⟨_, member⟩)
            · exact ⟨stored, .refl⟩
            · exact ⟨(reached dialogue member).1, .head leads (reached dialogue member).2⟩
          · exact List.pairwise_cons.mpr ⟨fun dialogue member => .head' leads (reached dialogue member).2, ordered⟩

/-- A conversation that can come to no dialogue twice takes at most as many choices as there are dialogues. -/
theorem length_le_of_no_return
    (plays : Plays valid conversation choices last)
    (place : conversation.place = .dialogue source)
    (noReturn : ∀ dialogue, Relation.ReflTransGen valid.tree.LeadsTo source dialogue → ¬CanReturn valid.tree dialogue) :
    choices.length ≤ valid.tree.dialogues.size := by
  obtain ⟨visited, length, reached, ordered⟩ := plays.exists_visited place
  have distinct : visited.Nodup := by
    refine ordered.imp_of_mem fun {earlier later} member _ leads => ?_
    rintro rfl
    exact noReturn earlier (reached earlier member).2 leads
  have within : visited ⊆ valid.tree.dialogues.keys := fun dialogue member => (reached dialogue member).1
  calc
    choices.length = visited.length := length.symm
    _ ≤ valid.tree.dialogues.keys.length := distinct.length_le_of_subset within
    _ = valid.tree.dialogues.size := Table.length_keys _

/-- In a certified tree a conversation that only makes choices stalls exactly at a dialogue with a warning of a dead end.
If no loop is noted, it makes at most as many choices as the tree has dialogues. -/
theorem stalls_iff_and_length_le
    (valid : ValidTree)
    {scene : String}
    {entered conversation : Conversation}
    {choices : List Choice}
    (started : start valid scene = .ok entered)
    (plays : Plays valid entered choices conversation) :
    (conversation.Stalls valid ↔
      ∃ id, conversation.dialogueId? = some id ∧ valid.diagnostics.WarnsOfDeadEnd id) ∧
    (valid.diagnostics.Loopless → choices.length ≤ valid.tree.dialogues.size) := by
  refine ⟨stalls_iff started plays, fun loopless => ?_⟩
  obtain ⟨rules, found, -⟩ := valid.certified
  rw [← found, Integrity.loopless_check_iff] at loopless
  obtain ⟨entry, stored, begins⟩ := exists_of_start started
  exact length_le_of_no_return plays begins fun dialogue path => loopless dialogue (canReach_of_scene stored path)

end Conversation

/-! ## A talk that ends in silence -/

/-- Two ways from a gate to a hall, where nothing is offered. -/
def gateTalk : Tree where
  scenes := .ofList [("castle", { id := "castle", start := "gate" })]
  dialogues := .ofList
    [("gate", { id := "gate", text := "Halt!", actions := ["run", "walk"] }),
      ("yard", { id := "yard", text := "Mind the dog.", actions := ["enter"] }),
      ("hall", { id := "hall", text := "..." })]
  actions := .ofList
    [("run", { id := "run", owner := "gate", next := .dialogue "hall" }),
      ("walk", { id := "walk", owner := "gate", next := .dialogue "yard" }),
      ("enter", { id := "enter", owner := "yard", next := .dialogue "hall" })]

theorem isOk_check_gateTalk :
    (Integrity.check {} gateTalk).isOk = true := by
  cbv

/-- The talk that ends in silence, certified. -/
def gateTalkValid : ValidTree :=
  ⟨gateTalk, Integrity.check {} gateTalk, {}, rfl, isOk_check_gateTalk⟩

/-- On the longer way, the talk stalls in the hall after two choices, as the check has warned. -/
theorem stalls_gateTalk :
    ∃ entered conversation,
      Conversation.start gateTalkValid "castle" = .ok entered ∧
      Conversation.Plays gateTalkValid entered [.named "walk", .nth 0] conversation ∧
      conversation.Stalls gateTalkValid ∧
      (∃ id, conversation.dialogueId? = some id ∧ gateTalkValid.diagnostics.WarnsOfDeadEnd id) ∧
      gateTalkValid.diagnostics.Loopless ∧
      [Choice.named "walk", .nth 0].length ≤ gateTalkValid.tree.dialogues.size := by
  have begins : Conversation.start gateTalkValid "castle" = .ok ⟨"castle", .dialogue "gate"⟩ := rfl
  have walk : Conversation.take gateTalkValid ⟨"castle", .dialogue "gate"⟩ (.named "walk") =
      .ok (.moved "yard", ⟨"castle", .dialogue "yard"⟩) := rfl
  have enter : Conversation.take gateTalkValid ⟨"castle", .dialogue "yard"⟩ (.nth 0) =
      .ok (.moved "hall", ⟨"castle", .dialogue "hall"⟩) := rfl
  have plays := Conversation.Plays.cons walk (.cons enter .nil)
  obtain ⟨stalls, bounded⟩ := Conversation.stalls_iff_and_length_le gateTalkValid begins plays
  have silent : Conversation.Stalls gateTalkValid ⟨"castle", .dialogue "hall"⟩ := ⟨rfl, rfl⟩
  have noNotes : (Integrity.check {} gateTalk).notes = [] := by cbv
  have loopless : gateTalkValid.diagnostics.Loopless := by
    change ∀ finding ∈ (Integrity.check {} gateTalk).notes, finding.matter.category ≠ .cyclicPath
    rw [noNotes]
    exact List.forall_mem_nil _
  exact ⟨_, _, begins, plays, silent, stalls.mp silent, loopless, bounded loopless⟩

end Parley
