import Typeset.Proofs.World.Answers
import Typeset.Reading

/-!
# Runs of a reading

Whatever a reading asks, it leaves a sound world sound. It changes neither what the
session has set nor where things lie, and takes answers from the registry in order.
-/

namespace Typeset

open FileCache

/-- What no question changes. -/
structure World.Keeps (before after : World) : Prop where
  root : after.root = before.root
  packages : after.packages = before.packages
  clock : after.clock.SetAlike before.clock
  markup : after.markup = before.markup
  inputs : after.inputs = before.inputs
  overlay : after.overlay = before.overlay
  responses : ∃ taken, before.host.responses = taken ++ after.host.responses

namespace World.Keeps

variable {first second third : World}

theorem refl (world : World) : world.Keeps world :=
  ⟨rfl, rfl, .refl _, rfl, rfl, rfl, [], rfl⟩

theorem trans (early : first.Keeps second) (late : second.Keeps third) : first.Keeps third := by
  rcases early.responses with ⟨taken, before⟩
  rcases late.responses with ⟨more, between⟩
  refine ⟨late.root.trans early.root, late.packages.trans early.packages,
    late.clock.trans early.clock, late.markup.trans early.markup, late.inputs.trans early.inputs,
    late.overlay.trans early.overlay, taken ++ more, ?_⟩
  simp only [before, between, List.append_assoc]

/-- If the registry gave no answer in two steps, it gave none in the first. -/
theorem quiet_first (early : first.Keeps second) (late : second.Keeps third)
    (quiet : third.host.responses = first.host.responses) :
    second.host.responses = first.host.responses := by
  rcases early.responses with ⟨taken, before⟩
  rcases late.responses with ⟨more, between⟩
  have lengths := congrArg List.length before
  simp only [between, List.length_append, quiet] at lengths
  have none_taken : taken = [] := List.length_eq_zero_iff.mp (by omega)
  simp only [before, none_taken, List.nil_append]

end World.Keeps

namespace Reading

variable {α β : Type}

theorem run_andThen (reading : Reading α) (follow : α → Reading β) (world : World) :
    (reading.andThen follow).run.run world =
      (follow (reading.run.run world).1).run.run (reading.run.run world).2 := by
  induction reading generalizing world with
  | done result => rfl
  | library next ih => exact ih _ _
  | book next ih => exact ih _ _
  | font index next ih => exact ih _ _
  | today request next ih => exact ih _ _
  | source id next ih => exact ih _ _
  | file id next ih => exact ih _ _

/-- The readings from disk whose fingerprints are taken in a run, newest first. -/
def loads : Reading α → World → List (Except FileError Bytes)
  | .done _, _ => []
  | .library next, world => (next world.library).loads world
  | .book next, world => (next world.book).loads world
  | .font index next, world =>
      (next ((World.font index).run world).1).loads ((World.font index).run world).2
  | .today request next, world =>
      (next ((World.today request).run world).1).loads ((World.today request).run world).2
  | .source id next, world =>
      (next ((World.source id).run world).1).loads ((World.source id).run world).2 ++
        world.loads ⟨id, .source⟩
  | .file id next, world =>
      (next ((World.file id).run world).1).loads ((World.file id).run world).2 ++
        world.loads ⟨id, .bytes⟩

/-- Ask what a key names and go on with the answer. -/
def question : (key : Key) → (Outcome key.kind.Value → Reading α) → Reading α
  | ⟨id, .source⟩, next => .source id next
  | ⟨id, .bytes⟩, next => .file id next

theorem run_question (key : Key) (next : Outcome key.kind.Value → Reading α) (world : World) :
    (question key next).run.run world =
      (next ((World.ask key).run world).1).run.run ((World.ask key).run world).2 := by
  rcases key with ⟨id, kind⟩
  cases kind <;> rfl

theorem loads_question (key : Key) (next : Outcome key.kind.Value → Reading α) (world : World) :
    (question key next).loads world =
      (next ((World.ask key).run world).1).loads ((World.ask key).run world).2 ++
        world.loads key := by
  rcases key with ⟨id, kind⟩
  cases kind <;> rfl

theorem keeps_ask {readings : List (Except FileError Bytes)} {world : World}
    (sound : world.Sound readings) (key : Key) : world.Keeps ((World.ask key).run world).2 := by
  rcases World.ask_moves sound key with ⟨sources, cache, host, moves, responses⟩
  simp only [moves]
  refine ⟨rfl, rfl, .refl _, rfl, rfl, rfl, ?_⟩
  rcases responses with quiet | ⟨response, taken⟩
  · exact ⟨[], quiet.symm⟩
  · exact ⟨[response], taken⟩

theorem font_moves (index : Int) (world : World) :
    ∃ fonts records, ((World.font index).run world).2 =
      { world with fonts := fonts }.report records := by
  simp only [World.font, bind, StateT.bind, StateT.run, get, getThe, MonadStateOf.get, StateT.get,
    pure]
  cases if 0 ≤ index then world.fonts.slots[index.toNat]? else none with
  | none => exact ⟨world.fonts, [], rfl⟩
  | some slot =>
      let slots := world.fonts.slots.set index.toNat (slot.get world.host.disk).2.1
      exact ⟨{ world.fonts with slots }, (slot.get world.host.disk).2.2, rfl⟩

theorem today_moves (request : DayRequest) (world : World) :
    ∃ clock, ((World.today request).run world).2 = { world with clock := clock } ∧
      clock.SetAlike world.clock := by
  refine ⟨(world.clock.today request).2, rfl, ?_⟩
  simp only [Clock.today, Clock.now]
  split <;> exact ⟨rfl, rfl⟩

/-- Whatever is asked, a sound world stays sound, with the readings that were hashed. -/
theorem sound_run {readings : List (Except FileError Bytes)} {world : World}
    (sound : world.Sound readings) (reading : Reading α) :
    (reading.run.run world).2.Sound (reading.loads world ++ readings) ∧
      world.Keeps (reading.run.run world).2 := by
  induction reading generalizing world readings with
  | done result => exact ⟨sound, .refl world⟩
  | library next ih => exact ih _ sound
  | book next ih => exact ih _ sound
  | font index next ih =>
      rcases font_moves index world with ⟨fonts, records, moves⟩
      have still : ((World.font index).run world).2.Sound readings := by
        simp only [moves]
        apply sound.elsewhere
      have keeps : world.Keeps ((World.font index).run world).2 := by
        simp only [moves]
        exact ⟨rfl, rfl, .refl _, rfl, rfl, rfl, [], (World.disk_foldl_record _ _).2.symm⟩
      rcases ih _ still with ⟨after, later⟩
      exact ⟨after, keeps.trans later⟩
  | today request next ih =>
      rcases today_moves request world with ⟨clock, moves, alike⟩
      have still : ((World.today request).run world).2.Sound readings := by
        simp only [moves]
        apply sound.elsewhere
      have keeps : world.Keeps ((World.today request).run world).2 := by
        simp only [moves]
        exact ⟨rfl, rfl, alike, rfl, rfl, rfl, [], rfl⟩
      rcases ih _ still with ⟨after, later⟩
      exact ⟨after, keeps.trans later⟩
  | source id next ih =>
      rcases ih _ (World.sound_ask sound ⟨id, .source⟩) with ⟨after, later⟩
      rw [← List.append_assoc] at after
      exact ⟨after, (keeps_ask sound ⟨id, .source⟩).trans later⟩
  | file id next ih =>
      rcases ih _ (World.sound_ask sound ⟨id, .bytes⟩) with ⟨after, later⟩
      rw [← List.append_assoc] at after
      exact ⟨after, (keeps_ask sound ⟨id, .bytes⟩).trans later⟩

end Reading

end Typeset
