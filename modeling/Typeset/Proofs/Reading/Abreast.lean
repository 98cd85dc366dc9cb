import Typeset.Proofs.Reading.Plain
import Typeset.Proofs.World.Replacing

/-!
# Readings abreast

Two readings go abreast if they ask the same questions, go on abreast whatever they are
answered, and end with results that belong together. Only for the main text each may be
given a source of its own. In two worlds that differ in nothing but the main text they
end with results that belong together.
-/

namespace Typeset.Reading

open FileCache

variable {α β γ δ : Type} {first second : Source} {agree : α → β → Prop}
  {agree' : γ → δ → Prop}

/-- Two readings that ask the same and of which each is given its own main text. -/
inductive Abreast (first second : Source) (agree : α → β → Prop) : Reading α → Reading β → Prop
  | done {result : α} {other : β} (agrees : agree result other) :
      Abreast first second agree (.done result) (.done other)
  | library {left : Library → Reading α} {right : Library → Reading β}
      (next : ∀ answer, Abreast first second agree (left answer) (right answer)) :
      Abreast first second agree (.library left) (.library right)
  | today {request : DayRequest} {left : Except Fault (Option Date) → Reading α}
      {right : Except Fault (Option Date) → Reading β}
      (next : ∀ answer, Abreast first second agree (left answer) (right answer)) :
      Abreast first second agree (.today request left) (.today request right)
  | mainText {left : Outcome Source → Reading α} {right : Outcome Source → Reading β}
      (next : Abreast first second agree (left (.value first)) (right (.value second))) :
      Abreast first second agree (.source .main left) (.source .main right)
  | other {key : Key} {left : Outcome key.kind.Value → Reading α}
      {right : Outcome key.kind.Value → Reading β} (elsewhere : key.id ≠ .main)
      (next : ∀ answer, Abreast first second agree (left answer) (right answer)) :
      Abreast first second agree (question key left) (question key right)

theorem Abreast.andThen {left : Reading α} {right : Reading β} {follow : α → Reading γ}
    {follow' : β → Reading δ} (abreast : Abreast first second agree left right)
    (rest : ∀ result other, agree result other →
      Abreast first second agree' (follow result) (follow' other)) :
    Abreast first second agree' (left.andThen follow) (right.andThen follow') := by
  induction abreast with
  | done agrees => exact rest _ _ agrees
  | library _ ih => exact .library ih
  | today _ ih => exact .today ih
  | mainText _ ih => exact .mainText ih
  | other elsewhere _ ih =>
      rw [andThen_question, andThen_question]
      exact .other elsewhere ih

/-- In worlds that differ only in the main text, results that belong together are reached. -/
theorem Abreast.run {left : Reading α} {right : Reading β}
    (abreast : Abreast first second agree left right) {world : World}
    (main : world.mainSource = first) (markup : String) :
    agree (left.run.run world).1
      (right.run.run (world.replacing markup second world.clock)).1 := by
  induction abreast generalizing world with
  | done agrees => exact agrees
  | library _ ih => exact ih world.library main
  | @today request _ _ _ ih =>
      have kept : ((World.today request).run world).2.mainSource = first := main
      exact ih ((World.today request).run world).1 kept
  | mainText _ ih =>
      have later := ih main
      rw [← main] at later
      exact later
  | @other key left right elsewhere _ ih =>
      rcases World.ask_keeps key world with ⟨_, sameMain, sameClock⟩
      have later := ih ((World.ask key).run world).1 (sameMain.trans main)
      rw [sameClock] at later
      rw [run_question, run_question, World.run_ask_replacing markup second world.clock elsewhere]
      exact later

/-! ## Steps that can break off -/

/-- Two results that belong together, or one fault that both were broken off by. -/
inductive EndAlike (agree : α → β → Prop) : Except Fault α → Except Fault β → Prop
  | ok {result : α} {other : β} (agrees : agree result other) :
      EndAlike agree (.ok result) (.ok other)
  | error (fault : Fault) : EndAlike agree (.error fault) (.error fault)

/-- Two steps go abreast as readings, and are broken off alike. -/
def AbreastStep (first second : Source) (agree : α → β → Prop) (left : ExceptT Fault Reading α)
    (right : ExceptT Fault Reading β) : Prop :=
  Abreast first second (EndAlike agree) left.run right.run

namespace AbreastStep

theorem pure {result : α} {other : β} (agrees : agree result other) :
    AbreastStep first second agree (Pure.pure result) (Pure.pure other) :=
  .done (.ok agrees)

theorem throw (fault : Fault) :
    AbreastStep first second agree (MonadExcept.throw fault) (MonadExcept.throw fault) :=
  .done (.error fault)

theorem bind {left : ExceptT Fault Reading α} {right : ExceptT Fault Reading β}
    {next : α → ExceptT Fault Reading γ} {next' : β → ExceptT Fault Reading δ}
    (abreast : AbreastStep first second agree left right)
    (rest : ∀ result other, agree result other →
      AbreastStep first second agree' (next result) (next' other)) :
    AbreastStep first second agree' (left >>= next) (right >>= next') := by
  apply abreast.andThen
  intro result other alike
  cases alike with
  | ok agrees => exact rest _ _ agrees
  | error fault => exact .done (.error fault)

theorem library {next : Library → ExceptT Fault Reading α}
    {next' : Library → ExceptT Fault Reading β}
    (rest : ∀ answer, AbreastStep first second agree (next answer) (next' answer)) :
    AbreastStep first second agree (ExceptT.lift askLibrary >>= next)
      (ExceptT.lift askLibrary >>= next') :=
  Abreast.library rest

theorem today {request : DayRequest} {next : Except Fault (Option Date) → ExceptT Fault Reading α}
    {next' : Except Fault (Option Date) → ExceptT Fault Reading β}
    (rest : ∀ answer, AbreastStep first second agree (next answer) (next' answer)) :
    AbreastStep first second agree (ExceptT.lift (askToday request) >>= next)
      (ExceptT.lift (askToday request) >>= next') :=
  Abreast.today rest

theorem mainText {next : Outcome Source → ExceptT Fault Reading α}
    {next' : Outcome Source → ExceptT Fault Reading β}
    (rest : AbreastStep first second agree (next (.value first)) (next' (.value second))) :
    AbreastStep first second agree (ExceptT.lift (askSource .main) >>= next)
      (ExceptT.lift (askSource .main) >>= next') :=
  Abreast.mainText rest

theorem source {id : FileId} {next : Outcome Source → ExceptT Fault Reading α}
    {next' : Outcome Source → ExceptT Fault Reading β} (elsewhere : id ≠ .main)
    (rest : ∀ answer, AbreastStep first second agree (next answer) (next' answer)) :
    AbreastStep first second agree (ExceptT.lift (askSource id) >>= next)
      (ExceptT.lift (askSource id) >>= next') :=
  @Abreast.other _ _ _ _ _ ⟨id, .source⟩ _ _ elsewhere rest

theorem file {id : FileId} {next : Outcome Bytes → ExceptT Fault Reading α}
    {next' : Outcome Bytes → ExceptT Fault Reading β} (elsewhere : id ≠ .main)
    (rest : ∀ answer, AbreastStep first second agree (next answer) (next' answer)) :
    AbreastStep first second agree (ExceptT.lift (askFile id) >>= next)
      (ExceptT.lift (askFile id) >>= next') :=
  @Abreast.other _ _ _ _ _ ⟨id, .bytes⟩ _ _ elsewhere rest

end AbreastStep

end Typeset.Reading
