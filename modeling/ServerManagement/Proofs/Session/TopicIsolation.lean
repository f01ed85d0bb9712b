import ServerManagement.Proofs.Session.OmittedSteps
import ServerManagement.Proofs.Session.Sights

/-!
The subscribers of one topic do not disturb the rest of a session. Without their steps calls end as
they do anyway and at the same steps, the same is sent, logged and counted, and every other
subscriber receives the same.
-/

set_option autoImplicit false

namespace ServerManagement

namespace Session

def Step.opens (topic : String) (token : Token) : Step → Bool
  | .openStream kind other => kind.topic == topic && other == token
  | _ => false

def omitting (topic : String) (steps : List Step) : Omission where
  topic
  owns token := steps.any (Step.opens topic token) &&
    steps.all fun next => !next.usesBeside topic token

def apart (omission : Omission) (marks : List Bool) (session : Session) :
    List Step → List (Option Step × Sight)
  | [] => []
  | next :: steps =>
    let kept := session.left? omission marks next
    let sight := session.sight next
    let answer :=
      if kept.isSome then sight.answer.moved marks (session.streamMarks omission) else .done
    (kept, { sight with answer }) ::
      apart omission (marks ++ session.handed omission next) (session.step next).2 steps

def sightsWithGaps (session : Session) : List (Option Step) → List Sight
  | [] => []
  | none :: steps => .silent session.pending :: session.sightsWithGaps steps
  | some next :: steps => session.sight next :: (session.step next).2.sightsWithGaps steps

variable {session : Session} {omission : Omission} {marks : List Bool} {next kept : Step}

theorem sight_answer (session : Session) (next : Step) :
    (session.sight next).answer = (session.step next).1 := rfl

/-! ## One step -/

theorem Fits.step (fits : session.Fits omission marks) (sound : session.Sound)
    (few : (session.step next).2.callCount < 2 ^ 64) (respects : next.Respects omission) :
    (session.step next).2.Fits omission (marks ++ session.handed omission next) :=
  (fits.act sound respects).settle (sound.act few)

theorem step_without (fits : session.Fits omission marks) (sound : session.Sound)
    (respects : next.Respects omission) (left : session.left? omission marks next = some kept) :
    (session.without omission marks).step kept =
      ((session.step next).1.moved marks (session.streamMarks omission),
        (session.step next).2.without omission
          (marks ++ session.handed omission next)) := by
  have acted := act_without fits respects left
  have settled := settle_without (fits.act sound respects)
  simp only [step, acted, settled]

theorem step_without_of_gone (fits : session.Fits omission marks) (sound : session.Sound)
    (still : (session.without omission marks).Still) (respects : next.Respects omission)
    (gone : session.left? omission marks next = none) :
    (session.step next).2.without omission (marks ++ session.handed omission next) =
      session.without omission marks := by
  have acted := act_without_of_gone fits gone
  have settled := settle_without (fits.act sound respects)
  rw [acted, still.settle_eq] at settled
  exact settled.symm

theorem sight_without (fits : session.Fits omission marks) (sound : session.Sound)
    (respects : next.Respects omission) (left : session.left? omission marks next = some kept) :
    (session.without omission marks).sight kept =
      { session.sight next with
        answer := (session.sight next).answer.moved marks (session.streamMarks omission) } := by
  have same := step_without fits sound respects left
  unfold sight
  rw [same]
  rfl

theorem sight_of_gone (fits : session.Fits omission marks) (sound : session.Sound)
    (still : (session.without omission marks).Still) (respects : next.Respects omission)
    (gone : session.left? omission marks next = none) :
    { session.sight next with answer := .done } =
      Sight.silent session.pending := by
  have same := step_without_of_gone fits sound still respects gone
  have history := congrArg Session.history same
  have pending := congrArg Session.pending same
  simp only [history_without, pending_without] at history pending
  have news : (session.sight next).news = [] := by
    change (session.step next).2.history.drop session.history.length = []
    rw [history, List.drop_length]
  change Sight.mk .done (session.sight next).news (session.step next).2.pending = _
  rw [news, pending]
  rfl

theorem Sound.without (sound : session.Sound) (omission : Omission) (marks : List Bool) :
    (session.without omission marks).Sound :=
  ⟨sound.accounts, sound.queuing, sound.waiters, sound.fresh⟩

/-! ## Runs -/

/-- A session and the same session without a topic go on alike. -/
theorem apart_unseen (fits : session.Fits omission marks) (sound : session.Sound)
    (still : (session.without omission marks).Still) (steps : List Step)
    (respects : ∀ next ∈ steps, next.Respects omission)
    (few : (session.run steps).callCount < 2 ^ 64) :
    (session.without omission marks).sightsWithGaps
        ((session.apart omission marks steps).map Prod.fst) =
      (session.apart omission marks steps).map Prod.snd ∧
    ∃ after, (session.without omission marks).run
        ((session.apart omission marks steps).filterMap Prod.fst) =
      (session.run steps).without omission after := by
  induction steps generalizing session marks with
  | nil => exact ⟨rfl, marks, rfl⟩
  | cons next steps ih =>
      have early := Nat.lt_of_le_of_lt (callCount_run_le _ steps) few
      have here := respects next (List.mem_cons_self ..)
      have later := fun other member => respects other (List.mem_cons_of_mem next member)
      have goesOn := fits.step sound early here
      cases left : session.left? omission marks next with
      | some kept =>
          -- The same step in both, which leaves the session at rest without the topic too.
          have same := step_without fits sound here left
          have seen := sight_without fits sound here left
          have rests : ((session.without omission marks).step kept).2.Still := by
            refine still_step (sound.without omission marks) ?_
            rw [same]
            exact early
          rw [same] at rests
          obtain ⟨sights, after, ran⟩ := ih goesOn (sound.step early) rests later few
          simp only [apart, left, List.map_cons, List.filterMap_cons, sightsWithGaps, run_cons,
            seen, same, sight_answer, sights, Option.isSome_some, if_true]
          exact ⟨trivial, after, ran⟩
      | none =>
          -- Nothing is done without the topic, and what is done with it is not seen.
          have same := step_without_of_gone fits sound still here left
          have unseen := sight_of_gone fits sound still here left
          obtain ⟨sights, after, ran⟩ := ih goesOn (sound.step early) (same ▸ still) later few
          rw [same] at sights ran
          simp only [apart, left, List.map_cons, List.filterMap_cons, sightsWithGaps, run_cons,
            sight_answer, sights, unseen, pending_without, Option.isSome_none,
            Bool.false_eq_true, if_false]
          exact ⟨trivial, after, ran⟩

theorem respects_omitting {topic : String} {steps : List Step} (member : next ∈ steps) :
    next.Respects (omitting topic steps) := by
  intro token own
  simp only [omitting, Bool.and_eq_true, List.all_eq_true, Bool.not_eq_true'] at own
  exact own.2 next member

theorem Fits.create (settings : Settings) (lineCapacity : Nat) (loggerPanics : Bool)
    (omission : Omission) : (create settings lineCapacity loggerPanics).Fits omission [] where
  board := ⟨rfl, fun _ member => absurd member List.not_mem_nil⟩
  streams := fun _ member => absurd member List.not_mem_nil
  calls := fun _ member => absurd member List.not_mem_nil

/-- Without the steps of the subscribers of one topic, and with all that comes in, a session goes
just so: every other step answers the same, the same occurs in it and as many calls are pending
after it, and in the steps that are left out nothing occurs. -/
theorem topic_isolated (settings : Settings) (lineCapacity : Nat) (loggerPanics : Bool)
    (topic : String) (steps : List Step)
    (few : ((create settings lineCapacity loggerPanics).run steps).callCount < 2 ^ 64) :
    let start := create settings lineCapacity loggerPanics
    let course := start.apart (omitting topic steps) [] steps
    start.sightsWithGaps (course.map Prod.fst) = course.map Prod.snd ∧
      (start.run (course.filterMap Prod.fst)).history = (start.run steps).history := by
  intro start course
  have whole : start.without (omitting topic steps) [] = start := rfl
  have fits : start.Fits (omitting topic steps) [] :=
    .create settings lineCapacity loggerPanics _
  have sound : start.Sound := .create settings lineCapacity loggerPanics
  have still : start.Still := .create settings lineCapacity loggerPanics
  obtain ⟨sights, after, ran⟩ := apart_unseen fits sound (whole ▸ still) steps
    (fun _ member => respects_omitting member) few
  have history := congrArg Session.history ran
  exact ⟨sights, history⟩

/-- A stream that is never read holds one event back until its token is cancelled. The other
subscriber and the call do without it. -/
theorem topic_isolated_of_unread_stream :
    let frame (text : String) : Step := .receive (.data (Json.bytesOf text))
    let saved := frame r#"{"method":"minecraft:notification/server/saved"}"#
    let steps : List Step := [.openStream .serverSaved "t", .subscribe "c",
      .call "a" .none .standard, saved, saved, frame r#"{"method":"c"}"#, .cancel "t",
      .readMailbox 1, frame r#"{"id":1,"result":true}"#]
    let start := create .standard 1024 false
    let course := start.apart (omitting EventKind.serverSaved.topic steps) [] steps
    (start.run steps).callCount < 2 ^ 64 ∧
      course.map (fun entry => entry.1.isSome) =
        [false, true, true, true, true, true, false, true, true] ∧
      course.map (fun entry => entry.2.pending) = [0, 0, 1, 1, 1, 1, 1, 1, 0] ∧
      start.sightsWithGaps (course.map Prod.fst) = course.map Prod.snd ∧
      (start.run (course.filterMap Prod.fst)).history = (start.run steps).history := by
  intro frame saved steps start course
  have few : (start.run steps).callCount < 2 ^ 64 := by decide +kernel
  obtain ⟨sights, history⟩ :=
    topic_isolated .standard 1024 false EventKind.serverSaved.topic steps few
  exact ⟨few, by decide +kernel, by decide +kernel, sights, history⟩

end Session

end ServerManagement
