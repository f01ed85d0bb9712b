import ServerManagement.Proofs.Session.Sights

/-!
Responses that nobody waits for: late ones, second ones, and ones whose identifiers were never drawn
or will only be drawn later. They leave no trace in a session.
-/

set_option autoImplicit false

namespace ServerManagement

namespace Session

/-- The reader deals with a response whose identifier has no entry in the table. -/
def Unmatched (session : Session) (frame : Step) : Prop :=
  ∃ response, session.heard? frame = some response ∧
    ∀ id, response.id = some id → id ∉ session.correlator.entries.keys

variable {session : Session} {frame : Step} {frames : List Step}

theorem resolve_of_unmatched {response : Response}
    (unlisted : ∀ id, response.id = some id → id ∉ session.correlator.entries.keys) :
    (session.correlator.resolve response).2 = session.correlator := by
  cases meant : response.id with
  | none => simp [Correlator.resolve, meant]
  | some id =>
      have absent : session.correlator.entries.find? id = none := by
        refine Option.eq_none_iff_forall_ne_some.mpr fun ticket listed => ?_
        exact unlisted id meant ((Directory.mem_keys_iff ..).mpr ⟨ticket, listed⟩)
      rw [Correlator.resolve_of_unlisted meant absent]

/-- Nothing happens when an unmatched response comes in. -/
theorem act_of_unmatched (unmatched : session.Unmatched frame) :
    session.act frame = (.done, session) := by
  obtain ⟨response, heard, unlisted⟩ := unmatched
  cases frame with
  | receive incoming =>
      have received := receive_of_heard heard
      simp only [act, received, resolve_of_unmatched unlisted]
  | _ => cases heard

theorem Still.run_unmatched (still : session.Still)
    (unmatched : ∀ frame ∈ frames, session.Unmatched frame) : session.run frames = session := by
  induction frames with
  | nil => rfl
  | cons frame frames ih =>
      have first := still.step_eq
        (congrArg Prod.snd (act_of_unmatched (unmatched frame (List.mem_cons_self ..))))
      rw [run_cons, first]
      exact ih fun other member => unmatched other (List.mem_cons_of_mem _ member)

theorem Still.sights_unmatched (still : session.Still)
    (unmatched : ∀ frame ∈ frames, session.Unmatched frame) :
    session.sights frames = frames.map fun _ => .silent session.pending := by
  induction frames with
  | nil => rfl
  | cons frame frames ih =>
      have acted := act_of_unmatched (unmatched frame (List.mem_cons_self ..))
      have first := still.step_eq (congrArg Prod.snd acted)
      rw [sights_cons, first, still.sight_eq (congrArg Prod.snd acted), acted, List.map_cons,
        ih fun other member => unmatched other (List.mem_cons_of_mem _ member)]
      rfl

/-- Responses that nobody waits for may come at any point and in any number: they show nothing
themselves, and the rest of the session goes as if they had not come. -/
theorem unmatched_responses_unseen (settings : Settings) (lineCapacity : Nat)
    (loggerPanics : Bool) (before frames after : List Step)
    (few : ((create settings lineCapacity loggerPanics).run before).callCount < 2 ^ 64)
    (unmatched : ∀ frame ∈ frames,
      ((create settings lineCapacity loggerPanics).run before).Unmatched frame) :
    let start := create settings lineCapacity loggerPanics
    let session := start.run before
    start.run (before ++ frames ++ after) = start.run (before ++ after) ∧
      start.sights (before ++ after) = start.sights before ++ session.sights after ∧
      start.sights (before ++ frames ++ after) =
        start.sights before ++ (frames.map fun _ => Sight.silent session.pending) ++
          session.sights after := by
  intro start session
  have still : session.Still := still_run settings lineCapacity loggerPanics before few
  have passed : start.run (before ++ frames) = session := by
    rw [run_append]
    exact still.run_unmatched unmatched
  refine ⟨?_, sights_append .., ?_⟩
  · rw [run_append, passed, run_append]
  · rw [sights_append, passed, sights_append, still.sights_unmatched unmatched]

/-- A response that comes a second time, one to a call that has been given up, and one to a call
that is made later: the later call still waits for its own. -/
theorem unmatched_responses_unseen_of_three :
    let response (text : String) : Step := .receive (.data (Json.bytesOf text))
    let before : List Step := [.call "a" .none .standard, .call "b" .none .standard,
      response r#"{"id":1,"result":true}"#, .abandonCall 1]
    let frames : List Step := [response r#"{"id":1,"result":false}"#,
      response r#"{"id":2}"#, response r#"{"id":3}"#]
    let start := create .standard 1024 false
    (start.run before).callCount < 2 ^ 64 ∧ (∀ frame ∈ frames, (start.run before).Unmatched frame) ∧
      start.run (before ++ frames ++ [.call "c" .none .standard]) =
        start.run (before ++ [.call "c" .none .standard]) ∧
      (start.run (before ++ frames ++ [.call "c" .none .standard])).pending = 1 := by
  intro response before frames start
  have few : (start.run before).callCount < 2 ^ 64 := by decide +kernel
  have unmatched : ∀ frame ∈ frames, (start.run before).Unmatched frame := by
    have none : (start.run before).correlator.entries.keys = [] := by decide +kernel
    have heard : ∀ frame ∈ frames, ((start.run before).heard? frame).isSome := by decide +kernel
    intro frame member
    obtain ⟨response, heard⟩ := Option.isSome_iff_exists.mp (heard frame member)
    exact ⟨response, heard, fun id _ listed => by rw [none] at listed; cases listed⟩
  have same := (unmatched_responses_unseen .standard 1024 false before frames
    [.call "c" .none .standard] few unmatched).1
  refine ⟨few, unmatched, same, ?_⟩
  rw [same]
  decide +kernel

end Session

end ServerManagement
