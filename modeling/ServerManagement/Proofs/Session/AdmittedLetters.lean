import ServerManagement.Proofs.Session.BackPressure
import ServerManagement.Proofs.Session.Transmission

/-!
Only letters that have entered the queue get any further: what the writer puts on the line, what it
has in its hand and what is queued are letters that were admitted, in the order of their admission.
-/

set_option autoImplicit false

namespace ServerManagement

theorem OutboundChange.handed {outbound later : Outbound} (change : OutboundChange outbound later) :
    (later.writer.letters ++ later.queue).Sublist (outbound.writer.letters ++ outbound.queue) := by
  cases change with
  | post | withdraw | stop | linger | farewell | pause | resume | vanish => exact .refl _
  | abort => exact List.nil_sublist _
  | giveUp left deadline closing => exact List.sublist_append_right _ _

theorem OutboundChanges.handed {outbound later : Outbound}
    (changes : OutboundChanges outbound later) :
    (later.writer.letters ++ later.queue).Sublist (outbound.writer.letters ++ outbound.queue) := by
  induction changes with
  | refl => exact .refl _
  | tail _ last ih => exact last.handed.trans ih

namespace Outbound

variable {terms : WriteTerms} {outbound after : Outbound} {effects : List Effect}

/-- A letter that is sent was sent before or is admitted now. -/
theorem Move.admits (move : Move terms outbound effects after) (orderly : outbound.Orderly) :
    ((effects.filterMap Effect.letter? ++ after.sent).map Letter.call).Sublist
      (outbound.sent.map Letter.call ++ effects.filterMap Effect.admitted?) := by
  cases move with
  | refuse =>
      rw [letters_closeQueue, admitted_closeQueue, List.append_nil]
      exact .refl _
  | accept letter waiting waits => simp [sent, Effect.letter?, Effect.admitted?]
  | deliver letter queue hands reads =>
      have empty := orderly.letters_eq_nil reads
      rw [sent_of_hands hands]
      simp [sent, Writer.letters, empty, Effect.letter?, Arrival.letter?]
  | send letter queue heldBytes hands =>
      rw [sent_of_hands hands]
      simp [sent, Writer.letters, Line.letters, Arrival.letter?]
  | block letter queue left hands =>
      rw [sent_of_hands hands]
      simp [sent, Writer.letters, Line.letters]
  | lose letter queue hands =>
      have silent : [Effect.logged writeFailed].filterMap Effect.letter? = [] := rfl
      rw [sent_of_hands hands, silent]
      simp [sent, Writer.letters]
  | crash letter queue hands =>
      have none := letters_closeQueue outbound
      simp only [halt, List.filterMap_cons, Effect.letter?, none]
      simp [sent, closeQueue, Writer.letters]
  | close effects line writer ends closes =>
      have none : effects.filterMap Effect.letter? = [] := filterMap_of_silent closes.silent rfl
      obtain ⟨same, empty⟩ := closes.letters
      simp [sent, none, same, empty, ends.letters]

theorem admits_settle (terms : WriteTerms) (outbound : Outbound) (orderly : outbound.Orderly) :
    (((outbound.settle terms).1.filterMap Effect.letter? ++
      (outbound.settle terms).2.sent).map Letter.call).Sublist
      (outbound.sent.map Letter.call ++ (outbound.settle terms).1.filterMap Effect.admitted?) := by
  refine settle_induction (fun outbound effects after => outbound.Orderly →
    ((effects.filterMap Effect.letter? ++ after.sent).map Letter.call).Sublist
      (outbound.sent.map Letter.call ++ effects.filterMap Effect.admitted?)) ?_ ?_ outbound orderly
  · intro outbound _
    simp
  · intro outbound effects middle later settled move rest orderly
    have first := move.admits orderly
    have others := rest (move.orderly orderly)
    rw [List.map_append] at first
    rw [List.filterMap_append, List.filterMap_append, List.append_assoc, List.map_append]
    refine (others.append_left _).trans ?_
    rw [← List.append_assoc, ← List.append_assoc]
    exact first.append_right _

theorem puts_sublist_admitted (terms : WriteTerms) (outbound : Outbound)
    (orderly : outbound.Orderly) :
    ((outbound.puts terms ++ ((outbound.settle terms).2.writer.letters ++
      (outbound.settle terms).2.queue)).map Letter.call).Sublist
      ((outbound.writer.letters ++ outbound.queue).map Letter.call ++
        (outbound.settle terms).1.filterMap Effect.admitted?) := by
  have admitted := admits_settle terms outbound orderly
  rw [sent, sent, ← List.append_assoc, ← append_puts terms outbound orderly] at admitted
  simp only [List.map_append, List.append_assoc] at admitted ⊢
  exact (List.append_sublist_append_left _).mp admitted

end Outbound

namespace Session

variable {session : Session} {steps : List Step}

theorem step_admits (flowing : session.Flowing)
    (still : session.outbound.move? session.writeTerms = none) (next : Step) :
    ((session.puts next ++ ((session.step next).2.outbound.writer.letters ++
      (session.step next).2.outbound.queue)).map Letter.call).Sublist
      ((session.outbound.writer.letters ++ session.outbound.queue).map Letter.call ++
        session.admits next) := by
  have acted := (changes_act still next).handed
  have moved := Outbound.puts_sublist_admitted (session.act next).2.writeTerms _
    (flowing.act next).orderly
  have settled := (changes_settle (session.act next).2).handed
  exact ((settled.append_left _).map _).trans (moved.trans ((acted.map _).append_right _))

/-- What is put on the line over some steps, or is about to be after them, was about to be before
them or is admitted in them. -/
theorem run_admits (flowing : session.Flowing)
    (still : session.outbound.move? session.writeTerms = none) (steps : List Step) :
    ((session.transmissions steps ++ ((session.run steps).outbound.writer.letters ++
      (session.run steps).outbound.queue)).map Letter.call).Sublist
      ((session.outbound.writer.letters ++ session.outbound.queue).map Letter.call ++
        session.admissions steps) := by
  induction steps generalizing session with
  | nil => simp [transmissions, admissions, along]
  | cons next steps ih =>
      have first := step_admits flowing still next
      have rest := ih (flowing.step next) (loopsRest_settle (session.act next).2).outbound
      simp only [transmissions, admissions, along, run_cons] at rest ⊢
      rw [List.map_append] at first
      rw [List.append_assoc, List.map_append]
      refine (rest.append_left _).trans ?_
      rw [← List.append_assoc, ← List.append_assoc]
      exact first.append_right _

/-- The letters that have left the line of those who wait for room, wherever they are: written
before, arrived, under way, or on their way to the line. -/
def launched (session : Session) (steps : List Step) : List Letter :=
  session.transmissions steps ++ (session.run steps).delivered ++ (session.run steps).outbound.sent

theorem launched_admitted (settings : Settings) (lineCapacity : Nat) (loggerPanics : Bool)
    (steps : List Step) :
    let start := create settings lineCapacity loggerPanics
    ∀ letter ∈ start.launched steps, letter.call ∈ start.admissions steps ∧
      ∃ issue ∈ start.issues steps, issue.letter = letter := by
  intro start letter launched
  have flowing : start.Flowing := .create settings lineCapacity loggerPanics
  have admitted : ∀ letter ∈ start.transmissions steps ++
      ((start.run steps).outbound.writer.letters ++ (start.run steps).outbound.queue),
      letter.call ∈ start.admissions steps ∧
        ∃ issue ∈ start.issues steps, issue.letter = letter := by
    intro letter member
    constructor
    · exact (run_admits flowing rfl steps).subset (List.mem_map_of_mem member)
    · have issued := (run_unwritten flowing steps).subset
      refine List.mem_map.mp (issued ?_)
      rw [Outbound.unwritten, ← List.append_assoc _ _ (Outbound.waiting _), ← List.append_assoc]
      exact List.mem_append_left _ member
  have passed := (run_passed flowing steps).subset
  simp only [Session.launched, Outbound.sent, List.mem_append] at launched
  rcases launched with (written | arrived) | underWay | handed
  · exact admitted letter (List.mem_append_left _ written)
  · exact admitted letter (List.mem_append_left _ (passed (List.mem_append_left _ arrived)))
  · exact admitted letter (List.mem_append_left _ (passed (List.mem_append_right _ underWay)))
  · exact admitted letter (List.mem_append_right _ (List.mem_append.mpr handed))

end Session

end ServerManagement
