import ServerManagement.Proofs.Session.Moves

/-!
The order of letters on the way out. They never overtake each other, and while they are served none
that entered the queue is lost.
-/

set_option autoImplicit false

namespace ServerManagement

namespace Outbound

/-- The letters that have entered the queue and have not reached the peer. -/
def sent (outbound : Outbound) : List Letter :=
  outbound.line.letters ++ (outbound.writer.letters ++ outbound.queue)

/-- All letters that have not reached the peer. -/
def letters (outbound : Outbound) : List Letter := outbound.sent ++ outbound.waiting

variable {terms : WriteTerms} {outbound after : Outbound} {effects : List Effect}

/-! ## Order -/

def Orderly (outbound : Outbound) : Prop :=
  outbound.line.peer ≠ .paused → outbound.line.underWay = []

theorem Orderly.letters_eq_nil (orderly : outbound.Orderly)
    (reads : outbound.line.peer = .reading) : outbound.line.letters = [] := by
  have none : outbound.line.underWay = [] := orderly (by rw [reads]; decide)
  rw [Line.letters, none]
  rfl

theorem sent_of_hands {letter : Letter} {queue : List Letter}
    (hands : outbound.Hands letter queue) :
    outbound.sent = outbound.line.letters ++ letter :: queue := by
  cases hands with
  | next idle queued _ => simp [sent, idle, queued, Writer.letters]
  | blocked left blocked queued => simp [sent, blocked, queued, Writer.letters]

theorem Move.orderly (move : Move terms outbound effects after) (orderly : outbound.Orderly) :
    after.Orderly := by
  cases move with
  | send letter queue heldBytes hands pauses => exact fun moves => absurd pauses moves
  | block letter queue left hands pauses => exact fun moves => absurd pauses moves
  | close effects line writer _ closes =>
      intro moves
      change line.peer ≠ .paused at moves
      rw [closes.flags.1] at moves
      exact (closes.underWay moves).trans (orderly moves)
  | refuse | accept | deliver | lose | crash => exact orderly

/-- No letter overtakes another, and none comes from nowhere. -/
theorem Move.sublist (move : Move terms outbound effects after) (orderly : outbound.Orderly) :
    (effects.filterMap Effect.letter? ++ after.letters).Sublist outbound.letters := by
  cases move with
  | refuse =>
      rw [letters_closeQueue]
      simp [letters, sent, closeQueue]
  | accept letter waiting waits => simp [letters, sent, waits, Effect.letter?]
  | deliver letter queue hands reads =>
      have empty := orderly.letters_eq_nil reads
      rw [letters, letters, sent_of_hands hands]
      simp [sent, Writer.letters, empty, Effect.letter?, Arrival.letter?]
  | send letter queue heldBytes hands =>
      rw [letters, letters, sent_of_hands hands]
      simp [sent, Writer.letters, Line.letters, Arrival.letter?]
  | block letter queue left hands =>
      rw [letters, letters, sent_of_hands hands]
      simp [sent, Writer.letters, Line.letters]
  | lose letter queue hands =>
      have silent : [Effect.logged writeFailed].filterMap Effect.letter? = [] := rfl
      rw [letters, letters, sent_of_hands hands, silent]
      simp [sent, Writer.letters]
  | crash letter queue hands =>
      have none := letters_closeQueue outbound
      simp only [halt, List.filterMap_cons, Effect.letter?, none]
      simp [letters, sent, closeQueue, Writer.letters]
  | close effects line writer ends closes =>
      have none : effects.filterMap Effect.letter? = [] := filterMap_of_silent closes.silent rfl
      obtain ⟨same, empty⟩ := closes.letters
      simp [letters, sent, none, same, empty, ends.letters]

theorem sublist_settle (terms : WriteTerms) (outbound : Outbound) (orderly : outbound.Orderly) :
    ((outbound.settle terms).1.filterMap Effect.letter? ++
      (outbound.settle terms).2.letters).Sublist outbound.letters ∧
      (outbound.settle terms).2.Orderly := by
  refine settle_induction (fun outbound effects after => outbound.Orderly →
    (effects.filterMap Effect.letter? ++ after.letters).Sublist outbound.letters ∧
      after.Orderly) ?_ ?_ outbound orderly
  · intro outbound orderly
    exact ⟨.refl _, orderly⟩
  · intro outbound effects middle later settled move rest orderly
    obtain ⟨ordered, restOrderly⟩ := rest (move.orderly orderly)
    refine ⟨?_, restOrderly⟩
    rw [List.filterMap_append, List.append_assoc]
    exact (ordered.append_left _).trans (move.sublist orderly)

/-! ## Service -/

/-- The connection has not been stopped and no write fails. -/
structure Serving (outbound : Outbound) : Prop where
  runs : outbound.isStopping = false
  present : outbound.line.peer ≠ .gone
  unclosed : outbound.line.isClosing = false

structure Working (outbound : Outbound) : Prop where
  takes : outbound.isOpen = true
  writes : outbound.writer = .idle ∨ ∃ letter left, outbound.writer = .blocked letter left

theorem Working.not_closing (working : outbound.Working) {left deadline : Nat} :
    outbound.writer ≠ .closing left deadline := by
  intro closing
  rcases working.writes with idle | ⟨letter, left, blocked⟩
  · rw [closing] at idle
    cases idle
  · rw [closing] at blocked
    cases blocked

theorem Move.flags (move : Move terms outbound effects after) :
    after.isStopping = outbound.isStopping ∧ after.line.peer = outbound.line.peer ∧
      after.line.isClosing = outbound.line.isClosing := by
  cases move with
  | close effects line writer _ closes => exact ⟨rfl, closes.flags⟩
  | refuse | accept | deliver | send | block | lose | crash => exact ⟨rfl, rfl, rfl⟩

theorem Move.serving_iff (move : Move terms outbound effects after) :
    after.Serving ↔ outbound.Serving := by
  obtain ⟨isStopping, peer, isClosing⟩ := move.flags
  constructor
  · rintro ⟨runs, present, unclosed⟩
    exact ⟨isStopping ▸ runs, peer ▸ present, isClosing ▸ unclosed⟩
  · rintro ⟨runs, present, unclosed⟩
    exact ⟨isStopping.trans runs, fun gone => present (peer ▸ gone), isClosing.trans unclosed⟩

/-- While the way out serves, the letters that enter the queue are those that leave it, in order. -/
theorem Move.conserves (move : Move terms outbound effects after) (orderly : outbound.Orderly)
    (serving : outbound.Serving) (working : outbound.Working) :
    after.Working ∧ (effects.filterMap Effect.letter? ++ after.sent).map Letter.call =
      outbound.sent.map Letter.call ++ effects.filterMap Effect.admitted? := by
  cases move with
  | refuse stops =>
      rcases stops with stops | closed
      · rw [serving.runs] at stops
        cases stops
      · rw [working.takes] at closed
        cases closed
  | accept letter waiting waits =>
      exact ⟨⟨working.takes, working.writes⟩, by simp [sent, Effect.letter?, Effect.admitted?]⟩
  | deliver letter queue hands reads =>
      have empty := orderly.letters_eq_nil reads
      have passed : [Effect.arrived (.letter letter)].filterMap Effect.letter? = [letter] ∧
          [Effect.arrived (.letter letter)].filterMap Effect.admitted? = [] := ⟨rfl, rfl⟩
      refine ⟨⟨working.takes, .inl rfl⟩, ?_⟩
      rw [sent_of_hands hands, passed.1, passed.2]
      simp [sent, Writer.letters, empty]
  | send letter queue heldBytes hands =>
      refine ⟨⟨working.takes, .inl rfl⟩, ?_⟩
      rw [sent_of_hands hands]
      simp [sent, Writer.letters, Line.letters, Arrival.letter?]
  | block letter queue left hands =>
      refine ⟨⟨working.takes, .inr ⟨letter, left, rfl⟩⟩, ?_⟩
      rw [sent_of_hands hands]
      simp [sent, Writer.letters, Line.letters]
  | lose letter queue hands fails | crash letter queue hands fails =>
      rcases fails with gone | closes
      · exact absurd gone serving.present
      · rw [serving.unclosed] at closes
        cases closes
  | close effects line writer ends =>
      cases ends with
      | idle _ closed =>
          rw [working.takes] at closed
          cases closed
      | closing left deadline closing => exact absurd closing working.not_closing

theorem conserves_settle (terms : WriteTerms) (outbound : Outbound) (orderly : outbound.Orderly)
    (serving : outbound.Serving) (working : outbound.Working) :
    (outbound.settle terms).2.Working ∧
      ((outbound.settle terms).1.filterMap Effect.letter? ++
        (outbound.settle terms).2.sent).map Letter.call =
        outbound.sent.map Letter.call ++ (outbound.settle terms).1.filterMap Effect.admitted? := by
  refine settle_induction (fun outbound effects after => outbound.Orderly →
    outbound.Serving → outbound.Working → after.Working ∧
      (effects.filterMap Effect.letter? ++ after.sent).map Letter.call =
        outbound.sent.map Letter.call ++ effects.filterMap Effect.admitted?)
    ?_ ?_ outbound orderly serving working
  · intro outbound _ _ working
    exact ⟨working, by simp⟩
  · intro outbound effects middle later settled move rest orderly serving working
    obtain ⟨middleWorking, conserved⟩ := move.conserves orderly serving working
    obtain ⟨settledWorking, restConserved⟩ :=
      rest (move.orderly orderly) (move.serving_iff.mpr serving) middleWorking
    refine ⟨settledWorking, ?_⟩
    rw [List.filterMap_append, List.filterMap_append, List.append_assoc, List.map_append,
      restConserved, ← List.append_assoc, ← List.append_assoc, ← conserved, List.map_append]

theorem flags_settle (terms : WriteTerms) (outbound : Outbound) :
    (outbound.settle terms).2.isStopping = outbound.isStopping ∧
      (outbound.settle terms).2.line.peer = outbound.line.peer ∧
      (outbound.settle terms).2.line.isClosing = outbound.line.isClosing := by
  refine settle_induction (fun outbound _ after =>
    after.isStopping = outbound.isStopping ∧ after.line.peer = outbound.line.peer ∧
      after.line.isClosing = outbound.line.isClosing) ?_ ?_ outbound
  · intro outbound
    exact ⟨rfl, rfl, rfl⟩
  · rintro outbound effects middle later settled move ⟨isStopping, peer, isClosing⟩
    have first := move.flags
    exact ⟨isStopping.trans first.1, peer.trans first.2.1, isClosing.trans first.2.2⟩

/-- When nothing can move and the peer reads, every letter that entered the queue has arrived. -/
theorem sent_eq_nil (still : outbound.move? terms = none) (orderly : outbound.Orderly)
    (serving : outbound.Serving) (working : outbound.Working)
    (reads : outbound.line.peer = .reading) : outbound.sent = [] := by
  have moves : outbound.lineMoves = true := by simp [lineMoves, reads]
  -- Who waits while the queue is open either gets in or leaves the move to the writer.
  have writerStill : outbound.write? terms = none := by
    unfold move? at still
    split at still
    · exact still
    · rw [working.takes] at still
      simp only [Bool.not_true, Bool.false_eq_true, if_false] at still
      split at still
      · cases still
      · exact still
  have empty := orderly.letters_eq_nil reads
  unfold write? at writerStill
  rcases working.writes with idle | ⟨letter, left, blocked⟩
  · simp only [idle, heedsStop, serving.runs, Bool.false_and, Bool.false_eq_true, if_false]
      at writerStill
    cases queued : outbound.queue with
    | nil => simp [sent, empty, idle, queued, Writer.letters]
    | cons letter queue => simp [queued] at writerStill
  · simp [blocked, moves] at writerStill

/-! ## Onto the line -/

def unwritten (outbound : Outbound) : List Letter :=
  outbound.writer.letters ++ (outbound.queue ++ outbound.waiting)

/-- The letters that the writer puts on the line until nothing can move, whether they arrive at once
or later. -/
def puts (terms : WriteTerms) (outbound : Outbound) : List Letter :=
  ((outbound.settle terms).1.filterMap Effect.letter? ++
    (outbound.settle terms).2.line.letters).drop outbound.line.letters.length

theorem letters_eq (outbound : Outbound) :
    outbound.letters = outbound.line.letters ++ outbound.unwritten := by
  simp only [letters, sent, unwritten, List.append_assoc]

/-- What is on the line arrives before what is put there. -/
theorem Move.arrivesFirst (move : Move terms outbound effects after) (orderly : outbound.Orderly) :
    outbound.line.letters <+: effects.filterMap Effect.letter? ++ after.line.letters := by
  cases move with
  | refuse =>
      rw [letters_closeQueue]
      exact List.prefix_rfl
  | deliver letter queue hands reads =>
      have empty := orderly.letters_eq_nil reads
      rw [empty]
      exact List.nil_prefix
  | send letter =>
      have put : Line.letters { outbound.line with
          underWay := outbound.line.underWay ++ [.letter letter] } =
          outbound.line.letters ++ [letter] := by
        simp [Line.letters, Arrival.letter?]
      exact put ▸ List.prefix_append _ _
  | crash =>
      have none := letters_closeQueue outbound
      simp only [halt, List.filterMap_cons, Effect.letter?, none]
      exact List.prefix_rfl
  | close effects line writer _ closes =>
      have none : effects.filterMap Effect.letter? = [] := filterMap_of_silent closes.silent rfl
      rw [none, closes.letters.1]
      exact List.prefix_rfl
  | accept | block | lose => exact List.prefix_rfl

theorem arrivesFirst_settle (terms : WriteTerms) (outbound : Outbound)
    (orderly : outbound.Orderly) :
    outbound.line.letters <+:
      (outbound.settle terms).1.filterMap Effect.letter? ++
        (outbound.settle terms).2.line.letters := by
  refine settle_induction (fun outbound effects after => outbound.Orderly →
    outbound.line.letters <+: effects.filterMap Effect.letter? ++ after.line.letters)
    ?_ ?_ outbound orderly
  · intro outbound _
    exact List.prefix_rfl
  · intro outbound effects middle later settled move rest orderly
    rw [List.filterMap_append, List.append_assoc]
    exact (move.arrivesFirst orderly).trans
      ((List.prefix_append_right_inj _).mpr (rest (move.orderly orderly)))

theorem append_puts (terms : WriteTerms) (outbound : Outbound) (orderly : outbound.Orderly) :
    outbound.line.letters ++ outbound.puts terms =
      (outbound.settle terms).1.filterMap Effect.letter? ++
        (outbound.settle terms).2.line.letters :=
  List.prefix_iff_eq_append.mp (arrivesFirst_settle terms outbound orderly)

/-- The letters that are put on the line are the first of those that were not. -/
theorem puts_sublist (terms : WriteTerms) (outbound : Outbound) (orderly : outbound.Orderly) :
    (outbound.puts terms ++ (outbound.settle terms).2.unwritten).Sublist outbound.unwritten := by
  have ordered := (sublist_settle terms outbound orderly).1
  rw [letters_eq, letters_eq, ← List.append_assoc, ← append_puts terms outbound orderly,
    List.append_assoc] at ordered
  exact (List.append_sublist_append_left _).mp ordered

theorem puts_eq_admitted (terms : WriteTerms) (outbound : Outbound) (orderly : outbound.Orderly)
    (serving : outbound.Serving) (working : outbound.Working) :
    (outbound.puts terms ++ ((outbound.settle terms).2.writer.letters ++
      (outbound.settle terms).2.queue)).map Letter.call =
      (outbound.writer.letters ++ outbound.queue).map Letter.call ++
        (outbound.settle terms).1.filterMap Effect.admitted? := by
  have conserved := (conserves_settle terms outbound orderly serving working).2
  rw [sent, sent, ← List.append_assoc, ← append_puts terms outbound orderly] at conserved
  simp only [List.map_append, List.append_assoc] at conserved ⊢
  exact List.append_cancel_left conserved

end Outbound

end ServerManagement
