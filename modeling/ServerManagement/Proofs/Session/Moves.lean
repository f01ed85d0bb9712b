import ServerManagement.Proofs.Session.Trace

/-!
What can move on the way out. A move admits a letter, refuses those who wait, or lets the writer go
on with the letter in its hand; those who wait are admitted in turn.
-/

set_option autoImplicit false

namespace ServerManagement

def Effect.letter? : Effect → Option Letter
  | .arrived arrival => arrival.letter?
  | .logged _ | .admitted _ | .refused _ => none

def Line.letters (line : Line) : List Letter := line.underWay.filterMap Arrival.letter?

/-- The letter that is partly on the line. -/
def Writer.letters : Writer → List Letter
  | .blocked letter _ => [letter]
  | .idle | .closing _ _ | .ended | .crashed | .aborted => []

namespace Outbound

inductive Hands (outbound : Outbound) (letter : Letter) (rest : List Letter) : Prop where
  | next (idle : outbound.writer = .idle) (queued : outbound.queue = letter :: rest)
      (lingers : outbound.heedsStop = false)
  | blocked (left : Nat) (blocked : outbound.writer = .blocked letter left)
      (queued : outbound.queue = rest)

inductive Ends (terms : WriteTerms) (outbound : Outbound) : Nat → Prop where
  | idle (idle : outbound.writer = .idle) (closed : outbound.isOpen = false)
      (empty : outbound.queue = []) : Ends terms outbound terms.closeDeadline
  | closing (left deadline : Nat) (closing : outbound.writer = .closing left deadline) :
      Ends terms outbound deadline

inductive Closes (line : Line) (deadline : Nat) : List Effect → Line → Writer → Prop where
  | deliver (reads : line.peer = .reading) : Closes line deadline [.arrived .close] line .ended
  | send (heldBytes : Nat) (pauses : line.peer = .paused) :
      Closes line deadline [] { line with heldBytes, underWay := line.underWay ++ [.close] } .ended
  | block (left heldBytes : Nat) (pauses : line.peer = .paused) :
      Closes line deadline [] { line with heldBytes } (.closing left deadline)
  | lose (gone : line.peer = .gone) : Closes line deadline [] line .ended

inductive Move (terms : WriteTerms) (outbound : Outbound) : List Effect → Outbound → Prop where
  | refuse (stops : outbound.isStopping ∨ outbound.isOpen = false) :
      Move terms outbound outbound.closeQueue.1 outbound.closeQueue.2
  | accept (letter : Letter) (waiting : List Letter) (waits : outbound.waiting = letter :: waiting)
      (takes : outbound.isOpen) (room : outbound.queue.length < outbound.capacity) :
      Move terms outbound [.admitted letter.call]
        { outbound with waiting, queue := outbound.queue ++ [letter] }
  | deliver (letter : Letter) (queue : List Letter) (hands : outbound.Hands letter queue)
      (reads : outbound.line.peer = .reading) :
      Move terms outbound [.arrived (.letter letter)] { outbound with queue, writer := .idle }
  | send (letter : Letter) (queue : List Letter) (heldBytes : Nat)
      (hands : outbound.Hands letter queue) (pauses : outbound.line.peer = .paused) :
      Move terms outbound []
        { outbound with
          queue
          writer := .idle
          line := { outbound.line with
            heldBytes
            underWay := outbound.line.underWay ++ [.letter letter] } }
  | block (letter : Letter) (queue : List Letter) (left : Nat)
      (hands : outbound.Hands letter queue) (pauses : outbound.line.peer = .paused) :
      Move terms outbound []
        { outbound with
          queue
          writer := .blocked letter left
          line := { outbound.line with heldBytes := outbound.line.capacity } }
  | lose (letter : Letter) (queue : List Letter) (hands : outbound.Hands letter queue)
      (fails : outbound.line.peer = .gone ∨ outbound.line.isClosing) :
      Move terms outbound [.logged writeFailed] { outbound with queue, writer := .idle }
  | crash (letter : Letter) (queue : List Letter) (hands : outbound.Hands letter queue)
      (fails : outbound.line.peer = .gone ∨ outbound.line.isClosing)
      (panics : terms.loggerPanics = true) :
      Move terms outbound (.logged writeFailed :: (outbound.halt .crashed).1)
        (outbound.halt .crashed).2
  | close (effects : List Effect) (line : Line) (writer : Writer) {deadline : Nat}
      (ends : outbound.Ends terms deadline)
      (closes : Closes outbound.line deadline effects line writer) :
      Move terms outbound effects { outbound with line, writer }

variable {terms : WriteTerms} {outbound after : Outbound} {effects : List Effect}
  {line line' : Line} {writer : Writer} {deadline : Nat}

theorem Ends.letters (ends : outbound.Ends terms deadline) : outbound.writer.letters = [] := by
  cases ends with
  | idle idle =>
      rw [idle]
      rfl
  | closing left deadline closing =>
      rw [closing]
      rfl

theorem Closes.silent (closes : Closes line deadline effects line' writer) :
    ∀ effect ∈ effects, effect = .arrived .close := by
  cases closes with
  | deliver reads => simp
  | send | block | lose => simp

theorem Closes.letters (closes : Closes line deadline effects line' writer) :
    line'.letters = line.letters ∧ writer.letters = [] := by
  cases closes with
  | send heldBytes pauses => simp [Line.letters, Arrival.letter?, Writer.letters]
  | deliver | block | lose => exact ⟨rfl, rfl⟩

theorem Closes.flags (closes : Closes line deadline effects line' writer) :
    line'.peer = line.peer ∧ line'.isClosing = line.isClosing := by
  cases closes with
  | deliver | send | block | lose => exact ⟨rfl, rfl⟩

theorem Closes.underWay (closes : Closes line deadline effects line' writer)
    (moves : line.peer ≠ .paused) : line'.underWay = line.underWay := by
  cases closes with
  | send heldBytes pauses => exact absurd pauses moves
  | deliver | block | lose => rfl

/-! ## Every move is one of these -/

theorem write_cases (line : Line) (bytes : Nat) (arrival : Arrival) :
    (line.peer = .reading ∧ line.write bytes arrival = (.taken [arrival], line)) ∨
    (line.peer = .paused ∧ ∃ heldBytes, line.write bytes arrival =
      (.taken [], { line with heldBytes, underWay := line.underWay ++ [arrival] })) ∨
    (line.peer = .paused ∧ ∃ left, line.write bytes arrival =
      (.blocked left, { line with heldBytes := line.capacity })) ∨
    (line.peer = .gone ∧ line.write bytes arrival = (.refused, line)) := by
  unfold Line.write
  split
  · exact .inl ⟨‹_›, rfl⟩
  · dsimp only
    split
    · exact .inr (.inl ⟨‹_›, _, rfl⟩)
    · exact .inr (.inr (.inl ⟨‹_›, _, rfl⟩))
  · exact .inr (.inr (.inr ⟨‹_›, rfl⟩))

theorem move_refused {letter : Letter} {queue : List Letter} (hands : outbound.Hands letter queue)
    (fails : outbound.line.peer = .gone ∨ outbound.line.isClosing) :
    Move terms outbound ({ outbound with queue }.afterWrite terms letter .refused).1
      ({ outbound with queue }.afterWrite terms letter .refused).2 := by
  simp only [afterWrite]
  split
  · rename_i panics
    exact .crash letter queue hands fails panics
  · exact .lose letter queue hands fails

theorem move_write {letter : Letter} {queue : List Letter} (hands : outbound.Hands letter queue)
    (bytes : Nat) :
    Move terms outbound
      (({ outbound with queue, line := (outbound.line.write bytes (.letter letter)).2 } :
        Outbound).afterWrite terms letter (outbound.line.write bytes (.letter letter)).1).1
      (({ outbound with queue, line := (outbound.line.write bytes (.letter letter)).2 } :
        Outbound).afterWrite terms letter (outbound.line.write bytes (.letter letter)).1).2 := by
  rcases write_cases outbound.line bytes (.letter letter) with
    ⟨reads, written⟩ | ⟨pauses, heldBytes, written⟩ | ⟨pauses, left, written⟩ | ⟨gone, written⟩
  · rw [written]
    exact .deliver letter queue hands reads
  · rw [written]
    exact .send letter queue heldBytes hands pauses
  · rw [written]
    exact .block letter queue left hands pauses
  · rw [written]
    exact move_refused hands (.inl gone)

theorem move_startLetter {letter : Letter} {queue : List Letter}
    (hands : outbound.Hands letter queue) :
    Move terms outbound ({ outbound with queue }.startLetter terms letter).1
      ({ outbound with queue }.startLetter terms letter).2 := by
  unfold startLetter
  by_cases closes : outbound.line.isClosing
  · rw [if_pos closes]
    exact move_refused hands (.inr closes)
  · rw [if_neg closes]
    exact move_write hands _

theorem move_writeClose (left : Nat) (ends : outbound.Ends terms deadline) :
    Move terms outbound (outbound.writeClose left deadline).1
      (outbound.writeClose left deadline).2 := by
  unfold writeClose
  rcases write_cases outbound.line left .close with
    ⟨reads, written⟩ | ⟨pauses, heldBytes, written⟩ | ⟨pauses, left, written⟩ | ⟨gone, written⟩
  · rw [written]
    exact .close _ _ _ ends (.deliver reads)
  · rw [written]
    exact .close _ _ _ ends (.send heldBytes pauses)
  · rw [written]
    exact .close _ _ _ ends (.block left _ pauses)
  · rw [written]
    exact .close _ _ _ ends (.lose gone)

theorem Move.of_eq_some {moved : List Effect × Outbound}
    (legal : Move terms outbound moved.1 moved.2)
    (same : some moved = some (effects, after)) : Move terms outbound effects after := by
  rwa [Option.some.inj same] at legal

theorem move_of_write? (moved : outbound.write? terms = some (effects, after)) :
    Move terms outbound effects after := by
  unfold write? at moved
  split at moved
  · rename_i idle
    split at moved
    · rename_i stops
      exact (Move.refuse (.inl (of_heedsStop stops).1)).of_eq_some moved
    · rename_i lingers
      split at moved
      · rename_i letter queue queued
        have next := Bool.eq_false_iff.mpr lingers
        exact (move_startLetter (.next idle queued next)).of_eq_some moved
      · rename_i queued
        split at moved
        · cases moved
        · rename_i closed
          have ends : outbound.isOpen = false := Bool.eq_false_iff.mpr closed
          exact (move_writeClose _ (.idle idle ends queued)).of_eq_some moved
  · rename_i letter left blocked
    split at moved
    · exact (move_write (.blocked left blocked rfl) left).of_eq_some moved
    · cases moved
  · rename_i left deadline closing
    split at moved
    · exact (move_writeClose _ (.closing left deadline closing)).of_eq_some moved
    · cases moved
  all_goals cases moved

theorem move_of_move? (moved : outbound.move? terms = some (effects, after)) :
    Move terms outbound effects after := by
  unfold move? at moved
  split at moved
  · exact move_of_write? moved
  · rename_i letter waiting waits
    split at moved
    · rename_i closed
      have ends : outbound.isOpen = false := by simpa using closed
      exact (Move.refuse (.inr ends)).of_eq_some moved
    · rename_i takes
      split at moved
      · rename_i room
        exact (Move.accept letter waiting waits (by simpa using takes) room).of_eq_some moved
      · exact move_of_write? moved

/-! ## From one move to settling -/

/-- What holds of standing still and of every move before something that it holds of, holds of
settling. -/
theorem settle_induction (holds : Outbound → List Effect → Outbound → Prop)
    (still : ∀ outbound, holds outbound [] outbound)
    (move : ∀ outbound effects middle later settled, Move terms outbound effects middle →
      holds middle later settled → holds outbound (effects ++ later) settled)
    (outbound : Outbound) :
    holds outbound (outbound.settle terms).1 (outbound.settle terms).2 := by
  fun_induction settle terms outbound with
  | case1 outbound _ => exact still outbound
  | case2 outbound effects after moved later settled equation ih =>
      rw [equation] at ih
      exact move outbound effects after later settled (move_of_move? moved) ih

/-! ## Admission -/

theorem admitted_closeQueue (outbound : Outbound) :
    outbound.closeQueue.1.filterMap Effect.admitted? = [] := by
  simp [closeQueue, Effect.admitted?, List.filterMap_map, Function.comp_def]

theorem refused_closeQueue (outbound : Outbound) :
    outbound.closeQueue.1.filterMap Effect.refused? = outbound.waiting.map Letter.call := by
  simp [closeQueue, Effect.refused?, List.filterMap_map, Function.comp_def]

theorem letters_closeQueue (outbound : Outbound) :
    outbound.closeQueue.1.filterMap Effect.letter? = [] := by
  simp [closeQueue, Effect.letter?, List.filterMap_map, Function.comp_def]

theorem filterMap_of_silent {α : Type} {observe : Effect → Option α}
    (silent : ∀ effect ∈ effects, effect = .arrived .close)
    (unseen : observe (.arrived .close) = none) : effects.filterMap observe = [] := by
  refine List.filterMap_eq_nil_iff.mpr fun effect member => ?_
  rw [silent effect member]
  exact unseen

structure Turns (outbound : Outbound) (effects : List Effect) (after : Outbound) : Prop where
  split : outbound.waiting.map Letter.call =
    effects.filterMap Effect.admitted? ++
      (effects.filterMap Effect.refused? ++ after.waiting.map Letter.call)
  all : effects.filterMap Effect.refused? = [] ∨ after.waiting = []

theorem Move.turns (move : Move terms outbound effects after) : Turns outbound effects after := by
  cases move with
  | refuse =>
      constructor
      · rw [admitted_closeQueue, refused_closeQueue]
        simp [closeQueue]
      · exact .inr rfl
  | accept letter waiting waits => constructor <;> simp [waits, Effect.admitted?, Effect.refused?]
  | crash letter queue =>
      have admitted := admitted_closeQueue outbound
      have refused := refused_closeQueue outbound
      constructor
      · simp only [halt, List.filterMap_cons, Effect.admitted?, Effect.refused?, admitted, refused]
        simp [closeQueue]
      · exact .inr rfl
  | close effects line writer _ closes =>
      have admitted : effects.filterMap Effect.admitted? = [] :=
        filterMap_of_silent closes.silent rfl
      have refused : effects.filterMap Effect.refused? = [] := filterMap_of_silent closes.silent rfl
      exact ⟨by rw [admitted, refused]; rfl, .inl refused⟩
  | deliver | send | block | lose => exact ⟨rfl, .inl rfl⟩

theorem turns_settle (terms : WriteTerms) (outbound : Outbound) :
    Turns outbound (outbound.settle terms).1 (outbound.settle terms).2 := by
  refine settle_induction Turns ?_ ?_ outbound
  · intro outbound
    exact ⟨by simp, .inl rfl⟩
  · intro outbound effects middle later settled move rest
    obtain ⟨split, all⟩ := move.turns
    obtain ⟨restSplit, restAll⟩ := rest
    rcases all with none | all
    · refine ⟨?_, ?_⟩
      · rw [split, none, restSplit]
        simp [none]
      · simpa [none] using restAll
    · rw [all] at restSplit
      obtain ⟨noAdmitted, others⟩ := List.append_eq_nil_iff.mp restSplit.symm
      obtain ⟨noRefused, noWaiting⟩ := List.append_eq_nil_iff.mp others
      refine ⟨?_, .inr (List.map_eq_nil_iff.mp noWaiting)⟩
      rw [split, List.filterMap_append, List.filterMap_append, noAdmitted, noRefused, noWaiting,
        all]
      simp

theorem isWaiting_eq_true_iff {number : Nat} :
    outbound.isWaiting number = true ↔ number ∈ outbound.waiting.map Letter.call := by
  simp [isWaiting]

theorem Turns.of_admitted (turns : Turns outbound effects after)
    (apart : (outbound.waiting.map Letter.call).Nodup) {number : Nat}
    (admitted : number ∈ effects.filterMap Effect.admitted?) :
    number ∉ effects.filterMap Effect.refused? ∧ after.isWaiting number = false := by
  rw [turns.split] at apart
  have absent : number ∉ effects.filterMap Effect.refused? ++ after.waiting.map Letter.call := by
    intro again
    exact (List.nodup_append.mp apart).2.2 number admitted number again rfl
  obtain ⟨unrefused, gone⟩ := by simpa only [List.mem_append, not_or] using absent
  exact ⟨unrefused, Bool.eq_false_iff.mpr fun waits => gone (isWaiting_eq_true_iff.mp waits)⟩

theorem Turns.of_waiting (turns : Turns outbound effects after) {number : Nat}
    (waits : outbound.isWaiting number = true)
    (unadmitted : number ∉ effects.filterMap Effect.admitted?)
    (unrefused : number ∉ effects.filterMap Effect.refused?) : after.isWaiting number = true := by
  rw [isWaiting_eq_true_iff, turns.split] at waits
  rcases List.mem_append.mp waits with admitted | waits
  · exact absurd admitted unadmitted
  · rcases List.mem_append.mp waits with refused | waits
    · exact absurd refused unrefused
    · exact isWaiting_eq_true_iff.mpr waits

theorem Turns.of_queued (turns : Turns outbound effects after) {number : Nat}
    (queued : outbound.isWaiting number = false) :
    number ∉ effects.filterMap Effect.refused? ∧ after.isWaiting number = false := by
  have absent : number ∉ outbound.waiting.map Letter.call := by
    intro waits
    rw [isWaiting_eq_true_iff.mpr waits] at queued
    cases queued
  rw [turns.split] at absent
  obtain ⟨_, unrefused, gone⟩ := by simpa only [List.mem_append, not_or] using absent
  exact ⟨unrefused, Bool.eq_false_iff.mpr fun waits => gone (isWaiting_eq_true_iff.mp waits)⟩

end Outbound

end ServerManagement
