import ServerManagement.Proofs.Session.OutboundChange

/-!
Back-pressure. Between two steps letters are queued, and calls wait for room, only behind a letter
that a full line holds up.
-/

set_option autoImplicit false

namespace ServerManagement

namespace Outbound

structure Regular (limit : Nat) (outbound : Outbound) : Prop where
  capacity : outbound.capacity = limit
  bounded : outbound.queue.length ≤ limit
  writes : outbound.writer = .idle ∨ (∃ letter left, outbound.writer = .blocked letter left) ∨
    outbound.queue = [] ∧ outbound.isOpen = false
  full : ∀ letter left, outbound.writer = .blocked letter left → outbound.line.peer = .paused →
    outbound.line.heldBytes = outbound.line.capacity

variable {limit : Nat} {terms : WriteTerms} {outbound later : Outbound} {effects : List Effect}

theorem Regular.halt (regular : outbound.Regular limit) {writer : Writer}
    (done : ∀ letter left, writer ≠ .blocked letter left) :
    (outbound.halt writer).2.Regular limit where
  capacity := regular.capacity
  bounded := Nat.zero_le _
  writes := .inr (.inr ⟨rfl, rfl⟩)
  full := fun letter left blocked => absurd blocked (done letter left)

theorem Regular.withLine (regular : outbound.Regular limit) {line : Line}
    (full : ∀ letter left, outbound.writer = .blocked letter left → line.peer = .paused →
      line.heldBytes = line.capacity) : { outbound with line }.Regular limit :=
  ⟨regular.capacity, regular.bounded, regular.writes, full⟩

theorem Regular.closing (regular : outbound.Regular limit) {left deadline : Nat}
    (closing : outbound.writer = .closing left deadline) :
    outbound.queue = [] ∧ outbound.isOpen = false := by
  rcases regular.writes with idle | ⟨letter, left, blocked⟩ | empty
  · rw [closing] at idle
    cases idle
  · rw [closing] at blocked
    cases blocked
  · exact empty

theorem Regular.change (change : OutboundChange outbound later)
    (regular : outbound.Regular limit) : later.Regular limit := by
  cases change with
  | post | withdraw | stop | linger =>
      exact ⟨regular.capacity, regular.bounded, regular.writes, regular.full⟩
  | farewell => exact regular.withLine regular.full
  | pause taken =>
      refine regular.withLine fun letter left blocked pauses => ?_
      unfold Line.pause at pauses ⊢
      split
      · rename_i reads
        have none := taken reads
        rw [blocked] at none
        cases none
      · rename_i stays
        rw [if_neg stays] at pauses
        exact regular.full letter left blocked pauses
  | resume =>
      refine regular.withLine fun letter left blocked pauses => ?_
      unfold Line.resume at pauses ⊢
      split
      · rename_i paused
        simp [if_pos paused] at pauses
      · rename_i goesOn
        rw [if_neg goesOn] at pauses
        exact absurd pauses goesOn
  | vanish => exact regular.withLine fun _ _ _ pauses => by cases pauses
  | abort => exact regular.halt nofun
  | giveUp left deadline closing =>
      exact ⟨regular.capacity, regular.bounded, .inr (.inr (regular.closing closing)), nofun⟩

theorem Hands.length_le {letter : Letter} {rest : List Letter}
    (hands : outbound.Hands letter rest) : rest.length ≤ outbound.queue.length := by
  cases hands with
  | next idle queued =>
      rw [queued]
      exact Nat.le_succ _
  | blocked left blocked queued => exact Nat.le_of_eq (congrArg List.length queued.symm)

theorem Regular.move (move : Move terms outbound effects later)
    (regular : outbound.Regular limit) : later.Regular limit := by
  cases move with
  | refuse =>
      refine ⟨regular.capacity, regular.bounded, ?_, regular.full⟩
      rcases regular.writes with idle | blocked | ⟨empty, _⟩
      · exact .inl idle
      · exact .inr (.inl blocked)
      · exact .inr (.inr ⟨empty, rfl⟩)
  | accept letter waiting waits takes room =>
      refine ⟨regular.capacity, ?_, ?_, regular.full⟩
      · rw [List.length_append, ← regular.capacity]
        exact room
      · rcases regular.writes with idle | blocked | ⟨_, closed⟩
        · exact .inl idle
        · exact .inr (.inl blocked)
        · rw [closed] at takes
          cases takes
  | deliver letter queue hands | lose letter queue hands =>
      exact ⟨regular.capacity, Nat.le_trans hands.length_le regular.bounded, .inl rfl, nofun⟩
  | send letter queue heldBytes hands =>
      exact ⟨regular.capacity, Nat.le_trans hands.length_le regular.bounded, .inl rfl, nofun⟩
  | block letter queue left hands =>
      exact ⟨regular.capacity, Nat.le_trans hands.length_le regular.bounded,
        .inr (.inl ⟨letter, left, rfl⟩), fun _ _ _ _ => rfl⟩
  | crash => exact regular.halt nofun
  | close effects line writer ends closes =>
      have left : outbound.queue = [] ∧ outbound.isOpen = false := by
        cases ends with
        | idle idle closed empty => exact ⟨empty, closed⟩
        | closing left deadline closing => exact regular.closing closing
      refine ⟨regular.capacity, regular.bounded, .inr (.inr left), ?_⟩
      intro letter rest blocked
      have none := closes.letters.2
      rw [show writer = .blocked letter rest from blocked] at none
      cases none

/-- When nothing can move, letters stay behind only behind one that a full line holds up. -/
theorem Regular.blocked (regular : outbound.Regular limit) (positive : 0 < limit)
    (still : outbound.move? terms = none) (behind : outbound.queue ≠ [] ∨ outbound.waiting ≠ []) :
    (∃ letter left, outbound.writer = .blocked letter left) ∧ outbound.line.peer = .paused ∧
      outbound.line.heldBytes = outbound.line.capacity := by
  obtain ⟨stuck, full⟩ := move?_eq_none_iff.mp still
  have why := write?_eq_none_iff.mp stuck
  rcases regular.writes with idle | ⟨letter, left, blocked⟩ | ⟨empty, closed⟩
  · rw [idle] at why
    have empty : outbound.queue.length = 0 := congrArg List.length why.2.2
    rcases behind with queued | waits
    · exact absurd why.2.2 queued
    · have room := (full waits).2
      rw [regular.capacity, empty] at room
      exact absurd positive (Nat.not_lt_of_le room)
  · rw [blocked] at why
    have pauses : outbound.line.peer = .paused := by simpa [lineMoves] using why
    exact ⟨⟨letter, left, blocked⟩, pauses, regular.full letter left blocked pauses⟩
  · rcases behind with queued | waits
    · exact absurd empty queued
    · have opened := (full waits).1
      rw [closed] at opened
      cases opened

end Outbound

namespace Session

theorem regular_run (settings : Settings) (lineCapacity : Nat) (loggerPanics : Bool)
    (steps : List Step) :
    let session := (create settings lineCapacity loggerPanics).run steps
    session.outbound.Regular (max settings.outboundCapacity 1) ∧
      session.outbound.move? session.writeTerms = none := by
  have start : (create settings lineCapacity loggerPanics).outbound.Regular
      (max settings.outboundCapacity 1) := ⟨rfl, Nat.zero_le _, .inl rfl, nofun⟩
  refine outbound_invariant ?_ ?_ rfl start steps
  · intro outbound later change regular
    exact regular.change change
  · intro terms outbound effects later move regular
    exact regular.move move

/-- After any steps the queue holds no more letters than it has room for. Letters are queued, and
calls wait for room, only while the writer works and a line that is full holds up its letter, and
calls wait only for a queue that is full. -/
theorem back_pressure_exact (settings : Settings) (lineCapacity : Nat) (loggerPanics : Bool)
    (steps : List Step) :
    let outbound := ((create settings lineCapacity loggerPanics).run steps).outbound
    outbound.queue.length ≤ max settings.outboundCapacity 1 ∧
      (outbound.queue ≠ [] ∨ outbound.waiting ≠ [] →
        (∃ letter left, outbound.writer = .blocked letter left) ∧ outbound.line.peer = .paused ∧
          outbound.line.heldBytes = outbound.line.capacity) ∧
      (outbound.waiting ≠ [] → outbound.queue.length = max settings.outboundCapacity 1) := by
  intro outbound
  obtain ⟨regular, still⟩ := regular_run settings lineCapacity loggerPanics steps
  have positive : 0 < max settings.outboundCapacity 1 :=
    Nat.lt_of_lt_of_le Nat.one_pos (Nat.le_max_right ..)
  refine ⟨regular.bounded, regular.blocked positive still, fun waits => ?_⟩
  have full := ((Outbound.move?_eq_none_iff.mp still).2 waits).2
  rw [regular.capacity] at full
  exact Nat.le_antisymm regular.bounded full

/-- The second of three waiting calls is given up: those who still wait do so for a queue that is
full. -/
theorem back_pressure_exact_of_three_waiting :
    let steps : List Step := [.pause, .call "a" .none .standard, .call "b" .none .standard,
      .call "c" .none .standard, .call "d" .none .standard, .call "e" .none .standard,
      .abandonCall 3]
    let outbound := ((create ⟨50, 10, 0, 8⟩ 5 false).run steps).outbound
    outbound.waiting.map Letter.call = [2, 4] ∧ outbound.queue.length = 1 ∧
      outbound.line.heldBytes = 5 := by
  intro steps outbound
  obtain ⟨_, blocked, full⟩ := back_pressure_exact ⟨50, 10, 0, 8⟩ 5 false steps
  have waits : outbound.waiting.map Letter.call = [2, 4] := by decide +kernel
  have some : outbound.waiting ≠ [] := by
    intro nobody
    rw [nobody] at waits
    cases waits
  have capacity : outbound.line.capacity = 5 := by decide +kernel
  exact ⟨waits, full some, (blocked (.inr some)).2.2.trans capacity⟩

end Session

end ServerManagement
