import ServerManagement.Session.Line

/-!
# The way out

Callers hand in letters, which wait for room in a bounded queue, and a writer takes them from the
queue one by one and puts them on the line. When the connection stops, the writer refuses those who
still wait, then writes what is queued, then closes; but as long as it finds letters in the queue it
may take some of them before it heeds the stop, and others get in meanwhile. Letters are admitted in
the order in which they were handed in.
-/

set_option autoImplicit false

namespace ServerManagement

inductive Writer where
  | idle
  /-- Waiting for room on the line for the rest of a letter. -/
  | blocked (letter : Letter) (left : Nat)
  /-- Waiting, until a time, for room for the rest of the closing frame. -/
  | closing (left deadline : Nat)
  | ended
  | crashed
  | aborted
deriving DecidableEq

inductive LogLevel where
  | info
  | error
deriving DecidableEq, Repr

structure LogLine where
  level : LogLevel
  text : String
deriving DecidableEq, Repr

/-- What can be seen of the way out. -/
inductive Effect where
  | arrived (arrival : Arrival)
  | logged (line : LogLine)
  /-- The letter of a call has entered the queue. -/
  | admitted (call : Nat)
  /-- The queue was closed while a call waited for room. -/
  | refused (call : Nat)
deriving DecidableEq

/-- The queue, those who wait for room in it, the writer and the line. -/
structure Outbound where
  capacity : Nat
  queue : List Letter
  waiting : List Letter
  isOpen : Bool
  isStopping : Bool
  /-- A writer that is to stop takes the letters of earlier calls before it heeds the stop. -/
  linger : Nat
  writer : Writer
  line : Line
deriving DecidableEq

/-- The circumstances of writing: until when a closing frame may be blocked, and whether the logger
stops whoever reports an error to it. -/
structure WriteTerms where
  closeDeadline : Nat
  loggerPanics : Bool

/-- The report of a letter that could not be written. -/
def writeFailed : LogLine := ⟨.error, "写入请求失败"⟩

namespace Outbound

/-- An empty queue and an idle writer. The queue has room for at least one letter. -/
def create (capacity lineCapacity : Nat) : Outbound :=
  ⟨max capacity 1, [], [], true, false, 0, .idle, .create lineCapacity⟩

def stop (outbound : Outbound) : Outbound := { outbound with isStopping := true }

def isWaiting (outbound : Outbound) (call : Nat) : Bool :=
  outbound.waiting.any fun letter => letter.call == call

/-- Wait no longer for room for the letter of a call. -/
def withdraw (outbound : Outbound) (call : Nat) : Outbound :=
  { outbound with waiting := outbound.waiting.filter fun letter => letter.call ≠ call }

def post (outbound : Outbound) (letter : Letter) : Outbound :=
  { outbound with waiting := outbound.waiting ++ [letter] }

/-- The queue closes, and those who wait for room are refused. -/
def closeQueue (outbound : Outbound) : List Effect × Outbound :=
  (outbound.waiting.map fun letter => .refused letter.call,
    { outbound with waiting := [], isOpen := false })

/-- The writer stops for good, and what is queued is lost. -/
def halt (writer : Writer) (outbound : Outbound) : List Effect × Outbound :=
  let (effects, outbound) := outbound.closeQueue
  (effects, { outbound with queue := [], writer })

/-- Go on after an attempt to write a letter. -/
def afterWrite (terms : WriteTerms) (letter : Letter) (outbound : Outbound) :
    Uptake → List Effect × Outbound
  | .taken arrived => (arrived.map .arrived, { outbound with writer := .idle })
  | .blocked left => ([], { outbound with writer := .blocked letter left })
  | .refused =>
    if terms.loggerPanics then
      let (effects, outbound) := outbound.halt .crashed
      (.logged writeFailed :: effects, outbound)
    else ([.logged writeFailed], { outbound with writer := .idle })

def startLetter (terms : WriteTerms) (letter : Letter) (outbound : Outbound) :
    List Effect × Outbound :=
  if outbound.line.isClosing then outbound.afterWrite terms letter .refused
  else
    let (uptake, line) := outbound.line.write (frameSize letter.text) (.letter letter)
    { outbound with line }.afterWrite terms letter uptake

def resumeLetter (terms : WriteTerms) (letter : Letter) (left : Nat) (outbound : Outbound) :
    List Effect × Outbound :=
  let (uptake, line) := outbound.line.write left (.letter letter)
  { outbound with line }.afterWrite terms letter uptake

def writeClose (left deadline : Nat) (outbound : Outbound) : List Effect × Outbound :=
  let (uptake, line) := outbound.line.write left .close
  let outbound := { outbound with line }
  match uptake with
  | .taken arrived => (arrived.map .arrived, { outbound with writer := .ended })
  | .blocked left => ([], { outbound with writer := .closing left deadline })
  | .refused => ([], { outbound with writer := .ended })

/-- Something can go on while the peer does not pause. -/
def lineMoves (outbound : Outbound) : Bool := outbound.line.peer != .paused

/-- The writer turns to the stop, and not to the letter that is first in the queue. -/
def heedsStop (outbound : Outbound) : Bool :=
  outbound.isStopping && outbound.isOpen &&
    outbound.queue.head?.all fun letter => outbound.linger ≤ letter.call

theorem of_heedsStop {outbound : Outbound} (heeds : outbound.heedsStop = true) :
    outbound.isStopping = true ∧ outbound.isOpen = true :=
  Bool.and_eq_true_iff.mp (Bool.and_eq_true_iff.mp heeds).1

/-- What the writer does next, if it can do anything. -/
def write? (terms : WriteTerms) (outbound : Outbound) : Option (List Effect × Outbound) :=
  match outbound.writer with
  | .idle =>
    if outbound.heedsStop then some outbound.closeQueue
    else
      match outbound.queue with
      | letter :: queue => some ({ outbound with queue }.startLetter terms letter)
      | [] =>
          if outbound.isOpen then none
          else some (outbound.writeClose closeSize terms.closeDeadline)
  | .blocked letter left =>
    if outbound.lineMoves then some (outbound.resumeLetter terms letter left) else none
  | .closing left deadline =>
    if outbound.lineMoves then some (outbound.writeClose left deadline) else none
  | .ended | .crashed | .aborted => none

/-- The next move: a letter is admitted when there is room, otherwise the writer goes on. -/
def move? (terms : WriteTerms) (outbound : Outbound) : Option (List Effect × Outbound) :=
  match outbound.waiting with
  | [] => outbound.write? terms
  | letter :: waiting =>
    if !outbound.isOpen then some outbound.closeQueue
    else if outbound.queue.length < outbound.capacity then
      some ([.admitted letter.call], { outbound with waiting, queue := outbound.queue ++ [letter] })
    else outbound.write? terms

/-! ## Until nothing can move -/

/-- How far the writer is from having nothing to do. -/
def writerWork : Writer → Nat
  | .blocked _ _ => 3
  | .idle => 2
  | .closing _ _ => 1
  | .ended | .crashed | .aborted => 0

/-- A bound on the moves that are left. -/
def work (outbound : Outbound) : Nat :=
  3 * outbound.waiting.length + 2 * outbound.queue.length + outbound.isOpen.toNat +
    writerWork outbound.writer

theorem write_ne_blocked {line line' : Line} {bytes left : Nat} {arrival : Arrival}
    (moves : line.peer ≠ .paused) :
    line.write bytes arrival ≠ (.blocked left, line') := by
  unfold Line.write
  split <;> simp_all

theorem work_closeQueue (outbound : Outbound) :
    outbound.closeQueue.2.work + 3 * outbound.waiting.length + outbound.isOpen.toNat =
      outbound.work := by
  simp only [closeQueue, work, List.length_nil, Bool.toNat_false]
  omega

theorem work_halt_crashed_le (outbound : Outbound) :
    (outbound.halt .crashed).2.work + writerWork outbound.writer ≤ outbound.work := by
  simp only [halt, closeQueue, work, writerWork, List.length_nil, Bool.toNat_false]
  omega

theorem work_afterWrite_taken (terms : WriteTerms) (letter : Letter) (outbound : Outbound)
    (arrived : List Arrival) :
    (outbound.afterWrite terms letter (.taken arrived)).2.work + writerWork outbound.writer =
      outbound.work + 2 := by
  simp only [afterWrite, work, writerWork]
  omega

theorem work_afterWrite_refused_le (terms : WriteTerms) (letter : Letter) (outbound : Outbound) :
    (outbound.afterWrite terms letter .refused).2.work + writerWork outbound.writer ≤
      outbound.work + 2 := by
  simp only [afterWrite]
  split
  · have := outbound.work_halt_crashed_le
    simp only
    omega
  · simp only [work, writerWork]
    omega

theorem work_afterWrite_le (terms : WriteTerms) (letter : Letter) (outbound : Outbound)
    (uptake : Uptake) :
    (outbound.afterWrite terms letter uptake).2.work + writerWork outbound.writer ≤
      outbound.work + 3 := by
  cases uptake with
  | taken arrived => have := work_afterWrite_taken terms letter outbound arrived; omega
  | blocked left => simp only [afterWrite, work, writerWork]; omega
  | refused => have := work_afterWrite_refused_le terms letter outbound; omega

theorem work_startLetter_le (terms : WriteTerms) (letter : Letter) (outbound : Outbound) :
    (outbound.startLetter terms letter).2.work + writerWork outbound.writer ≤
      outbound.work + 3 := by
  unfold startLetter
  split
  · exact work_afterWrite_le ..
  · exact work_afterWrite_le terms letter { outbound with line := _ } _

theorem work_resumeLetter_lt (terms : WriteTerms) (letter : Letter) (left : Nat)
    (outbound : Outbound) (moves : outbound.line.peer ≠ .paused)
    (blocked : outbound.writer = .blocked letter left) :
    (outbound.resumeLetter terms letter left).2.work < outbound.work := by
  have same (line : Line) : ({ outbound with line } : Outbound).work = outbound.work := rfl
  unfold resumeLetter
  split
  rename_i uptake line written
  cases uptake with
  | taken arrived =>
      have := work_afterWrite_taken terms letter { outbound with line } arrived
      rw [same] at this
      simp only [blocked, writerWork] at this ⊢
      omega
  | blocked left => exact absurd written (write_ne_blocked moves)
  | refused =>
      have := work_afterWrite_refused_le terms letter { outbound with line }
      rw [same] at this
      simp only [blocked, writerWork] at this ⊢
      omega

theorem work_writeClose_le (left deadline : Nat) (outbound : Outbound) :
    (outbound.writeClose left deadline).2.work + writerWork outbound.writer ≤
      outbound.work + 1 := by
  unfold writeClose
  split
  rename_i uptake line written
  cases uptake <;> simp only [work, writerWork] <;> omega

theorem work_writeClose_lt (left deadline : Nat) (outbound : Outbound)
    (moves : outbound.line.peer ≠ .paused) (closing : outbound.writer = .closing left deadline) :
    (outbound.writeClose left deadline).2.work < outbound.work := by
  unfold writeClose
  split
  rename_i uptake line written
  cases uptake with
  | taken arrived => simp [work, writerWork, closing]
  | blocked left => exact absurd written (write_ne_blocked moves)
  | refused => simp [work, writerWork, closing]

theorem work_write?_lt {terms : WriteTerms} {outbound after : Outbound} {effects : List Effect}
    (moved : outbound.write? terms = some (effects, after)) : after.work < outbound.work := by
  unfold write? at moved
  split at moved
  · rename_i idle
    split at moved
    · rename_i stops
      have opened := (of_heedsStop stops).2
      have := outbound.work_closeQueue
      simp_all
      omega
    · split at moved
      · rename_i letter queue queued
        have := work_startLetter_le terms letter { outbound with queue }
        simp only [Option.some.injEq] at moved
        rw [moved] at this
        simp [work, queued, idle, writerWork] at this ⊢
        omega
      · split at moved
        · simp at moved
        · have := work_writeClose_le closeSize terms.closeDeadline outbound
          simp only [Option.some.injEq] at moved
          rw [moved] at this
          simp [idle, writerWork] at this
          omega
  · rename_i letter left blocked
    split at moved
    · rename_i moves
      have := work_resumeLetter_lt terms letter left outbound (by simpa [lineMoves] using moves)
        blocked
      simp only [Option.some.injEq] at moved
      rwa [moved] at this
    · simp at moved
  · rename_i left deadline closing
    split at moved
    · rename_i moves
      have := work_writeClose_lt left deadline outbound (by simpa [lineMoves] using moves) closing
      simp only [Option.some.injEq] at moved
      rwa [moved] at this
    · simp at moved
  all_goals simp at moved

theorem work_move?_lt {terms : WriteTerms} {outbound after : Outbound} {effects : List Effect}
    (moved : outbound.move? terms = some (effects, after)) : after.work < outbound.work := by
  unfold move? at moved
  split at moved
  · exact work_write?_lt moved
  · rename_i letter waiting waits
    split at moved
    · have := outbound.work_closeQueue
      simp_all
      omega
    · split at moved
      · simp only [Option.some.injEq, Prod.mk.injEq] at moved
        obtain ⟨_, rfl⟩ := moved
        simp [work, waits]
        omega
      · exact work_write?_lt moved

set_option linter.unusedVariables false in
def settle (terms : WriteTerms) (outbound : Outbound) : List Effect × Outbound :=
  match moved : outbound.move? terms with
  | none => ([], outbound)
  | some (effects, after) =>
    let (later, settled) := settle terms after
    (effects ++ later, settled)
termination_by outbound.work
decreasing_by exact work_move?_lt moved

theorem move?_settle (terms : WriteTerms) (outbound : Outbound) :
    (outbound.settle terms).2.move? terms = none := by
  fun_induction settle with
  | case1 _ still => exact still
  | case2 _ _ _ _ _ _ equation ih => simpa [equation] using ih

end Outbound

end ServerManagement
