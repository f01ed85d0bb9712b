import ServerManagement.Proofs.Session.BackPressure
import ServerManagement.Proofs.Session.LetterFlow
import ServerManagement.Proofs.Session.Thinning

/-!
The end of sending. What a connection that stops has still to send is a list of frames that ends
with the closing frame. Letters that still get into the queue come before that frame; nothing else
is added, and while no write fails nothing is lost before the time that closing is given is over.
-/

set_option autoImplicit false

namespace ServerManagement

namespace Outbound

/-- What a connection that stops has on its way to the peer: what is under way, the letters that
have entered the queue, those that will enter it late, and the closing frame, unless the writer is
done. -/
def frames (outbound : Outbound) (late : List Letter) : List Arrival :=
  outbound.line.underWay ++ ((outbound.writer.letters ++ (outbound.queue ++ late)).map .letter ++
    if outbound.writer.isDone then [] else [.close])

def Takes (outbound : Outbound) (letters : List Letter) : Prop :=
  outbound.isOpen = false → letters = []

/-- Some of those who waited have got their letters into the queue, in order; nobody has come. -/
structure Enters (outbound : Outbound) (late : List Letter) (after : Outbound) : Prop where
  waiting : (late ++ after.waiting).Sublist outbound.waiting
  closed : outbound.isOpen = false → late = [] ∧ after.isOpen = false

structure Healthy (outbound : Outbound) : Prop where
  present : outbound.line.peer ≠ .gone
  unclosed : outbound.line.isClosing = false

structure Draining (limit : Nat) (outbound : Outbound) : Prop where
  stops : outbound.isStopping = true
  orderly : outbound.Orderly
  last : ∀ left due, outbound.writer = .closing left due →
    outbound.queue = [] ∧ outbound.isOpen = false
  timely : outbound.Healthy → ∀ left due, outbound.writer = .closing left due → limit ≤ due

variable {limit : Nat} {terms : WriteTerms} {outbound middle after : Outbound}
  {effects : List Effect} {late more letters : List Letter}

theorem Enters.none (fewer : after.waiting.Sublist outbound.waiting)
    (closed : outbound.isOpen = false → after.isOpen = false) : outbound.Enters [] after :=
  ⟨fewer, fun shut => ⟨rfl, closed shut⟩⟩

theorem Enters.trans (first : outbound.Enters late middle) (second : middle.Enters more after) :
    outbound.Enters (late ++ more) after where
  waiting := by
    rw [List.append_assoc]
    exact (second.waiting.append_left _).trans first.waiting
  closed shut := by
    obtain ⟨none, closed⟩ := first.closed shut
    obtain ⟨noneToo, closedToo⟩ := second.closed closed
    exact ⟨by rw [none, noneToo]; rfl, closedToo⟩

theorem Enters.takes (enters : outbound.Enters late after) (takes : after.Takes letters) :
    outbound.Takes (late ++ letters) := by
  intro shut
  obtain ⟨none, closed⟩ := enters.closed shut
  rw [none, takes closed]
  rfl

theorem Draining.underWay (draining : outbound.Draining limit)
    (reads : outbound.line.peer = .reading) : outbound.line.underWay = [] :=
  draining.orderly (by rw [reads]; decide)

theorem frames_of_hands {letter : Letter} {queue : List Letter}
    (hands : outbound.Hands letter queue) (late : List Letter) :
    outbound.frames late =
      outbound.line.underWay ++ (.letter letter :: (queue ++ late).map .letter ++ [.close]) := by
  cases hands with
  | next idle queued => simp [frames, idle, queued, Writer.letters, Writer.isDone]
  | blocked left blocked queued => simp [frames, blocked, queued, Writer.letters, Writer.isDone]

/-- Whether the closing frame was blocked before or is blocked now, its time is long enough. -/
theorem Draining.ends (draining : outbound.Draining limit) (timely : limit ≤ terms.closeDeadline)
    {deadline : Nat} (ends : outbound.Ends terms deadline) :
    (outbound.queue = [] ∧ outbound.isOpen = false) ∧ (outbound.Healthy → limit ≤ deadline) := by
  cases ends with
  | idle idle closed empty => exact ⟨⟨empty, closed⟩, fun _ => timely⟩
  | closing left deadline closing =>
      exact ⟨draining.last left deadline closing,
        fun healthy => draining.timely healthy left deadline closing⟩

theorem frames_of_ends {deadline : Nat} (ends : outbound.Ends terms deadline)
    (empty : outbound.queue = []) :
    outbound.frames [] = outbound.line.underWay ++ [.close] := by
  cases ends with
  | idle idle => simp [frames, idle, empty, Writer.letters, Writer.isDone]
  | closing left deadline closing =>
      simp [frames, closing, empty, Writer.letters, Writer.isDone]

theorem Move.healthy_iff (move : Move terms outbound effects after) :
    after.Healthy ↔ outbound.Healthy := by
  obtain ⟨_, peer, isClosing⟩ := move.flags
  constructor
  · rintro ⟨present, unclosed⟩
    exact ⟨peer ▸ present, isClosing ▸ unclosed⟩
  · rintro ⟨present, unclosed⟩
    exact ⟨fun gone => present (peer ▸ gone), isClosing.trans unclosed⟩

theorem Move.draining (move : Move terms outbound effects after)
    (draining : outbound.Draining limit) (timely : limit ≤ terms.closeDeadline) :
    after.Draining limit := by
  have orderly := move.orderly draining.orderly
  have healthy := move.healthy_iff
  cases move with
  | refuse =>
      have last := fun left due closing => (draining.last left due closing).1
      exact ⟨draining.stops, orderly, fun left due closing => ⟨last left due closing, rfl⟩,
        fun fine => draining.timely (healthy.mp fine)⟩
  | accept letter waiting waits takes room =>
      have writes (left due : Nat) : outbound.writer ≠ .closing left due := by
        intro closing
        cases (draining.last left due closing).2.symm.trans takes
      exact ⟨draining.stops, orderly, fun left due closing => absurd closing (writes left due),
        fun _ left due closing => absurd closing (writes left due)⟩
  | deliver letter queue hands | send letter queue heldBytes hands | block letter queue left hands
  | lose letter queue hands => exact ⟨draining.stops, orderly, nofun, nofun⟩
  | crash => exact ⟨draining.stops, orderly, nofun, nofun⟩
  | close effects line writer ends closes =>
      obtain ⟨empty, due⟩ := draining.ends timely ends
      refine ⟨draining.stops, orderly, fun _ _ _ => empty, ?_⟩
      intro fine left deadline closing
      change writer = .closing left deadline at closing
      -- A closing frame that is blocked again keeps the deadline that it has.
      cases closes with
      | block =>
          cases closing
          exact due (healthy.mp fine)
      | deliver | send | lose => cases closing

/-- Moves of the way out, as far as what is to be sent is concerned, whichever letters will enter
the queue later: what arrives was to be sent, and what else was to be sent still is, unless a write
fails. -/
structure Passes (outbound : Outbound) (effects : List Effect) (late : List Letter)
    (after : Outbound) : Prop where
  admitted : late.map Letter.call = effects.filterMap Effect.admitted?
  enters : outbound.Enters late after
  frames : ∀ letters, after.Takes letters →
    (effects.filterMap Effect.arrival? ++ after.frames letters).Sublist
      (outbound.frames (late ++ letters))
  kept : outbound.Healthy → ∀ letters, after.Takes letters →
    effects.filterMap Effect.arrival? ++ after.frames letters = outbound.frames (late ++ letters)

theorem Passes.of_eq (admitted : late.map Letter.call = effects.filterMap Effect.admitted?)
    (enters : outbound.Enters late after)
    (same : ∀ letters, after.Takes letters →
      effects.filterMap Effect.arrival? ++ after.frames letters =
        outbound.frames (late ++ letters)) : Passes outbound effects late after :=
  ⟨admitted, enters, fun letters takes => same letters takes ▸ .refl _, fun _ => same⟩

theorem Passes.trans {later : List Effect} (first : Passes outbound effects late middle)
    (second : Passes middle later more after) (healthy : outbound.Healthy → middle.Healthy) :
    Passes outbound (effects ++ later) (late ++ more) after where
  admitted := by rw [List.map_append, List.filterMap_append, first.admitted, second.admitted]
  enters := first.enters.trans second.enters
  frames letters takes := by
    rw [List.filterMap_append, List.append_assoc, List.append_assoc]
    exact ((second.frames letters takes).append_left _).trans
      (first.frames _ (second.enters.takes takes))
  kept fine letters takes := by
    rw [List.filterMap_append, List.append_assoc, List.append_assoc,
      second.kept (healthy fine) letters takes, first.kept fine _ (second.enters.takes takes)]

theorem arrivals_closeQueue (outbound : Outbound) :
    outbound.closeQueue.1.filterMap Effect.arrival? = [] := by
  simp [closeQueue, Effect.arrival?, List.filterMap_map, Function.comp_def]

theorem Healthy.not_failing (healthy : outbound.Healthy) :
    ¬(outbound.line.peer = .gone ∨ outbound.line.isClosing) := by
  rintro (gone | closes)
  · exact healthy.present gone
  · cases healthy.unclosed.symm.trans closes

theorem Move.passes (move : Move terms outbound effects after)
    (draining : outbound.Draining limit) (timely : limit ≤ terms.closeDeadline) :
    ∃ late, Passes outbound effects late after := by
  have stays {later : Outbound} (waiting : later.waiting = outbound.waiting)
      (isOpen : later.isOpen = outbound.isOpen) : outbound.Enters [] later :=
    .none (waiting ▸ .refl _) fun shut => isOpen.trans shut
  cases move with
  | refuse =>
      have none := admitted_closeQueue outbound
      refine ⟨[], .of_eq none.symm (.none (List.nil_sublist _) fun _ => rfl) fun letters _ => ?_⟩
      rw [arrivals_closeQueue]
      rfl
  | accept letter waiting waits takes room =>
      refine ⟨[letter], .of_eq rfl ⟨waits ▸ .refl _, fun shut => ?_⟩ fun letters _ => ?_⟩
      · cases shut.symm.trans takes
      · simp [frames, Effect.arrival?]
  | deliver letter queue hands reads =>
      refine ⟨[], .of_eq rfl (stays rfl rfl) fun letters _ => ?_⟩
      rw [List.nil_append, frames_of_hands hands, draining.underWay reads]
      simp [frames, draining.underWay reads, Writer.letters, Writer.isDone, Effect.arrival?]
  | send letter queue heldBytes hands =>
      refine ⟨[], .of_eq rfl (stays rfl rfl) fun letters _ => ?_⟩
      rw [List.nil_append, frames_of_hands hands]
      simp [frames, Writer.letters, Writer.isDone]
  | block letter queue left hands =>
      refine ⟨[], .of_eq rfl (stays rfl rfl) fun letters _ => ?_⟩
      rw [List.nil_append, frames_of_hands hands]
      simp [frames, Writer.letters, Writer.isDone]
  | lose letter queue hands fails =>
      refine ⟨[], rfl, stays rfl rfl, fun letters _ => ?_,
        fun healthy => absurd fails healthy.not_failing⟩
      have silent : [Effect.logged writeFailed].filterMap Effect.arrival? = [] := rfl
      rw [List.nil_append, frames_of_hands hands, silent]
      simp [frames, Writer.letters, Writer.isDone]
  | crash letter queue hands fails =>
      refine ⟨[], (admitted_closeQueue outbound).symm,
        .none (List.nil_sublist _) fun _ => rfl, fun letters takes => ?_,
        fun healthy => absurd fails healthy.not_failing⟩
      rw [takes rfl, List.nil_append, frames_of_hands hands]
      simp [halt, closeQueue, frames, Writer.letters, Writer.isDone, Effect.arrival?]
  | close effects line writer ends closes =>
      obtain ⟨⟨empty, shut⟩, _⟩ := draining.ends timely ends
      have before := frames_of_ends ends empty
      have none : effects.filterMap Effect.admitted? = [] :=
        filterMap_of_silent closes.silent rfl
      -- The queue is closed, so that no letter can come after the closing frame.
      cases closes with
      | deliver reads =>
          refine ⟨[], .of_eq none.symm (stays rfl rfl) fun letters takes => ?_⟩
          rw [takes shut, List.nil_append, before, draining.underWay reads]
          simp [frames, draining.underWay reads, empty, Writer.letters, Writer.isDone,
            Effect.arrival?]
      | send heldBytes pauses | block left heldBytes pauses =>
          refine ⟨[], .of_eq none.symm (stays rfl rfl) fun letters takes => ?_⟩
          rw [takes shut, List.nil_append, before]
          simp [frames, empty, Writer.letters, Writer.isDone]
      | lose gone =>
          refine ⟨[], none.symm, stays rfl rfl, fun letters takes => ?_,
            fun healthy => absurd gone healthy.present⟩
          rw [takes shut, List.nil_append, before]
          simp [frames, empty, Writer.letters, Writer.isDone]

theorem passes_settle (terms : WriteTerms) (timely : limit ≤ terms.closeDeadline)
    (draining : outbound.Draining limit) :
    (outbound.settle terms).2.Draining limit ∧
      ∃ late, Passes outbound (outbound.settle terms).1 late (outbound.settle terms).2 := by
  refine settle_induction (fun outbound effects after => outbound.Draining limit →
    after.Draining limit ∧ ∃ late, Passes outbound effects late after) ?_ ?_ outbound draining
  · intro outbound draining
    exact ⟨draining, [], .of_eq rfl (.none (.refl _) id) fun _ _ => rfl⟩
  · intro outbound effects middle later settled move rest draining
    obtain ⟨restDraining, more, passes⟩ := rest (move.draining draining timely)
    obtain ⟨late, first⟩ := move.passes draining timely
    exact ⟨restDraining, late ++ more, first.trans passes move.healthy_iff.mpr⟩

/-! ## The end -/

end Outbound

end ServerManagement
