import ServerManagement.Proofs.Notice.BoardProperties
import ServerManagement.Proofs.Removal

/-!
Event streams going on together. The topics that are lost meanwhile are exactly those of the streams
that end, whoever holds them.
-/

set_option autoImplicit false

namespace ServerManagement

namespace EventStream

/-- A stream of the topic, live in the first list, has ended in the second. -/
def endedOn (topic : String) : List EventStream → List EventStream → Bool
  | stream :: streams, after :: later =>
    (stream.kind.topic == topic && stream.isLive && !after.isLive) || endedOn topic streams later
  | _, _ => false

inductive Fades : List EventStream → List EventStream → Prop
  | nil : Fades [] []
  | cons {stream after : EventStream} {streams later : List EventStream}
      (kind : after.kind = stream.kind) (fading : after.isLive = true → stream.isLive = true)
      (rest : Fades streams later) : Fades (stream :: streams) (after :: later)

structure Settles (board : Board) (streams : List EventStream) (later : Board)
    (after : List EventStream) : Prop where
  fades : Fades streams after
  evolves : Board.Evolves board later
  isClosed : later.isClosed = board.isClosed
  topics : ∀ topic, later.topics.find? topic =
    if endedOn topic streams after then none else board.topics.find? topic

theorem Fades.refl (streams : List EventStream) : Fades streams streams := by
  induction streams with
  | nil => exact .nil
  | cons stream streams ih => exact .cons rfl id ih

theorem endedOn_self (topic : String) (streams : List EventStream) :
    endedOn topic streams streams = false := by
  induction streams with
  | nil => rfl
  | cons stream streams ih => cases live : stream.isLive <;> simp [endedOn, live, ih]

/-- Only the kinds of the streams matter, and which of them are live. -/
theorem endedOn_congr {streams others : List EventStream} (topic : String)
    (alike : streams.map (fun stream => (stream.kind, stream.isLive)) =
      others.map fun stream => (stream.kind, stream.isLive)) (after : List EventStream) :
    endedOn topic streams after = endedOn topic others after := by
  induction streams generalizing others after with
  | nil => rw [List.map_eq_nil_iff.mp alike.symm]
  | cons stream streams ih =>
      cases others with
      | nil => cases alike
      | cons other others =>
          obtain ⟨same, rest⟩ := List.cons.inj alike
          obtain ⟨kind, live⟩ := Prod.mk.inj same
          cases after with
          | nil => rfl
          | cons next after => simp only [endedOn, kind, live, ih rest]

/-- What its reader does to one of the streams does not matter. -/
theorem endedOn_modify (topic : String) (streams : List EventStream) (number : Nat)
    {change : EventStream → EventStream}
    (alike : ∀ stream, (change stream).kind = stream.kind ∧ (change stream).isLive = stream.isLive)
    (after : List EventStream) :
    endedOn topic (streams.modify number change) after = endedOn topic streams after := by
  refine endedOn_congr topic (List.ext_getElem? fun index => ?_) after
  simp only [List.getElem?_map, List.getElem?_modify]
  cases streams[index]? with
  | none => rfl
  | some stream =>
      by_cases same : number = index
      · simp [same, alike stream]
      · simp [same]

theorem endedOn_read (topic : String) {streams : List EventStream} {number : Nat}
    {stream : EventStream} (present : streams[number]? = some stream) (after : List EventStream) :
    endedOn topic (streams.set number stream.read.2) after = endedOn topic streams after := by
  rw [set_eq_modify_of_present present fun stream => stream.read.2]
  refine endedOn_modify topic streams number (fun stream => ?_) after
  unfold read
  split <;> exact ⟨rfl, rfl⟩

/-- A stream of another topic does not matter. -/
theorem endedOn_append (topic : String) (streams : List EventStream) {stream : EventStream}
    (differs : stream.kind.topic ≠ topic) (after : List EventStream) :
    endedOn topic (streams ++ [stream]) after = endedOn topic streams after := by
  induction streams generalizing after with
  | nil =>
      cases after with
      | nil => rfl
      | cons next after => cases after <;> simp [endedOn, differs]
  | cons first streams ih =>
      cases after with
      | nil => rfl
      | cons next after => simp only [List.cons_append, endedOn, ih]

variable {streams middle after : List EventStream}

theorem Fades.trans (first : Fades streams middle) (second : Fades middle after) :
    Fades streams after := by
  induction first generalizing after with
  | nil => exact second
  | cons kind fading rest ih =>
      cases second with
      | cons laterKind laterFading laterRest =>
          exact .cons (laterKind.trans kind) (fun live => fading (laterFading live)) (ih laterRest)

/-- A stream ends in the first part of the time or in the second. -/
theorem endedOn_trans (topic : String) (first : Fades streams middle)
    (second : Fades middle after) :
    endedOn topic streams after =
      (endedOn topic streams middle || endedOn topic middle after) := by
  induction first generalizing after with
  | nil =>
      cases second
      rfl
  | @cons stream between streams middle kind fading rest ih =>
      cases second with
      | @cons _ last _ later laterKind laterFading laterRest =>
          simp only [endedOn, ih laterRest, kind]
          -- What has ended stays so, which rules out a second end of the same stream.
          cases alive : stream.isLive <;> cases meanwhile : between.isLive <;>
            cases still : last.isLive <;> simp_all [Bool.or_assoc, Bool.or_left_comm]

theorem Settles.trans {board between later : Board}
    (first : Settles board streams between middle) (second : Settles between middle later after) :
    Settles board streams later after where
  fades := first.fades.trans second.fades
  evolves := first.evolves.trans second.evolves
  isClosed := second.isClosed.trans first.isClosed
  topics := by
    intro topic
    rw [second.topics, first.topics, endedOn_trans topic first.fades second.fades]
    cases endedOn topic streams middle <;> cases endedOn topic middle after <;> rfl

/-! ## One stream -/

theorem offer_frame (stream : EventStream) :
    stream.offer.kind = stream.kind ∧ stream.offer.isLive = stream.isLive := by
  unfold offer
  split <;> exact ⟨rfl, rfl⟩

theorem pull_frame (stream : EventStream) (unread : List Notification) :
    (stream.pull unread).1.kind = stream.kind ∧ (stream.pull unread).1.isLive = stream.isLive := by
  induction unread generalizing stream with
  | nil => exact ⟨rfl, rfl⟩
  | cons notification unread ih =>
      unfold pull
      split
      · exact ⟨rfl, rfl⟩
      · split
        · exact ih stream
        · rename_i event _
          obtain ⟨kind, live⟩ := ih ({ stream with held := some event }.offer)
          obtain ⟨offered, alive⟩ := offer_frame { stream with held := some event }
          exact ⟨kind.trans offered, live.trans alive⟩

theorem evolves_retire (board : Board) (stream : EventStream) :
    Board.Evolves board (stream.retire board).1 :=
  (board.evolves_unsubscribe _).trans (Board.evolves_abandon _ _)

theorem settles_retire (board : Board) {stream before : EventStream} (live : before.isLive = true)
    (kind : stream.kind = before.kind) :
    Settles board [before] (retire board stream).1 [(retire board stream).2] where
  fades := .cons kind (fun _ => live) .nil
  evolves := evolves_retire board stream
  isClosed := rfl
  topics := by
    intro topic
    change (board.topics.erase stream.kind.topic).find? topic = _
    rw [Directory.find?_erase, kind]
    by_cases same : topic = before.kind.topic
    · simp [endedOn, retire, finish, live, same]
    · simp [endedOn, same, Ne.symm same]

theorem settles_keep (board : Board) (number : Nat) (unread : List Notification)
    {stream later : EventStream} (kind : later.kind = stream.kind)
    (live : later.isLive = stream.isLive) :
    Settles board [stream] (board.keep number unread) [later] where
  fades := .cons kind (fun alive => live ▸ alive) .nil
  evolves := board.evolves_keep number unread
  isClosed := rfl
  topics := by
    intro topic
    cases alive : stream.isLive <;> simp [endedOn, live, alive, Board.keep]

theorem settles_advance (cancelled : List Token) (board : Board) (stream : EventStream) :
    Settles board [stream] (stream.advance cancelled board).1
      [(stream.advance cancelled board).2] := by
  unfold advance
  split
  · exact ⟨.refl _, .refl _, rfl, fun topic => by rw [endedOn_self]; rfl⟩
  · rename_i live
    have live : stream.isLive = true := by simpa using live
    split
    · exact settles_retire board live rfl
    · obtain ⟨kind, pulled⟩ := pull_frame stream.offer (board.mailbox stream.mailbox).unread
      obtain ⟨offered, alive⟩ := offer_frame stream
      dsimp only
      generalize stream.offer.pull (board.mailbox stream.mailbox).unread = result at *
      have kept := settles_keep board result.1.mailbox result.2 (kind.trans offered)
        (pulled.trans alive)
      split
      · exact kept.trans (settles_retire _ (pulled.trans (alive.trans live)) rfl)
      · exact kept

/-! ## All streams -/

theorem Settles.cons {board between later : Board} {stream next : EventStream}
    (first : Settles board [stream] between [next])
    (rest : Settles between streams later after) :
    Settles board (stream :: streams) later (next :: after) where
  fades := by
    cases first.fades with
    | cons kind fading _ => exact .cons kind fading rest.fades
  evolves := first.evolves.trans rest.evolves
  isClosed := rest.isClosed.trans first.isClosed
  topics := by
    intro topic
    rw [rest.topics, first.topics]
    simp only [endedOn, Bool.or_false]
    by_cases later : endedOn topic streams after = true
    · simp only [later, Bool.or_true, if_true]
    · simp [later]

theorem settles_sweep (cancelled : List Token) (board : Board) (streams : List EventStream) :
    Settles board streams (sweep cancelled board streams).1 (sweep cancelled board streams).2 := by
  induction streams generalizing board with
  | nil => exact ⟨.nil, .refl board, rfl, fun _ => rfl⟩
  | cons stream streams ih => exact (settles_advance cancelled board stream).cons (ih _)

/-- A topic is lost exactly when one of its streams ends, even one that does not hold it. -/
theorem settles_settle (cancelled : List Token) (board : Board) (streams : List EventStream) :
    Settles board streams (settle cancelled board streams).1
      (settle cancelled board streams).2 := by
  fun_induction settle cancelled board streams with
  | case1 board streams swept ends ih =>
      exact (settles_sweep cancelled board streams).trans ih
  | case2 board streams swept stays => exact settles_sweep cancelled board streams

end EventStream

end ServerManagement
