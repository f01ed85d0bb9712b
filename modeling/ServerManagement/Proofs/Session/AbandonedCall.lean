import ServerManagement.Proofs.Session.ForgottenSteps
import ServerManagement.Proofs.Session.History

/-!
A call whose letter has entered the queue may be given up at any time: everyone else goes on as if
it had not been.
-/

set_option autoImplicit false

namespace ServerManagement

namespace Session

variable {session : Session} {call : Call} {own : Option Token} {next : Step}

/-! ## One step -/

/-- What can be seen of a step, the end of the call apart. -/
def Sight.beside (sight : Sight) (call : Nat) : Answer × List Occurrence :=
  (sight.answer, sight.news.filter (Occurrence.isBeside call))

def stepForgotten (own : Option Token) (session : Session) (next : Step) : Answer × Session :=
  if next.cancels own then (.done, session) else session.step next

theorem Forgettable.step_own (forgettable : session.Forgettable call own) (still : session.Still)
    (acted : (session.act next).2.Forgettable call own ∧
      (session.act next).2.forget call own = session.forget call own) :
    (session.step next).2.Forgettable call own ∧
      (session.step next).2.forget call own = session.forget call own := by
  obtain ⟨settled, same⟩ := overlooks_settle _ acted.1
  refine ⟨settled, same.trans ?_⟩
  rw [acted.2, (still.forget forgettable).settle_eq]

theorem Forgettable.step (forgettable : session.Forgettable call own) (sound : session.Sound)
    (still : session.Still) (few : (session.step next).2.callCount < 2 ^ 64)
    (unused : ∀ token ∈ own, next.uses token = false) :
    (session.step next).2.Forgettable call own ∧
      (session.forget call own).stepForgotten own next =
        ((session.step next).1, (session.step next).2.forget call own) := by
  unfold stepForgotten
  split
  · rename_i cancels
    cases next with
    | cancel token =>
        have owned : own = some token := by simpa [Step.cancels] using cancels
        have acted : (session.act (.cancel token)).2.Forgettable call own ∧
            (session.act (.cancel token)).2.forget call own = session.forget call own :=
          forgettable.cancel_own owned
        obtain ⟨kept, same⟩ := forgettable.step_own still acted
        exact ⟨kept, by rw [same]; rfl⟩
    | _ => cases cancels
  · rename_i uncancelled
    obtain ⟨acted, same⟩ := forgettable.act sound few unused (Bool.eq_false_iff.mpr uncancelled)
    obtain ⟨settled, sameToo⟩ := overlooks_settle _ acted
    refine ⟨settled, ?_⟩
    simp only [Session.step, same, ← sameToo]

/-- What can be seen of a step beside the call can be seen without it. -/
theorem Forgettable.sight (forgettable : session.Forgettable call own) (sound : session.Sound)
    (still : session.Still) (few : (session.step next).2.callCount < 2 ^ 64)
    (unused : ∀ token ∈ own, next.uses token = false) :
    (session.sight next).beside call.number =
      (((session.forget call own).stepForgotten own next).1,
        ((session.forget call own).stepForgotten own next).2.history.drop
          (session.forget call own).history.length) := by
  obtain ⟨_, same⟩ := forgettable.step sound still few unused
  have news : ((session.step next).2.forget call own).history =
      (session.forget call own).history ++
        (session.sight next).news.filter (Occurrence.isBeside call.number) := by
    change (session.step next).2.history.filter (Occurrence.isBeside call.number) =
      session.history.filter (Occurrence.isBeside call.number) ++ _
    rw [history_step, List.filter_append]
  rw [same, news, List.drop_left]
  rfl

/-! ## Runs -/

theorem Forgettable.run {first second : Session} (steps : List Step)
    (one : first.Forgettable call own) (other : second.Forgettable call own)
    (sound : first.Sound) (soundToo : second.Sound) (still : first.Still) (stillToo : second.Still)
    (few : (first.run steps).callCount < 2 ^ 64) (fewToo : (second.run steps).callCount < 2 ^ 64)
    (unused : ∀ next ∈ steps, ∀ token ∈ own, next.uses token = false)
    (alike : first.forget call own = second.forget call own) :
    (first.sights steps).map (fun sight => sight.beside call.number) =
        (second.sights steps).map (fun sight => sight.beside call.number) ∧
      (first.run steps).forget call own = (second.run steps).forget call own ∧
      (first.run steps).Forgettable call own := by
  induction steps generalizing first second with
  | nil => exact ⟨rfl, alike, one⟩
  | cons next steps ih =>
      have early := Nat.lt_of_le_of_lt (callCount_run_le _ steps) few
      have earlyToo := Nat.lt_of_le_of_lt (callCount_run_le _ steps) fewToo
      have free := unused next (List.mem_cons_self ..)
      obtain ⟨kept, same⟩ := one.step sound still early free
      obtain ⟨keptToo, sameToo⟩ := other.step soundToo stillToo earlyToo free
      have seen := one.sight sound still early free
      have seenToo := other.sight soundToo stillToo earlyToo free
      rw [alike] at same seen
      obtain ⟨_, goesOn⟩ := Prod.mk.inj (same.symm.trans sameToo)
      obtain ⟨sights, ran⟩ := ih kept keptToo (sound.step early) (soundToo.step earlyToo)
        (still_step sound early) (still_step soundToo earlyToo) few fewToo
        (fun later member => unused later (List.mem_cons_of_mem _ member)) goesOn
      refine ⟨?_, ran⟩
      simp only [sights_cons, List.map_cons, seen, seenToo, sights]

/-! ## Calls given up -/

/-- The step gives a call up: its caller goes, or its token is cancelled, which no other call in
progress, no stream and no later step uses. -/
inductive GivesUp (session : Session) (call : Call) (after : List Step) : Step → Prop
  | leave : GivesUp session call after (.abandonCall call.number)
  | cancel (token : Token) (owned : call.token = some token)
      (calls : ∀ other ∈ session.calls, other.token = some token → other = call)
      (streams : ∀ stream ∈ session.streams, stream.token ≠ token)
      (unused : ∀ next ∈ after, next.uses token = false) :
      GivesUp session call after (.cancel token)

theorem Sound.forgettable (sound : session.Sound) (member : call ∈ session.calls)
    (queued : session.outbound.isWaiting call.number = false)
    (calls : ∀ token ∈ own, ∀ other ∈ session.calls, other.token = some token → other = call)
    (streams : ∀ token ∈ own, ∀ stream ∈ session.streams, stream.token ≠ token) :
    session.Forgettable call own where
  queued := queued
  counted := sound.accounts.counted call member
  drawn := (sound.accounts.known call member).2
  placed := sound.accounts.placed call member
  pairs := by
    intro id ticket found
    obtain ⟨other, otherMember, rfl, rfl, _⟩ := (sound.accounts.listed _ _).mp found
    constructor
    · intro same
      exact congrArg Call.ticket (sound.accounts.eq_of_id otherMember member same)
    · intro same
      exact congrArg Call.id (sound.accounts.eq_of_ticket otherMember member same)
  others := by
    intro other otherMember
    by_cases same : other = call
    · exact .inl same
    · right
      refine ⟨?_, ?_, ?_, ?_⟩
      · exact fun equal => same (sound.accounts.eq_of_number otherMember member equal)
      · exact fun equal => same (sound.accounts.eq_of_id otherMember member equal)
      · exact fun equal => same (sound.accounts.eq_of_ticket otherMember member equal)
      · exact fun token owned used => same (calls token owned other otherMember used)
  streams := fun stream here token owned => streams token owned stream here

theorem Forgettable.leave (forgettable : session.Forgettable call own) :
    (session.abandonCall call.number).Forgettable call own ∧
      (session.abandonCall call.number).forget call own = session.forget call own := by
  obtain ⟨kept, same⟩ := overlooks_abandonCall call.number session forgettable
  refine ⟨kept, same.trans ?_⟩
  dsimp only [abandonCall]
  rw [call?_forget_self]

/-- The entry of a call that is gone is the only one that may be missing. -/
theorem entries_of_alike {first second : Session} (sound : first.Sound)
    (forgettable : first.Forgettable call own) (absent : first.Absent call.number)
    (alike : first.forget call own = second.forget call own) :
    first.correlator.entries = second.correlator.entries.erase call.id := by
  have entries : first.correlator.entries.erase call.id = second.correlator.entries.erase call.id :=
    congrArg (fun session => session.correlator.entries) alike
  rw [← entries, Directory.erase_of_absent]
  refine Option.eq_none_iff_forall_ne_some.mpr fun ticket found => ?_
  obtain ⟨other, member, same, _⟩ := (sound.accounts.listed _ _).mp found
  rcases forgettable.others other member with rfl | apart
  · exact absent other member rfl
  · exact apart.id same

structure Forgotten (session : Session) (call : Call) (own : Option Token) (gone : Step) :
    Prop where
  before : session.Forgettable call own
  answer : (session.step gone).1 = .done
  later : (session.step gone).2.Forgettable call own
  alike : (session.step gone).2.forget call own = session.forget call own
  absent : (session.step gone).2.Absent call.number

theorem Sound.forgotten (sound : session.Sound) (still : session.Still) (gone : Step)
    (forgettable : session.Forgettable call own) (answer : (session.act gone).1 = .done)
    (acted : (session.act gone).2.Forgettable call own ∧
      (session.act gone).2.forget call own = session.forget call own)
    (absent : (session.act gone).2.Absent call.number)
    (few : (session.step gone).2.callCount < 2 ^ 64) : session.Forgotten call own gone := by
  obtain ⟨kept, same⟩ := forgettable.step_own still acted
  have settled := Gone.settle (sound.act few) ⟨absent, rfl⟩
  exact ⟨forgettable, answer, kept, same, settled.absent⟩

variable {after : List Step} {gone : Step}

theorem GivesUp.isCall (gives : session.GivesUp call after gone) : gone.isCall = false := by
  cases gives <;> rfl

theorem GivesUp.forgotten (gives : session.GivesUp call after gone) (sound : session.Sound)
    (still : session.Still) (few : (session.step gone).2.callCount < 2 ^ 64)
    (member : call ∈ session.calls) (queued : session.outbound.isWaiting call.number = false) :
    ∃ own, (∀ token ∈ own, call.token = some token ∧ ∀ next ∈ after, next.uses token = false) ∧
      session.Forgotten call own gone := by
  cases gives with
  | leave =>
      have nothing (token : Token) : token ∉ (none : Option Token) := Option.not_mem_none token
      have forgettable : session.Forgettable call none :=
        sound.forgettable member queued (fun token here => absurd here (nothing token))
          fun token here => absurd here (nothing token)
      have absent : (session.abandonCall call.number).Absent call.number := by
        simp only [abandonCall, sound.call?_eq_some member]
        exact session.absent_dismiss call
      exact ⟨none, fun token here => absurd here (nothing token),
        sound.forgotten still (.abandonCall call.number) forgettable rfl forgettable.leave absent
          few⟩
  | cancel token owned calls streams unused =>
      have only (other : Token) (here : other ∈ some token) : other = token :=
        (Option.mem_some.mp here).symm
      have forgettable : session.Forgettable call (some token) := by
        refine sound.forgettable member queued ?_ ?_
        · intro other here
          rw [only other here]
          exact calls
        · intro other here
          rw [only other here]
          exact streams
      have ended := (endsWhere_cancel sound token).ends call member _ (if_pos owned)
      refine ⟨some token, ?_, sound.forgotten still (.cancel token) forgettable rfl
        (forgettable.cancel_own rfl) ended.absent few⟩
      intro other here
      rw [only other here]
      exact ⟨owned, unused⟩

/-- Sessions that are the same without a call are so whatever else is left out. -/
theorem forget_of_forget {first second : Session} {token : Option Token}
    (included : ∀ used ∈ own, token = some used)
    (alike : first.forget call own = second.forget call own) :
    first.forget call token = second.forget call token := by
  have fewer (session : Session) : session.forget call token =
      { session.forget call own with
        cancelled :=
          (session.forget call own).cancelled.filter fun used => token ≠ some used } := by
    simp only [forget, List.filter_filter, Session.mk.injEq, true_and, and_true]
    refine List.filter_congr fun used _ => ?_
    by_cases same : own = some used
    · simp [same, included used same]
    · simp [same]
  rw [fewer first, fewer second, alike]

/-- To give a call up whose letter has entered the queue is a matter of its own: every later step
answers the same, the same occurs in it but for the end of the call, and the sessions are the same
but for the call, whose entry is gone from the table. -/
theorem abandoned_call_local (settings : Settings) (lineCapacity : Nat) (loggerPanics : Bool)
    (before after : List Step) (gone : Step) (call : Call)
    (few : ((create settings lineCapacity loggerPanics).run (before ++ after)).callCount < 2 ^ 64)
    (member : call ∈ ((create settings lineCapacity loggerPanics).run before).calls)
    (queued : ((create settings lineCapacity loggerPanics).run before).outbound.isWaiting
      call.number = false)
    (gives : ((create settings lineCapacity loggerPanics).run before).GivesUp call after gone) :
    let start := create settings lineCapacity loggerPanics
    let session := start.run before
    let without := start.run (before ++ after)
    let abandoned := start.run (before ++ gone :: after)
    (session.sight gone).beside call.number = (.done, []) ∧
      ((session.step gone).2.sights after).map (fun sight => sight.beside call.number) =
        (session.sights after).map (fun sight => sight.beside call.number) ∧
      abandoned.forget call call.token = without.forget call call.token ∧
      abandoned.correlator.entries = without.correlator.entries.erase call.id := by
  intro start session without abandoned
  have started : start.Sound := .create settings lineCapacity loggerPanics
  have ran : without = session.run after := run_append ..
  have ranToo : abandoned = (session.step gone).2.run after := run_append ..
  have few : (session.run after).callCount < 2 ^ 64 := ran ▸ few
  have room : session.callCount < 2 ^ 64 := Nat.lt_of_le_of_lt (callCount_run_le _ after) few
  have counted : (session.step gone).2.callCount = session.callCount := by
    rw [callCount_step_eq, gives.isCall]
    rfl
  have fewToo : ((session.step gone).2.run after).callCount < 2 ^ 64 := by
    rw [callCount_run] at few ⊢
    exact counted.symm ▸ few
  have early : (session.step gone).2.callCount < 2 ^ 64 := counted.symm ▸ room
  have sound : session.Sound := started.run room
  have still : session.Still := still_run settings lineCapacity loggerPanics before room
  obtain ⟨own, owned, forgotten⟩ := gives.forgotten sound still early member queued
  have soundToo : (session.step gone).2.Sound := sound.step early
  obtain ⟨sights, alike, kept⟩ := Forgettable.run after forgotten.later forgotten.before soundToo
    sound (still_step sound early) still fewToo few
    (fun next here token mine => (owned token mine).2 next here) forgotten.alike
  have stays : Gone call.number _ ((session.step gone).2.run after) :=
    Gone.run soundToo fewToo forgotten.later.counted ⟨forgotten.absent, rfl⟩
  rw [ran, ranToo]
  refine ⟨?_, sights, forget_of_forget (fun token mine => (owned token mine).1) alike,
    entries_of_alike (soundToo.run fewToo) kept stays.absent alike⟩
  -- The step itself adds nothing to the history but the end of the call.
  have history : session.history.filter (Occurrence.isBeside call.number) ++
      (session.sight gone).news.filter (Occurrence.isBeside call.number) =
        session.history.filter (Occurrence.isBeside call.number) := by
    rw [← List.filter_append, ← history_step]
    exact congrArg Session.history forgotten.alike
  exact Prod.ext forgotten.answer
    (List.append_cancel_left (history.trans (List.append_nil _).symm))

/-- Without the cancellation the first call has its response. With it the response comes too late,
and the second call and the stream do not notice. -/
theorem abandoned_call_local_of_cancelled :
    let frame (text : String) : Step := .receive (.data (Json.bytesOf text))
    let before : List Step := [.openStream .serverSaved "s", .pause,
      .call "a" .none ⟨none, some "t"⟩, .call "b" .none .standard]
    let after : List Step := [.resume, frame r#"{"id":1,"result":true}"#,
      frame r#"{"method":"minecraft:notification/server/saved"}"#, .readStream 0,
      .advance 5000]
    let call : Call := ⟨0, 1, "a", 0, 5000, 5000, some "t"⟩
    let start := create .standard 1024 false
    let session := start.run before
    let without := start.run (before ++ after)
    let abandoned := start.run (before ++ .cancel "t" :: after)
    without.callCount < 2 ^ 64 ∧ call ∈ session.calls ∧
      session.outbound.isWaiting call.number = false ∧
      session.GivesUp call after (.cancel "t") ∧
      ((session.step (.cancel "t")).2.sights after).map (fun sight => sight.beside call.number) =
        (session.sights after).map (fun sight => sight.beside call.number) ∧
      abandoned.forget call call.token = without.forget call call.token ∧
      ((session.step (.cancel "t")).2.sights after).map Sight.pending = [1, 1, 1, 1, 0] ∧
      (session.sights after).map Sight.pending = [2, 1, 1, 1, 0] := by
  intro frame before after call start session without abandoned
  have few : without.callCount < 2 ^ 64 := by decide +kernel
  have member : call ∈ session.calls := by decide +kernel
  have queued : session.outbound.isWaiting call.number = false := by decide +kernel
  have gives : session.GivesUp call after (.cancel "t") :=
    .cancel "t" rfl (by decide +kernel) (by decide +kernel) (by decide +kernel)
  obtain ⟨_, sights, alike, _⟩ := abandoned_call_local .standard 1024 false before after
    (.cancel "t") call few member queued gives
  exact ⟨few, member, queued, gives, sights, alike, by decide +kernel, by decide +kernel⟩

end Session

end ServerManagement
