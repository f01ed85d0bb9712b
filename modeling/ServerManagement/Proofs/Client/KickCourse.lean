import ServerManagement.Client.Operations
import ServerManagement.Proofs.Client.Performance
import ServerManagement.Proofs.Server.PlainRecords

/-!
How players are kicked: whom the server lists as online decides who is kicked, what becomes of the
kick decides nothing, and a second list is the result.
-/

set_option autoImplicit false

namespace ServerManagement

open ServerManagement.Json
open ServerManagement.Wire
open Client (playersDecoder kickPlayers)

namespace Turn

structure Lists (turn : Turn) : Prop where
  method : turn.method = "minecraft:players"
  params : turn.params = .none

structure Kicks (turn : Turn) (kicks : List Kick) : Prop where
  method : turn.method = "minecraft:players/kick"
  params : ∃ element, turn.params = .ok (.array [element]) ∧
    element = (Codec.list Kick.record.codec).toValue kicks ∧
    (Codec.list Kick.record.codec).ofValue element = .ok kicks

end Turn

/-- The kicks of players who are listed, by their exact names, in the order in which they were
wanted. -/
def Kick.among (online : List Player) (kicks : List Kick) : List Kick :=
  kicks.filter fun kick => kick.player.name ∈ online.map Player.name

/-- The calls that are made to kick players, and the result, by how the calls end. -/
inductive KickCourse (kicks : List Kick) : List Turn → Option (Except Failure (List Player)) → Prop
  | listing {first : Turn} (lists : first.Lists) (waits : first.outcome = none) :
      KickCourse kicks [first] none
  | unlisted {first : Turn} {outcome : Except Failure Response} {failure : Failure}
      (lists : first.Lists) (ended : first.outcome = some outcome)
      (failed : decodeOutcome playersDecoder outcome = .error failure) :
      KickCourse kicks [first] (some (.error failure))
  | spared {first : Turn} {outcome : Except Failure Response} {online : List Player}
      (lists : first.Lists) (ended : first.outcome = some outcome)
      (listed : decodeOutcome playersDecoder outcome = .ok online)
      (nobody : Kick.among online kicks = []) :
      KickCourse kicks [first] (some (.ok online))
  | kicking {first second : Turn} {outcome : Except Failure Response} {online : List Player}
      (lists : first.Lists) (ended : first.outcome = some outcome)
      (listed : decodeOutcome playersDecoder outcome = .ok online)
      (somebody : Kick.among online kicks ≠ [])
      (asks : second.Kicks (Kick.among online kicks)) (waits : second.outcome = none) :
      KickCourse kicks [first, second] none
  | kicked {first second third : Turn} {outcome : Except Failure Response}
      {online : List Player} (lists : first.Lists) (ended : first.outcome = some outcome)
      (listed : decodeOutcome playersDecoder outcome = .ok online)
      (somebody : Kick.among online kicks ≠ [])
      (asks : second.Kicks (Kick.among online kicks)) (finished : second.outcome ≠ none)
      (relists : third.Lists) :
      KickCourse kicks [first, second, third]
        (third.outcome.map (decodeOutcome playersDecoder))

variable {terms : CallTerms} {session : Session} {steps : List Session.Step} {kicks : List Kick}
  {turns : List Turn} {result : Option (Except Failure (List Player))}

theorem filter_isOnline (online : List Player) (kicks : List Kick) :
    (kicks.filter fun kick => isOnline online kick.player.name) = Kick.among online kicks := by
  refine List.filter_congr fun kick _ => Bool.eq_iff_iff.mpr ?_
  simp [isOnline]

/-- Players are kicked by the course, whatever happens to the session. -/
theorem kickCourse_of_performs
    (performs : (kickPlayers kicks).Performs terms session steps turns result) :
    KickCourse kicks turns result := by
  have asks (number : Nat) (outcome : Option (Except Failure Response)) (named : List Kick) :
      Turn.Kicks ⟨number, "minecraft:players/kick",
        .one ((Codec.list Kick.record.codec).toValue named), outcome⟩ named :=
    ⟨rfl, _, rfl, rfl, (RecordType.readsBack .kick fun _ => trivial).list named⟩
  cases performs with
  | waiting => exact .listing ⟨rfl, rfl⟩ rfl
  | answered _ _ rest =>
      dsimp only at rest
      split at rest
      · rename_i failed
        cases rest with
        | done => exact .unlisted ⟨rfl, rfl⟩ rfl failed
      · rename_i online listed
        rw [filter_isOnline] at rest
        split at rest
        · rename_i nobody
          cases rest with
          | done => exact .spared ⟨rfl, rfl⟩ rfl listed nobody
        · rename_i somebody
          cases rest with
          | waiting => exact .kicking ⟨rfl, rfl⟩ rfl listed somebody (asks ..) rfl
          | answered _ _ rest =>
              obtain ⟨third, rfl, method, params, rfl⟩ := rest.single
              exact .kicked ⟨rfl, rfl⟩ rfl listed somebody (asks ..) nofun ⟨method, params⟩

/-- A call is made to list players, or to kick some of those who have just been listed. -/
theorem KickCourse.turn_cases (course : KickCourse kicks turns result) {turn : Turn}
    (member : turn ∈ turns) :
    turn.Lists ∨ ∃ first rest outcome online, turns = first :: rest ∧
      first.outcome = some outcome ∧ decodeOutcome playersDecoder outcome = .ok online ∧
      Kick.among online kicks ≠ [] ∧ turn.Kicks (Kick.among online kicks) := by
  cases course with
  | listing lists | unlisted lists | spared lists =>
      exact .inl (List.mem_singleton.mp member ▸ lists)
  | kicking lists ended listed somebody asks =>
      rcases List.mem_pair.mp member with rfl | rfl
      · exact .inl lists
      · exact .inr ⟨_, _, _, _, rfl, ended, listed, somebody, asks⟩
  | kicked lists ended listed somebody asks _ relists =>
      rcases List.mem_cons.mp member with rfl | member
      · exact .inl lists
      rcases List.mem_pair.mp member with rfl | rfl
      · exact .inr ⟨_, _, _, _, rfl, ended, listed, somebody, asks⟩
      · exact .inl relists

/-! ## What goes out -/

/-- A request to kick somebody, and only players who are listed. -/
def Request.KicksListed (online : List Player) (request : Request) : Prop :=
  ∃ element named, request.params = some [element] ∧
    (Codec.list Kick.record.codec).ofValue element = .ok named ∧ named ≠ [] ∧
    ∀ kick ∈ named, ∃ player ∈ online, player.name = kick.player.name

theorem Kick.listed_of_among {online : List Player} {kick : Kick}
    (chosen : kick ∈ Kick.among online kicks) :
    ∃ player ∈ online, player.name = kick.player.name := by
  have named : kick.player.name ∈ online.map Player.name :=
    of_decide_eq_true (List.mem_filter.mp chosen).2
  exact List.mem_map.mp named

theorem Turn.Lists.parse_render {turn : Turn} {id : UInt64} {request : Request} (lists : turn.Lists)
    (created : Request.create id turn.method turn.params = .ok request) :
    Request.record.decoder.parse (bytesOf request.render) = .ok request ∧
      request.method = turn.method ∧ request.params = none := by
  rw [lists.params] at created
  obtain rfl := Except.ok.inj created
  refine ⟨Request.parse_render (fun _ member => absurd member List.not_mem_nil) ?_, rfl, rfl⟩
  have flat : (Value.object (Request.record.members ⟨id, turn.method, none⟩)).depth = 1 := rfl
  exact flat ▸ by decide

theorem Turn.Kicks.parse_render {turn : Turn} {id : UInt64} {request : Request}
    {named : List Kick} (asks : turn.Kicks named)
    (created : Request.create id turn.method turn.params = .ok request) :
    Request.record.decoder.parse (bytesOf request.render) = .ok request ∧
      request.method = turn.method ∧ ∃ element, request.params = some [element] ∧
        (Codec.list Kick.record.codec).ofValue element = .ok named := by
  obtain ⟨element, params, rfl, decodes⟩ := asks.params
  obtain ⟨plain, shallow⟩ := (writesPlain_kick 0).list named
  obtain ⟨parsed, method, params⟩ := Request.parse_render_one (params ▸ created) plain
    (Nat.le_trans shallow (by decide))
  exact ⟨parsed, method, _, params, decodes⟩

/-- In every session and whatever happens to it, players are kicked by the course. What goes out for
it goes out in the order of the calls, at most once for each, and is read as what was asked for: a
request to list has no parameters, and a request to kick is never empty and names only players whom
the answer to the first request has listed. -/
theorem kickPlayers_course (settings : Settings) (lineCapacity : Nat) (loggerPanics : Bool)
    (before : List Session.Step) (terms : CallTerms) (kicks : List Kick) :
    let start := Session.create settings lineCapacity loggerPanics
    (∀ others : List Session.Step, ∃ steps turns result,
      (kickPlayers kicks).Performs terms (start.run before) steps turns result ∧
        others.Sublist steps) ∧
    ∀ steps turns result, (kickPlayers kicks).Performs terms (start.run before) steps turns result →
      KickCourse kicks turns result ∧
      ((start.lettersFor turns (before ++ steps)).map Letter.call).Sublist
        (turns.map Turn.number) ∧
      ∀ turn ∈ turns, ∀ letter ∈ start.transmissions (before ++ steps),
        turn.number = letter.call →
          Request.record.decoder.parse (bytesOf letter.text) = .ok letter.request ∧
          letter.request.method = turn.method ∧
          ((turn.method = "minecraft:players" ∧ letter.request.params = none) ∨
            (turn.method = "minecraft:players/kick" ∧ ∃ first rest outcome online,
              turns = first :: rest ∧ first.outcome = some outcome ∧
              decodeOutcome playersDecoder outcome = .ok online ∧
              letter.request.KicksListed online)) := by
  intro start
  have flowing : start.Flowing := .create settings lineCapacity loggerPanics
  refine ⟨Exchange.exists_performs terms _ _, fun steps turns result performs => ?_⟩
  have course := kickCourse_of_performs performs
  refine ⟨course, performs.letters_in_order flowing rfl, fun turn member letter sent same => ?_⟩
  obtain ⟨id, created⟩ := performs.request_of_letter flowing rfl member sent same
  rcases course.turn_cases member with
    lists | ⟨first, rest, outcome, online, split, ended, listed, somebody, asks⟩
  · obtain ⟨parsed, method, params⟩ := lists.parse_render created
    exact ⟨parsed, method, .inl ⟨lists.method, params⟩⟩
  · obtain ⟨parsed, method, element, params, decodes⟩ := asks.parse_render created
    exact ⟨parsed, method, .inr ⟨asks.method, first, rest, outcome, online, split, ended, listed,
      element, _, params, decodes, somebody, fun kick => Kick.listed_of_among⟩⟩

/-- One of the two who are to be kicked is listed, since names are compared exactly. All three
requests go out, the second to kick; the kick fails, and the second list is the result. -/
theorem kickPlayers_course_of_refused :
    let ann : Kick := ⟨.named "Ann", .ofText "out"⟩
    let kicks : List Kick := [⟨.named "ann", .ofText "out"⟩, ann]
    let listed (names : List String) : Value :=
      .array (names.map fun name => .object [("name", .text name)])
    let first := Response.success 1 (listed ["Ann", "Bob"])
    let second := Response.failure 2 (.text "gone")
    let third := Response.success 3 (listed ["Bob"])
    let receive (response : Response) : Session.Step :=
      .receive (.data (bytesOf (Response.record.render response)))
    let asked : Params := .one ((Codec.list Kick.record.codec).toValue [ann])
    let steps : List Session.Step := [.call "minecraft:players" .none .standard, receive first] ++
      ([.call "minecraft:players/kick" asked .standard, receive second] ++
      ([.call "minecraft:players" .none .standard, receive third] ++ []))
    let turns : List Turn := [⟨0, "minecraft:players", .none, some (.ok first)⟩,
      ⟨1, "minecraft:players/kick", asked, some (.ok second)⟩,
      ⟨2, "minecraft:players", .none, some (.ok third)⟩]
    let start := Session.create .standard 1000 false
    (kickPlayers kicks).Performs .standard start steps turns (some (.ok [.named "Bob"])) ∧
      KickCourse kicks turns (some (.ok [.named "Bob"])) ∧
      (start.lettersFor turns steps).map Letter.call = [0, 1, 2] ∧
      ∃ letter ∈ start.lettersFor turns steps, letter.call = 1 ∧
        letter.request.method = "minecraft:players/kick" ∧
        letter.request.KicksListed [.named "Ann", .named "Bob"] := by
  intro ann kicks listed first second third receive asked steps turns start
  have online : decodeOutcome playersDecoder (.ok first) = .ok [.named "Ann", .named "Bob"] := by
    decide +kernel
  have chosen : (kicks.filter fun kick =>
      isOnline [.named "Ann", .named "Bob"] kick.player.name) = [ann] := by decide +kernel
  have left : decodeOutcome playersDecoder (.ok third) = .ok [.named "Bob"] := by decide +kernel
  have performs :
      (kickPlayers kicks).Performs .standard start steps turns (some (.ok [.named "Bob"])) := by
    refine .answered rfl (by decide +kernel) ?_
    rw [online]
    dsimp only
    rw [chosen]
    refine .answered (by decide +kernel) (by decide +kernel) ?_
    refine .answered (by decide +kernel) (by decide +kernel) ?_
    rw [left]
    exact .done
  obtain ⟨course, _, goes⟩ :=
    (kickPlayers_course .standard 1000 false [] .standard kicks).2 _ _ _ performs
  have out : (start.lettersFor turns steps).map Letter.call = [0, 1, 2] := by decide +kernel
  have asks : 1 ∈ (start.lettersFor turns steps).map Letter.call := by
    rw [out]
    decide
  obtain ⟨letter, member, called⟩ := List.mem_map.mp asks
  have sent := (Session.mem_lettersFor_iff.mp member).1
  obtain ⟨_, method, alternatives⟩ :=
    goes ⟨1, "minecraft:players/kick", asked, some (.ok second)⟩ (by simp [turns]) letter sent
      called.symm
  refine ⟨performs, course, out, letter, member, called, method, ?_⟩
  rcases alternatives with ⟨lists, _⟩ | ⟨_, _, _, outcome, _, split, ended, answered, kicksListed⟩
  · exact absurd lists (by decide)
  · obtain ⟨rfl, _⟩ := List.cons.inj split
    obtain rfl := Option.some.inj ended
    obtain rfl := Except.ok.inj (online.symm.trans answered)
    exact kicksListed

end ServerManagement
