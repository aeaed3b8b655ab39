import Switchboard.Proofs.Invocation.Course
import Switchboard.Transport.Scripted

/-!
The result of an invocation is that of an ordered walk over the destinations of its receivers,
whatever the transport does and whoever else is busy with the same destinations.
-/
namespace Switchboard

open Text (Bytes)

namespace Client

open Invocation (InOrder Walk)

variable {T : Type} [Transport T]

section Runs

variable {c : Client T} {id : Nat} {target : Target} {payload : Bytes}

/-- Answers are added to those that were given before. -/
theorem Course.answers_run (course : Course id target payload c) (reachable : c.Reachable)
    (actions : List (Action T)) : ∃ more, (c.run actions).answers id = c.answers id ++ more := by
  induction actions generalizing c with
  | nil => exact ⟨[], (List.append_nil _).symm⟩
  | cons a rest ih =>
    obtain ⟨more, added⟩ := ih (course.act reachable a) (reachable.act a)
    rcases course.answers_act reachable a with same | ⟨_, answer, _, one⟩
    · exact ⟨more, by rw [run_cons, added, same]⟩
    · exact ⟨answer :: more, by rw [run_cons, added, one, List.append_assoc, List.singleton_append]⟩

/-- Every answer comes in a step of the call and is true in the client that takes the step. -/
theorem Course.truthful (course : Course id target payload c) (reachable : c.Reachable)
    (nothing : c.answers id = []) (actions : List (Action T)) {k : Nat} {answer : Invocation.Answer}
    (told : ((c.run actions).answers id)[k]? = some answer) :
    ∃ before rest, actions = before ++ .step (.call id) :: rest ∧
      (c.run before).answers id = ((c.run actions).answers id).take k ∧
      Truthful id target payload (c.run before) answer := by
  induction actions using List.reverseRecOn with
  | nil =>
    rw [run_nil, nothing] at told
    cases told
  | append_singleton earlier a ih =>
    have there := course.run reachable earlier
    rw [run_append, run_cons, run_nil] at told ⊢
    -- The answer was there before the last action, or it is the one that this action brings.
    rcases there.answers_act (reachable.run earlier) a with same | ⟨rfl, new, truthful, one⟩
    · rw [same] at told ⊢
      obtain ⟨before, rest, rfl, taken, truthful⟩ := ih told
      exact ⟨before, rest ++ [a], by simp, taken, truthful⟩
    · rw [one] at told ⊢
      by_cases old : k < ((c.run earlier).answers id).length
      · rw [List.getElem?_append_left old] at told
        obtain ⟨before, rest, split, taken, truthful⟩ := ih told
        refine ⟨before, rest ++ [.step (.call id)], by simp [split], ?_, truthful⟩
        rw [taken, List.take_append_of_le_length (Nat.le_of_lt old)]
      · have last : k = ((c.run earlier).answers id).length := by
          have bound := (List.getElem?_eq_some_iff.mp told).1
          rw [List.length_append, List.length_singleton] at bound
          omega
        subst last
        rw [List.getElem?_concat_length] at told
        cases told
        refine ⟨earlier, [], by simp, ?_, truthful⟩
        rw [List.take_append_of_le_length (Nat.le_refl _), List.take_length]

/-- An invocation that has just been made is on its course. -/
theorem course_startCall {made : Client T} (reachable : c.Reachable)
    (asked : c.startCall (.invoke { target := target, payload := payload }) = (made, id)) :
    made.Reachable ∧ Course id target payload made ∧ made.answers id = [] := by
  obtain ⟨unknown, silent, _⟩ := reachable.callsNumbered.fresh c.nextCall (Nat.le_refl _)
  obtain ⟨rfl, rfl⟩ := Prod.mk.inj asked
  have nothing : c.answers c.nextCall = [] := by
    rw [answers, silent]
    rfl
  refine ⟨reachable.act (.request (.invoke target payload)), .unstarted ?_ nothing, nothing⟩
  have calling := lookup_startCall c (.invoke { target := target, payload := payload }) c.nextCall
  rw [unknown, if_pos rfl] at calling
  exact calling

end Runs

/-- An invocation that has a result has walked to it: it was told of the receivers that were
registered when it started, has visited their destinations in order, each once, passed those that it
missed, and ended at the first dispatch that was heard of, or with one failure for each destination.
Whatever it was told was true when it was told. Its steps change neither registry nor table, nor a
destination that it did not visit. -/
theorem invocation_walks {c : Client T} (reachable : c.Reachable) {target : Target}
    {payload : Bytes}
    {made : Client T} {id : Nat}
    (asked : c.startCall (.invoke { target := target, payload := payload }) = (made, id))
    (actions : List (Action T)) {result : Except InvokeError Bytes}
    (ended : .invoked result ∈ (made.run actions).endings id) :
    ∃ rs visited,
      Walk target rs visited ((made.run actions).answers id) ((made.run actions).sends id) result ∧
      InOrder rs visited ∧
      (∀ t failures, result = .error (.connectivity t failures) →
        t = target ∧ failures ≠ [] ∧ failures.map (·.destination) = visited.map (·.name)) ∧
      (∀ (k : Nat) answer, ((made.run actions).answers id)[k]? = some answer →
        ∃ before rest, actions = before ++ .step (.call id) :: rest ∧
          (made.run before).answers id = ((made.run actions).answers id).take k ∧
          Truthful id target payload (made.run before) answer) ∧
      ∀ before rest, actions = before ++ .step (.call id) :: rest →
        ((made.run before).step (.call id)).registry = (made.run before).registry ∧
        ((made.run before).step (.call id)).table = (made.run before).table ∧
        ∀ j, (∀ r ∈ visited, j ≠ r.destination) →
          ((made.run before).step (.call id)).destinations[j]? =
            (made.run before).destinations[j]? := by
  obtain ⟨madeReachable, course, nothing⟩ := course_startCall reachable asked
  cases course.run madeReachable actions with
  | unstarted calling =>
    rw [((madeReachable.run actions).callsNumbered.made calling).2] at ended
    cases ended
  | underway calling =>
    rw [((madeReachable.run actions).callsNumbered.made calling).2] at ended
    cases ended
  | aborted gone ending =>
    rw [ending, List.mem_singleton] at ended
    cases ended
  | @ended rs visited result' gone ending order walk =>
    rw [ending, List.mem_singleton] at ended
    cases ended
    refine ⟨rs, visited, walk, order, ?_, ?_, ?_⟩
    · rintro t failures rfl
      exact walk.failures
    · intro k answer told
      exact course.truthful madeReachable nothing actions told
    · rintro before rest rfl
      have there := course.run madeReachable before
      have kept := registry_step (madeReachable.run before).numbered (.call id)
      refine ⟨kept.1, kept.2, ?_⟩
      intro j other
      apply there.elsewhere
      intro r usable told
      apply other r
      obtain ⟨more, added⟩ :=
        there.answers_run (madeReachable.run before) (.step (.call id) :: rest)
      rw [← run_append] at added
      apply walk.usable
      rw [added]
      exact List.mem_append_left _ told

/-- Three destinations, the first with two receivers. It cannot be connected, and the third one
breaks in the middle of a call. -/
def overlapping : Client Scripted :=
  (create "client" {
      opens := [{ failure := some (.refused "no") }]
      sends := [{ failure := some (.closed "reset") }] } {}).run
    [.addDestination { name := "a", host := "h", port := 1 },
      .addDestination { name := "b", host := "h", port := 2 },
      .addDestination { name := "c", host := "h", port := 3 },
      .register 0 [⟨"m", "*", "*"⟩], .register 0 [⟨"m", "c", "*"⟩], .register 1 [⟨"m", "*", "*"⟩],
      .register 2 [⟨"m", "*", "*"⟩]]

/-- A call and its attempts; somebody else disconnects the second destination as it is reached. -/
def interrupted : List (Action Scripted) :=
  let go : Action Scripted := .step (.call 0)
  [go, go, go, go, .step (.attempt 0), go, go, go, go, go, .step (.attempt 1), go, .disconnect 1,
    go, go, go, go, .step (.attempt 2), go, go]

theorem invocation_walks_interrupted :
    ∃ made rs visited failures,
      overlapping.startCall (.invoke { target := ⟨"m", "c", "i"⟩, payload := [1] }) = (made, 0) ∧
      Walk ⟨"m", "c", "i"⟩ rs visited ((made.run interrupted).answers 0) [2]
        (.error (.connectivity ⟨"m", "c", "i"⟩ failures)) ∧
      visited.map (·.name) = ["a", "b", "c"] ∧
      failures.map (·.destination) = visited.map (·.name) := by
  obtain ⟨made, making⟩ : ∃ made, made =
      (overlapping.startCall (.invoke { target := ⟨"m", "c", "i"⟩, payload := [1] })).1 := ⟨_, rfl⟩
  have asked : overlapping.startCall (.invoke { target := ⟨"m", "c", "i"⟩, payload := [1] }) =
      (made, 0) := by
    rw [making]
    rfl
  have ending : (made.run interrupted).endings 0 = [.invoked (.error (.connectivity ⟨"m", "c", "i"⟩
      [⟨"a", .refused, "connection refused: no"⟩, ⟨"b", .closed, "not connected"⟩,
        ⟨"c", .closed, "connection closed: reset"⟩]))] := by
    subst making
    rfl
  have sends : (made.run interrupted).sends 0 = [2] := by
    subst making
    rfl
  obtain ⟨rs, visited, walk, _, failed, _⟩ :=
    invocation_walks (c := overlapping) ⟨_, _, _, _, rfl⟩ asked interrupted
      (by rw [ending]; exact List.mem_singleton_self _)
  obtain ⟨_, _, names⟩ := failed _ _ rfl
  rw [sends] at walk
  exact ⟨made, rs, visited, _, asked, walk, names.symm, names⟩

end Client

end Switchboard
