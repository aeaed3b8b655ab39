import Switchboard.Proofs.Client.Outcomes
import Switchboard.Proofs.Invocation.Sends

/-!
An invocation among everything else that goes on in its client. Its answers are true when it gets
them, and nothing that others do between two of its steps takes it off its walk, so that its result
is that of the walk.
-/
namespace Switchboard

open Text (Bytes)

namespace Client

open Invocation (Answer Continues InOrder Underway Visiting Walk)

variable {T : Type} [Transport T]

def Event.answer? : Event → Option Answer
  | .told _ answer => some answer
  | _ => none

/-- The answers that a call was given, in order. -/
def answers (id : Nat) (c : Client T) : List Answer :=
  ((c.callEvents id).filterMap Event.answer?).reverse

/-- An answer that is true of a client whose call gets it. -/
def Truthful (id : Nat) (target : Target) (payload : Bytes) (c : Client T) : Answer → Prop
  | .receivers rs => c.registry.candidates target = rs
  | .usable r usable => (c.destinations[r.destination]?).any (·.isUsable) = usable
  | .joining r j => (c.beginConnect r.destination).2 = j
  | .outcome r a outcome => c.outcome? r.destination a = some outcome
  | .dispatched r result =>
    (c.startDispatch id r.destination target payload).2 = .done result ∨
      ∃ w s, c.calls.lookup id = some (.invoke w) ∧ w.place = .sending r s ∧
        (c.resumeDispatch r.destination payload.length s).2 = .done result

/-! ### Answers -/

theorem answers_of_events {c c' : Client T} {id : Nat}
    (events : c'.callEvents id = c.callEvents id) :
    c'.answers id = c.answers id := by
  rw [answers, events, answers]

@[simp] theorem answers_tell (c : Client T) (id : Nat) (answer : Answer) :
    (c.tell id answer).answers id = c.answers id ++ [answer] := by
  simp [answers, Event.answer?]

theorem answers_beginConnect (c : Client T) (i id : Nat) :
    (c.beginConnect i).1.answers id = c.answers id :=
  answers_of_events (callEvents_beginConnect c i id)

theorem answers_resumeDispatch (c : Client T) (i sent id : Nat) (s : PendingSend T) :
    (c.resumeDispatch i sent s).1.answers id = c.answers id :=
  answers_of_events (callEvents_resumeDispatch c i sent id s)

theorem answers_startDispatch (c : Client T) (id i : Nat) (target : Target) (payload : Bytes) :
    (c.startDispatch id i target payload).1.answers id = c.answers id := by
  have begun := startDispatch_begun c id i target payload
  generalize c.startDispatch id i target payload = r at begun ⊢
  cases begun with
  | absent => rfl
  | notConnected => rfl
  | sent _ _ went =>
    rw [answers, went.callEvents id, callEvents_sendStarted]
    rfl

/-- A step of an invocation brings one answer at most, and a true one. -/
theorem answers_stepInvocation {c : Client T} {id : Nat} {w : Invocation (PendingSend T)}
    (calling : c.calls.lookup id = some (.invoke w)) :
    (c.stepInvocation id w).1.answers id = c.answers id ∨
      ∃ answer, Truthful id w.target w.payload c answer ∧
        (c.stepInvocation id w).1.answers id = c.answers id ++ [answer] := by
  have walked := stepInvocation_walked c id w
  generalize c.stepInvocation id w = next at walked ⊢
  cases walked with
  | @found rs place claim => exact .inr ⟨.receivers rs, claim, answers_tell c id _⟩
  | chose => exact .inl rfl
  | @checked r usable place is => exact .inr ⟨.usable r usable, is, answers_tell c id _⟩
  | @joined r c₁ j place asked =>
    have same := answers_beginConnect c r.destination id
    rw [asked] at same
    exact .inr ⟨.joining r j, congrArg Prod.snd asked, by rw [answers_tell, same]⟩
  | waits => exact .inl rfl
  | @connectEnded r a outcome place gone =>
    exact .inr ⟨.outcome r a outcome, gone, answers_tell c id _⟩
  | @sent r c₁ s place began =>
    have same := answers_startDispatch c id r.destination w.target w.payload
    rw [began] at same
    exact .inl same
  | @dispatched r c₁ result place began =>
    have same := answers_startDispatch c id r.destination w.target w.payload
    rw [began] at same
    exact .inr ⟨.dispatched r result, .inl (congrArg Prod.snd began), by rw [answers_tell, same]⟩
  | @resumed r s c₁ s' place resumed =>
    have same := answers_resumeDispatch c r.destination w.payload.length id s
    rw [resumed] at same
    exact .inl same
  | @answered r s c₁ result place resumed =>
    have same := answers_resumeDispatch c r.destination w.payload.length id s
    rw [resumed] at same
    refine .inr ⟨.dispatched r result, .inr ⟨w, s, calling, place, congrArg Prod.snd resumed⟩, ?_⟩
    rw [answers_tell, same]

/-! ### Sends -/

theorem sends_of_events {c c' : Client T} {id : Nat} (events : c'.callEvents id = c.callEvents id) :
    c'.sends id = c.sends id := by
  rw [sends, events, sends]

@[simp] theorem sends_tell (c : Client T) (id : Nat) (answer : Answer) :
    (c.tell id answer).sends id = c.sends id := by
  rw [sends, callEvents_tell]
  rfl

/-- A dispatch that is heard of has sent, if its destination is there. -/
theorem sends_startDispatch {c c₁ : Client T} {id i : Nat} {name : String}
    (named : c.NamedAt i name)
    {target : Target} {payload : Bytes} {result : Except DispatchError Bytes}
    (began : c.startDispatch id i target payload = (c₁, .done result))
    (heard : ∀ f, result ≠ .error (.notConnected f)) : c₁.sends id = i :: c.sends id := by
  obtain ⟨d, found, _⟩ := named
  have begun := startDispatch_begun c id i target payload
  rw [began] at begun
  cases begun with
  | absent missing =>
    rw [found] at missing
    cases missing
  | notConnected => exact absurd rfl (heard _)
  | sent _ _ went =>
    rw [sends, went.callEvents id, callEvents_sendStarted]
    rfl

/-! ### Steps of the walk -/

section Steps

variable {c : Client T} {id : Nat} {target : Target} {payload : Bytes} {rs : List Receiver}
  {w : Invocation (PendingSend T)}

/-- The first step asks for the receivers and is told of those that are registered then. -/
theorem continues_start (nothing : c.answers id = []) (unsent : c.sends id = []) :
    Continues target payload (c.registry.candidates target)
      ((c.stepInvocation id { target := target, payload := payload }).1.sends id)
      (c.stepInvocation id { target := target, payload := payload }).2
      ((c.stepInvocation id { target := target, payload := payload }).1.answers id) := by
  have told : (c.stepInvocation id { target := target, payload := payload }).1.answers id =
      [.receivers (c.registry.candidates target)] := by
    dsimp only [stepInvocation]
    rw [answers_tell, nothing, List.nil_append]
  have none : (c.stepInvocation id { target := target, payload := payload }).1.sends id = [] := by
    dsimp only [stepInvocation]
    rw [sends_tell, unsent]
  rw [told, none]
  exact Invocation.found_continues

theorem continues_stepInvocation (reachable : c.Reachable)
    (underway : Underway target payload rs w (c.answers id))
    (named : ∀ r ∈ rs, c.NamedAt r.destination r.name)
    (owned : ∀ r a, w.place = .waiting r a → c.Owned a r.destination)
    (sent : c.sends id = w.place.sentTo?.toList) :
    Continues target payload rs ((c.stepInvocation id w).1.sends id) (c.stepInvocation id w).2
      ((c.stepInvocation id w).1.answers id) := by
  have namedHere {r : Receiver} (at_ : w.place.visiting? = some r) :
      c.NamedAt r.destination r.name :=
    named r (underway.visited at_).1
  have walked := stepInvocation_walked c id w
  generalize c.stepInvocation id w = next at walked ⊢
  cases walked with
  | found place =>
    obtain ⟨_, _, _, _, _, _, _, visiting, _⟩ := underway
    rw [place] at visiting
    cases visiting
  | chose place =>
    rw [place] at sent
    dsimp only
    rw [sent]
    exact Invocation.choose_continues underway place
  | @checked r usable place =>
    rw [answers_tell]
    exact Invocation.checked_continues _ underway place usable
  | @joined r c₁ j place asked =>
    have same := answers_beginConnect c r.destination id
    rw [asked] at same
    rw [answers_tell, same]
    apply Invocation.joining_continues _ underway place
    exact (beginConnect_owned reachable (namedHere (by rw [place]; rfl)) asked).1
  | waits => exact underway
  | @connectEnded r a outcome place gone =>
    rw [answers_tell]
    apply Invocation.connectEnded_continues _ underway place
    rintro f rfl
    exact outcome?_named reachable.outcomesNumbered (owned r a place)
      (namedHere (by rw [place]; rfl)) gone
  | @sent r c₁ s place began =>
    have same := answers_startDispatch c id r.destination w.target w.payload
    rw [began] at same
    dsimp only
    rw [same]
    exact Invocation.sendStarted_continues _ underway (.inl place) s
  | @dispatched r c₁ result place began =>
    have same := answers_startDispatch c id r.destination w.target w.payload
    rw [began] at same
    rw [answers_tell, same]
    have there := namedHere (r := r) (by rw [place]; rfl)
    apply Invocation.dispatchEnded_continues underway (.inl place)
    · rintro f (rfl | rfl)
      · exact startDispatch_named there began (.inl rfl)
      · exact startDispatch_named there began (.inr rfl)
    · intro heard
      rw [place] at sent
      rw [sends_tell, sends_startDispatch there began heard, sent]
      rfl
  | @resumed r s c₁ s' place resumed =>
    have same := answers_resumeDispatch c r.destination w.payload.length id s
    rw [resumed] at same
    dsimp only
    rw [same]
    exact Invocation.sendStarted_continues _ underway (.inr ⟨s, place⟩) s'
  | @answered r s c₁ result place resumed =>
    have same := answers_resumeDispatch c r.destination w.payload.length id s
    rw [resumed] at same
    rw [answers_tell, same]
    have there := namedHere (r := r) (by rw [place]; rfl)
    apply Invocation.dispatchEnded_continues underway (.inr ⟨s, place⟩)
    · rintro f (rfl | rfl)
      · exact resumeDispatch_named there resumed (.inl rfl)
      · exact resumeDispatch_named there resumed (.inr rfl)
    · intro _
      have events := callEvents_resumeDispatch c r.destination w.payload.length id s
      rw [resumed] at events
      rw [place] at sent
      rw [sends_tell, sends_of_events events, sent]
      rfl

/-- The attempt that an invocation comes to wait for is one of the destination it visits. -/
theorem owned_stepInvocation (reachable : c.Reachable)
    (named : ∀ r, w.place.visiting? = some r → c.NamedAt r.destination r.name)
    (owned : ∀ r a, w.place = .waiting r a → c.Owned a r.destination)
    {w' : Invocation (PendingSend T)} (goesOn : (c.stepInvocation id w).2 = .waiting w')
    {r : Receiver}
    {a : AttemptId} (place' : w'.place = .waiting r a) :
    (c.stepInvocation id w).1.Owned a r.destination := by
  have walked := stepInvocation_walked c id w
  generalize c.stepInvocation id w = next at walked goesOn ⊢
  cases walked with
  | @found rs place =>
    dsimp only [Invocation.found] at goesOn
    split at goesOn
    · cases goesOn
    · cases goesOn
      cases place'
  | chose place =>
    dsimp only [Invocation.choose] at goesOn
    split at goesOn
    · cases goesOn
    · split at goesOn
      · cases goesOn
        rw [place] at place'
        cases place'
      · cases goesOn
        cases place'
  | @checked r' usable place =>
    cases goesOn
    cases usable <;> cases place'
  | @joined r' c₁ j place asked =>
    have waited := (beginConnect_owned reachable (named r' (by rw [place]; rfl)) asked).2
    cases j with
    | connected =>
      cases goesOn
      cases place'
    | refused f =>
      cases goesOn
      cases place'
    | joined a' =>
      cases goesOn
      cases place'
      exact waited a (.inl rfl)
    | started a' =>
      cases goesOn
      cases place'
      exact waited a (.inr rfl)
  | waits place running =>
    cases goesOn
    exact owned r a place'
  | @connectEnded r' a' outcome =>
    cases outcome with
    | ok =>
      cases goesOn
      cases place'
    | error f =>
      cases goesOn
      cases place'
  | sent =>
    cases goesOn
    cases place'
  | dispatched =>
    rw [Invocation.dispatchEnded_place goesOn] at place'
    cases place'
  | resumed =>
    cases goesOn
    cases place'
  | answered =>
    rw [Invocation.dispatchEnded_place goesOn] at place'
    cases place'

end Steps

/-! ### The course of an invocation -/

/-- Where an invocation stands that was made under a number. -/
inductive Course (id : Nat) (target : Target) (payload : Bytes) (c : Client T) : Prop
  | unstarted (calling :
      c.calls.lookup id = some (.invoke { target := target, payload := payload }))
      (nothing : c.answers id = [])
  | underway {rs w} (calling : c.calls.lookup id = some (.invoke w))
      (underway : Underway target payload rs w (c.answers id))
      (named : ∀ r ∈ rs, c.NamedAt r.destination r.name)
      (owned : ∀ r a, w.place = .waiting r a → c.Owned a r.destination)
  | ended {rs visited result} (gone : c.calls.lookup id = none)
      (ending : c.endings id = [.invoked result])
      (order : InOrder rs visited)
      (walk : Walk target rs visited (c.answers id) (c.sends id) result)
  | aborted (gone : c.calls.lookup id = none) (ending : c.endings id = [.aborted])

section Course

variable {c : Client T} {id : Nat} {target : Target} {payload : Bytes}

theorem Course.made (course : Course id target payload c) (reachable : c.Reachable) :
    id < c.nextCall := by
  have calls := reachable.callsNumbered
  cases course with
  | unstarted calling => exact (calls.made calling).1
  | underway calling => exact (calls.made calling).1
  | ended gone ending =>
    by_contra late
    rw [(calls.fresh id (Nat.le_of_not_lt late)).2.2] at ending
    cases ending
  | aborted gone ending =>
    by_contra late
    rw [(calls.fresh id (Nat.le_of_not_lt late)).2.2] at ending
    cases ending

/-- What leaves a call alone leaves it on its course. -/
theorem Course.kept {c' : Client T} (course : Course id target payload c) (kept : CallKept id c c')
    (names : ∀ i name, c.NamedAt i name → c'.NamedAt i name)
    (owns : ∀ a i, c.Owned a i → c'.Owned a i) : Course id target payload c' := by
  have same := answers_of_events kept.events
  cases course with
  | unstarted calling nothing => exact .unstarted (kept.call.trans calling) (same.trans nothing)
  | underway calling underway named owned =>
    rw [← same] at underway
    refine .underway (kept.call.trans calling) underway ?_ ?_
    · exact fun r there => names _ _ (named r there)
    · exact fun r a place => owns _ _ (owned r a place)
  | ended gone ending order walk =>
    refine .ended (kept.call.trans gone) (kept.endings.trans ending) order ?_
    rw [same, sends_of_events kept.events]
    exact walk
  | aborted gone ending => exact .aborted (kept.call.trans gone) (kept.endings.trans ending)

/-- Whatever a step of an invocation leads to is on its course. -/
theorem Course.of_continues {rs : List Receiver} {w : Invocation (PendingSend T)}
    (calling : c.calls.lookup id = some (.invoke w)) (unended : c.endings id = [])
    (continues : Continues target payload rs ((c.stepInvocation id w).1.sends id)
      (c.stepInvocation id w).2 ((c.stepInvocation id w).1.answers id))
    (named : ∀ r ∈ rs, (c.stepInvocation id w).1.NamedAt r.destination r.name)
    (owned : ∀ w', (c.stepInvocation id w).2 = .waiting w' → ∀ r a, w'.place = .waiting r a →
      (c.stepInvocation id w).1.Owned a r.destination) :
    Course id target payload (c.stepCall id (.invoke w)) := by
  have aloof := Aloof.of_moves (moves_stepInvocation c id w)
  rw [stepCall_invoke]
  generalize c.stepInvocation id w = next at continues named owned aloof ⊢
  obtain ⟨c₁, w' | result⟩ := next
  · refine .underway ?_ continues named (owned w' rfl)
    dsimp only at aloof ⊢
    rw [lookup_replaceCall, if_pos rfl, aloof.calls, calling]
    rfl
  · obtain ⟨visited, order, walk⟩ := continues
    refine .ended ?_ ?_ order walk
    · rw [lookup_endCall, if_pos rfl]
    · have none : c₁.endings id = [] := by
        rw [Client.endings, aloof.results]
        exact unended
      rw [endings_endCall, none]

theorem Course.act (course : Course id target payload c) (reachable : c.Reachable) (a : Action T) :
    Course id target payload (c.act a) := by
  have numbered := reachable.numbered
  have names (i : Nat) (name : String) (named : c.NamedAt i name) : (c.act a).NamedAt i name :=
    named.act numbered a
  have owns := (act_owned numbered reachable.outcomesNumbered a).2
  have step := callStep_act numbered id a
  generalize c.act a = c' at step names owns ⊢
  cases step with
  | kept kept => exact course.kept kept names owns
  -- The number is taken, so no call can be made under it now.
  | made r new => exact absurd (course.made reachable) (by omega)
  | @advanced call own calling =>
    have unended := (reachable.callsNumbered.made calling).2
    have sent : c.sends id = call.sentTo?.toList := ((reachable.noted id).2 call calling).sends
    cases course with
    | unstarted calling' nothing =>
      rw [calling'] at calling
      cases calling
      refine .of_continues calling' unended (continues_start nothing sent) ?_ ?_
      · intro r candidate
        exact reachable.named r (List.mem_filter.mp candidate).1
      · intro w' goesOn r a place'
        exact owned_stepInvocation reachable (by rintro _ ⟨⟩) (by rintro _ _ ⟨⟩) goesOn place'
    | @underway rs w calling' underway named owned =>
      rw [calling'] at calling
      cases calling
      have moves := moves_stepInvocation c id w
      have continues := continues_stepInvocation reachable underway named owned sent
      refine .of_continues calling' unended continues ?_ ?_
      · intro r candidate
        exact (named r candidate).moves numbered moves
      · intro w' goesOn r a place'
        refine owned_stepInvocation reachable ?_ owned goesOn place'
        intro r' at_
        exact named r' (underway.visited at_).1
    | ended gone =>
      rw [gone] at calling
      cases calling
    | aborted gone =>
      rw [gone] at calling
      cases calling
  | abandoned calling =>
    refine .aborted (lookup_abandonCall c id) ?_
    rw [endings_abandonCall calling, (reachable.callsNumbered.made calling).2]

theorem Course.run (course : Course id target payload c) (reachable : c.Reachable)
    (actions : List (Action T)) : Course id target payload (c.run actions) := by
  induction actions generalizing c with
  | nil => exact course
  | cons a rest ih => exact ih (course.act reachable a) (reachable.act a)

/-- An action brings a call one answer at most, in a step of its own, and a true one. -/
theorem Course.answers_act (course : Course id target payload c) (reachable : c.Reachable)
    (a : Action T) :
    (c.act a).answers id = c.answers id ∨
      a = .step (.call id) ∧ ∃ answer, Truthful id target payload c answer ∧
        (c.act a).answers id = c.answers id ++ [answer] := by
  have step := callStep_act reachable.numbered id a
  generalize c.act a = c' at step ⊢
  cases step with
  | kept kept => exact .inl (answers_of_events kept.events)
  | made r new => exact absurd (course.made reachable) (by omega)
  | @advanced call own calling =>
    have brought {w : Invocation (PendingSend T)} (calling : c.calls.lookup id = some (.invoke w)) :
        (c.stepCall id (.invoke w)).answers id = c.answers id ∨
          ∃ answer, Truthful id w.target w.payload c answer ∧
            (c.stepCall id (.invoke w)).answers id = c.answers id ++ [answer] := by
      have answered := answers_stepInvocation calling
      rw [stepCall_invoke]
      generalize c.stepInvocation id w = next at answered ⊢
      obtain ⟨c₁, w' | result⟩ := next <;> exact answered
    cases course with
    | unstarted calling' =>
      rw [calling'] at calling
      cases calling
      exact (brought calling').imp_right fun answered => ⟨own, answered⟩
    | underway calling' underway =>
      rw [calling'] at calling
      cases calling
      obtain ⟨rfl, rfl, _⟩ := underway
      exact (brought calling').imp_right fun answered => ⟨own, answered⟩
    | ended gone =>
      rw [gone] at calling
      cases calling
    | aborted gone =>
      rw [gone] at calling
      cases calling
  | abandoned => exact .inl (answers_of_events (callEvents_abandonCall c id id))

/-- A step of the call changes no destination but one that the invocation was told about. -/
theorem Course.elsewhere (course : Course id target payload c) {j : Nat}
    (other : ∀ r usable, .usable r usable ∈ c.answers id → j ≠ r.destination) :
    (c.step (.call id)).destinations[j]? = c.destinations[j]? := by
  have stepped {w : Invocation (PendingSend T)} (calling : c.calls.lookup id = some (.invoke w))
      (there : ∀ r, w.place.visiting? = some r → j ≠ r.destination) :
      (c.step (.call id)).destinations[j]? = c.destinations[j]? := by
    have same := elsewhere_stepInvocation c id w there
    simp only [step, calling, stepCall_invoke]
    generalize c.stepInvocation id w = next at same ⊢
    obtain ⟨c₁, w' | result⟩ := next <;> exact same
  cases course with
  | unstarted calling => exact stepped calling (by rintro _ ⟨⟩)
  | underway calling underway =>
    apply stepped calling
    intro r at_
    obtain ⟨_, usable, told⟩ := underway.visited at_
    exact other r usable told
  | ended gone => simp only [step, gone]
  | aborted gone => simp only [step, gone]

end Course

end Client

end Switchboard
