import Switchboard.Proofs.Transport.Served

/-!
A call sends at most once. Whatever comes of the send is the last thing that is noted of the call,
so that an invocation visits no destination after the one it sent to. Endpoints inside the process
run their handler at most once for each call.
-/
namespace Switchboard

def Invocation.Place.sentTo? {σ : Type} : Invocation.Place σ → Option Nat
  | .sending r _ => some r.destination
  | _ => none

namespace Client

open Text (Bytes)

variable {T : Type} [Transport T]

/-- The destination to which a send is started. -/
def Event.sentTo? : Event → Option Nat
  | .sendStarted _ i _ => some i
  | _ => none

/-- The destinations to which a call has started a send, the last first. -/
def sends (id : Nat) (c : Client T) : List Nat := (c.callEvents id).filterMap Event.sentTo?

/-- The destination whose answer a call waits for. -/
def Call.sentTo? : Call T → Option Nat
  | .dispatch i _ _ (some _) => some i
  | .invoke w => w.place.sentTo?
  | _ => none

/-! ### What is noted of a call -/

def Unsent (events : List Event) : Prop := events.filterMap Event.sentTo? = []

/-- What has been noted of a call on its way, which waits for a send if there is a destination. -/
inductive Noted (id : Nat) : Option Nat → List Event → Prop
  | unsent {events} (unsent : Unsent events) : Noted id none events
  | sending {i h before} (unsent : Unsent before) :
      Noted id (some i) (.sendStarted id i h :: before)

/-- What has been noted of a call in the end, if it has come to a send or not. -/
inductive Settled (id : Nat) : List Event → Prop
  | noted {i? events} (noted : Noted id i? events) : Settled id events
  | answered {r result h before} (heard : ∀ f, result ≠ .error (.notConnected f))
      (unsent : Unsent before) :
      Settled id (.told id (.dispatched r result) :: .sendStarted id r.destination h :: before)

theorem Noted.tell {id : Nat} {events : List Event} (noted : Noted id none events)
    (answer : Invocation.Answer) : Noted id none (.told id answer :: events) := by
  cases noted with
  | unsent unsent => exact .unsent unsent

/-- How a step leaves the history of its call. -/
def RecordedWalk (id : Nat) (r : Client T × Invocation.Next (PendingSend T)) : Prop :=
  match r.2 with
  | .waiting next => Noted id next.place.sentTo? (r.1.callEvents id)
  | .done _ => Settled id (r.1.callEvents id)

def Recorded (id : Nat) (r : Client T × Progress (Call T) CallResult) : Prop :=
  match r.2 with
  | .waiting next => Noted id next.sentTo? (r.1.callEvents id)
  | .done _ => Settled id (r.1.callEvents id)

section Steps

variable {c : Client T} {id : Nat}

theorem noted_startDispatch (noted : Noted id none (c.callEvents id)) (i : Nat) (target : Target)
    (payload : Bytes) {c₁ : Client T} {s : PendingSend T}
    (began : c.startDispatch id i target payload = (c₁, .waiting s)) :
    Noted id (some i) (c₁.callEvents id) := by
  have begun := startDispatch_begun c id i target payload
  rw [began] at begun
  cases begun with
  | sent _ _ went =>
    rw [went.callEvents id, callEvents_sendStarted]
    cases noted with
    | unsent unsent => exact .sending unsent

/-- A dispatch that has ended was not begun, or was heard of. -/
theorem settled_startDispatch (noted : Noted id none (c.callEvents id)) (r : Receiver)
    (target : Target)
    (payload : Bytes) {c₁ : Client T} {result : Except DispatchError Bytes}
    (began : c.startDispatch id r.destination target payload = (c₁, .done result)) :
    Settled id (c₁.callEvents id) ∧
      Settled id ((c₁.tell id (.dispatched r result)).callEvents id) ∧
      ∀ f, result = .error (.notConnected f) → c₁ = c := by
  have begun := startDispatch_begun c id r.destination target payload
  rw [began] at begun
  rw [callEvents_tell]
  cases begun with
  | absent => exact ⟨.noted noted, .noted (noted.tell _), fun _ _ => rfl⟩
  | notConnected => exact ⟨.noted noted, .noted (noted.tell _), fun _ _ => rfl⟩
  | sent _ _ went =>
    have heard := went.heard result rfl
    rw [went.callEvents id, callEvents_sendStarted]
    cases noted with
    | unsent unsent =>
      refine ⟨.noted (.sending unsent), .answered heard unsent, ?_⟩
      intro f lost
      exact absurd lost (heard f)

theorem recorded_dispatchEnded {w : Invocation (PendingSend T)}
    {result : Except DispatchError Bytes}
    {next : Client T × Invocation.Next (PendingSend T)} (ended : next.2 = w.dispatchEnded result)
    (settled : Settled id (next.1.callEvents id))
    (lost : ∀ f, result = .error (.notConnected f) → Noted id none (next.1.callEvents id)) :
    RecordedWalk id next := by
  unfold RecordedWalk
  rw [ended]
  cases result with
  | ok reply => exact settled
  | error e =>
    cases e with
    | notConnected f => exact lost f rfl
    | connectivity f => exact settled
    | remote destination message => exact settled
    | invalidRequest reason => exact settled

theorem recorded_stepInvocation {w : Invocation (PendingSend T)}
    (noted : Noted id w.place.sentTo? (c.callEvents id)) :
    RecordedWalk id (c.stepInvocation id w) := by
  have walked := stepInvocation_walked c id w
  generalize c.stepInvocation id w = next at walked ⊢
  cases walked with
  | @found rs place =>
    rw [place] at noted
    unfold RecordedWalk Invocation.found
    rw [callEvents_tell]
    by_cases none : rs = []
    · rw [if_pos none]
      exact .noted (noted.tell _)
    · rw [if_neg none]
      exact noted.tell _
  | chose place =>
    unfold RecordedWalk Invocation.choose
    cases w.candidates with
    | nil => exact .noted noted
    | cons r rest =>
      dsimp only
      by_cases again : r.name ∈ w.tried
      · rw [if_pos again]
        exact noted
      · rw [if_neg again]
        rw [place] at noted
        exact noted
  | @checked r usable place =>
    rw [place] at noted
    unfold RecordedWalk Invocation.checked
    rw [callEvents_tell]
    cases usable <;> exact noted.tell _
  | @joined r c₁ j place asked =>
    rw [place] at noted
    have same := callEvents_beginConnect c r.destination id
    rw [asked] at same
    unfold RecordedWalk Invocation.joining
    rw [callEvents_tell, same]
    cases j <;> exact noted.tell _
  | waits => exact noted
  | @connectEnded r a outcome place =>
    rw [place] at noted
    unfold RecordedWalk Invocation.connectEnded
    rw [callEvents_tell]
    cases outcome <;> exact noted.tell _
  | sent place began =>
    rw [place] at noted
    exact noted_startDispatch noted _ _ _ began
  | dispatched place began =>
    rw [place] at noted
    obtain ⟨_, settled, unbegun⟩ := settled_startDispatch noted _ _ _ began
    refine recorded_dispatchEnded rfl settled ?_
    intro f lost
    rw [unbegun f lost, callEvents_tell]
    exact noted.tell _
  | @resumed r s c₁ s' place resumed =>
    rw [place] at noted
    have same := callEvents_resumeDispatch c r.destination w.payload.length id s
    rw [resumed] at same
    unfold RecordedWalk
    rw [same]
    exact noted
  | @answered r s c₁ result place resumed =>
    rw [place] at noted
    have went := resumeDispatch_sent c r.destination w.payload.length s
    rw [resumed] at went
    have heard := went.heard result rfl
    refine recorded_dispatchEnded rfl ?_ ?_
    · rw [callEvents_tell, went.callEvents id]
      generalize c.callEvents id = events at noted
      cases noted with
      | sending unsent => exact .answered heard unsent
    · intro f lost
      exact absurd lost (heard f)

theorem recorded_advance {call : Call T} (noted : Noted id call.sentTo? (c.callEvents id)) :
    Recorded id (c.advance id call) := by
  have advanced := advance_advanced c id call
  generalize c.advance id call = next at advanced ⊢
  have connect {i attempt c₁ p} (stepped : c.stepConnect i attempt = (c₁, p)) :
      c₁.callEvents id = c.callEvents id := by
    have same := callEvents_stepConnect c i attempt id
    rw [stepped] at same
    exact same
  have resume {i sent s c₁ p} (resumed : c.resumeDispatch i sent s = (c₁, p)) :
      c₁.callEvents id = c.callEvents id := by
    have same := callEvents_resumeDispatch c i sent id s
    rw [resumed] at same
    exact same
  cases advanced with
  | connecting stepped =>
    rw [← connect stepped] at noted
    exact noted
  | connected stepped =>
    rw [← connect stepped] at noted
    exact .noted noted
  | @sent i target payload c₁ s began => exact noted_startDispatch noted i target payload began
  | @dispatched i target payload c₁ result began =>
    exact (settled_startDispatch noted ⟨i, "", []⟩ target payload began).1
  | resumed resumed =>
    rw [← resume resumed] at noted
    exact noted
  | answered resumed =>
    rw [← resume resumed] at noted
    exact .noted noted
  | @walks w c₁ w' stepped =>
    have recorded := recorded_stepInvocation (w := w) noted
    rw [stepped] at recorded
    exact recorded
  | @walked w c₁ result stepped =>
    have recorded := recorded_stepInvocation (w := w) noted
    rw [stepped] at recorded
    exact recorded
  | counted => exact .noted noted
  | joining stepped =>
    rw [← connect stepped] at noted
    exact noted
  | joined stepped =>
    rw [← connect stepped] at noted
    exact noted
  | missed stepped =>
    rw [← connect stepped] at noted
    exact noted
  | opening => exact noted
  | opened => exact .noted noted
  | carries => exact noted
  | carried => exact .noted noted
  | closed => exact .noted noted
  | stillOpen => exact .noted noted
  | watches => exact noted
  | slept => exact .noted noted
  | sleeps => exact noted

end Steps

/-! ### Runs -/

theorem sentTo?_call (r : Request) : (r.call (T := T)).sentTo? = none := by
  cases r <;> rfl

theorem Reachable.noted {c : Client T} (reachable : c.Reachable) (id : Nat) :
    Settled id (c.callEvents id) ∧
      ∀ call, c.calls.lookup id = some call → Noted id call.sentTo? (c.callEvents id) := by
  suffices all : c.Reachable ∧ Settled id (c.callEvents id) ∧
      ∀ call, c.calls.lookup id = some call → Noted id call.sentTo? (c.callEvents id) from all.2
  refine Reachable.induction (P := fun c => c.Reachable ∧ Settled id (c.callEvents id) ∧
    ∀ call, c.calls.lookup id = some call → Noted id call.sentTo? (c.callEvents id)) ?_ ?_ reachable
  · intro name transport policy
    refine ⟨⟨name, transport, policy, [], rfl⟩, .noted (.unsent rfl), ?_⟩
    intro call calling
    cases calling
  · rintro c a ⟨reachable, settled, noted⟩
    refine ⟨reachable.act a, ?_⟩
    have step := callStep_act reachable.numbered id a
    generalize c.act a = c' at step ⊢
    cases step with
    | kept kept =>
      rw [kept.events, kept.call]
      exact ⟨settled, noted⟩
    | made r new =>
      obtain ⟨unknown, nothing, _⟩ := reachable.callsNumbered.fresh id (Nat.le_of_eq new.symm)
      have events : (c.startCall r.call).1.callEvents id = [] := nothing
      rw [events, lookup_startCall, unknown, if_pos new]
      refine ⟨.noted (.unsent rfl), ?_⟩
      rintro call ⟨⟩
      rw [sentTo?_call]
      exact .unsent rfl
    | @advanced call own calling =>
      have recorded := recorded_advance (noted call calling)
      have stepped := stepCall_stepped c id call
      generalize c.stepCall id call = c' at stepped ⊢
      cases stepped with
      | @goesOn c₁ next advanced moves =>
        rw [advanced] at recorded
        have events : (c₁.replaceCall id next).callEvents id = c₁.callEvents id := rfl
        rw [events]
        refine ⟨.noted recorded, ?_⟩
        intro call' calling'
        rw [lookup_replaceCall, if_pos rfl, Option.map_eq_some_iff] at calling'
        obtain ⟨_, _, rfl⟩ := calling'
        exact recorded
      | @ends c₁ result advanced moves =>
        rw [advanced] at recorded
        refine ⟨recorded, ?_⟩
        intro call' calling'
        rw [lookup_endCall, if_pos rfl] at calling'
        cases calling'
    | abandoned calling =>
      rw [callEvents_abandonCall, lookup_abandonCall]
      refine ⟨settled, ?_⟩
      intro call' calling'
      cases calling'

theorem Noted.sends {id : Nat} {i? : Option Nat} {events : List Event}
    (noted : Noted id i? events) :
    events.filterMap Event.sentTo? = i?.toList := by
  cases noted with
  | unsent unsent => exact unsent
  | sending unsent =>
    rw [List.filterMap_cons, Event.sentTo?, unsent]
    rfl

theorem Settled.length_sends {id : Nat} {events : List Event} (settled : Settled id events) :
    (events.filterMap Event.sentTo?).length ≤ 1 := by
  cases settled with
  | @noted i? _ noted =>
    rw [noted.sends]
    cases i? <;> simp
  | answered heard unsent =>
    simp only [List.filterMap_cons, Event.sentTo?]
    rw [unsent]
    exact Nat.le_refl 1

/-- After a send nothing is noted but its answer. -/
theorem Settled.after_send {id : Nat} {events : List Event} (settled : Settled id events)
    {later earlier : List Event} {i : Nat} {h : Handle}
    (split : events = later ++ .sendStarted id i h :: earlier) :
    later = [] ∨ ∃ r result, r.destination = i ∧ later = [.told id (.dispatched r result)] ∧
      ∀ f, result ≠ .error (.notConnected f) := by
  have unsent_absurd {before rest : List Event} (unsent : Unsent before)
      (same : before = rest ++ .sendStarted id i h :: earlier) : False := by
    unfold Unsent at unsent
    rw [same, List.filterMap_append, List.filterMap_cons] at unsent
    simp [Event.sentTo?] at unsent
  cases settled with
  | noted noted =>
    cases noted with
    | unsent unsent => exact (unsent_absurd unsent split).elim
    | sending unsent =>
      cases later with
      | nil => exact .inl rfl
      | cons e rest =>
        rw [List.cons_append] at split
        injection split with _ same
        exact (unsent_absurd unsent same).elim
  | @answered r result h' before heard unsent =>
    right
    cases later with
    | nil =>
      rw [List.nil_append] at split
      injection split with absurd
      cases absurd
    | cons e rest =>
      rw [List.cons_append] at split
      injection split with first same
      subst first
      cases rest with
      | nil =>
        rw [List.nil_append] at same
        injection same with send
        injection send with _ there
        exact ⟨r, result, there, rfl, heard⟩
      | cons e rest =>
        rw [List.cons_append] at same
        injection same with _ same
        exact (unsent_absurd unsent same).elim

/-- While a send is under way, its call changes no other destination and begins no attempt. -/
theorem resumes_step {c : Client T} {id i : Nat} {w : Invocation (PendingSend T)}
    (calling : c.calls.lookup id = some (.invoke w)) (sending : w.place.sentTo? = some i) :
    (c.step (.call id)).underWay = c.underWay ∧ (c.step (.call id)).nextAttempt = c.nextAttempt ∧
      ∀ j, j ≠ i → (c.step (.call id)).destinations[j]? = c.destinations[j]? := by
  cases place : w.place with
  | sending r s =>
    rw [place] at sending
    obtain rfl : r.destination = i := by simpa [Invocation.Place.sentTo?] using sending
    have went := resumeDispatch_sent c r.destination w.payload.length s
    simp only [step, calling, stepCall, advance, stepInvocation, place]
    generalize c.resumeDispatch r.destination w.payload.length s = resumed at went ⊢
    obtain ⟨c₁, s | result⟩ := resumed
    · exact ⟨went.attempts.1, went.attempts.2, went.elsewhere⟩
    · dsimp only
      cases w.dispatchEnded result <;> exact ⟨went.attempts.1, went.attempts.2, went.elsewhere⟩
  | _ =>
    rw [place] at sending
    cases sending

/-- An invocation starts one send at most, and nothing but the answer to it comes after; until then
it has sent nothing. An endpoint inside the process runs its handler once at most for each call. -/
theorem invocation_sends_once :
    (∀ (T : Type) [Transport T] (c : Client T), c.Reachable → ∀ id,
      (c.sends id).length ≤ 1 ∧
      (∀ later i h earlier, c.callEvents id = later ++ .sendStarted id i h :: earlier →
        later = [] ∨ ∃ r result, r.destination = i ∧ later = [.told id (.dispatched r result)] ∧
          ∀ f, result ≠ .error (.notConnected f)) ∧
      ∀ w, c.calls.lookup id = some (.invoke w) →
        c.sends id = w.place.sentTo?.toList ∧
        ∀ i ∈ c.sends id,
          (c.step (.call id)).underWay = c.underWay ∧
          (c.step (.call id)).nextAttempt = c.nextAttempt ∧
          ∀ j, j ≠ i → (c.step (.call id)).destinations[j]? = c.destinations[j]?) ∧
    ∀ (c : Client InProcess), c.Reachable → ∀ id actions, handlerRuns id c actions ≤ 1 := by
  constructor
  · intro T _ c reachable id
    obtain ⟨settled, noted⟩ := reachable.noted id
    refine ⟨settled.length_sends, fun later i h earlier split => settled.after_send split, ?_⟩
    intro w calling
    have sends : c.sends id = w.place.sentTo?.toList := (noted _ calling).sends
    refine ⟨sends, ?_⟩
    intro i sent
    rw [sends, Option.mem_toList] at sent
    exact resumes_step calling sent
  · intro c reachable id actions
    exact Nat.le_trans (handlerRuns_le reachable actions) (runsLeft_le_one c id)

/-- An invocation with two destinations to choose from. Its request is under way to the first when
that one stops. -/
def brokenMidCall : Client InProcess :=
  let endpoint : InProcess.Endpoint := { handler := fun _ payload => .ok payload, up := true }
  (create "client" {
      endpoints := [("h:1", { endpoint with replyDelay := .ofMillis 100 }),
        ("h:2", endpoint)] } {}).run
    [.addDestination { name := "a", host := "h", port := 1 },
      .addDestination { name := "b", host := "h", port := 2 },
      .register 0 [⟨"m", "*", "*"⟩], .register 1 [⟨"m", "*", "*"⟩],
      .request (.invoke ⟨"m", "c", "i"⟩ [1, 2]), .step (.call 0), .step (.call 0), .step (.call 0),
      .step (.call 0), .step (.attempt 0), .step (.call 0), .step (.call 0),
      .transport (·.stop "h:1")]

theorem invocation_sends_once_brokenMidCall :
    brokenMidCall.sends 0 = [0] ∧
      (brokenMidCall.step (.call 0)).underWay = brokenMidCall.underWay ∧
      (brokenMidCall.step (.call 0)).destinations[1]? = brokenMidCall.destinations[1]? ∧
      handlerRuns 0 brokenMidCall [.step (.call 0), .step (.call 0)] ≤ 1 := by
  have reachable : brokenMidCall.Reachable := ⟨_, _, _, _, rfl⟩
  have sent : brokenMidCall.sends 0 = [0] := by rfl
  obtain ⟨calls, runs⟩ := invocation_sends_once
  obtain ⟨_, kept⟩ := (calls InProcess brokenMidCall reachable 0).2.2 _ rfl
  obtain ⟨underWay, _, elsewhere⟩ := kept 0 (by rw [sent]; exact List.mem_singleton_self 0)
  exact ⟨sent, underWay, elsewhere 1 (by decide), runs brokenMidCall reachable 0 _⟩

end Client

end Switchboard
