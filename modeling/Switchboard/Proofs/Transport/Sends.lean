import Switchboard.Proofs.Transport.Actions

/-!
One send to an endpoint inside the process, among everything that others do to the endpoints
meanwhile. Its handler is run for an answer, and then once, at a moment when the handle leads to it;
whoever is told anything else, or does not wait for the end, can rely on its not having been run.
-/
namespace Switchboard.InProcess

open Text (Bytes)

/-- How far a send has come. -/
inductive Stage
  | unsent
  | waiting (s : Sending)
  | finished (result : Except TransportError Bytes)
  | abandoned

/-- A send over a handle, with the endpoints as they are now. -/
structure Sender where
  handle : Handle
  target : Target
  payload : Bytes
  transport : InProcess
  stage : Stage := .unsent
  /-- The handler runs of this send, each with the endpoints as they were at that moment. -/
  runs : List (InProcess × Served) := []

inductive SendTurn
  /-- Somebody else does something. -/
  | other (a : Action)
  /-- The send takes a step. -/
  | goOn (now : Instant)
  /-- It looks its endpoint up, and nothing else yet. -/
  | look (now : Instant)
  /-- It notices that its delay is over before it notices that its handle has been closed. -/
  | elapse (now : Instant)
  /-- Nobody waits for it any longer. -/
  | abandon

namespace Sender

/-- A step of the send itself. -/
def own (s : Sender) (r : InProcess × Progress Sending (Except TransportError Bytes)) : Sender :=
  { s with
    transport := r.1
    stage := match r.2 with
      | .waiting w => .waiting w
      | .done result => .finished result
    runs := s.runs ++ (r.1.served.drop s.transport.served.length).map (s.transport, ·) }

/-- The first half of the first step: the handle leads to an endpoint, which takes its time. -/
def lookUp (now : Instant) (h : Handle) (target : Target) (payload : Bytes) (t : InProcess) :
    InProcess × Progress Sending (Except TransportError Bytes) :=
  match t.reachable h with
  | .error e => (t, .done (.error e))
  | .ok e => (t, .waiting ⟨h, target, payload, now + e.replyDelay.nanos⟩)

def take (s : Sender) : SendTurn → Sender
  | .other a => { s with transport := a.act s.transport }
  | .goOn now => match s.stage with
    | .unsent => s.own (s.transport.startSend now s.handle s.target s.payload)
    | .waiting w => s.own (s.transport.resumeSend now w)
    | _ => s
  | .look now => match s.stage with
    | .unsent => s.own (lookUp now s.handle s.target s.payload s.transport)
    | _ => s
  | .elapse now => match s.stage with
    | .waiting w =>
      if w.due ≤ now then
        let (t, result) := s.transport.serve w.handle w.target w.payload
        s.own (t, .done result)
      else s
    | _ => s
  | .abandon => match s.stage with
    | .finished _ => s
    | _ => { s with stage := .abandoned }

def run (s : Sender) (turns : List SendTurn) : Sender := turns.foldl take s

end Sender

/-- An answer of the endpoint: a reply or an application error. -/
def answered : Except TransportError Bytes → Bool
  | .ok _ => true
  | .error (.application _) => true
  | .error _ => false

/-- A handle leads to an endpoint: the one at its authority, which is up and in the epoch of the handle,
and the handle is not closed. -/
structure Leads (t : InProcess) (c : Connection) (e : Endpoint) : Prop where
  found : t.find c.authority = some e
  up : e.up = true
  epoch : e.epoch = c.epoch
  unclosed : c.closed = false

theorem reachable_ok {t : InProcess} {h : Handle} {e : Endpoint} (ok : t.reachable h = .ok e) :
    ∃ c, t.connection h = some c ∧ Leads t c e := by
  unfold reachable at ok
  cases there : t.connection h with
  | none => simp [there] at ok
  | some c =>
    simp only [there] at ok
    cases found : t.find c.authority with
    | none => simp [found] at ok
    | some e' =>
      simp only [found] at ok
      split at ok
      · next leads =>
        cases ok
        simp only [Bool.and_eq_true, beq_iff_eq, Bool.not_eq_true'] at leads
        exact ⟨c, rfl, found, leads.1.1, leads.1.2, leads.2⟩
      · cases ok

theorem reachable_error {t : InProcess} {h : Handle} {error : TransportError}
    (failed : t.reachable h = .error error) : answered (.error error) = false := by
  unfold reachable at failed
  split at failed
  · cases failed
    rfl
  · split at failed
    · split at failed
      · cases failed
      · cases failed
        rfl
    · cases failed
      rfl

theorem answered_handler (e : Endpoint) (target : Target) (payload : Bytes) :
    answered ((e.handler target payload).mapError .application) = true := by
  cases e.handler target payload <;> rfl

/-! ### Steps of a send -/

/-- What a step of a send comes to. -/
inductive Told (h : Handle) (target : Target) (payload : Bytes) (t : InProcess) :
    InProcess × Progress Sending (Except TransportError Bytes) → Prop
  | waits {due} : Told h target payload t (t, .waiting ⟨h, target, payload, due⟩)
  | refused {error} (unanswered : answered (.error error) = false) :
      Told h target payload t (t, .done (.error error))
  | ran {c e} (there : t.connection h = some c) (leads : Leads t c e) :
      Told h target payload t ({ t with served := t.served ++ [⟨h, target, payload⟩] },
        .done ((e.handler target payload).mapError .application))

section Steps

variable (now : Instant) (h : Handle) (target : Target) (payload : Bytes) (t : InProcess)

theorem told_serve :
    Told h target payload t ((t.serve h target payload).1, .done (t.serve h target payload).2) := by
  unfold serve
  cases reached : t.reachable h with
  | error error => exact .refused (reachable_error reached)
  | ok e =>
    obtain ⟨c, there, leads⟩ := reachable_ok reached
    exact .ran there leads

theorem told_startSend : Told h target payload t (t.startSend now h target payload) := by
  unfold startSend
  cases reached : t.reachable h with
  | error error => exact .refused (reachable_error reached)
  | ok e =>
    dsimp only
    split
    · exact told_serve h target payload t
    · exact .waits

theorem told_lookUp : Told h target payload t (Sender.lookUp now h target payload t) := by
  unfold Sender.lookUp
  cases reached : t.reachable h with
  | error error => exact .refused (reachable_error reached)
  | ok e => exact .waits

/-- A send that finds its handle closed runs nothing, whether or not its delay is over. -/
theorem told_resumeSend (due : Instant) :
    Told h target payload t (t.resumeSend now ⟨h, target, payload, due⟩) := by
  unfold resumeSend
  split
  · exact .refused rfl
  · split
    · exact told_serve h target payload t
    · exact .waits

end Steps

/-! ### Handles -/

/-- The connection of a handle is still one of that authority and that epoch. -/
def Belongs (h : Handle) (t t' : InProcess) : Prop :=
  ∀ c, t.connection h = some c →
    ∃ c', t'.connection h = some c' ∧ c'.authority = c.authority ∧ c'.epoch = c.epoch

theorem Belongs.of_persists {h : Handle} {t t' : InProcess} (persists : Persists h t t') :
    Belongs h t t' := by
  intro c there
  obtain ⟨c', there', authority, epoch, -⟩ := persists c there
  exact ⟨c', there', authority, epoch⟩

theorem Belongs.trans {h : Handle} {t t' t'' : InProcess} (first : Belongs h t t')
    (second : Belongs h t' t'') : Belongs h t t'' := by
  intro c there
  obtain ⟨c', there', authority, epoch⟩ := first c there
  obtain ⟨c'', there'', authority', epoch'⟩ := second c' there'
  exact ⟨c'', there'', authority'.trans authority, epoch'.trans epoch⟩

theorem belongs_act (h : Handle) (a : Action) (t : InProcess) : Belongs h t (a.act t) := by
  by_cases held : a = .drop h
  · subst held
    intro c there
    refine ⟨{ c with dropped := true }, ?_, rfl, rfl⟩
    rw [connection] at there
    simp [Action.act, drop, connection, there]
  · exact .of_persists (persists_act a held t)

/-! ### The course of a send -/

/-- What is known of a send that began at some moment. -/
inductive Sender.Known (began : InProcess) (h : Handle) (target : Target) (payload : Bytes) :
    Stage → List (InProcess × Served) → Prop
  | unsent : Known began h target payload .unsent []
  | waiting {due} : Known began h target payload (.waiting ⟨h, target, payload, due⟩) []
  | refused {error} (unanswered : answered (.error error) = false) :
      Known began h target payload (.finished (.error error)) []
  | ran {t c e} (there : t.connection h = some c) (leads : Leads t c e) (same : Belongs h began t) :
      Known began h target payload (.finished ((e.handler target payload).mapError .application))
        [(t, ⟨h, target, payload⟩)]
  | abandoned : Known began h target payload .abandoned []

/-- A send knows what it carries, and its runs are those of its answer. -/
structure Sender.Sound (began : InProcess) (h : Handle) (target : Target) (payload : Bytes)
    (s : Sender) : Prop where
  carries : s.handle = h ∧ s.target = target ∧ s.payload = payload
  belongs : Belongs h began s.transport
  known : Sender.Known began h target payload s.stage s.runs

namespace Sender

variable {began : InProcess} {h : Handle} {target : Target} {payload : Bytes} {s : Sender}

theorem Known.unserved {stage : Stage} {runs : List (InProcess × Served)}
    (known : Known began h target payload stage runs)
    (unfinished : ∀ result, stage ≠ .finished result) : runs = [] := by
  cases known with
  | ran => exact absurd rfl (unfinished _)
  | _ => rfl

theorem Known.waits {w : Sending} {runs : List (InProcess × Served)}
    (known : Known began h target payload (.waiting w) runs) :
    ∃ due, w = ⟨h, target, payload, due⟩ := by
  cases known
  exact ⟨_, rfl⟩

/-- A step of a send that is not over. -/
theorem Sound.own (sound : s.Sound began h target payload) (unserved : s.runs = [])
    {r : InProcess × Progress Sending (Except TransportError Bytes)}
    (told : Told h target payload s.transport r) : (s.own r).Sound began h target payload := by
  refine ⟨sound.carries, ?_, ?_⟩
  · cases told with
    | waits => exact sound.belongs
    | refused => exact sound.belongs
    | ran => exact sound.belongs
  · cases told with
    | waits =>
      simp only [Sender.own, unserved, List.drop_length, List.map_nil, List.append_nil]
      exact .waiting
    | refused unanswered =>
      simp only [Sender.own, unserved, List.drop_length, List.map_nil, List.append_nil]
      exact .refused unanswered
    | ran there leads =>
      simp only [Sender.own, unserved, List.drop_left, List.map_cons, List.map_nil, List.nil_append]
      exact .ran there leads sound.belongs

theorem Sound.take (sound : s.Sound began h target payload) (turn : SendTurn) :
    (s.take turn).Sound began h target payload := by
  obtain ⟨rfl, rfl, rfl⟩ := sound.carries
  have unserved := sound.known.unserved
  unfold Sender.take
  cases turn with
  | other a => exact ⟨sound.carries, sound.belongs.trans (belongs_act _ a _), sound.known⟩
  | goOn now =>
    cases stage : s.stage with
    | unsent =>
      exact sound.own (unserved (by simp [stage])) (told_startSend now s.handle s.target s.payload _)
    | waiting w =>
      obtain ⟨due, rfl⟩ := (stage ▸ sound.known).waits
      exact sound.own (unserved (by simp [stage]))
        (told_resumeSend now s.handle s.target s.payload _ due)
    | finished result => exact sound
    | abandoned => exact sound
  | look now =>
    cases stage : s.stage with
    | unsent =>
      exact sound.own (unserved (by simp [stage])) (told_lookUp now s.handle s.target s.payload _)
    | _ => exact sound
  | elapse now =>
    cases stage : s.stage with
    | waiting w =>
      obtain ⟨due, rfl⟩ := (stage ▸ sound.known).waits
      dsimp only
      split
      · exact sound.own (unserved (by simp [stage])) (told_serve s.handle s.target s.payload _)
      · exact sound
    | _ => exact sound
  | abandon =>
    have given (unfinished : ∀ result, s.stage ≠ .finished result) :
        ({ s with stage := .abandoned } : Sender).Sound began s.handle s.target s.payload :=
      ⟨sound.carries, sound.belongs, by rw [unserved unfinished]; exact .abandoned⟩
    cases stage : s.stage with
    | finished result => exact sound
    | _ => exact given (by simp [stage])

theorem Sound.run (sound : s.Sound began h target payload) (turns : List SendTurn) :
    (s.run turns).Sound began h target payload := by
  induction turns generalizing s with
  | nil => exact sound
  | cons turn rest ih => exact ih (sound.take turn)

end Sender

/-- The handler is run once for a send that is answered, at a moment when the handle leads to the
endpoint, and the answer is what it returned for what was sent. It is not run at all for a send that
ends in any other way or does not end, whatever happens to the endpoints meanwhile. -/
theorem send_runs_handler (h : Handle) (target : Target) (payload : Bytes) (began : InProcess)
    (turns : List SendTurn) :
    let s := ({ handle := h, target, payload, transport := began } : Sender).run turns
    (∀ result, s.stage = .finished result → answered result = true →
      ∃ t c e, s.runs = [(t, ⟨h, target, payload⟩)] ∧ t.connection h = some c ∧ Leads t c e ∧
        (∀ c₀, began.connection h = some c₀ → c.authority = c₀.authority ∧ c.epoch = c₀.epoch) ∧
        result = (e.handler target payload).mapError .application) ∧
    ((∀ result, s.stage = .finished result → answered result = false) → s.runs = []) := by
  intro s
  have new : Sender.Sound began h target payload
      { handle := h, target, payload, transport := began } :=
    ⟨⟨rfl, rfl, rfl⟩, fun c there => ⟨c, there, rfl, rfl⟩, .unsent⟩
  have known := (new.run turns).known
  change Sender.Known began h target payload s.stage s.runs at known
  generalize s.stage = stage at known
  generalize s.runs = runs at known
  cases known with
  | unsent => exact ⟨nofun, fun _ => rfl⟩
  | waiting => exact ⟨nofun, fun _ => rfl⟩
  | abandoned => exact ⟨nofun, fun _ => rfl⟩
  | refused unanswered =>
    refine ⟨?_, fun _ => rfl⟩
    rintro _ ⟨⟩ is
    rw [unanswered] at is
    cases is
  | @ran t c e there leads same =>
    constructor
    · rintro _ ⟨⟩ -
      refine ⟨t, c, e, rfl, there, leads, ?_, rfl⟩
      intro c₀ there₀
      obtain ⟨c', there', authority, epoch⟩ := same c₀ there₀
      obtain rfl : c = c' := Option.some.inj (there.symm.trans there')
      exact ⟨authority, epoch⟩
    · intro none
      have is := none _ rfl
      rw [answered_handler] at is
      cases is

/-- An endpoint that echoes after a second, with one open handle. -/
def echoing : InProcess :=
  run [.register "h:1" fun _ payload => .ok payload, .start "h:1", .setReplyDelay "h:1" (.ofSecs 1),
    .resumeOpen 0 ⟨"h:1", 0⟩] {}

/-- A send that is left alone is answered by one run. One whose endpoint was away for a moment fails and
has run nothing, also if it notices that its handle is closed only after its delay is over. -/
theorem send_runs_handler_restarted :
    let send : Sender :=
      { handle := 0, target := ⟨"m", "c", "i"⟩, payload := [7], transport := echoing }
    let left := send.run [.goOn 0, .goOn 1000000000]
    let away := send.run [.goOn 0, .other (.stop "h:1"), .other (.start "h:1"), .elapse 1000000000]
    (left.stage = .finished (.ok [7]) ∧
      ∃ t, left.runs = [(t, ⟨0, ⟨"m", "c", "i"⟩, [7]⟩)]) ∧
    away.stage = .finished (.error (reset "h:1")) ∧ away.runs = [] := by
  intro send left away
  have replied : left.stage = .finished (.ok [7]) := rfl
  have failed : away.stage = .finished (.error (reset "h:1")) := rfl
  refine ⟨⟨replied, ?_⟩, failed, ?_⟩
  · obtain ⟨t, -, -, once, -⟩ := (send_runs_handler 0 ⟨"m", "c", "i"⟩ [7] echoing
      [.goOn 0, .goOn 1000000000]).1 _ replied rfl
    exact ⟨t, once⟩
  · refine (send_runs_handler 0 ⟨"m", "c", "i"⟩ [7] echoing
      [.goOn 0, .other (.stop "h:1"), .other (.start "h:1"), .elapse 1000000000]).2 ?_
    intro result finished
    cases failed.symm.trans finished
    rfl

end Switchboard.InProcess
