import Switchboard.Proofs.Invocation.Counters

/-!
Calls and results belong to requests. A call has the number of its request and stays with its target and
its payload while it goes on, and its result is filed once. What an action does to calls and results, and
to the counters of sends, is one of a few things.
-/
namespace Switchboard

namespace Client

open Text (Bytes)

section Requests

variable {T : Type}

def Action.request? : Action T → Option Request
  | .request r => some r
  | _ => none

/-- The requests of a run. A call has the number of its request. -/
def requests (actions : List (Action T)) : List Request := actions.filterMap Action.request?

def Request.payload? : Request → Option Bytes
  | .dispatch _ _ payload => some payload
  | .invoke _ payload => some payload
  | _ => none

/-- The length of the payload of a call. -/
def sentBytes (rs : List Request) (id : Nat) : Nat :=
  (rs[id]?.bind Request.payload?).elim 0 List.length

theorem requests_append (actions : List (Action T)) (a : Action T) :
    requests (actions ++ [a]) = requests actions ++ a.request?.toList := by
  rw [requests, List.filterMap_append, ← requests]
  cases asked : a.request? <;> simp [asked]

/-- What was requested earlier stays as it is. -/
theorem requests_earlier {rs : List Request} {id : Nat} {r : Request} (made : rs[id]? = some r)
    (later : List Request) : (rs ++ later)[id]? = some r := by
  rw [List.getElem?_append_left (List.getElem?_eq_some_iff.mp made).1, made]

theorem sentBytes_earlier {rs : List Request} {id : Nat} {r : Request} (made : rs[id]? = some r)
    (later : List Request) : sentBytes (rs ++ later) id = sentBytes rs id := by
  rw [sentBytes, requests_earlier made, sentBytes, made]

end Requests

variable {T : Type} [Transport T]

/-- A call is on its way with a request. -/
inductive Call.Of : Request → Call T → Prop
  | dispatch {i target payload send} :
      Of (.dispatch i target payload) (.dispatch i target payload send)
  | invoke {w : Invocation (PendingSend T)} : Of (.invoke w.target w.payload) (.invoke w)
  | other {r call} (silent : r.payload? = none) (quiet : call.payload? = none) : Of r call

/-- A result is one of a request. -/
inductive CallResult.Of : Request → CallResult → Prop
  | dispatched {i target payload result} : Of (.dispatch i target payload) (.dispatched result)
  | invoked {target payload result} : Of (.invoke target payload) (.invoked result)
  | other {r result} (dispatched : ∀ told, result ≠ .dispatched told)
      (invoked : ∀ told, result ≠ .invoked told) : Of r result

theorem Call.of_call (r : Request) : (r.call (T := T)).Of r := by
  cases r with
  | dispatch i target payload => exact .dispatch
  | invoke target payload => exact .invoke (w := { target := target, payload := payload })
  | _ => exact .other rfl rfl

theorem Call.Of.payload {r : Request} {call : Call T} (own : call.Of r) :
    call.payload? = r.payload? := by
  cases own with
  | dispatch => rfl
  | invoke => rfl
  | other silent quiet => rw [silent, quiet]

/-- A walk keeps its target and its payload. -/
theorem Walked.same {id : Nat} {c : Client T} {w : Invocation (PendingSend T)}
    {next : Client T × Invocation.Next (PendingSend T)} (walked : Walked id c w next)
    {w' : Invocation (PendingSend T)} (goesOn : next.2 = .waiting w') :
    w'.target = w.target ∧ w'.payload = w.payload := by
  cases walked with
  | found =>
    simp only [Invocation.found] at goesOn
    split at goesOn <;> cases goesOn
    exact ⟨rfl, rfl⟩
  | chose =>
    simp only [Invocation.choose] at goesOn
    split at goesOn
    · cases goesOn
    · split at goesOn <;> cases goesOn <;> exact ⟨rfl, rfl⟩
  | checked =>
    cases goesOn
    exact ⟨rfl, rfl⟩
  | @joined r c₁ j =>
    cases j <;> cases goesOn <;> exact ⟨rfl, rfl⟩
  | waits =>
    cases goesOn
    exact ⟨rfl, rfl⟩
  | @connectEnded r a outcome =>
    cases outcome <;> cases goesOn <;> exact ⟨rfl, rfl⟩
  | sent =>
    cases goesOn
    exact ⟨rfl, rfl⟩
  | @dispatched r c₁ result =>
    simp only [Invocation.dispatchEnded] at goesOn
    split at goesOn <;> cases goesOn
    exact ⟨rfl, rfl⟩
  | resumed =>
    cases goesOn
    exact ⟨rfl, rfl⟩
  | @answered r s c₁ result =>
    simp only [Invocation.dispatchEnded] at goesOn
    split at goesOn <;> cases goesOn
    exact ⟨rfl, rfl⟩

/-- A step of a call leaves it with its request, and its result is one of that request. -/
theorem Advanced.of {id : Nat} {c : Client T} {call : Call T}
    {next : Client T × Progress (Call T) CallResult} (advanced : Advanced id c call next)
    {r : Request} (own : call.Of r) :
    (∀ call', next.2 = .waiting call' → call'.Of r) ∧
      ∀ result, next.2 = .done result → result.Of r := by
  cases own with
  | dispatch =>
    constructor
    · rintro call' goesOn
      cases advanced <;> cases goesOn <;> exact .dispatch
    · rintro result ends
      cases advanced <;> cases ends <;> exact .dispatched
  | @invoke w =>
    constructor
    · rintro call' goesOn
      cases advanced with
      | walks stepped =>
        cases goesOn
        obtain ⟨target, payload⟩ := (stepInvocation_walked c id w).same (congrArg Prod.snd stepped)
        rw [← target, ← payload]
        exact .invoke
      | walked => cases goesOn
    · rintro result ends
      cases advanced <;> cases ends
      exact .invoked
  | other silent quiet =>
    constructor
    · rintro call' goesOn
      cases advanced <;> cases goesOn <;> first | exact .other silent rfl | cases quiet
    · rintro result ends
      cases advanced <;> cases ends <;>
        first | (cases quiet; done) | exact .other (by simp) (by simp)

/-! ### What an action files -/

/-- Calls, results and what was sent are as before, and no counter of a send has changed. -/
structure Quiet (c c' : Client T) : Prop where
  calls : c'.calls = c.calls
  results : c'.results = c.results
  nextCall : c'.nextCall = c.nextCall
  sends : ∀ id, c'.sends id = c.sends id
  gained : Gained 0 0 none c c'
  born : ∀ i : Nat, c.destinations[i]? = none → c'.destinations[i]? = none

theorem Quiet.same {c c' : Client T} (calls : c'.calls = c.calls) (results : c'.results = c.results)
    (nextCall : c'.nextCall = c.nextCall) (journal : c'.journal = c.journal)
    (destinations : c'.destinations = c.destinations) : Quiet c c' where
  calls := calls
  results := results
  nextCall := nextCall
  sends := by
    intro id
    simp only [Client.sends, callEvents, journal]
  gained := .nothing destinations 0 0
  born := by
    intro i missing
    rw [destinations, missing]

theorem Quiet.of_moves {A : List Deed} (uncounted : Deed.counted ∉ A) (closed : Deed.added ∉ A)
    {c c' : Client T} (effects : Effects A c c') (moves : Moves none c c') : Quiet c c' := by
  have aloof := Aloof.of_moves moves
  refine ⟨aloof.calls, aloof.results, aloof.nextCall, ?_, effects.gained uncounted 0 0, ?_⟩
  · intro id
    exact sends_of_events (callEvents_of_moves moves nofun)
  · intro i missing
    exact effects.missing missing closed

/-- The step of a call: it goes on, or it ends and its result is filed. -/
structure Files (rs : List Request) (id : Nat) (ended : Option CallResult) (c c' : Client T) :
    Prop where
  unended : c.endings id = []
  calls : ∀ j call, c'.calls.lookup j = some call →
    c.calls.lookup j = some call ∨ ∃ r, rs[j]? = some r ∧ call.Of r
  results : c'.results = ended.toList.map (Prod.mk id) ++ c.results
  own : ∀ result ∈ ended, ∃ r, rs[id]? = some r ∧ result.Of r
  nextCall : c'.nextCall = c.nextCall
  sends : ∀ j, j ≠ id → c'.sends j = c.sends j
  credited : Credited id (sentBytes rs id) c c' ended
  born : ∀ i : Nat, c.destinations[i]? = none → c'.destinations[i]? = none

/-- What an action does to calls, results and the counters of sends. -/
inductive Filed (rs : List Request) (c : Client T) : Action T → Client T → Prop
  | quiet {a c'} (quiet : Quiet c c') (unasked : a.request? = none) : Filed rs c a c'
  | requested {r} : Filed rs c (.request r) (c.startCall r.call).1
  | went {a c' id ended} (files : Files rs id ended c c') (unasked : a.request? = none) :
      Filed rs c a c'
  | added {d : Descriptor} {table} :
      Filed rs c (.addDestination d) { c with
        destinations := c.destinations ++ [{ descriptor := d, created := c.now }]
        table := table }

/-- Calls and results belong to their requests. -/
structure Requested (rs : List Request) (c : Client T) : Prop where
  made : c.nextCall = rs.length
  calls : ∀ id call, c.calls.lookup id = some call → ∃ r, rs[id]? = some r ∧ call.Of r
  results : ∀ p ∈ c.results, ∃ r, rs[p.1]? = some r ∧ p.2.Of r
  once : (c.results.map (·.1)).Nodup

section Filed

variable {rs : List Request} {c c' : Client T}

/-- A call that is on its way has no result. -/
theorem unfiled {id : Nat} (unended : c.endings id = []) {p : Nat × CallResult}
    (there : p ∈ c.results) : p.1 ≠ id := by
  rintro rfl
  have mem : p.2 ∈ c.endings p.1 :=
    List.mem_map_of_mem (List.mem_filter.mpr ⟨there, by simp⟩)
  simp [unended] at mem

theorem Files.filed {id : Nat} {ended : Option CallResult} (files : Files rs id ended c c')
    {p : Nat × CallResult} (there : p ∈ c'.results) :
    (p.1 = id ∧ p.2 ∈ ended) ∨ (p.1 ≠ id ∧ p ∈ c.results) := by
  rw [files.results, List.mem_append, List.mem_map] at there
  rcases there with ⟨result, ends, rfl⟩ | before
  · exact .inl ⟨rfl, Option.mem_toList.mp ends⟩
  · exact .inr ⟨unfiled files.unended before, before⟩

theorem files_stepCall (requested : c.Requested rs) (numbered : c.CallsNumbered) {id : Nat}
    {call : Call T} (calling : c.calls.lookup id = some call)
    (noted : c.sends id = call.sentTo?.toList) :
    ∃ ended, Files rs id ended c (c.stepCall id call) := by
  obtain ⟨r, made, own⟩ := requested.calls id call calling
  have size (payload : Bytes) (its : payload ∈ call.payload?) : sentBytes rs id = payload.length := by
    rw [own.payload] at its
    simp [sentBytes, made, Option.mem_def.mp its]
  have advanced := advance_advanced c id call
  have credited := advanced.credited noted size
  obtain ⟨goesOn, ends⟩ := advanced.of own
  have effects := effects_advance (A := [.begun, .counted, .revoked]) (by simp) (by simp) (by simp)
    c id call
  have stepped := stepCall_stepped c id call
  generalize c.stepCall id call = c' at stepped ⊢
  cases stepped with
  | @goesOn c₁ next stepped moves =>
    have aloof := Aloof.of_moves moves
    rw [stepped] at credited goesOn effects
    refine ⟨none, (numbered.made calling).2, ?_, aloof.results, by simp, aloof.nextCall, ?_,
      ⟨credited.counters, credited.placed, credited.answered⟩,
      fun i missing => effects.missing missing (by simp)⟩
    · intro j call' calling'
      rw [lookup_replaceCall, aloof.calls] at calling'
      split at calling'
      · next here =>
        obtain ⟨_, _, rfl⟩ := Option.map_eq_some_iff.mp calling'
        exact .inr ⟨r, here ▸ made, goesOn next rfl⟩
      · exact .inl calling'
    · intro j other
      exact sends_of_events (callEvents_of_moves moves (by simpa using Ne.symm other))
  | @ends c₁ result stepped moves =>
    have aloof := Aloof.of_moves moves
    rw [stepped] at credited ends effects
    refine ⟨some result, (numbered.made calling).2, ?_, ?_, ?_, aloof.nextCall, ?_,
      ⟨credited.counters, credited.placed, credited.answered⟩,
      fun i missing => effects.missing missing (by simp)⟩
    · intro j call' calling'
      rw [lookup_endCall, aloof.calls] at calling'
      split at calling'
      · cases calling'
      · exact .inl calling'
    · simp [endCall, aloof.results]
    · rintro _ ⟨⟩
      exact ⟨r, made, ends result rfl⟩
    · intro j other
      exact sends_of_events (callEvents_of_moves moves (by simpa using Ne.symm other))

theorem files_abandonCall (requested : c.Requested rs) (numbered : c.CallsNumbered) {id : Nat}
    {call : Call T} (calling : c.calls.lookup id = some call) :
    Files rs id (some .aborted) c (c.abandonCall id) := by
  obtain ⟨r, made, -⟩ := requested.calls id call calling
  have sends (j : Nat) : (c.abandonCall id).sends j = c.sends j :=
    sends_of_events (callEvents_abandonCall c id j)
  have effects := effects_abandonCall (A := []) c id
  have gained := effects.gained List.not_mem_nil 0 (sentBytes rs id)
  obtain ⟨transport, same⟩ : ∃ transport,
      c.abandonCall id = ({ c with transport := transport }).endCall id .aborted := by
    simp only [abandonCall, calling]
    cases call.sending? <;> exact ⟨_, rfl⟩
  refine ⟨(numbered.made calling).2, ?_, ?_, ?_, nextCall_abandonCall c id, fun j _ => sends j,
    .unsent gained (.inl rfl) fun i sent => .inl (sends id ▸ sent),
    fun i missing => effects.missing missing List.not_mem_nil⟩
  · intro j call' calling'
    rw [same, lookup_endCall] at calling'
    split at calling'
    · cases calling'
    · exact .inl calling'
  · rw [same]
    rfl
  · rintro _ ⟨⟩
    exact ⟨r, made, .other (by simp) (by simp)⟩

theorem Filed.of_moves {a : Action T} (unasked : a.request? = none)
    (uncounted : Deed.counted ∉ a.deeds) (closed : Deed.added ∉ a.deeds)
    (effects : Effects a.deeds c c') (moves : Moves none c c') : Filed rs c a c' :=
  .quiet (.of_moves uncounted closed effects moves) unasked

theorem filed_act (reachable : c.Reachable) (requested : c.Requested rs) (a : Action T) :
    Filed rs c a (c.act a) := by
  have sound := reachable.sound
  have numbered := reachable.callsNumbered
  have effects := effects_act sound a
  have acted := acted_act sound.numbered a
  have same (unasked : a.request? = none) : Filed rs c a c :=
    .quiet (.same rfl rfl rfl rfl rfl) unasked
  cases a with
  | request r => exact .requested
  | abandon id =>
    cases calling : c.calls.lookup id with
    | none =>
      simp only [act, abandonCall, calling]
      exact same rfl
    | some call => exact .went (files_abandonCall requested numbered calling) rfl
  | addDestination d =>
    simp only [act, addDestination]
    split
    · exact same rfl
    · exact .added
  | step task =>
    cases task with
    | call id =>
      simp only [act, step]
      cases calling : c.calls.lookup id with
      | none => exact same rfl
      | some call =>
        have noted := ((reachable.noted id).2 call calling).sends
        obtain ⟨ended, files⟩ := files_stepCall requested numbered calling noted
        exact .went files rfl
    | attempt id =>
      generalize c.act (.step (.attempt id)) = c' at effects acted ⊢
      have moves : Moves none c c' := by
        cases acted with
        | moved moves => exact moves none
        | attempted _ moves => exact moves
      exact .of_moves rfl (by simp [Action.deeds]) (by simp [Action.deeds]) effects moves
    | _ =>
      cases acted with
      | moved moves =>
        exact .of_moves rfl (by simp [Action.deeds]) (by simp [Action.deeds]) effects (moves none)
  | removeFromTable name =>
    generalize c.act (.removeFromTable name) = c' at effects acted ⊢
    cases acted with
    | moved moves =>
      exact .of_moves rfl (by simp [Action.deeds]) (by simp [Action.deeds]) effects (moves none)
    | removed => exact .quiet (.same rfl rfl rfl rfl rfl) rfl
  | register i selectors =>
    generalize c.act (.register i selectors) = c' at effects acted ⊢
    cases acted with
    | moved moves =>
      exact .of_moves rfl (by simp [Action.deeds]) (by simp [Action.deeds]) effects (moves none)
    | registered => exact .quiet (.same rfl rfl rfl rfl rfl) rfl
  | unregister name => exact .quiet (.same rfl rfl rfl rfl rfl) rfl
  | _ =>
    cases acted with
    | moved moves =>
      exact .of_moves rfl (by simp [Action.deeds]) (by simp [Action.deeds]) effects (moves none)

/-- Every action leaves calls and results with their requests. -/
theorem Requested.filed {a : Action T} (requested : c.Requested rs) (filed : Filed rs c a c') :
    c'.Requested (rs ++ a.request?.toList) := by
  cases filed with
  | quiet quiet unasked =>
    rw [unasked, Option.toList_none, List.append_nil]
    exact ⟨quiet.nextCall ▸ requested.made, quiet.calls ▸ requested.calls,
      quiet.results ▸ requested.results, quiet.results ▸ requested.once⟩
  | @requested r =>
    refine ⟨?_, ?_, ?_, requested.once⟩
    · rw [List.length_append, ← requested.made]
      rfl
    · intro id call calling
      rw [lookup_startCall] at calling
      cases old : c.calls.lookup id with
      | some call' =>
        rw [old] at calling
        cases calling
        obtain ⟨r', made, own⟩ := requested.calls id call old
        exact ⟨r', requests_earlier made _, own⟩
      | none =>
        rw [old, Option.none_or] at calling
        split at calling
        · next new =>
          cases calling
          exact ⟨r, by simp [new, requested.made, Action.request?], Call.of_call r⟩
        · cases calling
    · intro p there
      obtain ⟨r', made, own⟩ := requested.results p there
      exact ⟨r', requests_earlier made _, own⟩
  | @went _ _ id ended files unasked =>
    rw [unasked, Option.toList_none, List.append_nil]
    refine ⟨files.nextCall.trans requested.made, ?_, ?_, ?_⟩
    · intro j call calling
      exact (files.calls j call calling).elim (requested.calls j call) fun own => own
    · intro p there
      rcases files.filed there with ⟨here, ends⟩ | ⟨_, before⟩
      · rw [here]
        exact files.own p.2 ends
      · exact requested.results p before
    · rw [files.results]
      cases ended with
      | none => exact requested.once
      | some result =>
        refine List.nodup_cons.mpr ⟨fun there => ?_, requested.once⟩
        obtain ⟨p, before, same⟩ := List.mem_map.mp there
        exact unfiled files.unended before same
  | added =>
    simp only [Action.request?, Option.toList_none, List.append_nil]
    exact ⟨requested.made, requested.calls, requested.results, requested.once⟩

end Filed

end Client

end Switchboard
