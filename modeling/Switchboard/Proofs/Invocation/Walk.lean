import Switchboard.Invocation
import Mathlib.Data.List.Nodup

/-!
What an invocation comes to, read off the answers that it was given. It visits the destinations of
the receivers in order, each once, and passes on as long as it reaches none or has nothing sent; the
first dispatch that is heard of settles it, and if there is none it has one failure of each
destination to report.

The walk is a matter of the invocation's own steps. Whoever gives the answers has to see to it that
a failure carries the name of the destination that was visited.
-/
namespace Switchboard

open Text (Bytes)

namespace Invocation

/-- A destination is reached: it is connected already, or by an attempt that was waited for. -/
inductive Reached (r : Receiver) : List Answer → Prop
  | connected : Reached r [.usable r true]
  | meanwhile : Reached r [.usable r false, .joining r .connected]
  | opened {j a} (waited : j = .joined a ∨ j = .started a) :
      Reached r [.usable r false, .joining r j, .outcome r a (.ok ())]

/-- A destination is missed: it cannot be connected, or is lost again before anything is sent. -/
inductive Missed (r : Receiver) (f : AttemptFailure) : List Answer → Prop
  | refused : Missed r f [.usable r false, .joining r (.refused f)]
  | failed {j a} (waited : j = .joined a ∨ j = .started a) :
      Missed r f [.usable r false, .joining r j, .outcome r a (.error f)]
  | lost {visit} (reached : Reached r visit) :
      Missed r f (visit ++ [.dispatched r (.error (.notConnected f))])

/-- Destinations that were missed one after the other, with their failures. -/
inductive Passed : List (Receiver × AttemptFailure) → List Answer → Prop
  | none : Passed [] []
  | next {passed answers r f visit} (earlier : Passed passed answers) (missed : Missed r f visit)
      (named : f.destination = r.name) : Passed (passed ++ [(r, f)]) (answers ++ visit)

/-- What a dispatch that was heard of means for the invocation, after failures. -/
def verdict (target : Target) (failures : List AttemptFailure) :
    Except DispatchError Bytes → Except InvokeError Bytes
  | .ok reply => .ok reply
  | .error (.notConnected f) => .error (.connectivity target (failures ++ [f]))
  | .error (.connectivity f) => .error (.connectivity target (failures ++ [f]))
  | .error (.remote destination message) => .error (.remote destination message)
  | .error (.invalidRequest reason) => .error (.invalidRequest target reason)

/-- A walk over receivers: the ones it visited, the answers it was given, the destinations it sent
to, and its result. -/
inductive Walk (target : Target) (rs : List Receiver) :
    List Receiver → List Answer → List Nat → Except InvokeError Bytes → Prop
  | nobody (none : rs = []) : Walk target rs [] [.receivers rs] [] (.error (.noReceiver target))
  | settled {passed answers r visit outcome} (nonempty : rs ≠ []) (earlier : Passed passed answers)
      (reached : Reached r visit) (heard : ∀ f, outcome ≠ .error (.notConnected f))
      (named : ∀ f, outcome = .error (.connectivity f) → f.destination = r.name) :
      Walk target rs (passed.map (·.1) ++ [r])
        (.receivers rs :: (answers ++ visit ++ [.dispatched r outcome])) [r.destination]
        (verdict target (passed.map (·.2)) outcome)
  | exhausted {passed answers} (nonempty : rs ≠ []) (earlier : Passed passed answers)
      (all : passed.map (·.1.name) = Registry.destinationNames rs) :
      Walk target rs (passed.map (·.1)) (.receivers rs :: answers) []
        (.error (.connectivity target (passed.map (·.2))))

/-- Visits in the order of destinations, each to the first receiver of its own. -/
structure InOrder (rs visited : List Receiver) : Prop where
  names : visited.map (·.name) <+: Registry.destinationNames rs
  distinct : (visited.map (·.name)).Nodup
  first : ∀ r ∈ visited, rs.find? (·.name == r.name) = some r

theorem Passed.names {passed : List (Receiver × AttemptFailure)} {answers : List Answer}
    (earlier : Passed passed answers) : passed.map (·.2.destination) = passed.map (·.1.name) := by
  induction earlier with
  | none => rfl
  | next _ _ named ih =>
    rw [List.map_append, List.map_append, ih, List.map_singleton, List.map_singleton, named]

/-- The failures of a walk carry the names of the destinations that were visited, one for each. -/
theorem Walk.failures {target t : Target} {rs visited : List Receiver} {answers : List Answer}
    {sent : List Nat} {failures : List AttemptFailure}
    (walk : Walk target rs visited answers sent (.error (.connectivity t failures))) :
    t = target ∧ failures ≠ [] ∧ failures.map (·.destination) = visited.map (·.name) := by
  generalize came : (.error (.connectivity t failures) : Except InvokeError Bytes) = result at walk
  cases walk with
  | nobody => cases came
  | @settled passed answers r visit outcome nonempty earlier reached heard named =>
    cases outcome with
    | ok reply => cases came
    | error e =>
      cases e with
      | notConnected f => exact absurd rfl (heard f)
      | connectivity f =>
        cases came
        refine ⟨rfl, by simp, ?_⟩
        have names := earlier.names
        simp only [List.map_append, List.map_map, List.map_singleton, named f rfl]
        simpa [Function.comp_def] using names
      | remote destination message => cases came
      | invalidRequest reason => cases came
  | @exhausted passed answers nonempty earlier all =>
    cases came
    refine ⟨rfl, ?_, ?_⟩
    · intro empty
      rw [List.map_eq_nil_iff] at empty
      subst empty
      cases rs with
      | nil => exact nonempty rfl
      | cons r rest => simp [Registry.destinationNames, List.eraseDups_cons] at all
    · have names := earlier.names
      simpa [Function.comp_def] using names

/-! ### Who was visited -/

theorem Reached.usable {r r' : Receiver} {usable : Bool} {visit : List Answer}
    (reached : Reached r visit)
    (told : .usable r' usable ∈ visit) : r' = r := by
  cases reached with
  | connected =>
    simp only [List.mem_cons, Answer.usable.injEq, List.not_mem_nil, or_false] at told
    exact told.1
  | meanwhile =>
    simp only [List.mem_cons, Answer.usable.injEq, reduceCtorEq, List.not_mem_nil, or_false] at told
    exact told.1
  | opened =>
    simp only [List.mem_cons, Answer.usable.injEq, reduceCtorEq, List.not_mem_nil, or_false] at told
    exact told.1

theorem Missed.usable {r r' : Receiver} {f : AttemptFailure} {usable : Bool} {visit : List Answer}
    (missed : Missed r f visit) (told : .usable r' usable ∈ visit) : r' = r := by
  cases missed with
  | refused =>
    simp only [List.mem_cons, Answer.usable.injEq, reduceCtorEq, List.not_mem_nil, or_false] at told
    exact told.1
  | failed =>
    simp only [List.mem_cons, Answer.usable.injEq, reduceCtorEq, List.not_mem_nil, or_false] at told
    exact told.1
  | lost reached =>
    simp only [List.mem_append, List.mem_singleton, reduceCtorEq, or_false] at told
    exact reached.usable told

theorem Passed.usable {passed : List (Receiver × AttemptFailure)} {answers : List Answer}
    (earlier : Passed passed answers) {r : Receiver} {usable : Bool}
    (told : .usable r usable ∈ answers) :
    r ∈ passed.map (·.1) := by
  induction earlier with
  | none => cases told
  | next _ missed _ ih =>
    rw [List.map_append, List.mem_append]
    rcases List.mem_append.mp told with before | now
    · exact .inl (ih before)
    · right
      rw [missed.usable now]
      exact List.mem_singleton_self _

/-- A walk is told only about destinations that it visits. -/
theorem Walk.usable {target : Target} {rs visited : List Receiver} {told : List Answer}
    {sent : List Nat} {result : Except InvokeError Bytes}
    (walk : Walk target rs visited told sent result)
    {r : Receiver} {usable : Bool} (there : .usable r usable ∈ told) : r ∈ visited := by
  cases walk with
  | nobody => simp at there
  | settled nonempty earlier reached =>
    simp only [List.mem_cons, List.mem_append, reduceCtorEq, List.not_mem_nil, or_false,
      false_or] at there
    rw [List.mem_append]
    rcases there with before | now
    · exact .inl (earlier.usable before)
    · right
      rw [reached.usable now]
      exact List.mem_singleton_self _
  | exhausted nonempty earlier =>
    simp only [List.mem_cons, reduceCtorEq, false_or] at there
    exact earlier.usable there

/-! ### On the way -/

variable {σ : Type}

/-- The names of destinations still to come. -/
def namesLeft (w : Invocation σ) : List String :=
  ((w.candidates.map (·.name)).filter (· ∉ w.tried)).eraseDups

/-- How far a walk has come: the destinations it has passed, and the one that it visits now. -/
structure Stage (rs : List Receiver) (w : Invocation σ) (passed : List (Receiver × AttemptFailure))
    (answers : List Answer) (current : Option Receiver) : Prop where
  nonempty : rs ≠ []
  earlier : Passed passed answers
  attempts : w.attempts = passed.map (·.2)
  tried : w.tried.reverse = (passed.map (·.1) ++ current.toList).map (·.name)
  distinct : w.tried.Nodup
  left : Registry.destinationNames rs = w.tried.reverse ++ w.namesLeft
  first : ∀ r ∈ passed.map (·.1) ++ current.toList, rs.find? (·.name == r.name) = some r
  seen : ∃ seen, rs = seen ++ w.candidates ∧ ∀ r ∈ seen, r.name ∈ w.tried

/-- What the present visit has been told so far. -/
inductive Visiting : Place σ → Option Receiver → List Answer → Prop
  | choosing : Visiting .choosing none []
  | checking {r} : Visiting (.checking r) (some r) []
  | connecting {r} : Visiting (.connecting r) (some r) [.usable r false]
  | waiting {r a j} (waited : j = .joined a ∨ j = .started a) :
      Visiting (.waiting r a) (some r) [.usable r false, .joining r j]
  | dispatching {r visit} (reached : Reached r visit) : Visiting (.dispatching r) (some r) visit
  | sending {r s visit} (reached : Reached r visit) : Visiting (.sending r s) (some r) visit

/-- The receiver whose destination an invocation deals with. -/
def Place.visiting? : Place σ → Option Receiver
  | .connecting r | .waiting r _ | .dispatching r | .sending r _ => some r
  | .start | .choosing | .checking _ => none

def Underway (target : Target) (payload : Bytes) (rs : List Receiver) (w : Invocation σ)
    (told : List Answer) : Prop :=
  w.target = target ∧ w.payload = payload ∧
    ∃ passed answers current visit, Stage rs w passed answers current ∧
      Visiting w.place current visit ∧
      told = .receivers rs :: (answers ++ visit)

/-- A step leads on, or to the result of a walk that has sent to the given destinations. -/
def Continues (target : Target) (payload : Bytes) (rs : List Receiver) (sent : List Nat)
    (next : Next σ)
    (told : List Answer) : Prop :=
  match next with
  | .waiting w => Underway target payload rs w told
  | .done result => ∃ visited, InOrder rs visited ∧ Walk target rs visited told sent result

section Steps

variable {target : Target} {payload : Bytes} {rs : List Receiver} {w : Invocation σ}
  {passed : List (Receiver × AttemptFailure)} {answers : List Answer} {current : Option Receiver}

theorem Stage.inOrder (stage : Stage rs w passed answers current) :
    InOrder rs (passed.map (·.1) ++ current.toList) := by
  refine ⟨?_, ?_, stage.first⟩
  · rw [stage.left, ← stage.tried]
    exact List.prefix_append _ _
  · rw [← stage.tried, List.nodup_reverse]
    exact stage.distinct

theorem Visiting.asked {place : Place σ} {visit : List Answer}
    (visiting : Visiting place current visit)
    {r : Receiver} (at_ : place.visiting? = some r) :
    current = some r ∧ ∃ usable, .usable r usable ∈ visit := by
  have reached {visit : List Answer} (reached : Reached r visit) :
      ∃ usable, .usable r usable ∈ visit := by
    cases reached <;> exact ⟨_, List.mem_cons_self⟩
  cases visiting with
  | choosing => cases at_
  | checking => cases at_
  | connecting =>
    cases at_
    exact ⟨rfl, false, List.mem_cons_self⟩
  | waiting =>
    cases at_
    exact ⟨rfl, false, List.mem_cons_self⟩
  | dispatching came =>
    cases at_
    exact ⟨rfl, reached came⟩
  | sending came =>
    cases at_
    exact ⟨rfl, reached came⟩

/-- The receiver that is visited is a candidate, and the walk has been told whether it was
connected. -/
theorem Underway.visited {told : List Answer} (underway : Underway target payload rs w told)
    {r : Receiver}
    (at_ : w.place.visiting? = some r) : r ∈ rs ∧ ∃ usable, .usable r usable ∈ told := by
  obtain ⟨_, _, passed, answers, current, visit, stage, visiting, rfl⟩ := underway
  obtain ⟨rfl, usable, there⟩ := visiting.asked at_
  constructor
  · apply List.mem_of_find?_eq_some (stage.first r _)
    exact List.mem_append_right _ (List.mem_singleton_self r)
  · exact ⟨usable, List.mem_cons_of_mem _ (List.mem_append_right _ there)⟩

theorem found_continues : Continues target payload rs []
    (found rs { target := target, payload := payload : Invocation σ }) [.receivers rs] := by
  unfold found
  by_cases none : rs = []
  · rw [if_pos none]
    exact ⟨[], ⟨List.nil_prefix, List.nodup_nil, nofun⟩, .nobody none⟩
  · rw [if_neg none]
    refine ⟨rfl, rfl, [], [], Option.none, [],
      ⟨none, .none, rfl, rfl, List.nodup_nil, ?_, nofun, ?_⟩,
      .choosing, rfl⟩
    · simp [namesLeft, Registry.destinationNames]
    · exact ⟨[], rfl, nofun⟩

/-- A destination that was missed is passed. -/
theorem giveUp_continues (sent : List Nat) {r : Receiver} {f : AttemptFailure} {visit : List Answer}
    (stage : Stage rs w passed answers (some r)) (missed : Missed r f visit)
    (named : f.destination = r.name) :
    Continues w.target w.payload rs sent (w.giveUp f) (.receivers rs :: (answers ++ visit)) := by
  have visited : (passed ++ [(r, f)]).map (·.1) ++ (none : Option Receiver).toList =
      passed.map (·.1) ++ (some r).toList := by
    simp
  refine ⟨rfl, rfl, passed ++ [(r, f)], answers ++ visit, none, [],
    ⟨stage.nonempty, ?_, ?_, ?_, ?_, ?_, ?_, ?_⟩, .choosing, ?_⟩
  · exact .next stage.earlier missed named
  · simp [stage.attempts]
  · rw [visited]
    exact stage.tried
  · exact stage.distinct
  · exact stage.left
  · rw [visited]
    exact stage.first
  · exact stage.seen
  · rw [List.append_nil]

/-- A visit goes on in another place; nothing else of the walk has changed. -/
theorem Stage.moves {place : Place σ} {visit : List Answer}
    (stage : Stage rs w passed answers current)
    (visiting : Visiting place current visit) :
    Underway w.target w.payload rs { w with place := place }
    (.receivers rs :: (answers ++ visit)) :=
  ⟨rfl, rfl, passed, answers, current, visit,
    ⟨stage.nonempty, stage.earlier, stage.attempts, stage.tried, stage.distinct, stage.left,
      stage.first,
      stage.seen⟩, visiting, rfl⟩

theorem namesLeft_tried {r : Receiver} {rest : List Receiver}
    (candidates : w.candidates = r :: rest)
    (again : r.name ∈ w.tried) : w.namesLeft = { w with candidates := rest }.namesLeft := by
  simp [namesLeft, candidates, again]

theorem namesLeft_new {r : Receiver} {rest : List Receiver} (candidates : w.candidates = r :: rest)
    (new : r.name ∉ w.tried) :
    w.namesLeft = r.name ::
    { w with candidates := rest, tried := r.name :: w.tried }.namesLeft := by
  simp only [namesLeft, candidates, List.map_cons]
  rw [List.filter_cons, if_pos (by simpa using new), List.eraseDups_cons, List.filter_filter]
  congr 2
  apply List.filter_congr
  intro name _
  by_cases same : name = r.name <;> simp [same]

theorem choose_continues {told : List Answer} (underway : Underway target payload rs w told)
    (place : w.place = .choosing) : Continues target payload rs [] w.choose told := by
  obtain ⟨rfl, rfl, passed, answers, current, visit, stage, visiting, rfl⟩ := underway
  rw [place] at visiting
  cases visiting
  rw [List.append_nil]
  unfold choose
  cases candidates : w.candidates with
  | nil =>
    have order := stage.inOrder
    rw [Option.toList_none, List.append_nil] at order
    refine ⟨_, order, ?_⟩
    rw [stage.attempts]
    refine .exhausted stage.nonempty stage.earlier ?_
    have left := stage.left
    rw [stage.tried] at left
    simpa [namesLeft, candidates, Function.comp_def] using left.symm
  | cons r rest =>
    obtain ⟨seen, split, known⟩ := stage.seen
    rw [candidates] at split
    by_cases again : r.name ∈ w.tried
    · simp only [again, if_true]
      refine ⟨rfl, rfl, passed, answers, none, [], ?_, ?_, by rw [List.append_nil]⟩
      · refine ⟨stage.nonempty, stage.earlier, stage.attempts, stage.tried, stage.distinct, ?_,
          stage.first, ?_⟩
        · rw [stage.left, namesLeft_tried candidates again]
        · refine ⟨seen ++ [r], by simp [split], ?_⟩
          exact List.forall_mem_append.mpr ⟨known, List.forall_mem_singleton.mpr again⟩
      · rw [place]
        exact .choosing
    · simp only [again, if_false]
      refine ⟨rfl, rfl, passed, answers, some r, [], ?_, .checking, by rw [List.append_nil]⟩
      have tried := stage.tried
      rw [Option.toList_none, List.append_nil] at tried
      refine ⟨stage.nonempty, stage.earlier, stage.attempts, ?_, ?_, ?_, ?_, ?_⟩
      · simp [tried]
      · exact List.nodup_cons.mpr ⟨again, stage.distinct⟩
      · rw [stage.left, namesLeft_new candidates again, List.reverse_cons, List.append_assoc,
          List.singleton_append]
        rfl
      · -- Receivers that were looked at have been tried, so this one is the first of its name.
        have unseen : seen.find? (·.name == r.name) = none := by
          rw [List.find?_eq_none]
          intro other there same
          rw [beq_iff_eq] at same
          exact again (same ▸ known other there)
        refine List.forall_mem_append.mpr ⟨?_, List.forall_mem_singleton.mpr ?_⟩
        · intro s there
          exact stage.first s (List.mem_append_left _ there)
        · rw [split, List.find?_append, unseen]
          simp
      · refine ⟨seen ++ [r], by simp [split], List.forall_mem_append.mpr ⟨?_, ?_⟩⟩
        · intro s there
          exact List.mem_cons_of_mem _ (known s there)
        · exact List.forall_mem_singleton.mpr List.mem_cons_self

theorem checked_continues (sent : List Nat) {told : List Answer}
    (underway : Underway target payload rs w told) {r : Receiver}
    (place : w.place = .checking r) (usable : Bool) :
    Continues target payload rs sent (w.checked r usable) (told ++ [.usable r usable]) := by
  obtain ⟨rfl, rfl, passed, answers, current, visit, stage, visiting, rfl⟩ := underway
  rw [place] at visiting
  cases visiting
  rw [List.append_nil, List.cons_append]
  cases usable with
  | true => exact stage.moves (.dispatching .connected)
  | false => exact stage.moves .connecting

theorem joining_continues (sent : List Nat) {told : List Answer}
    (underway : Underway target payload rs w told) {r : Receiver}
    (place : w.place = .connecting r) {j : Joining}
    (named : ∀ f, j = .refused f → f.destination = r.name) :
    Continues target payload rs sent (w.joining r j) (told ++ [.joining r j]) := by
  obtain ⟨rfl, rfl, passed, answers, current, visit, stage, visiting, rfl⟩ := underway
  rw [place] at visiting
  cases visiting
  rw [List.cons_append, List.append_assoc]
  cases j with
  | connected => exact stage.moves (.dispatching .meanwhile)
  | refused f => exact giveUp_continues sent stage .refused (named f rfl)
  | joined a => exact stage.moves (.waiting (.inl rfl))
  | started a => exact stage.moves (.waiting (.inr rfl))

theorem connectEnded_continues (sent : List Nat) {told : List Answer}
    (underway : Underway target payload rs w told)
    {r : Receiver} {a : AttemptId} (place : w.place = .waiting r a) {outcome : ConnectOutcome}
    (named : ∀ f, outcome = .error f → f.destination = r.name) :
    Continues target payload rs sent (w.connectEnded r outcome)
    (told ++ [.outcome r a outcome]) := by
  obtain ⟨rfl, rfl, passed, answers, current, visit, stage, visiting, rfl⟩ := underway
  rw [place] at visiting
  cases visiting with
  | waiting waited =>
    rw [List.cons_append, List.append_assoc]
    cases outcome with
    | ok => exact stage.moves (.dispatching (.opened waited))
    | error f => exact giveUp_continues sent stage (.failed waited) (named f rfl)

theorem dispatchEnded_place {result : Except DispatchError Bytes} {w' : Invocation σ}
    (goesOn : w.dispatchEnded result = .waiting w') : w'.place = .choosing := by
  cases result with
  | ok reply => cases goesOn
  | error e =>
    cases e with
    | notConnected f =>
      cases goesOn
      rfl
    | connectivity f => cases goesOn
    | remote destination message => cases goesOn
    | invalidRequest reason => cases goesOn

/-- The places in which an invocation waits for a dispatch. -/
theorem Visiting.reached {place : Place σ} {visit : List Answer} {r : Receiver}
    (visiting : Visiting place current visit)
    (at_ : place = .dispatching r ∨ ∃ s, place = .sending r s) :
    current = some r ∧ Reached r visit := by
  rcases at_ with rfl | ⟨s, rfl⟩
  · cases visiting with
    | dispatching reached => exact ⟨rfl, reached⟩
  · cases visiting with
    | sending reached => exact ⟨rfl, reached⟩

theorem sendStarted_continues (sent : List Nat) {told : List Answer}
    (underway : Underway target payload rs w told)
    {r : Receiver} (place : w.place = .dispatching r ∨ ∃ s, w.place = .sending r s) (s : σ) :
    Continues target payload rs sent (w.sendStarted r s) told := by
  obtain ⟨rfl, rfl, passed, answers, current, visit, stage, visiting, rfl⟩ := underway
  obtain ⟨rfl, reached⟩ := visiting.reached place
  exact stage.moves (.sending reached)

theorem dispatchEnded_continues {sent : List Nat} {told : List Answer}
    (underway : Underway target payload rs w told)
    {r : Receiver} (place : w.place = .dispatching r ∨ ∃ s, w.place = .sending r s)
    {result : Except DispatchError Bytes}
    (named : ∀ f, result = .error (.notConnected f) ∨ result = .error (.connectivity f) →
      f.destination = r.name)
    (once : (∀ f, result ≠ .error (.notConnected f)) → sent = [r.destination]) :
    Continues target payload rs sent (w.dispatchEnded result) (told ++ [.dispatched r result]) := by
  obtain ⟨rfl, rfl, passed, answers, current, visit, stage, visiting, rfl⟩ := underway
  obtain ⟨rfl, reached⟩ := visiting.reached place
  rw [List.cons_append, List.append_assoc]
  have settled (heard : ∀ f, result ≠ .error (.notConnected f)) :
      ∃ visited, InOrder rs visited ∧ Walk w.target rs visited
        (.receivers rs :: (answers ++ (visit ++ [.dispatched r result]))) sent
        (verdict w.target w.attempts result) := by
    refine ⟨_, stage.inOrder, ?_⟩
    rw [stage.attempts, ← List.append_assoc, once heard]
    exact .settled stage.nonempty stage.earlier reached heard fun f failed => named f (.inr failed)
  cases result with
  | ok reply => exact settled nofun
  | error e =>
    cases e with
    | notConnected f => exact giveUp_continues sent stage (.lost reached) (named f (.inl rfl))
    | connectivity f => exact settled nofun
    | remote destination message => exact settled nofun
    | invalidRequest reason => exact settled nofun

end Steps

end Invocation

end Switchboard
