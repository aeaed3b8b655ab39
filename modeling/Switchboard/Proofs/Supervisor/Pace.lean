import Switchboard.Proofs.Supervisor.Asks

/-!
The pace at which the supervisor connects destinations again. What a scan finds due is ripe for an attempt:
the wait for its failures is over since its last attempt, whoever began that. It is asked later, and is ripe
still unless an attempt has begun since the scan looked. So attempts that only the supervisor begins lie as
far apart as the growing waits demand; one that somebody else begins during a scan may be followed at once.
-/
namespace Switchboard

namespace Client

variable {T : Type} [Transport T]

/-! ### Ripe for an attempt -/

/-- A destination for which an attempt may begin: it is in service, has no connection and no attempt
under way, and if it has failed, the wait is over since the last attempt that its history tells of. -/
structure Ripe (policy : Reconnect.Policy) (now : Instant) (notes : List Note) (d : Destination) :
    Prop where
  kept : d.retired = false
  off : d.state ≠ .connected
  idle : d.inFlight = none
  waited : 0 < d.failures → ∃ last, lastBegun notes = some last ∧
    (policy.backoff d.failures).nanos ≤ now - last

section Ripe

variable {c : Client T} {i : Nat} {notes : List Note} {d : Destination} {now : Instant}
  {policy : Reconnect.Policy}

theorem Chronicle.ripe (chronicle : Chronicle i c notes) (found : c.destinations[i]? = some d)
    (due : d.reconnectDue now policy = true) : Ripe policy now notes d := by
  obtain ⟨kept, idle, -, waited⟩ := Destination.reconnectDue_iff.mp due
  refine ⟨kept, Destination.unconnected_of_due due, idle, ?_⟩
  intro failed
  have tried := chronicle.tried (ledger_of_found found)
  obtain ⟨last, begun⟩ := Option.isSome_iff_exists.mp (tried.counted failed)
  exact ⟨last, (chronicle.tracked found).lastAttempt.symm.trans begun, waited last begun failed⟩

/-- What is due has waited as long as attempts have failed. -/
theorem Tracked.waited (tracked : Tracked notes d) (due : d.reconnectDue now policy = true) {y : Note}
    {earlier : List Note} (same : begunSince notes = y :: earlier) :
    (policy.backoff (begunSince notes).length).nanos ≤ now - y.time := by
  obtain ⟨kept, idle, -, waited⟩ := Destination.reconnectDue_iff.mp due
  have counted : d.failures = min Destination.maxFailures (failedAttempts notes + (gaveUp notes).toNat) :=
    tracked.counted
  have all : (begunSince notes).length = failedAttempts notes := by
    simpa [idle] using tracked.spent kept
  have some : 0 < (begunSince notes).length := by
    rw [same]
    exact Nat.succ_pos _
  have failed : 0 < d.failures := by
    rw [counted, Destination.maxFailures]
    omega
  calc (policy.backoff (begunSince notes).length).nanos
      ≤ (policy.backoff (failedAttempts notes + (gaveUp notes).toNat)).nanos :=
        policy.backoff_mono (by omega)
    _ ≤ (policy.backoff d.failures).nanos := by
        rw [counted]
        exact policy.backoff_maxFailures _
    _ ≤ now - y.time := waited y.time (tracked.lastAttempt.trans (lastBegun_of_begunSince same)) failed

end Ripe

/-! ### Starts of attempts -/

/-- Among attempts, the last one first, each of the supervisor has waited as long as there were attempts
before it, since the one right before it, if that is one that counts. -/
def Spaced (policy : Reconnect.Policy) (counts : Note → Prop) (starts : List Note) : Prop :=
  ∀ later x y earlier, starts = later ++ x :: y :: earlier → x.supervised = true → counts y →
    (policy.backoff (earlier.length + 1)).nanos ≤ x.time - y.time

theorem Spaced.nil (policy : Reconnect.Policy) (counts : Note → Prop) : Spaced policy counts [] := by
  intro later x y earlier same
  simp at same

theorem Spaced.cons {policy : Reconnect.Policy} {counts : Note → Prop} {x : Note} {starts : List Note}
    (spaced : Spaced policy counts starts)
    (waited : x.supervised = true → ∀ y earlier, starts = y :: earlier → counts y →
      (policy.backoff starts.length).nanos ≤ x.time - y.time) : Spaced policy counts (x :: starts) := by
  intro later x' y earlier same supervised count
  cases later with
  | nil =>
    obtain ⟨rfl, rfl⟩ := List.cons.inj same
    exact waited supervised y earlier rfl count
  | cons _ later =>
    obtain ⟨-, rest⟩ := List.cons.inj same
    exact spaced later x' y earlier rest supervised count

theorem begun_of_begunSince {notes earlier : List Note} {y : Note}
    (same : begunSince notes = y :: earlier) : y.happening = .begun := by
  have there : y ∈ begunSince notes := same ▸ List.mem_cons_self
  exact eq_of_beq (List.mem_filter.mp there).2

/-- If an attempt has begun lately, so has the last one. -/
theorem mem_of_begunSince {lately before earlier : List Note} {y : Note}
    (same : begunSince (lately ++ before) = y :: earlier)
    (begun : ∃ note ∈ lately, note.happening = .begun) : y ∈ lately := by
  induction lately with
  | nil =>
    obtain ⟨note, there, -⟩ := begun
    cases there
  | cons first rest ih =>
    rw [List.cons_append, begunSince_cons] at same
    have other (unbegun : first.happening ≠ .begun) : ∃ note ∈ rest, note.happening = .begun := by
      obtain ⟨note, there, begun⟩ := begun
      rcases List.mem_cons.mp there with rfl | later
      · exact absurd begun unbegun
      · exact ⟨note, later, begun⟩
    cases happening : first.happening with
    | published => simp [happening] at same
    | begun =>
      simp only [happening] at same
      rw [(List.cons.inj same).1]
      exact List.mem_cons_self
    | failed =>
      simp only [happening] at same
      exact List.mem_cons_of_mem _ (ih same (other (by simp [happening])))
    | timedOut =>
      simp only [happening] at same
      exact List.mem_cons_of_mem _ (ih same (other (by simp [happening])))

namespace Watched

/-! ### Attempts of the supervisor -/

theorem spaced_run (name : String) (transport : T) (policy : Reconnect.Policy) (i : Nat)
    {counts : Note → Prop} {turns : List (Turn T)}
    (once : (start name transport policy).MeetsOnce turns)
    (others : ∀ y, counts y → y.supervised = true ∨ (start name transport policy).Alone turns) :
    Spaced policy counts (begunSince ((start name transport policy).history i turns)) := by
  induction turns using List.reverseRecOn with
  | nil => exact .nil policy counts
  | append_singleton turns t ih =>
    have spaced := ih once.leading fun y count => (others y count).imp_right Alone.leading
    have sound (turns : List (Turn T)) := (reachable_run name transport policy turns).sound
    have chronicle := chronicle_run name transport policy i turns
    rw [history_append, history_single]
    cases noted : ((start name transport policy).run turns).note? i t with
    | none => exact spaced
    | some note =>
      obtain ⟨happening, happened, rfl⟩ := Option.map_eq_some_iff.mp noted
      simp only [Option.toList_some, List.singleton_append, begunSince_cons]
      cases happening with
      | published => exact .nil policy counts
      | failed => exact spaced
      | timedOut => exact spaced
      | begun =>
        refine spaced.cons ?_
        intro own y before same count
        obtain ⟨asks, d, found, -, -, kept⟩ := (begun_asked (sound turns) own).mp happened
        obtain ⟨rfl, due, phase⟩ := asks?_eq_some asks
        have listed : i ∈ ((start name transport policy).run turns).phase.due := by
          rw [phase]
          exact List.mem_cons_self
        obtain ⟨earlier, looking, after, rfl, asked⟩ := asked_run name transport policy listed
        have unbegun : ∀ note ∈ ((start name transport policy).run (earlier ++ looking)).history i
            (.look i :: after), note.happening ≠ .begun := by
          intro note lately begun
          -- Then the attempt before this one has begun since the look, and that was not the supervisor.
          rw [history_append] at same
          have there := mem_of_begunSince same ⟨note, lately, begun⟩
          have other := asked.others (sound []) once.leading there (begun_of_begunSince same)
          rcases others y count with supervised | alone
          · simp [other] at supervised
          · have own := asked.own_of_alone alone.leading there
            simp [other] at own
        have due' := asked.still (sound []) unbegun found kept
        have waited := (chronicle.tracked found).waited due' same
        have later := later_run ((start name transport policy).run earlier) (looking ++ .look i :: after)
        rw [← run_append, ← List.append_assoc] at later
        exact Nat.le_trans waited (Nat.sub_le_sub_right later _)

end Watched

/-! ### Scans that nobody comes between -/

/-- An attempt is under way that was not. -/
def SetsOut (i : Nat) (c c' : Client T) : Prop :=
  ∃ d d', c.destinations[i]? = some d ∧ c'.destinations[i]? = some d' ∧ d.inFlight = none ∧
    d'.inFlight.isSome

/-- If a destination is the same, nothing has happened to it. -/
theorem happening?_of_same {c : Client T} (watchable : c.Watchable) {i : Nat} {a : Action T}
    (same : (c.act a).destinations[i]? = c.destinations[i]?) : c.happening? i a = none := by
  cases found : c.destinations[i]? with
  | none => simp [happening?, ledger, found]
  | some d =>
    obtain ⟨d', found', fate⟩ := fated_act watchable i a d found
    have unchanged : d' = d := Option.some.inj (found'.symm.trans (same.trans found))
    generalize c.happening? i a = happening at fate
    cases fate with
    | rested => rfl
    | discarded => rfl
    | begun _ idle =>
      have running := congrArg Destination.inFlight unchanged
      rw [idle] at running
      cases running
    | failed running =>
      rw [← unchanged] at running
      cases running
    | published _ on =>
      have generation := congrArg Destination.generation unchanged
      simp [Destination.publish, on] at generation
    | timedOut _ before failures =>
      rw [unchanged, before] at failures
      cases failures

theorem happening?_of_setsOut {c : Client T} (watchable : c.Watchable) {i : Nat} {a : Action T}
    (setsOut : SetsOut i c (c.act a)) : c.happening? i a = some .begun := by
  obtain ⟨d, d', found, found', idle, running⟩ := setsOut
  obtain ⟨d₁, found₁, fate⟩ := fated_act watchable i a d found
  obtain rfl := Option.some.inj (found'.symm.trans found₁)
  exact fate.of_running idle running

theorem setsOut_beginConnect (c : Client T) (i j : Nat) :
    (c.beginConnect j).1.destinations[i]? = c.destinations[i]? ∨ SetsOut i c (c.beginConnect j).1 := by
  by_cases here : j = i
  · subst here
    cases found : c.destinations[j]? with
    | none => exact .inl (by rw [beginConnect_of_absent found, found])
    | some d =>
      rcases (begins_beginConnect c j).destinations found with same | ⟨-, idle, -, a, begun⟩
      · exact .inl same
      · exact .inr ⟨d, _, found, begun, idle, rfl⟩
  · exact .inl (beginConnect_elsewhere c here)

namespace Watched

/-- A turn of the supervisor leaves a destination alone or begins an attempt for it. -/
theorem own_take {w : Watched T} (sound : w.Sound) {t : Turn T} (own : t.isSupervisor = true) (i : Nat) :
    (w.take t).client.now = w.client.now ∧
    (w.note? i t = none ∧ (w.take t).client.destinations[i]? = w.client.destinations[i]? ∨
      w.note? i t = some ⟨.begun, w.client.now, true⟩ ∧ SetsOut i w.client (w.take t).client) := by
  constructor
  · have took := took_take w t
    generalize w.take t = w' at took
    cases took with
    | acted => cases own
    | late => cases own
    | @asked j => exact (begins_beginConnect w.client j).now
    | @stopped permit s => exact now_hear permit s w.client
    | @woke permit s => exact now_hear permit s w.client
    | _ => rfl
  · have destinations := (w.besides_take t).destinations
    unfold note? happening? SetsOut
    rw [destinations, action?_supervisor w own, own]
    cases w.asks? t with
    | none => exact .inl ⟨rfl, rfl⟩
    | some j =>
      rcases setsOut_beginConnect w.client i j with same | setsOut
      · have nothing : w.client.happening? i (.beginConnect j) = none :=
          happening?_of_same sound.watchable same
        exact .inl ⟨by simp [nothing], same⟩
      · have begun : w.client.happening? i (.beginConnect j) = some .begun :=
          happening?_of_setsOut sound.watchable setsOut
        exact .inr ⟨by simp [begun], setsOut⟩

/-- So do several turns, since an attempt under way is joined. -/
theorem own_run {w : Watched T} (sound : w.Sound) {turns : List (Turn T)}
    (own : ∀ t ∈ turns, t.isSupervisor = true) (i : Nat) :
    w.history i turns = [] ∧ (w.run turns).client.destinations[i]? = w.client.destinations[i]? ∨
      w.history i turns = [⟨.begun, w.client.now, true⟩] ∧ SetsOut i w.client (w.run turns).client := by
  induction turns generalizing w with
  | nil => exact .inl ⟨rfl, rfl⟩
  | cons t rest ih =>
    obtain ⟨now, first⟩ := own_take sound (own t List.mem_cons_self) i
    have later := ih (sound.took (took_take w t)) fun t' there => own t' (List.mem_cons_of_mem _ there)
    rw [← List.singleton_append, history_append, history_single, run_append, run_cons, run_nil]
    unfold SetsOut at first later ⊢
    rcases first with ⟨none, same⟩ | ⟨noted, d, d₁, found, found₁, idle, running⟩
    · rw [none, Option.toList_none, List.append_nil, ← same, ← now]
      exact later
    · right
      rcases later with ⟨nothing, same⟩ | ⟨-, d₂, -, found₂, -, idle₂, -⟩
      · exact ⟨by rw [nothing, noted]; rfl, d, d₁, found, same.trans found₁, idle, running⟩
      · rw [Option.some.inj (found₂.symm.trans found₁)] at idle₂
        simp [idle₂] at running

theorem Alone.append {w : Watched T} {first rest : List (Turn T)} (alone : w.Alone first)
    (later : (w.run first).Alone rest) : w.Alone (first ++ rest) := by
  intro before t after same on
  rcases List.append_eq_append_iff.mp same with ⟨more, rfl, split⟩ | ⟨more, rfl, split⟩
  · exact later more t after split (by rwa [← run_append])
  · cases more with
    | nil => exact later [] t after (by simpa using split.symm) (by simpa using on)
    | cons t' more =>
      obtain ⟨rfl, -⟩ := List.cons.inj split
      exact alone before t more rfl on

/-- To the destinations the finer steps of an action are that action. -/
theorem paced_of_act {c : Client T} {scans scans' : Nat} (sound : ({ client := c, scans } : Watched T).Sound)
    {a : Action T} {turns : List (Turn T)}
    (ran : ({ client := c, scans } : Watched T).run turns = { client := c.act a, scans := scans' })
    (kind : a.isSupervisor = false ∧ turns = [.act a] ∨
      a.isSupervisor = true ∧ ∀ t ∈ turns, t.isSupervisor = true ∧ ∀ i, t ≠ .meet i) :
    ({ client := c, scans } : Watched T).Alone turns ∧
    ({ client := c, scans } : Watched T).gather meets? turns = [] ∧
    ∀ i, ({ client := c, scans } : Watched T).history i turns = (c.note? i a).toList := by
  rcases kind with ⟨other, rfl⟩ | ⟨supervisor, own⟩
  · refine ⟨?_, rfl, ?_⟩
    · intro before t after same on
      cases before with
      | nil => exact absurd rfl on
      | cons => simp at same
    · intro i
      rw [history_single]
      simp [note?, happening?, Client.note?, action?, other, Turn.isSupervisor]
  · refine ⟨?_, ?_, ?_⟩
    · rintro before t after rfl -
      exact (own t (by simp)).1
    · rw [List.eq_nil_iff_forall_not_mem]
      intro i there
      obtain ⟨before, t, after, rfl, met⟩ := mem_gather.mp there
      cases t with
      | meet j => exact (own _ (by simp)).2 j rfl
      | _ => cases met
    · intro i
      have course := own_run sound (fun t there => (own t there).1) i
      rw [ran] at course
      rcases course with ⟨nothing, same⟩ | ⟨begun, setsOut⟩
      · rw [nothing, Client.note?, happening?_of_same sound.watchable same]
        rfl
      · rw [begun, Client.note?, happening?_of_setsOut sound.watchable setsOut, supervisor]
        rfl

/-- A run of a client is one in which nobody comes between the turns of a scan, with the same histories. -/
theorem alone_of_client (name : String) (transport : T) (policy : Reconnect.Policy)
    (actions : List (Action T)) : ∃ turns scans,
      (start name transport policy).run turns =
        { client := (create name transport policy).run actions, scans } ∧
      (start name transport policy).Alone turns ∧
      (start name transport policy).gather meets? turns = [] ∧
      ∀ i, (start name transport policy).history i turns =
        (create name transport policy).history i actions := by
  induction actions using List.reverseRecOn with
  | nil => exact ⟨[], 0, rfl, fun before t after same => by simp at same, rfl, fun _ => rfl⟩
  | append_singleton actions a ih =>
    obtain ⟨turns, scans, ran, alone, unmet, histories⟩ := ih
    have sound := (reachable_run name transport policy turns).sound
    obtain ⟨more, scans', ran', kind⟩ :=
      run_of_act a ((create name transport policy).run actions) scans
    obtain ⟨alone', unmet', histories'⟩ := paced_of_act (ran ▸ sound) ran' kind
    refine ⟨turns ++ more, scans', ?_, alone.append (ran ▸ alone'), ?_, ?_⟩
    · rw [run_append, ran, ran', Client.run_append]
      rfl
    · rw [gather_append, ran, unmet, unmet', List.append_nil]
    · intro i
      rw [history_append, ran, histories', histories, history_concat]

end Watched

/-- In a client, where a scan is one step, what is due is ripe for an attempt and one begins, and every
attempt of the supervisor has waited since the one before it, whoever began that. -/
theorem paced_of_client (name : String) (transport : T) (policy : Reconnect.Policy)
    (actions : List (Action T)) :
    let start := create name transport policy
    let c := start.run actions
    (∀ a p, Scans c a p → ∃ is, Scanned p is c (c.act a) ∧
      ∀ i ∈ is, ∃ d, c.destinations[i]? = some d ∧ Ripe p c.now (start.history i actions) d) ∧
    ∀ i, Spaced policy (fun _ => True) (begunSince (start.history i actions)) := by
  intro start c
  obtain ⟨turns, count, ran, alone, unmet, histories⟩ :=
    Watched.alone_of_client name transport policy actions
  constructor
  · intro a p scans
    have listed : c.Listed := by
      have listed := Watched.listed_run name transport policy turns
      rwa [ran] at listed
    obtain ⟨is, scanned⟩ := scans.scanned listed
    refine ⟨is, scanned, fun i there => ?_⟩
    obtain ⟨-, d, found, due⟩ := isDue_iff.mp ((scanned.due i).mp there)
    exact ⟨d, found, (chronicle_run name transport policy i actions).ripe found due⟩
  · intro i
    rw [← histories]
    exact Watched.spaced_run name transport policy i
      (Watched.meetsOnce_of_none name transport policy unmet) fun _ _ => .inr alone

/-! ### Every run -/

namespace Watched

/-- What holds of the scan under way at the end of some turns, and of the attempts that the supervisor has
begun by then. -/
structure Paced (policy : Reconnect.Policy) (first : Watched T) (turns : List (Turn T)) : Prop where
  /-- A scan that nobody comes between begins one attempt for each destination that is due and for no other,
  in whatever order it comes to them, and says how many. -/
  whole : ∀ table p, table.Perm (first.run turns).client.table →
    let c : Client T := { (first.run turns).client with table := table }
    Scanned p (c.due p) (first.run turns).client (c.scan p).1 ∧ (c.scan p).2 = (c.due p).length
  /-- A scan asks those that it has found due by the time of its start, in the order in which it has found
  them, and it looks at all that were loaded then or that it meets; each of them once. -/
  scan : (first.run turns).phase ≠ .waiting → ∃ earlier during, turns = earlier ++ during ∧
    Scan policy (first.run earlier) during ∧ (first.run turns).scans = (first.run earlier).scans ∧
    (first.MeetsOnce turns →
      ((first.run earlier).gather asks? during ++ (first.run turns).phase.due).Nodup)
  /-- The supervisor begins an attempt for what it asks and finds in service and free for one. -/
  begins : ∀ i t, t.isSupervisor = true → ((first.run turns).happening? i t = some .begun ↔
    (first.run turns).asks? t = some i ∧ ∃ d, (first.run turns).client.destinations[i]? = some d ∧
      d.state ≠ .connected ∧ d.inFlight = none ∧ d.retired = false)
  /-- What it is about to ask was due when the same scan looked at it, and is ripe for an attempt unless it
  is out of service or an attempt has begun since that look, by the hand of another. -/
  ripe : ∀ i ∈ (first.run turns).phase.due, ∃ earlier before after,
    turns = earlier ++ before ++ .look i :: after ∧ Asked i policy first earlier before after ∧
    ((∀ note ∈ (first.run (earlier ++ before)).history i (.look i :: after), note.happening ≠ .begun) →
      ∀ d, (first.run turns).client.destinations[i]? = some d → d.retired = false →
        Ripe policy (first.run earlier).client.now (first.history i turns) d) ∧
    (first.MeetsOnce turns →
      ∀ note ∈ (first.run (earlier ++ before)).history i (.look i :: after),
        note.happening = .begun → note.supervised = false)
  /-- Between two connections an attempt of the supervisor has waited, since the one before it, as long as
  there were attempts before it: if that was the supervisor's, too, or nobody comes between scans. -/
  spaced : first.MeetsOnce turns → ∀ i,
    Spaced policy (fun y => y.supervised = true ∨ first.Alone turns) (begunSince (first.history i turns))

/-- The pace of the supervisor in every run, whoever comes between the turns of a scan. -/
theorem scans_paced (name : String) (transport : T) (policy : Reconnect.Policy)
    (turns : List (Turn T)) : Paced policy (start name transport policy) turns where
  whole table p order := by
    have unmoved : Unmoved ((start name transport policy).run turns).client
        { ((start name transport policy).run turns).client with table := table } :=
      ⟨rfl, rfl, rfl, rfl, rfl⟩
    exact ⟨scanned_scan (listed_run name transport policy turns) unmoved rfl order p, rfl⟩
  scan on := by
    obtain ⟨earlier, during, rfl, scan, own⟩ := scan_run name transport policy on
    refine ⟨earlier, during, rfl, scan, own, fun once => ?_⟩
    rw [run_append] at own ⊢
    exact scan.nodup (once earlier during [] (by simp) scan.starts own)
  begins i t := begun_asked (reachable_run name transport policy turns).sound
  ripe i listed := by
    obtain ⟨earlier, before, after, rfl, asked⟩ := asked_run name transport policy listed
    have sound := (reachable_run name transport policy []).sound
    refine ⟨earlier, before, after, rfl, asked, ?_, ?_⟩
    · intro unbegun d found kept
      exact (chronicle_run name transport policy i _).ripe found (asked.still sound unbegun found kept)
    · intro once note noted
      exact asked.others sound once noted
  spaced once i := spaced_run name transport policy i once fun _ counts => counts

def refusing : Scripted where
  opens := [{ failure := some (.refused "busy") }, {}, { failure := some (.refused "busy") }]

/-- Two destinations are added, and the supervisor looks at the second one first. The first one refuses to be
connected, twice; and while the last scan is on its way to it, a call wants to have it connected, too. -/
def refused : List (Turn Scripted) :=
  [.act (.addDestination { name := "a", host := "h", port := 1 }),
    .act (.addDestination { name := "b", host := "h", port := 2 }),
    .wake false, .look 1, .look 0, .goOn, .goOn, .goOn, .goOn,
    .act (.step (.attempt 1)), .act (.step (.attempt 0)), .act (.passTo 1000000000),
    .wake false, .look 0, .look 1, .goOn, .goOn, .goOn, .act (.step (.attempt 2)),
    .act (.passTo 3000000000), .wake false, .look 0, .act (.request (.connect 0)), .look 1, .goOn, .goOn]

theorem history_refused :
    (start "client" refusing {}).history 0 refused =
      [⟨.begun, 3000000000, true⟩, ⟨.failed, 1000000000, false⟩, ⟨.begun, 1000000000, true⟩,
        ⟨.failed, 0, false⟩, ⟨.begun, 0, true⟩] := by
  rfl

/-- The supervisor's attempts for it are one second and then two seconds apart. -/
theorem scans_paced_refused :
    (({} : Reconnect.Policy).backoff 1).nanos ≤ 1000000000 - 0 ∧
      (({} : Reconnect.Policy).backoff 2).nanos ≤ 3000000000 - 1000000000 := by
  have once : (start "client" refusing {}).MeetsOnce refused :=
    meetsOnce_of_none "client" refusing {} rfl
  have spaced := (scans_paced "client" refusing {} refused).spaced once 0
  rw [history_refused] at spaced
  exact ⟨spaced [⟨.begun, 3000000000, true⟩] _ _ [] rfl rfl (.inl rfl), spaced [] _ _ [_] rfl rfl (.inl rfl)⟩

/-- A scan has found a destination due when a call connects it, in vain. -/
def forestalled : List (Turn Scripted) :=
  [.act (.addDestination { name := "a", host := "h", port := 1 }), .wake false, .look 0, .goOn,
    .act (.beginConnect 0), .act (.step (.attempt 0))]

/-- Then the supervisor begins the next attempt at once, although the first one has failed and one second is
to be waited for. And while the call's attempt is under way, the scan asks for nothing. -/
theorem forestalled_unripe :
    let first : Watched Scripted := start "client" refusing {}
    (∃ d, (first.run forestalled).client.destinations[0]? = some d ∧ d.failures = 1 ∧
      d.reconnectDue (first.run forestalled).client.now {} = false ∧
      ¬Ripe {} (first.run forestalled).client.now (first.history 0 forestalled) d ∧
      (first.run forestalled).happening? 0 .goOn = some .begun) ∧
    (first.run (forestalled.take 5)).asks? .goOn = some 0 ∧
    (first.run (forestalled.take 5)).happening? 0 .goOn = none := by
  refine ⟨⟨_, rfl, rfl, by decide, ?_, rfl⟩, rfl, rfl⟩
  intro ripe
  obtain ⟨last, begun, waited⟩ := ripe.waited (by decide)
  obtain rfl : 0 = last := Option.some.inj begun
  exact absurd waited (by decide)

end Watched

end Client

end Switchboard
