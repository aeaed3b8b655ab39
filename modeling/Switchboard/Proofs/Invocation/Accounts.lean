import Mathlib
import Switchboard.Proofs.Invocation.Requests
import Switchboard.Transport.Scripted

/-!
The statistics of all destinations account for what callers were told. Along a run, what a result adds to
a counter when it is filed has been counted at the destination that its call has sent to; so every counter
is at all times the sum over the results, and a call that has sent once is in one such sum at most.
-/
namespace Switchboard

namespace Client

open Text (Bytes)

variable {T : Type} [Transport T]

/-- What the results that were filed add to a counter of a destination. -/
def account (k : Counter) (sent : Nat → Nat) (j : Nat) (c : Client T) : Nat :=
  (c.results.map fun p => credit k (sent p.1) (c.sends p.1) j p.2).sum

/-- The counters of sends are accounted for. -/
structure Told (rs : List Request) (c : Client T) : Prop where
  requested : c.Requested rs
  placed : ∀ id, ∀ i ∈ c.sends id, i < c.destinations.length
  answered : ∀ p ∈ c.results, ∀ v, p.2.verdict? = some v → v ≠ .broken → c.sends p.1 ≠ []
  counted : ∀ i d, c.destinations[i]? = some d → ∀ k : Counter,
    k.of d.stats = UInt64.ofNat (c.account k (sentBytes rs) i)

theorem account_congr {c c' : Client T} (k : Counter) {sent sent' : Nat → Nat} (j : Nat)
    (results : c'.results = c.results) (sends : ∀ p ∈ c.results, c'.sends p.1 = c.sends p.1)
    (bytes : ∀ p ∈ c.results, sent' p.1 = sent p.1) : c'.account k sent' j = c.account k sent j := by
  rw [account, account, results]
  congr 1
  apply List.map_congr_left
  intro p there
  rw [sends p there, bytes p there]

theorem Gained.there {i sent : Nat} {told : Option Verdict} {c c' : Client T}
    (gained : Gained i sent told c c') {j : Nat} (there : j < c.destinations.length) :
    j < c'.destinations.length := by
  obtain ⟨d', found, _⟩ := gained j _ (List.getElem?_eq_getElem there)
  exact length_of_found found

/-- A result that is filed adds to the account what it says, and what was filed before stays. -/
theorem account_files {rs : List Request} {id : Nat} {ended : Option CallResult} {c c' : Client T}
    (files : Files rs id ended c c') (k : Counter) (i : Nat) :
    c'.account k (sentBytes rs) i =
      c.account k (sentBytes rs) i + ended.elim 0 (credit k (sentBytes rs id) (c'.sends id) i) := by
  have old : (c.results.map fun p => credit k (sentBytes rs p.1) (c'.sends p.1) i p.2).sum =
      c.account k (sentBytes rs) i := by
    rw [account]
    congr 1
    apply List.map_congr_left
    intro p there
    rw [files.sends p.1 (unfiled files.unended there)]
  rw [← old, account, files.results, List.map_append, List.sum_append]
  cases ended <;> simp [Nat.add_comm]

namespace Told

variable {rs : List Request} {c c' : Client T}

theorem quiet (told : c.Told rs) (requested : c'.Requested rs) (quiet : Quiet c c') :
    c'.Told rs := by
  refine ⟨requested, ?_, ?_, ?_⟩
  · intro id i sent
    rw [quiet.sends] at sent
    exact quiet.gained.there (told.placed id i sent)
  · rw [quiet.results]
    intro p there v verdict heard
    rw [quiet.sends]
    exact told.answered p there v verdict heard
  · intro i d' found' k
    cases found : c.destinations[i]? with
    | none =>
      rw [quiet.born i found] at found'
      cases found'
    | some d =>
      obtain ⟨d₁, found₁, gained⟩ := quiet.gained i d found
      obtain rfl : d₁ = d' := by simpa [found₁] using found'
      rw [gained k, told.counted i d found k,
        account_congr k i quiet.results (fun _ _ => quiet.sends _) fun _ _ => rfl]
      simp

theorem asked (told : c.Told rs) {r : Request}
    (requested : (c.startCall r.call).1.Requested (rs ++ [r])) :
    (c.startCall r.call).1.Told (rs ++ [r]) := by
  refine ⟨requested, told.placed, told.answered, ?_⟩
  intro i d found k
  rw [told.counted i d found k]
  congr 1
  refine (account_congr k i rfl (fun _ _ => rfl) fun p there => ?_).symm
  obtain ⟨r', made, _⟩ := told.requested.results p there
  exact sentBytes_earlier made _

/-- A destination that has just been added has counted nothing, and nothing was sent to it. -/
theorem added (told : c.Told rs) (d : Descriptor) (table : List (String × Nat)) :
    Told rs { c with
      destinations := c.destinations ++ [{ descriptor := d, created := c.now }]
      table := table } := by
  obtain ⟨requested, placed, answered, counted⟩ := told
  refine ⟨⟨requested.made, requested.calls, requested.results, requested.once⟩, ?_, answered, ?_⟩
  · intro id i sent
    rw [List.length_append]
    exact Nat.lt_add_right _ (placed id i sent)
  · intro i d' found k
    simp only [List.getElem?_append, List.getElem?_singleton] at found
    split at found
    · exact counted i d' found k
    · next late =>
      have none : c.account k (sentBytes rs) i = 0 := by
        apply List.sum_eq_zero
        intro n there
        obtain ⟨p, -, rfl⟩ := List.mem_map.mp there
        exact if_neg fun sent => late (placed p.1 i sent)
      split at found <;> cases found
      change _ = UInt64.ofNat (c.account k (sentBytes rs) i)
      rw [none]
      cases k <;> rfl

theorem went (told : c.Told rs) (requested : c'.Requested rs) {id : Nat} {ended : Option CallResult}
    (files : Files rs id ended c c') : c'.Told rs := by
  have lengthens (i : Nat) (there : i < c.destinations.length) : i < c'.destinations.length := by
    obtain ⟨d', found, _⟩ := files.credited.counters i _ (List.getElem?_eq_getElem there)
    exact length_of_found found
  refine ⟨requested, ?_, ?_, ?_⟩
  · intro j i sent
    by_cases here : j = id
    · subst here
      rcases files.credited.placed i sent with before | there
      · exact lengthens i (told.placed j i before)
      · exact lengthens i there
    · rw [files.sends j here] at sent
      exact lengthens i (told.placed j i sent)
  · intro p there v verdict heard
    rcases files.filed there with ⟨here, ends⟩ | ⟨other, before⟩
    · rw [here]
      exact files.credited.answered p.2 ends v verdict heard
    · rw [files.sends p.1 other]
      exact told.answered p before v verdict heard
  · intro i d' found' k
    cases found : c.destinations[i]? with
    | none =>
      rw [files.born i found] at found'
      cases found'
    | some d =>
      obtain ⟨d₁, found₁, gained⟩ := files.credited.counters i d found
      obtain rfl : d₁ = d' := by simpa [found₁] using found'
      rw [gained k, told.counted i d found k, account_files files, UInt64.ofNat_add]

end Told

/-- Every action accounts for what it counts. -/
theorem Told.act {rs : List Request} {c : Client T} (told : c.Told rs) (reachable : c.Reachable)
    (a : Action T) : (c.act a).Told (rs ++ a.request?.toList) := by
  have filed := filed_act reachable told.requested a
  have requested := told.requested.filed filed
  generalize c.act a = c' at filed requested ⊢
  cases filed with
  | quiet quiet unasked =>
    rw [unasked, Option.toList_none, List.append_nil] at requested ⊢
    exact told.quiet requested quiet
  | requested => exact told.asked requested
  | went files unasked =>
    rw [unasked, Option.toList_none, List.append_nil] at requested ⊢
    exact told.went requested files
  | added =>
    simp only [Action.request?, Option.toList_none, List.append_nil]
    exact told.added _ _

theorem told_create (name : String) (transport : T) (policy : Reconnect.Policy) :
    (create name transport policy).Told [] := by
  have requested : (create name transport policy).Requested [] := by
    constructor <;> simp [create]
  refine ⟨requested, ?_, ?_, ?_⟩ <;> simp [create, sends, callEvents]

theorem told_run (name : String) (transport : T) (policy : Reconnect.Policy)
    (actions : List (Action T)) :
    ((create name transport policy).run actions).Told (requests actions) := by
  induction actions using List.reverseRecOn with
  | nil => exact told_create name transport policy
  | append_singleton before a ih =>
    rw [run_append, requests_append]
    exact ih.act ⟨_, _, _, _, rfl⟩ a

/-! ### Totals -/

/-- What a filed result adds to a counter. A failure says something of a send only if there was one. -/
def worth (k : Counter) (sent : Nat → Nat) (c : Client T) (p : Nat × CallResult) : Nat :=
  match p.2.verdict? with
  | none => 0
  | some .broken => if c.sends p.1 = [] then 0 else k.amount (sent p.1) .broken
  | some answer => k.amount (sent p.1) answer

/-- An answer comes from a send. -/
theorem Told.worth {rs : List Request} {c : Client T} (told : c.Told rs) (k : Counter)
    {p : Nat × CallResult} (there : p ∈ c.results) : c.worth k (sentBytes rs) p =
      if c.sends p.1 = [] then 0 else p.2.verdict?.elim 0 (k.amount (sentBytes rs p.1)) := by
  unfold Client.worth
  cases verdict : p.2.verdict? with
  | none => simp
  | some v =>
    cases v with
    | broken => rfl
    | replied reply => simp [told.answered p there _ verdict nofun]
    | remote => simp [told.answered p there _ verdict nofun]

theorem sum_range_ite (n i x : Nat) :
    ((List.range n).map fun j => if j = i then x else 0).sum = if i < n then x else 0 := by
  induction n with
  | zero => rfl
  | succ n ih =>
    rw [List.range_succ, List.map_append, List.sum_append, ih]
    rcases Nat.lt_trichotomy i n with before | rfl | after
    · simp [before, Nat.lt_succ_of_lt before, Nat.ne_of_gt before]
    · simp
    · simp [Nat.not_lt_of_gt after, Nat.ne_of_lt after, show ¬i < n + 1 by omega]

/-- A call that has sent once at most counts at one destination at most. -/
theorem sum_credit (k : Counter) (sent : Nat) {sends : List Nat} (result : CallResult) {n : Nat}
    (once : sends.length ≤ 1) (placed : ∀ i ∈ sends, i < n) :
    ((List.range n).map fun j => credit k sent sends j result).sum =
      if sends = [] then 0 else result.verdict?.elim 0 (k.amount sent) := by
  obtain - | ⟨i, - | ⟨j, rest⟩⟩ := sends
  · simp [credit]
  · simp only [credit, List.mem_singleton]
    rw [sum_range_ite, if_pos (placed i List.mem_cons_self), if_neg (List.cons_ne_nil i [])]
  · simp at once

theorem sum_comm_map {α β : Type} (f : α → β → Nat) (as : List α) (bs : List β) :
    (as.map fun a => (bs.map (f a)).sum).sum = (bs.map fun b => (as.map fun a => f a b).sum).sum := by
  induction bs with
  | nil => simp
  | cons b rest ih => simp only [List.map_cons, List.sum_cons, List.sum_map_add, ih]

theorem sum_words {α : Type} (f : α → Nat) (as : List α) :
    (as.map fun a => UInt64.ofNat (f a)).sum = UInt64.ofNat (as.map f).sum := by
  induction as with
  | nil => rfl
  | cons a rest ih => simp only [List.map_cons, List.sum_cons, ih, UInt64.ofNat_add]

theorem Told.total {rs : List Request} {c : Client T} (told : c.Told rs) (reachable : c.Reachable)
    (k : Counter) :
    (c.destinations.map fun d => k.of d.stats).sum =
      UInt64.ofNat (c.results.map (c.worth k (sentBytes rs))).sum := by
  have words : (c.destinations.map fun d => k.of d.stats) =
      (List.range c.destinations.length).map fun j => UInt64.ofNat (c.account k (sentBytes rs) j) := by
    apply List.ext_getElem (by simp)
    intro i there _
    rw [List.length_map] at there
    simpa using told.counted i _ (List.getElem?_eq_getElem there) k
  rw [words, sum_words]
  congr 1
  -- Taken over the destinations first, each result is found in one account at most.
  simp only [account]
  rw [sum_comm_map]
  congr 1
  apply List.map_congr_left
  intro p there
  rw [told.worth k there]
  exact sum_credit k _ p.2 (reachable.noted p.1).1.length_sends (told.placed p.1)

/-- After every run the counters of sends, taken over all destinations ever added, account for what
callers were told: for each reply and each error of the remote side one invocation and the bytes of the
request, with the bytes of a reply or a remote error, and for each other failure of a send that was
started a failed dispatch. Each of them is counted at the one destination that its call has sent to.
Whatever else a call came to counts nothing. -/
theorem statistics_account {name : String} {transport : T} {policy : Reconnect.Policy}
    {actions : List (Action T)} {c : Client T}
    (reached : (create name transport policy).run actions = c) :
    (∀ k : Counter, (c.destinations.map fun d => k.of d.stats).sum =
      UInt64.ofNat (c.results.map (c.worth k (sentBytes (requests actions)))).sum) ∧
    (∀ i d, c.destinations[i]? = some d → ∀ k : Counter,
      k.of d.stats = UInt64.ofNat (c.account k (sentBytes (requests actions)) i)) ∧
    (c.results.map (·.1)).Nodup ∧
    ∀ id result, (id, result) ∈ c.results →
      (c.sends id).length ≤ 1 ∧ (∀ i ∈ c.sends id, i < c.destinations.length) ∧
      (∀ v, result.verdict? = some v → v ≠ .broken → c.sends id ≠ []) ∧
      (∀ told, result = .invoked told →
        ∃ target payload, (requests actions)[id]? = some (.invoke target payload)) ∧
      ∀ told, result = .dispatched told →
        ∃ i target payload, (requests actions)[id]? = some (.dispatch i target payload) := by
  have reachable : c.Reachable := ⟨_, _, _, _, reached.symm⟩
  have told : c.Told (requests actions) := reached ▸ told_run name transport policy actions
  refine ⟨told.total reachable, told.counted, told.requested.once, ?_⟩
  intro id result filed
  obtain ⟨r, made, own⟩ := told.requested.results _ filed
  refine ⟨(reachable.noted id).1.length_sends, told.placed id, told.answered _ filed, ?_, ?_⟩
  · rintro answer rfl
    cases own with
    | invoked => exact ⟨_, _, made⟩
    | other _ invoked => exact absurd rfl (invoked answer)
  · rintro answer rfl
    cases own with
    | dispatched => exact ⟨_, _, _, made⟩
    | other dispatched => exact absurd rfl (dispatched answer)

/-- Invocations that are replied to, refused by the remote side, claimed by nobody, given up during the
send, and lost with their connection. -/
def mixed : List (Action Scripted) :=
  let step (id : Nat) : List (Action Scripted) := List.replicate 4 (.step (.call id))
  [.addDestination { name := "a", host := "h", port := 1 }, .register 0 [⟨"m", "*", "*"⟩],
      .beginConnect 0, .step (.attempt 0), .request (.invoke ⟨"m", "c", "i"⟩ [1, 2]),
      .request (.invoke ⟨"m", "c", "i"⟩ [3]), .request (.invoke ⟨"n", "c", "i"⟩ [4]),
      .request (.invoke ⟨"m", "c", "i"⟩ [5, 6, 7]), .request (.invoke ⟨"m", "c", "i"⟩ [8])] ++
    step 0 ++ step 1 ++ step 2 ++ step 3 ++ [.abandon 3] ++ step 4

def answering : Scripted where
  sends := [{ reply := [7, 8, 9] }, { failure := some (.application "no") }, { delay := .ofSecs 1 },
    { failure := some (.closed "gone") }]

theorem statistics_account_mixed :
    (((create "client" answering {}).run mixed).destinations.map fun d =>
        Counter.invocations.of d.stats).sum = 2 ∧
      (((create "client" answering {}).run mixed).destinations.map fun d =>
        Counter.bytesSent.of d.stats).sum = 3 ∧
      (((create "client" answering {}).run mixed).destinations.map fun d =>
        Counter.bytesReceived.of d.stats).sum = 3 ∧
      (((create "client" answering {}).run mixed).destinations.map fun d =>
        Counter.dispatchFailures.of d.stats).sum = 1 := by
  obtain ⟨total, _⟩ :=
    statistics_account (rfl : (create "client" answering {}).run mixed = _)
  exact ⟨total .invocations, total .bytesSent, total .bytesReceived, total .dispatchFailures⟩

end Client

end Switchboard
