import Switchboard.Proofs.Client.Acted

/-!
Ledgers along a run. A run of a client, whatever it does to other destinations, calls and receivers
in between, is a sequence of steps of the ledger of each destination, so that a property of every
destination in every client that can be reached is an invariant of `Ledger.Step`.
-/
namespace Switchboard

namespace Client

variable {T : Type} [Transport T]

/-! ### Numbers of attempts and destinations -/

/-- What begins no attempt, adds no destination and notes nothing but of those that are there. -/
theorem Numbered.shrink {c c' : Client T} (numbered : c.Numbered) (new : List Event)
    (attempts : c'.underWay.Sublist c.underWay) (next : c'.nextAttempt = c.nextAttempt)
    (length : c'.destinations.length = c.destinations.length)
    (journal : c'.journal = new ++ c.journal)
    (placed : ∀ e ∈ new, ∀ i, e.concerns? = some i → i < c.destinations.length) :
    c'.Numbered where
  distinct := numbered.distinct.sublist (attempts.map _)
  fresh := by
    intro p hp
    rw [next]
    exact numbered.fresh p (attempts.subset hp)
  placed := by
    intro p hp
    rw [length]
    exact numbered.placed p (attempts.subset hp)
  noted := by
    intro e he i concerned
    rw [length]
    rw [journal, List.mem_append] at he
    rcases he with now | before
    · exact placed e now i concerned
    · exact numbered.noted e before i concerned

theorem length_of_found {c : Client T} {i : Nat} {d : Destination}
    (found : c.destinations[i]? = some d) :
    i < c.destinations.length :=
  (List.getElem?_eq_some_iff.mp found).1

theorem Numbered.attemptBegun {c : Client T} (numbered : c.Numbered) {i : Nat} {d : Destination}
    (found : c.destinations[i]? = some d) : (c.attemptBegun i d).Numbered where
  distinct := by
    rw [underWay_attemptBegun, List.map_append, List.nodup_append]
    refine ⟨numbered.distinct, by simp, ?_⟩
    intro id hid id' hid'
    obtain ⟨p, hp, rfl⟩ := List.mem_map.mp hid
    rw [List.map_singleton, List.mem_singleton] at hid'
    subst hid'
    exact Nat.ne_of_lt (numbered.fresh p hp)
  fresh := by
    intro p hp
    rw [underWay_attemptBegun, List.mem_append, List.mem_singleton] at hp
    rcases hp with old | rfl
    · exact Nat.lt_succ_of_lt (numbered.fresh p old)
    · exact Nat.lt_succ_self _
  placed := by
    intro p hp
    rw [underWay_attemptBegun, List.mem_append, List.mem_singleton] at hp
    rw [destinations_attemptBegun, List.length_set]
    rcases hp with old | rfl
    · exact numbered.placed p old
    · exact length_of_found found
  noted := by
    intro e he i concerned
    rw [destinations_attemptBegun, List.length_set]
    exact numbered.noted e he i concerned

theorem Numbered.move {k : Option Nat} {c c' : Client T} (numbered : c.Numbered) (m : Move k c c') :
    c'.Numbered := by
  cases m with
  | aside alike =>
    apply numbered.shrink []
    · rw [alike.underWay]
    · exact alike.nextAttempt
    · rw [alike.destinations]
    · exact alike.journal
    · simp
  | @noted _ _ e own =>
    refine numbered.shrink [e] (List.Sublist.refl _) rfl rfl rfl ?_
    cases e <;> cases own <;> simp
  | opened => exact numbered.shrink [_] (List.Sublist.refl _) rfl rfl rfl (by simp)
  | waits => exact numbered.shrink [] (by rw [underWay_attemptWaits]) rfl rfl rfl (by simp)
  | begun found => exact numbered.attemptBegun found
  | failed =>
    apply numbered.shrink []
    · rw [underWay_endAttempt]
      exact List.filter_sublist
    · rfl
    · simp [setDestination]
    · rfl
    · simp
  | @published _ a d h found =>
    refine numbered.shrink [_, _] ?_ rfl ?_ (journal_handlePublished c a h d) ?_
    · rw [underWay_handlePublished]
      exact List.filter_sublist
    · simp
    · simp [length_of_found found]
  | @discarded _ a d h found =>
    refine numbered.shrink [_, _] ?_ rfl ?_ (journal_handleDiscarded c a h d) ?_
    · rw [underWay_handleDiscarded]
      exact List.filter_sublist
    · simp
    · simp [length_of_found found]
  | revoked found =>
    refine numbered.shrink _ (List.Sublist.refl _) rfl ?_ (journal_releaseLost _ _ _) ?_
    · simp [setDestination]
    · simp [length_of_found found]
  | @tornDown _ _ j d found =>
    refine numbered.shrink _ ?_ ?_ ?_ (journal_release _ _ _) ?_
    · simp
    · cases d.disconnect.2 <;> rfl
    · simp [setDestination]
    · simp [length_of_found found]
  | retired =>
    exact numbered.shrink [] (List.Sublist.refl _) rfl (by simp [setDestination]) rfl
      (by simp)
  | counted =>
    exact numbered.shrink [] (List.Sublist.refl _) rfl (by simp [setDestination]) rfl
      (by simp)

theorem Numbered.moves {k : Option Nat} {c c' : Client T} (numbered : c.Numbered)
    (m : Moves k c c') :
    c'.Numbered := by
  induction m with
  | refl => exact numbered
  | tail _ last ih => exact ih.move last

/-- The ledger of a destination that is there takes steps of its own; a run of moves adds none. -/
theorem ledger_moves {k : Option Nat} {c c' : Client T} (m : Moves k c c') (numbered : c.Numbered)
    (i : Nat) :
    (c.ledger i = none → c'.ledger i = none) ∧
      ∀ l, c.ledger i = some l → ∃ l', c'.ledger i = some l' ∧ Ledger.Steps l l' := by
  induction m with
  | refl => exact ⟨id, fun l held => ⟨l, held, .refl⟩⟩
  | tail first last ih =>
    rcases ledger_move last (numbered.moves first) i with same | ⟨l₁, l₂, held₁, held₂, step⟩
    · rw [same]
      exact ih
    · constructor
      · intro none
        rw [ih.1 none] at held₁
        cases held₁
      · intro l held
        obtain ⟨l', held', steps⟩ := ih.2 l held
        obtain rfl : l' = l₁ := by simpa [held'] using held₁
        exact ⟨l₂, held₂, steps.tail step⟩

/-! ### Actions -/

/-- What an action comes to: moves and then what no destination notices, or a new destination. -/
inductive Changed (c : Client T) : Client T → Prop
  | moved {k c₁ c'} (moves : Moves k c c₁) (unmoved : Unmoved c₁ c') : Changed c c'
  | added {d c'}
      (destinations : c'.destinations = c.destinations ++ [{ descriptor := d, created := c.now }])
      (underWay : c'.underWay = c.underWay) (nextAttempt : c'.nextAttempt = c.nextAttempt)
      (outcomes : c'.outcomes = c.outcomes) (journal : c'.journal = c.journal) : Changed c c'

theorem Unmoved.refl (c : Client T) : Unmoved c c := ⟨rfl, rfl, rfl, rfl, rfl⟩

theorem Unmoved.changed {c c' : Client T} (unmoved : Unmoved c c') : Changed c c' :=
  .moved (k := none) .refl unmoved

theorem unmoved_abandonCall (c : Client T) (id : Nat) : Unmoved c (c.abandonCall id) := by
  unfold abandonCall
  cases c.calls.lookup id with
  | none => exact .refl c
  | some call =>
    dsimp only
    cases call.sending? <;> exact ⟨rfl, rfl, rfl, rfl, rfl⟩

theorem changed_stepCall (c : Client T) (id : Nat) (call : Call T) :
    Changed c (c.stepCall id call) := by
  have moves := moves_advance c id call
  unfold stepCall
  generalize c.advance id call = r at moves ⊢
  obtain ⟨c₁, call | result⟩ := r <;> exact .moved moves ⟨rfl, rfl, rfl, rfl, rfl⟩

theorem Acted.changed {c c' : Client T} {a : Action T} (acted : Acted c a c') : Changed c c' := by
  cases acted with
  | moved moves => exact .moved (moves none) (.refl c')
  | attempted running moves => exact .moved moves (.refl _)
  | called => exact changed_stepCall c _ _
  | requested => exact Unmoved.changed ⟨rfl, rfl, rfl, rfl, rfl⟩
  | abandoned => exact (unmoved_abandonCall c _).changed
  | added => exact .added rfl rfl rfl rfl rfl
  | removed => exact Unmoved.changed ⟨rfl, rfl, rfl, rfl, rfl⟩
  | registered => exact Unmoved.changed ⟨rfl, rfl, rfl, rfl, rfl⟩
  | unregistered => exact Unmoved.changed ⟨rfl, rfl, rfl, rfl, rfl⟩

theorem changed_act {c : Client T} (numbered : c.Numbered) (a : Action T) : Changed c (c.act a) :=
  (acted_act numbered a).changed

theorem Numbered.unmoved {c c' : Client T} (numbered : c.Numbered) (unmoved : Unmoved c c') :
    c'.Numbered := by
  apply numbered.shrink []
  · rw [unmoved.underWay]
  · exact unmoved.nextAttempt
  · rw [unmoved.destinations]
  · exact unmoved.journal
  · simp

theorem Numbered.act {c : Client T} (numbered : c.Numbered) (a : Action T) :
    (c.act a).Numbered := by
  have changed := changed_act numbered a
  generalize c.act a = c' at changed
  cases changed with
  | moved moves unmoved => exact (numbered.moves moves).unmoved unmoved
  | added destinations underWay nextAttempt outcomes journal =>
    constructor
    · rw [underWay]
      exact numbered.distinct
    · rw [underWay, nextAttempt]
      exact numbered.fresh
    · rw [underWay, destinations, List.length_append]
      exact fun p hp => Nat.lt_add_right _ (numbered.placed p hp)
    · rw [journal, destinations, List.length_append]
      exact fun e he i concerned => Nat.lt_add_right _ (numbered.noted e he i concerned)

theorem Reachable.numbered {c : Client T} (reachable : c.Reachable) : c.Numbered := by
  refine reachable.induction ?_ fun c a numbered => numbered.act a
  intro name transport policy
  constructor <;> simp [create, underWay]

/-- The ledger of a destination that has just been added. -/
def Ledger.blank (d : Descriptor) (created : Instant) : Ledger where
  destination := { descriptor := d, created := created }

/-- Nothing has been noted of a destination that is not there yet. -/
theorem Numbered.blank {c : Client T} (numbered : c.Numbered) :
    c.attemptsOf c.destinations.length = [] ∧ c.publications c.destinations.length = [] ∧
      c.deliveries c.destinations.length = [] ∧ c.closures c.destinations.length = [] := by
  have unnoted (e : Event) (he : e ∈ c.journal) : e.concerns? ≠ some c.destinations.length :=
    fun concerned => Nat.lt_irrefl _ (numbered.noted e he _ concerned)
  refine ⟨?_, ?_, ?_, ?_⟩
  · rw [attemptsOf, List.map_eq_nil_iff, List.filter_eq_nil_iff]
    intro p hp
    simpa using Nat.ne_of_lt (numbered.placed p hp)
  all_goals
    simp only [publications, deliveries, closures, List.filterMap_eq_nil_iff]
    intro e he
    have := unnoted e he
    cases e <;> simp_all

theorem ledger_act {c : Client T} (numbered : c.Numbered) (a : Action T) (i : Nat) :
    (c.ledger i = none → (c.act a).ledger i = none ∨
      ∃ d, (c.act a).ledger i = some (Ledger.blank d c.now)) ∧
      ∀ l, c.ledger i = some l → ∃ l', (c.act a).ledger i = some l' ∧ Ledger.Steps l l' := by
  have changed := changed_act numbered a
  generalize c.act a = c' at changed
  cases changed with
  | moved moves unmoved =>
    rw [ledger_unmoved unmoved]
    have moved := ledger_moves moves numbered i
    exact ⟨fun none => .inl (moved.1 none), moved.2⟩
  | @added d _ destinations underWay nextAttempt outcomes journal =>
    have same (there : c'.destinations[i]? = c.destinations[i]?) : c'.ledger i = c.ledger i := by
      apply ledger_congr there
      · simp only [attemptsOf, underWay]
      · simp only [publications, journal]
      · simp only [deliveries, journal]
      · simp only [closures, journal]
    rcases Nat.lt_trichotomy i c.destinations.length with before | rfl | after
    · have there : c'.destinations[i]? = c.destinations[i]? := by
        rw [destinations, List.getElem?_append_left before]
      rw [same there]
      exact ⟨.inl, fun l held => ⟨l, held, .refl⟩⟩
    · constructor
      · intro _
        right
        refine ⟨d, ?_⟩
        -- No event is about a number that was not given out, so there is nothing on the ledger.
        obtain ⟨noAttempts, noPublications, noDeliveries, noClosures⟩ := numbered.blank
        have new : c'.destinations[c.destinations.length]? =
            some { descriptor := d, created := c.now } := by
          simp [destinations]
        rw [ledger_of_found new]
        simp only [attemptsOf, publications, deliveries, closures] at *
        simp [underWay, journal, noAttempts, noPublications, noDeliveries, noClosures, Ledger.blank]
      · intro l held
        simp [ledger] at held
    · have there : c'.destinations[i]? = c.destinations[i]? := by
        rw [destinations, List.getElem?_eq_none (by simp; omega), List.getElem?_eq_none (by omega)]
      rw [same there]
      exact ⟨.inl, fun l held => ⟨l, held, .refl⟩⟩

/-- A client whose ledgers all have a property. -/
structure Every (P : Ledger → Prop) (c : Client T) : Prop where
  numbered : c.Numbered
  holds : ∀ i l, c.ledger i = some l → P l

section Every

variable {P : Ledger → Prop}

theorem Every.mono {Q : Ledger → Prop} {c : Client T} (every : c.Every P) (weaker : ∀ l, P l → Q l) :
    c.Every Q :=
  ⟨every.numbered, fun i l held => weaker l (every.holds i l held)⟩

theorem Every.unmoved {c c' : Client T} (every : c.Every P) (unmoved : Unmoved c c') : c'.Every P := by
  refine ⟨every.numbered.unmoved unmoved, ?_⟩
  intro i l held
  rw [ledger_unmoved unmoved] at held
  exact every.holds i l held

/-- What a new ledger satisfies and every step keeps is kept by every action. -/
theorem Every.act (blank : ∀ d created, P (Ledger.blank d created))
    (kept : ∀ l l', P l → Ledger.Step l l' → P l') {c : Client T} (every : c.Every P)
    (a : Action T) : (c.act a).Every P := by
  have keptAll (l l' : Ledger) (steps : Ledger.Steps l l') (p : P l) : P l' := by
    induction steps with
    | refl => exact p
    | tail _ last ih => exact kept _ _ ih last
  refine ⟨every.numbered.act a, ?_⟩
  intro i l held
  obtain ⟨new, old⟩ := ledger_act every.numbered a i
  cases before : c.ledger i with
  | none =>
    rcases new before with none | ⟨d, same⟩
    · rw [none] at held
      cases held
    · rw [same] at held
      cases held
      exact blank d c.now
  | some l₀ =>
    obtain ⟨l', held', steps⟩ := old l₀ before
    rw [held'] at held
    cases held
    exact keptAll l₀ _ steps (every.holds i l₀ before)

theorem Every.run (blank : ∀ d created, P (Ledger.blank d created))
    (kept : ∀ l l', P l → Ledger.Step l l' → P l') {c : Client T} (every : c.Every P)
    (actions : List (Action T)) : (c.run actions).Every P := by
  induction actions generalizing c with
  | nil => exact every
  | cons a rest ih => exact ih (every.act blank kept a)

theorem every_create (name : String) (transport : T) (policy : Reconnect.Policy) :
    (create name transport policy).Every P := by
  have new : (create name transport policy).Reachable := ⟨name, transport, policy, [], rfl⟩
  exact ⟨new.numbered, by simp [Client.ledger, create]⟩

/-- It holds of every destination of every client that can be reached. -/
theorem Reachable.every (blank : ∀ d created, P (Ledger.blank d created))
    (kept : ∀ l l', P l → Ledger.Step l l' → P l') {c : Client T} (reachable : c.Reachable) :
    c.Every P :=
  reachable.induction every_create fun _ a every => every.act blank kept a

theorem Reachable.ledger (blank : ∀ d created, P (Ledger.blank d created))
    (kept : ∀ l l', P l → Ledger.Step l l' → P l') {c : Client T} (reachable : c.Reachable) {i : Nat}
    {l : Ledger} (held : c.ledger i = some l) : P l :=
  (reachable.every blank kept).holds i l held

end Every

/-- A destination that is there stays there, and a run is a sequence of steps for it. -/
theorem ledger_run {c : Client T} (numbered : c.Numbered) {i : Nat} {l : Ledger}
    (held : c.ledger i = some l) (actions : List (Action T)) :
    ∃ l', (c.run actions).ledger i = some l' ∧ Ledger.Steps l l' := by
  induction actions generalizing c l with
  | nil => exact ⟨l, held, .refl⟩
  | cons a rest ih =>
    obtain ⟨l₁, held₁, steps₁⟩ := (ledger_act numbered a i).2 l held
    obtain ⟨l', held', steps⟩ := ih (numbered.act a) held₁
    exact ⟨l', held', steps₁.trans steps⟩

end Client

end Switchboard
