import Switchboard.Proofs.Transport.Epochs

/-!
The handles that an endpoint lists are those that it closes. A handle is listed from its opening on, as
long as somebody holds it, and only two things strike it off without closing it: a registration anew and a
stop that nobody is told of. A list names handles of its own endpoint only. So an end that is told of
closes every handle that was opened since the last such thing, and no handle of another authority.
-/
namespace Switchboard.InProcess

namespace Action

/-- The endpoint of an authority forgets its handles without closing them. -/
def Forgets (authority : String) : Action → Prop
  | register other _ | stopSilently other => other = authority
  | _ => False

/-- The endpoint of an authority closes its handles. -/
def Severs (authority : String) : Action → Prop
  | stop other | dropConnections other => other = authority
  | _ => False

theorem ends_of_severs {authority : String} {a : Action} (severs : a.Severs authority) :
    a.Ends authority ∧ a.Tells := by
  cases a with
  | stop => exact ⟨severs, trivial⟩
  | dropConnections => exact ⟨severs, trivial⟩
  | _ => exact absurd severs id

end Action

/-! ### Openings -/

/-- Every handle that is listed was listed before, at the same endpoint. -/
def Narrows (t t' : InProcess) : Prop :=
  ∀ authority e', t'.find authority = some e' → ∀ h ∈ e'.live,
    ∃ e, t.find authority = some e ∧ h ∈ e.live

section Openings

variable {authority : String} {h : Handle} {t t' t'' : InProcess}

theorem narrows_same (same : ∀ authority, t'.find authority = t.find authority) : Narrows t t' := by
  intro authority e found h listed
  exact ⟨e, (same authority).symm.trans found, listed⟩

theorem Narrows.trans (first : Narrows t t') (second : Narrows t' t'') : Narrows t t'' := by
  intro authority e'' found'' h listed''
  obtain ⟨e', found', listed'⟩ := second authority e'' found'' h listed''
  exact first authority e' found' h listed'

theorem narrows_set {e' : Endpoint}
    (fewer : ∀ h ∈ e'.live, ∃ e, t.find authority = some e ∧ h ∈ e.live) :
    Narrows t (t.set authority e') := by
  intro other e₁ found h listed
  by_cases same : other = authority
  · subst same
    obtain rfl : e' = e₁ := Option.some.inj ((find_set other e' t).symm.trans found)
    exact fewer h listed
  · exact ⟨e₁, (find_set_of_ne same e' t).symm.trans found, listed⟩

theorem narrows_update (authority : String) {f : Endpoint → Endpoint}
    (fewer : ∀ e, ∀ h ∈ (f e).live, h ∈ e.live) (t : InProcess) :
    Narrows t (t.update authority f) := by
  unfold update
  cases found : t.find authority with
  | none => exact narrows_same fun _ => rfl
  | some e => exact narrows_set fun h listed => ⟨e, found, fewer e h listed⟩

theorem narrows_endEpoch (up : Bool → Bool) (authority : String) (t : InProcess) :
    Narrows t (t.endEpoch up authority) := by
  unfold endEpoch
  cases found : t.find authority with
  | none => exact narrows_same fun _ => rfl
  | some e =>
    have struck : Narrows t (t.set authority { e with up := up e.up, epoch := e.epoch + 1, live := [] }) :=
      narrows_set nofun
    exact struck.trans (narrows_same fun other => find_closeAll e.live _ other)

theorem length_closeAll (hs : List Handle) (t : InProcess) :
    (t.closeAll hs).connections.length = t.connections.length := by
  induction hs generalizing t with
  | nil => rfl
  | cons other hs ih => exact (ih (t.close other)).trans (List.length_modify ..)

theorem length_endEpoch (up : Bool → Bool) (authority : String) (t : InProcess) :
    (t.endEpoch up authority).connections.length = t.connections.length := by
  unfold endEpoch
  cases t.find authority with
  | none => rfl
  | some e => exact length_closeAll e.live _

/-- What asking for a connection comes to. -/
inductive Connected (authority : String) (t : InProcess) :
    InProcess × Except TransportError Handle → Prop
  | failed (failure : TransportError) : Connected authority t (t, .error failure)
  | made {e : Endpoint} {live : List Handle} (found : t.find authority = some e)
      (fewer : ∀ h ∈ live, h ∈ e.live) :
      Connected authority t
        ({ t.set authority { e with live := live ++ [t.connections.length] } with
          connections := t.connections ++ [⟨authority, e.epoch, false, false⟩] },
          .ok t.connections.length)

theorem connect_connected (authority : String) (t : InProcess) :
    Connected authority t (t.connect authority) := by
  unfold connect
  cases found : t.find authority with
  | none => exact .failed _
  | some e =>
    dsimp only
    split
    · exact .failed _
    · exact .made found fun h listed => (List.mem_filter.mp listed).1

/-- An action makes a connection at most, on endpoints that list what they listed before. -/
inductive Acted (a : Action) (t : InProcess) : Prop
  | asked {t₁ : InProcess} {authority : String} (same : t₁.connections = t.connections)
      (narrows : Narrows t t₁) (made : a.act t = (t₁.connect authority).1)
      (opens : ∀ other h, a.Opens other h t ↔
        authority = other ∧ (t₁.connect authority).2 = .ok h)
  | aside (same : (a.act t).connections.length = t.connections.length)
      (narrows : Narrows t (a.act t)) (opens : ∀ other h, ¬ a.Opens other h t)

theorem act_acted (a : Action) (t : InProcess) : Acted a t := by
  cases a with
  | register authority handler =>
    exact .aside rfl (narrows_set fun _ listed => absurd listed List.not_mem_nil) fun _ _ => id
  | start authority =>
    exact .aside (by rw [Action.act, start, connections_update])
      (narrows_update authority (by exact fun _ _ => id) t) fun _ _ => id
  | stop authority =>
    exact .aside (length_endEpoch _ authority t) (narrows_endEpoch _ authority t) fun _ _ => id
  | stopSilently authority =>
    exact .aside (by rw [Action.act, stopSilently, connections_update])
      (narrows_update authority (by exact fun _ _ listed => absurd listed List.not_mem_nil) t) fun _ _ => id
  | dropConnections authority =>
    exact .aside (length_endEpoch _ authority t) (narrows_endEpoch _ authority t) fun _ _ => id
  | setOpenDelay authority delay =>
    exact .aside (by rw [Action.act, setOpenDelay, connections_update])
      (narrows_update authority (by exact fun _ _ => id) t) fun _ _ => id
  | setReplyDelay authority delay =>
    exact .aside (by rw [Action.act, setReplyDelay, connections_update])
      (narrows_update authority (by exact fun _ _ => id) t) fun _ _ => id
  | startOpen now d =>
    cases found : t.find d.authority with
    | none =>
      refine .aside ?_ ?_ ?_ <;> simp [Action.act, Action.Opens, startOpen, found]
      exact narrows_same fun _ => rfl
    | some e =>
      have counted : Narrows t (t.set d.authority { e with openCount := e.openCount + 1 }) :=
        narrows_set fun h listed => ⟨e, found, listed⟩
      cases delayed : e.openDelay.isZero with
      | false =>
        refine .aside ?_ ?_ ?_
        · simp [Action.act, startOpen, found, delayed, set]
        · simpa [Action.act, startOpen, found, delayed] using counted
        · simp [Action.Opens, startOpen, found, delayed]
      | true =>
        refine @Acted.asked _ _ (t.set d.authority { e with openCount := e.openCount + 1 }) d.authority rfl
          counted ?_ ?_
        · simp [Action.act, startOpen, found, delayed]
        · simp [Action.Opens, startOpen, found, delayed]
  | resumeOpen now o =>
    by_cases due : o.due ≤ now
    · refine @Acted.asked _ _ t o.authority rfl (narrows_same fun _ => rfl) ?_ ?_
      · simp [Action.act, resumeOpen, due]
      · simp [Action.Opens, resumeOpen, due]
    · refine .aside ?_ ?_ ?_ <;> simp [Action.act, Action.Opens, resumeOpen, due]
      exact narrows_same fun _ => rfl
  | startSend now h target payload =>
    obtain ⟨connections, endpoints⟩ := startSend_aside now h target payload t
    exact .aside (congrArg List.length connections)
      (narrows_same fun _ => congrArg (List.lookup _) endpoints) fun _ _ => id
  | resumeSend now s =>
    obtain ⟨connections, endpoints⟩ := resumeSend_aside now s t
    exact .aside (congrArg List.length connections)
      (narrows_same fun _ => congrArg (List.lookup _) endpoints) fun _ _ => id
  | close other => exact .aside (List.length_modify ..) (narrows_same fun _ => rfl) fun _ _ => id
  | drop other => exact .aside (List.length_modify ..) (narrows_same fun _ => rfl) fun _ _ => id

theorem connection_none_iff : t.connection h = none ↔ t.connections.length ≤ h :=
  List.getElem?_eq_none_iff

/-- An action opens a handle exactly if the connection of the handle is new. -/
theorem opens_iff (a : Action) (authority : String) (h : Handle) (t : InProcess) :
    a.Opens authority h t ↔ t.connection h = none ∧
      ∃ c, (a.act t).connection h = some c ∧ c.authority = authority := by
  cases act_acted a t with
  | aside same _ opens =>
    refine ⟨fun opened => absurd opened (opens authority h), ?_⟩
    rintro ⟨absent, c, there, -⟩
    have beyond := connection_none_iff.mp absent
    rw [← same] at beyond
    exact absurd (connection_none_iff.mpr beyond) (by simp [there])
  | @asked t₁ asked same _ made opens =>
    have connected := connect_connected asked t₁
    rw [opens, made, connection_none_iff]
    generalize t₁.connect asked = r at connected
    cases connected with
    | failed failure =>
      refine ⟨fun opened => absurd opened.2 (by simp), ?_⟩
      rintro ⟨beyond, c, there, -⟩
      rw [← same] at beyond
      exact absurd (connection_none_iff.mpr beyond) (by simp [there])
    | @made e live found fewer =>
      constructor
      · rintro ⟨rfl, opened⟩
        obtain rfl : t₁.connections.length = h := by simpa using opened
        exact ⟨Nat.le_of_eq (congrArg List.length same).symm, _, List.getElem?_concat_length, rfl⟩
      · rintro ⟨beyond, c, there, rfl⟩
        have within := (List.getElem?_eq_some_iff.mp there).1
        rw [List.length_append, List.length_singleton, same] at within
        obtain rfl : h = t₁.connections.length :=
          (Nat.le_antisymm (Nat.lt_succ_iff.mp within) beyond).trans (congrArg List.length same).symm
        obtain rfl : ⟨asked, e.epoch, false, false⟩ = c :=
          Option.some.inj (List.getElem?_concat_length.symm.trans there)
        exact ⟨rfl, rfl⟩

end Openings

/-! ### Handles of an endpoint -/

/-- Every listed handle leads to the endpoint that lists it. -/
def Homed (t : InProcess) : Prop :=
  ∀ authority e, t.find authority = some e → ∀ h ∈ e.live,
    ∃ c, t.connection h = some c ∧ c.authority = authority

section Homed

variable {t t' : InProcess}

theorem Homed.of_narrows (homed : Homed t) (narrows : Narrows t t')
    (kept : ∀ h c, t.connection h = some c →
      ∃ c', t'.connection h = some c' ∧ c'.authority = c.authority) :
    Homed t' := by
  intro authority e' found' h listed'
  obtain ⟨e, found, listed⟩ := narrows authority e' found' h listed'
  obtain ⟨c, there, ofEndpoint⟩ := homed authority e found h listed
  obtain ⟨c', there', same⟩ := kept h c there
  exact ⟨c', there', same.trans ofEndpoint⟩

theorem authority_act (a : Action) {h : Handle} {c : Connection} (there : t.connection h = some c) :
    ∃ c', (a.act t).connection h = some c' ∧ c'.authority = c.authority := by
  by_cases held : a = .drop h
  · subst held
    refine ⟨{ c with dropped := true }, ?_, rfl⟩
    rw [connection] at there
    rw [Action.act, connection, drop, List.getElem?_modify, there]
    simp
  · obtain ⟨c', there', same, -⟩ := persists_act a held t c there
    exact ⟨c', there', same⟩

theorem Homed.connect (homed : Homed t) (authority : String) : Homed (t.connect authority).1 := by
  have connected := connect_connected authority t
  generalize t.connect authority = r at connected
  cases connected with
  | failed => exact homed
  | @made e live found fewer =>
    have older {h : Handle} {c : Connection} (there : t.connection h = some c) :
        (t.connections ++ [⟨authority, e.epoch, false, false⟩])[h]? = some c :=
      (List.getElem?_append_left (List.getElem?_eq_some_iff.mp there).1).trans there
    intro other e' found' h listed
    by_cases same : other = authority
    · subst same
      obtain rfl := Option.some.inj ((find_set other _ t).symm.trans found')
      rcases List.mem_append.mp listed with old | new
      · obtain ⟨c, there, ofEndpoint⟩ := homed other e found h (fewer h old)
        exact ⟨c, older there, ofEndpoint⟩
      · obtain rfl := List.mem_singleton.mp new
        exact ⟨_, List.getElem?_concat_length, rfl⟩
    · obtain ⟨c, there, ofEndpoint⟩ :=
        homed other e' ((find_set_of_ne same _ t).symm.trans found') h listed
      exact ⟨c, older there, ofEndpoint⟩

theorem Homed.act (homed : Homed t) (a : Action) : Homed (a.act t) := by
  cases act_acted a t with
  | aside _ narrows _ => exact homed.of_narrows narrows fun h c there => authority_act a there
  | @asked t₁ authority same narrows made _ =>
    have before : Homed t₁ := by
      refine homed.of_narrows narrows fun h c there => ⟨c, ?_, rfl⟩
      rw [connection, same]
      exact there
    rw [made]
    exact before.connect authority

theorem homed_run (actions : List Action) : Homed (run actions {}) := by
  have kept (t : InProcess) (homed : Homed t) : Homed (run actions t) := by
    induction actions generalizing t with
    | nil => exact homed
    | cons a actions ih => exact ih (a.act t) (homed.act a)
  exact kept {} nofun

theorem connection_closeAll_of_not_mem {hs : List Handle} {h : Handle} (unlisted : h ∉ hs)
    (t : InProcess) : (t.closeAll hs).connection h = t.connection h := by
  induction hs generalizing t with
  | nil => rfl
  | cons other hs ih =>
    rw [List.mem_cons, not_or] at unlisted
    refine (ih unlisted.2 (t.close other)).trans ?_
    rw [connection, connection, close, List.getElem?_modify]
    simp [Ne.symm unlisted.1]

/-- An end closes no handle of another authority. -/
theorem Homed.elsewhere (homed : Homed t) {a : Action} {authority : String}
    (severs : a.Severs authority) {h : Handle} {c : Connection} (there : t.connection h = some c)
    (other : c.authority ≠ authority) : (a.act t).connection h = some c := by
  have told (up : Bool → Bool) : (t.endEpoch up authority).connection h = some c := by
    unfold endEpoch
    cases found : t.find authority with
    | none => exact there
    | some e =>
      have unlisted : h ∉ e.live := by
        intro listed
        obtain ⟨c', there', ofEndpoint⟩ := homed authority e found h listed
        obtain rfl : c = c' := Option.some.inj (there.symm.trans there')
        exact other ofEndpoint
      exact (connection_closeAll_of_not_mem unlisted _).trans there
  cases a with
  | stop =>
    cases severs
    exact told _
  | dropConnections =>
    cases severs
    exact told _
  | _ => exact absurd severs id

end Homed

/-! ### Handles that are listed -/

/-- A handle that leads to the endpoint of an authority is listed there, or it is closed. -/
def Listed (authority : String) (h : Handle) (t : InProcess) : Prop :=
  ∀ c, t.connection h = some c → c.authority = authority →
    Attached authority h t ∨ Shut authority h t

section Listed

variable {authority : String} {h : Handle} {t : InProcess}

theorem listed_absent (absent : t.connection h = none) : Listed authority h t := by
  intro c there
  exact absurd (absent.symm.trans there) (by simp)

/-- What does not forget its handles keeps them listed, through openings, closes and ends. -/
theorem Listed.act (listed : Listed authority h t) (a : Action) (remembered : ¬ a.Forgets authority)
    (held : a ≠ .drop h) : Listed authority h (a.act t) := by
  intro c' there' ofEndpoint'
  cases there : t.connection h with
  | none =>
    have opened := (opens_iff a authority h t).mpr ⟨there, c', there', ofEndpoint'⟩
    exact .inl (attached_opened opened)
  | some c =>
    obtain ⟨c₁, there₁, same, -⟩ := persists_act a held t c there
    obtain rfl : c' = c₁ := Option.some.inj (there'.symm.trans there₁)
    rcases listed c there (same.symm.trans ofEndpoint') with attached | shut
    · by_cases ends : a.Ends authority
      · have tells : a.Tells := by
          cases a with
          | stopSilently other => exact absurd ends remembered
          | _ => trivial
        exact .inr ((attached.ended ends).2 tells)
      · have unregistered : ¬ a.Registers authority := by
          cases a with
          | register other handler => exact remembered
          | _ => exact id
        exact .inl (attached.act a unregistered ends held)
    · have still : Shut authority h (run [a] t) := shut.run (by simpa using Ne.symm held)
      exact .inr still

theorem Listed.run (listed : Listed authority h t) {actions : List Action}
    (remembered : ∀ a ∈ actions, ¬ a.Forgets authority) (held : Action.drop h ∉ actions) :
    Listed authority h (run actions t) := by
  induction actions generalizing t with
  | nil => exact listed
  | cons a actions ih =>
    rw [List.mem_cons, not_or] at held
    exact ih (listed.act a (remembered a List.mem_cons_self) (Ne.symm held.1))
      (fun other later => remembered other (List.mem_cons_of_mem a later)) held.2

/-- An end that is told of closes a listed handle. -/
theorem Listed.severed (listed : Listed authority h t) {c : Connection}
    (there : t.connection h = some c) (ofEndpoint : c.authority = authority) {a : Action}
    (severs : a.Severs authority) : Shut authority h (a.act t) := by
  obtain ⟨ends, tells⟩ := Action.ends_of_severs severs
  rcases listed c there ofEndpoint with attached | shut
  · exact (attached.ended ends).2 tells
  · have held : Action.drop h ∉ [a] := by
      rw [List.mem_singleton]
      rintro rfl
      exact severs
    exact shut.run held

theorem Shut.isClosed (shut : Shut authority h t) : t.isClosed h = true := by
  obtain ⟨c, there, -, closed⟩ := shut
  rw [InProcess.isClosed, there, Option.any_some, closed]

end Listed

end Switchboard.InProcess
