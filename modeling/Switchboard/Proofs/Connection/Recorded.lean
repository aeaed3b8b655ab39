import Switchboard.Proofs.Client.Outcomes
import Switchboard.Proofs.Connection.Watchers

/-!
What a client's journal says of its transport is what happened. Over a transport that records what it is
asked to begin and to close, the record and the journal have the same entries in the same order, as long
as no user goes past the client to the transport.
-/
namespace Switchboard

/-- A transport with a record of what it was asked to begin and to close, the last first. It answers as
the transport whose calls it records. -/
structure Recording (T : Type) where
  transport : T
  record : List Demand := []

section

variable {T : Type} [Transport T]

instance : Transport (Recording T) where
  Opening := Transport.Opening T
  Sending := Transport.Sending T
  startOpen now d t :=
    let (transport, p) := Transport.startOpen now d t.transport
    (⟨transport, .opening d :: t.record⟩, p)
  resumeOpen now o t :=
    let (transport, p) := Transport.resumeOpen now o t.transport
    ({ t with transport := transport }, p)
  openReady now o t := Transport.openReady now o t.transport
  openDue := Transport.openDue (T := T)
  startSend now h target payload t :=
    let (transport, p) := Transport.startSend now h target payload t.transport
    (⟨transport, .sending h :: t.record⟩, p)
  resumeSend now s t :=
    let (transport, p) := Transport.resumeSend now s t.transport
    ({ t with transport := transport }, p)
  sendReady now s t := Transport.sendReady now s t.transport
  sendDue := Transport.sendDue (T := T)
  abandonSend s t := { t with transport := Transport.abandonSend s t.transport }
  close h t := ⟨Transport.close h t.transport, .closing h :: t.record⟩
  isClosed h t := Transport.isClosed h t.transport

/-- What an entry of the journal stands for. -/
inductive Terms.Stands (k : Terms) : Client.Event → Demand → Prop
  | opening {i a d} (own : k.descriptor i = some d) : k.Stands (.openStarted i a) (.opening d)
  | sending {call i h} : k.Stands (.sendStarted call i h) (.sending h)
  | closing {i h} : k.Stands (.closed i h) (.closing h)

/-- The entries of a journal about the transport stand for the entries of a record, one by one. -/
def Terms.Records (k : Terms) (record : List Demand) (journal : List Client.Event) : Prop :=
  List.Forall₂ k.Stands (journal.filter (·.isDemand)) record

theorem Terms.Records.mono {k k' : Terms} {record : List Demand} {journal : List Client.Event}
    (records : k.Records record journal)
    (kept : ∀ i d, k.descriptor i = some d → k'.descriptor i = some d) :
    k'.Records record journal := by
  refine List.Forall₂.imp ?_ records
  intro e demand stands
  cases stands with
  | opening own => exact .opening (kept _ _ own)
  | sending => exact .sending
  | closing => exact .closing

theorem Deal.records {k : Terms} (unasked : ¬k.users) {before after : Recording T × List Client.Event}
    (deal : Deal k before after) (records : k.Records before.1.record before.2) :
    k.Records after.1.record after.2 := by
  cases deal with
  | opened now a own => exact .cons (.opening own) records
  | sent => exact .cons .sending records
  | closed => exact .cons .closing records
  | reopened => exact records
  | resent => exact records
  | abandoned => exact records
  | noted aside => simpa [Terms.Records, aside] using records
  | unnoted allowed => exact absurd allowed unasked

theorem Deals.records {k : Terms} (unasked : ¬k.users) {before after : Recording T × List Client.Event}
    (deals : Deals k before after) (records : k.Records before.1.record before.2) :
    k.Records after.1.record after.2 := by
  induction deals with
  | refl => exact records
  | tail _ last ih => exact last.records unasked ih

end

namespace Client

variable {T : Type} [Transport T]

/-- None of the calls under way goes past the destinations. -/
def Undirected (c : Client T) : Prop :=
  ∀ id call, c.calls.lookup id = some call → call.isDirect = false

/-- A call stays of the kind that it was made as. -/
theorem Advanced.isDirect {id : Nat} {c c₁ : Client T} {call next : Call T}
    (advanced : Advanced id c call (c₁, .waiting next)) : next.isDirect = call.isDirect := by
  cases advanced <;> rfl

theorem Undirected.act {c : Client T} (undirected : c.Undirected) (numbered : c.Numbered) {a : Action T}
    (own : ∀ r, a = .request r → (r.call : Call T).isDirect = false) : (c.act a).Undirected := by
  intro id call calling
  have step := callStep_act numbered id a
  generalize c.act a = c' at step calling
  cases step with
  | kept kept => exact undirected id call (kept.call ▸ calling)
  | made r new asked =>
    rw [lookup_startCall, if_pos new] at calling
    cases made : c.calls.lookup id with
    | none =>
      rw [made, Option.none_or] at calling
      exact Option.some.inj calling ▸ own r asked
    | some earlier =>
      rw [made, Option.some_or] at calling
      exact Option.some.inj calling ▸ undirected id earlier made
  | @advanced call₀ _ made =>
    have stepped := stepCall_stepped c id call₀
    generalize c.stepCall id call₀ = c' at stepped calling
    cases stepped with
    | @goesOn c₁ next advanced moves =>
      have kind : next.isDirect = call₀.isDirect :=
        Advanced.isDirect (advanced ▸ advance_advanced c id call₀)
      rw [lookup_replaceCall, if_pos rfl, (Aloof.of_moves moves).calls, made] at calling
      exact Option.some.inj calling ▸ kind.trans (undirected id call₀ made)
    | ends =>
      rw [lookup_endCall, if_pos rfl] at calling
      cases calling
  | abandoned =>
    rw [lookup_abandonCall] at calling
    cases calling

/-- A destination stays described as it was when it was added. -/
theorem descriptor_act {c : Client T} (numbered : c.Numbered) {users : Prop} (a : Action T) {i : Nat}
    {d : Descriptor} (described : (c.terms users).descriptor i = some d) :
    ((c.act a).terms users).descriptor i = some d := by
  obtain ⟨held, found, rfl⟩ := Option.map_eq_some_iff.mp described
  obtain ⟨l, there, steps⟩ := (ledger_act numbered a i).2 _ (ledger_of_found found)
  obtain ⟨after, found', rfl⟩ := Option.map_eq_some_iff.mp there
  exact (terms_of_found found').trans (congrArg some steps.descriptor)

/-- An action that neither goes past the client to its transport nor tampers with the record. -/
def Action.Through : Action (Recording T) → Prop
  | .request r => (r.call : Call (Recording T)).isDirect = false
  | .transport f => ∀ t, (f t).record = t.record
  | _ => True

/-- The journal of a client stands for the record of its transport. -/
def Recounts (c : Client (Recording T)) : Prop :=
  (c.terms False).Records c.transport.record c.journal

theorem Recounts.act {c : Client (Recording T)} (recounts : c.Recounts) (numbered : c.Numbered)
    (undirected : c.Undirected) {a : Action (Recording T)} (through : a.Through) : (c.act a).Recounts := by
  refine Terms.Records.mono (k := c.terms False) ?_ fun i d => descriptor_act numbered a
  by_cases own : ∀ f, a ≠ .transport f
  · have unasked id call (calling : c.calls.lookup id = some call) : call.isDirect → False := by
      simp [undirected id call calling]
    exact (deals_act unasked own).2.records id recounts
  · obtain ⟨f, rfl⟩ := by simpa using own
    rw [Recounts, ← through c.transport] at recounts
    exact recounts

/-- Over a transport that records what it is asked for, every `openStarted`, `sendStarted` and `closed` in
the journal is a call of `startOpen`, `startSend` or `close`, with that destination's descriptor or that
handle, and there is no such call that the journal does not have, as long as nobody goes past the client. -/
theorem journal_recorded (name : String) (transport : T) (policy : Reconnect.Policy)
    {actions : List (Action (Recording T))} (through : ∀ a ∈ actions, a.Through) :
    ((create name ⟨transport, []⟩ policy).run actions).Recounts := by
  suffices all : ∀ c : Client (Recording T), c.Numbered → c.Undirected → c.Recounts →
      (c.run actions).Recounts by
    have new : (create name (⟨transport, []⟩ : Recording T) policy).Reachable :=
      ⟨name, _, policy, [], rfl⟩
    exact all _ new.numbered (fun id call calling => by cases calling) .nil
  induction actions with
  | nil => exact fun c _ _ recounts => recounts
  | cons a rest ih =>
    intro c numbered undirected recounts
    have first : a.Through := through a List.mem_cons_self
    refine ih (fun b later => through b (List.mem_cons_of_mem _ later)) _ (numbered.act a)
      (undirected.act numbered ?_) (recounts.act numbered undirected first)
    rintro r rfl
    exact first

end Client

end Switchboard
