import Switchboard.Proofs.Tcp.Pings

/-!
What the parties of a connection leave to each other. A send has nothing to do with the reader and the
heartbeat, except that it may take a place in the table and then the one who had it is told.
-/
namespace Switchboard.Tcp.Connection

open Text (Bytes)

/-- Nothing was read, and nothing came in. -/
structure Unread (c c' : Connection) : Prop where
  limit : c'.limit = c.limit
  closed : c.closed = true → c'.closed = true
  incoming : c'.incoming = c.incoming
  taken : c'.taken = c.taken
  readerRuns : c'.readerRuns = c.readerRuns

/-- The heartbeat did nothing either. It may have been told that it lost its place. -/
structure Beside (c c' : Connection) : Prop extends Unread c c' where
  heartbeat : c'.heartbeat.map Heartbeat.untold = c.heartbeat.map Heartbeat.untold
  kept : ∀ h, c.heartbeat = some h → h.reply ≠ .awaited → c'.heartbeat = some h
  pingIds : c'.pingIds = c.pingIds

section

variable {c c' c'' : Connection}

theorem Informed.beside (informed : Informed c c') : Beside c c' where
  limit := informed.limit
  closed := informed.closed
  incoming := informed.incoming
  taken := informed.taken
  readerRuns := informed.readerRuns
  heartbeat := informed.heartbeat
  kept := informed.kept
  pingIds := by rw [Connection.pingIds, informed.queued, Connection.pingIds]

theorem Informed.unread (informed : Informed c c') : Unread c c' := informed.beside.toUnread

theorem Unread.refl (c : Connection) : Unread c c := (Informed.refl c).unread

theorem Unread.trans (first : Unread c c') (second : Unread c' c'') : Unread c c'' where
  limit := second.limit.trans first.limit
  closed := second.closed ∘ first.closed
  incoming := second.incoming.trans first.incoming
  taken := second.taken.trans first.taken
  readerRuns := second.readerRuns.trans first.readerRuns

theorem Beside.refl (c : Connection) : Beside c c := (Informed.refl c).beside

theorem Beside.trans (first : Beside c c') (second : Beside c' c'') : Beside c c'' where
  toUnread := first.toUnread.trans second.toUnread
  heartbeat := second.heartbeat.trans first.heartbeat
  kept h found knows := second.kept h (first.kept h found knows) knows
  pingIds := second.pingIds.trans first.pingIds

/-! ### Sends -/

theorem beside_begin (target : Target) (payload : Bytes) (c : Connection) :
    Beside c (c.begin target payload).1 :=
  { Beside.refl c with }

theorem beside_finish (s : Send) (result : Except TransportError Bytes) (c : Connection) :
    Beside c (c.finish s result).1 :=
  { (informed_remove .lost s.id c).beside with }

theorem beside_collect (s : Send) (c : Connection) : Beside c (c.collect s).1 := by
  unfold collect
  cases s.reply with
  | awaited => exact { Beside.refl c with }
  | given frame => exact beside_finish s _ c
  | lost => exact beside_finish s _ c

theorem beside_acceptSend (number : Nat) (id : UInt64) (bytes : Bytes) (c : Connection) :
    Beside c (c.accept ⟨.send number, id, bytes⟩) := by
  refine { Beside.refl c with pingIds := ?_ }
  rw [pingIds_accept, if_neg Waiter.noConfusion]

theorem beside_offer (s : Send) (bytes : Bytes) (c : Connection) : Beside c (c.offer s bytes).1 := by
  unfold offer
  split
  · exact beside_finish s _ c
  · split
    · exact (beside_acceptSend s.number s.id bytes c).trans (beside_collect s _)
    · exact { Beside.refl c with }

theorem beside_stepSend (number : Nat) (c : Connection) : Beside c (c.stepSend number).1 := by
  unfold stepSend
  split
  · exact .refl c
  · next s _ =>
    split
    · split
      · exact { Beside.refl c with }
      · have entered := (informed_enter s.id (.send number) c).beside
        dsimp only
        split
        · exact entered.trans (beside_finish s _ _)
        · exact entered.trans (beside_offer s _ _)
    · exact beside_offer s _ c
    · exact beside_collect s c

theorem beside_cancel (number : Nat) (c : Connection) : Beside c (c.cancel number) := by
  unfold cancel
  split
  · exact .refl c
  · next s _ =>
    split
    · exact { Beside.refl c with }
    · exact { (informed_remove .lost s.id c).beside with }

/-! ### Writer and heartbeat -/

theorem beside_takeOutgoing (c : Connection) : Beside c c.takeOutgoing := by
  unfold takeOutgoing
  split <;> exact { Beside.refl c with }

theorem beside_failWrite (c : Connection) : Beside c c.failWrite := by
  unfold failWrite
  split
  · exact { (informed_markClosed c).beside with }
  · exact .refl c

theorem unread_giveUp (c : Connection) : Unread c c.giveUp :=
  { (informed_markClosed c).unread with }

theorem unread_offerPing (now : Instant) (h : Heartbeat) (bytes : Bytes) (c : Connection) :
    Unread c (c.offerPing now h bytes) := by
  unfold offerPing
  split
  · exact unread_giveUp c
  · split <;> exact { Unread.refl c with }

theorem unread_ping (now : Instant) (h : Heartbeat) (c : Connection) : Unread c (c.ping now h) := by
  unfold ping
  split
  · exact unread_giveUp c
  · next bytes _ =>
    have entered : Unread c (c.enter h.id .heartbeat).awaitPong :=
      { (informed_enter h.id .heartbeat c).unread with }
    exact entered.trans (unread_offerPing now h bytes _)

theorem unread_stepBeat (now : Instant) (c : Connection) : Unread c (c.stepBeat now) := by
  unfold stepBeat
  split
  · exact .refl c
  · next h _ =>
    split
    · exact .refl c
    · split
      · exact .refl c
      · split
        · exact { Unread.refl c with }
        · exact unread_ping now h c
    · exact unread_offerPing now h _ c
    · split
      · exact { Unread.refl c with }
      · exact { Unread.refl c with }
      · split
        · exact .refl c
        · exact unread_giveUp c

end

end Switchboard.Tcp.Connection
