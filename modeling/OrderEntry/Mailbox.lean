import OrderEntry.Fifo

/-! Bounded mailboxes between tasks. A sender is told at once when there is no room; a receiver still
gets what was queued before the senders went away. -/

namespace OrderEntry

structure Mailbox (α : Type) where
  capacity : Nat
  items : Fifo α := .empty
  /-- Room set aside for a sender that waited for it and has not used it yet. -/
  reserved : Nat := 0
  receiving : Bool := true
  sending : Bool := true
  deriving Repr

inductive SendError
  | full
  | closed
  deriving DecidableEq, Repr

inductive Receipt (α : Type)
  | item (a : α)
  | empty
  | closed
  deriving DecidableEq, Repr

namespace Mailbox

variable {α : Type}

def toList (m : Mailbox α) : List α := m.items.toList

def free (m : Mailbox α) : Nat := m.capacity - (m.items.size + m.reserved)

def offer (m : Mailbox α) (a : α) : Except SendError (Mailbox α) :=
  if !m.receiving then .error .closed
  else if m.items.size + m.reserved < m.capacity then .ok { m with items := m.items.push a }
  else .error .full

def offerOrDrop (m : Mailbox α) (a : α) : Mailbox α :=
  match m.offer a with
  | .ok m => m
  | .error _ => m

def receive (m : Mailbox α) : Receipt α × Mailbox α :=
  match m.items.pop? with
  | some (a, items) => (.item a, { m with items })
  | none => (if m.sending then .empty else .closed, m)

def drain (m : Mailbox α) : List α × Mailbox α := (m.toList, { m with items := .empty })

def dropReceiver (m : Mailbox α) : Mailbox α := { m with items := .empty, receiving := false }

def dropSenders (m : Mailbox α) : Mailbox α := { m with sending := false }

theorem toList_of_offer {m m' : Mailbox α} {a : α} (h : m.offer a = .ok m') :
    m'.toList = m.toList ++ [a] := by
  simp only [offer] at h
  split at h
  · cases h
  · split at h
    · cases h; exact Fifo.toList_push ..
    · cases h

end Mailbox
end OrderEntry
