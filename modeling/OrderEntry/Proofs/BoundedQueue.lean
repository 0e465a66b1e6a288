import OrderEntry.Mailbox
import OrderEntry.Outputs

/-! A bounded queue as a plain list, and mailboxes seen as such queues. Each operation of a mailbox is the
same operation of its queue, so what follows about mailboxes is about lists. -/

namespace OrderEntry

def Receipt.item? {α : Type} : Receipt α → Option α
  | item a => some a
  | empty | closed => none

structure BoundedQueue (α : Type) where
  capacity : Nat
  items : List α
  receiving : Bool
  sending : Bool

namespace BoundedQueue

variable {α : Type} (q : BoundedQueue α)

def HasRoom : Prop := q.receiving = true ∧ q.items.length < q.capacity

instance : Decidable q.HasRoom := by
  unfold HasRoom
  infer_instance

def offer (a : α) : BoundedQueue α := if q.HasRoom then { q with items := q.items ++ [a] } else q

def receive : Receipt α × BoundedQueue α :=
  match q.items with
  | [] => (if q.sending then .empty else .closed, q)
  | a :: items => (.item a, { q with items })

def dropReceiver : BoundedQueue α := { q with items := [], receiving := false }

structure Fits (n : Nat) (q : BoundedQueue α) : Prop where
  capacity : q.capacity = n
  length_le : q.items.length ≤ n

variable {n : Nat} {q}

theorem Fits.offer (h : q.Fits n) (a : α) : (q.offer a).Fits n := by
  unfold BoundedQueue.offer
  split
  next hroom =>
    refine ⟨h.capacity, ?_⟩
    rw [List.length_append, List.length_singleton, ← h.capacity]
    exact hroom.2
  next => exact h

theorem Fits.receive (h : q.Fits n) : q.receive.2.Fits n := by
  unfold BoundedQueue.receive
  split
  next => exact h
  next a items hi =>
    refine ⟨h.capacity, Nat.le_trans ?_ h.length_le⟩
    rw [hi, List.length_cons]
    exact Nat.le_succ _

theorem receiving_offer (q : BoundedQueue α) (a : α) : (q.offer a).receiving = q.receiving := by
  unfold BoundedQueue.offer
  split <;> rfl

theorem items_offer (a : α) (h : q.receiving = true) :
    (q.offer a).items = q.items ++ if q.items.length < q.capacity then [a] else [] := by
  have hroom : q.HasRoom ↔ q.items.length < q.capacity := and_iff_right h
  unfold BoundedQueue.offer
  simp only [hroom]
  split
  next => rfl
  next => exact (List.append_nil _).symm

theorem receive_append_items (q : BoundedQueue α) :
    q.receive.1.item?.toList ++ q.receive.2.items = q.items := by
  unfold BoundedQueue.receive
  split
  next hi =>
    rw [hi]
    split <;> rfl
  next hi =>
    rw [hi]
    rfl

theorem receiving_receive (q : BoundedQueue α) : q.receive.2.receiving = q.receiving := by
  unfold BoundedQueue.receive
  split <;> rfl

theorem receive_ended (q : BoundedQueue α) :
    (q.items = [] ∧ { q with sending := false }.receive.1 = .closed ∧ q.receive.2 = q) ∨
      ∃ a items, q.items = a :: items ∧ { q with sending := false }.receive.1 = .item a ∧
        q.receive.2 = { q with items } := by
  unfold BoundedQueue.receive
  cases hi : q.items with
  | nil => exact .inl ⟨rfl, rfl, by cases q.sending <;> rfl⟩
  | cons a items => exact .inr ⟨a, items, rfl, rfl, rfl⟩

theorem Fits.dropReceiver (h : q.Fits n) : q.dropReceiver.Fits n := ⟨h.capacity, Nat.zero_le n⟩

end BoundedQueue

namespace Mailbox

variable {α β : Type} (m : Mailbox α)

/-- The queue of a mailbox, each item seen through `f`. Room that was set aside is not there for others. -/
def queue (f : α → β) : BoundedQueue β where
  capacity := m.capacity - m.reserved
  items := m.toList.map f
  receiving := m.receiving
  sending := m.sending

variable (f : α → β)

theorem length_items_queue : (m.queue f).items.length = m.items.size := by
  simp only [queue, List.length_map, toList, Fifo.size_eq_length]

theorem hasRoom_queue_iff :
    (m.queue f).HasRoom ↔ m.receiving = true ∧ m.items.size + m.reserved < m.capacity := by
  unfold BoundedQueue.HasRoom
  rw [length_items_queue]
  exact and_congr_right fun _ => Nat.lt_sub_iff_add_lt

theorem offer_cases (a : α) :
    (∃ m', m.offer a = .ok m' ∧ (m.queue f).HasRoom ∧ m'.queue f = (m.queue f).offer (f a)) ∨
      ¬(m.queue f).HasRoom ∧
        (m.offer a = .error .full ∧ m.receiving = true ∨
          m.offer a = .error .closed ∧ m.receiving = false) := by
  have hroom := m.hasRoom_queue_iff f
  rcases Bool.eq_false_or_eq_true m.receiving with hr | hr
  · have hopen : ¬(!m.receiving) = true := by simp [hr]
    unfold Mailbox.offer
    rw [if_neg hopen]
    by_cases hlt : m.items.size + m.reserved < m.capacity
    · have hyes : (m.queue f).HasRoom := hroom.mpr ⟨hr, hlt⟩
      refine .inl ⟨{ m with items := m.items.push a }, if_pos hlt, hyes, ?_⟩
      unfold BoundedQueue.offer
      rw [if_pos hyes]
      simp only [queue, toList, Fifo.toList_push, List.map_append, List.map_singleton]
    · exact .inr ⟨fun h => hlt (hroom.mp h).2, .inl ⟨if_neg hlt, hr⟩⟩
  · refine .inr ⟨fun h => ?_, .inr ⟨if_pos (by simp [hr]), hr⟩⟩
    cases hr.symm.trans h.1

theorem queue_offerOrDrop (a : α) : (m.offerOrDrop a).queue f = (m.queue f).offer (f a) := by
  unfold offerOrDrop
  rcases m.offer_cases f a with ⟨m', ho, _, hq⟩ | ⟨hroom, ⟨ho, _⟩ | ⟨ho, _⟩⟩ <;> rw [ho]
  · exact hq
  · exact (if_neg hroom).symm
  · exact (if_neg hroom).symm

theorem receive_queue : (m.queue f).receive = (m.receive.1.map f, m.receive.2.queue f) := by
  unfold Mailbox.receive BoundedQueue.receive
  rcases hp : m.items.pop? with _ | ⟨a, items⟩
  · have hnil : m.toList = [] := Fifo.pop?_eq_none_iff.mp hp
    simp only [queue, hnil, List.map_nil]
    cases m.sending <;> rfl
  · have hcons : m.toList = a :: items.toList := Fifo.toList_of_pop? hp
    simp only [queue, hcons, List.map_cons]
    rfl

theorem queue_dropReceiver : m.dropReceiver.queue f = (m.queue f).dropReceiver := rfl

end Mailbox
end OrderEntry
