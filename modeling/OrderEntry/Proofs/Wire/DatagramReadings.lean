import OrderEntry.Proofs.Session.Links
import OrderEntry.Proofs.Wire.Readings

/-! Everything that is read from a datagram link. What is in store for its reader is a list of readings:
an arrival adds its own at the end, decoded without regard to the others, and a read takes the first. -/

namespace OrderEntry

namespace Arrival

def readings (format : WireFormat) : Arrival → List Reading
  | bytes datagram => (itemsOfDatagram format datagram).map Item.reading
  | failed cause => [.error (.transport (.io cause))]
  | refused => []

def datagram? : Arrival → Option Bytes
  | bytes datagram => some datagram
  | failed _ | refused => none

variable (format : WireFormat)

theorem readings_ne_end (a : Arrival) {reading : Reading} (h : reading ∈ a.readings format) :
    reading ≠ .ok none := by
  cases a with
  | bytes datagram =>
    obtain ⟨item, _, rfl⟩ := List.mem_map.mp h
    exact reading_ne_end item
  | failed cause =>
    rw [List.mem_singleton.mp h]
    exact nofun
  | refused => cases h

theorem flatMap_readings_of_received {arrivals : List Arrival}
    (h : ∀ cause, .failed cause ∉ arrivals) :
    arrivals.flatMap (readings format) =
      ((arrivals.filterMap datagram?).flatMap (itemsOfDatagram format)).map Item.reading := by
  induction arrivals with
  | nil => rfl
  | cons a arrivals ih =>
    have htail := ih fun cause hc => h cause (List.mem_cons_of_mem _ hc)
    rw [List.flatMap_cons, htail]
    cases a with
    | bytes datagram =>
      have hfirst : (bytes datagram :: arrivals).filterMap datagram? =
          datagram :: arrivals.filterMap datagram? := rfl
      rw [hfirst, List.flatMap_cons, List.map_append]
      rfl
    | failed cause => exact absurd List.mem_cons_self (h cause)
    | refused => rfl

end Arrival

inductive LinkUse
  | arrive (arrival : Arrival)
  | read
  | write (command : Command) (sent : Except String Unit)
  | markDown
  | close

def LinkUse.arrival? : LinkUse → Option Arrival
  | arrive a => some a
  | _ => none

namespace LinkReader

/-- The readings in store: of the messages taken in before, and of what has arrived since. -/
def store (format : WireFormat) (pending : List Item) (arrivals : List Arrival) : List Reading :=
  pending.map Item.reading ++ arrivals.flatMap (Arrival.readings format)

theorem nextDatagram_store (format : WireFormat) (pending : List Item) (arrivals : List Arrival) :
    (nextDatagram format pending arrivals).1 = (store format pending arrivals).head? ∧
      store format (nextDatagram format pending arrivals).2.1
        (nextDatagram format pending arrivals).2.2 = (store format pending arrivals).tail := by
  fun_induction nextDatagram format pending arrivals with
  | case1 item pending arrivals => exact ⟨rfl, rfl⟩
  | case2 => exact ⟨rfl, rfl⟩
  | case3 arrivals ih => exact ih
  | case4 cause arrivals => exact ⟨rfl, rfl⟩
  | case5 datagram arrivals ih => exact ih

end LinkReader

namespace Link

def after (l : Link) : LinkUse → Link
  | .arrive a => l.arrive a
  | .read => l.read.2
  | .write command sent => (l.send command sent).2
  | .markDown => l.markDown
  | .close => l.close

def afterAll (l : Link) (uses : List LinkUse) : Link := uses.foldl after l

def reading? (l : Link) : LinkUse → Option Reading
  | .read => l.read.1
  | _ => none

def readings (l : Link) : List LinkUse → List Reading
  | [] => []
  | use :: uses => (l.reading? use).toList ++ (l.after use).readings uses

def Holds (format : WireFormat) (store : List Reading) (l : Link) : Prop :=
  ∃ pending, l.reader = .datagrams format pending ∧ LinkReader.store format pending l.arrivals = store

variable {format : WireFormat} {store : List Reading} {l : Link}

theorem holds_opened (format : WireFormat) (remote : String) :
    (opened .udp format remote).Holds format [] := ⟨[], rfl, rfl⟩

theorem Holds.of_input (h : l.Holds format store) {l' : Link} (hr : l'.reader = l.reader)
    (ha : l'.arrivals = l.arrivals) : l'.Holds format store := by
  obtain ⟨pending, hp, hs⟩ := h
  refine ⟨pending, hr.trans hp, ?_⟩
  rw [ha, hs]

theorem Holds.arrive (h : l.Holds format store) (a : Arrival) :
    (l.arrive a).Holds format (store ++ a.readings format) := by
  obtain ⟨pending, hp, rfl⟩ := h
  refine ⟨pending, hp, ?_⟩
  unfold Link.arrive LinkReader.store
  rw [List.flatMap_append, List.flatMap_singleton, List.append_assoc]

theorem Holds.read (h : l.Holds format store) :
    l.read.1 = store.head? ∧ l.read.2.Holds format store.tail := by
  obtain ⟨pending, hp, rfl⟩ := h
  obtain ⟨hfirst, hrest⟩ := LinkReader.nextDatagram_store format pending l.arrivals
  have hnext : l.reader.next l.arrivals =
      ((LinkReader.nextDatagram format pending l.arrivals).1,
        .datagrams format (LinkReader.nextDatagram format pending l.arrivals).2.1,
        (LinkReader.nextDatagram format pending l.arrivals).2.2) := by
    rw [hp]
    rfl
  unfold Link.read
  rw [hnext]
  exact ⟨hfirst, _, rfl, hrest⟩

theorem Holds.after (h : l.Holds format store) (use : LinkUse) :
    ∃ rest, (l.after use).Holds format rest ∧
      (l.reading? use).toList ++ rest =
        store ++ use.arrival?.toList.flatMap (Arrival.readings format) := by
  cases use with
  | arrive a =>
    refine ⟨_, h.arrive a, ?_⟩
    exact congrArg (store ++ ·) (List.flatMap_singleton ..).symm
  | read =>
    obtain ⟨hfirst, hrest⟩ := h.read
    refine ⟨_, hrest, ?_⟩
    have hreading : (l.reading? .read).toList ++ store.tail = store := by
      rw [reading?, hfirst]
      cases store <;> rfl
    rw [hreading]
    exact (List.append_nil _).symm
  | write command sent =>
    obtain ⟨hr, ha, _⟩ := l.send_keeps command sent
    exact ⟨_, h.of_input hr ha, (List.append_nil _).symm⟩
  | markDown => exact ⟨_, h.of_input rfl rfl, (List.append_nil _).symm⟩
  | close => exact ⟨_, h.of_input rfl rfl, (List.append_nil _).symm⟩

theorem Holds.afterAll (h : l.Holds format store) (uses : List LinkUse) :
    ∃ rest, (l.afterAll uses).Holds format rest ∧
      l.readings uses ++ rest =
        store ++ (uses.filterMap LinkUse.arrival?).flatMap (Arrival.readings format) := by
  induction uses generalizing l store with
  | nil => exact ⟨store, h, (List.append_nil _).symm⟩
  | cons use uses ih =>
    obtain ⟨between, hbetween, hstep⟩ := h.after use
    obtain ⟨rest, hrest, hrun⟩ := ih hbetween
    refine ⟨rest, hrest, ?_⟩
    have hcame : ((use :: uses).filterMap LinkUse.arrival?).flatMap (Arrival.readings format) =
        use.arrival?.toList.flatMap (Arrival.readings format) ++
          (uses.filterMap LinkUse.arrival?).flatMap (Arrival.readings format) := by
      rw [← List.flatMap_append]
      cases use <;> rfl
    rw [readings, List.append_assoc, hrun, ← List.append_assoc, hstep, List.append_assoc, hcame]

theorem readings_append (l : Link) (uses more : List LinkUse) :
    l.readings (uses ++ more) = l.readings uses ++ (l.afterAll uses).readings more := by
  induction uses generalizing l with
  | nil => rfl
  | cons use uses ih =>
    rw [List.cons_append, readings, ih, readings, List.append_assoc]
    rfl

theorem Holds.readings_replicate (h : l.Holds format store) {n : Nat} (hn : store.length ≤ n) :
    l.readings (List.replicate n .read) = store := by
  induction n generalizing l store with
  | zero =>
    rw [List.eq_nil_of_length_eq_zero (Nat.le_zero.mp hn)]
    rfl
  | succ n ih =>
    obtain ⟨hfirst, hrest⟩ := h.read
    have hmore := ih hrest (by rw [List.length_tail]; omega)
    rw [List.replicate_succ, readings, reading?, hfirst]
    refine (congrArg _ hmore).trans ?_
    cases store <;> rfl

/-- On a datagram link the readings are those of the arrivals, one after another, in whatever way they are
asked for: none is read twice, left out or read before an earlier one, and enough reads give them all. Each
datagram is decoded as if it were the only one. A refusal gives nothing, and a receive that failed gives its
fault between what came before and what came after it. The end is never read. -/
theorem datagrams_read_one_by_one (format : WireFormat) (remote : String) (uses : List LinkUse) :
    let l := opened .udp format remote
    let arrivals := uses.filterMap LinkUse.arrival?
    let owed := arrivals.flatMap (Arrival.readings format)
    l.readings uses <+: owed ∧
    (l.afterAll uses).read.1 = owed[(l.readings uses).length]? ∧
    (∀ n, owed.length ≤ (l.readings uses).length + n →
      l.readings (uses ++ List.replicate n .read) = owed) ∧
    ((∀ cause, .failed cause ∉ arrivals) →
      owed = ((arrivals.filterMap Arrival.datagram?).flatMap (itemsOfDatagram format)).map
        Item.reading) ∧
    (∀ before cause later, arrivals = before ++ .failed cause :: later →
      owed = before.flatMap (Arrival.readings format) ++
        .error (.transport (.io cause)) :: later.flatMap (Arrival.readings format)) ∧
    ∀ reading ∈ l.readings uses, reading ≠ .ok none := by
  intro l arrivals owed
  obtain ⟨rest, hrest, hrun⟩ := (holds_opened format remote).afterAll uses
  have howed : l.readings uses ++ rest = owed := hrun
  refine ⟨⟨rest, howed⟩, ?_, fun n hn => ?_, Arrival.flatMap_readings_of_received format,
    fun before cause later h => ?_, fun reading hmem => ?_⟩
  · rw [hrest.read.1, ← howed, List.getElem?_append_right (Nat.le_refl _), Nat.sub_self,
      List.head?_eq_getElem?]
  · rw [← howed, List.length_append] at hn
    rw [readings_append, hrest.readings_replicate (by omega), howed]
  · have hsplit : owed = (before ++ .failed cause :: later).flatMap (Arrival.readings format) :=
      congrArg (List.flatMap (Arrival.readings format)) h
    rw [hsplit, List.flatMap_append, List.flatMap_cons]
    rfl
  · have hmem' : reading ∈ owed := howed ▸ List.mem_append_left rest hmem
    obtain ⟨a, _, ha⟩ := List.mem_flatMap.mp hmem'
    exact a.readings_ne_end format ha

end Link
end OrderEntry
