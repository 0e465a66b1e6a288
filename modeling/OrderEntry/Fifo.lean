/-! Queues with constant cost at both ends. `toList` is the view: the oldest item first. -/

namespace OrderEntry

structure Fifo (α : Type) where
  front : List α := []
  /-- The newest item first. -/
  back : List α := []
  size : Nat := 0
  size_eq : size = front.length + back.length := by rfl
  deriving Repr

namespace Fifo

variable {α : Type}

def empty : Fifo α := {}

def toList (q : Fifo α) : List α := q.front ++ q.back.reverse

def push (q : Fifo α) (a : α) : Fifo α :=
  { front := q.front, back := a :: q.back, size := q.size + 1
    size_eq := by simp only [q.size_eq, List.length_cons]; omega }

def pop? (q : Fifo α) : Option (α × Fifo α) :=
  match q with
  | ⟨a :: front, back, size, h⟩ =>
    some (a, { front, back, size := size - 1
               size_eq := by rw [h, List.length_cons]; omega })
  | ⟨[], back, size, h⟩ =>
    match hb : back.reverse with
    | [] => none
    | a :: front =>
      some (a, { front, size := size - 1
                 size_eq := by
                  have := congrArg List.length hb
                  simp only [List.length_reverse, List.length_cons, List.length_nil] at this h ⊢
                  omega })

theorem size_eq_length (q : Fifo α) : q.size = q.toList.length := by
  simp only [toList, List.length_append, List.length_reverse, q.size_eq]

theorem toList_push (q : Fifo α) (a : α) : (q.push a).toList = q.toList ++ [a] := by
  simp only [toList, push, List.reverse_cons, List.append_assoc]

theorem pop?_eq_none_iff {q : Fifo α} : q.pop? = none ↔ q.toList = [] := by
  match q with
  | ⟨a :: front, back, _, _⟩ => simp [pop?, toList]
  | ⟨[], back, _, _⟩ =>
    simp only [pop?, toList, List.nil_append]
    split <;> simp_all

theorem toList_of_pop? {q rest : Fifo α} {a : α} (h : q.pop? = some (a, rest)) :
    q.toList = a :: rest.toList := by
  match q, h with
  | ⟨b :: front, back, _, _⟩, h =>
    cases h
    rfl
  | ⟨[], back, _, _⟩, h =>
    simp only [pop?] at h
    split at h
    · cases h
    next hb =>
      cases h
      simp only [toList, List.nil_append, hb, List.reverse_nil, List.append_nil]

end Fifo
end OrderEntry
