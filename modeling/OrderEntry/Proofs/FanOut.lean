import OrderEntry.Proofs.BoundedQueue
import OrderEntry.Session

/-! Events are fanned out to one queue per kind. Main statement: nothing is lost but what is counted, each
kind stays in order, a full queue is told of once, and what one kind's consumer gets does not depend on
what is done to the other kinds or to the errors. -/

namespace OrderEntry
namespace Outputs

def queue (o : Outputs) : Channel → BoundedQueue Delivery
  | .acks => o.acks.queue fun a => .event (.ack a)
  | .trades => o.trades.queue fun t => .event (.trade t)
  | .bookUpdates => o.bookUpdates.queue fun b => .event (.bookUpdate b)
  | .cancelAcks => o.cancelAcks.queue fun a => .event (.cancelAck a)
  | .errors => o.errors.queue .error
  | .reconnects => o.reconnects.queue .reconnected

def notice (e : Event) : Delivery := .error (.channelFull (Channel.ofEvent e).name)

variable (o : Outputs) (e : Event) (ch ch' : Channel)

theorem offer_cases {α : Type} {m : Mailbox α} {f : α → Delivery} (a : α)
    (put : Mailbox α → Outputs) (hm : o.queue ch = m.queue f)
    (hput : ∀ m' ch', (put m').queue ch' = if ch' = ch then m'.queue f else o.queue ch') :
    (∃ o', (m.offer a).map put = .ok o' ∧ (o.queue ch).HasRoom ∧
      ∀ ch', o'.queue ch' = if ch' = ch then (o.queue ch).offer (f a) else o.queue ch') ∨
      ¬(o.queue ch).HasRoom ∧
        ((m.offer a).map put = .error .full ∧ (o.queue ch).receiving = true ∨
          (m.offer a).map put = .error .closed ∧ (o.queue ch).receiving = false) := by
  rw [hm]
  rcases m.offer_cases f a with ⟨m', ho, hroom, hq⟩ | ⟨hroom, ⟨ho, hr⟩ | ⟨ho, hr⟩⟩ <;> rw [ho]
  · refine .inl ⟨put m', rfl, hroom, fun ch' => ?_⟩
    rw [hput, hq]
  · exact .inr ⟨hroom, .inl ⟨rfl, hr⟩⟩
  · exact .inr ⟨hroom, .inr ⟨rfl, hr⟩⟩

theorem offerEvent_cases :
    (∃ o', o.offerEvent e = .ok o' ∧ (o.queue (Channel.ofEvent e)).HasRoom ∧
      ∀ ch, o'.queue ch = if ch = Channel.ofEvent e
        then (o.queue (Channel.ofEvent e)).offer (.event e) else o.queue ch) ∨
      ¬(o.queue (Channel.ofEvent e)).HasRoom ∧
        (o.offerEvent e = .error .full ∧ (o.queue (Channel.ofEvent e)).receiving = true ∨
          o.offerEvent e = .error .closed ∧ (o.queue (Channel.ofEvent e)).receiving = false) := by
  cases e with
  | ack a =>
    exact o.offer_cases .acks a (fun m => { o with acks := m }) rfl
      fun m ch => by cases ch <;> rfl
  | trade t =>
    exact o.offer_cases .trades t (fun m => { o with trades := m }) rfl
      fun m ch => by cases ch <;> rfl
  | bookUpdate b =>
    exact o.offer_cases .bookUpdates b (fun m => { o with bookUpdates := m }) rfl
      fun m ch => by cases ch <;> rfl
  | cancelAck a =>
    exact o.offer_cases .cancelAcks a (fun m => { o with cancelAcks := m }) rfl
      fun m ch => by cases ch <;> rfl

theorem queue_report (err : ClientError) : (o.report err).queue ch =
    if ch = .errors then (o.queue .errors).offer (.error err) else o.queue ch := by
  cases ch with
  | errors => exact Mailbox.queue_offerOrDrop ..
  | acks | trades | bookUpdates | cancelAcks | reconnects => rfl

theorem ofEvent_ne_errors : Channel.ofEvent e ≠ .errors := by
  cases e <;> exact nofun

def Overflows (e : Event) : Prop :=
  (o.queue (Channel.ofEvent e)).receiving = true ∧ ¬(o.queue (Channel.ofEvent e)).HasRoom

instance : Decidable (o.Overflows e) := by
  unfold Overflows
  infer_instance

theorem queue_dispatch : (o.dispatch e).1.queue ch =
    if ch = Channel.ofEvent e then (o.queue (Channel.ofEvent e)).offer (.event e)
    else if ch = .errors ∧ o.Overflows e then (o.queue .errors).offer (notice e)
    else o.queue ch := by
  -- an offer without room leaves its queue as it is
  have hkept : ¬(o.queue (Channel.ofEvent e)).HasRoom → ch = Channel.ofEvent e →
      (o.queue (Channel.ofEvent e)).offer (.event e) = o.queue ch := by
    rintro hroom rfl
    exact if_neg hroom
  unfold dispatch
  rcases o.offerEvent_cases e with ⟨o', ho, hroom, hq⟩ | ⟨hroom, ⟨ho, hr⟩ | ⟨ho, hr⟩⟩ <;>
    rw [ho]
  · rw [hq, if_neg (c := _ ∧ _) fun h => h.2.2 hroom]
  · dsimp only
    rw [queue_report]
    by_cases hch : ch = Channel.ofEvent e
    · have hne : ch ≠ .errors := hch ▸ ofEvent_ne_errors e
      rw [if_pos hch, if_neg hne, hkept hroom hch]
    · have hover : o.Overflows e := ⟨hr, hroom⟩
      rw [if_neg hch]
      simp only [hover, and_true]
      rfl
  · dsimp only
    rw [if_neg (c := _ ∧ _) fun h => by cases hr.symm.trans h.2.1]
    split
    next hch => exact (hkept hroom hch).symm
    next => rfl

theorem dispatch_accepted_iff :
    (o.dispatch e).2 = true ↔ (o.queue (Channel.ofEvent e)).HasRoom := by
  unfold dispatch
  rcases o.offerEvent_cases e with ⟨o', ho, hroom, _⟩ | ⟨hroom, ⟨ho, _⟩ | ⟨ho, _⟩⟩ <;> rw [ho]
  · exact iff_of_true rfl hroom
  · exact iff_of_false nofun hroom
  · exact iff_of_false nofun hroom

theorem receive_eq : (o.receive ch).1 = (o.queue ch).receive.1 := by
  cases ch <;> exact (congrArg Prod.fst (Mailbox.receive_queue ..)).symm

theorem queue_receive : (o.receive ch).2.queue ch' =
    if ch' = ch then (o.queue ch).receive.2 else o.queue ch' := by
  split
  next h =>
    subst h
    cases ch' <;> exact (congrArg Prod.snd (Mailbox.receive_queue ..)).symm
  next h => cases ch <;> cases ch' <;> first | rfl | exact absurd rfl h

theorem queue_dropReceiver : (o.dropReceiver ch).queue ch' =
    if ch' = ch then (o.queue ch).dropReceiver else o.queue ch' := by
  split
  next h =>
    subst h
    cases ch' <;> rfl
  next h => cases ch <;> cases ch' <;> first | rfl | exact absurd rfl h

theorem queue_dropSenders : o.dropSenders.queue ch = { o.queue ch with sending := false } := by
  cases ch <;> rfl

end Outputs

inductive OutputCall
  | dispatch (event : Event)
  | report (error : ClientError)
  | receive (channel : Channel)
  | dropReceiver (channel : Channel)

namespace OutputCall

def concerns (ch : Channel) : OutputCall → Bool
  | dispatch e => Channel.ofEvent e = ch
  | report _ => Channel.errors = ch
  | receive ch' | dropReceiver ch' => ch' = ch

def act (ch : Channel) (q : BoundedQueue Delivery) : OutputCall → BoundedQueue Delivery
  | dispatch e => if ch = Channel.ofEvent e then q.offer (.event e) else q
  | report _ => q
  | receive ch' => if ch = ch' then q.receive.2 else q
  | dropReceiver ch' => if ch = ch' then q.dropReceiver else q

variable {ch : Channel} {call : OutputCall}

theorem act_of_not_concerns (q : BoundedQueue Delivery) (h : call.concerns ch = false) :
    call.act ch q = q := by
  cases call with
  | dispatch e => exact if_neg fun he => by simp [concerns, he] at h
  | report e => rfl
  | receive ch' | dropReceiver ch' => exact if_neg fun he => by simp [concerns, he] at h

end OutputCall

namespace Session

def perform (s : Session) : OutputCall → Session
  | .dispatch e => s.accept e
  | .report e => s.report e
  | .receive ch => { s with outputs := (s.outputs.receive ch).2 }
  | .dropReceiver ch => { s with outputs := s.outputs.dropReceiver ch }

def performAll (s : Session) (calls : List OutputCall) : Session := calls.foldl perform s

/-- What `look` sees in the course of the calls. It is shown the session before each of them. -/
def seen {α : Type} (look : Session → OutputCall → Option α) (s : Session) : List OutputCall → List α
  | [] => []
  | call :: calls => (look s call).toList ++ (s.perform call).seen look calls

theorem seen_cons {α : Type} (look : Session → OutputCall → Option α) (s : Session)
    (call : OutputCall) (calls : List OutputCall) :
    s.seen look (call :: calls) = (look s call).toList ++ (s.perform call).seen look calls := rfl

def admitted? (ch : Channel) (s : Session) : OutputCall → Option Delivery
  | .dispatch e =>
    if ch = Channel.ofEvent e ∧ (s.outputs.queue ch).items.length < (s.outputs.queue ch).capacity
    then some (.event e) else none
  | _ => none

def given? (ch : Channel) (s : Session) : OutputCall → Option (Receipt Delivery)
  | .receive ch' => if ch = ch' then some (s.outputs.receive ch).1 else none
  | _ => none

def refused? (s : Session) : OutputCall → Option Event
  | .dispatch e => if (s.outputs.queue (Channel.ofEvent e)).HasRoom then none else some e
  | _ => none

variable {s s' : Session} {ch : Channel} (call : OutputCall) (calls : List OutputCall)

theorem outputs_accept (s : Session) (e : Event) : (s.accept e).outputs = (s.outputs.dispatch e).1 := by
  unfold accept
  dsimp only
  split <;> rfl

theorem queue_perform (h : ch ≠ .errors) :
    (s.perform call).outputs.queue ch = call.act ch (s.outputs.queue ch) := by
  cases call with
  | dispatch e =>
    simp only [perform, outputs_accept, Outputs.queue_dispatch, h, false_and, if_false,
      OutputCall.act]
    split
    next he => rw [he]
    next => rfl
  | report e => exact (s.outputs.queue_report ch e).trans (if_neg h)
  | receive ch' =>
    simp only [perform, Outputs.queue_receive, OutputCall.act]
    split
    next he => rw [he]
    next => rfl
  | dropReceiver ch' =>
    simp only [perform, Outputs.queue_dropReceiver, OutputCall.act]
    split
    next he => rw [he]
    next => rfl

/-! Capacity -/

theorem fits_perform {n : Channel → Nat} (h : ∀ ch, (s.outputs.queue ch).Fits (n ch)) (ch : Channel) :
    ((s.perform call).outputs.queue ch).Fits (n ch) := by
  cases call with
  | dispatch e =>
    simp only [perform, outputs_accept, Outputs.queue_dispatch]
    split
    next he => exact he ▸ (h _).offer _
    next =>
      split
      next he => exact he.1 ▸ (h _).offer _
      next => exact h ch
  | report e =>
    simp only [perform, report, Outputs.queue_report]
    split
    next he => exact he ▸ (h _).offer _
    next => exact h ch
  | receive ch' =>
    simp only [perform, Outputs.queue_receive]
    split
    next he => exact he ▸ (h ch').receive
    next => exact h ch
  | dropReceiver ch' =>
    simp only [perform, Outputs.queue_dropReceiver]
    split
    next he => exact he ▸ (h ch').dropReceiver
    next => exact h ch

theorem fits_performAll {n : Channel → Nat} (h : ∀ ch, (s.outputs.queue ch).Fits (n ch))
    (ch : Channel) : ((s.performAll calls).outputs.queue ch).Fits (n ch) := by
  induction calls generalizing s with
  | nil => exact h ch
  | cons call calls ih => exact ih (fits_perform call h)

/-! Conservation -/

theorem receiving_of_perform (h : ch ≠ .errors)
    (hr : ((s.perform call).outputs.queue ch).receiving = true) :
    (s.outputs.queue ch).receiving = true := by
  rw [queue_perform call h] at hr
  cases call with
  | dispatch e =>
    simp only [OutputCall.act] at hr
    split at hr
    next => rwa [BoundedQueue.receiving_offer] at hr
    next => exact hr
  | report e => exact hr
  | receive ch' =>
    simp only [OutputCall.act] at hr
    split at hr
    next => rwa [BoundedQueue.receiving_receive] at hr
    next => exact hr
  | dropReceiver ch' =>
    simp only [OutputCall.act] at hr
    split at hr
    next => cases hr
    next => exact hr

theorem receiving_of_performAll (h : ch ≠ .errors)
    (hr : ((s.performAll calls).outputs.queue ch).receiving = true) :
    (s.outputs.queue ch).receiving = true := by
  induction calls generalizing s with
  | nil => exact hr
  | cons call calls ih => exact receiving_of_perform call h (ih hr)

theorem given_append_perform (h : ch ≠ .errors)
    (hr : ((s.perform call).outputs.queue ch).receiving = true) :
    (given? ch s call).toList.filterMap Receipt.item? ++ ((s.perform call).outputs.queue ch).items =
      (s.outputs.queue ch).items ++ (admitted? ch s call).toList := by
  have hopen := receiving_of_perform call h hr
  rw [queue_perform call h] at hr ⊢
  cases call with
  | dispatch e =>
    simp only [OutputCall.act, given?, admitted?]
    by_cases he : ch = Channel.ofEvent e
    · simp only [he, if_true, true_and, Option.toList_none, List.filterMap_nil, List.nil_append]
      rw [BoundedQueue.items_offer _ (he ▸ hopen)]
      split <;> rfl
    · simp only [he, if_false, false_and, Option.toList_none, List.filterMap_nil, List.nil_append,
        List.append_nil]
  | report e => exact (List.append_nil _).symm
  | receive ch' =>
    simp only [OutputCall.act, given?, admitted?, Option.toList_none, List.append_nil]
    split
    next =>
      rw [Outputs.receive_eq, Option.toList_some]
      refine Eq.trans ?_ (BoundedQueue.receive_append_items _)
      cases (s.outputs.queue ch).receive.1 <;> rfl
    next => rfl
  | dropReceiver ch' =>
    simp only [OutputCall.act] at hr ⊢
    split at hr
    next => cases hr
    next he =>
      rw [if_neg he]
      exact (List.append_nil _).symm

theorem given_append_queued (h : ch ≠ .errors)
    (hr : ((s.performAll calls).outputs.queue ch).receiving = true) :
    (s.seen (given? ch) calls).filterMap Receipt.item? ++
        ((s.performAll calls).outputs.queue ch).items =
      (s.outputs.queue ch).items ++ s.seen (admitted? ch) calls := by
  induction calls generalizing s with
  | nil => exact (List.append_nil _).symm
  | cons call calls ih =>
    have hstep := given_append_perform call h (receiving_of_performAll calls h hr)
    rw [seen_cons, seen_cons, List.filterMap_append, List.append_assoc,
      ← List.append_assoc _ (Option.toList _), ← hstep, List.append_assoc]
    exact congrArg _ (ih hr)

/-! Drops -/

theorem dropped_perform (s : Session) : (s.perform call).counters.dropped =
    s.counters.dropped + .ofNat (refused? s call).toList.length := by
  cases call with
  | dispatch e =>
    have hacc := s.outputs.dispatch_accepted_iff e
    by_cases hroom : (s.outputs.queue (Channel.ofEvent e)).HasRoom
    · simp only [perform, accept, refused?, hacc.mpr hroom, hroom, if_true]
      exact (UInt64.add_zero _).symm
    · have hno : (s.outputs.dispatch e).2 = false := Bool.eq_false_iff.mpr (hroom ∘ hacc.mp)
      simp only [perform, accept, refused?, hno, hroom, if_false]
      rfl
  | report e | receive ch' | dropReceiver ch' => exact (UInt64.add_zero _).symm

theorem dropped_performAll (s : Session) : (s.performAll calls).counters.dropped =
    s.counters.dropped + .ofNat (s.seen refused? calls).length := by
  induction calls generalizing s with
  | nil => exact (UInt64.add_zero _).symm
  | cons call calls ih =>
    rw [seen_cons, List.length_append, UInt64.ofNat_add, ← UInt64.add_assoc, ← dropped_perform]
    exact ih _

/-- A full queue is told of once, if there is room for that, and a consumer that went away never. -/
theorem errors_accept (s : Session) (e : Event) :
    ((s.accept e).outputs.queue .errors).items = (s.outputs.queue .errors).items ++
      if s.outputs.Overflows e ∧ (s.outputs.queue .errors).HasRoom then [Outputs.notice e] else [] := by
  rw [outputs_accept, Outputs.queue_dispatch, if_neg (Outputs.ofEvent_ne_errors e).symm]
  by_cases hover : s.outputs.Overflows e
  · rw [if_pos ⟨rfl, hover⟩]
    unfold BoundedQueue.offer
    by_cases hroom : (s.outputs.queue .errors).HasRoom
    · rw [if_pos hroom, if_pos ⟨hover, hroom⟩]
    · rw [if_neg hroom, if_neg fun h => hroom h.2, List.append_nil]
  · rw [if_neg fun h => hover h.2, if_neg fun h => hover h.1, List.append_nil]

/-! Isolation -/

theorem given_filter (h : ch ≠ .errors) (hq : s.outputs.queue ch = s'.outputs.queue ch) :
    s.seen (given? ch) calls = s'.seen (given? ch) (calls.filter (OutputCall.concerns ch)) := by
  induction calls generalizing s s' with
  | nil => rfl
  | cons call calls ih =>
    cases hc : call.concerns ch with
    | true =>
      have hgiven : given? ch s call = given? ch s' call := by
        cases call with
        | receive ch' => simp only [given?, Outputs.receive_eq, hq]
        | dispatch | report | dropReceiver => rfl
      have hnext : (s.perform call).outputs.queue ch = (s'.perform call).outputs.queue ch := by
        rw [queue_perform call h, queue_perform call h, hq]
      rw [List.filter_cons_of_pos hc, seen_cons, seen_cons, hgiven, ih hnext]
    | false =>
      have hnone : given? ch s call = none := by
        cases call with
        | receive ch' => exact if_neg fun he => by simp [OutputCall.concerns, he] at hc
        | dispatch | report | dropReceiver => rfl
      have hnext : (s.perform call).outputs.queue ch = s'.outputs.queue ch := by
        rw [queue_perform call h, OutputCall.act_of_not_concerns _ hc, hq]
      rw [List.filter_cons_of_neg (by rw [hc]; exact nofun), seen_cons, hnone, Option.toList_none,
        List.nil_append]
      exact ih hnext

/-- Whatever is called and in whatever order, no channel holds more than its capacity. As long as the consumer
of a kind of events is there, what it was given and what is still queued for it are the events of that kind
that came while its queue was not full. The events that were not accepted have been counted, and a full queue
is told of at each of them. What a consumer is given depends on the calls that concern its own kind. -/
theorem fan_out_lossless (config : Config) (calls : List OutputCall) :
    (∀ ch, (((new config).performAll calls).outputs.queue ch).items.length ≤
      if ch = .reconnects then Outputs.reconnectCapacity else config.channelCapacity) ∧
    (∀ ch, ch ≠ .errors → (((new config).performAll calls).outputs.queue ch).receiving = true →
      ((new config).seen (given? ch) calls).filterMap Receipt.item? ++
          (((new config).performAll calls).outputs.queue ch).items =
        (new config).seen (admitted? ch) calls) ∧
    ((new config).performAll calls).counters.dropped =
      .ofNat ((new config).seen refused? calls).length ∧
    (∀ e, ((((new config).performAll calls).accept e).outputs.queue .errors).items =
      (((new config).performAll calls).outputs.queue .errors).items ++
        if ((new config).performAll calls).outputs.Overflows e ∧
            (((new config).performAll calls).outputs.queue .errors).HasRoom
        then [Outputs.notice e] else []) ∧
    ∀ ch, ch ≠ .errors → ∀ calls',
      calls'.filter (OutputCall.concerns ch) = calls.filter (OutputCall.concerns ch) →
      (new config).seen (given? ch) calls' = (new config).seen (given? ch) calls := by
  have hfits : ∀ ch, ((new config).outputs.queue ch).Fits
      (if ch = .reconnects then Outputs.reconnectCapacity else config.channelCapacity) := by
    intro ch
    cases ch <;> exact ⟨rfl, Nat.zero_le _⟩
  have hempty : ∀ ch, ((new config).outputs.queue ch).items = [] := by
    intro ch
    cases ch <;> rfl
  refine ⟨fun ch => (fits_performAll calls hfits ch).length_le, fun ch h hr => ?_, ?_,
    fun e => errors_accept _ e, fun ch h calls' hsame => ?_⟩
  · rw [given_append_queued calls h hr, hempty, List.nil_append]
  · rw [dropped_performAll]
    exact UInt64.zero_add _
  · rw [given_filter calls' h rfl, hsame, ← given_filter calls h rfl]

end Session
end OrderEntry
