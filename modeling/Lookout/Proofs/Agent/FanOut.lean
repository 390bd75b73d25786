import Lookout.Proofs.Agent.Turn
import Lookout.Proofs.Protocol.Payload

/-!
# An event reaches everyone who wants to hear of it

The hub offers an event to one registration after the other, and no offer looks at what became of
those before it: it waits for nothing and removes nothing. So what an event does to one queue is
found from that queue and the registrations of its connection alone. It is offered to the queue as
often as the connection is registered under a token that is not cancelled, and to offer a message so
many times is to append it so many times, as far as there is room.

Which registrations there are is a matter of what was called, not of what the queues or the tokens
went through: a registration stays until its connection is withdrawn.

* `HubCall`, `World.called` — what can be done to the hub and to all that it looks at;
* `HubCall.standing` — the registrations that some calls leave;
* `World.registrations_calls` — they are what the hub holds;
* `Outbox.pushed`, `Outbox.iterate_offer` — a queue to which a message was offered some times;
* `World.deliver`, `World.deliver_eq` — publishing as one pass that counts the offers it makes;
* `World.FansOut` — what becomes of an event that is published;
* `World.fansOut_calls` — every event fans out, after whatever calls.
-/

namespace Lookout

/-! ### Calls -/

/-- **What can be done to the hub,** and to the tokens and queues that it looks at. `queue` takes
any function, so that nothing need be known of who reads a queue, fills it or lets go of it. -/
inductive HubCall where
  | connect (conn : ConnId) (capacity : Nat)
  | subscribe (conn : ConnId) (token : Token)
  | unsubscribe (conn : ConnId)
  | cancel (token : Token)
  /-- Something is done to the queue of a connection: it is filled or drained, it closes or goes. -/
  | queue (conn : ConnId) (change : Outbox → Outbox)
  | publish (event : DaemonEvent)

namespace HubCall

/-- Whether a call removes the registrations of a connection. -/
def withdraws (conn : ConnId) : HubCall → Bool
  | unsubscribe other => other = conn
  | _ => false

/-- The registrations that some calls leave: those behind which their connection was not withdrawn,
in the order in which they were made. Cancelling a token leaves them standing, which is why only
`withdraws` is asked. -/
def standing : List HubCall → List Registration
  | [] => []
  | subscribe conn token :: rest =>
    if rest.any (withdraws conn) then standing rest else ⟨conn, token⟩ :: standing rest
  | _ :: rest => standing rest

end HubCall

namespace World

/-- The world after a call. -/
def called (w : World) : HubCall → World
  | .connect conn capacity => w.connect conn capacity
  | .subscribe conn token => { w with hub := w.hub.subscribe conn token }
  | .unsubscribe conn => { w with hub := w.hub.unsubscribe conn }
  | .cancel token => w.cancel token
  | .queue conn change => w.updateOutbox conn change
  | .publish event => w.publish event

/-- Who connects is not registered by that: `connect` leaves the hub alone. -/
theorem hub_connect (w : World) (conn : ConnId) (capacity : Nat) :
    (w.connect conn capacity).hub = w.hub := by
  unfold connect
  split <;> rfl

/-- What calls leave of the registrations that there are, and what they add to them. The induction
is on the calls, so what was registered before them has to be spoken of: the first call may add to
it, and those behind it filter it. -/
theorem registrations_calls (w : World) (calls : List HubCall) :
    (calls.foldl called w).hub.registrations =
      (w.hub.registrations.filter fun r => !calls.any (HubCall.withdraws r.conn)) ++
        HubCall.standing calls := by
  induction calls generalizing w with
  | nil => simp [HubCall.standing]
  | cons call rest ih =>
    rw [List.foldl_cons, ih]
    cases call with
    | connect conn capacity => rw [called, hub_connect]; rfl
    | subscribe conn token =>
      -- The new registration comes behind all that there are, and before all that will be made.
      have hlast : (w.called (.subscribe conn token)).hub.registrations =
          w.hub.registrations ++ [⟨conn, token⟩] := rfl
      rw [hlast, List.filter_append, List.append_assoc, HubCall.standing]
      congr 1
      cases hany : rest.any (HubCall.withdraws conn) <;> simp [hany]
    | unsubscribe conn =>
      -- Two filters behind each other are one, by both tests at once.
      have hleft : (w.called (.unsubscribe conn)).hub.registrations =
          w.hub.registrations.filter fun r => r.conn != conn := rfl
      rw [hleft, List.filter_filter]
      show _ = _ ++ HubCall.standing rest
      congr 1
      refine List.filter_congr fun r _ => ?_
      rw [List.any_cons, HubCall.withdraws, Bool.not_or, Bool.and_comm]
      congr 1
      by_cases heq : r.conn = conn
      · simp [heq]
      · simp [heq, Ne.symm heq]
    | cancel token => rfl
    | queue conn change => rfl
    | publish event => rw [called, hub_publish]; rfl

end World

/-! ### Offers -/

namespace Outbox

/-- The queue with a message appended a number of times, as far as there is room. A message that
finds none is dropped, and so are all behind it. -/
def pushed (o : Outbox) (times : Nat) (e : Envelope) : Outbox :=
  { o with queue := o.queue ++ List.replicate (min times o.room) e }

/-- A message that finds room is one of those that are appended, and leaves room for one fewer. -/
theorem pushed_push {o : Outbox} (hasRoom : o.hasRoom = true) (times : Nat) (e : Envelope) :
    (o.push e).pushed times e = o.pushed (times + 1) e := by
  have hpos : 0 < o.room := by simpa [Outbox.hasRoom] using hasRoom
  have hroom : (o.push e).room = o.room - 1 := by
    simp only [room, push, List.length_append, List.length_singleton]
    omega
  have hmin : min (times + 1) o.room = min times (o.room - 1) + 1 := by omega
  rw [pushed, pushed, hroom, hmin, List.replicate_succ]
  simp [push]

/-- **To `offer` a message again and again is to append it as far as there is room,** where the
receiver listens. The induction is on how often it is offered, with the queue general, as the first
offer changes the queue that the others find. -/
theorem iterate_offer (o : Outbox) (e : Envelope) (times : Nat) :
    (fun o => (Outbox.offer o e).1)^[times] o = if o.isOpen then o.pushed times e else o := by
  induction times generalizing o with
  | zero => simp [pushed]
  | succ times ih =>
    rw [Function.iterate_succ_apply, ih]
    cases hopen : o.isOpen with
    | false => simp [offer, hopen]
    | true =>
      cases hroom : o.hasRoom with
      | true =>
        have hoffer : (o.offer e).1 = o.push e := by simp [offer, hopen, hroom]
        have hopen' : (o.push e).isOpen = true := hopen
        rw [hoffer, if_pos hopen', if_pos rfl, pushed_push hroom]
      | false =>
        -- Nothing goes in any more, however often it is tried.
        have hoffer : (o.offer e).1 = o := by simp [offer, hopen, hroom]
        have hfull : o.room = 0 := by simpa [Outbox.hasRoom] using hroom
        rw [hoffer, hopen, if_pos rfl, if_pos rfl]
        simp [pushed, hfull]

end Outbox

/-! ### Events -/

/-- An event is a step in a container's life, of which clients hear. Said by the texts of the event,
and not by what `ContainerEvent.ofDaemon` makes of it, so that `isSome_ofDaemon_iff` says
something. -/
def DaemonEvent.IsStep (e : DaemonEvent) : Prop :=
  e.kind = "container" ∧ ∃ action : LifecycleAction, e.action = action.name

/-- Only the name of an action stands for it, as `ofName?` looks through the table of names. -/
theorem LifecycleAction.name_of_ofName? {name : String} {action : LifecycleAction}
    (h : ofName? name = some action) : name = action.name := by
  obtain ⟨before, after, hchoices, -⟩ := List.lookup_eq_some_iff.mp h
  have hmem : (name, action) ∈ choices := by rw [hchoices]; simp
  obtain ⟨a, -, heq⟩ := List.mem_map.mp hmem
  obtain ⟨rfl, rfl⟩ := Prod.mk.inj heq
  rfl

/-- Clients hear of the steps in a container's life, and of nothing else. From left to right the
action is found in the table of names, from right to left `LifecycleAction.lookup_name` finds it
there. -/
theorem ContainerEvent.isSome_ofDaemon_iff {e : DaemonEvent} :
    (ofDaemon e).isSome = true ↔ e.IsStep := by
  rw [ofDaemon, DaemonEvent.IsStep, DaemonEvent.isContainer]
  constructor
  · intro h
    split at h
    · next hkind =>
      obtain ⟨action, haction⟩ := Option.isSome_iff_exists.mp (Option.isSome_map.symm.trans h)
      exact ⟨beq_iff_eq.mp hkind, action, LifecycleAction.name_of_ofName? haction⟩
    · cases h
  · rintro ⟨hkind, action, haction⟩
    rw [if_pos (beq_iff_eq.mpr hkind), haction, LifecycleAction.ofName?, action.lookup_name]
    rfl

/-- A step in a container's life is told in a message about containers, which is all that
`eventMessage?` makes. -/
theorem DaemonEvent.IsStep.told {e : DaemonEvent} (h : e.IsStep) :
    ∃ told, ContainerEvent.ofDaemon e = some told ∧ eventMessage? e = some told.toMessage := by
  obtain ⟨told, htold⟩ := Option.isSome_iff_exists.mp (ContainerEvent.isSome_ofDaemon_iff.mpr h)
  exact ⟨told, htold, by rw [eventMessage?, htold, Option.map_some]⟩

namespace World

/-- How many registrations of a connection are not cancelled, which is how often it is offered an
event. -/
def liveCount (w : World) (conn : ConnId) : Nat :=
  (w.hub.of conn).countP fun r => !w.isCancelled r.token

/-- A connection is among the recipients once for each of its live registrations, which is what
`liveCount` counts. -/
theorem count_recipients (w : World) (conn : ConnId) :
    (w.hub.recipients w.cancelled).count conn = w.liveCount conn := by
  rw [Hub.recipients, liveCount, Hub.of, List.count_eq_countP, List.countP_map, List.countP_filter,
    List.countP_filter]
  refine List.countP_congr fun r _ => ?_
  simp [isCancelled, and_comm]

/-- What becomes of a client when a message is offered to everyone. Only its own queue decides, and
it is the queue of before: offers to others leave it alone, and those to itself are
`Outbox.iterate_offer`. -/
theorem client?_broadcast (w : World) (message : Envelope) (conn : ConnId) :
    (w.broadcast message).client? conn = (w.client? conn).map fun c =>
      { c with outbox :=
          if c.outbox.isOpen then c.outbox.pushed (w.liveCount conn) message else c.outbox } := by
  rw [broadcast, client?_updateOutboxes, count_recipients]
  simp only [Outbox.iterate_offer]

/-! ### The number of offers -/

/-- One turn of a pass over the registrations, which keeps the number of the offers made so far. A
registration that is cancelled is skipped. Any other one counts, whether its queue takes the message
or not: what `Outbox.offer` returns is dropped. This is the loop as the hub runs it, while
`World.broadcast` takes the recipients first and counts them apart. -/
def attempt (message : Envelope) (made : World × Nat) (r : Registration) : World × Nat :=
  if made.1.isCancelled r.token then made
  else (made.1.updateOutbox r.conn fun o => (o.offer message).1, made.2 + 1)

/-- An event is handed on in one pass, with the number of the offers that this pass made. -/
def deliver (w : World) (event : DaemonEvent) : World × Nat :=
  match eventMessage? event with
  | some message => w.hub.registrations.foldl (attempt message) (w, 0)
  | none => (w, 0)

/-- What a pass does to the world, and how many offers it adds to those that were made before it.
The induction is on the registrations that are left, so the world and the number vary; which of them
are cancelled does not, since an offer touches the queue of a client and no token. -/
theorem foldl_attempt (w : World) (message : Envelope) (made : Nat)
    (registrations : List Registration) :
    registrations.foldl (attempt message) (w, made) =
      (((registrations.filter fun r => !w.isCancelled r.token).map (·.conn)).foldl
          (fun w conn => w.updateOutbox conn fun o => (o.offer message).1) w,
        made + (registrations.filter fun r => !w.isCancelled r.token).length) := by
  induction registrations generalizing w made with
  | nil => rfl
  | cons r rest ih =>
    rw [List.foldl_cons, attempt]
    -- A cancelled registration is passed over, and is not in the filtered list either.
    cases hcancelled : w.isCancelled r.token with
    | true =>
      rw [if_pos rfl, ih, List.filter_cons_of_neg (by simp [hcancelled])]
    | false =>
      -- An offer cancels nothing, so the rest is filtered in the world of the start.
      have hsame : ∀ t, (w.updateOutbox r.conn fun o => (o.offer message).1).isCancelled t =
          w.isCancelled t := fun _ => rfl
      rw [if_neg Bool.false_ne_true, ih, List.filter_cons_of_pos (by simp [hcancelled])]
      simp only [hsame, List.map_cons, List.foldl_cons, List.length_cons]
      rw [Nat.add_right_comm, Nat.add_assoc]

/-- **The number that is told is that of the offers that were made:** `World.publish` is what the
pass does, and `World.attempts` is what it has counted. -/
theorem deliver_eq (w : World) (event : DaemonEvent) :
    w.deliver event = (w.publish event, w.attempts event) := by
  rw [deliver, publish, World.attempts]
  cases eventMessage? event with
  | none => rfl
  | some message =>
    dsimp only
    rw [foldl_attempt, Nat.zero_add, broadcast, audience, Hub.recipients, List.length_map]
    rfl

/-! ### Fanning out -/

/-- **What becomes of an event that is published.** `silent` is about events of which clients do not
hear, `attempts` and `told` about those of which they do; `rest` and `apart` say what an event
leaves alone, and `counted` that the number which is told is the one that the pass has counted. -/
structure FansOut (w : World) (event : DaemonEvent) : Prop where
  /-- Nothing but clients is touched: no registration comes or goes. -/
  rest : ∃ clients, w.publish event = { w with clients := clients }
  /-- Clients hear of nothing but steps in a container's life. -/
  silent : ¬event.IsStep → w.attempts event = 0 ∧ w.publish event = w
  /-- The number that is told is that of the offers that the pass has made. -/
  counted : w.deliver event = (w.publish event, w.attempts event)
  /-- A step is offered once for each registration that is not cancelled. -/
  attempts : event.IsStep →
    w.attempts event = w.hub.registrations.countP fun r => !w.isCancelled r.token
  /-- All are offered the same message, and their queues take it as far as they have room. Nothing
  else changes about a client, and no client comes or goes. -/
  told : event.IsStep → ∃ told message, ContainerEvent.ofDaemon event = some told ∧
    message = told.toMessage ∧ message.type? = some .containerEvent ∧ message.id = none ∧
    ∀ conn, (w.publish event).client? conn = (w.client? conn).map fun c =>
      { c with outbox :=
          if c.outbox.isOpen then c.outbox.pushed (w.liveCount conn) message else c.outbox }
  /-- What the queue of one connection is at has no effect on any other. -/
  apart : ∀ {conn other : ConnId} (change : Outbox → Outbox), conn ≠ other →
    ((w.updateOutbox other change).publish event).client? conn = (w.publish event).client? conn

/-- Every event fans out, in any world: nothing of this depends on how the registrations came
about. -/
theorem fansOut (w : World) (event : DaemonEvent) : w.FansOut event where
  rest := w.publish_eq event
  silent hstep := by
    have hnone : eventMessage? event = none := by
      rw [eventMessage?, Option.map_eq_none_iff, ← Option.not_isSome_iff_eq_none]
      exact fun h => hstep (ContainerEvent.isSome_ofDaemon_iff.mp h)
    rw [World.attempts, publish, hnone]
    exact ⟨rfl, rfl⟩
  counted := w.deliver_eq event
  attempts hstep := by
    obtain ⟨told, -, hmessage⟩ := hstep.told
    -- The audience is what the recipients are taken from, so their number is that of the live ones.
    rw [World.attempts, hmessage]
    simp only [audience, Hub.recipients, List.length_map, List.countP_eq_length_filter]
    rfl
  told hstep := by
    obtain ⟨told, htold, hmessage⟩ := hstep.told
    refine ⟨told, _, htold, rfl, Envelope.type?_of _ _, rfl, fun conn => ?_⟩
    rw [publish, hmessage]
    exact w.client?_broadcast _ conn
  apart {conn other} change ne := by
    rw [publish, publish]
    split
    · next message _ =>
      -- What is offered to a connection depends on the hub and the tokens only.
      rw [client?_broadcast, client?_broadcast, client?_updateOutbox_of_ne w change ne]
      rfl
    · exact client?_updateOutbox_of_ne w change ne

/-- **Every event fans out,** whatever was done to the hub, to the tokens and to the queues before;
and the hub holds the registrations that were made and not withdrawn since, the oldest first
(`HubCall.standing`). -/
theorem fansOut_calls (services : Services) (calls : List HubCall) :
    (calls.foldl called { services := services }).hub.registrations = HubCall.standing calls ∧
      ∀ event, (calls.foldl called { services := services }).FansOut event := by
  refine ⟨?_, fun event => fansOut _ event⟩
  rw [registrations_calls]
  rfl

/-- A queue that is full and one that is gone stand before one that has room. Its connection is
registered twice, under a token that is cancelled and under one that is not. -/
example :
    let calls : List HubCall :=
      [.connect 0 0, .connect 1 4, .connect 2 4, .subscribe 0 ⟨[0]⟩, .subscribe 1 ⟨[1]⟩,
        .subscribe 2 ⟨[2]⟩, .queue 1 Outbox.drop, .subscribe 2 ⟨[3]⟩, .cancel ⟨[2]⟩]
    let w := calls.foldl called { services := {} }
    let event : DaemonEvent := { kind := "container", action := "die" }
    w.attempts event = 3 ∧
      (w.publish event).clients.map (fun c => c.outbox.queue.length) = [0, 0, 1] := by decide

end World

end Lookout
