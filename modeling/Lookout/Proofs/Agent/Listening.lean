import Lookout.Proofs.Agent.FanOut
import Lookout.Proofs.Agent.Incident
import Lookout.Rehearsal.Listening
import Mathlib.Data.List.Chain

/-!
# No event is lost between two streams

A source of events asks for a stream, hands on what it yields, loses it and asks for the next. What
it can do is settled by the streams that the daemon has for it: `expected` lists it in order. At any
moment until the source stops, what it has done and what it would still do are together just that
(`Tracks.course`), so nothing is left out, nothing is done twice and nothing comes before its time.
To be shut down ends it wherever it is, and is the only thing that does.

Everything else that happens to the agent may come in between, at any time: clients connect,
subscribe and leave, queues fill and are drained. A client hears of an event if it has one
registration that is not cancelled, and room in its queue, when the event is handed on.

* `ListeningMoment`, `Listening.pass` — the source goes on, time passes, or something else happens;
* `Deed`, `expected` — what a source does, and what it will have done if it is let;
* `Hearing` — what the source did, and what a connection heard of it;
* `SourceStep` — all that a source can do in one step;
* `Hearing.Tracks` — what was done and what is to come are what is expected;
* `Hearing.Reconnects`, `Hearing.reconnects_of` — what this means for events, streams and clients.
-/

namespace Lookout.Rehearsal

/-! ### What a daemon has -/

namespace EventScript

/-- The events that a stream yields before it fails or ends. What a script has behind that is never
yielded, as the stream is given up. -/
def events : EventScript → List DaemonEvent
  | (_, .event e) :: rest => e :: events rest
  | _ => []

/-- Whether a stream fails or ends. One that does neither stays silent after its events, and the
source stays with it. -/
def breaks : EventScript → Bool
  | (_, .event _) :: rest => breaks rest
  | [] => false
  | _ :: _ => true

end EventScript

/-- **What a source does.** These are the things that can be seen of it from outside; that it pauses
before it asks again is seen only by the clock. -/
inductive Deed where
  /-- It asks for a stream. -/
  | asked
  /-- It hands an event on. -/
  | told (e : DaemonEvent)
  /-- It gives a stream up, which has failed or ended. -/
  | lost

namespace Deed

/-- The event that is handed on in a deed. -/
def event? : Deed → Option DaemonEvent
  | told e => some e
  | _ => none

/-- The events that are handed on. -/
def events (deeds : List Deed) : List DaemonEvent := deeds.filterMap event?

end Deed

/-- **What a source will have done if it is let,** with a daemon that has these streams for it, and
silent ones after them: it hands on what the first yields, and if that fails or ends goes on to the
next. This is the specification: a function of the streams alone, with no source, no clock and no
agent in it. -/
def expected : List EventScript → List Deed
  | [] => [.asked]
  | s :: rest =>
    .asked :: ((EventScript.events s).map .told ++
      if EventScript.breaks s then .lost :: expected rest else [])

/-! ### Moments -/

/-- **A moment of a source:** it goes on if it can, time passes, or something else happens to the
agent. `passes` is any moment of a world, the shutdown included. -/
inductive ListeningMoment where
  | goesOn
  | waits (millis : Nat)
  | passes (m : World.Moment)

namespace Listening

/-- The source with its daemon after a moment. -/
def pass (l : Listening) : ListeningMoment → Listening
  | .goesOn => l.sourceStep?.getD l
  | .waits millis => { l with now := l.now + millis }
  | .passes m => { l with world := l.world.pass m }

/-- What was done from one time to another: a stream was asked for, or something that was to come
from the stream was taken in. Read off the calls and the script that is playing, and not noted by
the source itself. -/
def deeds (l l' : Listening) : List Deed :=
  if l.calls.length < l'.calls.length then [.asked]
  else if l'.playing.length < l.playing.length then
    match l.playing with
    | (_, .event e) :: _ => [.told e]
    | _ => [.lost]
  else []

/-- Whether a connection hears of an event that is handed on now: it is registered once under a
token that is not cancelled, and its queue is open and has room. -/
def hears (l : Listening) (conn : ConnId) : Bool :=
  l.world.liveCount conn = 1 &&
    (l.world.client? conn).any fun c => c.outbox.isOpen && c.outbox.hasRoom

end Listening

/-- **A source, what it did, and what a connection heard of it.** -/
structure Hearing where
  listening : Listening
  deeds : List Deed := []
  /-- What entered the queue of the connection when the source went on. -/
  heard : List Envelope := []
  /-- Whether the connection could hear of every event that was handed on. -/
  attentive : Bool := true

namespace Hearing

/-- The events that were handed on. -/
def events (r : Hearing) : List DaemonEvent := Deed.events r.deeds

/-- A moment is noted: what the source did in it, and what of it entered the queue of the
connection. Other moments may fill and empty the queue too, which is why it is only read when the
source goes on. -/
def note (conn : ConnId) (r : Hearing) (m : ListeningMoment) : Hearing :=
  let l := r.listening
  let l' := l.pass m
  match m with
  | .goesOn =>
    { listening := l'
      deeds := r.deeds ++ l.deeds l'
      heard := r.heard ++ (l'.world.queueOf conn).drop (l.world.queueOf conn).length
      attentive := r.attentive && ((Deed.events (l.deeds l')).isEmpty || l.hears conn) }
  | _ => { r with listening := l' }

/-- A source that is about to start, with nothing done and nothing heard. -/
def new (delay : Nat) (scripts : List EventScript) (world : World) : Hearing :=
  { listening := { source := { delay }, scripts, world } }

end Hearing

/-! ### Steps -/

namespace Listening

/-- **All that a source can do in one step.** The list is what is done in it, and only three of the
six do anything. Each but the first needs an agent that is not shut down. -/
inductive SourceStep (l : Listening) : List Deed → Listening → Prop where
  | stops (shutdown : l.world.isShutDown = true) :
    SourceStep l [] { l with source := { l.source with phase := .stopped } }
  | asks (going : l.world.isShutDown = false) (phase : l.source.phase = .starting) :
    SourceStep l [.asked] { l with
      source := { l.source with phase := .listening }
      calls := l.now :: l.calls
      playing := l.scripts.headD []
      scripts := l.scripts.tail
      due := none }
  /-- It waits for its stream. -/
  | times (due : Nat) (going : l.world.isShutDown = false) (phase : l.source.phase = .listening) :
    SourceStep l [] { l with due := some due }
  | tells {delay : Nat} {e : DaemonEvent} {rest : EventScript}
    (going : l.world.isShutDown = false) (phase : l.source.phase = .listening)
    (playing : l.playing = (delay, .event e) :: rest) :
    SourceStep l [.told e] { l with world := l.world.publish e, playing := rest, due := none }
  | loses {delay : Nat} {item : EventItem} {rest : EventScript} (due : Nat)
    (going : l.world.isShutDown = false) (phase : l.source.phase = .listening)
    (playing : l.playing = (delay, item) :: rest) (broken : ∀ e, item ≠ .event e) :
    SourceStep l [.lost] { l with
      source := { l.source with phase := .pausing due }, playing := rest, due := none }
  /-- It has waited long enough for the next stream. -/
  | restarts {due : Nat} (going : l.world.isShutDown = false)
    (phase : l.source.phase = .pausing due) :
    SourceStep l [] { l with source := { l.source with phase := .starting } }

variable {l l' : Listening}

/-- A source that can go on does, and `pass` comes to what `sourceStep?` has. -/
theorem pass_of_some (h : l.sourceStep? = some l') : l.pass .goesOn = l' := by
  rw [pass, h]
  rfl

/-- A source that waits stays where it is: `sourceStep?` has nothing for it. -/
theorem pass_of_none (h : l.sourceStep? = none) : l.pass .goesOn = l := by
  rw [pass, h]
  rfl

/-- Nothing was done where no stream was asked for (`calls`) and nothing was taken in
(`playing`). -/
theorem deeds_of_same (calls : l'.calls = l.calls) (playing : l'.playing = l.playing) :
    l.deeds l' = [] := by
  rw [deeds, calls, playing, if_neg (Nat.lt_irrefl _), if_neg (Nat.lt_irrefl _)]

/-- A step in which nothing is done is one with the `deeds` that are read off it. -/
theorem SourceStep.idle (h : SourceStep l [] l') (calls : l'.calls = l.calls)
    (playing : l'.playing = l.playing) : SourceStep l (l.deeds l') l' := by
  rw [deeds_of_same calls playing]
  exact h

/-- A source whose agent is shut down stops, by the constructor `stops`. -/
theorem sourceStep_stops (shutdown : l.world.isShutDown = true) :
    SourceStep l (l.deeds l.proceed) l.proceed := by
  have hproceed : l.proceed = { l with source := { l.source with phase := .stopped } } := by
    rw [proceed, shutdown]
    rfl
  rw [hproceed]
  exact (SourceStep.stops shutdown).idle rfl rfl

/-- A source that listens takes in what its stream yields: it hands an event on (`tells`), and gives
up a stream that breaks (`loses`). -/
theorem sourceStep_yield (going : l.world.isShutDown = false)
    (phase : l.source.phase = .listening) {delay : Nat} {item : EventItem} {rest : EventScript}
    (playing : l.playing = (delay, item) :: rest) :
    SourceStep l (l.deeds (l.yield item rest)) (l.yield item rest) := by
  by_cases hevent : ∃ e, item = .event e
  · obtain ⟨e, rfl⟩ := hevent
    have hyield : l.yield (.event e) rest =
        { l with world := l.world.publish e, playing := rest, due := none } := by
      simp only [yield, EventSource.resume, phase]
      rfl
    have hdeeds : l.deeds (l.yield (.event e) rest) = [.told e] := by
      simp [hyield, deeds, playing]
    rw [hdeeds, hyield]
    exact .tells going phase playing
  -- A failure and an end are the same to the source, so they are one case from here on.
  · have hbroken : ∀ e, item ≠ .event e := fun e heq => hevent ⟨e, heq⟩
    have hyield : l.yield item rest = { l with
        source := { l.source with phase := .pausing (wakeTime l.now l.source.delay) }
        playing := rest, due := none } := by
      cases item with
      | event e => exact absurd rfl (hbroken e)
      | failed => simp only [yield, EventSource.resume, phase]
      | ended => simp only [yield, EventSource.resume, phase]
    have hdeeds : l.deeds (l.yield item rest) = [.lost] := by
      cases item with
      | event e => exact absurd rfl (hbroken e)
      | failed => simp [hyield, deeds, playing]
      | ended => simp [hyield, deeds, playing]
    rw [hdeeds, hyield]
    exact .loses _ going phase playing hbroken

/-- To take something in is to do something: `yield` makes `playing` shorter. -/
theorem deeds_yield_ne_nil {delay : Nat} {item : EventItem} {rest : EventScript}
    (playing : l.playing = (delay, item) :: rest) : l.deeds (l.yield item rest) ≠ [] := by
  have hcalls : (l.yield item rest).calls = l.calls := rfl
  have hplaying : (l.yield item rest).playing = rest := rfl
  rw [deeds, hcalls, hplaying, playing, if_neg (Nat.lt_irrefl _),
    if_pos (by rw [List.length_cons]; exact Nat.lt_succ_self _)]
  cases item <;> nofun

/-- A source that starts asks for the next stream, which is then what is `playing`. -/
theorem proceed_of_starting (going : l.world.isShutDown = false)
    (phase : l.source.phase = .starting) :
    l.proceed = { l with
      source := { l.source with phase := .listening }
      calls := l.now :: l.calls
      playing := l.scripts.headD []
      scripts := l.scripts.tail
      due := none } ∧ l.deeds l.proceed = [.asked] := by
  have hproceed : l.proceed = { l with
      source := { l.source with phase := .listening }
      calls := l.now :: l.calls
      playing := l.scripts.headD []
      scripts := l.scripts.tail
      due := none } := by
    simp only [proceed, going, EventSource.proceed, phase]
    rfl
  exact ⟨hproceed, by simp [hproceed, deeds]⟩

/-- A source that has paused long enough is to start again, in a step of its own. -/
theorem proceed_of_pausing (going : l.world.isShutDown = false) {due : Nat}
    (phase : l.source.phase = .pausing due) (waited : due ≤ l.now) :
    l.proceed = { l with source := { l.source with phase := .starting } } := by
  simp only [proceed, going, EventSource.proceed, phase]
  simp [waited]

/-- **A source does nothing else** than a `SourceStep`. First by whether the agent is shut down,
which every phase asks before all else, and then by the phase. -/
theorem sourceStep_of (h : l.sourceStep? = some l') : SourceStep l (l.deeds l') l' := by
  unfold sourceStep? at h
  dsimp only at h
  cases hshutdown : l.world.isShutDown with
  | true =>
    -- Whatever it is at, to be shut down counts before all else.
    have hproceed : l.proceed = l' := by
      split at h
      · exact Option.some.inj h
      · rw [if_pos hshutdown] at h
        exact Option.some.inj h
      · rw [if_pos (.inl hshutdown)] at h
        exact Option.some.inj h
      · cases h
    rw [← hproceed]
    exact sourceStep_stops hshutdown
  | false =>
    have hnot : ¬l.world.isShutDown = true := by simp [hshutdown]
    split at h
    · next phase =>
      obtain ⟨hproceed, hdeeds⟩ := proceed_of_starting hshutdown phase
      obtain rfl := Option.some.inj h
      rw [hdeeds, hproceed]
      exact .asks hshutdown phase
    · next phase =>
      -- While it listens, an item comes when it is due; before, the time until then is set.
      rw [if_neg hnot] at h
      split at h
      · cases h
      · obtain rfl := Option.some.inj h
        exact (SourceStep.times _ hshutdown phase).idle rfl rfl
      · next playing =>
        split at h
        · obtain rfl := Option.some.inj h
          exact sourceStep_yield hshutdown phase playing
        · cases h
    · next due phase =>
      split at h
      · next hdue =>
        obtain rfl := Option.some.inj h
        rw [proceed_of_pausing hshutdown phase (hdue.resolve_left hnot)]
        exact (SourceStep.restarts hshutdown phase).idle rfl rfl
      · cases h
    · cases h

/-! ### What is to come -/

/-- What a source will do with the stream that it has, and with those after it. Without the request
for the stream, which was done before. -/
def remaining (playing : EventScript) (scripts : List EventScript) : List Deed :=
  (EventScript.events playing).map .told ++
    if EventScript.breaks playing then .lost :: expected scripts else []

/-- What is expected is to ask for the first stream, and then what remains with it. -/
theorem expected_eq (scripts : List EventScript) :
    expected scripts = .asked :: remaining (scripts.headD []) scripts.tail := by
  cases scripts <;> rfl

/-- What a source will do if it is let, by its phase. A source that stopped does nothing more,
whatever streams are left. -/
def toCome (l : Listening) : List Deed :=
  match l.source.phase with
  | .starting | .pausing _ => expected l.scripts
  | .listening => remaining l.playing l.scripts
  | .stopped => []

/-- A source that starts has all its streams to come, `expected`. -/
theorem toCome_of_starting (phase : l.source.phase = .starting) :
    l.toCome = expected l.scripts := by
  rw [toCome, phase]

/-- A source that listens has the rest of its stream to come, and those after it. -/
theorem toCome_of_listening (phase : l.source.phase = .listening) :
    l.toCome = remaining l.playing l.scripts := by
  rw [toCome, phase]

theorem toCome_of_pausing {due : Nat} (phase : l.source.phase = .pausing due) :
    l.toCome = expected l.scripts := by
  rw [toCome, phase]

variable {done : List Deed}

/-- **A step does what comes next,** unless the source stops for good. This is the step lemma of
`Hearing.Tracks.course`: what is done moves from what is to come to what was done. -/
theorem SourceStep.toCome_eq (h : SourceStep l done l') (going : l.world.isShutDown = false) :
    done ++ l'.toCome = l.toCome ∧ l'.source.phase ≠ .stopped := by
  cases h with
  | stops shutdown =>
    rw [going] at shutdown
    cases shutdown
  | asks _ phase => exact ⟨by rw [toCome_of_starting phase, expected_eq]; rfl, nofun⟩
  | times due _ phase => exact ⟨rfl, by rw [phase]; nofun⟩
  | @tells delay e rest _ phase playing =>
    refine ⟨?_, by rw [phase]; nofun⟩
    have hlater : toCome { l with world := l.world.publish e, playing := rest, due := none } =
        remaining rest l.scripts := toCome_of_listening phase
    rw [hlater, toCome_of_listening phase, playing]
    rfl
  | @loses delay item rest due _ phase playing broken =>
    refine ⟨?_, nofun⟩
    -- A stream that breaks has no events left, so its loss is what comes first.
    rw [toCome_of_listening phase, playing]
    cases item with
    | event e => exact absurd rfl (broken e)
    | failed => rfl
    | ended => rfl
  | restarts _ phase => exact ⟨by rw [toCome_of_pausing phase]; rfl, nofun⟩

/-- Once the agent is shut down nothing is done any more, whatever the source is at. -/
theorem SourceStep.of_shutdown (h : SourceStep l done l')
    (shutdown : l.world.isShutDown = true) :
    done = [] ∧ l'.world = l.world ∧ l'.source.phase = .stopped := by
  cases h with
  | stops => exact ⟨rfl, rfl, rfl⟩
  | asks going | times _ going | tells going | loses _ going | restarts going =>
    rw [going] at shutdown
    cases shutdown

/-- Of the world a step changes what the events change that it hands on: that of `tells` and nothing
else. -/
theorem SourceStep.world_eq (h : SourceStep l done l') :
    l'.world = (Deed.events done).foldl World.publish l.world := by
  cases h <;> rfl

/-! ### What is heard -/

/-- A connection that hears of an event has its message queued, once and behind all others. If
clients do not hear of the event at all, there is no message. -/
theorem queueOf_publish {conn : ConnId} (attends : l.hears conn = true) (event : DaemonEvent) :
    (l.world.publish event).queueOf conn =
      l.world.queueOf conn ++ (eventMessage? event).toList := by
  rw [hears, Bool.and_eq_true, decide_eq_true_eq] at attends
  -- An attentive client is registered once and has room, so it is offered the message once and
  -- takes it.
  obtain ⟨once, hqueue⟩ := attends
  obtain ⟨c, found, hopen⟩ := (Option.any_eq_true _ _).mp hqueue
  obtain ⟨listening, room⟩ := Bool.and_eq_true_iff.mp hopen
  rw [World.publish]
  split
  · next message hmessage =>
    have hpos : 0 < c.outbox.room := by simpa [Outbox.hasRoom] using room
    have hroom : min 1 c.outbox.room = 1 := Nat.min_eq_left hpos
    rw [World.queueOf, World.client?_broadcast, found, once, World.queueOf_of_client found]
    simp [listening, Outbox.pushed, hroom, hmessage]
  · next hmessage => rw [hmessage, Option.toList_none, List.append_nil]

/-- What enters the queue in a step are the messages of the events that it hands on, for a
connection that hears of them. -/
theorem SourceStep.queueOf_eq {conn : ConnId} (h : SourceStep l done l')
    (attends : ((Deed.events done).isEmpty || l.hears conn) = true) :
    l'.world.queueOf conn =
      l.world.queueOf conn ++ (Deed.events done).filterMap eventMessage? := by
  cases h with
  | @tells delay e rest =>
    have hmessages : (Deed.events [.told e]).filterMap eventMessage? =
        (eventMessage? e).toList := by
      cases hmessage : eventMessage? e <;> simp [Deed.events, Deed.event?, hmessage]
    rw [hmessages]
    exact queueOf_publish attends e
  | stops | asks | times | loses | restarts => exact (List.append_nil _).symm

end Listening

/-! ### What holds at any moment -/

namespace Hearing

open Listening

/-- **What was done and what is to come are what is expected,** until the source stops; and a
connection that could hear of all events has heard of all. Once it has stopped, what was done is the
front of what is expected, and the agent is shut down, which is the only reason to stop. -/
structure Tracks (scripts : List EventScript) (r : Hearing) : Prop where
  course : (r.listening.source.phase ≠ .stopped ∧
      r.deeds ++ r.listening.toCome = expected scripts) ∨
    (r.listening.source.phase = .stopped ∧ r.listening.world.isShutDown = true ∧
      r.deeds <+: expected scripts)
  heard : r.attentive = true → r.heard = r.events.filterMap eventMessage?

variable {scripts : List EventScript} {conn : ConnId} {r : Hearing}

theorem Tracks.new (delay : Nat) (scripts : List EventScript) (world : World) :
    (Hearing.new delay scripts world).Tracks scripts :=
  ⟨.inl ⟨nofun, rfl⟩, fun _ => rfl⟩

/-- The `events` of deeds, one list behind the other. -/
theorem events_append (deeds done : List Deed) :
    Deed.events (deeds ++ done) = Deed.events deeds ++ Deed.events done :=
  List.filterMap_append

/-- What a source that goes on does is noted, and what is heard of it. Both halves are those of one
step: `SourceStep.toCome_eq` for the course, `SourceStep.queueOf_eq` for what is heard. -/
theorem Tracks.step (h : r.Tracks scripts) {l' : Listening} {done : List Deed}
    (hstep : SourceStep r.listening done l') : Tracks scripts
      { listening := l'
        deeds := r.deeds ++ done
        heard := r.heard ++
          (l'.world.queueOf conn).drop (r.listening.world.queueOf conn).length
        attentive := r.attentive && ((Deed.events done).isEmpty || r.listening.hears conn) } where
  course := by
    cases hshutdown : r.listening.world.isShutDown with
    | true =>
      -- Nothing more is done, and the source stops.
      obtain ⟨rfl, hworld, hstopped⟩ := hstep.of_shutdown hshutdown
      refine .inr ⟨hstopped, by rw [hworld, hshutdown], ?_⟩
      rw [List.append_nil]
      rcases h.course with ⟨-, heq⟩ | ⟨-, -, hprefix⟩
      · exact ⟨_, heq⟩
      · exact hprefix
    | false =>
      obtain ⟨hnext, hgoing⟩ := hstep.toCome_eq hshutdown
      rcases h.course with ⟨-, heq⟩ | ⟨-, hdown, -⟩
      · refine .inl ⟨hgoing, ?_⟩
        rw [List.append_assoc, hnext, heq]
      · rw [hshutdown] at hdown
        cases hdown
  heard attentive := by
    obtain ⟨hbefore, hattends⟩ := Bool.and_eq_true_iff.mp attentive
    rw [hstep.queueOf_eq hattends, List.drop_left, h.heard hbefore, Hearing.events, Hearing.events,
      events_append, List.filterMap_append]

/-- Every moment keeps track. Only those in which the source goes on do anything, and they are
`Tracks.step`. -/
theorem Tracks.note (h : r.Tracks scripts) (conn : ConnId) (m : ListeningMoment) :
    (r.note conn m).Tracks scripts := by
  -- Only when the source goes on is something done; time and what clients do leave its course
  -- alone.
  cases m with
  | goesOn =>
    cases hstep : r.listening.sourceStep? with
    | none =>
      rw [Hearing.note, pass_of_none hstep, deeds_of_same rfl rfl]
      simpa [Deed.events] using h
    | some l' =>
      rw [Hearing.note, pass_of_some hstep]
      exact h.step (sourceStep_of hstep)
  | waits millis => exact ⟨h.course, h.heard⟩
  | passes m =>
    refine ⟨h.course.imp_right fun ⟨hstopped, hdown, hprefix⟩ => ⟨hstopped, ?_, hprefix⟩, h.heard⟩
    exact (World.pass_changes r.listening.world m).isCancelled hdown

theorem Tracks.foldl (h : r.Tracks scripts) (conn : ConnId) (moments : List ListeningMoment) :
    (moments.foldl (Hearing.note conn) r).Tracks scripts := by
  induction moments generalizing r with
  | nil => exact h
  | cons m rest ih => exact ih (h.note conn m)

/-! ### After the agent is shut down -/

/-- An agent that is shut down stays so, and nothing is noted of the source any more. -/
theorem isShutDown_note (conn : ConnId) (m : ListeningMoment)
    (shutdown : r.listening.world.isShutDown = true) :
    (r.note conn m).listening.world.isShutDown = true ∧ (r.note conn m).deeds = r.deeds ∧
      (r.note conn m).heard = r.heard := by
  cases m with
  | goesOn =>
    -- A source that goes on after a shutdown stops, and does nothing else.
    have hpass : (r.listening.pass .goesOn).world = r.listening.world ∧
        r.listening.deeds (r.listening.pass .goesOn) = [] := by
      cases hstep : r.listening.sourceStep? with
      | none =>
        rw [pass_of_none hstep]
        exact ⟨rfl, deeds_of_same rfl rfl⟩
      | some l' =>
        rw [pass_of_some hstep]
        obtain ⟨hnone, hworld, -⟩ := (sourceStep_of hstep).of_shutdown shutdown
        exact ⟨hworld, hnone⟩
    obtain ⟨hworld, hnone⟩ := hpass
    refine ⟨?_, ?_, ?_⟩
    · exact (congrArg World.isShutDown hworld).trans shutdown
    · change r.deeds ++ r.listening.deeds (r.listening.pass .goesOn) = r.deeds
      rw [hnone, List.append_nil]
    · change r.heard ++ ((r.listening.pass .goesOn).world.queueOf conn).drop _ = r.heard
      rw [hworld, List.drop_length, List.append_nil]
  | waits millis => exact ⟨shutdown, rfl, rfl⟩
  | passes m =>
    exact ⟨(World.pass_changes r.listening.world m).isCancelled shutdown, rfl, rfl⟩

/-- **Nothing is done once the agent is shut down.** The induction is on the moments, with
`isShutDown_note` for each. -/
theorem foldl_of_shutdown (conn : ConnId) (later : List ListeningMoment)
    (shutdown : r.listening.world.isShutDown = true) :
    (later.foldl (Hearing.note conn) r).deeds = r.deeds ∧
      (later.foldl (Hearing.note conn) r).heard = r.heard := by
  induction later generalizing r with
  | nil => exact ⟨rfl, rfl⟩
  | cons m rest ih =>
    obtain ⟨hdown, hdeeds, hheard⟩ := isShutDown_note conn m shutdown
    obtain ⟨hdeeds', hheard'⟩ := ih hdown
    exact ⟨hdeeds'.trans hdeeds, hheard'.trans hheard⟩

/-! ### Until then -/

/-- Something will be so without anything but the source and the clock. `later` is the run that
brings it about, of steps of the source and of waiting; no client and no daemon has to do
anything. -/
def Comes (conn : ConnId) (r : Hearing) (P : Hearing → Prop) : Prop :=
  ∃ later : List ListeningMoment, (∀ m ∈ later, m = .goesOn ∨ ∃ millis, m = .waits millis) ∧
    P (later.foldl (Hearing.note conn) r)

variable {P : Hearing → Prop}

theorem Comes.now (h : P r) : r.Comes conn P := ⟨[], nofun, h⟩

theorem Comes.goesOn (h : (r.note conn .goesOn).Comes conn P) : r.Comes conn P := by
  obtain ⟨later, hown, hp⟩ := h
  exact ⟨.goesOn :: later, List.forall_mem_cons.mpr ⟨.inl rfl, hown⟩, hp⟩

theorem Comes.waits (millis : Nat) (h : (r.note conn (.waits millis)).Comes conn P) :
    r.Comes conn P := by
  obtain ⟨later, hown, hp⟩ := h
  exact ⟨.waits millis :: later, List.forall_mem_cons.mpr ⟨.inr ⟨millis, rfl⟩, hown⟩, hp⟩

/-- More than so much was done, and the agent is not shut down. Said of the number of deeds, so that
it can be used for whatever the next deed is. -/
def Gained (n : Nat) (r : Hearing) : Prop :=
  r.listening.world.isShutDown = false ∧ n < r.deeds.length

/-- What is noted of a step that a source takes: its `deeds`, behind those that were done. -/
theorem note_goesOn (conn : ConnId) {l' : Listening} (hstep : r.listening.sourceStep? = some l') :
    (r.note conn .goesOn).listening = l' ∧
      (r.note conn .goesOn).deeds = r.deeds ++ r.listening.deeds l' := by
  have hpass := pass_of_some hstep
  exact ⟨hpass, congrArg (r.deeds ++ r.listening.deeds ·) hpass⟩

/-- No step shuts the agent down: it publishes events, and these cancel nothing. -/
theorem going_note {l' : Listening} (going : r.listening.world.isShutDown = false)
    (hstep : r.listening.sourceStep? = some l') :
    (r.note conn .goesOn).listening.world.isShutDown = false := by
  rw [(note_goesOn conn hstep).1, (sourceStep_of hstep).world_eq]
  generalize Deed.events (r.listening.deeds l') = events
  generalize r.listening.world = w at going
  induction events generalizing w with
  | nil => exact going
  | cons e rest ih =>
    refine ih _ ?_
    rw [World.isShutDown, World.isCancelled_publish]
    exact going

/-- A step in which something is done gains: there are more `deeds` than `n`. -/
theorem gained_note {l' : Listening} {n : Nat} (going : r.listening.world.isShutDown = false)
    (hstep : r.listening.sourceStep? = some l') (something : r.listening.deeds l' ≠ [])
    (before : n ≤ r.deeds.length) : Gained n (r.note conn .goesOn) := by
  refine ⟨going_note going hstep, ?_⟩
  rw [(note_goesOn conn hstep).2, List.length_append]
  have hpos := List.length_pos_iff.mpr something
  omega

variable {n : Nat}

theorem comes_of_starting (going : r.listening.world.isShutDown = false)
    (phase : r.listening.source.phase = .starting) (before : n ≤ r.deeds.length) :
    r.Comes conn (Gained n) := by
  have hstep : r.listening.sourceStep? = some r.listening.proceed := by
    simp only [sourceStep?, phase]
  refine .goesOn (.now (gained_note going hstep ?_ before))
  rw [(proceed_of_starting going phase).2]
  nofun

/-- A source that pauses starts again when its time has come. Two steps are needed: the first ends
the pause and the second asks for the stream, as `comes_of_starting` says. -/
theorem comes_of_pausing {due : Nat} (going : r.listening.world.isShutDown = false)
    (phase : r.listening.source.phase = .pausing due) (before : n ≤ r.deeds.length) :
    r.Comes conn (Gained n) := by
  refine .waits due (.goesOn ?_)
  -- The clock has moved, and nothing else.
  have hwaited : due ≤ (r.note conn (.waits due)).listening.now := Nat.le_add_left due _
  have hproceed : (r.note conn (.waits due)).listening.proceed = _ :=
    proceed_of_pausing going phase hwaited
  have hstep : (r.note conn (.waits due)).listening.sourceStep? =
      some (r.note conn (.waits due)).listening.proceed := by
    have hphase : (r.note conn (.waits due)).listening.source.phase = .pausing due := phase
    simp only [sourceStep?, hphase]
    exact if_pos (.inr hwaited)
  obtain ⟨hlistening, hdeeds⟩ := note_goesOn conn hstep
  refine comes_of_starting (going_note going hstep) ?_ ?_
  · rw [hlistening, hproceed]
  · rw [hdeeds, List.length_append]
    exact Nat.le_add_right_of_le before

/-- A source that listens takes in what its stream yields next, when its time has come. The clock
moves first, to the time `due` that was set when the source began to wait for it. -/
theorem comes_of_due {due delay : Nat} {item : EventItem} {rest : EventScript}
    (going : r.listening.world.isShutDown = false)
    (phase : r.listening.source.phase = .listening)
    (playing : r.listening.playing = (delay, item) :: rest) (asked : r.listening.due = some due)
    (before : n ≤ r.deeds.length) : r.Comes conn (Gained n) := by
  -- Time has to pass until the item is due, and then the source has to go on once.
  refine .waits due (.goesOn (.now ?_))
  have hwaited : due ≤ (r.note conn (.waits due)).listening.now := Nat.le_add_left due _
  have hgoing : (r.note conn (.waits due)).listening.world.isShutDown = false := going
  have hphase : (r.note conn (.waits due)).listening.source.phase = .listening := phase
  have hplaying : (r.note conn (.waits due)).listening.playing = (delay, item) :: rest := playing
  have hasked : (r.note conn (.waits due)).listening.due = some due := asked
  have hstep : (r.note conn (.waits due)).listening.sourceStep? =
      some ((r.note conn (.waits due)).listening.yield item rest) := by
    simp only [sourceStep?, hphase, hgoing, hplaying, hasked]
    exact if_pos hwaited
  exact gained_note hgoing hstep (deeds_yield_ne_nil hplaying) before

/-- **What is to come comes,** unless the agent is shut down: as long as `toCome` is not empty, more
is done in the end. By the phase of the source; one that listens and has not set its time yet sets
it first. -/
theorem comes_next (going : r.listening.world.isShutDown = false)
    (more : r.listening.toCome ≠ []) (before : n ≤ r.deeds.length) : r.Comes conn (Gained n) := by
  -- By the phase, each of which is one step nearer to the next item, or has none to come.
  cases phase : r.listening.source.phase with
  | starting => exact comes_of_starting going phase before
  | pausing due => exact comes_of_pausing going phase before
  | stopped =>
    rw [toCome, phase] at more
    exact absurd rfl more
  | listening =>
    rw [toCome_of_listening phase] at more
    cases playing : r.listening.playing with
    | nil =>
      -- A stream that stays silent is all that is left.
      rw [playing] at more
      exact absurd rfl more
    | cons next rest =>
      obtain ⟨delay, item⟩ := next
      cases asked : r.listening.due with
      | some due => exact comes_of_due going phase playing asked before
      | none =>
        have hstep : r.listening.sourceStep? =
            some { r.listening with due := some (wakeTime r.listening.now delay) } := by
          simp only [sourceStep?, phase, going, playing, asked]
          rfl
        obtain ⟨hlistening, hdeeds⟩ := note_goesOn conn hstep
        have hphase : (r.note conn .goesOn).listening.source.phase = .listening := by
          rw [hlistening, phase]
        have hplaying : (r.note conn .goesOn).listening.playing = (delay, item) :: rest := by
          rw [hlistening, playing]
        have hasked : (r.note conn .goesOn).listening.due =
            some (wakeTime r.listening.now delay) := by rw [hlistening]
        refine .goesOn (comes_of_due (going_note going hstep) hphase hplaying hasked ?_)
        rw [hdeeds, List.length_append]
        exact Nat.le_add_right_of_le before

/-- What comes of what comes, comes: the moments of the one stand before those of the other. -/
theorem Comes.trans {Q : Hearing → Prop} (h : r.Comes conn P)
    (next : ∀ later : List ListeningMoment, P (later.foldl (Hearing.note conn) r) →
      (later.foldl (Hearing.note conn) r).Comes conn Q) : r.Comes conn Q := by
  obtain ⟨later, hown, hp⟩ := h
  obtain ⟨later', hown', hq⟩ := next later hp
  refine ⟨later ++ later', fun m hm => ?_, ?_⟩
  · exact (List.mem_append.mp hm).elim (hown m) (hown' m)
  · rwa [List.foldl_append]

/-- **All that is expected is done in the end.** The induction is on the length of what is to come:
`comes_next` makes it shorter, as what was done and what is to come are together the same
(`hcourse`). -/
theorem Tracks.comes_all (h : r.Tracks scripts) (going : r.listening.world.isShutDown = false) :
    r.Comes conn fun r' => r'.deeds = expected scripts := by
  have hcourse : ∀ {r : Hearing}, r.Tracks scripts → r.listening.world.isShutDown = false →
      r.deeds ++ r.listening.toCome = expected scripts := fun h going =>
    h.course.elim And.right fun ⟨_, hdown, _⟩ => by
      rw [going] at hdown
      cases hdown
  generalize hlength : r.listening.toCome.length = length
  induction length using Nat.strong_induction_on generalizing r with
  | _ length ih =>
    cases more : r.listening.toCome with
    | nil =>
      have hall := hcourse h going
      rw [more, List.append_nil] at hall
      exact .now hall
    | cons next rest =>
      have hnext : r.Comes conn (Gained r.deeds.length) :=
        comes_next going (by rw [more]; nofun) (Nat.le_refl _)
      refine hnext.trans ?_
      rintro later ⟨hgoing, hmore⟩
      have htracks := h.foldl conn later
      -- What was done more is no longer to come.
      have hlengths := congrArg List.length ((hcourse h going).trans (hcourse htracks hgoing).symm)
      rw [List.length_append, List.length_append] at hlengths
      exact ih _ (by omega) htracks hgoing rfl

/-! ### Streams and events -/

/-- The `events` of deeds that only hand events on are these events. -/
theorem events_map_told (events : List DaemonEvent) : Deed.events (events.map .told) = events := by
  rw [Deed.events, List.filterMap_map]
  exact List.filterMap_some

/-- The events that are expected are those of the streams, as far as one after the other breaks. A
stream that never breaks is the last one. -/
theorem events_expected_isPrefix (scripts : List EventScript) :
    Deed.events (expected scripts) <+: scripts.flatMap EventScript.events := by
  induction scripts with
  | nil => exact List.nil_prefix
  | cons s rest ih =>
    have hevents : Deed.events (expected (s :: rest)) = EventScript.events s ++
        Deed.events (if EventScript.breaks s then .lost :: expected rest else []) := by
      change Deed.events ((EventScript.events s).map .told ++ _) = _
      rw [events_append, events_map_told]
    rw [hevents, List.flatMap_cons]
    split
    · exact (List.prefix_append_right_inj _).mpr ih
    · exact (List.prefix_append_right_inj _).mpr List.nil_prefix

/-- A stream is asked for when the one before was lost, and at no other time. -/
def Reopens (d d' : Deed) : Prop := d' = .asked → d = .lost

/-- In what is `expected` every request but the first stands behind a loss. -/
theorem isChain_expected (scripts : List EventScript) : (expected scripts).IsChain Reopens := by
  induction scripts with
  | nil => exact List.isChain_singleton _
  | cons s rest ih =>
    -- What comes behind the last event of the first stream.
    have hrest : ∀ d : Deed,
        (d :: if EventScript.breaks s then .lost :: expected rest else []).IsChain Reopens := by
      intro d
      split
      · have hlost : (Deed.lost :: expected rest).IsChain Reopens := by
          rw [List.isChain_cons]
          exact ⟨fun _ _ _ => rfl, ih⟩
        exact List.isChain_cons_cons.mpr ⟨nofun, hlost⟩
      · exact List.isChain_singleton d
    -- Behind what is told comes the loss of the stream, or nothing.
    have htold : ∀ (d : Deed) (events : List DaemonEvent), (d :: (events.map .told ++
        if EventScript.breaks s then .lost :: expected rest else [])).IsChain Reopens := by
      intro d events
      induction events generalizing d with
      | nil => exact hrest d
      | cons e later ih => exact List.isChain_cons_cons.mpr ⟨nofun, ih _⟩
    exact htold .asked (EventScript.events s)

/-- **What a source does for the clients that hear of its events.** `course` and `comes` bound what
was done from both sides: it is no more than what is expected, and in the end no less. The other
fields follow from the course, but for `published` and `heard`, which say what to hand an event on
means. -/
structure Reconnects (scripts : List EventScript) (conn : ConnId) (r : Hearing) : Prop where
  /-- It has done what is expected, as far as it has come: for each stream, ask for it, hand on what
  it yields, and give it up when it breaks, before the next one. -/
  course : r.deeds <+: expected scripts
  /-- So it has handed on the events of the streams in order, and none of them twice. -/
  told : r.events <+: scripts.flatMap EventScript.events
  reopened : r.deeds.IsChain Reopens
  /-- To hand events on is to publish them, and nothing else changes the world when it goes on. -/
  published : (r.listening.pass .goesOn).world =
    (Deed.events (r.listening.deeds (r.listening.pass .goesOn))).foldl World.publish
      r.listening.world
  /-- A connection that could hear of all of them has heard of all that clients hear of. -/
  heard : r.attentive = true → r.heard = r.events.filterMap eventMessage?
  /-- Once the agent is shut down it is as it is. -/
  quiet : r.listening.world.isShutDown = true → ∀ later : List ListeningMoment,
    (later.foldl (Hearing.note conn) r).deeds = r.deeds ∧
      (later.foldl (Hearing.note conn) r).heard = r.heard
  /-- And until then all that is expected will be done, by the source alone. -/
  comes : r.listening.world.isShutDown = false →
    r.Comes conn fun r' => r'.deeds = expected scripts

/-- **Every source reconnects,** whatever its daemon has for it and whatever else happens. The
moments are any, so nothing is said of when or how often the source goes on; `Reconnects.comes` says
what is left to it. -/
theorem reconnects_of (delay : Nat) (scripts : List EventScript) (world : World) (conn : ConnId)
    (moments : List ListeningMoment) :
    (moments.foldl (Hearing.note conn) (Hearing.new delay scripts world)).Reconnects scripts
      conn := by
  have h := (Tracks.new delay scripts world).foldl conn moments
  generalize moments.foldl (Hearing.note conn) (Hearing.new delay scripts world) = r at h
  -- It either goes on as expected or was stopped on the way; in both cases it did the front of it.
  have hcourse : r.deeds <+: expected scripts :=
    h.course.elim (fun ⟨_, heq⟩ => ⟨_, heq⟩) fun ⟨_, _, hprefix⟩ => hprefix
  exact
    { course := hcourse
      told := (hcourse.filterMap _).trans (events_expected_isPrefix scripts)
      reopened := by
        obtain ⟨rest, heq⟩ := hcourse
        have hchain := isChain_expected scripts
        rw [← heq] at hchain
        exact hchain.left_of_append
      published := by
        cases hstep : r.listening.sourceStep? with
        | none =>
          rw [pass_of_none hstep, deeds_of_same rfl rfl]
          rfl
        | some l' =>
          rw [pass_of_some hstep]
          exact (sourceStep_of hstep).world_eq
      heard := h.heard
      quiet := fun shutdown later => foldl_of_shutdown conn later shutdown
      comes := h.comes_all }

/-- The first stream fails behind an event, and the second yields one more. A client that subscribed
before has heard of both when the source has listened to the two. -/
example :
    let event := fun action : String => EventItem.event { kind := "container", action }
    let scripts : List EventScript := [[(0, event "die"), (0, .failed)], [(5, event "start")]]
    let moments : List ListeningMoment :=
      .replicate 5 .goesOn ++ [.waits 2000] ++ .replicate 3 .goesOn ++ [.waits 5, .goesOn]
    let r := moments.foldl (Hearing.note listener) { listening := start {} scripts false }
    r.deeds.length = 5 ∧ r.heard.length = 2 ∧ r.attentive = true := by decide

end Hearing

end Lookout.Rehearsal
