import Lookout.Config.Arguments
import Lookout.Proofs.Agent.Admission
import Lookout.Proofs.Agent.Course
import Lookout.Proofs.Agent.Effect
import Lookout.Proofs.Agent.Ownership
import Lookout.Proofs.Task.Chronicle
import Lookout.Proofs.Task.Logbook

/-!
# The time between two messages

What a client asks for is a whole number of seconds, of either sign, or nothing. Whatever it is, the
time that comes of it is at least a second and at most the longest that the limits allow, as long as
the limits themselves are legal; and those that a command line can set are. A task keeps the time
that it was started with, so a sampler is never started without one, and never one with a time that
no ticker can have: no task breaks down, whatever the clients send
(`World.Granted.breaksIn_eq_false`). A task that broke down would leave its subscription behind for
good, since nobody would hear of its end. As it is, each subscription has its task or the end of it.

* `Limits.Legal`, `Limits.Clamps` — what comes of a request;
* `FrameWants`, `Request.frameWants` — a frame asks for a stream and an interval;
* `TaskBody.period?` — the time between two messages of a task, which no incident changes;
* `World.Granted`, `World.Granted.pass` — every task is one that was started for its stream;
* `World.Times`, `World.Call.times` — a task that a frame is granted has the time of its interval;
* `World.periods_history` — the times of all tasks in every history.
-/

namespace Lookout

/-! ### What comes of a request -/

namespace Limits

/-- The limits have a time to wait by default, and it is not more than the longest one. -/
structure Legal (l : Limits) : Prop where
  positive : 1 ≤ l.defaultInterval
  ordered : l.defaultInterval ≤ l.maxInterval

/-- **What comes of a request,** in seconds. -/
structure Clamps (l : Limits) : Prop where
  positive : ∀ requested, 1 ≤ l.interval requested
  bounded : ∀ requested, l.interval requested ≤ l.maxInterval.toNat
  /-- A client gets what it asks for, if it can. -/
  exact : ∀ n : Int64, 1 ≤ n → n.toInt ≤ l.maxInterval.toNat →
    (l.interval (some n) : Int) = n.toInt
  /-- Who asks for more does not get less. -/
  mono : ∀ n n' : Int64, 1 ≤ n → n ≤ n' → l.interval (some n) ≤ l.interval (some n')

/-- A request for a second or more is cut to `maxInterval`. -/
theorem interval_of_one_le (l : Limits) {n : Int64} (h : 1 ≤ n) :
    l.interval (some n) = min n.toInt.toNat l.maxInterval.toNat :=
  if_pos (Int64.le_iff_toInt_le.mp h)

/-- All other requests come to `defaultInterval`, those below a second included. -/
theorem interval_of_not_one_le (l : Limits) {n : Int64} (h : ¬1 ≤ n) :
    l.interval (some n) = l.defaultInterval.toNat :=
  if_neg fun hle => h (Int64.le_iff_toInt_le.mpr hle)

/-- **Limits that are `Legal` clamp.** If the interval of those who ask for none is positive and not
above the greatest one, then every interval is positive and at most the greatest, a wish within
these bounds is granted as it is, and who asks for more does not get less. -/
theorem Legal.clamps {l : Limits} (h : l.Legal) : l.Clamps := by
  have hpositive : 1 ≤ l.defaultInterval.toNat := UInt64.le_iff_toNat_le.mp h.positive
  have hordered : l.defaultInterval.toNat ≤ l.maxInterval.toNat :=
    UInt64.le_iff_toNat_le.mp h.ordered
  have hwithin : ∀ requested, 1 ≤ l.interval requested ∧
      l.interval requested ≤ l.maxInterval.toNat := by
    intro requested
    cases requested with
    | none => exact ⟨hpositive, hordered⟩
    | some n =>
      by_cases hn : 1 ≤ n
      · have hone : (1 : Int) ≤ n.toInt := Int64.le_iff_toInt_le.mp hn
        rw [interval_of_one_le l hn]
        omega
      · rw [interval_of_not_one_le l hn]
        exact ⟨hpositive, hordered⟩
  refine ⟨fun requested => (hwithin requested).1, fun requested => (hwithin requested).2, ?_, ?_⟩
  -- A wish that is not above the bound is the minimum of the two.
  · intro n hn hmax
    have hone : (1 : Int) ≤ n.toInt := Int64.le_iff_toInt_le.mp hn
    rw [interval_of_one_le l hn]
    omega
  -- And the minimum with a fixed bound is monotone.
  · intro n n' hn hle
    have hle' : n.toInt ≤ n'.toInt := Int64.le_iff_toInt_le.mp hle
    rw [interval_of_one_le l hn, interval_of_one_le l (Int64.le_trans hn hle)]
    omega

end Limits

/-- **The limits that a command line sets are `Legal`,** and no time is out of the reach of the
clock. No argument is about the interval, so `toConfig` leaves the default and the greatest one as
they are. -/
theorem Arguments.legal_of_toConfig {a : Arguments} {c : Config} (accepted : a.toConfig = .ok c) :
    c.limits.Legal ∧ c.limits.maxInterval.toNat * 1000 < clockReach := by
  -- The intervals cannot be configured: they are the defaults of the program, whatever the
  -- arguments are.
  have hlimits : c.limits.defaultInterval = 3 ∧ c.limits.maxInterval = 30 := by
    unfold Arguments.toConfig at accepted
    dsimp only at accepted
    split at accepted
    · cases accepted
    · cases accepted
      exact ⟨rfl, rfl⟩
  obtain ⟨hdefault, hmax⟩ := hlimits
  refine ⟨⟨?_, ?_⟩, ?_⟩
  · rw [hdefault]
    decide
  · rw [hdefault, hmax]
    decide
  · rw [hmax]
    decide

/-- What a frame asks for: a stream, with the time between two messages that the payload names, in
seconds. -/
def FrameWants (frame : List UInt8) (stream : Stream) (requested : Option Int64) : Prop :=
  ∃ e r, Envelope.ofBytes frame = .ok e ∧ e.type? = some .subscribe ∧
    e.payloadAs Request.decoder = .ok r ∧ Stream.ofRequest r = .ok stream ∧
    requested = r.intervalSeconds

theorem Request.frameWants {r : Request} {stream : Stream} (means : r.Means stream) :
    FrameWants (r.frame .subscribe) stream r.intervalSeconds :=
  ⟨_, r, ofBytes_frame, Envelope.type?_of .subscribe _, lossless.decodes r,
    Stream.ofRequest_eq_ok_iff.mpr means, rfl⟩

theorem FrameWants.asks {frame : List UInt8} {stream : Stream} {requested : Option Int64}
    (h : FrameWants frame stream requested) : FrameAsks frame .subscribe stream := by
  obtain ⟨e, r, hread, htype, hpayload, hrequest, -⟩ := h
  exact ⟨e, hread, htype, r, hpayload, hrequest⟩

namespace Session

variable {services : Services} {s : Session} {stream : Stream} {interval : Option Int64}

/-- A stream is started with the interval that the payload asks for, be it within the limits or not:
it is cut later. -/
theorem interval_of_decide_start {e : Envelope}
    (h : s.decide services e = .start stream interval) :
    ∃ r, e.payloadAs Request.decoder = .ok r ∧ interval = r.intervalSeconds := by
  -- Only a subscribe request starts anything, and only where its payload was decoded.
  unfold decide at h
  split at h
  · unfold decideSubscribe at h
    split at h
    · cases h
    · next r hpayload =>
      split at h
      · cases h
      · cases h
        exact ⟨r, hpayload, rfl⟩
  · unfold decideUnsubscribe at h
    split at h
    · cases h
    · split at h <;> cases h
  · cases h
  · cases h

/-- A frame that leads to a start wants the stream and the interval of this start, and no other. The
message that the frame was decided on is the one that it is said to hold, so both come of the one
payload. -/
theorem eq_of_decideFrame_start {frame : List UInt8} {stream' : Stream} {requested : Option Int64}
    (h : (s.decideFrame services frame).1 = .start stream interval)
    (wants : FrameWants frame stream' requested) : stream = stream' ∧ interval = requested := by
  refine ⟨((of_decideFrame_start h).1.unique wants.asks).2, ?_⟩
  obtain ⟨e, r, hread, -, hpayload, -, rfl⟩ := wants
  rw [decideFrame, hread] at h
  obtain ⟨r', hpayload', hinterval⟩ := interval_of_decide_start h
  obtain rfl := Except.ok.inj (hpayload.symm.trans hpayload')
  exact hinterval

end Session

/-! ### Tasks -/

/-- Whether the messages of a stream come periodically. -/
def Stream.isPeriodic : Stream → Bool
  | metrics | containerStats _ => true
  | events | logs _ => false

theorem Logbook.Next.period_eq {r r' : Logbook} (next : r.Next r') :
    r'.sampler.ticker.period = r.sampler.ticker.period := by
  cases next <;> rfl

theorem Chronicle.Next.period_eq {r r' : Chronicle} (next : r.Next r') :
    r'.feed.period = r.feed.period := by
  cases next <;> rfl

namespace TaskBody

/-- The time between two messages of a task, in milliseconds, if they come periodically. -/
def period? : TaskBody → Option Nat
  | logs _ => none
  | metrics t => some t.ticker.period
  | stats t => some t.period

/-- A task keeps its time through every incident, by `Logbook.next_note` and
`Chronicle.next_note`. -/
theorem period?_undergo (body : TaskBody) (i : Incident) :
    (body.undergo i).period? = body.period? := by
  cases body with
  | logs t => cases i <;> rfl
  | metrics t =>
    rw [undergo_metrics]
    exact congrArg some (Logbook.next_note { sampler := t } i).period_eq
  | stats t =>
    rw [undergo_stats]
    exact congrArg some (Chronicle.next_note { feed := t } i).period_eq

/-- The time of a task is the one that `Limits` gives for its request, if its stream is periodic at
all. -/
theorem period?_of_ofStream {limits : Limits} {stream : Stream} {requested : Option Int64}
    {now : Nat} {body : TaskBody} (starts : ofStream limits stream requested now = some body) :
    body.period? =
      if stream.isPeriodic then some (limits.interval requested * 1000) else none := by
  cases stream with
  | metrics =>
    simp only [ofStream] at starts
    split at starts <;> cases starts
    rfl
  | containerStats | logs =>
    cases starts
    rfl
  | events => cases starts

/-- A periodic stream has a task if a request comes to a time at all, which `Clamps` says. -/
theorem ofStream_of_isPeriodic {limits : Limits} (clamps : limits.Clamps) {stream : Stream}
    (periodic : stream.isPeriodic = true) (requested : Option Int64) (now : Nat) :
    ∃ body, ofStream limits stream requested now = some body := by
  have hpositive := clamps.positive requested
  cases stream with
  | metrics =>
    have hperiod : limits.intervalMillis requested ≠ 0 := by rw [Limits.intervalMillis]; omega
    exact ⟨_, if_neg hperiod⟩
  | containerStats id => exact ⟨_, rfl⟩
  | events | logs => cases periodic

/-- A task whose ticker can be set (`canTick`) does not break down. -/
theorem isBroken_eq_false {body : TaskBody}
    (h : ∀ period, body.period? = some period → canTick period = true) :
    body.isBroken = false := by
  rw [isBroken]
  cases body with
  | logs t => cases phase : t.phase <;> simp only [wait, LogFollower.wait, phase]
  | metrics t => cases phase : t.phase <;> simp only [wait, MetricsSampler.wait, phase]
  | stats t =>
    have htick : canTick t.period = true := h _ rfl
    cases phase : t.phase with
    | awaiting =>
      -- Only the first sample needs a ticker that is not there yet.
      rw [wait, StatsFeed.wait, phase]
      dsimp only
      rw [if_pos htick]
      cases t.cell.unseen <;> cases t.reader <;> rfl
    | opening | reporting | taking | sending | waiting | checking | sendingLast | finished =>
      simp only [wait, StatsFeed.wait, phase]

end TaskBody

/-- **What a task was started as,** for its stream. -/
def StreamTask.Granted (limits : Limits) (t : StreamTask) : Prop :=
  ∃ requested now body, TaskBody.ofStream limits t.subscription.stream requested now = some body ∧
    t.body.period? = body.period?

/-- A task for a periodic stream has a time that comes of a request, and any other one has none. -/
theorem StreamTask.Granted.period?_eq {limits : Limits} {t : StreamTask} (h : t.Granted limits) :
    ∃ requested, t.body.period? =
      if t.subscription.stream.isPeriodic then some (limits.interval requested * 1000)
      else none := by
  obtain ⟨requested, now, body, starts, same⟩ := h
  exact ⟨requested, same.trans (TaskBody.period?_of_ofStream starts)⟩

namespace World

variable {services : Services} {w : World}

/-- **Every task was granted.** -/
structure Granted (services : Services) (w : World) : Prop where
  provided : w.services = services
  numbered : ∀ {conn c}, w.client? conn = some c → c.Numbered
  task : ∀ {conn generation t}, w.task? conn generation = some t → t.Granted services.limits

/-- **Each moment keeps what was granted.** A task that was there keeps its period through whatever
happens to it; one that is new was started with the period of some request, under the services of
the world, which never change. -/
theorem Granted.pass (h : w.Granted services) (m : Moment) : (w.pass m).Granted services := by
  have hchanges := pass_changes w m
  refine ⟨hchanges.services.trans h.provided, ?_, ?_⟩
  · exact hchanges.clients (Client.lasting_numbered w.services True) h.numbered
  · intro conn generation t' task'
    rcases pass_task (fun _ => h.numbered) m with turn | ⟨-, -, -, starts, task⟩
    · -- it was there before, and keeps its time
      obtain ⟨t, task, hsubscription, hbody⟩ := turn.past t' task'
      obtain ⟨requested, now, body, starts, same⟩ := h.task task
      refine ⟨requested, now, body, hsubscription ▸ starts, ?_⟩
      rw [hbody, ← same]
      cases w.incident? conn generation m with
      | none => rfl
      | some i => exact t.body.period?_undergo i
    · obtain rfl := Option.some.inj (task.symm.trans task')
      rw [h.provided] at starts
      exact ⟨_, _, _, starts, rfl⟩

/-- In every history all tasks have periods that were `Granted`: at the start there is no task. -/
theorem granted_history (services : Services) (events : List Happening) :
    (({ services } : World).history events).Granted services := by
  -- On the events, for every world that they start from.
  have hfoldl : ∀ w : World, w.Granted services → (w.history events).Granted services := by
    induction events with
    | nil => exact fun w h => h
    | cons event rest ih => exact fun w h => ih _ (h.pass (.happens event))
  exact hfoldl _ ⟨rfl, nofun, nofun⟩

/-- **What it takes to break down:** a task that cannot set its ticker, or a request that comes to
no time at all. -/
theorem breaks_cases {a : Action} (h : w.breaks a = true) :
    (∃ conn generation t, w.task? conn generation = some t ∧ t.body.isBroken = true) ∨
      ∃ requested, w.services.limits.intervalMillis requested = 0 := by
  cases a with
  -- A task that cannot tick breaks down when it is to tick.
  | proceed conn generation now =>
    obtain ⟨c, found, h⟩ := (Option.any_eq_true _ _).mp h
    obtain ⟨t, task, h⟩ := (Option.any_eq_true _ _).mp h
    obtain ⟨-, hbroken⟩ := Bool.and_eq_true_iff.mp h
    exact Or.inl ⟨conn, generation, t, (task?_of_client found _).trans task, hbroken⟩
  -- And one that would tick every zero seconds when it is started.
  | reply conn now =>
    obtain ⟨c, -, h⟩ := (Option.any_eq_true _ _).mp h
    obtain ⟨r, -, h⟩ := (Option.any_eq_true _ _).mp h
    obtain ⟨-, h⟩ := Bool.and_eq_true_iff.mp h
    obtain ⟨⟨stream, requested⟩, -, h⟩ := (Option.any_eq_true _ _).mp h
    obtain ⟨-, hzero⟩ := Bool.and_eq_true_iff.mp h
    exact Or.inr ⟨requested, of_decide_eq_true hzero⟩
  | _ => cases h

/-- **No task breaks down** where each time that comes of a request can be had (`canTick`), by
`breaks_cases` and the periods that are `Granted`. -/
theorem Granted.breaksBy_eq_false (h : w.Granted services)
    (possible : ∀ requested, canTick (services.limits.interval requested * 1000) = true)
    (event : Happening) : w.breaksBy event = false := by
  rw [Bool.eq_false_iff]
  intro breaks
  cases event with
  | ends => cases breaks
  | act a =>
    rcases breaks_cases breaks with ⟨conn, generation, t, task, hbroken⟩ | ⟨requested, hzero⟩
    · -- the time of the task came of a request
      obtain ⟨requested, hperiod⟩ := (h.task task).period?_eq
      refine absurd hbroken (Bool.eq_false_iff.mp (TaskBody.isBroken_eq_false fun period heq => ?_))
      rw [hperiod] at heq
      split at heq
      · rw [← Option.some.inj heq]
        exact possible requested
      · cases heq
    -- Zero is not possible, and no request comes to it.
    · have hpossible := possible requested
      rw [h.provided, Limits.intervalMillis] at hzero
      rw [hzero] at hpossible
      cases hpossible

/-- Nothing breaks down in any further events, as each of them keeps what was granted. -/
theorem Granted.breaksIn_eq_false (h : w.Granted services)
    (possible : ∀ requested, canTick (services.limits.interval requested * 1000) = true)
    (events : List Happening) : w.breaksIn events = false := by
  induction events generalizing w with
  | nil => rfl
  | cons event rest ih =>
    rw [breaksIn, h.breaksBy_eq_false possible, Bool.false_or]
    exact ih (h.pass (.happens event))

/-! ### From a frame to its task -/

/-- **A frame gets the time that it wants,** as far as the limits allow. The session decides on its
reply (`decided`), which waits whatever happens (`waiting`), and is sent (`answered`). If it is an
acknowledgement, then once it is queued, or never will be, there is one task more. It has the number
that was the next one when the session decided, and its time comes of the payload of the frame. -/
def Times (w : World) (c : Client) (frame : List UInt8) (decided waiting answered : World) : Prop :=
  ∀ stream requested, FrameWants frame stream requested → stream.isPeriodic = true →
    ∃ r c₁ c₃, decided.client? c.id = some c₁ ∧ c₁.pending = some r ∧
      answered.client? c.id = some c₃ ∧
      (r.message.type? = some .subscribed → c₃.pending = none →
        ∃ body : TaskBody,
          body.period? = some (w.services.limits.interval requested * 1000) ∧
          answered.tasksOf c.id = waiting.tasksOf c.id ++
            [{ subscription := ⟨stream, c.session.nextGeneration⟩, body }])

/-- **Every call keeps to it.** `frame_effect` hands the interval that was decoded to the pending
reply, `waits_history` keeps that reply as it is, and `reply_effect` starts the task with it. -/
theorem Call.times {c : Client} {frame : List UInt8} {decided waiting answered : World}
    (h : w.Call c.id frame decided waiting answered) (hsound : w.Sound True) (hagrees : w.Agrees)
    (clamps : w.services.limits.Clamps) (found : w.client? c.id = some c) (idle : c.isIdle) :
    w.Times c frame decided waiting answered := by
  intro stream requested wants periodic
  obtain ⟨rfl, ⟨meanwhile, rfl, silent⟩, now, rfl⟩ := h
  have hframe : Changes True w (w.step (.frame c.id frame)) :=
    step_changes w (.frame c.id frame) fun _ => trivial
  obtain ⟨c₁, r, hdecided, hpending, hmessage, heffect⟩ := frame_effect found idle frame
  obtain ⟨c₂, hwaiting, hawaited, hkept⟩ := waits_history (hframe.sound hsound)
    (hframe.agrees hsound hagrees) hdecided hpending silent
  obtain ⟨c₃, hanswered, hreply⟩ := reply_effect hwaiting hawaited now
  refine ⟨r, c₁, c₃, hdecided, hpending, hanswered, fun hack done => ?_⟩
  obtain ⟨-, hanswer⟩ := hreply done
  -- The limits are the same as ever when the reply is sent.
  have hservices : ((w.step (.frame c.id frame)).history meanwhile).services = w.services :=
    (history_changes _ meanwhile).services.trans hframe.services
  rw [hmessage, Verdict.type?_reply_eq_subscribed_iff] at hack
  rcases hack with ⟨stream', interval, hverdict⟩ | ⟨stream', name, hverdict⟩
  · obtain ⟨rfl, rfl⟩ := Session.eq_of_decideFrame_start hverdict wants
    obtain ⟨hstart, hsame⟩ := (hverdict ▸ heffect).of_start
    have hsession : c₂.session = c.session := hkept.trans (congrArg Registry.session hsame)
    simp only [hstart] at hanswer
    obtain ⟨task, htask, hregistry⟩ := hanswer
    -- A periodic stream has a task for certain, since its time is not zero.
    obtain ⟨body, starts⟩ := TaskBody.ofStream_of_isPeriodic clamps periodic interval now
    rw [hservices, starts, Option.map_some] at htask
    have htasks : c₃.tasks = c₂.tasks ++ task.toList := congrArg Registry.tasks hregistry
    refine ⟨body, (TaskBody.period?_of_ofStream starts).trans (if_pos periodic), ?_⟩
    rw [tasksOf_of_client hanswered, tasksOf_of_client hwaiting, htasks, htask, hsession]
    rfl
  · -- a frame that is for a stream is not against one
    cases (wants.asks.unique (Session.of_decideFrame_stop hverdict).1).1

/-! ### The times of all tasks -/

/-- **The times of all tasks.** With legal limits a request comes to a time of a second or more and
of the longest time or less, to what was asked for if that is within the limits, and to no less if
more is asked for. It is the time that the task of a stream is started with, whatever happened
before, and in particular the task that is started for a frame once it is acknowledged has the time
that comes of the payload of this frame; and in every history the tasks have such times. As long as
the clock reaches far enough no task breaks down, so every subscription but that to events has its
task or the end of it. All this holds of the limits that a command line can set. -/
theorem periods_history (services : Services) (legal : services.limits.Legal)
    (events : List Happening) :
    let w := ({ services } : World).history events
    services.limits.Clamps ∧
      (∀ s e stream requested, Session.decide services s e = .start stream requested →
        ∃ r, e.payloadAs Request.decoder = .ok r ∧ requested = r.intervalSeconds) ∧
      (∀ conn c, w.client? conn = some c → ∀ stream requested now, stream.isPeriodic = true →
        ∃ body, body.period? = some (services.limits.interval requested * 1000) ∧
          (w.start conn c.session stream requested now).tasksOf conn =
            c.tasks ++ [{ subscription := ⟨stream, c.session.nextGeneration⟩, body }]) ∧
      (w.services = services ∧ ∀ conn c, w.client? conn = some c → c.isIdle →
        ∀ frame decided waiting answered, w.Call conn frame decided waiting answered →
          w.Times c frame decided waiting answered) ∧
      (∀ conn generation t, w.task? conn generation = some t →
        ∃ requested, t.body.period? =
          if t.subscription.stream.isPeriodic then some (services.limits.interval requested * 1000)
          else none) ∧
      (services.limits.maxInterval.toNat * 1000 < clockReach →
        ({ services } : World).breaksIn events = false ∧
          ∀ conn c, w.client? conn = some c → c.Owned) ∧
      ∀ a c, Arguments.toConfig a = .ok c →
        c.limits.Legal ∧ c.limits.maxInterval.toNat * 1000 < clockReach := by
  intro w
  have hclamps := legal.clamps
  have hgranted := granted_history services events
  have hchanges := history_changes { services } events
  have hsound := hchanges.sound (.services services)
  have hagrees := hchanges.agrees (.services services) (.services services)
  refine ⟨hclamps, fun s e stream requested => Session.interval_of_decide_start, ?starts,
    ⟨hgranted.provided, ?frames⟩, fun conn generation t task => (hgranted.task task).period?_eq,
    ?unbroken, fun a c => Arguments.legal_of_toConfig⟩
  case starts =>
    intro conn c found stream requested now periodic
    obtain ⟨body, starts⟩ := TaskBody.ofStream_of_isPeriodic hclamps periodic requested now
    refine ⟨body, (TaskBody.period?_of_ofStream starts).trans (if_pos periodic), ?_⟩
    rw [tasksOf_of_client (client?_start found), hgranted.provided, starts]
    rfl
  case frames =>
    intro conn c found idle frame decided waiting answered hcall
    obtain rfl := id_of_client? found
    have hlimits : w.services.limits.Clamps := hgranted.provided ▸ hclamps
    exact hcall.times hsound hagrees hlimits found idle
  case unbroken =>
    intro reaches
    have hpossible : ∀ requested, canTick (services.limits.interval requested * 1000) = true := by
      intro requested
      have hpositive := hclamps.positive requested
      have hbounded := hclamps.bounded requested
      rw [canTick, Bool.and_eq_true, decide_eq_true_eq, decide_eq_true_eq]
      omega
    have hunbroken : ({ services } : World).breaksIn events = false :=
      (granted_history services []).breaksIn_eq_false hpossible events
    refine ⟨hunbroken, fun conn c found => ?_⟩
    have hworld : w.Sound False := by
      refine sound_history (Sound.services services) events fun hbreaks => ?_
      rw [hunbroken] at hbreaks
      cases hbreaks
    exact (hworld.client found).owned not_false

/-- A client asks for the host's metrics as often as no number can say, and for the samples of a
container as seldom as one can. -/
def extremes : List Happening :=
  let say := fun r : Request => Happening.act (.dispatch 0 (.of .subscribe r.toJson))
  [.act (.connect 0 8),
    say { Stream.metrics.ack with intervalSeconds := some Int64.minValue }, .act (.reply 0 0),
    say { (Stream.containerStats ⟨"web", by decide⟩).ack with
      intervalSeconds := some Int64.maxValue }, .act (.reply 0 0)]

/-- What the client asks for next: the samples of another container, every seven seconds. -/
def everySeven : Request :=
  { (Stream.containerStats ⟨"db", by decide⟩).ack with intervalSeconds := some 7 }

/-- The one gets the default, the other one the longest time, and who asks for seven seconds gets
seven: the frame is acknowledged, and the task that is added waits seven thousand milliseconds. -/
theorem periods_extremes :
    let services : Services := {}
    let w := ({ services } : World).history extremes
    let decided := w.step (.frame 0 (everySeven.frame .subscribe))
    let answered := decided.step (.reply 0 0)
    services.limits.Legal ∧
      (w.task? 0 0).map (·.body.period?) = some (some 3000) ∧
      (w.task? 0 1).map (·.body.period?) = some (some 30000) ∧
      (services.limits.interval (some 7) : Int) = 7 ∧
      services.limits.interval (some 7) ≤ services.limits.interval (some Int64.maxValue) ∧
      (∃ body : TaskBody, body.period? = some 7000 ∧ answered.tasksOf 0 = decided.tasksOf 0 ++
        [{ subscription := ⟨.containerStats ⟨"db", by decide⟩, 2⟩, body }]) ∧
      ({ services } : World).breaksIn extremes = false ∧
      (∀ conn c, w.client? conn = some c → c.Owned) ∧
      ∃ c, Arguments.toConfig { token := some "secret" } = .ok c ∧ c.limits.Legal := by
  intro services w decided answered
  have hlegal : services.limits.Legal := ⟨by decide, by decide⟩
  obtain ⟨hclamps, -, -, ⟨hservices, htimes⟩, -, howned, hconfig⟩ :=
    periods_history services hlegal extremes
  obtain ⟨hunbroken, howned⟩ := howned (by decide)
  have hseven : (services.limits.interval (some 7) : Int) = 7 :=
    hclamps.exact 7 (by decide) (by decide)
  refine ⟨hlegal, by decide +kernel, by decide +kernel, hseven,
    hclamps.mono 7 Int64.maxValue (by decide) (by decide), ?frame, hunbroken, howned, ?config⟩
  case frame =>
    have hclient : (w.client? 0).map (fun c => (c.id, c.isIdle, c.session.nextGeneration)) =
        some (0, true, 2) := by decide +kernel
    obtain ⟨c, found, heq⟩ := Option.map_eq_some_iff.mp hclient
    obtain ⟨hid, idle, hnext⟩ := by simpa only [Prod.mk.injEq] using heq
    have hcall : w.Call 0 (everySeven.frame .subscribe) decided decided answered :=
      .at_once w 0 (everySeven.frame .subscribe) 0
    have hwants : FrameWants (everySeven.frame .subscribe) (.containerStats ⟨"db", by decide⟩)
        (some 7) :=
      Request.frameWants (Stream.ofRequest_eq_ok_iff.mp rfl)
    obtain ⟨r, c₁, c₃, hdecided, hpending, hanswered, htask⟩ :=
      htimes 0 c found idle _ _ _ _ hcall _ _ hwants rfl
    rw [hid] at hdecided hanswered htask
    rw [hnext, hservices] at htask
    have htype : (decided.client? 0).bind (fun c => c.pending.map (·.message.type?)) =
        some (some .subscribed) := by decide +kernel
    have hdone : (answered.client? 0).map (·.pending.isNone) = some true := by decide +kernel
    rw [hdecided, Option.bind_some, hpending] at htype
    rw [hanswered] at hdone
    obtain ⟨body, hperiod, htasks⟩ :=
      htask (Option.some.inj htype) (Option.isNone_iff_eq_none.mp (Option.some.inj hdone))
    exact ⟨body, hperiod.trans (by decide), htasks⟩
  case config =>
    cases accepted : Arguments.toConfig { token := some "secret" } with
    | error f => cases accepted
    | ok c => exact ⟨c, rfl, (hconfig _ c accepted).1⟩

end World

end Lookout
