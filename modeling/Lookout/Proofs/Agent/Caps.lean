import Lookout.Proofs.Agent.Sound
import Mathlib.Data.List.Perm.Subperm

/-!
# As many streams as there may be

How many streams of a kind a session may hold is asked when one is granted, by counting its
subscriptions; they leave it in two other ways, given up by the client or retired. What is granted
is started one step later, when the reply is sent, and nothing joins the subscriptions meanwhile.
So there are never more than there may be, and with them the tasks that are not cancelled are few,
since each of those has its subscription.

* `Limits.cap` — how many streams of a kind a session may hold;
* `Client.Capped` — it holds no more, the one that is about to be started included;
* `World.withinLimits_history` — the caps hold on every history.
-/

namespace Lookout

/-- How many streams of a kind a session may hold. Only streams with a container have a configured
maximum; of the others there is one, since no stream is subscribed to twice and each of these two
kinds has a single stream. -/
def Limits.cap (l : Limits) : StreamName → Nat
  | .metrics | .events => 1
  | .logs => l.maxLogStreams.toNat
  | .containerStats => l.maxStatsStreams.toNat

namespace Session

variable {services : Services} {s : Session} {stream : Stream} {name : StreamName}

/-! ### Counting -/

/-- A stream that is subscribed to counts for its own kind, `stream.name`, and for no other. -/
theorem countOf_insert : (s.insert stream).countOf name =
    s.countOf name + if stream.name = name then 1 else 0 := by
  rw [countOf, countOf, insert, List.countP_append, List.countP_singleton]
  congr 1
  by_cases heq : stream.name = name
  · rw [if_pos heq, if_pos (decide_eq_true heq)]
  · rw [if_neg heq, if_neg (by simpa using heq)]

/-- Giving up a subscription makes no kind more numerous, as `erase` leaves a sublist of the
subscriptions. -/
theorem countOf_erase_le : (s.erase stream).countOf name ≤ s.countOf name :=
  List.filter_sublist.countP_le

/-- To `retire` a subscription whose task has ended makes no kind more numerous either. -/
theorem countOf_retire_le {ended : Subscription} :
    (s.retire ended).countOf name ≤ s.countOf name :=
  List.filter_sublist.countP_le

/-- A stream without a container is the only one of its kind, so none of its kind is held as long as
it is not held itself. This is the cap of one for metrics and events: no count is compared for
them. -/
theorem countOf_eq_zero (absent : s.has stream = false)
    (alone : ∀ other : Stream, other.name = stream.name → other = stream) :
    s.countOf stream.name = 0 := by
  rw [countOf, List.countP_eq_zero]
  intro sub hsub
  have hne := has_eq_false_iff.mp absent sub hsub
  rw [decide_eq_true_eq]
  exact fun hname => hne (alone sub.stream hname)

/-- **What a session admits has room** below the cap of its kind. For metrics and events this
follows from `absent`, for the streams of containers it is what `availability` has compared. -/
theorem Admits.countOf_lt (h : s.Admits services stream) :
    s.countOf stream.name < services.limits.cap stream.name := by
  obtain ⟨absent, available⟩ := h
  cases stream with
  | metrics =>
    rw [countOf_eq_zero absent fun other hname => by cases other <;> cases hname; rfl]
    exact Nat.zero_lt_one
  | events =>
    rw [countOf_eq_zero absent fun other hname => by cases other <;> cases hname; rfl]
    exact Nat.zero_lt_one
  | logs id
  | containerStats id =>
    -- The count is asked after the daemon
    -- the count is compared last, so of the checks before it only the outcome matters.
    unfold availability at available
    dsimp only at available
    split at available
    · cases available
    · split at available
      · next hlt => exact hlt
      · cases available

/-- Every subscription but those to events is of one of three kinds. These are the ones with a task,
so the sum bounds the tasks that are not cancelled. -/
theorem countP_ne_events : s.subscriptions.countP (fun sub => sub.stream ≠ .events) =
    s.countOf .logs + s.countOf .containerStats + s.countOf .metrics := by
  simp only [countOf]
  induction s.subscriptions with
  | nil => rfl
  | cons sub rest ih =>
    simp only [List.countP_cons, ih]
    cases sub.stream <;> simp [Stream.name] <;> omega

end Session

namespace Client

/-! ### Caps -/

/-- **A session holds as many streams of a kind as it may,** and there is room for the one that it
is about to start. Room is asked when a stream is granted and used one step later, when the reply is
sent; `room` carries it over that step. -/
structure Capped (limits : Limits) (c : Client) : Prop where
  count : ∀ name, c.session.countOf name ≤ limits.cap name
  room : ∀ r stream interval, c.pending = some r → r.start = some (stream, interval) →
    c.session.countOf stream.name < limits.cap stream.name

variable {limits : Limits} {c c' : Client}

/-- `Capped` is kept where no kind grows and no stream is about to be started that was not before.
Every change but `decide` and `start` is of this kind. -/
theorem Capped.mono (h : c.Capped limits)
    (count : ∀ name, c'.session.countOf name ≤ c.session.countOf name)
    (pending : ∀ r, c'.pending = some r → c.pending = some r ∨ r.start = none) :
    c'.Capped limits where
  count name := Nat.le_trans (count name) (h.count name)
  room r stream interval hr hstart := by
    rcases pending r hr with hr | hnothing
    · exact Nat.lt_of_le_of_lt (count stream.name) (h.room r stream interval hr hstart)
    · rw [hnothing] at hstart
      cases hstart

/-- **Every change keeps the caps.** `decide` makes the room that `start` uses up: between the two
the stream stands in `pending`, which `Capped` counts as well. -/
theorem Change.capped {services : Services} {broken : Prop} {cancels : Option Token}
    (h : c.Change services broken cancels c') (hcapped : c.Capped services.limits) :
    c'.Capped services.limits := by
  -- The two cases that have an argument are `decide`, where `Session.Admits` gives the room, and
  -- `start`, where it is needed; all others only lose subscriptions.
  cases h with
  | adjust same =>
    refine hcapped.mono (fun name => Nat.le_of_eq ?_) fun r hr => ?_
    · rw [same.session]
    · rw [same.pending] at hr
      exact Or.inl hr
  | decide r idle admitted =>
    refine ⟨hcapped.count, fun r' stream interval hr hstart => ?_⟩
    cases hr
    exact (admitted stream interval hstart).countOf_lt
  | stop r idle held nothing =>
    refine hcapped.mono (fun _ => Session.countOf_erase_le) fun r' hr => ?_
    cases hr
    exact Or.inr nothing
  | answer outbox pending nothing =>
    exact hcapped.mono (fun _ => Nat.le_refl _) fun r hr => by cases hr
  | @start r stream interval outbox body pending something =>
    refine ⟨fun name => ?_, fun _ _ _ hr => by cases hr⟩
    -- There was room for it when it was granted, and there still is.
    have hroom := hcapped.room r stream interval pending something
    change (c.session.insert stream).countOf name ≤ _
    rw [Session.countOf_insert]
    by_cases heq : stream.name = name
    · rw [if_pos heq, ← heq]
      exact hroom
    · rw [if_neg heq]
      exact hcapped.count name
  | retire idle waiting =>
    exact hcapped.mono (fun _ => Session.countOf_retire_le) fun r hr => Or.inl hr
  | close idle
  | finish task runs
  | breakDown breaks task runs =>
    exact hcapped.mono (fun _ => Nat.le_refl _) fun r hr => Or.inl hr

/-- The caps as a property that every client has from its connection on, which is what `Lasting`
packages. -/
theorem lasting_capped (services : Services) (broken : Prop) :
    Lasting services broken (Capped services.limits) where
  connected _ _ := ⟨fun _ => Nat.zero_le _, fun _ _ _ hr => by cases hr⟩
  kept h hcapped := h.capped hcapped

end Client

namespace World

/-- The subscriptions whose tasks run and are not cancelled. -/
def live (w : World) (c : Client) : List Subscription :=
  c.running.filter fun sub => !w.isCancelled (subscriptionToken c.id sub.generation)

/-- **The caps of a session** bound its subscriptions, and its tasks that are not cancelled. -/
structure WithinLimits (w : World) (limits : Limits) (c : Client) : Prop where
  logs : c.session.countOf .logs ≤ limits.maxLogStreams.toNat
  stats : c.session.countOf .containerStats ≤ limits.maxStatsStreams.toNat
  metrics : c.session.countOf .metrics ≤ 1
  events : c.session.countOf .events ≤ 1
  live : (w.live c).length ≤ limits.maxLogStreams.toNat + limits.maxStatsStreams.toNat + 1

/-- Tasks that are not cancelled have subscriptions, of which none is to events. They are told apart
by their subscriptions (`Books.nodup_owners`), so there are no more of them than subscriptions. -/
theorem length_live_le {broken : Prop} {w : World} {c : Client}
    (hsound : c.Sound broken w.isCancelled) :
    (w.live c).length ≤ c.session.subscriptions.countP fun sub => sub.stream ≠ .events := by
  rw [List.countP_eq_length_filter]
  have hnodup : (w.live c).Nodup := by
    have howners := hsound.books.nodup_owners
    exact (List.nodup_append.mp howners).1.filter _
  -- `Tokens.running` gives a live task its subscription, and `Books.owner_stream` says it is not to
  -- events.
  refine (List.subperm_of_subset hnodup fun sub hsub => ?_).length_le
  obtain ⟨hrunning, hlive⟩ := List.mem_filter.mp hsub
  rw [Bool.not_eq_true'] at hlive
  refine List.mem_filter.mpr ⟨hsound.tokens.running sub hrunning hlive, ?_⟩
  exact decide_eq_true (hsound.books.owner_stream sub (List.mem_append_left _ hrunning))

/-! ### Runs -/

/-- Every client of a world keeps to the caps. -/
def Capped (w : World) : Prop :=
  ∀ {conn c}, w.client? conn = some c → c.Capped w.services.limits

/-- What happens to the agent keeps all its clients to the caps: `lasting_capped` along any
`Changes`. -/
theorem Changes.capped {broken : Prop} {w w' : World} (h : Changes broken w w')
    (hcapped : w.Capped) : w'.Capped := by
  intro conn c found
  rw [h.services]
  exact h.clients (Client.lasting_capped w.services broken) hcapped found

/-- **No session holds more streams than it may, nor do more of its tasks run,** whatever happened
to the agent before. The first four fields are `Capped.count` for the four kinds. The last is the
number of subscriptions with a task: cancelled tasks may still be there besides, which is why it
speaks of those that are not. -/
theorem withinLimits_history (services : Services) (events : List Happening) {conn : ConnId}
    {c : Client}
    (found : (({ services := services } : World).history events).client? conn = some c) :
    (({ services := services } : World).history events).WithinLimits services.limits c := by
  have hchanges := history_changes { services := services } events
  have hcapped := hchanges.capped (fun h => by cases h) found
  rw [hchanges.services] at hcapped
  refine ⟨hcapped.count .logs, hcapped.count .containerStats, hcapped.count .metrics,
    hcapped.count .events, ?_⟩
  calc _ ≤ c.session.subscriptions.countP fun sub => sub.stream ≠ .events :=
        length_live_le ((hchanges.sound (.services services)).client found)
    _ = c.session.countOf .logs + c.session.countOf .containerStats + c.session.countOf .metrics :=
        Session.countP_ne_events
    _ ≤ _ := Nat.add_le_add (Nat.add_le_add (hcapped.count .logs)
        (hcapped.count .containerStats)) (hcapped.count .metrics)

/-- One container's output may be followed and none may be sampled; a client asks for more. -/
def greed : List Happening :=
  let say := fun r : Request => Happening.act (.dispatch 0 (.of .subscribe r.toJson))
  let reply := Happening.act (.reply 0 0)
  [.act (.connect 0 8), say { stream := "logs", containerId := some "a" }, reply,
    say { stream := "logs", containerId := some "b" }, reply,
    say { stream := "container_stats", containerId := some "a" }, reply,
    say { stream := "metrics" }, reply]

/-- It has the output of one container, and the host's metrics: the second container is past the
maximum, and a maximum of zero grants no sample. -/
theorem withinLimits_greed : ∃ c,
    (({ services := { limits := { maxLogStreams := 1, maxStatsStreams := 0 } } } : World).history
      greed).client? 0 = some c ∧
    c.session.subscriptions.map (·.stream.key) = ["logs:a", "metrics"] ∧
    (({ services := { limits := { maxLogStreams := 1, maxStatsStreams := 0 } } } : World).history
      greed).WithinLimits { maxLogStreams := 1, maxStatsStreams := 0 } c := by
  have hclient : ((({ services := { limits := { maxLogStreams := 1, maxStatsStreams := 0 } } } :
      World).history greed).client? 0).map (fun c => c.session.subscriptions.map (·.stream.key)) =
        some ["logs:a", "metrics"] := by decide
  obtain ⟨c, found, hstreams⟩ := Option.map_eq_some_iff.mp hclient
  exact ⟨c, found, hstreams, withinLimits_history _ greed found⟩

end World

end Lookout
