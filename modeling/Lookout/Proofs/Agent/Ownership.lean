import Lookout.Proofs.Agent.Sound

/-!
# No task without its subscription, no subscription without its task

The tasks of an open session belong to its subscriptions. Whatever was sent to it, and whenever
tasks ended and their ends were retired, each subscription but that to events has either the one
task that was started for it, still running and not cancelled, or the one end of that task waiting
to be retired; and a task that runs and is not cancelled is that of a subscription.

* `World.OwnedOnce` — what is said of a client;
* `World.ownedOnce_history` — it holds on every history without a break down.
-/

namespace Lookout

namespace World

/-- **Subscriptions and tasks belong together.** The numbers of subscriptions are distinct and were
given out, and with them each subscription has its own task, or the end of it. `owner` goes from
subscriptions to tasks and `live` back; a task whose subscription was given up is cancelled and
still runs, which is why `live` speaks of those that are not cancelled. -/
structure OwnedOnce (w : World) (c : Client) : Prop where
  generations : (c.session.subscriptions.map (·.generation)).Nodup
  generation_lt : ∀ sub ∈ c.session.subscriptions, sub.generation < c.session.nextGeneration
  /-- A subscription has its task, which is not cancelled, or the end of it, and not both; and it
  has it once. -/
  owner : ∀ sub ∈ c.session.subscriptions, sub.stream ≠ .events →
    (c.running.count sub = 1 ∧ w.isCancelled (subscriptionToken c.id sub.generation) = false ∧
      c.ended.count sub = 0) ∨
    (c.running.count sub = 0 ∧ c.ended.count sub = 1)
  /-- A task that is not cancelled has its subscription. -/
  live : ∀ sub ∈ c.running, w.isCancelled (subscriptionToken c.id sub.generation) = false →
    sub ∈ c.session.subscriptions
  /-- The end of a task takes away the subscription that it was started for, and no other, be it one
  to the same stream. If it was still there, its stream can be subscribed to again. -/
  retire : c.isIdle → ∀ ended ∈ c.ended, ∃ c',
    (w.step (.retire c.id ended)).client? c.id = some c' ∧
    (∀ sub, sub ∈ c'.session.subscriptions ↔ sub ∈ c.session.subscriptions ∧ sub ≠ ended) ∧
    (ended ∈ c.session.subscriptions → c'.session.has ended.stream = false)

section Open

variable {broken : Prop} {w : World} {c : Client} (hsound : c.Sound broken w.isCancelled)
include hsound

/-- While a session is open, no subscription that it holds is cancelled. A `subscriptionToken` is
cancelled by one of three: the subscription is given up, the session is closed (`opened` rules it
out), or the agent shuts down (`up`). -/
theorem isCancelled_held (opened : c.closed = false) (up : w.isShutDown = false)
    {sub : Subscription} (hsub : sub ∈ c.session.subscriptions) :
    w.isCancelled (subscriptionToken c.id sub.generation) = false := by
  rw [isShutDown] at up
  rw [hsound.tokens.held sub hsub, hsound.tokens.session, opened, up, Bool.false_or]

/-- Who is among `running` or among `ended` is there once, and not in both, since the numbers of all
of them are distinct (`Books.nodup_owners`). -/
theorem count_owner {sub : Subscription} (howner : sub ∈ c.running ∨ sub ∈ c.ended) :
    c.running.count sub = 1 ∧ c.ended.count sub = 0 ∨
      c.running.count sub = 0 ∧ c.ended.count sub = 1 := by
  have hnodup := hsound.books.nodup_owners
  obtain ⟨hrunning, hended, -⟩ := List.nodup_append.mp hnodup
  have hdisjoint := List.disjoint_of_nodup_append hnodup
  -- No number is used twice, among the tasks, among the ends, or in both.
  rcases howner with hsub | hsub
  · left
    exact ⟨List.count_eq_one_of_mem hrunning hsub, List.count_eq_zero.mpr (hdisjoint hsub)⟩
  · right
    refine ⟨List.count_eq_zero.mpr fun hrun => hdisjoint hrun hsub, ?_⟩
    exact List.count_eq_one_of_mem hended hsub

/-- To `retire` an end takes the subscription with its number out of the session, if it is held, and
the stream is free again. A newer subscription to the same stream has another number and stays. -/
theorem step_retire (found : w.client? c.id = some c) (idle : c.isIdle) {ended : Subscription}
    (hended : ended ∈ c.ended) : ∃ c', (w.step (.retire c.id ended)).client? c.id = some c' ∧
      (∀ sub, sub ∈ c'.session.subscriptions ↔ sub ∈ c.session.subscriptions ∧ sub ≠ ended) ∧
      (ended ∈ c.session.subscriptions → c'.session.has ended.stream = false) := by
  refine ⟨{ c with session := c.session.retire ended, ended := c.ended.erase ended }, ?_,
    fun sub => Session.mem_retire, fun hheld => ?_⟩
  · rw [step, retire_eq found idle hended]
    exact client?_modify (fun c =>
      { c with session := c.session.retire ended, ended := c.ended.erase ended })
      (fun _ => rfl) found
  · rw [Session.has_eq_false_iff]
    intro sub hsub heq
    -- The only subscription to the stream was the one that has ended.
    obtain ⟨hmem, hne⟩ := Session.mem_retire.mp hsub
    exact hne (hsound.books.eq_of_stream hmem hheld heq)

end Open

/-- **Nothing that an open session has started is orphaned, lost or owned twice,** whatever happened
to the agent before, as long as no task broke down. That none did is what `Sound False` needs: a
task that breaks down goes without an end, and leaves its subscription to nobody. -/
theorem ownedOnce_history (services : Services) (events : List Happening)
    (unbroken : ({ services := services } : World).breaksIn events = false) {conn : ConnId}
    {c : Client}
    (found : (({ services := services } : World).history events).client? conn = some c)
    (opened : c.closed = false)
    (up : (({ services := services } : World).history events).isShutDown = false) :
    (({ services := services } : World).history events).OwnedOnce c := by
  obtain rfl := id_of_client? found
  -- No task breaks down, so the invariant that every end is reported holds to its full extent.
  have hworld : (({ services := services } : World).history events).Sound False := by
    refine sound_history (Sound.services services) events fun hbreaks => ?_
    rw [unbroken] at hbreaks
    cases hbreaks
  have hsound := hworld.client found
  refine ⟨hsound.books.generations, hsound.books.generation_lt, fun sub hsub hevents => ?_,
    hsound.tokens.running, fun idle ended => step_retire hsound found idle⟩
  have hcancelled := isCancelled_held hsound opened up hsub
  exact (count_owner hsound (hsound.owned not_false sub hsub hevents)).imp_left
    fun ⟨hrunning, hended⟩ => ⟨hrunning, hcancelled, hended⟩

/-- Metrics are subscribed to, given up and subscribed to again, and only then the first task ends.
-/
def resubscription : List Happening :=
  let say := fun type => Happening.act (.dispatch 0 (.of type Stream.metrics.ack.toJson))
  [.act (.connect 0 8), say .subscribe, .act (.reply 0 0), say .unsubscribe, .act (.reply 0 0),
    say .subscribe, .act (.reply 0 0), .ends 0 0]

/-- The end of the first task waits in `ended`, while the second task, for the same stream, runs
under the next number. -/
theorem ownedOnce_resubscription : ∃ c,
    (({ services := {} } : World).history resubscription).client? 0 = some c ∧
    c.session = ⟨[⟨.metrics, 1⟩], 2⟩ ∧ c.running = [⟨.metrics, 1⟩] ∧ c.ended = [⟨.metrics, 0⟩] ∧
    (({ services := {} } : World).history resubscription).OwnedOnce c := by
  have hclient : ((({ services := {} } : World).history resubscription).client? 0).map
      (fun c => (c.session, c.running, c.ended, c.closed)) =
        some (⟨[⟨.metrics, 1⟩], 2⟩, [⟨.metrics, 1⟩], [⟨.metrics, 0⟩], false) := by decide
  obtain ⟨c, found, heq⟩ := Option.map_eq_some_iff.mp hclient
  obtain ⟨hsession, hrunning, hended, opened⟩ := by simpa only [Prod.mk.injEq] using heq
  exact ⟨c, found, hsession, hrunning, hended,
    ownedOnce_history {} resubscription (by decide) found opened (by decide)⟩

end World

end Lookout
