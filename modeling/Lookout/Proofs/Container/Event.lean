import Lookout.Container.Event
import Lookout.Proofs.Agent.Keys
import Lookout.Proofs.Container.Name

/-!
# Containers that events tell of

An event names its container by an abbreviated identifier, and a client that hears of it can ask for
the container's streams by that. What the daemon calls an identifier need not be a name, and then
the client may get no stream, but it can still tell which identifier was abbreviated.

* `ContainerEvent.containerId_of_ofDaemon` — the identifier in an event;
* `Stream.ofRequest_of_ofString` — the streams that a reference is good for;
* `ContainerEvent.containerId_subscribes` — what the identifier in an event is good for.
-/

namespace Lookout

/-- Only the identifier of the actor matters for the container of an event, and it is abbreviated by
`shortId`. -/
theorem ContainerEvent.containerId_of_ofDaemon {d : DaemonEvent} {e : ContainerEvent}
    (h : ofDaemon d = some e) : e.containerId = shortId d.actorId := by
  unfold ofDaemon at h
  split at h
  · obtain ⟨action, -, rfl⟩ := Option.map_eq_some_iff.mp h
    rfl
  · cases h

/-- **A reference is good for the streams of its container.** `ofString` is all that a request asks
of its `containerId`. -/
theorem Stream.ofRequest_of_ofString {r : Request} {stream : Stream} {text : String}
    {id : ContainerId} (reference : ContainerId.ofString text = .ok id)
    (container : r.containerId = some text) (named : r.stream = stream.name.text)
    (of : stream.containerId = some id) : ofRequest r = .ok stream := by
  refine ofRequest_eq_ok_iff.mpr ⟨named, fun id' hid' => ?_⟩
  obtain rfl : id = id' := Option.some.inj (of.symm.trans hid')
  rw [container, ContainerId.text_of_ofString reference]

namespace ContainerEvent

/-- **The identifier in an event can be asked for.** If the daemon's identifier is a reference, then
so is its abbreviation, which is its first twelve characters or all of it, and the requests for the
streams of that container mean them (`Stream.ofRequest`). Any other identifier is cut between two
characters behind twelve bytes, or not at all where there is no such place; and it is not
abbreviated further. -/
theorem containerId_subscribes {d : DaemonEvent} {e : ContainerEvent} (h : ofDaemon d = some e) :
    (∀ id, ContainerId.ofString d.actorId = .ok id →
      e.containerId.toList <+: d.actorId.toList ∧
      e.containerId.utf8ByteSize = min 12 d.actorId.utf8ByteSize ∧
      ∃ short, ContainerId.ofString e.containerId = .ok short ∧ short.text = e.containerId ∧
        ∀ r : Request, r.containerId = some e.containerId →
          (r.stream = "logs" → Stream.ofRequest r = .ok (.logs short)) ∧
          (r.stream = "container_stats" → Stream.ofRequest r = .ok (.containerStats short))) ∧
    e.containerId.toList <+: d.actorId.toList ∧
    (e.containerId.utf8ByteSize = 12 ∨ (e.containerId = d.actorId ∧
      ∀ front, front <+: d.actorId.toList → String.utf8Len front ≠ 12)) ∧
    shortId e.containerId = e.containerId := by
  rw [containerId_of_ofDaemon h]
  obtain ⟨hfront, hcases⟩ := shortId_cases d.actorId
  -- A name is cut at twelve characters, and its front is a name; any other text is cut at twelve
  -- bytes if that is between two characters.
  refine ⟨fun id hid => ?_, hfront, hcases, shortId_shortId d.actorId⟩
  have hname : d.actorId.toList ∈ ContainerId.names := ContainerId.exists_ofString_iff.mp ⟨id, hid⟩
  have hshort' := ContainerId.shortId_mem_names hname
  obtain ⟨short, hshort⟩ := ContainerId.exists_ofString_iff.mpr hshort'
  refine ⟨hfront, ?_, short, hshort, ContainerId.text_of_ofString hshort, fun r hr => ⟨?_, ?_⟩⟩
  · rw [ContainerId.utf8ByteSize_of_mem_names hshort', ContainerId.utf8ByteSize_of_mem_names hname,
      ContainerId.shortId_of_mem_names hname, List.length_take]
    rfl
  · exact fun hlogs => Stream.ofRequest_of_ofString hshort hr hlogs rfl
  · exact fun hstats => Stream.ofRequest_of_ofString hshort hr hstats rfl

/-- A container stops that has an identifier. -/
def stopped (actorId : String) : DaemonEvent := { kind := "container", action := "stop", actorId }

/-- The event of a container that stops. -/
def stoppedEvent (containerId : String) : ContainerEvent :=
  { action := .stop, containerId, containerName := "", image := "", stack := "", status := "stop"
    time := 0 }

/-- A long name is cut to one for which there are streams. An identifier of seven characters with
two bytes each is cut behind the sixth, unless a character of one byte stands in front. -/
theorem containerId_subscribes_stopped :
    (ofDaemon (stopped "4f3c2a1b0e9d8c7b6a5f") = some (stoppedEvent "4f3c2a1b0e9d") ∧
      Stream.ofRequest { stream := "logs", containerId := some "4f3c2a1b0e9d" } =
        .ok (.logs ⟨"4f3c2a1b0e9d", by decide⟩)) ∧
      (ofDaemon (stopped "ééééééé") = some (stoppedEvent "éééééé") ∧
        shortId "éééééé" = "éééééé") ∧
      ofDaemon (stopped "aéééééé") = some (stoppedEvent "aéééééé") ∧
        shortId "aéééééé" = "aéééééé" := by
  have hname : ofDaemon (stopped "4f3c2a1b0e9d8c7b6a5f") = some (stoppedEvent "4f3c2a1b0e9d") := by
    decide
  have heven : ofDaemon (stopped "ééééééé") = some (stoppedEvent "éééééé") := by decide
  have hodd : ofDaemon (stopped "aéééééé") = some (stoppedEvent "aéééééé") := by decide
  obtain ⟨-, -, short, -, htext, hstreams⟩ :=
    (containerId_subscribes hname).1 ⟨"4f3c2a1b0e9d8c7b6a5f", by decide⟩ rfl
  obtain rfl : short = ⟨"4f3c2a1b0e9d", by decide⟩ := ContainerId.text_injective htext
  exact ⟨⟨hname, (hstreams _ rfl).1 rfl⟩, ⟨heven, (containerId_subscribes heven).2.2.2⟩, hodd,
    (containerId_subscribes hodd).2.2.2⟩

end ContainerEvent

end Lookout
