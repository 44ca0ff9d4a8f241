import LibBtcNet.HandlerRuns

/-!
# The bookkeeping of the handler

The four maps and the two counters of a handler, in every state that a run reaches while
fewer ids have been issued than there are. Ids change with every retry and an object moves
between the maps in six callbacks, but no id is ever in two maps, and none of the lookups
that the callbacks assert can fail.
-/

namespace LibBtcNet

open CConnectionHandlerInt

/-- Two maps have no key in common. -/
def Apart {α β : Type} (left : ConnMap α) (right : ConnMap β) : Prop :=
  ∀ k : ConnID, left[k]? = none ∨ right[k]? = none

/-- The bookkeeping of a handler. -/
structure Bookkeeping (h : CConnectionHandlerInt) : Prop where
  connecting_connected : Apart h.connecting h.connected
  connecting_binds : Apart h.connecting h.binds
  connecting_dnsResolves : Apart h.connecting h.dnsResolves
  connected_binds : Apart h.connected h.binds
  connected_dnsResolves : Apart h.connected h.dnsResolves
  binds_dnsResolves : Apart h.binds h.dnsResolves
  issued (k : ConnID) : h.connecting[k]? ≠ none ∨ h.connected[k]? ≠ none ∨ h.binds[k]? ≠ none ∨
    h.dnsResolves[k]? ≠ none → k ∈ issued h.trace
  ids {place : Place} {k : ConnID} {obj : ConnectionObject} : (h.objects place)[k]? = some obj → obj.base.id = k
  owner {place place' : Place} {k k' : ConnID} {obj obj' : ConnectionObject} :
    (h.objects place)[k]? = some obj → (h.objects place')[k']? = some obj' → obj.base.id = obj'.base.id →
      place = place' ∧ k = k'
  outgoing : h.outgoingConnCount = OrderedMap.countValues ConnectionObject.isOutgoing h.connected
  incoming : h.incomingConnCount = OrderedMap.countValues (fun obj : ConnectionObject => !obj.isOutgoing) h.connected
  failed : ∀ assertion ∈ h.failed, assertion ≠ .onDisconnected ∧ assertion ≠ .onConnectionFailure ∧
    assertion ≠ .onIncomingConnected ∧ assertion ≠ .onOutgoingConnected ∧ assertion ≠ .onResolveFailure ∧
      assertion ≠ .shutdownInt

/-- Where an id has one place at most, no two maps hold it. -/
theorem apart_of_places {h : CConnectionHandlerInt} (hplaces : ∀ k : ConnID, h.places k ≤ 1) :
    (Apart h.connecting h.connected ∧ Apart h.connecting h.binds ∧ Apart h.connecting h.dnsResolves) ∧
      (Apart h.connected h.binds ∧ Apart h.connected h.dnsResolves) ∧ Apart h.binds h.dnsResolves := by
  have hnone {α : Type} {entry : Option α} (hzero : entry.isSome.toNat = 0) : entry = none := by
    cases entry with
    | none => rfl
    | some => contradiction
  have heither {α β : Type} {left : Option α} {right : Option β}
      (hle : left.isSome.toNat + right.isSome.toNat ≤ 1) : left = none ∨ right = none := by
    cases left with
    | none => exact Or.inl rfl
    | some =>
      change 1 + right.isSome.toNat ≤ 1 at hle
      exact Or.inr (hnone (by omega))
  refine ⟨⟨fun k => ?_, fun k => ?_, fun k => ?_⟩, ⟨fun k => ?_, fun k => ?_⟩, fun k => ?_⟩ <;>
    refine heither ?_ <;>
    exact le_trans (by simp only [places]; omega) (hplaces k)

/-- A stage whose books are kept. -/
theorem Books.bookkeeping {P : CConnection → Prop} {h : CConnectionHandlerInt} {conns : List CConnection}
    (books : Books ⟨h, .idle, conns⟩) (objects : Objects P ⟨h, .idle, conns⟩) : Bookkeeping h := by
  obtain ⟨⟨hconnected, hbinds, hdns⟩, ⟨hconnectedBinds, hconnectedDns⟩, hbindsDns⟩ := apart_of_places books.apart
  have hid {place : Place} {k : ConnID} {obj : ConnectionObject} (hobj : (h.objects place)[k]? = some obj) :
      obj.base.id = k := (objects.ready_of_found hobj).id
  have hcount (outgoing : Bool) : h.counter outgoing =
      OrderedMap.countValues (fun obj : ConnectionObject => obj.isOutgoing == outgoing) h.connected := by
    rw [books.counts]
    exact add_zero _
  refine ⟨hconnected, hbinds, hdns, hconnectedBinds, hconnectedDns, hbindsDns, fun k hk => ?_, hid,
    fun {place place' k k' obj obj'} hobj hobj' hsame => ?_, ?_, ?_, fun assertion hmem => ?_⟩
  · refine books.old k fun hzero => ?_
    obtain ⟨hconnecting, hconnected, hbinds, hdns⟩ := places_eq_zero_iff.mp hzero
    simp [hconnecting, hconnected, hbinds, hdns] at hk
  · obtain rfl : k = k' := by rw [← hid hobj, ← hid hobj', hsame]
    have hnot {obj obj' : ConnectionObject} (hconnecting : h.connecting[k]? = some obj)
        (hestablished : h.connected[k]? = some obj') : False := by
      rcases hconnected k with hnone | hnone
      · rw [hnone] at hconnecting
        contradiction
      · rw [hnone] at hestablished
        contradiction
    refine ⟨?_, rfl⟩
    cases place with
    | connecting =>
      cases place' with
      | connecting => rfl
      | connected => exact (hnot hobj hobj').elim
    | connected =>
      cases place' with
      | connecting => exact (hnot hobj' hobj).elim
      | connected => rfl
  · have houtgoing := hcount true
    simpa [counter] using houtgoing
  · have hincoming := hcount false
    simpa [counter] using hincoming
  · have hother := books.failed assertion hmem
    simp only [Assertion.OfBooks, not_or] at hother
    obtain ⟨hshutdown, hresolve, hdisconnected, hfailure, hincoming, houtgoing⟩ := hother
    exact ⟨hdisconnected, hfailure, hincoming, houtgoing, hresolve, hshutdown⟩

/-- The bookkeeping of every handler that a run reaches while fewer than 2^63 ids have been issued. -/
theorem run_bookkeeping (inputs : List HandlerInput) (hfew : FewIds (run inputs).trace) :
    Bookkeeping (run inputs) := by
  have hsound : Sound (fun _ => True) ⟨run inputs, .idle, []⟩ :=
    run_sound inputs fun _ _ => ⟨fun _ _ _ _ => trivial, fun _ _ => trivial⟩
  exact (hsound.books hfew).bookkeeping hsound.objects

/-- A persistent connection that is established, closed by the user and tried again. -/
theorem run_bookkeeping_reconnected :
    FewIds (run [⟨.start 8, .accepting [] .later⟩, ⟨.requestEvent, .accepting [localPeer true] .later⟩,
      ⟨.connEvent .connecting 0 ⟨false, false, false, true⟩, .accepting [] .later⟩,
      ⟨.call (.closeConnection 0 true), .accepting [] .later⟩,
      ⟨.connection .connected 0 .disconnectFunc, .accepting [] .later⟩]).trace ∧
    Bookkeeping (run [⟨.start 8, .accepting [] .later⟩, ⟨.requestEvent, .accepting [localPeer true] .later⟩,
      ⟨.connEvent .connecting 0 ⟨false, false, false, true⟩, .accepting [] .later⟩,
      ⟨.call (.closeConnection 0 true), .accepting [] .later⟩,
      ⟨.connection .connected 0 .disconnectFunc, .accepting [] .later⟩]) :=
  ⟨by decide +kernel, run_bookkeeping _ (by decide +kernel)⟩

end LibBtcNet
