import LibBtcNet.HandlerObjects

/-!
# The books of the handler

While fewer ids have been issued than there are, an issued id is new. Then every id has its one
place, the counters count, and no connection that is established holds a handle of an attempt, so
that no assertion about the books can fail.
-/

namespace LibBtcNet

open CConnectionHandlerInt

namespace CConnectionHandlerInt

/-- The number of maps that hold an id. -/
def places (h : CConnectionHandlerInt) (k : ConnID) : ℕ :=
  h.connecting[k]?.isSome.toNat + h.connected[k]?.isSome.toNat + h.binds[k]?.isSome.toNat +
    h.dnsResolves[k]?.isSome.toNat

/-- The counter of a direction. -/
def counter (h : CConnectionHandlerInt) (outgoing : Bool) : ℤ :=
  if outgoing then h.outgoingConnCount else h.incomingConnCount

/-- The established connections of a direction. -/
def established (h : CConnectionHandlerInt) (outgoing : Bool) : ℕ :=
  OrderedMap.countValues (fun obj : ConnectionObject => obj.isOutgoing == outgoing) h.connected

end CConnectionHandlerInt

/-- The connections of a direction that are still counted, although they have left their map. -/
def Hand.counted (outgoing : Bool) : Hand → ℕ
  | .disconnecting entries => entries.countP fun entry => entry.2.isOutgoing == outgoing
  | _ => 0

/-- What is in hand has an id of its own. -/
def Hand.Kept (h : CConnectionHandlerInt) : Hand → Prop
  | .accepted k obj => k ∈ issued h.trace ∧ h.places k = 0 ∧ obj.Settled
  | .retrying obj => obj.kind.handles = 0
  | _ => True

/-- The books of a stage. -/
structure Books (s : Stage) : Prop where
  trying : OrderedMap.All (fun _ obj => obj.Trying) s.handler.connecting
  settled : OrderedMap.All (fun _ obj => obj.Settled) s.handler.connected
  old (k : ConnID) : s.handler.places k ≠ 0 → k ∈ issued s.handler.trace
  apart (k : ConnID) : s.handler.places k ≤ 1
  counts (outgoing : Bool) :
    s.handler.counter outgoing = s.handler.established outgoing + s.hand.counted outgoing
  hand : s.hand.Kept s.handler
  failed : ∀ assertion ∈ s.handler.failed, ¬assertion.OfBooks

/-- An id of later items is no earlier one. -/
theorem fresh_of_issued {t items : Trace} {index : ConnID} {k : ConnID} (hnumbered : Numbered (t ++ items) index)
    (hfew : FewIds (t ++ items)) (hissued : .issued k ∈ items) : k ∉ issued t := by
  have hnodup := hnumbered.nodup hfew
  rw [issued_append] at hnodup
  have hk : k ∈ issued items := List.mem_filterMap.mpr ⟨.issued k, hissued, rfl⟩
  exact fun hold => List.disjoint_of_nodup_append hnodup hold hk

/-- The next id is no earlier one. -/
theorem fresh_of_issue {h h' : CConnectionHandlerInt} {id : ConnID} (hissue : h.getNextConnectionIndex = (id, h'))
    (hnumbered : Numbered h.trace h.connectionIndex) (hfew : FewIds h'.trace) : id ∉ issued h.trace := by
  obtain ⟨index, failures, rfl, -, hnext⟩ := issued_shape hissue
  exact fresh_of_issued (hnext hnumbered) hfew (List.mem_singleton_self _)

/-- Assertions of calls keep no books. -/
theorem Assertion.OfCalls.not_ofBooks {assertion : Assertion} (hcalls : assertion.OfCalls) : ¬assertion.OfBooks := by
  rcases hcalls with rfl | rfl | rfl | rfl <;> simp [Assertion.OfBooks]

variable {P : CConnection → Prop} {L : Int32 → Prop}

/-- What happened stays at every move. -/
theorem Move.trace {s s' : Stage} (move : Move P L s s') : s.handler.trace <+: s'.handler.trace := by
  cases move with
  | user frame =>
    obtain ⟨items, htrace⟩ := frame.grows.trace
    exact ⟨items, htrace.symm⟩
  | accepted hrunning hbind hissue =>
    obtain ⟨index, failures, rfl, -, -⟩ := issued_shape hissue
    simp [called, record]
  | retried hissue =>
    obtain ⟨index, failures, rfl, -, -⟩ := issued_shape hissue
    simp
  | started hsupplied hconnects hissue =>
    obtain ⟨index, failures, rfl, -, -⟩ := issued_shape hissue
    simp
  | resolveStarted hsupplied hproxy hissue =>
    obtain ⟨index, failures, rfl, -, -⟩ := issued_shape hissue
    simp
  | shutdownDone => simp [check_eq]
  | _ => simp [CConnectionHandlerInt.fail, called, takeConnecting, worked, record]

/-- Few ids after a move are few before. -/
theorem Move.fewIds {s s' : Stage} (move : Move P L s s') (hfew : FewIds s'.handler.trace) :
    FewIds s.handler.trace := by
  obtain ⟨items, htrace⟩ := move.trace
  rw [← htrace] at hfew
  exact hfew.of_append

namespace CConnectionHandlerInt

/-- An object is replaced where it is. -/
theorem places_put {h : CConnectionHandlerInt} {place : Place} {k : ConnID} {old : ConnectionObject}
    (hold : (h.objects place)[k]? = some old) (obj : ConnectionObject) (a : ConnID) :
    (h.put place k obj).places a = h.places a := by
  cases place with
  | connecting =>
    change h.connecting[k]? = some old at hold
    by_cases heq : k = a
    · subst heq
      simp [places, put, hold]
    · simp [places, put, heq]
  | connected =>
    change h.connected[k]? = some old at hold
    by_cases heq : k = a
    · subst heq
      simp [places, put, hold]
    · simp [places, put, heq]

/-- An id is in no place when no map holds it. -/
theorem places_eq_zero_iff {h : CConnectionHandlerInt} {k : ConnID} : h.places k = 0 ↔
    h.connecting[k]? = none ∧ h.connected[k]? = none ∧ h.binds[k]? = none ∧ h.dnsResolves[k]? = none := by
  have hnone {α : Type} (entry : Option α) : entry.isSome.toNat = 0 ↔ entry = none := by cases entry <;> simp
  simp only [places, Nat.add_eq_zero_iff, hnone, and_assoc]

/-- A connection added under an id of its own. -/
theorem places_connecting {h : CConnectionHandlerInt} {id : ConnID} (hzero : h.places id = 0)
    {connecting : ConnMap ConnectionObject} {obj : ConnectionObject}
    (hsame : ∀ a : ConnID, connecting[a]? = (h.connecting.insert id obj)[a]?) (a : ConnID) :
    places { h with connecting } a = if id = a then 1 else h.places a := by
  obtain ⟨hconnecting, hconnected, hbinds, hdns⟩ := places_eq_zero_iff.mp hzero
  simp only [places, hsame, OrderedMap.getElem?_insert]
  split
  · next heq =>
    subst heq
    rw [hconnected, hbinds, hdns]
    rfl
  · rfl

/-- A connection established under an id of its own. -/
theorem places_connected {h : CConnectionHandlerInt} {id : ConnID} (hzero : h.places id = 0) (obj : ConnectionObject)
    (a : ConnID) : places { h with connected := h.connected.insertIfNew id obj } a =
      if id = a then 1 else h.places a := by
  obtain ⟨hconnecting, hconnected, hbinds, hdns⟩ := places_eq_zero_iff.mp hzero
  simp only [places, OrderedMap.getElem?_insertIfNew]
  split
  · next heq =>
    subst heq
    rw [hconnecting, hbinds, hdns]
    rfl
  · rfl

/-- A request added under an id of its own. -/
theorem places_dnsResolves {h : CConnectionHandlerInt} {id : ConnID} (hzero : h.places id = 0) (c : CResolveOnly)
    (a : ConnID) : places { h with dnsResolves := h.dnsResolves.insertIfNew id c } a =
      if id = a then 1 else h.places a := by
  obtain ⟨hconnecting, hconnected, hbinds, hdns⟩ := places_eq_zero_iff.mp hzero
  simp only [places, OrderedMap.getElem?_insertIfNew]
  split
  · next heq =>
    subst heq
    rw [hconnecting, hconnected, hbinds]
    rfl
  · rfl

/-- An id that is added has been issued. -/
theorem places_added {h h' : CConnectionHandlerInt} {id a : ConnID}
    (hplaces : h'.places a = if id = a then 1 else h.places a) (hid : id ∈ issued h'.trace) :
    h'.places a ≤ h.places a ∨ (h'.places a = 1 ∧ a ∈ issued h'.trace) := by
  split at hplaces
  · next heq => exact Or.inr ⟨hplaces, heq ▸ hid⟩
  · exact Or.inl hplaces.le

/-- A connection established under an id of its own is counted. -/
theorem established_insertIfNew {h : CConnectionHandlerInt} {id : ConnID} (hzero : h.places id = 0)
    (obj : ConnectionObject) (outgoing : Bool) :
    established { h with connected := h.connected.insertIfNew id obj } outgoing =
      h.established outgoing + (obj.isOutgoing == outgoing).toNat :=
  OrderedMap.countValues_insertIfNew _ obj (places_eq_zero_iff.mp hzero).2.1

/-- A replacement in the same direction is not counted. -/
theorem established_put {h : CConnectionHandlerInt} {place : Place} {k : ConnID} {old obj : ConnectionObject}
    (hold : (h.objects place)[k]? = some old) (hobj : obj.isOutgoing = old.isOutgoing) (outgoing : Bool) :
    (h.put place k obj).established outgoing = h.established outgoing := by
  cases place with
  | connecting => rfl
  | connected => exact OrderedMap.countValues_replace _ hold (by rw [hobj])

/-- The counters count nothing but connections. -/
theorem counter_count (h : CConnectionHandlerInt) (direction outgoing : Bool) (change : ℤ) :
    (h.count direction change).counter outgoing =
      h.counter outgoing + if direction = outgoing then change else 0 := by
  cases direction <;> cases outgoing <;> simp [count, counter]

/-- An id taken out of a map is in one place less. -/
theorem places_takeConnecting {h : CConnectionHandlerInt} {k : ConnID} {ptr : ConnectionObject}
    (hptr : h.connecting[k]? = some ptr) (a : ConnID) :
    (h.takeConnecting k).places a + (if k = a then 1 else 0) = h.places a := by
  by_cases heq : k = a
  · subst heq
    simp [places, takeConnecting, hptr]
    omega
  · simp [places, takeConnecting, heq]

end CConnectionHandlerInt

namespace Books

variable {h : CConnectionHandlerInt} {hand : Hand} {conns : List CConnection}

/-- An id that has not been issued is in no map. -/
theorem places_eq_zero (books : Books ⟨h, hand, conns⟩) {k : ConnID} (hk : k ∉ issued h.trace) : h.places k = 0 := by
  by_contra hne
  exact hk (books.old k hne)

end Books

/-- The user's calls keep the books. -/
theorem Books.frame {h h' : CConnectionHandlerInt} {hand : Hand} {conns : List CConnection}
    (books : Books ⟨h, hand, conns⟩)
    (frame : Frame h h') (hnumbered : Numbered h.trace h.connectionIndex) (hfew : FewIds h'.trace) :
    Books ⟨h', hand, conns⟩ := by
  obtain ⟨items, htrace, -, hbinds⟩ := frame.items
  obtain ⟨failures, hfailed, hcalls⟩ := frame.failed
  have hnumbered' := frame.numbered hnumbered
  rw [htrace] at hfew hnumbered'
  have hissued (k : ConnID) (hk : k ∈ issued h.trace) : k ∈ issued h'.trace := by
    rw [htrace, issued_append]
    exact List.mem_append_left _ hk
  -- A listener that is new has a new id.
  have hplaces (k : ConnID) : h'.places k ≤ h.places k ∨ (h.places k = 0 ∧ h'.places k = 1 ∧ .issued k ∈ items) := by
    have hconnected : h'.connected[k]?.isSome = h.connected[k]?.isSome := by
      rw [Bool.eq_iff_iff, Option.isSome_iff_ne_none, Option.isSome_iff_ne_none, ne_eq, ne_eq,
        frame.connected_eq_none_iff]
    rw [places, places, frame.connecting, frame.dnsResolves, hconnected]
    cases hnew : h'.binds[k]? with
    | none => exact Or.inl (by simp)
    | some conn =>
      rcases hbinds k (by simp [hnew]) with hold | hitem
      · obtain ⟨bound, hbound⟩ := Option.ne_none_iff_exists'.mp hold
        exact Or.inl (by simp [hbound])
      · have hzero := books.places_eq_zero (fresh_of_issued hnumbered' hfew hitem)
        rw [places] at hzero
        refine Or.inr ⟨hzero, ?_, hitem⟩
        change h.connecting[k]?.isSome.toNat + h.connected[k]?.isSome.toNat + 1 +
          h.dnsResolves[k]?.isSome.toNat = 1
        omega
  have hkept : hand.Kept h' := by
    cases hand with
    | accepted k obj =>
      obtain ⟨hk, hzero, hsettled⟩ := books.hand
      refine ⟨hissued k hk, ?_, hsettled⟩
      rcases hplaces k with hle | ⟨-, -, hitem⟩
      · exact Nat.le_zero.mp (hzero ▸ hle)
      · exact absurd hk (fresh_of_issued hnumbered' hfew hitem)
    | retrying obj => exact books.hand
    | _ => trivial
  constructor
  · exact frame.connecting ▸ books.trying
  · intro k obj' hobj'
    obtain ⟨obj, hobj, hcalled⟩ := frame.called k obj' hobj'
    obtain ⟨hhandles, hretry⟩ := books.settled k obj hobj
    exact ⟨hcalled.kind ▸ hhandles, hcalled.reconnectFunc.trans hretry⟩
  · intro k hne
    rcases hplaces k with hle | ⟨-, -, hitem⟩
    · exact hissued k (books.old k fun hzero => hne (Nat.le_zero.mp (hzero ▸ hle)))
    · change k ∈ issued h'.trace
      rw [htrace, issued_append]
      exact List.mem_append_right _ (List.mem_filterMap.mpr ⟨.issued k, hitem, rfl⟩)
  · intro k
    rcases hplaces k with hle | ⟨-, hone, -⟩
    · exact hle.trans (books.apart k)
    · exact hone.le
  · intro outgoing
    have hcounter : h'.counter outgoing = h.counter outgoing := by
      rw [counter, counter, frame.outgoingConnCount, frame.incomingConnCount]
    have hestablished : h'.established outgoing = h.established outgoing :=
      frame.count fun kind => kind.isOutgoing == outgoing
    change h'.counter outgoing = h'.established outgoing + _
    rw [hcounter, hestablished]
    exact books.counts outgoing
  · exact hkept
  · intro assertion hassertion
    change assertion ∈ h'.failed at hassertion
    rw [hfailed] at hassertion
    rcases List.mem_append.mp hassertion with hold | hnew
    · exact books.failed assertion hold
    · exact (hcalls assertion hnew).not_ofBooks

/-- The books after a change that adds new ids at most. -/
theorem Books.next {h h' : CConnectionHandlerInt} {hand hand' : Hand} {conns rest : List CConnection}
    (books : Books ⟨h, hand, conns⟩) (htrace : h.trace <+: h'.trace)
    (hplaces : ∀ k : ConnID, h'.places k ≤ h.places k ∨ (h'.places k = 1 ∧ k ∈ issued h'.trace))
    (htrying : OrderedMap.All (fun _ obj => obj.Trying) h'.connecting)
    (hsettled : OrderedMap.All (fun _ obj => obj.Settled) h'.connected)
    (hcounts : ∀ outgoing : Bool, h'.counter outgoing = h'.established outgoing + hand'.counted outgoing)
    (hhand : hand'.Kept h') (hfailed : ∀ assertion ∈ h'.failed, assertion ∈ h.failed ∨ ¬assertion.OfBooks) :
    Books ⟨h', hand', rest⟩ := by
  refine ⟨htrying, hsettled, fun k hne => ?_, fun k => ?_, hcounts, hhand, fun assertion hassertion => ?_⟩
  · rcases hplaces k with hle | ⟨-, hk⟩
    · obtain ⟨items, hitems⟩ := htrace
      change k ∈ issued h'.trace
      rw [← hitems, issued_append]
      exact List.mem_append_left _ (books.old k fun hzero => hne (Nat.le_zero.mp (hzero ▸ hle)))
    · exact hk
  · rcases hplaces k with hle | ⟨hone, -⟩
    · exact hle.trans (books.apart k)
    · exact hone.le
  · rcases hfailed assertion hassertion with hold | hother
    · exact books.failed assertion hold
    · exact hother

namespace Books

variable {h : CConnectionHandlerInt} {conns : List CConnection} {place : Place} {k : ConnID}
  {obj ptr : ConnectionObject} {r : ConnResult ConnectionObject}

/-- An object in hand keeps its id where no map gains one. -/
theorem kept {hand : Hand} {h' : CConnectionHandlerInt} (books : Books ⟨h, hand, conns⟩)
    (htrace : h.trace <+: h'.trace)
    (hplaces : ∀ k : ConnID, h'.places k = h.places k) : hand.Kept h' := by
  cases hand with
  | accepted id obj =>
    obtain ⟨hid, hzero, hsettled⟩ := books.hand
    obtain ⟨items, hitems⟩ := htrace
    refine ⟨?_, (hplaces id).trans hzero, hsettled⟩
    rw [← hitems, issued_append]
    exact List.mem_append_left _ hid
  | retrying obj => exact books.hand
  | _ => trivial

/-- A report has taken its own object, which has no handle. -/
theorem took (books : Books ⟨h, .idle, conns⟩) (working : Working h place k obj r) (hfew : FewIds h.trace)
    (hreport : r.report ≠ .waiting) (hptr : (h.worked place k obj r).connecting[k]? = some ptr) {hand' : Hand}
    {c : Callback} {ret : Bool} {about : Option CConnection} (hnone : ∀ outgoing, hand'.counted outgoing = 0)
    (hhand : ∀ h' : CConnectionHandlerInt, k ∈ issued h'.trace → h'.places k = 0 → ptr.Settled → hand'.Kept h') :
    Books ⟨((h.worked place k obj r).takeConnecting k).called c ret about, hand', conns⟩ := by
  obtain ⟨rfl, hsettled⟩ := working.ends hfew hreport
  have hsame : ptr = r.obj := by
    change (h.connecting.insert k r.obj)[k]? = some ptr at hptr
    simpa using hptr.symm
  have hplaces (a : ConnID) := places_takeConnecting hptr a
  have hput (a : ConnID) : (h.worked .connecting k obj r).places a = h.places a := places_put working.found r.obj a
  simp only [hput] at hplaces
  have hone : h.places k ≠ 0 := by
    have hk := hplaces k
    rw [if_pos rfl] at hk
    omega
  have hold : k ∈ issued (((h.worked .connecting k obj r).takeConnecting k).called c ret about).trace := by
    simp [called, takeConnecting, worked, record, books.old k hone]
  refine books.next (by simp [called, takeConnecting, worked, record]) (fun a => Or.inl ?_) ?_ books.settled
    (fun outgoing => ?_) (hhand _ hold ?_ (hsame ▸ hsettled)) fun assertion hassertion => Or.inl hassertion
  · exact Nat.le.intro (hplaces a)
  · refine (books.trying.erase k).congr fun a => ?_
    change ((h.connecting.insert k r.obj).erase k)[a]? = (h.connecting.erase k)[a]?
    by_cases heq : k = a <;> simp [heq]
  · rw [hnone]
    exact books.counts outgoing
  · have hk := hplaces k
    have hle := books.apart k
    rw [if_pos rfl] at hk
    change h.places k ≤ 1 at hle
    change ((h.worked .connecting k obj r).takeConnecting k).places k = 0
    omega

end Books

/-- A new connection has no handle. -/
theorem ConnectionObject.settled_new (conn : CConnection) (id : ConnID) (bytesRead bytesWritten : ℕ) :
    (new conn id bytesRead bytesWritten).Settled := by
  refine ⟨?_, rfl⟩
  unfold new
  simp only
  split
  · rfl
  · split <;> rfl

/-- A connection without a handle is one that tries. -/
theorem ConnectionObject.Settled.trying {obj : ConnectionObject} (settled : obj.Settled) : obj.Trying :=
  ⟨settled.handles.trans_le (Nat.zero_le 1), fun _ => settled.handles⟩

namespace Books

variable {h : CConnectionHandlerInt} {hand hand' : Hand} {conns : List CConnection} {place : Place} {k : ConnID}
  {obj : ConnectionObject} {r : ConnResult ConnectionObject}

/-- What happened does not change the books. -/
theorem recorded (books : Books ⟨h, hand, conns⟩) (items : Trace) : Books ⟨h.record items, hand, conns⟩ := by
  have hgrown : h.trace <+: (h.record items).trace := List.prefix_append _ _
  exact books.next hgrown (fun _ => Or.inl le_rfl) books.trying books.settled books.counts
    (books.kept hgrown fun _ => rfl) fun _ => Or.inl

/-- The books after connections are established or closed, and a direction is counted again. -/
theorem recount {connected : ConnMap ConnectionObject} {direction : Bool} {change : ℤ}
    (books : Books ⟨h, hand, conns⟩)
    (hplaces : ∀ a : ConnID, places { h with connected } a ≤ h.places a ∨
      (places { h with connected } a = 1 ∧ a ∈ issued h.trace))
    (hsettled : OrderedMap.All (fun _ obj => obj.Settled) connected)
    (hcounts : ∀ outgoing : Bool, (h.established outgoing + hand.counted outgoing : ℤ) +
        (if direction = outgoing then change else 0) =
      established { h with connected } outgoing + hand'.counted outgoing)
    (hhand : hand'.Kept ({ h with connected }.count direction change)) :
    Books ⟨{ h with connected }.count direction change, hand', conns⟩ := by
  have hsame (a : ConnID) : ({ h with connected }.count direction change).places a = places { h with connected } a := by
    simp [places]
  refine books.next (by simp) (fun a => ?_) (by simpa using books.trying) (by simpa using hsettled)
    (fun outgoing => ?_) hhand fun assertion hassertion => Or.inl (by simpa using hassertion)
  · rw [hsame, count_trace]
    exact hplaces a
  · have hbooks := books.counts outgoing
    change h.counter outgoing = (h.established outgoing : ℤ) + hand.counted outgoing at hbooks
    rw [counter_count, established, count_connected]
    change h.counter outgoing + _ = _
    rw [hbooks]
    exact hcounts outgoing

/-- An accepted connection is established. -/
theorem establish (books : Books ⟨h, .accepted k obj, conns⟩) :
    Books ⟨{ h with connected := h.connected.insertIfNew k obj.enable }.count obj.isOutgoing 1, .idle, conns⟩ := by
  obtain ⟨hk, hzero, hsettled⟩ := books.hand
  refine books.recount (fun a => ?_) (books.settled.insertIfNew ⟨hsettled.handles, hsettled.reconnectFunc⟩)
    (fun outgoing => ?_) trivial
  · exact places_added (places_connected hzero obj.enable a) hk
  · rw [established_insertIfNew hzero obj.enable outgoing]
    change _ = ((h.established outgoing + (obj.isOutgoing == outgoing).toNat : ℕ) : ℤ) + 0
    by_cases heq : obj.isOutgoing = outgoing <;> simp [heq, Hand.counted]

/-- An established connection leaves its map. -/
theorem leave (books : Books ⟨h, hand, conns⟩) (hnone : ∀ outgoing, hand.counted outgoing = 0)
    (hobj : h.connected[k]? = some obj) (hnone' : ∀ outgoing, hand'.counted outgoing = 0)
    (hhand : obj.Settled → hand'.Kept ({ h with connected := h.connected.erase k }.count obj.isOutgoing (-1))) :
    Books ⟨{ h with connected := h.connected.erase k }.count obj.isOutgoing (-1), hand', conns⟩ := by
  refine books.recount (fun a => Or.inl ?_) (books.settled.erase k) (fun outgoing => ?_)
    (hhand (books.settled k obj hobj))
  · by_cases heq : k = a
    · subst heq
      simp [places]
    · simp [places, heq]
  · have herase := OrderedMap.countValues_erase (fun obj : ConnectionObject => obj.isOutgoing == outgoing) hobj
    rw [hnone, hnone', established, ← herase]
    by_cases heq : obj.isOutgoing = outgoing <;> simp [established, heq]

/-- A connection that is closed at the shutdown is no longer counted. -/
theorem uncount {entry : ConnID × ConnectionObject} {entries : List (ConnID × ConnectionObject)}
    (books : Books ⟨h, .disconnecting (entry :: entries), conns⟩) :
    Books ⟨h.count entry.2.isOutgoing (-1), .disconnecting entries, conns⟩ := by
  refine books.recount (fun a => Or.inl le_rfl) books.settled (fun outgoing => ?_) trivial
  by_cases heq : entry.2.isOutgoing = outgoing
  · simp only [established, Hand.counted, List.countP_cons, heq, beq_self_eq_true, if_true]
    omega
  · simp [established, Hand.counted, heq]

/-- A connection that waits goes on trying, or stays established. -/
theorem waited (books : Books ⟨h, .idle, conns⟩) (working : Working h place k obj r) (hreport : r.report = .waiting)
    (hfew : FewIds h.trace) : Books ⟨h.worked place k obj r, .idle, conns⟩ := by
  have hplaces (a : ConnID) : (h.put place k r.obj).places a = h.places a := places_put working.found r.obj a
  have hcounts (outgoing : Bool) : (h.put place k r.obj).counter outgoing =
      (h.put place k r.obj).established outgoing + Hand.idle.counted outgoing := by
    have hcounter : (h.put place k r.obj).counter outgoing = h.counter outgoing := by simp [counter]
    rw [established_put working.found working.works.outgoing outgoing, hcounter]
    exact books.counts outgoing
  have hfailed (assertion : Assertion) (hmem : assertion ∈ (h.put place k r.obj).failed) :
      assertion ∈ h.failed ∨ ¬assertion.OfBooks := Or.inl (by simpa using hmem)
  have hwaits := working.waits hfew hreport
  refine recorded ?_ _
  cases place with
  | connecting =>
    have htrying : r.obj.Trying := by
      rcases hwaits with hsame | ⟨-, htrying⟩
      · exact hsame ▸ books.trying k obj working.found
      · exact htrying
    exact books.next (List.prefix_refl _) (fun a => Or.inl (hplaces a).le) (books.trying.insert htrying) books.settled
      hcounts trivial hfailed
  | connected =>
    have hsettled : r.obj.Settled := by
      rcases hwaits with hsame | ⟨hplace, -⟩
      · exact hsame ▸ books.settled k obj working.found
      · contradiction
    exact books.next (List.prefix_refl _) (fun a => Or.inl (hplaces a).le) books.trying (books.settled.insert hsettled)
      hcounts trivial hfailed

/-- An assertion of another kind has failed. -/
theorem fail {assertion : Assertion} (books : Books ⟨h, hand, conns⟩) (hother : ¬assertion.OfBooks) :
    Books ⟨h.fail assertion, hand, conns⟩ := by
  have hgrown : h.trace <+: (h.fail assertion).trace := List.prefix_refl _
  refine books.next hgrown (fun _ => Or.inl le_rfl) books.trying books.settled books.counts
    (books.kept hgrown fun _ => rfl) fun other hmem => ?_
  rcases List.mem_append.mp hmem with hold | hnew
  · exact Or.inl hold
  · obtain rfl := List.mem_singleton.mp hnew
    exact Or.inr hother

/-- An event changes an established connection. -/
theorem changed {obj' : ConnectionObject} (books : Books ⟨h, hand, conns⟩) (hobj : h.connected[k]? = some obj)
    (hchanges : obj.Changes obj') : Books ⟨h.put .connected k obj', hand, conns⟩ := by
  have hfound : (h.objects .connected)[k]? = some obj := hobj
  have hgrown : h.trace <+: (h.put .connected k obj').trace := List.prefix_refl _
  obtain ⟨hhandles, hretry⟩ := books.settled k obj hobj
  have hretry' : obj'.base.reconnectFunc = false := by
    cases hflag : obj'.base.reconnectFunc with
    | false => rfl
    | true => exact absurd (hretry.symm.trans (hchanges.reconnectFunc hflag)) Bool.false_ne_true
  have houtgoing : obj'.isOutgoing = obj.isOutgoing := congrArg ConnKind.isOutgoing hchanges.kind
  refine books.next hgrown (fun a => Or.inl (places_put hfound obj' a).le) books.trying
    (books.settled.insert ⟨hchanges.kind ▸ hhandles, hretry'⟩) (fun outgoing => ?_)
    (books.kept hgrown (places_put hfound obj')) fun _ hmem => Or.inl hmem
  rw [established_put hfound houtgoing]
  exact books.counts outgoing

/-- A connection that is over leaves its map, and is in hand if it is tried again. -/
theorem ended {again ret : Bool} {c : Callback} (books : Books ⟨h, hand, conns⟩)
    (hhand : hand = .idle ∨ hand = .closing k) (hobj : h.connected[k]? = some obj) :
    Books ⟨({ h with connected := h.connected.erase k }.count obj.isOutgoing (-1)).called c ret obj.base.conn,
      if again then .retrying obj else .idle, conns⟩ := by
  have hnone (outgoing : Bool) : hand.counted outgoing = 0 := by rcases hhand with rfl | rfl <;> rfl
  have hnone' (outgoing : Bool) : (if again then Hand.retrying obj else .idle).counted outgoing = 0 := by
    split <;> rfl
  refine (books.leave hnone hobj hnone' fun hsettled => ?_).recorded _
  split
  · exact hsettled.handles
  · trivial

section Issues

variable {h' : CConnectionHandlerInt} {id : ConnID} (hissue : h.getNextConnectionIndex = (id, h'))
  (hnumbered : Numbered h.trace h.connectionIndex) (hfew : FewIds h'.trace)

include hissue

/-- Issuing an id fails no assertion of the books. -/
theorem failed_of_issue (assertion : Assertion) (hassertion : assertion ∈ h'.failed) :
    assertion ∈ h.failed ∨ ¬assertion.OfBooks := by
  obtain ⟨index, failures, rfl, hcalls, -⟩ := issued_shape hissue
  exact (List.mem_append.mp hassertion).imp_right fun hnew => (hcalls assertion hnew).not_ofBooks

include hnumbered hfew

/-- The id is in no map. -/
theorem places_of_issue (books : Books ⟨h, hand, conns⟩) : h.places id = 0 :=
  books.places_eq_zero (fresh_of_issue hissue hnumbered hfew)

/-- An incoming connection has an id, and is in hand if the user accepts it. -/
theorem accepted {conn : CConnection} {addr : Bytes} {bytesRead bytesWritten : ℕ} {c : Callback} {ret : Bool}
    {connecting : ConnMap ConnectionObject} (books : Books ⟨h, .idle, conns⟩)
    (hsame : ∀ k : ConnID, connecting[k]? = h.connecting[k]?) :
    Books ⟨{ h' with connecting }.called c ret conn,
      if ret then .accepted id (.ofSocket conn id bytesRead bytesWritten addr) else .idle, conns⟩ := by
  have hzero := books.places_of_issue hissue hnumbered hfew
  have hfailures := failed_of_issue hissue
  obtain ⟨index, failures, rfl, -, -⟩ := issued_shape hissue
  have hplaces (a : ConnID) : places { h with connecting } a = h.places a := by rw [places, places, hsame]
  have hgrown : h.trace <+: h.trace ++ [.issued id] ++ [.callback c ret conn] :=
    (List.prefix_append _ _).trans (List.prefix_append _ _)
  have hmem : id ∈ issued (h.trace ++ [.issued id] ++ [.callback c ret conn]) := by
    simp [issued, TraceItem.issued?]
  refine books.next hgrown (fun a => Or.inl (hplaces a).le) (books.trying.congr hsame) books.settled
    (fun outgoing => ?_) ?_ hfailures
  · have hbooks := books.counts outgoing
    split <;> exact hbooks
  · split
    · exact ⟨hmem, (hplaces id).trans hzero, rfl, rfl⟩
    · trivial

/-- A connection without a handle is to be made under a new id. -/
theorem joined {connecting : ConnMap ConnectionObject} {rest : List CConnection}
    (books : Books ⟨h, hand, conns⟩) (hnone : ∀ outgoing, hand.counted outgoing = 0) (hsettled : obj.Trying)
    (hsame : h.connecting[id]? = none → ∀ a : ConnID, connecting[a]? = (h.connecting.insert id obj)[a]?) :
    Books ⟨{ h' with connecting }, .idle, rest⟩ := by
  have hzero := books.places_of_issue hissue hnumbered hfew
  have hfailures := failed_of_issue hissue
  obtain ⟨index, failures, rfl, -, -⟩ := issued_shape hissue
  have hmem : id ∈ issued (h.trace ++ [.issued id]) := by simp [issued, TraceItem.issued?]
  have hinserted := hsame (places_eq_zero_iff.mp hzero).1
  refine books.next (List.prefix_append _ _) (fun a => places_added (places_connecting hzero hinserted a) hmem)
    ((books.trying.insert hsettled).congr hinserted) books.settled (fun outgoing => ?_) trivial hfailures
  have hbooks := books.counts outgoing
  rw [hnone] at hbooks
  exact hbooks

/-- A name is to be resolved under a new id. -/
theorem resolveStarted {conn : CConnection} {rest : List CConnection} (books : Books ⟨h, .idle, conns⟩) :
    Books ⟨{ h' with dnsResolves := h'.dnsResolves.insertIfNew id (.new conn id) }, .idle, rest⟩ := by
  have hzero := books.places_of_issue hissue hnumbered hfew
  have hfailures := failed_of_issue hissue
  obtain ⟨index, failures, rfl, -, -⟩ := issued_shape hissue
  have hmem : id ∈ issued (h.trace ++ [.issued id]) := by simp [issued, TraceItem.issued?]
  exact books.next (List.prefix_append _ _) (fun a => places_added (places_dnsResolves hzero _ a) hmem) books.trying
    books.settled books.counts trivial hfailures

end Issues

/-- The established connections are in hand, and still counted. -/
theorem shutdownBegun (books : Books ⟨h, .idle, conns⟩) :
    Books ⟨{ h with connected := ∅, binds := ∅, isShutdown := true }, .disconnecting h.connected.toList, []⟩ := by
  refine books.next (List.prefix_refl _) (fun a => Or.inl ?_) books.trying OrderedMap.All.empty (fun outgoing => ?_)
    trivial fun _ hmem => Or.inl hmem
  · simp only [places, Std.TreeMap.getElem?_emptyc, Option.isSome_none, Bool.toNat_false]
    omega
  · have hempty : OrderedMap.countValues (fun obj : ConnectionObject => obj.isOutgoing == outgoing)
        (∅ : ConnMap ConnectionObject) = 0 := OrderedMap.countValues_of_isEmpty _ rfl
    have hbooks := books.counts outgoing
    change h.counter outgoing =
      (OrderedMap.countValues _ (∅ : ConnMap ConnectionObject) : ℤ) + h.established outgoing
    rw [hempty]
    simpa [Hand.counted] using hbooks

/-- An attempt is dropped. -/
theorem shutdownDropped {entry : ConnID × ConnectionObject} {entries : List (ConnID × ConnectionObject)}
    (books : Books ⟨h, .dropping (entry :: entries), conns⟩) :
    Books ⟨h.takeConnecting entry.1, .dropping entries, conns⟩ := by
  refine books.next (List.prefix_refl _) (fun a => Or.inl ?_) (books.trying.erase _) books.settled books.counts
    trivial fun _ hmem => Or.inl hmem
  by_cases heq : entry.1 = a
  · subst heq
    simp [places, takeConnecting]
  · simp [places, takeConnecting, heq]

/-- A method of a resolve-only request leaves it where it is. -/
theorem resolveWorked {c c' : CResolveOnly} {net : List NetAction} (books : Books ⟨h, .idle, conns⟩)
    (hc : h.dnsResolves[k]? = some c) :
    Books ⟨{ h with dnsResolves := h.dnsResolves.insert k c' }.record (net.map (.net c.conn)), .idle, conns⟩ := by
  refine books.next (List.prefix_append _ _) (fun a => Or.inl ?_) books.trying books.settled books.counts trivial
    fun _ hmem => Or.inl hmem
  by_cases heq : k = a
  · subst heq
    simp [places, record, hc]
  · simp [places, record, heq]

/-- A resolve-only request leaves its map. -/
theorem resolveErased (k : ConnID) (books : Books ⟨h, .idle, conns⟩) :
    Books ⟨{ h with dnsResolves := h.dnsResolves.erase k }, .idle, conns⟩ := by
  refine books.next (List.prefix_refl _) (fun a => Or.inl ?_) books.trying books.settled books.counts trivial
    fun _ hmem => Or.inl hmem
  by_cases heq : k = a
  · subst heq
    simp [places]
  · simp [places, heq]

/-- At the end of a shutdown nothing is left. -/
theorem nothingLeft {P : CConnection → Prop} (objects : Objects P ⟨h, .dropping [], conns⟩)
    (books : Books ⟨h, .dropping [], conns⟩) :
    (h.connecting.isEmpty && h.connected.isEmpty && (∅ : ConnMap CResolveOnly).isEmpty &&
      h.outgoingConnCount == 0 && h.incomingConnCount == 0) = true := by
  obtain ⟨hempty, hkeys, -⟩ := objects.hand
  have hconnecting : h.connecting.isEmpty = true := by
    refine OrderedMap.isEmpty_iff.mpr fun k => ?_
    by_contra hk
    exact absurd (hkeys k hk) List.not_mem_nil
  have hconnected : h.connected.isEmpty = true := OrderedMap.isEmpty_iff.mpr hempty
  have hcounter (outgoing : Bool) : h.counter outgoing = 0 := by
    have hbooks := books.counts outgoing
    have hzero : h.established outgoing = 0 := OrderedMap.countValues_of_isEmpty _ hconnected
    change h.counter outgoing = h.established outgoing + 0 at hbooks
    rw [hbooks, hzero]
    rfl
  have houtgoing : h.outgoingConnCount = 0 := hcounter true
  have hincoming : h.incomingConnCount = 0 := hcounter false
  simp [hconnecting, hconnected, houtgoing, hincoming]

end Books

/-- Every move keeps the books while few ids are issued. -/
theorem Move.books {s s' : Stage} (move : Move P L s s') (objects : Objects P s) (books : Books s)
    (hfew : FewIds s'.handler.trace) : Books s' := by
  have hbefore := move.fewIds hfew
  have hgrown := move.trace
  cases move with
  | user frame => exact books.frame frame objects.numbered hfew
  | forget => exact ⟨books.trying, books.settled, books.old, books.apart, books.counts, books.hand, books.failed⟩
  | fail hother => exact books.fail hother
  | @stray h conns place k obj r assertion working hreport hnone =>
    obtain ⟨rfl, -⟩ := working.ends hbefore hreport
    change (h.connecting.insert k r.obj)[k]? = none at hnone
    simp at hnone
  | @relooked h hand conns connecting hsame =>
    have hplaces (k : ConnID) : ({ h with connecting } : CConnectionHandlerInt).places k = h.places k := by
      rw [places, places, hsame]
    exact books.next hgrown (fun k => Or.inl (hplaces k).le) (books.trying.congr hsame) books.settled books.counts
      (books.kept hgrown hplaces) fun _ hmem => Or.inl hmem
  | changed hobj hchanges => exact books.changed hobj hchanges
  | @rearmed h conns k obj hobj =>
    have hfound : (h.objects .connecting)[k]? = some obj := hobj
    exact books.next hgrown (fun a => Or.inl (places_put hfound _ a).le)
      (books.trying.insert ⟨(books.trying k obj hobj).handles, fun h => absurd h Bool.false_ne_true⟩) books.settled
      books.counts trivial fun _ hmem => Or.inl hmem
  | waited working hreport => exact books.waited working hreport hbefore
  | failed working hreport hptr =>
    refine books.took working hbefore (by simp [hreport]) hptr (fun outgoing => ?_) fun h' _ _ hsettled => ?_
    · split <;> rfl
    · split
      · exact hsettled.handles
      · trivial
  | outgoing working hreport hptr =>
    refine books.took working hbefore (by simp [hreport]) hptr (fun outgoing => ?_) fun h' hk hzero hsettled => ?_
    · split <;> rfl
    · split
      · exact ⟨hk, hzero, hsettled⟩
      · trivial
  | accepted hrunning hbind hissue hfree hsame =>
    exact books.accepted hissue objects.numbered hfew.of_append hsame
  | @establishedIncoming h conns k obj hincoming =>
    have hestablish := books.establish
    rw [hincoming] at hestablish
    exact hestablish
  | @establishedOutgoing h conns k obj ret houtgoing =>
    have hestablish := books.establish
    rw [houtgoing] at hestablish
    exact hestablish.recorded _
  | ended hhand hobj hstopped hreconnect => exact books.ended hhand hobj
  | @retried h h' conns id obj hissue =>
    have htrying : (obj.retry id).Trying := .mk (books.hand.trans_le (Nat.zero_le 1)) fun _ => books.hand
    obtain ⟨index, failures, rfl, -, -⟩ := issued_shape hissue
    refine books.joined hissue objects.numbered hfew (fun _ => rfl) htrying fun hnone a => ?_
    rw [OrderedMap.getElem?_modify, OrderedMap.getElem?_insert, OrderedMap.getElem?_insertIfNew,
      OrderedMap.getElem?_insertIfNew, if_pos rfl, hnone]
    split <;> rfl
  | @started h h' conns id conn bytesRead bytesWritten hsupplied hconnects hissue =>
    have htrying := (ConnectionObject.settled_new conn id bytesRead bytesWritten).trying
    obtain ⟨index, failures, rfl, -, -⟩ := issued_shape hissue
    refine books.joined hissue objects.numbered hfew (fun _ => rfl) htrying fun hnone a => ?_
    rw [OrderedMap.getElem?_insert, OrderedMap.getElem?_insertIfNew, hnone]
    rfl
  | notified hobj heffect hc => exact books.recorded _
  | malformed hobj =>
    exact books.next hgrown (fun _ => Or.inl le_rfl) books.trying books.settled books.counts trivial
      fun _ hmem => Or.inl hmem
  | resolveStarted hsupplied hproxy hissue => exact books.resolveStarted hissue objects.numbered hfew
  | resolveWorked hc hid hconn hpermitted => exact books.resolveWorked hc
  | resolveTold hc hcb => exact books.recorded _
  | resolveErased k => exact books.resolveErased k
  | begun hlimit hbase hcount =>
    exact books.next hgrown (fun _ => Or.inl le_rfl) books.trying books.settled books.counts trivial
      fun _ hmem => Or.inl hmem
  | shutdownBegun hrunning => exact books.shutdownBegun
  | shutdownDisconnected => exact books.uncount.recorded _
  | shutdownTurned => exact ⟨books.trying, books.settled, books.old, books.apart, books.counts, trivial, books.failed⟩
  | shutdownTold houtgoing => exact books.recorded _
  | shutdownDropped => exact books.shutdownDropped
  | shutdownDone =>
    rw [check, if_pos (books.nothingLeft objects)]
    refine books.next (List.prefix_refl _) (fun a => Or.inl ?_) books.trying books.settled books.counts trivial
      fun _ hmem => Or.inl hmem
    simp [places]
  | pumped hshutdown =>
    exact books.next hgrown (fun _ => Or.inl le_rfl) books.trying books.settled books.counts trivial
      fun _ hmem => Or.inl hmem

end LibBtcNet
