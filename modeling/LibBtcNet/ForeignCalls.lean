import LibBtcNet.HandlerSame
import LibBtcNet.HistoryRuns

/-!
# Calls that can wait

A call of another thread changes an established connection or activates the shutdown event. Whatever
touches neither may come before or after it, and so may the removal of a connection, as far as the
other connections are concerned.
-/

namespace LibBtcNet

/-- A call that another thread may make. -/
def ApiCall.Foreign (c : ApiCall) : Prop := ∀ conn listens, c ≠ .bind conn listens

namespace CConnectionHandlerInt

/-- What calls of other threads change is replaced. -/
def refit (connected : ConnMap ConnectionObject) (shutdownEvent : Option Bool) (h : CConnectionHandlerInt) :
    CConnectionHandlerInt :=
  { h with connected, shutdownEvent }

/-- A connection is taken out of `m_connected`. -/
def without (k : ConnID) (h : CConnectionHandlerInt) : CConnectionHandlerInt :=
  { h with connected := h.connected.erase k }

/-- A change that has nothing to do with what calls of other threads change. -/
def Aloof (f : CConnectionHandlerInt → CConnectionHandlerInt) : Prop :=
  ∀ connected shutdownEvent h, f (h.refit connected shutdownEvent) = (f h).refit connected shutdownEvent

variable {h : CConnectionHandlerInt} {calls : List ApiCall}

/-- What has failed stays. -/
theorem failed_of_apiCalls (hfailed : (calls.foldl apiCall h).failed = []) : h.failed = [] := by
  obtain ⟨failures, heq, -⟩ := (foldl_apiCall_frame h calls).failed
  exact (List.append_eq_nil_iff.mp (heq.symm.trans hfailed)).1

/-- A method that looks a connection up and finds none. -/
theorem connectionCall_of_none {id : ConnID} (hnone : h.connected[id]? = none) (c : ConnCall) :
    h.connectionCall id c = h := by
  simp only [connectionCall, hnone, ite_self]

/-- One that finds its connection. -/
theorem connectionCall_of_some {id : ConnID} {c : ConnCall} {obj : ConnectionObject} {base : ConnectionBase}
    (hid : 0 ≤ id) (hobj : h.connected[id]? = some obj) (hcall : obj.base.call c = some base) :
    h.connectionCall id c = h.put .connected id { obj with base } := by
  simp only [connectionCall, if_pos hid, hobj, hcall]

/-- One that fails no assertion has found no connection, or one that it could be made of. -/
theorem connectionCall_cases {id : ConnID} {c : ConnCall} (hfailed : (h.connectionCall id c).failed = h.failed) :
    ¬0 ≤ id ∨ h.connected[id]? = none ∨
      ∃ obj base, 0 ≤ id ∧ h.connected[id]? = some obj ∧ obj.base.call c = some base := by
  by_cases hid : 0 ≤ id
  · cases hobj : h.connected[id]? with
    | none => exact Or.inr (Or.inl rfl)
    | some obj =>
      cases hcall : obj.base.call c with
      | none => simp [connectionCall, hid, hobj, hcall, fail] at hfailed
      | some base => exact Or.inr (Or.inr ⟨obj, base, hid, rfl, hcall⟩)
  · exact Or.inl hid

/-- `Shutdown` that fails no assertion has found the shutdown event. -/
theorem shutdown_of_failed (hfailed : h.shutdown.failed = h.failed) :
    ∃ active, h.shutdownEvent = some active := by
  cases hevent : h.shutdownEvent with
  | none => simp [CConnectionHandlerInt.shutdown, hevent, fail] at hfailed
  | some active => exact ⟨active, rfl⟩

/-- A call of another thread that fails no assertion looks at the established connections and at the shutdown event,
and replaces them. -/
theorem apiCall_refit {c : ApiCall} (hforeign : c.Foreign) (hfailed : (h.apiCall c).failed = h.failed) :
    ∃ connected shutdownEvent, ∀ h' : CConnectionHandlerInt, h'.connected = h.connected →
      h'.shutdownEvent = h.shutdownEvent → h'.apiCall c = h'.refit connected shutdownEvent := by
  have hconnection (id : ConnID) (c : ConnCall) (hfailed : (h.connectionCall id c).failed = h.failed) :
      ∃ connected shutdownEvent, ∀ h' : CConnectionHandlerInt, h'.connected = h.connected →
        h'.shutdownEvent = h.shutdownEvent → h'.connectionCall id c = h'.refit connected shutdownEvent := by
    rcases connectionCall_cases hfailed with hid | hnone | ⟨obj, base, hid, hobj, hcall⟩
    · refine ⟨h.connected, h.shutdownEvent, fun h' hconnected hshutdown => ?_⟩
      rw [connectionCall, if_neg hid, ← hconnected, ← hshutdown]
      rfl
    · refine ⟨h.connected, h.shutdownEvent, fun h' hconnected hshutdown => ?_⟩
      rw [connectionCall_of_none (by rw [hconnected, hnone]), ← hconnected, ← hshutdown]
      rfl
    · refine ⟨h.connected.insert id { obj with base }, h.shutdownEvent, fun h' hconnected hshutdown => ?_⟩
      rw [connectionCall_of_some hid (by rw [hconnected, hobj]) hcall, ← hconnected, ← hshutdown]
      rfl
  cases c with
  | bind conn listens => exact absurd rfl (hforeign conn listens)
  | shutdown =>
    obtain ⟨active, hevent⟩ := shutdown_of_failed hfailed
    refine ⟨h.connected, some true, fun h' hconnected hshutdown => ?_⟩
    change h'.shutdown = _
    rw [CConnectionHandlerInt.shutdown, hshutdown, hevent, ← hconnected]
    rfl
  | closeConnection id immediately => exact hconnection id _ hfailed
  | send id size => exact hconnection id _ hfailed
  | setRateLimit id => exact hconnection id _ hfailed
  | pauseRecv id => exact hconnection id _ hfailed
  | unpauseRecv id => exact hconnection id _ hfailed
  | resetPingTimeout id seconds => exact hconnection id (.resetPingTimeout seconds) hfailed

/-- One of the calls fails no assertion where none of them does. -/
theorem apiCall_failed {c : ApiCall} (hfailed : (calls.foldl apiCall (h.apiCall c)).failed = []) :
    (h.apiCall c).failed = h.failed := by
  have hcall := failed_of_apiCalls hfailed
  rw [hcall]
  exact (@failed_of_apiCalls h [c] hcall).symm

/-- Calls of other threads leave what happened. -/
theorem foreign_trace (hforeign : ∀ c ∈ calls, c.Foreign) (hfailed : (calls.foldl apiCall h).failed = []) :
    (calls.foldl apiCall h).trace = h.trace := by
  induction calls generalizing h with
  | nil => rfl
  | cons c calls ih =>
    have hcall : (h.apiCall c).failed = h.failed := apiCall_failed hfailed
    obtain ⟨connected, shutdownEvent, hrefit⟩ := apiCall_refit (hforeign c List.mem_cons_self) hcall
    rw [List.foldl_cons, ih (fun other hother => hforeign other (List.mem_cons_of_mem c hother)) hfailed,
      hrefit h rfl rfl]
    rfl

/-- A change that is aloof commutes with calls of other threads. -/
theorem Aloof.apiCalls {f : CConnectionHandlerInt → CConnectionHandlerInt} (haloof : Aloof f)
    (hforeign : ∀ c ∈ calls, c.Foreign) (hfailed : (calls.foldl apiCall h).failed = []) :
    calls.foldl apiCall (f h) = f (calls.foldl apiCall h) := by
  induction calls generalizing h with
  | nil => rfl
  | cons c calls ih =>
    have hkept : f h = (f h).refit h.connected h.shutdownEvent := haloof h.connected h.shutdownEvent h
    obtain ⟨connected, shutdownEvent, hrefit⟩ :=
      apiCall_refit (hforeign c List.mem_cons_self) (apiCall_failed hfailed)
    rw [List.foldl_cons, List.foldl_cons, hrefit (f h) (by rw [hkept]; rfl) (by rw [hkept]; rfl), ← haloof,
      ← hrefit h rfl rfl]
    exact ih (fun other hother => hforeign other (List.mem_cons_of_mem c hother)) hfailed

/-- Something happens. -/
theorem aloof_record (items : List TraceItem) : Aloof (record items) := fun _ _ _ => rfl

/-- A counter changes. -/
theorem aloof_count (outgoing : Bool) (change : ℤ) : Aloof (count outgoing change) := by
  intro connected shutdownEvent h
  cases outgoing <;> rfl

/-- A connection is kept for another attempt. -/
theorem aloof_retryConnecting (ptr : ConnectionObject) : Aloof (retryConnecting ptr) := by
  intro connected shutdownEvent h
  unfold retryConnecting getNextConnectionIndex check
  by_cases hpos : 0 ≤ h.connectionIndex <;> by_cases hmax : h.connectionIndex = 9223372036854775807 <;>
    simp [refit, record, fail, hpos, hmax]

/-- The other connections are called as if the removed one had never been called. -/
theorem apiCall_without {c : ApiCall} (hforeign : c.Foreign) (hfailed : (h.apiCall c).failed = h.failed)
    (k : ConnID) :
    Same ((h.apiCall c).without k) ((h.without k).apiCall c) := by
  have hconnection (id : ConnID) (c : ConnCall) (hfailed : (h.connectionCall id c).failed = h.failed) :
      Same ((h.connectionCall id c).without k) ((h.without k).connectionCall id c) := by
    have hfound : (h.without k).connected[id]? = if k = id then none else h.connected[id]? :=
      OrderedMap.getElem?_erase k id
    rcases connectionCall_cases hfailed with hid | hnone | ⟨obj, base, hid, hobj, hcall⟩
    · rw [connectionCall, connectionCall, if_neg hid, if_neg hid]
      exact .refl _
    · rw [connectionCall_of_none hnone, connectionCall_of_none (by rw [hfound, hnone, ite_self])]
      exact .refl _
    · rw [connectionCall_of_some hid hobj hcall]
      by_cases hsame : k = id
      · -- The call was one of the removed connection.
        rw [connectionCall_of_none (by rw [hfound, if_pos hsame])]
        refine Same.setConnected (.refl h) fun k' => ?_
        change _ = ((h.connected.insert id { obj with base }).erase k)[k']?
        by_cases hk : k = k'
        · simp [hk]
        · simp [hk, show id ≠ k' from hsame ▸ hk]
      · rw [connectionCall_of_some hid (by rw [hfound, if_neg hsame, hobj]) hcall]
        refine Same.setConnected (.refl h) fun k' => ?_
        change ((h.connected.erase k).insert id { obj with base })[k']? =
          ((h.connected.insert id { obj with base }).erase k)[k']?
        by_cases hk : k = k'
        · simp [← hk, Ne.symm hsame]
        · simp [hk]
  cases c with
  | bind conn listens => exact absurd rfl (hforeign conn listens)
  | shutdown =>
    obtain ⟨active, hevent⟩ := shutdown_of_failed hfailed
    change Same (h.shutdown.without k) (h.without k).shutdown
    rw [CConnectionHandlerInt.shutdown, CConnectionHandlerInt.shutdown, hevent,
      show (h.without k).shutdownEvent = some active from hevent]
    exact .refl _
  | closeConnection id immediately => exact hconnection id _ hfailed
  | send id size => exact hconnection id _ hfailed
  | setRateLimit id => exact hconnection id _ hfailed
  | pauseRecv id => exact hconnection id _ hfailed
  | unpauseRecv id => exact hconnection id _ hfailed
  | resetPingTimeout id seconds => exact hconnection id (.resetPingTimeout seconds) hfailed

/-- Call after call. -/
theorem apiCalls_without (hforeign : ∀ c ∈ calls, c.Foreign) (hfailed : (calls.foldl apiCall h).failed = [])
    (k : ConnID) : Same ((calls.foldl apiCall h).without k) (calls.foldl apiCall (h.without k)) := by
  induction calls generalizing h with
  | nil => exact .refl _
  | cons c calls ih =>
    have hcall := apiCall_without (hforeign c List.mem_cons_self) (apiCall_failed hfailed) k
    exact (ih (fun other hother => hforeign other (List.mem_cons_of_mem c hother)) hfailed).trans
      (hcall.apiCalls calls)

/-- What is tried again does not depend on what has been left of the connection. -/
theorem Same.retried {h' : CConnectionHandlerInt} (same : Same h h') {ptr ptr' : ConnectionObject}
    (hretry : ∀ newId, ptr'.retry newId = ptr.retry newId) :
    Same (h.retryConnecting ptr) (h'.retryConnecting ptr') := by
  refine (same.retryConnecting ptr).trans ?_
  unfold CConnectionHandlerInt.retryConnecting
  generalize h'.getNextConnectionIndex = next
  refine (Same.refl next.2).setConnecting fun k => ?_
  simp only [OrderedMap.getElem?_modify, OrderedMap.getElem?_insertIfNew, if_true]
  split
  · cases next.2.connecting[next.1]? with
    | none => exact congrArg some (hretry next.1)
    | some old => rfl
  · rfl

end CConnectionHandlerInt

end LibBtcNet
