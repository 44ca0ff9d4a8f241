import LibBtcNet.Handler
import LibBtcNet.HostNames
import LibBtcNet.ResponseMemory

/-!
# Runs of all that resolve

Connections and resolve-only requests that share one memory, in any order of their events. A run on
memory goes as the run without: the same queries and reports, and the same assertion if one fails.
Whatever the resolver allocates is held by one connection, which releases it once, and nothing is left
when all are gone.
-/

namespace LibBtcNet

open LinkedLists

/-- An object that resolves a name. -/
inductive Requester (δ : Type) where
  | connection (conn : CConnection) (c : δ)
  | resolveOnly (c : CResolveOnly)
deriving DecidableEq, Repr

/-- The report that ends a method of one. -/
inductive RequesterReport where
  | connection (report : ConnReport)
  | resolveOnly (report : ResolveReport)
deriving DecidableEq, Repr

/-- The result of a method of one. -/
abbrev RequesterResult (δ : Type) := MethodResult (Requester δ) RequesterReport

/-- What happens to one: `Connect` or `Resolve`, a callback, or `Cancel`. -/
inductive RequesterEvent where
  | connect (lookup : OnHeap.Lookup)
  | dnsCallback (result : OnHeap.DnsResult)
  | connEvent (event : BevEvents)
  | cancel
deriving DecidableEq, Repr

/-- The cells that the resolver allocates for it. -/
def RequesterEvent.cells : RequesterEvent → List (Ptr × Bytes)
  | .connect lookup => lookup.cells
  | .dnsCallback result => result.cells
  | .connEvent _ => []
  | .cancel => []

/-- The result of a connection. -/
def RequesterResult.ofConnection {δ : Type} (conn : CConnection) (r : ConnResult δ) : RequesterResult δ :=
  ⟨.connection conn r.obj, r.net, .connection r.report⟩

/-- The result of a resolve-only request. -/
def RequesterResult.ofResolveOnly {δ : Type} (r : MethodResult CResolveOnly ResolveReport) : RequesterResult δ :=
  ⟨.resolveOnly r.obj, r.net, .resolveOnly r.report⟩

/-- What an event does to an object. -/
def Requester.react (names : NameInfo) (e : RequesterEvent) :
    Requester CDNSConnection → Option (RequesterResult CDNSConnection)
  | .connection conn c => .map (RequesterResult.ofConnection conn) <|
    match e with
    | .connect lookup => c.connect names conn lookup.forget
    | .dnsCallback result => c.dnsCallback conn result.forget
    | .connEvent event => c.connEvent conn event
    | .cancel => some ⟨{ c with request := false, resolved := [], iter := [] }, [], .waiting⟩
  | .resolveOnly c => .map RequesterResult.ofResolveOnly <|
    match e with
    | .connect lookup => c.resolve names lookup.forget
    | .dnsCallback result => some (c.dnsCallback result.forget)
    | .connEvent _ => some ⟨c, [], .waiting⟩
    | .cancel => some ⟨c, [], .waiting⟩

namespace OnHeap

/-- What it does on memory. -/
def react (names : NameInfo) (e : RequesterEvent) :
    Requester CDNSConnection → MemoryMethod (RequesterResult CDNSConnection)
  | .connection conn c => RequesterResult.ofConnection conn <$>
    match e with
    | .connect lookup => c.connect names conn lookup
    | .dnsCallback result => c.dnsCallback conn result
    | .connEvent event => c.connEvent conn event
    | .cancel => c.cancel
  | .resolveOnly c => RequesterResult.ofResolveOnly <$>
    match e with
    | .connect lookup => CResolveOnly.resolve names lookup c
    | .dnsCallback result => CResolveOnly.dnsCallback result c
    | .connEvent _ => return ⟨c, [], .waiting⟩
    | .cancel => return ⟨c, [], .waiting⟩

/-- The destructor of a connection cancels, and destroys the response. -/
def destroy : Requester CDNSConnection → MemoryMethod Unit
  | .connection _ c => do
    let r ← c.cancel
    let _ ← r.obj.resolved.clear
    return ()
  | .resolveOnly _ => return ()

end OnHeap

/-- The objects on one of the two levels: what they are made of, and what their methods do. -/
structure Level (σ δ : Type) where
  memory : σ
  new : CConnection → δ
  react : RequesterEvent → Requester δ → StateT σ (Except Fault) (RequesterResult δ)
  destroy : Requester δ → StateT σ (Except Fault) Unit

/-- Without memory, where only assertions fail. -/
def plainLevel (names : NameInfo) : Level Unit CDNSConnection where
  memory := ()
  new := .new
  react := fun e obj _ =>
    match obj.react names e with
    | none => .error .assertion
    | some r => .ok (r, ())
  destroy := fun _ _ => .ok ((), ())

/-- With the lists in memory. -/
def linkedLevel (names : NameInfo) : Level (Heap Bytes) OnHeap.CDNSConnection where
  memory := ∅
  new := .new
  react := OnHeap.react names
  destroy := OnHeap.destroy

/-- All objects, what they have asked and reported, and the fault that has ended the run. -/
structure Requesters (σ δ : Type) where
  memory : σ
  objects : ConnMap (Requester δ)
  log : List (ConnID × List NetAction × RequesterReport)
  fault : Option Fault

/-- An object is made or destroyed, or something happens to one. -/
inductive RequesterInput where
  | start (k : ConnID) (conn : CConnection)
  | event (k : ConnID) (e : RequesterEvent)
  | destroy (k : ConnID)
deriving DecidableEq, Repr

/-- The cells that the resolver allocates for it. -/
def RequesterInput.cells : RequesterInput → List (Ptr × Bytes)
  | .event _ e => e.cells
  | _ => []

namespace Requesters

variable {σ δ : Type}

/-- Before anything is started. -/
def new (level : Level σ δ) : Requesters σ δ := ⟨level.memory, ∅, [], none⟩

/-- An object is made for a request. -/
def start (level : Level σ δ) (k : ConnID) (conn : CConnection) (s : Requesters σ δ) : Requesters σ δ :=
  let obj := if conn.isResolveOnly then .resolveOnly (.new conn k) else .connection conn (level.new conn)
  { s with objects := s.objects.insertIfNew k obj }

/-- Something happens to an object. -/
def event (level : Level σ δ) (k : ConnID) (e : RequesterEvent) (s : Requesters σ δ) : Requesters σ δ :=
  match s.objects[k]? with
  | none => s
  | some obj =>
    match level.react e obj s.memory with
    | .error fault => { s with fault := some fault }
    | .ok (r, memory) =>
      { s with memory, objects := s.objects.insert k r.obj, log := s.log ++ [(k, r.net, r.report)] }

/-- An object is destroyed. -/
def destroy (level : Level σ δ) (k : ConnID) (s : Requesters σ δ) : Requesters σ δ :=
  match s.objects[k]? with
  | none => s
  | some obj =>
    match level.destroy obj s.memory with
    | .error fault => { s with fault := some fault }
    | .ok (_, memory) => { s with memory, objects := s.objects.erase k }

/-- One step; a run that has ended takes none. -/
def step (level : Level σ δ) (s : Requesters σ δ) (input : RequesterInput) : Requesters σ δ :=
  if s.fault.isSome then s
  else
    match input with
    | .start k conn => s.start level k conn
    | .event k e => s.event level k e
    | .destroy k => s.destroy level k

/-- A run. -/
def run (level : Level σ δ) (inputs : List RequesterInput) : Requesters σ δ := inputs.foldl (step level) (new level)

/-- The allocator hands out what is not allocated. -/
def Allocates (level : Level (Heap Bytes) δ) (s : Requesters (Heap Bytes) δ) : List RequesterInput → Prop
  | [] => True
  | input :: inputs => Available s.memory input.cells ∧ Allocates level (s.step level input) inputs

/-- This can be checked. -/
instance decidableAllocates (level : Level (Heap Bytes) δ) (s : Requesters (Heap Bytes) δ)
    (inputs : List RequesterInput) : Decidable (Allocates level s inputs) :=
  match inputs with
  | [] => inferInstanceAs (Decidable True)
  | input :: inputs =>
    have := decidableAllocates level (s.step level input) inputs
    inferInstanceAs (Decidable (Available s.memory input.cells ∧ Allocates level (s.step level input) inputs))

end Requesters

namespace OnHeap

/-- An object on memory is one without memory. -/
inductive Stands (m : Heap Bytes) : Requester CDNSConnection → Requester LibBtcNet.CDNSConnection →
    List (Ptr × Bytes) → Prop where
  | connection {conn : CConnection} {c : CDNSConnection} {c' : LibBtcNet.CDNSConnection} {held : List (Ptr × Bytes)}
      (rep : Represents m c c' held) : Stands m (.connection conn c) (.connection conn c') held
  | resolveOnly {c : CResolveOnly} : Stands m (.resolveOnly c) (.resolveOnly c) []

/-- What is filed under an id on either level. -/
inductive Filed (m : Heap Bytes) : Option (Requester CDNSConnection) → Option (Requester LibBtcNet.CDNSConnection) →
    List (Ptr × Bytes) → Prop where
  | none : Filed m none none []
  | some {obj : Requester CDNSConnection} {obj' : Requester LibBtcNet.CDNSConnection} {held : List (Ptr × Bytes)}
      (stands : Stands m obj obj' held) : Filed m (some obj) (some obj') held

variable {m m' : Heap Bytes} {held : List (Ptr × Bytes)}

/-- A response that is laid out elsewhere as well. -/
theorem Represents.frame {c : CDNSConnection} {c' : LibBtcNet.CDNSConnection} (rep : Represents m c c' held)
    (hsame : ∀ p ∈ addresses held, m'[p]? = m[p]?) : Represents m' c c' held := by
  cases rep with
  | intro linked walked => exact .intro (linked.frame hsame) walked

/-- An object whose cells stay. -/
theorem Filed.frame {obj : Option (Requester CDNSConnection)} {obj' : Option (Requester LibBtcNet.CDNSConnection)}
    (filed : Filed m obj obj' held) (hsame : ∀ p ∈ addresses held, m'[p]? = m[p]?) : Filed m' obj obj' held := by
  cases filed with
  | none => exact .none
  | some stands =>
    cases stands with
    | connection rep => exact .some (.connection (rep.frame hsame))
    | resolveOnly => exact .some .resolveOnly

/-- A result of a connection is one of an object. -/
theorem simulates_connection {conn : CConnection} {run : Except Fault (ConnResult CDNSConnection × Heap Bytes)}
    {plain : Option (ConnResult LibBtcNet.CDNSConnection)} (simulates : Simulates Represents m held run plain) :
    Simulates Stands m held (run.bind fun r => .ok (RequesterResult.ofConnection conn r.1, r.2))
      (plain.map (RequesterResult.ofConnection conn)) := by
  cases simulates with
  | fails => exact .fails
  | returns rep exchange => exact .returns (.connection rep) exchange

/-- A resolve-only request is the same on either level. -/
def SameRequest (_ : Heap Bytes) (c c' : CResolveOnly) (held : List (Ptr × Bytes)) : Prop := c = c' ∧ held = []

/-- So its result is one of an object. -/
theorem simulates_resolveOnly
    {run : Except Fault (MethodResult CResolveOnly ResolveReport × Heap Bytes)}
    {plain : Option (MethodResult CResolveOnly ResolveReport)} (simulates : Simulates SameRequest m held run plain) :
    Simulates Stands m held (run.bind fun r => .ok (RequesterResult.ofResolveOnly r.1, r.2))
      (plain.map RequesterResult.ofResolveOnly) := by
  cases simulates with
  | fails => exact .fails
  | returns rep exchange =>
    obtain ⟨rfl, rfl⟩ := rep
    exact .returns .resolveOnly exchange

namespace CResolveOnly

/-- A result that leaves the memory as it is. -/
theorem same_simulates (r : MethodResult CResolveOnly ResolveReport) :
    Simulates SameRequest m [] (.ok (r, m)) (some r) :=
  .returns ⟨rfl, rfl⟩ (.refl fun _ hp => absurd hp List.not_mem_nil)

/-- What `dns_callback` calls: the loop goes through the list that was allocated, and the temporary releases it. -/
theorem onResolved_simulates {result : DnsResult} (available : Available m result.cells) (c : CResolveOnly) :
    Simulates SameRequest m [] (onResolved result c m) (some (c.onResolved result.forget)) := by
  cases result with
  | failure => exact same_simulates _
  | addresses head rest =>
    have linked : LaidOut (allocate m (head :: rest)) (head :: rest) := (getElem?_allocate available.1).1
    have hloop := loop_of_laidOut linked
    obtain ⟨m', hclear, exchange⟩ := clear_of_laidOut linked
    rw [first_cons] at hloop hclear
    have hrun : onResolved (.addresses head rest) c m =
        .ok (c.onResolveSuccess head.2 (rest.map Prod.snd), m') := by
      simp [onResolved, OnHeap.dnsCallback, receive, onResolveSuccess, hloop, hclear,
        LibBtcNet.CResolveOnly.onResolveSuccess]
    rw [hrun]
    exact .returns ⟨rfl, rfl⟩ ((Exchanged.of_allocate available).trans exchange)

/-- `Resolve`. -/
theorem resolve_simulates (names : NameInfo) {lookup : Lookup} (available : Available m lookup.cells)
    (c : CResolveOnly) :
    Simulates SameRequest m [] (resolve names lookup c m) (c.resolve names lookup.forget) := by
  cases hrequest : c.request with
  | true =>
    have hrun : resolve names lookup c m = .error .assertion := by simp [resolve, hrequest]
    have hplain : c.resolve names lookup.forget = none := by simp [LibBtcNet.CResolveOnly.resolve, hrequest]
    rw [hrun, hplain]
    exact .fails
  | false =>
    cases hdns : c.conn.isDns with
    | false =>
      have hrun : resolve names lookup c m = .error .assertion := by simp [resolve, hrequest, hdns]
      have hplain : c.resolve names lookup.forget = none := by simp [LibBtcNet.CResolveOnly.resolve, hdns]
      rw [hrun, hplain]
      exact .fails
    | true =>
      -- Without a query the request fails at once.
      have hrefused (hrun : resolve names lookup c m = .ok (c.onResolveFailure, m))
          (hplain : c.resolve names lookup.forget = some c.onResolveFailure) :
          Simulates SameRequest m [] (resolve names lookup c m) (c.resolve names lookup.forget) := by
        rw [hrun, hplain]
        exact same_simulates _
      cases hfamily : setResolveFamily c.conn.opts.nFamily with
      | none =>
        exact hrefused (by simp [resolve, hrequest, hdns, hfamily])
          (by simp [LibBtcNet.CResolveOnly.resolve, hrequest, hdns, hfamily])
      | some family =>
        cases hcan : c.conn.canResolve with
        | false =>
          exact hrefused (by simp [resolve, hrequest, hdns, hfamily, hcan])
            (by simp [LibBtcNet.CResolveOnly.resolve, hrequest, hdns, hfamily, hcan])
        | true =>
          generalize hquery : NetAction.getaddrinfo (c.conn.getHost names) (c.conn.getPort names) family = query
          cases lookup with
          | later =>
            have hrun : resolve names .later c m = .ok (⟨{ c with request := true }, [query], .waiting⟩, m) := by
              simp [resolve, hrequest, hdns, hfamily, hcan, hquery]
            have hplain : c.resolve names Lookup.later.forget =
                some ⟨{ c with request := true }, [query], .waiting⟩ := by
              simp [LibBtcNet.CResolveOnly.resolve, hrequest, hdns, hfamily, hcan, hquery, Lookup.forget]
            rw [hrun, hplain]
            exact same_simulates _
          | atOnce result =>
            have hrun : resolve names (.atOnce result) c m = (onResolved result c m).bind fun r =>
                .ok ({ r.1 with net := query :: r.1.net }, r.2) := by
              simp [resolve, hrequest, hdns, hfamily, hcan, hquery]
            have hplain : c.resolve names (Lookup.atOnce result).forget =
                (some (c.onResolved result.forget)).map fun r => { r with net := query :: r.net } := by
              simp [LibBtcNet.CResolveOnly.resolve, hrequest, hdns, hfamily, hcan, hquery, Lookup.forget]
            rw [hrun, hplain]
            exact (onResolved_simulates available c).asks query

/-- `dns_callback`. -/
theorem dnsCallback_simulates {result : DnsResult} (available : Available m result.cells) (c : CResolveOnly) :
    Simulates SameRequest m [] (dnsCallback result c m) (some (c.dnsCallback result.forget)) := by
  unfold dnsCallback LibBtcNet.CResolveOnly.dnsCallback
  split
  · exact onResolved_simulates available c
  · exact same_simulates _

end CResolveOnly

/-- What happens to an object on memory happens to it without. -/
theorem react_simulates (names : NameInfo) {e : RequesterEvent} {obj : Requester CDNSConnection}
    {obj' : Requester LibBtcNet.CDNSConnection} (stands : Stands m obj obj' held) (available : Available m e.cells) :
    Simulates Stands m held (react names e obj m) (obj'.react names e) := by
  cases stands with
  | @connection conn c c' _ rep =>
    refine simulates_connection ?_
    cases e with
    | connect lookup => exact CDNSConnection.connect_simulates conn names rep available
    | dnsCallback result => exact CDNSConnection.dnsCallback_simulates conn rep available
    | connEvent event => exact CDNSConnection.connEvent_simulates conn event rep
    | cancel => exact CDNSConnection.cancel_simulates rep
  | @resolveOnly c =>
    refine simulates_resolveOnly ?_
    cases e with
    | connect lookup => exact CResolveOnly.resolve_simulates names available c
    | dnsCallback result => exact CResolveOnly.dnsCallback_simulates available c
    | connEvent event => exact CResolveOnly.same_simulates _
    | cancel => exact CResolveOnly.same_simulates _

/-- The destructor releases what the object holds. -/
theorem destroy_of_stands {obj : Requester CDNSConnection} {obj' : Requester LibBtcNet.CDNSConnection}
    (stands : Stands m obj obj' held) :
    ∃ m', destroy obj m = .ok ((), m') ∧ Exchanged m m' (addresses held) [] := by
  cases stands with
  | @connection conn c c' _ rep =>
    cases rep with
    | @intro retries request bareBev done left linked walked =>
      obtain ⟨m', hclear, exchange⟩ := clear_of_laidOut linked
      refine ⟨m', ?_, exchange⟩
      simp [destroy, CDNSConnection.cancel, hclear]
  | resolveOnly => exact ⟨m, rfl, .refl fun _ hp => absurd hp List.not_mem_nil⟩

end OnHeap

/-- The two levels agree: they have asked and reported the same, and unless the same assertion has ended both, every
list in memory is held by one object that is the same without it. -/
structure Requesters.Agree (linked : Requesters (Heap Bytes) OnHeap.CDNSConnection)
    (plain : Requesters Unit CDNSConnection) : Prop where
  log : linked.log = plain.log
  fault : linked.fault = plain.fault
  intact : linked.fault ≠ some .memory
  held : linked.fault = none → ∃ held : ConnID → List (Ptr × Bytes),
    Shared linked.memory (fun k => addresses (held k)) ∧
      ∀ k : ConnID, OnHeap.Filed linked.memory linked.objects[k]? plain.objects[k]? (held k)

namespace Requesters

variable {linked : Requesters (Heap Bytes) OnHeap.CDNSConnection} {plain : Requesters Unit CDNSConnection}

/-- One object changes, with what it holds. -/
theorem filed_update {m m' : Heap Bytes} {held : ConnID → List (Ptr × Bytes)} {k : ConnID}
    {kept : List (Ptr × Bytes)} {objects : ConnMap (Requester OnHeap.CDNSConnection)}
    {objects' : ConnMap (Requester CDNSConnection)} (shared : Shared m fun k => addresses (held k))
    (filed : ∀ k : ConnID, OnHeap.Filed m objects[k]? objects'[k]? (held k))
    (exchange : Exchanged m m' (addresses (held k)) (addresses kept))
    {changed : ConnMap (Requester OnHeap.CDNSConnection)} {changed' : ConnMap (Requester CDNSConnection)}
    (hother : ∀ a : ConnID, a ≠ k → changed[a]? = objects[a]? ∧ changed'[a]? = objects'[a]?)
    (hchanged : OnHeap.Filed m' changed[k]? changed'[k]? kept) :
    ∃ held : ConnID → List (Ptr × Bytes), Shared m' (fun k => addresses (held k)) ∧
      ∀ k : ConnID, OnHeap.Filed m' changed[k]? changed'[k]? (held k) := by
  refine ⟨Function.update held k kept, ?_, fun a => ?_⟩
  · have hupdate : (fun a => addresses (Function.update held k kept a)) =
        Function.update (fun a => addresses (held a)) k (addresses kept) := by
      funext a
      by_cases heq : a = k
      · subst heq
        simp
      · simp [Function.update_of_ne heq]
    rw [hupdate]
    exact shared.exchange exchange
  · by_cases heq : a = k
    · subst heq
      rwa [Function.update_self]
    · obtain ⟨hlinked, hplain⟩ := hother a heq
      rw [Function.update_of_ne heq, hlinked, hplain]
      exact (filed a).frame fun p hp => shared.frame exchange heq hp

/-- What is filed on both levels stands for the same. -/
theorem filed_cases {m : Heap Bytes} {obj : Option (Requester OnHeap.CDNSConnection)}
    {obj' : Option (Requester CDNSConnection)} {held : List (Ptr × Bytes)} (filed : OnHeap.Filed m obj obj' held) :
    (obj = none ∧ obj' = none ∧ held = []) ∨
      ∃ linked plain, obj = some linked ∧ obj' = some plain ∧ OnHeap.Stands m linked plain held := by
  cases filed with
  | none => exact Or.inl ⟨rfl, rfl, rfl⟩
  | some stands => exact Or.inr ⟨_, _, rfl, rfl, stands⟩

/-- An object is made on both levels; one under an id in use stays. -/
theorem Agree.start (names : NameInfo) (agree : Agree linked plain) (k : ConnID) (conn : CConnection) :
    Agree (linked.start (linkedLevel names) k conn) (plain.start (plainLevel names) k conn) := by
  refine ⟨agree.log, agree.fault, agree.intact, fun hfault => ?_⟩
  obtain ⟨held, shared, filed⟩ := agree.held hfault
  refine ⟨held, shared, fun a => ?_⟩
  simp only [Requesters.start, OrderedMap.getElem?_insertIfNew]
  by_cases heq : k = a
  · subst heq
    rw [if_pos rfl, if_pos rfl]
    obtain ⟨hobj, hobj', hheld⟩ | ⟨obj, obj', hobj, hobj', stands⟩ := filed_cases (filed k)
    · rw [hobj, hobj', hheld, Option.getD_none, Option.getD_none]
      refine .some ?_
      split
      · exact .resolveOnly
      · exact .connection (OnHeap.CDNSConnection.represents_empty _ _ _ _)
    · rw [hobj, hobj']
      exact .some stands
  · rw [if_neg heq, if_neg heq]
    exact filed a

/-- Something happens on both. -/
theorem Agree.event (names : NameInfo) (agree : Agree linked plain) (hfault : linked.fault = none) (k : ConnID)
    {e : RequesterEvent} (available : Available linked.memory e.cells) :
    Agree (linked.event (linkedLevel names) k e) (plain.event (plainLevel names) k e) := by
  obtain ⟨held, shared, filed⟩ := agree.held hfault
  unfold Requesters.event
  obtain ⟨hobj, hobj', -⟩ | ⟨obj, obj', hobj, hobj', stands⟩ := filed_cases (filed k)
  · rw [hobj, hobj']
    exact agree
  · rw [hobj, hobj']
    have simulates := OnHeap.react_simulates names stands available
    simp only [linkedLevel, plainLevel]
    generalize OnHeap.react names e obj linked.memory = run at simulates ⊢
    generalize obj'.react names e = result at simulates ⊢
    cases simulates with
    | fails => exact ⟨agree.log, rfl, by simp, fun hnone => by simp at hnone⟩
    | @returns m' obj₁ obj₁' net report kept rep exchange =>
      refine ⟨by simp [agree.log], agree.fault, agree.intact, fun _ => ?_⟩
      refine filed_update shared filed exchange (fun a hother => ?_) ?_
      · simp [Ne.symm hother]
      · simpa using .some rep

/-- An object is destroyed on both. -/
theorem Agree.destroy (names : NameInfo) (agree : Agree linked plain) (hfault : linked.fault = none) (k : ConnID) :
    Agree (linked.destroy (linkedLevel names) k) (plain.destroy (plainLevel names) k) := by
  obtain ⟨held, shared, filed⟩ := agree.held hfault
  unfold Requesters.destroy
  obtain ⟨hobj, hobj', -⟩ | ⟨obj, obj', hobj, hobj', stands⟩ := filed_cases (filed k)
  · rw [hobj, hobj']
    exact agree
  · rw [hobj, hobj']
    obtain ⟨m', hdestroy, exchange⟩ := OnHeap.destroy_of_stands stands
    simp only [linkedLevel, plainLevel, hdestroy]
    refine ⟨agree.log, agree.fault, agree.intact, fun _ => ?_⟩
    have exchange : Exchanged linked.memory m' (addresses (held k)) (addresses ([] : List (Ptr × Bytes))) := exchange
    refine filed_update shared filed exchange (fun a hother => ?_) ?_
    · simp [Ne.symm hother]
    · simpa using .none

/-- A step keeps the agreement. -/
theorem Agree.step (names : NameInfo) {input : RequesterInput} (agree : Agree linked plain)
    (available : Available linked.memory input.cells) :
    Agree (linked.step (linkedLevel names) input) (plain.step (plainLevel names) input) := by
  unfold Requesters.step
  rw [← agree.fault]
  split
  · exact agree
  · next hfault =>
    have hfault : linked.fault = none := by simpa using hfault
    cases input with
    | start k conn => exact agree.start names k conn
    | event k e => exact agree.event names hfault k available
    | destroy k => exact agree.destroy names hfault k

/-- Nothing is started on either level. -/
theorem Agree.new (names : NameInfo) : Agree (.new (linkedLevel names)) (.new (plainLevel names)) := by
  refine ⟨rfl, rfl, by simp [Requesters.new], fun _ => ⟨fun _ => [], .empty, fun k => ?_⟩⟩
  simpa [Requesters.new] using .none

/-- So a run keeps it. -/
theorem Agree.foldl (names : NameInfo) {inputs : List RequesterInput} (agree : Agree linked plain)
    (allocates : Allocates (linkedLevel names) linked inputs) :
    Agree (inputs.foldl (Requesters.step (linkedLevel names)) linked)
      (inputs.foldl (Requesters.step (plainLevel names)) plain) := by
  induction inputs generalizing linked plain with
  | nil => exact agree
  | cons input inputs ih =>
    obtain ⟨available, allocates⟩ := allocates
    exact ih (agree.step names available) allocates

/-- Memory that nobody holds is empty. -/
theorem Agree.isEmpty (agree : Agree linked plain) (hfault : linked.fault = none)
    (hnone : linked.objects.isEmpty = true) : linked.memory.isEmpty = true := by
  obtain ⟨held, shared, filed⟩ := agree.held hfault
  refine OrderedMap.isEmpty_iff.mpr fun p => ?_
  by_contra hp
  obtain ⟨k, hk⟩ := shared.accounted p hp
  have hfiled := filed k
  rw [OrderedMap.isEmpty_iff.mp hnone k] at hfiled
  obtain ⟨-, -, hheld⟩ | ⟨obj, obj', hobj, -⟩ := filed_cases hfiled
  · rw [hheld] at hk
    exact List.not_mem_nil hk
  · simp at hobj

end Requesters

/-- In every run of connections and resolve-only requests that share the memory of their responses, whatever free
memory the resolver's lists are put into: no cell is used or released that is not allocated, the run asks and reports
what the run without memory does, and unless the same assertion has failed in both, every cell is held by the response
of exactly one connection. Without a connection the memory is empty. -/
theorem run_responses (names : NameInfo) (inputs : List RequesterInput)
    (hallocates : Requesters.Allocates (linkedLevel names) (.new (linkedLevel names)) inputs) :
    Requesters.Agree (.run (linkedLevel names) inputs) (.run (plainLevel names) inputs) ∧
      ((Requesters.run (linkedLevel names) inputs).fault = none →
        (Requesters.run (linkedLevel names) inputs).objects.isEmpty = true →
          (Requesters.run (linkedLevel names) inputs).memory.isEmpty = true) := by
  have agree := (Requesters.Agree.new names).foldl names hallocates
  exact ⟨agree, agree.isEmpty⟩

/-- A connection that fails at two addresses, another that is given their memory and is destroyed while it connects,
and a resolve-only request. -/
def twoResponses : List RequesterInput :=
  [.start 0 seedRequest, .event 0 (.connect .later),
    .event 0 (.dnsCallback (.addresses (5, [2, 0]) [(3, [2, 0, 1])])),
    .event 0 (.connEvent ⟨false, true, false, false⟩), .event 0 (.connect .later),
    .event 0 (.connEvent ⟨false, true, false, false⟩), .start 1 seedRequest,
    .event 1 (.connect (.atOnce (.addresses (3, [2, 0, 2]) [(5, [2, 0, 3])]))), .destroy 1,
    .start 2 seedLookup,
    .event 2 (.connect (.atOnce (.addresses (5, [2, 0, 2]) [(4, [2, 0, 3])]))), .destroy 2, .destroy 0]

/-- Nothing is left of it. -/
theorem run_responses_two :
    Requesters.Allocates (linkedLevel noNames) (.new (linkedLevel noNames)) twoResponses ∧
      (Requesters.run (linkedLevel noNames) twoResponses).log.length = 7 ∧
        Requesters.Agree (.run (linkedLevel noNames) twoResponses) (.run (plainLevel noNames) twoResponses) ∧
          (Requesters.run (linkedLevel noNames) twoResponses).memory.isEmpty = true := by
  have hallocates : Requesters.Allocates (linkedLevel noNames) (.new (linkedLevel noNames)) twoResponses := by
    decide +kernel
  obtain ⟨agree, hempty⟩ := run_responses noNames twoResponses hallocates
  exact ⟨hallocates, by decide +kernel, agree, hempty (by decide +kernel) (by decide +kernel)⟩

end LibBtcNet
