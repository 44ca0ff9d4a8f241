import LibBtcNet.LinkedResponses

/-!
# The memory of responses

A connection holds the list of its response from the first cell on, and its iterator is at a cell of
it or past the last. Each method on memory does what the one without memory does to such a
connection, or fails the same assertion, and leaves the connection with its list, with a new one or
with none.
-/

namespace LibBtcNet

open LinkedLists

namespace OnHeap

/-- A connection holds a response in memory, of which it has walked a part. -/
inductive Represents (m : Heap Bytes) : CDNSConnection → LibBtcNet.CDNSConnection → List (Ptr × Bytes) → Prop where
  | intro {retries : ℤ} {request : Bool} {bareBev : Option BufferEvent} {done left : List (Ptr × Bytes)}
      (linked : LaidOut m (done ++ left)) (walked : left = [] → done = []) :
    Represents m ⟨retries, ⟨first (done ++ left)⟩, ⟨first left⟩, request, bareBev⟩
      ⟨retries, (done ++ left).map Prod.snd, left.map Prod.snd, request, bareBev⟩ (done ++ left)

/-- A method on memory does what the method without memory does, and exchanges the cells that the object holds. -/
inductive Simulates {α β ρ : Type} (Rep : Heap Bytes → α → β → List (Ptr × Bytes) → Prop) (m : Heap Bytes)
    (held : List (Ptr × Bytes)) : Except Fault (MethodResult α ρ × Heap Bytes) →
      Option (MethodResult β ρ) → Prop where
  | fails : Simulates Rep m held (.error .assertion) none
  | returns {m' : Heap Bytes} {obj : α} {obj' : β} {net : List NetAction} {report : ρ} {kept : List (Ptr × Bytes)}
      (rep : Rep m' obj obj' kept) (exchange : Exchanged m m' (addresses held) (addresses kept)) :
    Simulates Rep m held (.ok (⟨obj, net, report⟩, m')) (some ⟨obj', net, report⟩)

/-- What was exchanged before counts as well. -/
theorem Simulates.after {α β ρ : Type} {Rep : Heap Bytes → α → β → List (Ptr × Bytes) → Prop} {m m' : Heap Bytes}
    {held held' : List (Ptr × Bytes)} {run : Except Fault (MethodResult α ρ × Heap Bytes)}
    {plain : Option (MethodResult β ρ)} (simulates : Simulates Rep m' held' run plain)
    (exchange : Exchanged m m' (addresses held) (addresses held')) : Simulates Rep m held run plain := by
  cases simulates with
  | fails => exact .fails
  | returns rep later => exact .returns rep (exchange.trans later)

/-- What a method asks of the network besides. -/
theorem Simulates.asks {α β ρ : Type} {Rep : Heap Bytes → α → β → List (Ptr × Bytes) → Prop} {m : Heap Bytes}
    {held : List (Ptr × Bytes)} {run : Except Fault (MethodResult α ρ × Heap Bytes)}
    {plain : Option (MethodResult β ρ)} (simulates : Simulates Rep m held run plain) (query : NetAction) :
    Simulates Rep m held (run.bind fun r => .ok ({ r.1 with net := query :: r.1.net }, r.2))
      (plain.map fun r => { r with net := query :: r.net }) := by
  cases simulates with
  | fails => exact .fails
  | returns rep exchange => exact .returns rep exchange

section Responses

variable {m : Heap Bytes} {cells : List (Ptr × Bytes)}

/-- A response that is laid out is released. -/
theorem clear_of_laidOut (linked : LaidOut m cells) :
    ∃ m', CDNSResponse.clear ⟨first cells⟩ m = .ok (⟨none⟩, m') ∧ Exchanged m m' (addresses cells) [] := by
  cases cells with
  | nil => exact ⟨m, rfl, .refl fun _ hp => absurd hp List.not_mem_nil⟩
  | cons cell cells =>
    obtain ⟨m', hrelease, hreleased⟩ := release_of_laidOut linked linked.length_le_size
    have hfree : freeaddrinfo (first (cell :: cells)) m = .ok ((), m') := by rw [freeaddrinfo, hrelease]
    refine ⟨m', ?_, .of_release hreleased⟩
    simp only [CDNSResponse.clear, bind_apply, first_cons, Option.isSome_some, if_true, pure_apply] at hfree ⊢
    rw [hfree, ok_bind]

/-- It is walked to its end. -/
theorem loop_of_laidOut (linked : LaidOut m cells) :
    CDNSResponse.loop ⟨first cells⟩ m = .ok (cells.map Prod.snd, m) := by
  rw [CDNSResponse.loop, CDNSResponse.begin, walk_of_laidOut linked linked.length_le_size]

/-- What an iterator points at. -/
theorem addr_of_laidOut {cell : Ptr × Bytes} (linked : LaidOut m (cell :: cells)) :
    Iterator.addr ⟨some cell.1⟩ m = .ok (cell.2, m) := by
  simp only [Iterator.addr, bind_apply, given_some, ok_bind, load_of_found m linked.1, pure_apply]

/-- Where it goes next. -/
theorem advance_of_laidOut {cell : Ptr × Bytes} (linked : LaidOut m (cell :: cells)) :
    Iterator.advance ⟨some cell.1⟩ m = .ok (⟨first cells⟩, m) := by
  simp only [Iterator.advance, bind_apply, given_some, ok_bind, load_of_found m linked.1, pure_apply]

end Responses

namespace CDNSConnection

variable {m : Heap Bytes} {c : CDNSConnection} {c' : LibBtcNet.CDNSConnection} {held : List (Ptr × Bytes)}
  (conn : CConnection)

/-- A connection that holds nothing, or that has walked a part of what it holds. -/
theorem represents_cases (rep : Represents m c c' held) :
    (held = [] ∧ c = ⟨c'.retries, ⟨none⟩, ⟨none⟩, c'.request, c'.bareBev⟩ ∧ c'.resolved = [] ∧ c'.iter = []) ∨
      ∃ done cell rest, held = done ++ cell :: rest ∧ LaidOut m (done ++ cell :: rest) ∧
        c = ⟨c'.retries, ⟨first (done ++ cell :: rest)⟩, ⟨some cell.1⟩, c'.request, c'.bareBev⟩ ∧
          c'.resolved = (done ++ cell :: rest).map Prod.snd ∧ c'.iter = cell.2 :: rest.map Prod.snd := by
  cases rep with
  | @intro retries request bareBev done left linked walked =>
    cases left with
    | nil =>
      obtain rfl := walked rfl
      exact Or.inl ⟨rfl, rfl, rfl, rfl⟩
    | cons cell rest => exact Or.inr ⟨done, cell, rest, rfl, linked, rfl, rfl, rfl⟩

/-- A connection without a response. -/
theorem represents_empty (m : Heap Bytes) (retries : ℤ) (request : Bool) (bareBev : Option BufferEvent) :
    Represents m ⟨retries, ⟨none⟩, ⟨none⟩, request, bareBev⟩ ⟨retries, [], [], request, bareBev⟩ [] :=
  @Represents.intro m retries request bareBev [] [] trivial fun _ => rfl

/-- A connection that has walked a part of its response, but not all of it. -/
theorem represents_walking {done rest : List (Ptr × Bytes)} {cell : Ptr × Bytes}
    (linked : LaidOut m (done ++ cell :: rest)) (retries : ℤ) (request : Bool) (bareBev : Option BufferEvent) :
    Represents m ⟨retries, ⟨first (done ++ cell :: rest)⟩, ⟨some cell.1⟩, request, bareBev⟩
      ⟨retries, (done ++ cell :: rest).map Prod.snd, cell.2 :: rest.map Prod.snd, request, bareBev⟩
        (done ++ cell :: rest) :=
  @Represents.intro m retries request bareBev done (cell :: rest) linked fun hleft =>
    absurd hleft (List.cons_ne_nil _ _)

/-- `OnResolveFailure`. -/
theorem onResolveFailure_simulates (rep : Represents m c c' held) :
    Simulates Represents m held (c.onResolveFailure conn m) (c'.onResolveFailure conn) := by
  obtain ⟨retries, resolved, iter, request, bareBev⟩ := c'
  obtain ⟨rfl, rfl, rfl, rfl⟩ | ⟨done, cell, rest, rfl, linked, rfl, rfl, rfl⟩ := represents_cases rep
  · exact .returns (represents_empty m _ _ _) (.refl fun _ hp => absurd hp List.not_mem_nil)
  · obtain ⟨p, hp⟩ := first_append_cons done cell rest
    have hrun : onResolveFailure conn ⟨retries, ⟨first (done ++ cell :: rest)⟩, ⟨some cell.1⟩, request, bareBev⟩ m =
        .error .assertion := by
      rw [hp]
      rfl
    have hplain : LibBtcNet.CDNSConnection.onResolveFailure conn
        ⟨retries, (done ++ cell :: rest).map Prod.snd, cell.2 :: rest.map Prod.snd, request, bareBev⟩ = none := by
      simp [LibBtcNet.CDNSConnection.onResolveFailure]
    rw [hrun, hplain]
    exact .fails

/-- `OnConnectFailure`: the list is released behind its last address. -/
theorem onConnectFailure_simulates (rep : Represents m c c' held) :
    Simulates Represents m held (c.onConnectFailure conn m) (c'.onConnectFailure conn) := by
  obtain ⟨retries, resolved, iter, request, bareBev⟩ := c'
  obtain ⟨rfl, rfl, rfl, rfl⟩ | ⟨done, cell, rest, rfl, linked, rfl, rfl, rfl⟩ := represents_cases rep
  · cases request <;> exact .fails
  · cases request with
    | true => exact .fails
    | false =>
      obtain ⟨p, hp⟩ := first_append_cons done cell rest
      have hiter : LaidOut m (cell :: rest) := linked.suffix
      cases rest with
      | nil =>
        obtain ⟨m', hclear, exchange⟩ := clear_of_laidOut linked
        have hrun : onConnectFailure conn ⟨retries, ⟨first (done ++ [cell])⟩, ⟨some cell.1⟩, false, bareBev⟩ m =
            .ok (⟨⟨retries, ⟨none⟩, ⟨none⟩, false, bareBev⟩, [],
              .connectionFailure .connect (LibBtcNet.CDNSConnection.resolvedConnection conn cell.2)
                (decide (retries ≠ 0))⟩, m') := by
          rw [hp] at hclear ⊢
          simp [onConnectFailure, Iterator.ne, addr_of_laidOut hiter, advance_of_laidOut hiter, hclear]
        have hplain : LibBtcNet.CDNSConnection.onConnectFailure conn
            ⟨retries, (done ++ [cell]).map Prod.snd, cell.2 :: ([] : List (Ptr × Bytes)).map Prod.snd,
              false, bareBev⟩ =
              some ⟨⟨retries, [], [], false, bareBev⟩, [],
                .connectionFailure .connect (LibBtcNet.CDNSConnection.resolvedConnection conn cell.2)
                  (decide (retries ≠ 0))⟩ := by
          simp [LibBtcNet.CDNSConnection.onConnectFailure]
        rw [hrun, hplain]
        exact .returns (represents_empty m' _ _ _) exchange
      | cons next rest =>
        have hrun : onConnectFailure conn
            ⟨retries, ⟨first (done ++ cell :: next :: rest)⟩, ⟨some cell.1⟩, false, bareBev⟩ m =
              .ok (⟨⟨retries, ⟨first (done ++ cell :: next :: rest)⟩, ⟨some next.1⟩, false, bareBev⟩, [],
                .connectionFailure .connect (LibBtcNet.CDNSConnection.resolvedConnection conn cell.2) true⟩, m) := by
          rw [hp]
          simp [onConnectFailure, Iterator.ne, addr_of_laidOut hiter, advance_of_laidOut hiter]
        have hplain : LibBtcNet.CDNSConnection.onConnectFailure conn ⟨retries,
            (done ++ cell :: next :: rest).map Prod.snd, cell.2 :: (next :: rest).map Prod.snd, false, bareBev⟩ =
              some ⟨⟨retries, (done ++ cell :: next :: rest).map Prod.snd, next.2 :: rest.map Prod.snd, false,
                bareBev⟩, [],
                .connectionFailure .connect (LibBtcNet.CDNSConnection.resolvedConnection conn cell.2) true⟩ := by
          simp [LibBtcNet.CDNSConnection.onConnectFailure]
        rw [hrun, hplain]
        rw [List.append_cons] at linked ⊢
        exact .returns (represents_walking linked _ _ _) (.refl fun _ hp => linked.isSome hp)

/-- `ConnectResolved`. -/
theorem connectResolved_simulates (rep : Represents m c c' held) :
    Simulates Represents m held (c.connectResolved conn m) (c'.connectResolved conn) := by
  have hfailure := onConnectFailure_simulates conn rep
  obtain ⟨retries, resolved, iter, request, bareBev⟩ := c'
  obtain ⟨rfl, rfl, rfl, rfl⟩ | ⟨done, cell, rest, rfl, linked, rfl, rfl, rfl⟩ := represents_cases rep
  · exact .fails
  · obtain ⟨p, hp⟩ := first_append_cons done cell rest
    have hiter : LaidOut m (cell :: rest) := linked.suffix
    cases hcan : CConnection.canConnectDirectAddr cell.2 conn.opts.nFamily with
    | true =>
      cases hbev : bareConnect bareBev cell.2 conn.opts.nConnTimeout with
      | none =>
        have hrun :
          connectResolved conn ⟨retries, ⟨first (done ++ cell :: rest)⟩, ⟨some cell.1⟩, request, bareBev⟩ m =
            .error .assertion := by
          rw [hp]
          simp [connectResolved, Iterator.ne, addr_of_laidOut hiter, hcan, hbev]
        have hplain : LibBtcNet.CDNSConnection.connectResolved conn
            ⟨retries, (done ++ cell :: rest).map Prod.snd, cell.2 :: rest.map Prod.snd, request, bareBev⟩ = none := by
          simp [LibBtcNet.CDNSConnection.connectResolved, hcan, hbev]
        rw [hrun, hplain]
        exact .fails
      | some bev =>
        have hrun :
          connectResolved conn ⟨retries, ⟨first (done ++ cell :: rest)⟩, ⟨some cell.1⟩, request, bareBev⟩ m =
            .ok (⟨⟨retries, ⟨first (done ++ cell :: rest)⟩, ⟨some cell.1⟩, request, some bev⟩,
              [.socketConnect cell.2], .waiting⟩, m) := by
          rw [hp]
          simp [connectResolved, Iterator.ne, addr_of_laidOut hiter, hcan, hbev]
        have hplain : LibBtcNet.CDNSConnection.connectResolved conn
            ⟨retries, (done ++ cell :: rest).map Prod.snd, cell.2 :: rest.map Prod.snd, request, bareBev⟩ =
              some ⟨⟨retries, (done ++ cell :: rest).map Prod.snd, cell.2 :: rest.map Prod.snd, request, some bev⟩,
                [.socketConnect cell.2], .waiting⟩ := by
          simp [LibBtcNet.CDNSConnection.connectResolved, hcan, hbev]
        rw [hrun, hplain]
        exact .returns (represents_walking linked _ _ _) (.refl fun _ hp => linked.isSome hp)
    | false =>
      have hrun : connectResolved conn ⟨retries, ⟨first (done ++ cell :: rest)⟩, ⟨some cell.1⟩, request, bareBev⟩ m =
          onConnectFailure conn ⟨retries, ⟨first (done ++ cell :: rest)⟩, ⟨some cell.1⟩, request, bareBev⟩ m := by
        rw [hp]
        simp [connectResolved, Iterator.ne, addr_of_laidOut hiter, hcan]
      have hplain : LibBtcNet.CDNSConnection.connectResolved conn
          ⟨retries, (done ++ cell :: rest).map Prod.snd, cell.2 :: rest.map Prod.snd, request, bareBev⟩ =
            LibBtcNet.CDNSConnection.onConnectFailure conn
              ⟨retries, (done ++ cell :: rest).map Prod.snd, cell.2 :: rest.map Prod.snd, request, bareBev⟩ := by
        simp [LibBtcNet.CDNSConnection.connectResolved, hcan]
      rw [hrun, hplain]
      exact hfailure

/-- What `dns_callback` calls: the list that was allocated is moved into the connection, and the temporary releases
nothing. -/
theorem onResolved_simulates (rep : Represents m c c' held) {result : DnsResult}
    (available : Available m result.cells) :
    Simulates Represents m held (c.onResolved conn result m) (c'.onResolved conn result.forget) := by
  cases result with
  | failure => exact onResolveFailure_simulates conn rep
  | addresses head rest =>
    obtain ⟨retries, resolved, iter, request, bareBev⟩ := c'
    obtain ⟨rfl, rfl, rfl, rfl⟩ | ⟨done, cell, left, rfl, linked, rfl, rfl, rfl⟩ := represents_cases rep
    · obtain ⟨linked, -⟩ := getElem?_allocate (m := m) available.1
      have received : Represents (allocate m (head :: rest)) ⟨retries, ⟨some head.1⟩, ⟨some head.1⟩, false, bareBev⟩
          ⟨retries, head.2 :: rest.map Prod.snd, head.2 :: rest.map Prod.snd, false, bareBev⟩ (head :: rest) :=
        @represents_walking _ [] rest head linked _ _ _
      have hrun : onResolved conn (.addresses head rest) ⟨retries, ⟨none⟩, ⟨none⟩, request, bareBev⟩ m =
          connectResolved conn ⟨retries, ⟨some head.1⟩, ⟨some head.1⟩, false, bareBev⟩
            (allocate m (head :: rest)) := by
        simp [onResolved, OnHeap.dnsCallback, onResolveSuccess, receive, CDNSResponse.assign, CDNSResponse.clear,
          CDNSResponse.begin]
      rw [hrun]
      exact (connectResolved_simulates conn received).after (.of_allocate available)
    · obtain ⟨p, hp⟩ := first_append_cons done cell left
      have hrun : onResolved conn (.addresses head rest)
          ⟨retries, ⟨first (done ++ cell :: left)⟩, ⟨some cell.1⟩, request, bareBev⟩ m = .error .assertion := by
        rw [hp]
        simp [onResolved, OnHeap.dnsCallback, onResolveSuccess, receive]
      have hplain : LibBtcNet.CDNSConnection.onResolved conn (DnsResult.addresses head rest).forget
          ⟨retries, (done ++ cell :: left).map Prod.snd, cell.2 :: left.map Prod.snd, request, bareBev⟩ = none := by
        simp [LibBtcNet.CDNSConnection.onResolved, LibBtcNet.CDNSConnection.onResolveSuccess, DnsResult.forget]
      rw [hrun, hplain]
      exact .fails

/-- `DoResolve`. -/
theorem doResolve_simulates (names : NameInfo) (rep : Represents m c c' held) {lookup : Lookup}
    (available : Available m lookup.cells) :
    Simulates Represents m held (c.doResolve names conn lookup m) (c'.doResolve names conn lookup.forget) := by
  obtain ⟨retries, resolved, iter, request, bareBev⟩ := c'
  obtain ⟨rfl, rfl, rfl, rfl⟩ | ⟨done, cell, rest, rfl, linked, rfl, rfl, rfl⟩ := represents_cases rep
  · cases request with
    | true => exact .fails
    | false =>
      -- Without a query the request fails at once.
      have hrefused (hrun : doResolve names conn lookup ⟨retries, ⟨none⟩, ⟨none⟩, false, bareBev⟩ m =
            onResolveFailure conn ⟨retries, ⟨none⟩, ⟨none⟩, false, bareBev⟩ m)
          (hplain : LibBtcNet.CDNSConnection.doResolve names conn lookup.forget ⟨retries, [], [], false, bareBev⟩ =
            LibBtcNet.CDNSConnection.onResolveFailure conn ⟨retries, [], [], false, bareBev⟩) :
          Simulates Represents m [] (doResolve names conn lookup ⟨retries, ⟨none⟩, ⟨none⟩, false, bareBev⟩ m)
            (LibBtcNet.CDNSConnection.doResolve names conn lookup.forget ⟨retries, [], [], false, bareBev⟩) := by
        rw [hrun, hplain]
        exact onResolveFailure_simulates conn rep
      cases hfamily : setResolveFamily conn.opts.nFamily with
      | none =>
        exact hrefused (by simp [doResolve, hfamily]) (by simp [LibBtcNet.CDNSConnection.doResolve, hfamily])
      | some family =>
        cases hcan : conn.canResolve with
        | false =>
          exact hrefused (by simp [doResolve, hfamily, hcan])
            (by simp [LibBtcNet.CDNSConnection.doResolve, hfamily, hcan])
        | true =>
          generalize hquery : NetAction.getaddrinfo (conn.getHost names) (conn.getPort names) family = query
          cases lookup with
          | later =>
            have hrun : doResolve names conn .later ⟨retries, ⟨none⟩, ⟨none⟩, false, bareBev⟩ m =
                .ok (⟨⟨retries, ⟨none⟩, ⟨none⟩, true, bareBev⟩, [query], .waiting⟩, m) := by
              simp [doResolve, hfamily, hcan, hquery]
            have hplain : LibBtcNet.CDNSConnection.doResolve names conn Lookup.later.forget
                ⟨retries, [], [], false, bareBev⟩ = some ⟨⟨retries, [], [], true, bareBev⟩, [query], .waiting⟩ := by
              simp [LibBtcNet.CDNSConnection.doResolve, hfamily, hcan, hquery, Lookup.forget]
            rw [hrun, hplain]
            exact .returns (represents_empty m _ _ _) (.refl fun _ hp => absurd hp List.not_mem_nil)
          | atOnce result =>
            have hrun : doResolve names conn (.atOnce result) ⟨retries, ⟨none⟩, ⟨none⟩, false, bareBev⟩ m =
                (onResolved conn result ⟨retries, ⟨none⟩, ⟨none⟩, false, bareBev⟩ m).bind fun r =>
                  .ok ({ r.1 with net := query :: r.1.net }, r.2) := by
              simp [doResolve, hfamily, hcan, hquery]
            have hplain : LibBtcNet.CDNSConnection.doResolve names conn (Lookup.atOnce result).forget
                ⟨retries, [], [], false, bareBev⟩ =
                  (LibBtcNet.CDNSConnection.onResolved conn result.forget ⟨retries, [], [], false, bareBev⟩).map
                    fun r => { r with net := query :: r.net } := by
              simp [LibBtcNet.CDNSConnection.doResolve, hfamily, hcan, hquery, Lookup.forget]
            rw [hrun, hplain]
            exact (onResolved_simulates conn rep available).asks query
  · obtain ⟨p, hp⟩ := first_append_cons done cell rest
    have hrun : doResolve names conn lookup
        ⟨retries, ⟨first (done ++ cell :: rest)⟩, ⟨some cell.1⟩, request, bareBev⟩ m = .error .assertion := by
      rw [hp]
      cases request <;> rfl
    have hplain : LibBtcNet.CDNSConnection.doResolve names conn lookup.forget
        ⟨retries, (done ++ cell :: rest).map Prod.snd, cell.2 :: rest.map Prod.snd, request, bareBev⟩ = none := by
      simp [LibBtcNet.CDNSConnection.doResolve]
    rw [hrun, hplain]
    exact .fails

/-- `Connect`. -/
theorem connect_simulates (names : NameInfo) (rep : Represents m c c' held) {lookup : Lookup}
    (available : Available m lookup.cells) :
    Simulates Represents m held (c.connect names conn lookup m) (c'.connect names conn lookup.forget) := by
  have hresolve := doResolve_simulates conn names rep available
  have hconnect := connectResolved_simulates conn rep
  obtain ⟨retries, resolved, iter, request, bareBev⟩ := c'
  obtain ⟨rfl, rfl, rfl, rfl⟩ | ⟨done, cell, rest, rfl, linked, rfl, rfl, rfl⟩ := represents_cases rep
  · cases request with
    | true => exact .fails
    | false =>
      have hrun : connect names conn lookup ⟨retries, ⟨none⟩, ⟨none⟩, false, bareBev⟩ m =
          doResolve names conn lookup ⟨retries, ⟨none⟩, ⟨none⟩, false, bareBev⟩ m := by simp [connect]
      rw [hrun]
      exact hresolve
  · cases request with
    | true => exact .fails
    | false =>
      have hrun :
        connect names conn lookup ⟨retries, ⟨first (done ++ cell :: rest)⟩, ⟨some cell.1⟩, false, bareBev⟩ m =
          connectResolved conn ⟨retries, ⟨first (done ++ cell :: rest)⟩, ⟨some cell.1⟩, false, bareBev⟩ m := by
        simp [connect]
      rw [hrun]
      exact hconnect

/-- `OnConnectSuccess`: the list is released. -/
theorem onConnectSuccess_simulates (bev : BufferEvent) (rep : Represents m c c' held) :
    Simulates Represents m held (c.onConnectSuccess conn bev m) (c'.onConnectSuccess conn bev) := by
  obtain ⟨retries, resolved, iter, request, bareBev⟩ := c'
  obtain ⟨rfl, rfl, rfl, rfl⟩ | ⟨done, cell, rest, rfl, linked, rfl, rfl, rfl⟩ := represents_cases rep
  · exact .fails
  · obtain ⟨p, hp⟩ := first_append_cons done cell rest
    cases request with
    | true =>
      have hrun :
        onConnectSuccess conn bev ⟨retries, ⟨first (done ++ cell :: rest)⟩, ⟨some cell.1⟩, true, bareBev⟩ m =
          .error .assertion := by
        rw [hp]
        rfl
      rw [hrun]
      exact .fails
    | false =>
      have hiter : LaidOut m (cell :: rest) := linked.suffix
      obtain ⟨m', hclear, exchange⟩ := clear_of_laidOut linked
      have hrun :
        onConnectSuccess conn bev ⟨retries, ⟨first (done ++ cell :: rest)⟩, ⟨some cell.1⟩, false, bareBev⟩ m =
          .ok (⟨⟨conn.opts.nRetries, ⟨none⟩, ⟨none⟩, false, bareBev⟩, [],
            .outgoingConnected bev (LibBtcNet.CDNSConnection.resolvedConnection conn cell.2)⟩, m') := by
        rw [hp] at hclear ⊢
        simp [onConnectSuccess, Iterator.ne, addr_of_laidOut hiter, hclear]
        rfl
      have hplain : LibBtcNet.CDNSConnection.onConnectSuccess conn bev
          ⟨retries, (done ++ cell :: rest).map Prod.snd, cell.2 :: rest.map Prod.snd, false, bareBev⟩ =
            some ⟨⟨conn.opts.nRetries, [], [], false, bareBev⟩, [],
              .outgoingConnected bev (LibBtcNet.CDNSConnection.resolvedConnection conn cell.2)⟩ := by
        simp [LibBtcNet.CDNSConnection.onConnectSuccess]
      rw [hrun, hplain]
      exact .returns (represents_empty m' _ _ _) exchange

/-- The bufferevent that connects is none of the response. -/
theorem represents_setBareBev (rep : Represents m c c' held) (bareBev : Option BufferEvent) :
    Represents m { c with bareBev } { c' with bareBev } held := by
  cases rep with
  | intro linked walked => exact .intro linked walked

/-- Nothing happens to a connection. -/
theorem unchanged_simulates (rep : Represents m c c' held) :
    Simulates Represents m held (.ok (ConnResult.unchanged c, m)) (some (ConnResult.unchanged c')) := by
  refine .returns rep (.refl fun p hp => ?_)
  cases rep with
  | intro linked walked => exact linked.isSome hp

/-- `conn_event`. -/
theorem connEvent_simulates (event : BevEvents) (rep : Represents m c c' held) :
    Simulates Represents m held (c.connEvent conn event m) (c'.connEvent conn event) := by
  have hbev : c.bareBev = c'.bareBev := by cases rep; rfl
  unfold connEvent LibBtcNet.CDNSConnection.connEvent
  rw [hbev]
  cases c'.bareBev with
  | none => exact unchanged_simulates rep
  | some bev =>
    cases hconnected : event.connected with
    | true =>
      simp only [if_true]
      exact onConnectSuccess_simulates conn bev (represents_setBareBev rep none)
    | false =>
      simp only [Bool.false_eq_true, if_false]
      exact onConnectFailure_simulates conn (represents_setBareBev rep none)

/-- `dns_callback`. -/
theorem dnsCallback_simulates (rep : Represents m c c' held) {result : DnsResult}
    (available : Available m result.cells) :
    Simulates Represents m held (c.dnsCallback conn result m) (c'.dnsCallback conn result.forget) := by
  have hrequest : c.request = c'.request := by cases rep; rfl
  unfold dnsCallback LibBtcNet.CDNSConnection.dnsCallback
  rw [hrequest]
  split
  · exact onResolved_simulates conn rep available
  · exact unchanged_simulates rep

/-- `Cancel`: the list is released. -/
theorem cancel_simulates (rep : Represents m c c' held) :
    Simulates Represents m held (c.cancel m)
      (some (⟨{ c' with request := false, resolved := [], iter := [] }, [], .waiting⟩ : ConnResult _)) := by
  cases rep with
  | @intro retries request bareBev done left linked walked =>
    obtain ⟨m', hclear, exchange⟩ := clear_of_laidOut linked
    have hrun : cancel ⟨retries, ⟨first (done ++ left)⟩, ⟨first left⟩, request, bareBev⟩ m =
        .ok (⟨⟨retries, ⟨none⟩, ⟨none⟩, false, bareBev⟩, [], .waiting⟩, m') := by
      simp [cancel, hclear, CDNSResponse.endIterator]
    rw [hrun]
    exact .returns (represents_empty m' _ _ _) exchange

end CDNSConnection

end OnHeap

end LibBtcNet
