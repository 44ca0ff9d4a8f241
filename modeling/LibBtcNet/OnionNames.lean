import LibBtcNet.NetworkPolicy
import LibBtcNet.SingleRequest
import LibBtcNet.PortSplitting

/-!
# Onion names and the resolver

Which host strings that end in `.onion` are kept from the resolver. The constructor marks a
host as an onion only where the suffix is in lower case and the name before it decodes as
base32; any other such name is left to DNS, and one request for it reaches the resolver.
-/

namespace LibBtcNet

open CConnectionHandlerInt

/-- No run asks the resolver for a connection. -/
def NeverResolved (conn : CConnection) : Prop :=
  ∀ (inputs : List HandlerInput) (host : Bytes) (port : UInt16) (family : ℕ),
    .net conn (.getaddrinfo host port family) ∉ (run inputs).trace

/-- A connection without a proxy is never resolved exactly when it may not be. -/
theorem neverResolved_iff_canResolve {conn : CConnection} (hproxy : conn.proxy.isSet = false) :
    NeverResolved conn ↔ conn.canResolve = false := by
  constructor
  · intro hnever
    by_contra hcan
    rw [Bool.not_eq_false] at hcan
    obtain ⟨family, hfamily⟩ := setResolveFamily_of_canResolve hcan
    refine hnever (singleRequest conn .later) (conn.getHost noNames) (conn.getPort noNames) family ?_
    change TraceItem.net conn (conn.query family) ∈ _
    cases honly : conn.isResolveOnly with
    | true =>
      rw [run_singleRequest_resolveOnly hcan hproxy honly hfamily]
      exact List.mem_append_right _ (List.mem_singleton_self _)
    | false =>
      have hresolves : conn.resolvesToConnect = true := by simp [CConnection.resolvesToConnect, honly, hproxy, hcan]
      rw [run_singleRequest_resolved hresolves hfamily]
      exact List.mem_append_right _ (List.mem_singleton_self _)
  · intro hcan inputs host port family hitem
    have hsupplies : ∀ input ∈ inputs, input.Supplies (fun conn => conn.isSet = true) (fun _ => True) :=
      fun input _ => ⟨fun _ _ _ hset => hset, fun _ _ => trivial⟩
    rcases run_items inputs hsupplies _ hitem with ⟨hset, -, hpermitted⟩ | ⟨needcount, answer, hask⟩
    · exact absurd ((CConnection.canResolve_iff conn).mpr ⟨hset, hpermitted⟩) (by simp [hcan])
    · contradiction

/-- The suffix `.onion` in any case, with something before it. -/
def EndsInOnion (host : Bytes) : Prop :=
  6 < host.length ∧ (host.drop (host.length - 6)).map toLower = onionSuffix

/-- Which is decidable. -/
instance (host : Bytes) : Decidable (EndsInOnion host) := inferInstanceAs (Decidable (_ ∧ _))

section Names

variable (parse : ParseSockAddr) (opts : CConnectionOptions) (netConfig : CNetworkConfig) {hostIn : Bytes}
  (portIn : UInt16)

/-- A name that ends in `.onion` is never resolved exactly when it is the numeric form of an address,
when the constructor marks it as an onion, or when the options allow no resolution. -/
theorem neverResolved_onion_iff (honion : EndsInOnion (hostPart hostIn)) :
    NeverResolved (.ofHost parse opts netConfig .unset hostIn portIn) ↔
      (parse (cstr hostIn)).isSome = true ∨ isOnionHost (hostPart hostIn) = true ∨ opts.doResolve = .noResolve ∨
        (Family.allows opts.nFamily Family.ipv4 = false ∧ Family.allows opts.nFamily Family.ipv6 = false) := by
  have hhost : hostIn ≠ [] := by
    rintro rfl
    exact absurd honion.1 (by decide)
  have hset : (CConnection.ofHost parse opts netConfig .unset hostIn portIn).isSet = true := by
    unfold CConnection.ofHost CConnectionBase.ofHost
    rw [if_neg hhost]
    cases parse (cstr hostIn) <;> rfl
  have hdns : (CConnection.ofHost parse opts netConfig .unset hostIn portIn).isDns = true ↔
      parse (cstr hostIn) = none ∧ isOnionHost (hostPart hostIn) = false := by
    unfold CConnection.ofHost CConnectionBase.ofHost
    rw [if_neg hhost]
    cases parse (cstr hostIn) with
    | some saddr => simp
    | none => simp [splitPort_eq]
  rw [neverResolved_iff_canResolve rfl, ← Bool.not_eq_true, CConnection.canResolve_iff, hdns]
  change ¬(_ ∧ _ ∧ opts.doResolve ≠ .noResolve ∧ (Family.allows opts.nFamily Family.ipv4 = true ∨
    Family.allows opts.nFamily Family.ipv6 = true)) ↔ _
  cases parse (cstr hostIn) <;> cases isOnionHost (hostPart hostIn) <;>
    cases Family.allows opts.nFamily Family.ipv4 <;> cases Family.allows opts.nFamily Family.ipv6 <;>
      simp [hset]

end Names

/-- The name `abcdefgh.onion`, eight characters of base32, is kept from the resolver. -/
theorem neverResolved_onion_kept :
    EndsInOnion (hostPart ([97, 98, 99, 100, 101, 102, 103, 104] ++ onionSuffix)) ∧
      NeverResolved (.ofHost (fun _ => none) resolveConnectOptions mainnetConfig .unset
        ([97, 98, 99, 100, 101, 102, 103, 104] ++ onionSuffix) 8333) :=
  ⟨by decide +kernel, (neverResolved_onion_iff _ _ _ 8333 (by decide +kernel)).mpr
    (Or.inr (Or.inl (by decide +kernel)))⟩

/-- The same name with `.ONION`, and `abc.onion`, which is no base32, reach the resolver. -/
theorem neverResolved_onion_failing :
    (EndsInOnion (hostPart [97, 98, 99, 100, 101, 102, 103, 104, 46, 79, 78, 73, 79, 78]) ∧
      ¬NeverResolved (.ofHost (fun _ => none) resolveConnectOptions mainnetConfig .unset
        [97, 98, 99, 100, 101, 102, 103, 104, 46, 79, 78, 73, 79, 78] 8333)) ∧
    EndsInOnion (hostPart ([97, 98, 99] ++ onionSuffix)) ∧
      ¬NeverResolved (.ofHost (fun _ => none) resolveConnectOptions mainnetConfig .unset
        ([97, 98, 99] ++ onionSuffix) 8333) := by
  refine ⟨⟨by decide +kernel, ?_⟩, by decide +kernel, ?_⟩
  · rw [neverResolved_iff_canResolve rfl]
    decide +kernel
  · rw [neverResolved_iff_canResolve rfl]
    decide +kernel

end LibBtcNet
