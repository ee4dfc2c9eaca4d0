import ZebraNetwork.Guarantees.Run
import ZebraNetwork.Guarantees.RoundTrip

/-!
# From the wire to an address book entry

The address book is fed by the `MetaAddr` constructors, which canonicalise every address
(`constructed_isCanonical`), and by `zcash_deserialize`, which builds gossiped entries:

* canonical entries — along a run of constructor-built changes every entry has a canonical
  address, so what `sanitize` sends is valid for outbound connections and a fixed point of
  `sanitize` (`applyRun_constructed_sanitize`);
* receiving gossip — an entry read from the wire converts to a `NewGossiped` change that creates
  exactly that entry (`zcashDeserialize_newGossipedChange`).
-/

namespace ZebraNetwork.Guarantees
open Source Spec

/-- A change built by one of the `MetaAddr` constructors: `new_gossiped_change` of an entry, or
`new_responded`, `new_reconnect`, `new_alternate`, `new_local_listener_change`, `new_errored` or
`new_shutdown` of any address. -/
inductive Constructed : MetaAddrChange → Prop
  | gossiped {entry : MetaAddr} {change : MetaAddrChange} :
      entry.newGossipedChange = .ok change → Constructed change
  | responded (addr : SocketAddr) (services : PeerServices) :
      Constructed (MetaAddr.newResponded addr services)
  | reconnect (addr : SocketAddr) : Constructed (MetaAddr.newReconnect addr)
  | alternate (addr : SocketAddr) (untrustedServices : PeerServices) :
      Constructed (MetaAddr.newAlternate addr untrustedServices)
  | localListener (addr : SocketAddr) : Constructed (MetaAddr.newLocalListenerChange addr)
  | errored (addr : SocketAddr) (services : Option PeerServices) :
      Constructed (MetaAddr.newErrored addr services)
  | shutdown (addr : SocketAddr) (services : Option PeerServices) :
      Constructed (MetaAddr.newShutdown addr services)

/-- `new_gossiped_change` panics exactly on an entry without a gossiped time. -/
theorem newGossipedChange_eq {entry : MetaAddr} {change : MetaAddrChange}
    (built : entry.newGossipedChange = .ok change) :
    ∃ lastSeen, entry.untrustedLastSeen = some lastSeen ∧
      change = .newGossiped (canonicalSocketAddr entry.addr) entry.services lastSeen := by
  cases seen : entry.untrustedLastSeen with
  | none => simp [MetaAddr.newGossipedChange, seen, expect] at built; cases built
  | some lastSeen =>
    simp only [MetaAddr.newGossipedChange, seen, expect, pure_bind] at built
    exact ⟨lastSeen, rfl, (Except.ok.inj built).symm⟩

/-- Every constructor canonicalises the address it is given. -/
theorem constructed_isCanonical {change : MetaAddrChange} (constructed : Constructed change) :
    change.addr.IsCanonical := by
  cases constructed with
  | gossiped built =>
    obtain ⟨_, -, rfl⟩ := newGossipedChange_eq built
    exact canonicalSocketAddr_isCanonical _
  | _ => exact canonicalSocketAddr_isCanonical _

theorem mapped_unspecified_not_isCanonical :
    ¬ (IpAddr.v6 (Octets.toIpv6Mapped ⟨[0, 0, 0, 0], rfl⟩)).IsCanonical :=
  fun canonical => canonical rfl

/-- Along a run of constructor-built changes for one address, every entry reached has a canonical
address, so `sanitize` sends nothing or a record for that same address that is valid for
outbound connections and sanitizes to itself: the unspecified `0.0.0.0` that `sanitize` sends for
a raw `[::ffff:0.0.0.0]` cannot arise this way. -/
theorem applyRun_constructed_sanitize (addr : SocketAddr) (changes : List TimedChange)
    (forAddr : ForAddr addr changes) (constructed : ∀ timed ∈ changes, Constructed timed.change)
    (entry : MetaAddr) (reached : applyRun none changes = .ok (some entry)) :
    entry.addr.IsCanonical ∧
      (entry.sanitize = .ok none ∨ ∃ sent, entry.sanitize = .ok (some sent) ∧
        sent.addr = entry.addr ∧ sent.lastKnownInfoIsValidForOutbound = true ∧
        sent.sanitize = .ok (some sent)) := by
  have hrun := run_of_applyRun forAddr reached
  have sameAddr := run_addr forAddr (by simp) entry hrun
  obtain ⟨first, member⟩ : ∃ first, first ∈ changes := by
    cases changes with
    | nil => cases hrun
    | cons first _ => exact ⟨first, List.mem_cons_self _ _⟩
  have canonical : entry.addr.IsCanonical := by
    rw [sameAddr, ← forAddr first member]
    exact constructed_isCanonical (constructed first member)
  refine ⟨canonical, ?_⟩
  cases sends : entry.sanitize with
  | error message => simp [sanitize_eq] at sends
  | ok result =>
    cases result with
    | none => exact .inl rfl
    | some sent =>
      obtain ⟨fixed, valid⟩ := sanitize_fixed_point_iff sends
      have validSent := valid.mpr fun mapped =>
        mapped_unspecified_not_isCanonical (mapped ▸ canonical.ip)
      obtain ⟨lastSeen, -, rfl⟩ := sanitize_some sends
      exact .inr ⟨_, rfl, canonicalSocketAddr_of_isCanonical canonical, validSent,
        fixed.mpr validSent⟩

/-- Gossip and an answer for a peer given by its IPv4-mapped address: the hypotheses hold. -/
theorem applyRun_constructed_sanitize_mapped :
    ∃ addr changes entry, ForAddr addr changes ∧
      (∀ timed ∈ changes, Constructed timed.change) ∧
      applyRun none changes = .ok (some entry) ∧
      entry.addr.IsCanonical ∧
        (entry.sanitize = .ok none ∨ ∃ sent, entry.sanitize = .ok (some sent) ∧
          sent.addr = entry.addr ∧ sent.lastKnownInfoIsValidForOutbound = true ∧
          sent.sanitize = .ok (some sent)) := by
  have constructed : ∀ timed ∈ [(⟨MetaAddr.newAlternate
        (.v6 ⟨[0, 0, 0, 0, 0, 0, 0, 0, 0, 0, 255, 255, 192, 0, 2, 1], rfl⟩ 8233 0 0) .nodeNetwork,
      ⟨⟨3600⟩, ⟨0⟩⟩⟩ : TimedChange), ⟨MetaAddr.newResponded
        (.v6 ⟨[0, 0, 0, 0, 0, 0, 0, 0, 0, 0, 255, 255, 192, 0, 2, 1], rfl⟩ 8233 0 0) .nodeNetwork,
      ⟨⟨3601⟩, ⟨1⟩⟩⟩], Constructed timed.change := by
    simp only [List.mem_cons, List.mem_singleton, List.not_mem_nil, or_false, forall_eq_or_imp,
      forall_eq]
    exact ⟨.alternate _ _, .responded _ _⟩
  exact ⟨(.v4 ⟨[192, 0, 2, 1], rfl⟩ 8233), _, _, by decide, constructed, by rfl,
    applyRun_constructed_sanitize (.v4 ⟨[192, 0, 2, 1], rfl⟩ 8233) _ (by decide) constructed _
      rfl⟩

/-- Every entry read from the wire is the gossiped entry of its fields. -/
theorem zcashDeserialize_gossiped {bytes rest : List U8} {entry : MetaAddr}
    (reads : MetaAddr.zcashDeserialize bytes = .ok (entry, rest)) :
    ∃ addr services lastSeen, entry = MetaAddr.newGossipedMetaAddr addr services lastSeen := by
  by_cases short : bytes.length < 30
  · rw [zcashDeserialize_of_lt short] at reads
    cases reads
  · obtain ⟨time, services, ip, port, -, -, -, -, decoded⟩ :=
      zcashDeserialize_of_le (Nat.le_of_not_lt short)
    rw [decoded] at reads
    exact ⟨_, _, _, (Prod.mk.inj (Except.ok.inj reads)).1.symm⟩

/-- Every entry read from the wire becomes, through `new_gossiped_change`, a `NewGossiped` change
for its own address without panicking, and in an address book without an entry for it that
change creates exactly the entry read, at any clock. -/
theorem zcashDeserialize_newGossipedChange {bytes rest : List U8} {entry : MetaAddr}
    (reads : MetaAddr.zcashDeserialize bytes = .ok (entry, rest)) :
    ∃ change, entry.newGossipedChange = .ok change ∧ change.addr = entry.addr ∧
      ∀ clock, change.applyToMetaAddr clock none = .ok (some entry) := by
  obtain ⟨addr, services, lastSeen, rfl⟩ := zcashDeserialize_gossiped reads
  refine ⟨.newGossiped (canonicalSocketAddr addr) services lastSeen, ?_, ?_, fun clock => ?_⟩
  · simp only [MetaAddr.newGossipedChange, MetaAddr.newGossipedMetaAddr, expect, pure_bind,
      canonicalSocketAddr_idem]
    rfl
  · rfl
  · rfl

/-- The 30 bytes of a gossiped `[::ffff:192.0.2.1]:8233`: the hypothesis holds. -/
theorem zcashDeserialize_newGossipedChange_mapped :
    ∃ (bytes rest : List U8) (entry : MetaAddr),
      MetaAddr.zcashDeserialize bytes = .ok (entry, rest) ∧
      ∃ change, entry.newGossipedChange = .ok change ∧ change.addr = entry.addr ∧
        ∀ clock, change.applyToMetaAddr clock none = .ok (some entry) :=
  ⟨[16, 14, 0, 0, 1, 0, 0, 0, 0, 0, 0, 0, 0, 0, 0, 0, 0, 0, 0, 0, 0, 0, 255, 255, 192, 0, 2, 1,
      32, 41], [], _, by rfl,
    @zcashDeserialize_newGossipedChange
      [16, 14, 0, 0, 1, 0, 0, 0, 0, 0, 0, 0, 0, 0, 0, 0, 0, 0, 0, 0, 0, 0, 255, 255, 192, 0, 2, 1,
        32, 41] [] _ rfl⟩

end ZebraNetwork.Guarantees
