import ZebraNetwork.Source.Net

/-!
# `PeerAddrState` and `MetaAddr`

Source: zebra-network/src/meta_addr.rs:36-184 (types), 253-539 (constructors, scheduler
predicates, `sanitize`), 774-877 (`Ord` and `PartialEq`). Calls that read a clock take its
reading as an argument. A panic is an `Except String` error carrying the `expect` message.
-/

namespace ZebraNetwork.Source

/-- Peer connection state, based on our interactions with the peer. -/
inductive PeerAddrState where
  | responded
  | neverAttemptedGossiped
  | neverAttemptedAlternate
  | failed
  | attemptPending
  deriving DecidableEq, Repr

/-- `PeerAddrState::is_never_attempted`. -/
def PeerAddrState.isNeverAttempted : PeerAddrState → Bool
  | .neverAttemptedGossiped | .neverAttemptedAlternate => true
  | .attemptPending | .responded | .failed => false

/-- The never-attempted states are the two `NeverAttempted` ones. -/
theorem PeerAddrState.isNeverAttempted_iff (state : PeerAddrState) :
    state.isNeverAttempted = true ↔
      state = .neverAttemptedGossiped ∨ state = .neverAttemptedAlternate := by
  cases state <;> simp [isNeverAttempted]

/-- `Ord for PeerAddrState`: approximate reconnection attempt order, ignoring liveness. -/
def PeerAddrState.cmp : PeerAddrState → PeerAddrState → Ordering
  | .responded, .responded | .failed, .failed
  | .neverAttemptedGossiped, .neverAttemptedGossiped
  | .neverAttemptedAlternate, .neverAttemptedAlternate
  | .attemptPending, .attemptPending => .eq
  | .responded, _ => .lt
  | _, .responded => .gt
  | .neverAttemptedGossiped, _ => .lt
  | _, .neverAttemptedGossiped => .gt
  | .neverAttemptedAlternate, _ => .lt
  | _, .neverAttemptedAlternate => .gt
  | .failed, _ => .lt
  | _, .failed => .gt

/-- An address with metadata on its advertised services and last-seen time. -/
structure MetaAddr where
  addr : SocketAddr
  services : PeerServices
  untrustedLastSeen : Option DateTime32
  lastResponse : Option DateTime32
  lastAttempt : Option Instant
  lastFailure : Option Instant
  lastConnectionState : PeerAddrState
  deriving DecidableEq

namespace MetaAddr

/-- `MetaAddr::new_gossiped_meta_addr`, from the fields of a gossiped `Addr` message. -/
def newGossipedMetaAddr (addr : SocketAddr) (untrustedServices : PeerServices)
    (untrustedLastSeen : DateTime32) : MetaAddr where
  addr := canonicalSocketAddr addr
  services := untrustedServices
  untrustedLastSeen := some untrustedLastSeen
  lastResponse := none
  lastAttempt := none
  lastFailure := none
  lastConnectionState := .neverAttemptedGossiped

/-- `MetaAddr::last_seen`: the last response, else the gossiped time. -/
def lastSeen (self : MetaAddr) : Option DateTime32 :=
  self.lastResponse.or self.untrustedLastSeen

/-- `MetaAddr::set_untrusted_last_seen`. -/
def setUntrustedLastSeen (self : MetaAddr) (untrustedLastSeen : DateTime32) : MetaAddr :=
  { self with untrustedLastSeen := some untrustedLastSeen }

/-- `MetaAddr::has_connection_recently_responded`; recent and future times are live. -/
def hasConnectionRecentlyResponded (self : MetaAddr) (now : DateTime32) : Bool :=
  match self.lastResponse with
  | some lastResponse => lastResponse.saturatingElapsed now ≤ minPeerReconnectionDelay32
  | none => false

/-- The shared body of the two `Instant` recency checks. -/
def instantIsRecent (time : Option Instant) (now : Instant) : Bool :=
  match time with
  | some time => time.elapsed now ≤ minPeerReconnectionDelay
  | none => false

/-- `MetaAddr::was_connection_recently_attempted`. -/
def wasConnectionRecentlyAttempted (self : MetaAddr) (now : Instant) : Bool :=
  instantIsRecent self.lastAttempt now

/-- `MetaAddr::has_connection_recently_failed`. -/
def hasConnectionRecentlyFailed (self : MetaAddr) (now : Instant) : Bool :=
  instantIsRecent self.lastFailure now

/-- `MetaAddr::is_active_for_gossip`: seen within `MAX_PEER_ACTIVE_FOR_GOSSIP`. -/
def isActiveForGossip (self : MetaAddr) (now : DateTime32) : Bool :=
  match self.lastSeen with
  | some lastSeen => lastSeen.saturatingElapsed now ≤ maxPeerActiveForGossip
  | none => false

/-- `MetaAddr::address_is_valid_for_outbound`. -/
def addressIsValidForOutbound (self : MetaAddr) : Bool :=
  !self.addr.ip.isUnspecified && self.addr.port.val != 0

/-- `MetaAddr::last_known_info_is_valid_for_outbound`. -/
def lastKnownInfoIsValidForOutbound (self : MetaAddr) : Bool :=
  self.services.contains .nodeNetwork && self.addressIsValidForOutbound

/-- `MetaAddr::is_ready_for_connection_attempt`, at the readings of `clock`. Each predicate it
calls reads the clock itself: the two `Instant::now()` readings of
`was_connection_recently_attempted` and `has_connection_recently_failed` are taken as one,
`clock.instant`, as if no time passed between them. -/
def isReadyForConnectionAttempt (self : MetaAddr) (clock : Clock) : Bool :=
  self.lastKnownInfoIsValidForOutbound &&
    !self.hasConnectionRecentlyResponded clock.now &&
    !self.wasConnectionRecentlyAttempted clock.instant &&
    !self.hasConnectionRecentlyFailed clock.instant

/-- `MetaAddr::sanitize`: the form sent to remote peers, `none` if it must not be sent. -/
def sanitize (self : MetaAddr) : Except String (Option MetaAddr) := do
  if !self.lastKnownInfoIsValidForOutbound then return none
  let some lastSeen := self.lastSeen | return none
  let remainder := lastSeen.timestamp % timestampTruncationSeconds
  let lastSeen ← expect (lastSeen.checkedSub ⟨remainder⟩)
    "unexpected underflow: rem_euclid is strictly less than timestamp"
  return some {
    addr := canonicalSocketAddr self.addr
    services := self.services
    untrustedLastSeen := some lastSeen
    lastResponse := none
    lastAttempt := none
    lastFailure := none
    lastConnectionState := .neverAttemptedGossiped }

/-- The `ip_tie_breaker` of `MetaAddr::cmp`: IPv4 first, then the octets. -/
def ipTieBreaker : IpAddr → IpAddr → Ordering
  | .v4 a, .v4 b => compareBytes a.toList b.toList
  | .v6 a, .v6 b => compareBytes a.toList b.toList
  | .v4 _, .v6 _ => .lt
  | .v6 _, .v4 _ => .gt

/-- `Ord for MetaAddr`: approximate reconnection attempt order, ties broken by the address. -/
def cmp (self other : MetaAddr) : Ordering :=
  let moreReliableState := self.lastConnectionState.cmp other.lastConnectionState
  let olderAttempt := compare self.lastAttempt other.lastAttempt
  let olderFailure := compare self.lastFailure other.lastFailure
  let olderResponse := compare self.lastResponse other.lastResponse
  let newerUntrustedLastSeen := (compare self.untrustedLastSeen other.untrustedLastSeen).swap
  let largerServices := compare self.services other.services
  let ipTieBreaker := MetaAddr.ipTieBreaker self.addr.ip other.addr.ip
  let portTieBreaker := compare self.addr.port other.addr.port
  moreReliableState |>.then olderAttempt |>.then olderFailure |>.then olderResponse
    |>.then newerUntrustedLastSeen |>.then largerServices |>.then ipTieBreaker
    |>.then portTieBreaker

theorem instantIsRecent_some (time now : Instant) :
    instantIsRecent (some time) now = true ↔
      now.nanos ≤ time.nanos + minPeerReconnectionDelay.nanos := by
  simp only [instantIsRecent, Instant.elapsed, decide_eq_true_eq, Duration.le_def]
  omega

theorem hasConnectionRecentlyResponded_some (self : MetaAddr) {lastResponse : DateTime32}
    (h : self.lastResponse = some lastResponse) (now : DateTime32) :
    self.hasConnectionRecentlyResponded now = true ↔
      now.timestamp.val ≤ lastResponse.timestamp.val + minPeerReconnectionDelay32.seconds.val := by
  simp only [hasConnectionRecentlyResponded, h, DateTime32.saturatingElapsed,
    DateTime32.saturatingDurationSince, decide_eq_true_eq, Duration32.le_def]
  omega

theorem isActiveForGossip_some (self : MetaAddr) {lastSeen : DateTime32}
    (h : self.lastSeen = some lastSeen) (now : DateTime32) :
    self.isActiveForGossip now = true ↔
      now.timestamp.val ≤ lastSeen.timestamp.val + maxPeerActiveForGossip.seconds.val := by
  simp only [isActiveForGossip, h, DateTime32.saturatingElapsed,
    DateTime32.saturatingDurationSince, decide_eq_true_eq, Duration32.le_def]
  omega

/-- `PartialEq for MetaAddr`: equal exactly when `cmp` says `Equal`. -/
def eq (self other : MetaAddr) : Bool := self.cmp other == .eq

end MetaAddr

end ZebraNetwork.Source
