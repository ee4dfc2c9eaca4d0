import ZebraNetwork.Source.MetaAddr

/-!
# `MetaAddrChange` and `apply_to_meta_addr`

Source: zebra-network/src/meta_addr.rs:186-251 (the change type), 272-347 (the constructors on
`MetaAddr`), 552-771 (accessors, `into_new_meta_addr`, `apply_to_meta_addr`). The accessors that
call `DateTime32::now()` or `Instant::now()` take the reading from a `Clock`; one application
sees one `Clock`. The `assert_eq!` on the address and the `expect` on the services are panics.
-/

namespace ZebraNetwork.Source

/-- A change to an existing `MetaAddr`. -/
inductive MetaAddrChange where
  | newGossiped (addr : SocketAddr) (untrustedServices : PeerServices)
      (untrustedLastSeen : DateTime32)
  | newAlternate (addr : SocketAddr) (untrustedServices : PeerServices)
  | newLocal (addr : SocketAddr)
  | updateAttempt (addr : SocketAddr)
  | updateResponded (addr : SocketAddr) (services : PeerServices)
  | updateFailed (addr : SocketAddr) (services : Option PeerServices)
  deriving DecidableEq

namespace MetaAddrChange

/-- `MetaAddrChange::addr`. -/
def addr : MetaAddrChange → SocketAddr
  | newGossiped addr .. | newAlternate addr .. | newLocal addr | updateAttempt addr
  | updateResponded addr .. | updateFailed addr .. => addr

/-- `MetaAddrChange::untrusted_services`; a local listener offers `NODE_NETWORK`. -/
def untrustedServices : MetaAddrChange → Option PeerServices
  | newGossiped _ untrustedServices _ => some untrustedServices
  | newAlternate _ untrustedServices => some untrustedServices
  | newLocal _ => some .nodeNetwork
  | updateAttempt _ => none
  | updateResponded _ services => some services
  | updateFailed _ services => services

/-- `MetaAddrChange::untrusted_last_seen`; a local listener is seen `DateTime32::now()`. -/
def untrustedLastSeen (self : MetaAddrChange) (clock : Clock) : Option DateTime32 :=
  match self with
  | newGossiped _ _ untrustedLastSeen => some untrustedLastSeen
  | newAlternate .. => none
  | newLocal _ => some clock.now
  | updateAttempt _ | updateResponded .. | updateFailed .. => none

/-- `MetaAddrChange::last_attempt`: `Instant::now()` for an attempt. -/
def lastAttempt (self : MetaAddrChange) (clock : Clock) : Option Instant :=
  match self with
  | updateAttempt _ => some clock.instant
  | newGossiped .. | newAlternate .. | newLocal _ | updateResponded .. | updateFailed .. => none

/-- `MetaAddrChange::last_response`: `DateTime32::now()` for a response. -/
def lastResponse (self : MetaAddrChange) (clock : Clock) : Option DateTime32 :=
  match self with
  | updateResponded .. => some clock.now
  | newGossiped .. | newAlternate .. | newLocal _ | updateAttempt _ | updateFailed .. => none

/-- `MetaAddrChange::last_failure`: `Instant::now()` for a failure. -/
def lastFailure (self : MetaAddrChange) (clock : Clock) : Option Instant :=
  match self with
  | updateFailed .. => some clock.instant
  | newGossiped .. | newAlternate .. | newLocal _ | updateAttempt _ | updateResponded .. => none

/-- `MetaAddrChange::peer_addr_state`; local listeners get sanitized, so theirs does not matter. -/
def peerAddrState : MetaAddrChange → PeerAddrState
  | newGossiped .. => .neverAttemptedGossiped
  | newAlternate .. => .neverAttemptedAlternate
  | newLocal _ => .neverAttemptedGossiped
  | updateAttempt _ => .attemptPending
  | updateResponded .. => .responded
  | updateFailed .. => .failed

/-- `MetaAddrChange::into_new_meta_addr`: the entry a `New*` change creates. -/
def intoNewMetaAddr (self : MetaAddrChange) (clock : Clock) : Except String (Option MetaAddr) :=
  match self with
  | newGossiped .. | newAlternate .. | newLocal _ => do
    let services ← expect self.untrustedServices "unexpected missing services"
    return some {
      addr := self.addr
      services
      untrustedLastSeen := self.untrustedLastSeen clock
      lastResponse := none
      lastAttempt := none
      lastFailure := none
      lastConnectionState := self.peerAddrState }
  | updateAttempt _ | updateResponded .. | updateFailed .. => return none

/-- `MetaAddrChange::apply_to_meta_addr`: the new or updated entry, `none` if the change is not
valid for `previous`. The `assert_eq!` compares whole socket addresses, an IPv6 flow label and
scope id included; its panic carries the assertion's own message, without the `left`/`right`
values Rust prints around it. -/
def applyToMetaAddr (self : MetaAddrChange) (clock : Clock) :
    Option MetaAddr → Except String (Option MetaAddr)
  | some previous => do
    if previous.addr ≠ self.addr then throw "unexpected addr mismatch"
    let previousHasBeenAttempted := !previous.lastConnectionState.isNeverAttempted
    let changeToNeverAttempted :=
      ((← self.intoNewMetaAddr clock).map fun metaAddr =>
        metaAddr.lastConnectionState.isNeverAttempted).getD false
    if changeToNeverAttempted then
      if previousHasBeenAttempted then
        return none
      else
        return some {
          addr := self.addr
          services := previous.services
          untrustedLastSeen := previous.untrustedLastSeen.or (self.untrustedLastSeen clock)
          lastResponse := none
          lastAttempt := none
          lastFailure := none
          lastConnectionState := self.peerAddrState }
    else
      return some {
        addr := self.addr
        services := self.untrustedServices.getD previous.services
        untrustedLastSeen := previous.untrustedLastSeen
        lastResponse := max (self.lastResponse clock) previous.lastResponse
        lastAttempt := max (self.lastAttempt clock) previous.lastAttempt
        lastFailure := max (self.lastFailure clock) previous.lastFailure
        lastConnectionState := self.peerAddrState }
  | none => self.intoNewMetaAddr clock

end MetaAddrChange

namespace MetaAddr

/-- `MetaAddr::new_gossiped_change`, for a gossiped `MetaAddr`. -/
def newGossipedChange (self : MetaAddr) : Except String MetaAddrChange := do
  let untrustedLastSeen ← expect self.untrustedLastSeen "unexpected missing last seen"
  return .newGossiped (canonicalSocketAddr self.addr) self.services untrustedLastSeen

/-- `MetaAddr::new_responded`: the remote address and handshake services of a connection. -/
def newResponded (addr : SocketAddr) (services : PeerServices) : MetaAddrChange :=
  .updateResponded (canonicalSocketAddr addr) services

/-- `MetaAddr::new_reconnect`. -/
def newReconnect (addr : SocketAddr) : MetaAddrChange :=
  .updateAttempt (canonicalSocketAddr addr)

/-- `MetaAddr::new_alternate`. -/
def newAlternate (addr : SocketAddr) (untrustedServices : PeerServices) : MetaAddrChange :=
  .newAlternate (canonicalSocketAddr addr) untrustedServices

/-- `MetaAddr::new_local_listener_change`. -/
def newLocalListenerChange (addr : SocketAddr) : MetaAddrChange :=
  .newLocal (canonicalSocketAddr addr)

/-- `MetaAddr::new_errored`. -/
def newErrored (addr : SocketAddr) (services : Option PeerServices) : MetaAddrChange :=
  .updateFailed (canonicalSocketAddr addr) services

/-- `MetaAddr::new_shutdown`: a shutdown is treated as an error, whatever the state. -/
def newShutdown (addr : SocketAddr) (services : Option PeerServices) : MetaAddrChange :=
  newErrored addr services

end MetaAddr

end ZebraNetwork.Source
