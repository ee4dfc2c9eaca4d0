import Mathlib.Order.Basic
import Mathlib.Order.Fin.Basic

/-!
# Time values and the constants that bound them

Source: zebra-network/src/constants.rs:46,58,100 and the uses in meta_addr.rs:419-478.
`DateTime32` and `Duration32` (zebra-chain) and `std::time::{Instant, Duration}` are not in the
source; they are modelled from the spec: a truncated timestamp is "an unsigned 32-bit count of
seconds since the Unix epoch" with `now()`, `saturating_elapsed()` and `checked_sub(secs)`, and
a local instant is "a monotonic point in local time". The clocks are not read here: a `Clock`
holds what `DateTime32::now()` and `Instant::now()` return to one call.
-/

namespace ZebraNetwork.Source

/-- Rust's `u8`. -/
abbrev U8 := Fin 256

/-- Rust's `u16`. -/
abbrev U16 := Fin 65536

/-- Rust's `u32`. -/
abbrev U32 := Fin 4294967296

/-- Rust's `u64`. -/
abbrev U64 := Fin 18446744073709551616

/-- `Option::expect`: the value, or a panic carrying the message. -/
def expect {α : Type} : Option α → String → Except String α
  | some value, _ => pure value
  | none, message => throw message

/-- Modelled from the spec: `DateTime32`, seconds since the Unix epoch in a `u32`. -/
structure DateTime32 where
  timestamp : U32
  deriving DecidableEq, Repr

/-- Modelled from the spec: `Duration32`, whole seconds in a `u32`. -/
structure Duration32 where
  seconds : U32
  deriving DecidableEq, Repr

/-- Modelled from the spec: `std::time::Instant`, a monotonic reading in nanoseconds. -/
structure Instant where
  nanos : Nat
  deriving DecidableEq, Repr

/-- `std::time::Duration`, in nanoseconds. -/
structure Duration where
  nanos : Nat
  deriving DecidableEq, Repr

/-- The derived orders compare the single field; `max` keeps the second argument on a tie. -/
instance : LinearOrder DateTime32 :=
  LinearOrder.lift' DateTime32.timestamp fun a b h => by cases a; cases b; cases h; rfl

instance : LinearOrder Duration32 :=
  LinearOrder.lift' Duration32.seconds fun a b h => by cases a; cases b; cases h; rfl

instance : LinearOrder Instant :=
  LinearOrder.lift' Instant.nanos fun a b h => by cases a; cases b; cases h; rfl

instance : LinearOrder Duration :=
  LinearOrder.lift' Duration.nanos fun a b h => by cases a; cases b; cases h; rfl

theorem DateTime32.le_def {a b : DateTime32} : a ≤ b ↔ a.timestamp.val ≤ b.timestamp.val :=
  Iff.rfl

theorem Duration32.le_def {a b : Duration32} : a ≤ b ↔ a.seconds.val ≤ b.seconds.val :=
  Iff.rfl

theorem Instant.le_def {a b : Instant} : a ≤ b ↔ a.nanos ≤ b.nanos :=
  Iff.rfl

theorem Duration.le_def {a b : Duration} : a ≤ b ↔ a.nanos ≤ b.nanos :=
  Iff.rfl

/-- `Duration::from_secs`. -/
def Duration.fromSecs (secs : Nat) : Duration := ⟨secs * 1000000000⟩

/-- `Duration::as_secs`: the whole seconds. -/
def Duration.asSecs (d : Duration) : Nat := d.nanos / 1000000000

/-- `Duration32::from_hours`. -/
def Duration32.fromHours (hours : Nat) (fits : hours * 3600 < 4294967296) : Duration32 :=
  ⟨⟨hours * 3600, fits⟩⟩

/-- `DateTime32::saturating_duration_since`: zero when `earlier` is in the future. -/
def DateTime32.saturatingDurationSince (self earlier : DateTime32) : Duration32 :=
  ⟨⟨self.timestamp.val - earlier.timestamp.val, by omega⟩⟩

/-- `DateTime32::saturating_elapsed`, against the reading `now` of `DateTime32::now()`. -/
def DateTime32.saturatingElapsed (self now : DateTime32) : Duration32 :=
  now.saturatingDurationSince self

/-- `DateTime32::checked_sub`: `None` on underflow. -/
def DateTime32.checkedSub (self : DateTime32) (duration : Duration32) : Option DateTime32 :=
  if duration.seconds.val ≤ self.timestamp.val then
    some ⟨⟨self.timestamp.val - duration.seconds.val, by omega⟩⟩
  else none

/-- `Instant::elapsed`, against the reading `now` of `Instant::now()`; it saturates at zero. -/
def Instant.elapsed (self now : Instant) : Duration := ⟨now.nanos - self.nanos⟩

/-- What `DateTime32::now()` and `Instant::now()` return to one call. -/
structure Clock where
  now : DateTime32
  instant : Instant
  deriving DecidableEq, Repr

/-- `MIN_PEER_RECONNECTION_DELAY`: we expect a message from a live peer at least this often. -/
def minPeerReconnectionDelay : Duration := Duration.fromSecs (60 + 20 + 20 + 20)

/-- `MIN_PEER_RECONNECTION_DELAY.try_into()`: its whole seconds fit in a `u32`, so the
`expect("unexpectedly large constant")` of meta_addr.rs:425 never fires. -/
def minPeerReconnectionDelay32 : Duration32 := ⟨⟨minPeerReconnectionDelay.asSecs, by decide⟩⟩

/-- `MAX_PEER_ACTIVE_FOR_GOSSIP`: three hours. -/
def maxPeerActiveForGossip : Duration32 := Duration32.fromHours 3 (by decide)

/-- `TIMESTAMP_TRUNCATION_SECONDS`: outbound last-seen times are truncated to half hours. -/
def timestampTruncationSeconds : U32 := 30 * 60

@[simp] theorem minPeerReconnectionDelay_nanos : minPeerReconnectionDelay.nanos = 120000000000 :=
  rfl

@[simp] theorem minPeerReconnectionDelay32_seconds : minPeerReconnectionDelay32.seconds.val = 120 :=
  rfl

@[simp] theorem timestampTruncationSeconds_val : timestampTruncationSeconds.val = 1800 := rfl

@[simp] theorem maxPeerActiveForGossip_seconds : maxPeerActiveForGossip.seconds.val = 10800 := rfl

end ZebraNetwork.Source
