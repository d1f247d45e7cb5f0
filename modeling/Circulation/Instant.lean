/-!
# Instants and spans

The desk dates everything it writes with an `Instant`: a second counted from 1970-01-01 UTC and the nanoseconds past
it. A fraction of a thousand million nanoseconds or more stands for a leap second that follows the counted one. A
`Span` is a length of time. Instants cover the years -262143 to 262142, so `Instant.add?` can fail; `Span.ofDays?`
fails first when the day count itself is out of reach.
-/

namespace Circulation

/-- A length of time in nanoseconds, negative when it runs backwards. -/
structure Span where
  nanos : Int
  deriving DecidableEq, Repr

namespace Span

/-- The nanoseconds of one second. -/
def second : Int := 1_000_000_000

/-- The nanoseconds of one day of 24 hours. -/
def day : Int := 86_400 * second

/-- The most days a span may count: more would not fit the 64-bit millisecond count that bounds every span. -/
def maxDays : Nat := 106_751_991_167

/-- A span of whole days, unless the count is out of reach. -/
def ofDays? (n : Int) : Option Span :=
  if n.natAbs ≤ maxDays then some ⟨n * day⟩ else none

/-- The whole seconds of a span, cut toward zero. -/
def wholeSeconds (d : Span) : Int :=
  d.nanos.tdiv second

/-- What `wholeSeconds` cuts off, with the sign of the span. -/
def subsecond (d : Span) : Int :=
  d.nanos.tmod second

end Span

/-- A point in time: a second since 1970-01-01 UTC and the nanoseconds past it, two thousand million when a leap
second follows. -/
structure Instant where
  second : Int
  nano : Nat
  nano_lt : nano < 2_000_000_000
  first_le : -8_334_601_228_800 ≤ second
  le_last : second ≤ 8_210_266_876_799
  deriving DecidableEq

namespace Instant

/-- The instant at a second and a fraction, if both are in range. -/
def ofParts? (second : Int) (nano : Int) : Option Instant :=
  if h : 0 ≤ nano ∧ nano < 2_000_000_000 ∧ -8_334_601_228_800 ≤ second ∧ second ≤ 8_210_266_876_799 then
    some ⟨second, nano.toNat, by omega, h.2.2.1, h.2.2.2⟩
  else
    none

/-- The start of 1970 in UTC. -/
def epoch : Instant :=
  ⟨0, 0, by decide, by decide, by decide⟩

instance : Inhabited Instant := ⟨epoch⟩

/-- The place of an instant in the order of time: seconds first, then fractions, a leap second after its second. -/
def rank (t : Instant) : Int :=
  t.second * 2_000_000_000 + t.nano

instance : LT Instant := ⟨fun a b => a.rank < b.rank⟩

instance : LE Instant := ⟨fun a b => a.rank ≤ b.rank⟩

instance (a b : Instant) : Decidable (a < b) := inferInstanceAs (Decidable (a.rank < b.rank))

instance (a b : Instant) : Decidable (a ≤ b) := inferInstanceAs (Decidable (a.rank ≤ b.rank))

/-- Instants are in the order of their ranks. -/
theorem lt_iff_rank_lt {a b : Instant} : a < b ↔ a.rank < b.rank := Iff.rfl

/-- An instant is not after another when its rank is not. -/
theorem le_iff_rank_le {a b : Instant} : a ≤ b ↔ a.rank ≤ b.rank := Iff.rfl

/-- The rank tells instants apart. -/
theorem eq_of_rank_eq {a b : Instant} (h : a.rank = b.rank) : a = b := by
  obtain ⟨s, n, hn, _, _⟩ := a
  obtain ⟨s', n', hn', _, _⟩ := b
  simp only [rank] at h
  have hs : s = s' := by omega
  have hm : n = n' := by omega
  subst hs hm
  rfl

/-- Whether the instant lies in a leap second. -/
def isLeap (t : Instant) : Bool :=
  1_000_000_000 ≤ t.nano

/-- The second of the instant's day in UTC. -/
def secondOfDay (t : Instant) : Int :=
  t.second % 86_400

/-- The instant at a second and any number of nanoseconds past it. -/
def settle? (second nanos : Int) : Option Instant :=
  ofParts? (second + nanos / Span.second) (nanos % Span.second)

/-- The instant a span later. From within a leap second, a span that ends in the same leap second or before it counts
from the fraction as it stands; a longer one counts from the second the leap second follows, or, backwards, from the
one after. -/
def add? (t : Instant) (d : Span) : Option Instant :=
  if t.isLeap then
    if 0 < d.wholeSeconds ∨ (0 < d.subsecond ∧ 2_000_000_000 ≤ t.nano + d.subsecond) then
      settle? t.second (t.nano - Span.second + d.nanos)
    else if d.wholeSeconds < 0 then
      settle? (t.second + 1) (t.nano - Span.second + d.nanos)
    else
      ofParts? t.second (t.nano + d.subsecond)
  else
    settle? t.second (t.nano + d.nanos)

/-- The leap second between two instants, counted when one of them lies in it and the other is later, or earlier, in
the day. -/
def leapBetween (later earlier : Instant) : Int :=
  if earlier.secondOfDay < later.secondOfDay ∧ earlier.isLeap then 1
  else if later.secondOfDay < earlier.secondOfDay ∧ later.isLeap then -1
  else 0

/-- The span from `earlier` to `later`. -/
def since (later earlier : Instant) : Span :=
  ⟨(later.second - earlier.second + leapBetween later earlier) * Span.second + (later.nano - earlier.nano)⟩

/-- The start of 2000 in UTC. -/
def millennium : Instant :=
  ⟨946_684_800, 0, by decide, by decide, by decide⟩

/-- The instant cut to whole microseconds, counted from the start of 2000: fractions move toward that start. -/
def cutToMicros (t : Instant) : Instant :=
  (settle? millennium.second ((t.since millennium).nanos.tdiv 1000 * 1000)).getD t

end Instant

end Circulation
