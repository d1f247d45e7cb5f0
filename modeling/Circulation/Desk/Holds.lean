import Circulation.Policy
import Circulation.Procedure

/-!
# Holds

A reservation holds a copy for one hold period. It is fulfilled once, by a loan or by a cancellation; a hold whose
period has passed stands until someone fulfils it.
-/

namespace Circulation.Holds

/-- Places a hold on a copy for a user, to expire one hold period from now. -/
def place (policy : Policy) (copy : Copy) (userId : Int) : Procedure Reservation := do
  let now ← Procedure.now
  let period ← Procedure.checked policy.reservationHold
  let expiry ← Procedure.checked (now.after period)
  Procedure.request (.insertReservation ⟨copy.id, copy.bookId, userId, expiry, now⟩)

/-- Moves a pending reservation to fulfilled. -/
def fulfil (reservation : Reservation) : Procedure Reservation := do
  Procedure.ensure reservation.isPending (.invalidState .notPending)
  let now ← Procedure.now
  let moved ← Procedure.request (.moveReservation reservation.id .pending .fulfilled now)
  Procedure.ensure moved (.invalidState .notPending)
  return { reservation with status := .fulfilled, updatedAt := now }

/-- The reservation with an id. -/
def get (reservationId : Int) : Procedure Reservation := do
  Procedure.require (← Procedure.request (.getReservation reservationId)) (.notFound (.reservation reservationId))

/-- A reservation with all it refers to. -/
def details (reservationId : Int) : Procedure ReservationDetails := do
  let reservation ← get reservationId
  let copy ← Procedure.require (← Procedure.request (.getCopy reservation.copyId))
    (.inconsistent (.reservationCopy reservation.id reservation.copyId))
  let book ← Procedure.require (← Procedure.request (.getBook reservation.bookId))
    (.inconsistent (.reservationBook reservation.id reservation.bookId))
  let user ← Procedure.request (.getUser reservation.userId)
  return ⟨reservation, copy, book, user⟩

/-- The pending reservation of a copy. -/
def pendingOfCopy (copyId : Int) : Procedure (Option Reservation) :=
  Procedure.request (.pendingReservation copyId)

/-- The pending reservations of a user, newest first. -/
def pendingOfUser (userId : Int) : Procedure (List Reservation) :=
  Procedure.request (.listReservations { userId := some userId, status := some .pending } {})

/-- The pending reservations on any copy of a title, oldest first. -/
def pendingOfTitle (bookId : Int) : Procedure (List Reservation) :=
  Procedure.request (.listReservations { bookId := some bookId, status := some .pending } .ascending)

/-- The holds that have expired at an instant, oldest first, so many at most. -/
def expired (now : Instant) (limit : Int) : Procedure (List Reservation) :=
  Procedure.request (.listReservations { expiredAt := some now } { Window.ascending with limit := some limit })

/-- The reservations a filter admits. -/
def list (filter : ReservationFilter) (window : Window) : Procedure (List Reservation) :=
  Procedure.request (.listReservations filter window)

/-- How many reservations a filter admits. -/
def count (filter : ReservationFilter) : Procedure Int :=
  Procedure.request (.countReservations filter)

end Circulation.Holds
