import Travelo.Reservations.Service

/-!
# Calls of the reservation service

Every method with its arguments, as one type.
-/

namespace Travelo

/-- A method with its arguments. -/
inductive Action where
  | create (dto : CreateReservationDto)
  | update (id : Id) (dto : UpdateReservationDto)
  | extendStay (id : Id) (dto : ExtendStayDto)
  | moveRoom (id : Id) (dto : MoveRoomDto)
  | assignRoom (id roomId : Id)
  | lockRoom (id : Id) (locked : Bool)
  | swapRooms (id otherId : Id)
  | autoAllocate (input : AutoAllocateDto)
  | confirm (id : Id)
  | checkIn (id : Id) (dto : CheckInDto)
  | checkOut (id : Id) (dto : CheckOutDto)
  | collectPayment (id : Id) (input : CollectPaymentInput)
  | cancel (id : Id) (reason : String)
  | noShow (id : Id)

/-- A call: the method, for whom, and what it gets from outside the database. -/
structure Call where
  env : Env
  propertyId : Id
  actorStaffId : Option Id := none
  action : Action

/-- Whether the call can give a stay a room or a night. -/
def Call.takesRoom (c : Call) : Bool :=
  match c.action with
  | .update _ dto => dto.checkIn.isSome || dto.checkOut.isSome
  | .lockRoom _ _ | .checkOut _ _ | .collectPayment _ _ | .cancel _ _ | .noShow _ => false
  | _ => true

end Travelo
