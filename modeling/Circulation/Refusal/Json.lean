import Circulation.Json
import Circulation.Refusal

/-!
# Refusals as JSON

What is answered in place of a result: a refusal with its message, its status and the response for the one who asked,
or the message of an overflow.
-/

namespace Circulation

/-- The response for the one who asked. -/
def Refusal.response (r : Refusal) : Json :=
  .obj [("code", .int r.code.number), ("error", .str r.code.name), ("message", .str r.publicMessage)]

/-- A refusal as JSON. -/
def Refusal.toJson (r : Refusal) : Json :=
  .obj [ ("error", .str r.kind), ("message", .str r.message), ("status", .int r.status),
    ("client", .bool r.isClientError), ("response", r.response) ]

/-- An overflow as JSON. -/
def Overflow.toJson (o : Overflow) : Json :=
  .obj [("error", .str "Panic"), ("message", .str o.message)]

/-- The end of an operation without a result, as JSON. -/
def Stop.toJson : Stop → Json
  | .refused why => why.toJson
  | .overflowed what => what.toJson

end Circulation
