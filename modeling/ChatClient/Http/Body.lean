import ChatClient.Text.Utf8

/-!
# Bodies

The body of an answer arrives in pieces, and may break off before its end.
-/

namespace ChatClient.Http

/-- A body: the pieces that arrive, and whether they are all of it. -/
structure Body where
  pieces : List Utf8.Bytes
  complete : Bool := true
deriving DecidableEq, Repr

namespace Body

/-- All bytes that arrive. -/
def bytes (b : Body) : Utf8.Bytes := b.pieces.flatten

/-- The body with a piece in front of it. -/
def cons (piece : Utf8.Bytes) (b : Body) : Body := { b with pieces := piece :: b.pieces }

/-- A body of which nothing more arrives, though more was to come. -/
def broken : Body := { pieces := [], complete := false }

end Body

end ChatClient.Http
