import ShopRelay.Uuid

/-!
What can go wrong while deliveries and products are stored and messages are published. A fault may
carry a context, which says what was being done; its message names all contexts, the outermost
first, and the cause.
-/

namespace ShopRelay

inductive Fault where
  /-- A store that was told to refuse a call. -/
  | refused (call : String)
  | loadFailed
  | saveFailed
  | foreignDelivery (delivery payload : Uuid)
  | deliveryMissing (delivery : Uuid)
  | attemptMissing (attempt : Uuid)
  | payloadMissing (payload delivery : Uuid)
  | unknownStatus (text : String)
  | unknownInputType (text : String)
  /-- The database answered a statement with an error. -/
  | database (text : String)
  /-- The row has no such column. -/
  | missingColumn (column : String)
  /-- A column holds a value of another type. -/
  | mismatchedColumn (column : String)
  /-- A column that must have a value holds none. -/
  | nullColumn (column : String)
  /-- The message bus could not be reached. -/
  | busDown
  /-- The message bus answered with an error. -/
  | bus (text : String)
  | context (doing : String) (cause : Fault)
deriving DecidableEq

namespace Fault

def mismatchedTypes : String := "mismatched types"

def unexpectedNull : String := "unexpected null; try decoding as an \x60Option\x60"

/-- The texts of a column that cannot be read, for a reason. -/
def undecoded (column reason : String) : List String :=
  ["error occurred while decoding column \"" ++ column ++ "\": " ++ reason, reason]

/-- The texts of a fault from the outermost context to the innermost cause. -/
def chain : Fault → List String
  | .refused call => [call ++ " refused"]
  | .loadFailed => ["load failed"]
  | .saveFailed => ["save failed"]
  | .foreignDelivery d p =>
    ["event delivery " ++ d.text ++ " does not reference payload " ++ p.text]
  | .deliveryMissing d => ["event delivery " ++ d.text ++ " not found"]
  | .attemptMissing a => ["event delivery attempt " ++ a.text ++ " not found"]
  | .payloadMissing p d => ["payload " ++ p.text ++ " of delivery " ++ d.text ++ " not found"]
  | .unknownStatus text => ["unknown event delivery status '" ++ text ++ "'"]
  | .unknownInputType text => ["unknown attribute input type '" ++ text ++ "'"]
  | .database text => ["error returned from database: " ++ text, text]
  | .missingColumn column => ["no column found for name: " ++ column]
  | .mismatchedColumn column => undecoded column mismatchedTypes
  | .nullColumn column => undecoded column unexpectedNull
  | .busDown => ["Connection refused (os error 111)"]
  | .bus text => ["An error was signalled by the server - ResponseError: " ++ text]
  | .context doing cause => doing :: cause.chain

def message (f : Fault) : String := ": ".intercalate f.chain

/-- The outermost text alone. -/
def outermost (f : Fault) : String := f.chain.headD ""

end Fault

end ShopRelay
