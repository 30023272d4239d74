/-
  Stdiolink.Protocol.Jsonl — messages of the JSON-lines protocol.

  `parseResponse` of `protocol/jsonl_parser.cpp` and the types of `jsonl_types.h`.
  `QJsonDocument::fromJson` is a parameter: the value of a line, if it is valid JSON.
-/
import Stdiolink.Protocol.Json

namespace Stdiolink.Protocol

/-- The three values of `Message::status` that `parseResponse` lets pass. -/
inductive Status where
  | event
  | done
  | error
  deriving Repr, DecidableEq

/-- The status with this name. -/
def Status.ofString (s : String) : Option Status :=
  if s = "event" then some .event
  else if s = "done" then some .done
  else if s = "error" then some .error
  else none

structure Message where
  status : Status
  code : Int
  payload : Json

/-- A message that ends a request: done or error. -/
def Message.isTerminal (m : Message) : Bool :=
  match m.status with
  | .event => false
  | .done => true
  | .error => true

/-- `'\\n'`. -/
def newline : UInt8 := 10

/-- `QJsonDocument::fromJson`. -/
abbrev FromJson := List UInt8 → Option Json

/-- `parseResponse`. -/
def parseResponse (fromJson : FromJson) (line : List UInt8) : Option Message :=
  match fromJson line with
  | some (.obj obj) =>
      if !Json.hasKey obj "status" || !Json.hasKey obj "code" then none
      else
        (Status.ofString (Json.value obj "status").toStr).map fun status =>
          { status := status, code := (Json.value obj "code").toInt, payload := Json.value obj "data" }
  | _ => none

structure Request where
  cmd : String
  data : Json

/-- `parseRequest`.  The command must be a text; the data may be missing. -/
def parseRequest (fromJson : FromJson) (line : List UInt8) : Option Request :=
  match fromJson line with
  | some (.obj obj) =>
      match Json.value obj "cmd" with
      | .str cmd => some { cmd := cmd, data := Json.value obj "data" }
      | _ => none
  | _ => none

end Stdiolink.Protocol
