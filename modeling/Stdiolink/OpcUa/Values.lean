/-
  Stdiolink.OpcUa.Values — values of the OPC UA drivers as JSON, `opcua_common.cpp`.

  A variant holds a scalar of one of the built-in types, an array of them, or nothing.  Strings are
  bytes of UTF-8, doubles and floats are bits.  The texts of dates and of doubles are Qt's, and
  those of node ids are open62541's; both enter as parameters.
-/
import Stdiolink.Cli.Codec
import Stdiolink.Lib.Base64
import Stdiolink.Lib.Utf8
import Stdiolink.Protocol.Doubles

namespace Stdiolink.OpcUa

open Stdiolink.Lib
open Stdiolink.Protocol
open Stdiolink.Protocol.Json
open Stdiolink.Cli (splitSign)

/-! ## §1. Node ids and values -/

/-- `UA_Guid`. -/
structure Guid where
  data1 : UInt32
  data2 : UInt16
  data3 : UInt16
  data4 : List UInt8
  deriving DecidableEq, Repr

inductive Identifier where
  | numeric (n : UInt32)
  | string (bytes : List UInt8)
  | guid (guid : Guid)
  | byteString (bytes : List UInt8)
  deriving DecidableEq, Repr

/-- `UA_NodeId`. -/
structure NodeId where
  namespaceIndex : UInt16
  identifier : Identifier
  deriving DecidableEq, Repr

/-- `UA_ExpandedNodeId`. -/
structure ExpandedNodeId where
  nodeId : NodeId
  namespaceUri : List UInt8 := []
  serverIndex : UInt32 := 0
  deriving DecidableEq, Repr

/-- `UA_ExpandedNodeId_isLocal`. -/
def ExpandedNodeId.isLocal (nodeId : ExpandedNodeId) : Bool :=
  nodeId.namespaceUri.isEmpty && nodeId.serverIndex == 0

/-- `UA_NodeClass`. -/
inductive NodeClass where
  | unspecified
  | object
  | variable
  | method
  | objectType
  | variableType
  | referenceType
  | dataType
  | view
  | unknown
  deriving DecidableEq, Repr

/-- `nodeClassToQString`. -/
def nodeClassToQString : NodeClass → String
  | .unspecified => "unspecified"
  | .object => "object"
  | .variable => "variable"
  | .method => "method"
  | .objectType => "object_type"
  | .variableType => "variable_type"
  | .referenceType => "reference_type"
  | .dataType => "data_type"
  | .view => "view"
  | .unknown => "unknown"

/-- `isDirectoryNodeClass`. -/
def isDirectoryNodeClass (nodeClass : NodeClass) : Bool :=
  nodeClass == .object || nodeClass == .view

/-- `isBrowsableSnapshotNode`. -/
def isBrowsableSnapshotNode (nodeClass : NodeClass) : Bool :=
  isDirectoryNodeClass nodeClass || nodeClass == .variable

/-- `UA_DataType`, as far as the drivers tell them apart. -/
inductive DataType where
  | boolean
  | sbyte
  | byte
  | int16
  | uint16
  | int32
  | uint32
  | int64
  | uint64
  | float
  | double
  | string
  | dateTime
  | guid
  | byteString
  | nodeId
  | expandedNodeId
  | qualifiedName
  | localizedText
  | other (typeName : String)
  deriving DecidableEq, Repr

/-- `typeName`. -/
def DataType.typeName : DataType → String
  | .boolean => "Boolean"
  | .sbyte => "SByte"
  | .byte => "Byte"
  | .int16 => "Int16"
  | .uint16 => "UInt16"
  | .int32 => "Int32"
  | .uint32 => "UInt32"
  | .int64 => "Int64"
  | .uint64 => "UInt64"
  | .float => "Float"
  | .double => "Double"
  | .string => "String"
  | .dateTime => "DateTime"
  | .guid => "Guid"
  | .byteString => "ByteString"
  | .nodeId => "NodeId"
  | .expandedNodeId => "ExpandedNodeId"
  | .qualifiedName => "QualifiedName"
  | .localizedText => "LocalizedText"
  | .other typeName => typeName

/-- A value in memory, with its type. -/
inductive Scalar where
  | boolean (v : Bool)
  | sbyte (v : Int8)
  | byte (v : UInt8)
  | int16 (v : Int16)
  | uint16 (v : UInt16)
  | int32 (v : Int32)
  | uint32 (v : UInt32)
  | int64 (v : Int64)
  | uint64 (v : UInt64)
  | float (bits : UInt32)
  | double (bits : UInt64)
  | string (bytes : List UInt8)
  | dateTime (ticks : Int64)
  | guid (v : Guid)
  | byteString (bytes : List UInt8)
  | nodeId (v : NodeId)
  | expandedNodeId (v : ExpandedNodeId)
  | qualifiedName (namespaceIndex : UInt16) (name : List UInt8)
  | localizedText (text : List UInt8)
  | other (typeName : String)
  deriving DecidableEq

/-- `UA_Variant`. -/
inductive Variant where
  | empty
  | scalar (value : Scalar)
  | array (items : List Scalar)
  deriving DecidableEq

/-! ## §2. Texts -/

/-- What the drivers use of Qt and of open62541. -/
structure Texts where
  /-- `QString::fromUtf8` of bytes that are not UTF-8. -/
  fromMalformed : List UInt8 → String
  /-- `QDateTime::fromString` with `Qt::ISODateWithMs`, in milliseconds since the epoch. -/
  isoDateWithMs : String → Option Int
  /-- `QDateTime::fromString` with `Qt::ISODate`. -/
  isoDate : String → Option Int
  /-- `QDateTime::toString` with `Qt::ISODateWithMs`, in UTC. -/
  toIsoDateWithMs : Int → String
  /-- `QString::number` with the format `'g', 16`. -/
  number : ℚ → String
  /-- `QString::toDouble`, in bits; infinities and what is no number have a text too. -/
  toDouble : String → Option UInt64
  /-- `QJsonDocument::toJson`, compact. -/
  compact : Json → String
  /-- What a cast of a double to an integer gives where it has no defined result. -/
  undefinedCast : ℚ → Int
  /-- `UA_NodeId_parse`, or the name of its error. -/
  parseNodeId : List UInt8 → Except String NodeId
  /-- `UA_NodeId_print`. -/
  printNodeId : NodeId → Except String (List UInt8)
  /-- `UA_ExpandedNodeId_print`. -/
  printExpandedNodeId : ExpandedNodeId → Except String (List UInt8)

/-- `QString::trimmed`. -/
def trimmed (text : String) : String := String.ofList (Cli.trimmed text.toList)

/-- `trimLower`.  The names that are compared with it have no letter that is the small one of a
capital beyond ASCII. -/
def trimLower (value : String) : String := String.ofList ((trimmed value).toList.map Char.toLower)

/-- `QString::toLongLong` of a text without blanks at its ends, with the range as parameters. -/
def toInteger (lo hi : Int) (text : List Char) : Option Int :=
  let (sign, digits) := splitSign text
  if digits.isEmpty || !digits.all Char.isDigit then none
  else
    let n := sign * Nat.ofDigitChars 10 digits 0
    if lo ≤ n ∧ n ≤ hi then some n else none

section Texts

variable (texts : Texts)

/-- `QString::fromUtf8`. -/
def fromUtf8 (bytes : List UInt8) : String :=
  match Utf8.decode? bytes with
  | some text => String.ofList (Utf8.dropByteOrderMark text.toList)
  | none => texts.fromMalformed bytes

/-- `uaStringToQString`. -/
def uaStringToQString (value : List UInt8) : String :=
  if value.isEmpty then "" else fromUtf8 texts value

/-- `qualifiedNameToQString`. -/
def qualifiedNameToQString (namespaceIndex : UInt16) (name : List UInt8) : String :=
  toString namespaceIndex.toNat ++ ":" ++ uaStringToQString texts name

/-- Hexadecimal digits, with zeros in front. -/
def hexDigits (width n : Nat) : List Char :=
  let digits := Nat.toDigits 16 n
  List.replicate (width - digits.length) '0' ++ digits

/-- `guidToQString`. -/
def guidToQString (value : Guid) : String :=
  let last := value.data4.flatMap fun b => hexDigits 2 b.toNat
  String.ofList (hexDigits 8 value.data1.toNat ++ '-' :: hexDigits 4 value.data2.toNat ++
    '-' :: hexDigits 4 value.data3.toNat ++ '-' :: last.take 4 ++ '-' :: last.drop 4)

/-- `formatStatusMessage`; a status is its name. -/
def formatStatusMessage (action status : String) : String := action ++ ": " ++ status

/-- `nodeIdToQString`. -/
def nodeIdToQString (nodeId : NodeId) : String :=
  match texts.printNodeId nodeId with
  | .ok printed => uaStringToQString texts printed
  | .error status => formatStatusMessage "print NodeId failed" status

/-- `expandedNodeIdToQString`. -/
def expandedNodeIdToQString (nodeId : ExpandedNodeId) : String :=
  if nodeId.isLocal then nodeIdToQString texts nodeId.nodeId
  else
    match texts.printExpandedNodeId nodeId with
    | .ok printed => uaStringToQString texts printed
    | .error status => formatStatusMessage "print ExpandedNodeId failed" status

/-- `QJsonValue::isString`. -/
def isString : Json → Bool
  | .str _ => true
  | _ => false

/-- `parseNodeIdString`: the node id and its normalized text. -/
def parseNodeIdString (input : String) : Except String (NodeId × String) :=
  let inputUtf8 := Utf8.encode (trimmed input).toList
  if inputUtf8.isEmpty then .error "node_id is required"
  else
    match texts.parseNodeId inputUtf8 with
    | .error status => .error (formatStatusMessage "Invalid node_id" status)
    | .ok nodeId => .ok (nodeId, nodeIdToQString texts nodeId)

/-- `jsonValueToText`. -/
def jsonValueToText : Json → String
  | .undefined | .null => ""
  | .bool b => if b then "true" else "false"
  | .num q => texts.number (Json.toDouble (.num q))
  | .str s => s
  | v => texts.compact v

/-- `parseIsoDateTime`, in milliseconds since the epoch. -/
def parseIsoDateTime (text : String) : Option Int :=
  (texts.isoDateWithMs text).or (texts.isoDate text)

/-! ## §3. From values to JSON -/

/-- 1970, in ticks since 1601. -/
def UA_DATETIME_UNIX_EPOCH : Int := 116444736000000000

/-- Ticks in a millisecond. -/
def UA_DATETIME_MSEC : Int := 10000

/-- `uaDateTimeToQDateTime`, in milliseconds since the epoch. -/
def uaDateTimeToQDateTime (value : Int64) : Int :=
  (value - Int64.ofInt UA_DATETIME_UNIX_EPOCH).toInt.tdiv UA_DATETIME_MSEC

/-- `scalarToJson`. -/
def scalarToJson : Scalar → Json
  | .boolean v => .bool v
  | .sbyte v => .num v.toInt
  | .byte v => .num v.toNat
  | .int16 v => .num v.toInt
  | .uint16 v => .num v.toNat
  | .int32 v => .num v.toInt
  | .uint32 v => .num v.toNat
  | .int64 v => .str (toString v.toInt)
  | .uint64 v => .str (toString (v.toNat : Int))
  | .float bits => ofFinite (binary32.toRat bits.toNat)
  | .double bits => ofFinite (binary64.toRat bits.toNat)
  | .string bytes => .str (uaStringToQString texts bytes)
  | .byteString bytes => .str (fromUtf8 texts (toBase64 bytes))
  | .localizedText text => .str (uaStringToQString texts text)
  | .qualifiedName namespaceIndex name => .str (qualifiedNameToQString texts namespaceIndex name)
  | .nodeId v => .str (nodeIdToQString texts v)
  | .expandedNodeId v => .str (expandedNodeIdToQString texts v)
  | .guid v => .str (guidToQString v)
  | .dateTime ticks => .str (texts.toIsoDateWithMs (uaDateTimeToQDateTime ticks))
  | .other typeName => .str ("<unsupported:" ++ typeName ++ ">")

/-- `variantToJson`. -/
def variantToJson : Variant → Json
  | .empty => .null
  | .scalar value => scalarToJson texts value
  | .array items => .arr (items.map (scalarToJson texts))

/-! ## §4. From JSON to values -/

/-- `parseIntegerString`. -/
def parseIntegerString (text : String) (minValue maxValue : Int) : Option Int :=
  match toInteger (-2 ^ 63) (2 ^ 63 - 1) (trimmed text).toList with
  | some parsed => if parsed < minValue ∨ maxValue < parsed then none else some parsed
  | none => none

/-- `parseUnsignedString`: no minus, not even in front of a zero. -/
def parseUnsignedString (text : String) (maxValue : Int) : Option Int :=
  if (trimmed text).toList.head? = some '-' then none
  else
    match toInteger 0 (2 ^ 64 - 1) (trimmed text).toList with
    | some parsed => if maxValue < parsed then none else some parsed
    | none => none

/-- `static_cast` of a double to an integer type with these bounds: towards zero. -/
def castTo (lo hi : Int) (raw : ℚ) : Int :=
  let n := raw.num.tdiv raw.den
  -- any number of the type where there is no defined result
  if lo ≤ n ∧ n ≤ hi then n else lo + texts.undefinedCast raw % (hi - lo + 1)

/-- `[min, max]`, in a message. -/
def rangeText (minValue maxValue : Int) : String :=
  "[" ++ toString minValue ++ ", " ++ toString maxValue ++ "]"

/-- `parseIntegerValue`. -/
def parseIntegerValue (value : Json) (strictType : Bool) (minValue maxValue : Int) :
    Except String Int :=
  let refused := Except.error (if strictType then
      "value must be a JSON integer in " ++ rangeText minValue maxValue
    else "value must be an integer or integer string in " ++ rangeText minValue maxValue)
  match value with
  | .num _ =>
    let raw := Json.toDouble value
    let asInt := castTo texts (-2 ^ 63) (2 ^ 63 - 1) raw
    if raw ≠ roundToDouble asInt ∨ asInt < minValue ∨ maxValue < asInt then
      .error ("value must be an integer in " ++ rangeText minValue maxValue)
    else .ok asInt
  | .str s =>
    if strictType then refused
    else
      match parseIntegerString s minValue maxValue with
      | some parsed => .ok parsed
      | none => refused
  | _ => refused

/-- `parseUnsignedValue`. -/
def parseUnsignedValue (value : Json) (strictType : Bool) (maxValue : Int) : Except String Int :=
  let refused := Except.error (if strictType then
      "value must be a JSON unsigned integer in " ++ rangeText 0 maxValue
    else "value must be an unsigned integer or decimal string in " ++ rangeText 0 maxValue)
  match value with
  | .num _ =>
    let raw := Json.toDouble value
    let asInt := castTo texts 0 (2 ^ 64 - 1) raw
    if raw ≠ roundToDouble asInt ∨ maxValue < asInt then
      .error ("value must be an unsigned integer in " ++ rangeText 0 maxValue)
    else .ok asInt
  | .str s =>
    if strictType then refused
    else
      match parseUnsignedString s maxValue with
      | some parsed => .ok parsed
      | none => refused
  | _ => refused

/-- The branch of `jsonToVariant` for `int64`: a text, or what has one where the check is not
strict. -/
def parseInt64Value (value : Json) (strictType : Bool) : Except String Int :=
  if strictType && !isString value then .error "int64 value must be a decimal string"
  else
    match parseIntegerString (jsonValueToText texts value) (-2 ^ 63) (2 ^ 63 - 1) with
    | some parsed => .ok parsed
    | none => .error "int64 value must be a valid decimal string"

/-- The branch for `uint64`. -/
def parseUInt64Value (value : Json) (strictType : Bool) : Except String Int :=
  if strictType && !isString value then .error "uint64 value must be a decimal string"
  else
    match parseUnsignedString (jsonValueToText texts value) (2 ^ 64 - 1) with
    | some parsed => .ok parsed
    | none => .error "uint64 value must be a valid decimal string"

/-- `parseBoolValue`. -/
def parseBoolValue (value : Json) (strictType : Bool) : Except String Bool :=
  let refused := Except.error (if strictType then "value must be a JSON boolean"
    else "value must be a boolean, 0/1, or true/false string")
  match value with
  | .bool b => .ok b
  | .num _ =>
    let raw := Json.toDouble value
    if !strictType && raw = 0 then .ok false
    else if !strictType && raw = 1 then .ok true
    else refused
  | .str s =>
    let key := trimLower s
    if !strictType && (key == "true" || key == "1") then .ok true
    else if !strictType && (key == "false" || key == "0") then .ok false
    else refused
  | _ => refused

/-- `parseDoubleValue`, in bits. -/
def parseDoubleValue (value : Json) (strictType : Bool) : Except String UInt64 :=
  let refused := Except.error (if strictType then "value must be a JSON number"
    else "value must be a number or numeric string")
  match value with
  | .num _ => .ok (UInt64.ofNat (binary64.ofRat (Json.toDouble value)))
  | .str s =>
    if strictType then refused
    else
      match texts.toDouble (trimmed s) with
      | some bits => .ok bits
      | none => refused
  | _ => refused

/-- `static_cast` of a double to a float: to the nearest one, and to an infinity from too large a
number. -/
def castToFloat (bits : UInt64) : UInt32 :=
  match binary64.toRat bits.toNat with
  | some v => UInt32.ofNat (binary32.ofRat v)
  | none =>
    -- an infinity, or what is no number; the sign is kept
    UInt32.ofNat (bits.toNat / 2 ^ 63 * 2 ^ 31 + 255 * 2 ^ 23 +
      if bits.toNat % 2 ^ 52 = 0 then 0 else 2 ^ 22)

/-- `resolveBuiltinDataType`. -/
def resolveBuiltinDataType (typeName : String) : Except String DataType :=
  let key := trimLower typeName
  if key = "bool" ∨ key = "boolean" then .ok .boolean
  else if key = "int16" then .ok .int16
  else if key = "uint16" then .ok .uint16
  else if key = "int32" then .ok .int32
  else if key = "uint32" then .ok .uint32
  else if key = "int64" then .ok .int64
  else if key = "uint64" then .ok .uint64
  else if key = "float" then .ok .float
  else if key = "double" then .ok .double
  else if key = "string" then .ok .string
  else if key = "bytestring" then .ok .byteString
  else if key = "datetime" then .ok .dateTime
  else .error ("Unsupported data_type: " ++ typeName)

/-- What `jsonToVariant` does for a type that it has found. -/
def jsonToScalar (dataType : DataType) (dataTypeName : String) (value : Json)
    (strictType : Bool) : Except String Scalar :=
  match dataType with
  | .boolean => (parseBoolValue value strictType).map .boolean
  | .int16 =>
    (parseIntegerValue texts value strictType (-2 ^ 15) (2 ^ 15 - 1)).map fun parsed =>
      .int16 (Int16.ofInt parsed)
  | .uint16 =>
    (parseUnsignedValue texts value strictType (2 ^ 16 - 1)).map fun parsed =>
      .uint16 (UInt16.ofNat parsed.toNat)
  | .int32 =>
    (parseIntegerValue texts value strictType (-2 ^ 31) (2 ^ 31 - 1)).map fun parsed =>
      .int32 (Int32.ofInt parsed)
  | .uint32 =>
    (parseUnsignedValue texts value strictType (2 ^ 32 - 1)).map fun parsed =>
      .uint32 (UInt32.ofNat parsed.toNat)
  | .int64 => (parseInt64Value texts value strictType).map fun parsed => .int64 (Int64.ofInt parsed)
  | .uint64 =>
    (parseUInt64Value texts value strictType).map fun parsed => .uint64 (UInt64.ofNat parsed.toNat)
  | .float => (parseDoubleValue texts value strictType).map fun parsed => .float (castToFloat parsed)
  | .double => (parseDoubleValue texts value strictType).map .double
  | .string =>
    match value with
    -- `UA_STRING` takes the bytes for a C string
    | .str s => .ok (.string (cString (Utf8.encode s.toList)))
    | _ => .error "string value must be a JSON string"
  | .byteString =>
    match value with
    | .str s =>
      let raw := fromBase64 (Utf8.encode s.toList)
      if raw.isEmpty && !s.isEmpty then .error "bytestring value must be valid base64"
      else .ok (.byteString raw)
    | _ => .error "bytestring value must be a base64 string"
  | .dateTime =>
    match value with
    | .str s =>
      match parseIsoDateTime texts s with
      | some parsed =>
        .ok (.dateTime (Int64.ofInt (UA_DATETIME_UNIX_EPOCH + parsed * UA_DATETIME_MSEC)))
      | none => .error "datetime value must be a valid ISO8601 string"
    | _ => .error "datetime value must be an ISO8601 string"
  | _ => .error ("Unsupported data_type: " ++ dataTypeName)

/-- `jsonToVariant`. -/
def jsonToVariant (dataTypeName : String) (value : Json) (strictType : Bool) :
    Except String Variant :=
  match resolveBuiltinDataType dataTypeName with
  | .error errorMessage => .error errorMessage
  | .ok dataType => (jsonToScalar texts dataType dataTypeName value strictType).map .scalar

end Texts

end Stdiolink.OpcUa
