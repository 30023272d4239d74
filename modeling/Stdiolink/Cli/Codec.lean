/-
  Stdiolink.Cli.Codec — `JsonCliCodec`, `console/json_cli_codec.cpp`.

  A JSON object is written as command line arguments, one for each leaf: the path of the
  leaf and a JSON literal.  Reading parses each path and literal and assigns the value in a
  tree of nodes, which is turned into an object at the end.  The JSON texts are Qt's.
-/
import Stdiolink.Protocol.Json

namespace Stdiolink.Cli

open Stdiolink.Protocol

/-! ## §1. Paths and literals -/

inductive CliValueMode where
  | canonical
  | friendly
  deriving Repr, DecidableEq

structure RawCliArg where
  path : String
  rawValue : String
  deriving Repr, DecidableEq

structure CliRenderOptions where
  useEquals : Bool := true

inductive CliPathSegment where
  | key (key : String)
  | index (index : Int)
  | append
  deriving Repr, DecidableEq

abbrev CliPath := List CliPathSegment

/-- What the codec uses of Qt: the compact text of an array and the value of a text,
`QJsonDocument::toJson` and `fromJson`. -/
structure JsonQt where
  toJson : List Json → String
  fromJson : String → Option Json

/-- `QString::replace` of a character. -/
def replace (before : Char) (after text : List Char) : List Char :=
  text.flatMap fun c => if c = before then after else [c]

/-- `quotedForPath`. -/
def quotedForPath (key : String) : String :=
  let escaped := replace '\\' ['\\', '\\'] key.toList
  let escaped := replace '"' ['\\', '"'] escaped
  "[\"" ++ String.ofList escaped ++ "\"]"

/-- `isSimpleKey`: the expression `^[A-Za-z_][A-Za-z0-9_-]*$`, whose `$` also matches before
one final newline. -/
def isSimpleKey (key : String) : Bool :=
  let chars := key.toList
  let body := if chars.getLast? = some '\n' then chars.dropLast else chars
  match body with
  | [] => false
  | c :: rest =>
      (c.isAlpha || c == '_') && rest.all fun d => d.isAlphanum || d == '_' || d == '-'

/-- One turn of `renderPath`. -/
def renderSegment (out : String) (segment : CliPathSegment) : String :=
  match segment with
  | .key key =>
      if out.isEmpty then out ++ (if isSimpleKey key then key else quotedForPath key)
      else if isSimpleKey key then out ++ ("." ++ key)
      else out ++ quotedForPath key
  | .index index => out ++ ("[" ++ toString index ++ "]")
  | .append => out ++ "[]"

/-- `renderPath`. -/
def renderPath (path : CliPath) : String := path.foldl renderSegment ""

/-- `canonicalLiteral`: the compact text of the array of the value, without its brackets. -/
def canonicalLiteral (qt : JsonQt) (value : Json) : String :=
  if value.isNullish then "null"
  else
    let json := (qt.toJson [value]).toList
    if json.length ≥ 2 && json.head? = some '[' && json.getLast? = some ']' then
      String.ofList json.tail.dropLast
    else String.ofList json

/-- `parseJsonLiteral`. -/
def parseJsonLiteral (qt : JsonQt) (text : String) : Option Json :=
  match qt.fromJson ("[" ++ text ++ "]") with
  | some (.arr [v]) => some v
  | _ => none

/-- `inferFriendlyValue`. -/
def inferFriendlyValue (qt : JsonQt) (text : String) : Json :=
  (parseJsonLiteral qt text).getD (.str text)

/-! ## §2. Reading a path -/

/-- `QChar::isSpace`. -/
def isSpace (c : Char) : Bool :=
  let n := c.toNat
  n = 0x20 || 9 ≤ n && n ≤ 13 || n = 0x85 || n = 0xA0 || n = 0x1680 ||
    0x2000 ≤ n && n ≤ 0x200A || n = 0x2028 || n = 0x2029 || n = 0x202F || n = 0x205F || n = 0x3000

/-- `QString::trimmed`. -/
def trimmed (text : List Char) : List Char :=
  ((text.dropWhile isSpace).reverse.dropWhile isSpace).reverse

/-- A sign, plus if there is none, and what follows it. -/
def splitSign : List Char → Int × List Char
  | '-' :: rest => (-1, rest)
  | '+' :: rest => (1, rest)
  | rest => (1, rest)

/-- `QString::toInt` and `toLongLong`, with the range as parameters: an optional sign and
decimal digits between blanks. -/
def toBoundedInt (lo hi : Int) (text : List Char) : Option Int :=
  let (sign, digits) := splitSign (trimmed text)
  if digits.isEmpty || !digits.all Char.isDigit then none
  else
    let n := sign * Nat.ofDigitChars 10 digits 0
    if lo ≤ n ∧ n ≤ hi then some n else none

/-- `QString::toInt`. -/
def toInt (text : List Char) : Option Int := toBoundedInt (-2147483648) 2147483647 text

/-- The quoted key behind its opening quote: the key and what follows the closing quote. -/
def parseQuoted : List Char → Except String (List Char × List Char)
  | [] => .error "invalid path syntax: unterminated quoted key"
  | '\\' :: [] => .error "invalid path syntax: bad escape"
  | '\\' :: c :: rest => (parseQuoted rest).map fun r => (c :: r.1, r.2)
  | '"' :: rest => .ok ([], rest)
  | c :: rest => (parseQuoted rest).map fun r => (c :: r.1, r.2)

/-- A segment in brackets, behind the opening one, and what follows it. -/
def parseBracket (rest : List Char) : Except String (CliPathSegment × List Char) :=
  match rest with
  | [] => .error "invalid path syntax: unterminated bracket"
  | ']' :: rest => .ok (.append, rest)
  | '"' :: rest =>
      match parseQuoted rest with
      | .error error => .error error
      | .ok (key, ']' :: rest) => .ok (.key (String.ofList key), rest)
      | .ok _ => .error "invalid path syntax: unterminated quoted key"
  | rest =>
      match rest.dropWhile (· != ']') with
      | [] => .error "invalid path syntax: unterminated index"
      | _ :: after =>
          match toInt (rest.takeWhile (· != ']')) with
          | none => .error "invalid array index"
          | some index => .ok (.index index, after)

/-- One segment, behind its dot if it has one, and what follows it. -/
def parseSegment (rest : List Char) : Except String (CliPathSegment × List Char) :=
  match rest with
  | '[' :: rest => parseBracket rest
  | rest =>
      let bare : Char → Bool := fun c => c != '.' && c != '['
      let key := rest.takeWhile bare
      if key.isEmpty then .error "invalid path syntax: empty segment"
      else .ok (.key (String.ofList key), rest.dropWhile bare)

/-- The loop of `parsePath`, for at most so many segments. -/
def parseSegments : Nat → List Char → Except String CliPath
  | 0, _ => .ok []
  | _, [] => .ok []
  | _ + 1, '.' :: [] => .error "invalid path syntax: trailing dot"
  | fuel + 1, rest =>
      let rest := match rest with
        | '.' :: rest => rest
        | rest => rest
      match parseSegment rest with
      | .error error => .error error
      | .ok (segment, rest) => (parseSegments fuel rest).map fun path => segment :: path

/-- `parsePath`.  A path has no more segments than characters. -/
def parsePath (path : String) : Except String CliPath :=
  if path.isEmpty then .error "invalid path syntax: empty path"
  else parseSegments path.toList.length path.toList

/-! ## §3. Assigning in the tree -/

/-- `CliNode::Kind`. -/
inductive CliNodeKind where
  | unset
  | scalar
  | object
  | array
  deriving Repr, DecidableEq

/-- `CliNode::Origin`. -/
inductive CliNodeOrigin where
  | none
  | scalar
  | literalContainer
  | aggregated
  deriving Repr, DecidableEq

structure CliNode where
  kind : CliNodeKind := .unset
  origin : CliNodeOrigin := .none
  scalar : Json := .null
  objectChildren : List (String × CliNode) := []
  arrayChildren : List CliNode := []
  hasAppendWrites : Bool := false
  hasExplicitIndexWrites : Bool := false

/-- `ensureObjectNode` and `ensureArrayNode`. -/
def ensureNode (kind : CliNodeKind) (node : CliNode) (childPath : Bool) : Except String CliNode :=
  if node.kind = .unset then .ok { node with kind := kind, origin := .aggregated }
  else if node.kind = kind then
    if childPath && node.origin = .literalContainer then
      .error "path conflict: container literal vs child path"
    else .ok node
  else .error "path conflict: scalar vs object"

def ensureObjectNode : CliNode → Bool → Except String CliNode := ensureNode .object

def ensureArrayNode : CliNode → Bool → Except String CliNode := ensureNode .array

/-- What a literal makes of a node. -/
def literalNode (value : Json) : CliNode :=
  match value with
  | .obj _ => { kind := .object, origin := .literalContainer, scalar := value }
  | .arr _ => { kind := .array, origin := .literalContainer, scalar := value }
  | _ => { kind := .scalar, origin := .scalar, scalar := value }

/-- `assignPath`. -/
def assignPath (node : CliNode) (path : CliPath) (value : Json) : Except String CliNode :=
  match path with
  | [] =>
      if (node.kind = .object || node.kind = .array) && node.origin = .aggregated then
        .error "path conflict: container literal vs child path"
      else .ok (literalNode value)
  | .key key :: rest => do
      let node ← ensureObjectNode node true
      let child := (Lib.SortedMap.lookup key node.objectChildren).getD {}
      let child ← assignPath child rest value
      .ok { node with objectChildren := Lib.SortedMap.insertEntry key child node.objectChildren }
  | .index index :: rest => do
      let node ← ensureArrayNode node true
      if node.hasAppendWrites then .error "path conflict: append vs explicit index"
      else if index < 0 then .error "invalid array index"
      else
        let i := index.toNat
        let children := node.arrayChildren ++
          List.replicate (i + 1 - node.arrayChildren.length) ({} : CliNode)
        let child ← assignPath (children.getD i {}) rest value
        .ok { node with arrayChildren := children.set i child, hasExplicitIndexWrites := true }
  | .append :: rest =>
      if !rest.isEmpty then .error "append path must be terminal"
      else do
        let node ← ensureArrayNode node true
        if node.hasExplicitIndexWrites then .error "path conflict: append vs explicit index"
        else
          let child ← assignPath {} rest value
          .ok { node with arrayChildren := node.arrayChildren ++ [child], hasAppendWrites := true }

mutual

/-- `nodeToJson`. -/
def nodeToJson (node : CliNode) : Json :=
  match node with
  | { kind, origin, scalar, objectChildren, arrayChildren, .. } =>
    match kind with
    | .unset => .null
    | .scalar => scalar
    | .object =>
        match origin, scalar with
        | .literalContainer, .obj m => .obj m
        | _, _ => .obj (childrenToObject [] objectChildren)
    | .array =>
        match origin, scalar with
        | .literalContainer, .arr l => .arr l
        | _, _ => .arr (childrenToArray arrayChildren)

/-- The object of the children, one insertion after another. -/
def childrenToObject (obj : List (String × Json)) (children : List (String × CliNode)) :
    List (String × Json) :=
  match children with
  | [] => obj
  | (key, child) :: rest => childrenToObject (Json.insert obj key (nodeToJson child)) rest

def childrenToArray (children : List CliNode) : List Json :=
  match children with
  | [] => []
  | child :: rest => nodeToJson child :: childrenToArray rest

end

/-! ## §4. Reading and writing arguments -/

/-- The value of an argument in the given mode. -/
def parseValue (qt : JsonQt) (mode : CliValueMode) (text : String) : Except String Json :=
  match mode with
  | .canonical =>
      match parseJsonLiteral qt text with
      | none => .error "invalid canonical JSON literal"
      | some value => .ok value
  | .friendly => .ok (inferFriendlyValue qt text)

/-- The loop of `parseArgs`. -/
def assignArgs (qt : JsonQt) (mode : CliValueMode) (root : CliNode) :
    List RawCliArg → Except String CliNode
  | [] => .ok root
  | arg :: rest => do
      let path ← parsePath arg.path
      let value ← parseValue qt mode arg.rawValue
      let root ← assignPath root path value
      assignArgs qt mode root rest

/-- The node that `parseArgs` starts from. -/
def rootNode : CliNode := { kind := .object, origin := .aggregated }

/-- `JsonCliCodec::parseArgs`. -/
def parseArgs (qt : JsonQt) (args : List RawCliArg) (mode : CliValueMode) :
    Except String (List (String × Json)) := do
  let root ← assignArgs qt mode rootNode args
  .ok (nodeToJson root).toObject

/-- `--<path>=<literal>`, or with a space for the equals sign. -/
def renderArg (opts : CliRenderOptions) (path : CliPath) (literal : String) : String :=
  "--" ++ renderPath path ++ (if opts.useEquals then "=" else " ") ++ literal

mutual

/-- `renderValueRecursive`.  The keys of an object are in order already. -/
def renderValueRecursive (qt : JsonQt) (opts : CliRenderOptions) (pre : CliPath) (value : Json) :
    List String :=
  match value with
  | .obj m =>
      if m.isEmpty then [renderArg opts pre "\x7b\x7d"]
      else renderMembers qt opts pre m
  | .arr l =>
      if l.isEmpty then [renderArg opts pre "[]"]
      else renderItems qt opts pre 0 l
  | value => [renderArg opts pre (canonicalLiteral qt value)]

def renderMembers (qt : JsonQt) (opts : CliRenderOptions) (pre : CliPath)
    (members : List (String × Json)) : List String :=
  match members with
  | [] => []
  | (key, value) :: rest =>
      renderValueRecursive qt opts (pre ++ [.key key]) value ++ renderMembers qt opts pre rest

def renderItems (qt : JsonQt) (opts : CliRenderOptions) (pre : CliPath) (i : Nat)
    (items : List Json) : List String :=
  match items with
  | [] => []
  | value :: rest =>
      renderValueRecursive qt opts (pre ++ [.index i]) value ++ renderItems qt opts pre (i + 1) rest

end

/-- `JsonCliCodec::renderArgs`. -/
def renderArgs (qt : JsonQt) (data : List (String × Json)) (opts : CliRenderOptions) :
    List String :=
  renderMembers qt opts [] data

end Stdiolink.Cli
