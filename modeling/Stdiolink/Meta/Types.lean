/-
  Stdiolink.Meta.Types — what a driver says of itself, `protocol/meta_types.h`.

  The records of a driver's metadata, down to the declarations of single fields.  An
  object field declares fields of its own, an array field the declaration of its items,
  so declarations are trees; `FieldMeta.ind` is the induction over them.
-/
import Stdiolink.Protocol.Json

namespace Stdiolink.Meta

open Stdiolink.Protocol

inductive FieldType where
  | string
  | int
  | int64
  | double
  | bool
  | object
  | array
  | enum
  | any
  deriving Repr, DecidableEq

/-- `UIHint`: how a field is shown. -/
structure UIHint where
  widget : String := ""
  group : String := ""
  order : Int := 0
  placeholder : String := ""
  advanced : Bool := false
  readonly : Bool := false
  visibleIf : String := ""
  unit : String := ""
  step : ℚ := 0
  deriving DecidableEq

/-- `Constraints`; an empty pattern or list of values is no constraint. -/
structure Constraints where
  min : Option ℚ := none
  max : Option ℚ := none
  minLength : Option Int := none
  maxLength : Option Int := none
  pattern : String := ""
  enumValues : List Json := []
  format : String := ""
  minItems : Option Int := none
  maxItems : Option Int := none

structure FieldMeta where
  name : String := ""
  type : FieldType := .any
  required : Bool := false
  defaultValue : Json := .null
  description : String := ""
  constraints : Constraints := {}
  ui : UIHint := {}
  fields : List FieldMeta := []
  items : Option FieldMeta := none
  requiredKeys : List String := []
  additionalProperties : Bool := true

structure EventMeta where
  name : String := ""
  description : String := ""
  fields : List FieldMeta := []

structure ReturnMeta where
  type : FieldType := .object
  description : String := ""
  fields : List FieldMeta := []

structure CommandMeta where
  name : String := ""
  description : String := ""
  title : String := ""
  summary : String := ""
  params : List FieldMeta := []
  returns : ReturnMeta := {}
  events : List EventMeta := []
  errors : List (List (String × Json)) := []
  examples : List (List (String × Json)) := []
  ui : UIHint := {}

/-- `ConfigApply`: how a config reaches the driver. -/
structure ConfigApply where
  method : String := ""
  envPrefix : String := ""
  command : String := ""
  fileName : String := ""
  deriving DecidableEq

structure ConfigSchema where
  fields : List FieldMeta := []
  apply : ConfigApply := {}

structure DriverInfo where
  id : String := ""
  name : String := ""
  version : String := ""
  description : String := ""
  vendor : String := ""
  entry : List (String × Json) := []
  capabilities : List String := []
  profiles : List String := []

/-- `DriverMeta`; the types are a hash, one declaration for each name. -/
structure DriverMeta where
  schemaVersion : String := "1.0"
  info : DriverInfo := {}
  config : ConfigSchema := {}
  commands : List CommandMeta := []
  types : Lib.SortedMap String FieldMeta := Lib.SortedMap.empty
  errors : List (List (String × Json)) := []
  examples : List (List (String × Json)) := []

namespace FieldMeta

/-- Induction on declarations: the nested fields and the items are smaller. -/
@[elab_as_elim]
theorem ind {P : FieldMeta → Prop}
    (field : ∀ field : FieldMeta, (∀ f ∈ field.fields, P f) →
      (∀ item, field.items = some item → P item) → P field) (field₀ : FieldMeta) : P field₀ := by
  refine @FieldMeta.rec P (fun fields => ∀ f ∈ fields, P f)
    (fun items => ∀ item, items = some item → P item) ?_ ?_ ?_ ?_ ?_ field₀
  · intro name type required defaultValue description constraints ui fields items requiredKeys
      additionalProperties hfields hitems
    exact field _ hfields hitems
  · intro f hf
    cases hf
  · intro head tail hhead htail f hf
    rcases List.mem_cons.mp hf with rfl | hf
    · exact hhead
    · exact htail f hf
  · intro item hitem
    cases hitem
  · intro item hitem item' heq
    obtain rfl := Option.some.inj heq
    exact hitem

/-- Induction on lists of declarations: the nested lists of the members are smaller. -/
theorem listInd {P : List FieldMeta → Prop}
    (fields : ∀ fields : List FieldMeta, (∀ f ∈ fields, P f.fields) → P fields)
    (fields₀ : List FieldMeta) : P fields₀ := by
  have hnested : ∀ f : FieldMeta, P f.fields := by
    intro f
    induction f using ind with
    | field f hfields hitems => exact fields f.fields hfields
  exact fields fields₀ fun f _ => hnested f

/-- An object field that declares fields of its own. -/
def isNested (field : FieldMeta) : Bool := field.type = .object && !field.fields.isEmpty

end FieldMeta

end Stdiolink.Meta
