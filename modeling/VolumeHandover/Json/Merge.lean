import VolumeHandover.Json.Value

set_option autoImplicit false

/-! # Merge patches

`target.merge patch` applies a JSON merge patch. A patch that is no object replaces the
target. An object patch goes field by field: `null` removes the field, anything else is merged
into what the field holds, where a missing field and a target that is no object count as
empty.
-/

namespace VolumeHandover

mutual

/-- Apply a merge patch. -/
def Json.merge (target : Json) : Json → Json
  | .object patch => .object (mergeFields target.fields patch)
  | patch => patch
termination_by structural patch => patch

/-- Apply the fields of an object patch from left to right. -/
def mergeFields (fields : List (String × Json)) :
    List (String × Json) → List (String × Json)
  | [] => fields
  | field :: patch => mergeFields (mergeField fields field) patch
termination_by structural patch => patch

def mergeField (fields : List (String × Json)) : String × Json → List (String × Json)
  | (key, .null) => dropEntry key fields
  | (key, value) => putEntry key (((valueAt? key fields).getD .null).merge value) fields
termination_by structural field => field

end

end VolumeHandover
