import RackTraffic.Json.Reading

/-!
# Looking at JSON values

What a program wants from a JSON text is a record of numbers. Each of these is taken from a value by
a function that gives nothing if the value has another form.

A record may be written as an object with a member for each of its fields or as an array of its
fields in order. A field may not occur twice, and members that are no fields are ignored. Fields
that are left out are for the kind of record to allow or to refuse.
-/

namespace RackTraffic.JsonValue

/-- An unsigned word, which must be written as an integer without a sign. -/
def word? : JsonValue → Option UInt64
  | .number n =>
    let v := Decimal.digitsValue n.whole
    if !n.negative && n.fraction.isEmpty && n.exponent.isNone && v < UInt64.size then
      some (UInt64.ofNat v)
    else none
  | _ => none

def memberValues (members : List (String × JsonValue)) :
    List String → Option (List (Option JsonValue))
  | [] => some []
  | name :: names => do
    let found := members.filterMap fun (key, v) => if key = name then some v else none
    let rest ← memberValues members names
    match found with
    | [] => some (none :: rest)
    | [v] => some (some v :: rest)
    | _ => none

/-- The values of an array as fields; fields at the end may be missing. -/
def elementValues : List JsonValue → List String → Option (List (Option JsonValue))
  | [], names => some (names.map fun _ => none)
  | _ :: _, [] => none
  | v :: vs, _ :: names => (elementValues vs names).map (some v :: ·)

/-- The members of an object, if every key is a string. -/
def namedMembers (members : List (Option String × JsonValue)) :
    Option (List (String × JsonValue)) :=
  members.mapM fun (key, v) => key.map fun k => (k, v)

/-- The values of the fields of a record, in the order of `names`. -/
def fieldValues (names : List String) : JsonValue → Option (List (Option JsonValue))
  | .array vs => elementValues vs names
  | .object members => do memberValues (← namedMembers members) names
  | _ => none

end RackTraffic.JsonValue
