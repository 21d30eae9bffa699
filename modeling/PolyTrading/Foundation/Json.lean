import Mathlib.Data.List.Basic
import PolyTrading.Foundation.Checked

/-!
# JSON values

A JSON value as a parser hands it on, and the selectors a program reads it with.  Each selector answers
`none` for a value of another kind.  A number is an integer or a binary fraction; a fraction is carried as
its bits, since no selector here looks inside it.
-/

namespace PolyTrading.Foundation

inductive JsonNumber where
  | integer (value : Int)
  | float (bits : UInt64)

inductive Json where
  | null
  | bool (value : Bool)
  | number (value : JsonNumber)
  | string (value : String)
  | array (items : List Json)
  | object (fields : List (String × Json))

abbrev JsonObject := List (String × Json)

def checkedU64 (v : Int) : Option Nat := if 0 ≤ v ∧ v < 2 ^ 64 then some v.toNat else none

theorem checkedU64_eq_some {v : Int} {n : Nat} : checkedU64 v = some n ↔ n < 2 ^ 64 ∧ v = n := by
  unfold checkedU64
  split
  · rename_i h
    rw [Option.some.injEq]
    omega
  · rename_i h
    constructor
    · intro hnone
      cases hnone
    · rintro ⟨hlt, rfl⟩
      exact absurd (by omega) h

namespace Json

def asObject : Json → Option JsonObject
  | object fields => some fields
  | _ => none

def asStr : Json → Option String
  | string value => some value
  | _ => none

def asBool : Json → Option Bool
  | bool value => some value
  | _ => none

def asI64 : Json → Option Int
  | number (.integer value) => checkedI64 value
  | _ => none

def asU64 : Json → Option Nat
  | number (.integer value) => checkedU64 value
  | _ => none

end Json

def JsonObject.get (o : JsonObject) (field : String) : Option Json := o.lookup field

def Json.get (json : Json) (field : String) : Option Json := json.asObject >>= fun o => o.get field

/-!
## Files of JSON lines

A file that holds one JSON text a line, and digests as hexadecimal text.
-/

def newline : UInt8 := 10

/-- The texts of JSON values, as compact writers make them and readers take them. -/
structure JsonCodec where
  toVec : Json → List UInt8
  fromSlice : List UInt8 → Option Json

def JsonCodec.jsonLines (codec : JsonCodec) (values : List Json) : List UInt8 :=
  values.flatMap fun value => codec.toVec value ++ [newline]

def hexDigit (n : Nat) : Char :=
  ['0', '1', '2', '3', '4', '5', '6', '7', '8', '9', 'a', 'b', 'c', 'd', 'e', 'f'].getD n '0'

def toHex (bytes : List UInt8) : String :=
  String.ofList (bytes.flatMap fun byte => [hexDigit (byte.toNat / 16), hexDigit (byte.toNat % 16)])

end PolyTrading.Foundation
