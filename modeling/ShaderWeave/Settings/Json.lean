import ShaderWeave.Decimal.Shortest
import ShaderWeave.Json.Numeral
import ShaderWeave.Json.Reader
import ShaderWeave.Settings

/-! # Settings in JSON

A record is written as an object. It is read from an object, in which unknown members are skipped and a missing
one has its default, or from an array of its members in order, in which the last ones may be missing. A choice is
written as its name, and read from its name or from an object with its name and `null`.
-/

namespace ShaderWeave.Json

/-! ## Reading members -/

def Value.bool? : Value → Option Bool
  | .bool value => some value
  | _ => none

/-- A whole number that is not negative. -/
def Value.natural? : Value → Option Nat
  | .number numeral => (numeral.integer?.filter (0 ≤ ·)).map Int.toNat
  | _ => none

def Value.single? : Value → Option Single
  | .number numeral => numeral.single?
  | _ => none

/-- One of `choices`, by its name. -/
def Value.choice? {α : Type} (choices : List α) (name : α → String) : Value → Option α
  | .string (some text) => choices.find? fun choice => name choice == text
  | .object [(some text, .null)] => choices.find? fun choice => name choice == text
  | _ => none

/-- A member of a record: its name, and how its value is stored in the record. -/
structure RecordMember (ρ : Type) where
  name : String
  store? : Value → ρ → Option ρ

/-- Stores values in the fields in order; fields behind the last value keep what they have. -/
def storeInOrder? {ρ : Type} : List (RecordMember ρ) → List Value → ρ → Option ρ
  | _, [], record => some record
  | [], _ :: _, _ => none
  | field :: fields, value :: values, record => do
    storeInOrder? fields values (← field.store? value record)

/-- Stores the members of an object. A known member may appear once. -/
def storeMembers? {ρ : Type} (fields : List (RecordMember ρ)) (seen : List String) :
    List (Option String × Value) → ρ → Option ρ
  | [], record => some record
  | (key, value) :: members, record => do
    let key ← key
    match fields.find? fun field => field.name == key with
    | none => storeMembers? fields seen members record
    | some field =>
      if seen.contains key then none
      else storeMembers? fields (key :: seen) members (← field.store? value record)

def Value.record? {ρ : Type} (fields : List (RecordMember ρ)) (default : ρ) : Value → Option ρ
  | .array values => storeInOrder? fields values default
  | .object members => storeMembers? fields [] members default
  | _ => none

/-! ## Writing members -/

/-- Numbers are written positionally from 10^(-6) to below 10^13, and a whole number keeps a zero behind the
point. -/
def numberFormat : Decimal.Format where
  maxWhole := 13
  maxZeros := 5
  wholeEnd := ".0"
  positiveMark := "e+"
  negativeMark := "e-"
  zero := "0.0"

/-- A number that is not finite has no text in JSON. -/
def singleText (value : Single) : String :=
  if value.isFinite then numberFormat.text value else "null"

def boolText (value : Bool) : String := if value then "true" else "false"

/-- A name without characters that need escaping. -/
def nameText (name : String) : String := "\"" ++ name ++ "\""

def recordText (members : List (String × String)) : String :=
  "\x7b" ++ String.intercalate "," (members.map fun (name, text) => nameText name ++ ":" ++ text) ++ "\x7d"

end ShaderWeave.Json

namespace ShaderWeave

open Json

def ShadowFiltering.ofJson? : Value → Option ShadowFiltering := Value.choice? all name

def ShadowFiltering.toJson (filtering : ShadowFiltering) : String := nameText filtering.name

def DepthFormat.ofJson? : Value → Option DepthFormat := Value.choice? all name

def DepthFormat.toJson (format : DepthFormat) : String := nameText format.name

def LightType.ofJson? : Value → Option LightType := Value.choice? all name

def LightType.toJson (type : LightType) : String := nameText type.name

namespace LightModelSettings

def fields : List (RecordMember LightModelSettings) := [
  ⟨"max_shadows", fun value settings => value.natural?.map ({ settings with maxShadows := · })⟩,
  ⟨"shadow_filtering", fun value settings =>
    (ShadowFiltering.ofJson? value).map ({ settings with shadowFiltering := · })⟩,
  ⟨"ibl_shadowing", fun value settings => value.bool?.map ({ settings with iblShadowing := · })⟩,
  ⟨"kernel_rotation", fun value settings => value.single?.map ({ settings with kernelRotation := · })⟩]

def ofJson? : Value → Option LightModelSettings := Value.record? fields {}

def toJson (settings : LightModelSettings) : String :=
  recordText [
    ("max_shadows", toString settings.maxShadows),
    ("shadow_filtering", settings.shadowFiltering.toJson),
    ("ibl_shadowing", boolText settings.iblShadowing),
    ("kernel_rotation", singleText settings.kernelRotation)]

/-- Equality as numbers: a rotation that is not a number equals none. -/
def same (settings other : LightModelSettings) : Bool :=
  settings.maxShadows == other.maxShadows && settings.shadowFiltering == other.shadowFiltering &&
    settings.iblShadowing == other.iblShadowing && settings.kernelRotation.sameNumber other.kernelRotation

end LightModelSettings

namespace CacheSettings

def fields : List (RecordMember CacheSettings) := [
  ⟨"trace_sources", fun value settings => value.bool?.map ({ settings with traceSources := · })⟩]

def ofJson? : Value → Option CacheSettings := Value.record? fields {}

def toJson (settings : CacheSettings) : String :=
  recordText [("trace_sources", boolText settings.traceSources)]

end CacheSettings

end ShaderWeave
