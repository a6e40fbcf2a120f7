import CardEffects.Json
import CardEffects.Text.Numeral

/-!
# Integers as JSON

Integers of a fixed width are written as JSON integers and read back exactly. An integer out of
range is not read, and neither is a number with a fraction or an exponent, whatever its value.
-/

namespace CardEffects

instance : JsonCodec Int64 where
  toJson value := .int value.toInt
  ofJson?
    | .int value => Numeral.toInt64? value
    | _ => none

instance : JsonCodec UInt32 where
  toJson value := .int value.toNat
  ofJson?
    | .int value => Numeral.toUInt32? value
    | _ => none

instance : JsonCodec UInt8 where
  toJson value := .int value.toNat
  ofJson?
    | .int value => Numeral.toUInt8? value
    | _ => none

end CardEffects
