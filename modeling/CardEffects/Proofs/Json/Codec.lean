import CardEffects.Json.Integer
import CardEffects.Proofs.Text.Numeral

/-!
# Values that are read back from JSON

The law of a JSON codec, and its instances for booleans, texts, keywords, integers and lists. A
structure gets its own from the look-ups of its members, one member at a time.

* `LawfulJsonCodec`: what a value is written as is read as that value, and is not null.
* `JsonMembers.required_cons_self`, `JsonMembers.optional_cons_self`: a member that stands first is
  read back, also where it is the null of a value that is absent.
* `JsonMembers.required_cons_of_ne`, `JsonMembers.optional_cons_of_ne`: a member with another key is
  passed over.
-/

namespace CardEffects

open JsonCodec

/-- A type whose values are read back from the JSON values that they are written as. None of them is
written as null, which stands for the absence of a value. -/
class LawfulJsonCodec (α : Type) [JsonCodec α] : Prop where
  /-- What a value is written as is read as that value. -/
  ofJson?_toJson (a : α) : ofJson? (toJson a) = some a
  /-- No value is written as null. -/
  toJson_ne_null (a : α) : toJson a ≠ .null

export LawfulJsonCodec (ofJson?_toJson toJson_ne_null)

/-- What a part of a value is written as is read, and the value made of it again. -/
theorem map_ofJson?_toJson {α β : Type} [JsonCodec α] [LawfulJsonCodec α] (a : α) (f : α → β) :
    (ofJson? (toJson a)).map f = some (f a) := by
  rw [ofJson?_toJson, Option.map_some]

/-! ## Booleans, texts, keywords, integers and lists -/

instance : LawfulJsonCodec Bool where
  ofJson?_toJson _ := rfl
  toJson_ne_null _ := nofun

instance : LawfulJsonCodec String where
  ofJson?_toJson _ := rfl
  toJson_ne_null _ := nofun

instance {α : Type} [Keyword α] : LawfulJsonCodec α where
  ofJson?_toJson keyword := Keyword.ofWord?_word keyword
  toJson_ne_null _ := nofun

instance : LawfulJsonCodec Int64 where
  ofJson?_toJson := Numeral.toInt64?_toInt
  toJson_ne_null _ := nofun

instance : LawfulJsonCodec UInt32 where
  ofJson?_toJson := Numeral.toUInt32?_toNat
  toJson_ne_null _ := nofun

instance : LawfulJsonCodec UInt8 where
  ofJson?_toJson := Numeral.toUInt8?_toNat
  toJson_ne_null _ := nofun

instance {α : Type} [JsonCodec α] [LawfulJsonCodec α] : LawfulJsonCodec (List α) where
  ofJson?_toJson items := by
    -- An item that is written and read again is as if nothing had been done to it.
    have hread : (ofJson? ∘ toJson : α → Option α) = pure := funext ofJson?_toJson
    calc (items.map toJson).mapM ofJson?
        = items.mapM (pure : α → Option α) := by rw [List.mapM_map, hread]
      _ = some items := by rw [List.mapM_pure, List.map_id']; rfl
  toJson_ne_null _ := nofun

/-! ## Members of an object -/

namespace JsonMembers

variable {α : Type} [JsonCodec α] {members : JsonMembers} {key key' : String} {json : Json}

theorem lookup_cons_of_ne (h : key ≠ key') :
    List.lookup key ((key', json) :: members) = members.lookup key := by
  rw [List.lookup_cons, beq_eq_false_iff_ne.2 h]

/-- A required member is read back where it stands in front. -/
@[simp]
theorem required_cons_self [LawfulJsonCodec α] (a : α) :
    required ((key, toJson a) :: members) key = some a := by
  rw [required, List.lookup_cons_self, Option.bind_some, ofJson?_toJson]

@[simp]
theorem required_cons_of_ne (h : key ≠ key') :
    (required ((key', json) :: members) key : Option α) = required members key := by
  rw [required, lookup_cons_of_ne h, required]

@[simp]
theorem optional_cons_some [LawfulJsonCodec α] (a : α) :
    optional ((key, toJson a) :: members) key = some (some a) := by
  rw [optional, List.lookup_cons_self]
  -- The member is there, and it is not null, so it is read as that of a value.
  split
  · next h => cases h
  · next h => exact absurd (Option.some.inj h) (toJson_ne_null a)
  · next h => rw [← Option.some.inj h, map_ofJson?_toJson]

/-- An optional member that is written whether or not it has a value is read back as it is. -/
@[simp]
theorem optional_cons_self [LawfulJsonCodec α] (a : Option α) :
    optional ((key, toJson a) :: members) key = some a := by
  cases a with
  | none => rw [optional, List.lookup_cons_self]; rfl
  | some a => exact optional_cons_some a

@[simp]
theorem optional_cons_of_ne (h : key ≠ key') :
    (optional ((key', json) :: members) key : Option (Option α)) = optional members key := by
  rw [optional, lookup_cons_of_ne h, optional]

@[simp]
theorem optional_nil : (optional [] key : Option (Option α)) = some none := rfl

end JsonMembers

end CardEffects
