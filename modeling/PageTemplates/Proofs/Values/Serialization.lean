import Mathlib.Tactic.Common
import PageTemplates.Proofs.Filters.IntegerOperands
import PageTemplates.Proofs.Filters.Provenance
import PageTemplates.Proofs.Text.Parts

/-!
# Values as JSON, three ways

A value is turned into JSON directly, or by telling a serializer its parts in order (`Value.serialize`); the two agree, for JSON
values and for their text, and reading the JSON value back gives the value as data (`Value.asData`): raw text has become a string,
and an expression, or a float that is not finite, null. Main statement: `Value.json_conversions`.
-/

namespace PageTemplates

/-! ## Floats -/

namespace Decimal

open Float.Model Float.Model.UnpackedFloat

/-- The exponent field of a float that is not finite is full. -/
theorem exponentField_of_not_finite {x : Float} (h : x.isFinite = false) :
    x.toBits.toNat / Nat.pow 2 fractionBits % Nat.pow 2 11 = 2047 := by
  have hunpack : (UnpackedFloat.unpack Format.binary64 x.toBits.toBitVec).isFinite = false := h
  simp only [UnpackedFloat.unpack] at hunpack
  split at hunpack
  · rename_i hfull
    have hfield := congrArg BitVec.toNat hfull
    simp [unpackExponent, BitVec.extractLsb_toNat, Nat.shiftRight_eq_div_pow] at hfield
    exact hfield
  · split at hunpack
    · split at hunpack <;> simp [UnpackedFloat.isFinite] at hunpack
    · simp [UnpackedFloat.isFinite] at hunpack

/-- A float that is not finite has no decimal text. -/
theorem scientific?_of_not_finite {x : Float} (h : x.isFinite = false) : scientific? x = none := by
  have hexact : Exact.ofFloat x = .infinite (x.toBits.toNat / Nat.pow 2 63 = 1) ∨ Exact.ofFloat x = .nan := by
    rw [Exact.ofFloat, if_pos (exponentField_of_not_finite h)]
    split
    · exact Or.inl rfl
    · exact Or.inr rfl
  rcases hexact with hexact | hexact <;> rw [scientific?, hexact]

end Decimal

/-! ## Tables -/

namespace Table

variable {α β γ : Type}

/-- The table with every value turned into something else. -/
def mapValues (f : α → β) (t : Table α) : Table β :=
  t.map fun (name, value) => (name, f value)

theorem names_mapValues (f : α → β) (t : Table α) : names (mapValues f t) = names t := by
  rw [names, mapValues, List.map_map]
  rfl

theorem mapValues_congr {f g : α → β} {t : Table α} (h : ∀ name value, (name, value) ∈ t → f value = g value) :
    mapValues f t = mapValues g t :=
  List.map_congr_left fun (name, value) hmem => congrArg (name, ·) (h name value hmem)

theorem mapValues_mapValues (g : β → γ) (f : α → β) (t : Table α) : mapValues g (mapValues f t) = mapValues (g ∘ f) t := by
  rw [mapValues, mapValues, List.map_map]
  rfl

/-- Entries with new keys come at the end of a table, in order. -/
theorem insertAll_of_nodup {t entries : Table α} (h : (names (t ++ entries)).Nodup) : insertAll t entries = t ++ entries := by
  induction entries generalizing t with
  | nil => exact (List.append_nil t).symm
  | cons entry entries ih =>
    have hnew : entry.1 ∉ names t := by
      intro hmem
      rw [names, List.map_append, List.map_cons] at h
      exact (List.nodup_append.1 h).2.2 _ hmem _ List.mem_cons_self rfl
    have hinsert : insert t entry.1 entry.2 = t ++ [entry] := insert_of_not_mem hnew entry.2
    rw [List.append_cons] at h ⊢
    rw [← ih h, ← hinsert]
    rfl

theorem ofList_of_nodup {entries : Table α} (h : (names entries).Nodup) : ofList entries = entries :=
  insertAll_of_nodup (t := []) h

end Table

namespace Value

/-! ## Parts in order -/

/-- A function that works through a list item by item maps the items. -/
theorem eq_map {α β : Type} {f : α → β} {F : List α → List β} (hnil : F [] = []) (hcons : ∀ a as, F (a :: as) = f a :: F as)
    (as : List α) : F as = as.map f := by
  induction as with
  | nil => exact hnil
  | cons a as ih => rw [hcons, ih, List.map_cons]

theorem toJson_array (items : List Value) : toJson (.array items) = .array (items.map toJson) :=
  congrArg Json.array (eq_map rfl (fun _ _ => rfl) items)

theorem toJson_object (fields : List (String × Value)) : toJson (.object fields) = .object (Table.mapValues toJson fields) :=
  congrArg Json.object (eq_map rfl (fun _ _ => rfl) fields)

theorem ofJson_array (items : List Json) : ofJson (.array items) = .array (items.map ofJson) :=
  congrArg Value.array (eq_map rfl (fun _ _ => rfl) items)

theorem ofJson_object (fields : List (String × Json)) : ofJson (.object fields) = .object (Table.mapValues ofJson fields) :=
  congrArg Value.object (eq_map rfl (fun _ _ => rfl) fields)

/-! ## Serializers -/

/-- What a serializer makes of what a value tells it. -/
structure Serializer (α : Type) where
  unit : α
  bool (b : Bool) : α
  integer (n : Int64) : α
  float (x : Float) : α
  text (s : String) : α
  sequence (parts : List α) : α
  mapping (entries : List (String × α)) : α

mutual

/-- What a serializer makes of a value, which tells it raw text as text and an expression as nothing. -/
def serialize {α : Type} (s : Serializer α) : Value → α
  | .null => s.unit
  | .bool b => s.bool b
  | .int n => s.integer n
  | .float x => s.float x
  | .string t => s.text t
  | .raw t => s.text t
  | .array items => s.sequence (serializeItems s items)
  | .object fields => s.mapping (serializeFields s fields)
  | .expression _ => s.unit

/-- What a serializer makes of the items of an array. -/
def serializeItems {α : Type} (s : Serializer α) : List Value → List α
  | [] => []
  | v :: vs => serialize s v :: serializeItems s vs

/-- What a serializer makes of the fields of an object. -/
def serializeFields {α : Type} (s : Serializer α) : List (String × Value) → List (String × α)
  | [] => []
  | (name, v) :: fields => (name, serialize s v) :: serializeFields s fields

end

/-- The serializer into JSON values. A mapping takes its entries one after the other, and one with a known name replaces the
value there. -/
def Serializer.json : Serializer Json where
  unit := .null
  bool := .bool
  integer n := .int n.toInt
  float x := if x.isFinite then .float x else .null
  text := .string
  sequence := .array
  mapping entries := .object (Table.ofList entries)

/-- The serializer into JSON text. -/
def Serializer.compact : Serializer (List Char) where
  unit := "null".toList
  bool b := (if b then "true" else "false").toList
  integer n := Decimal.integer n.toInt
  float := Json.floatText
  text := Json.quote
  sequence parts := '[' :: Text.joinWith [','] parts ++ [']']
  mapping entries := '\x7b' :: Text.joinWith [','] (entries.map fun (name, text) => Json.quote name ++ ':' :: text) ++ ['\x7d']

variable {α : Type} {v : Value}

theorem serialize_array (s : Serializer α) (items : List Value) :
    serialize s (.array items) = s.sequence (items.map (serialize s)) :=
  congrArg s.sequence (eq_map rfl (fun _ _ => rfl) items)

theorem serialize_object (s : Serializer α) (fields : List (String × Value)) :
    serialize s (.object fields) = s.mapping (Table.mapValues (serialize s) fields) :=
  congrArg s.mapping (eq_map rfl (fun _ _ => rfl) fields)

/-! ## JSON values -/

/-- Every object in the value is a table: it has each of its keys once. -/
def KeysOnce (v : Value) : Prop :=
  ∀ fields, (Value.object fields).Within v → (Table.names fields).Nodup

theorem KeysOnce.item {items : List Value} (h : (Value.array items).KeysOnce) (hmem : v ∈ items) : v.KeysOnce :=
  fun fields hwithin => h fields (.item hmem hwithin)

theorem KeysOnce.field {fields : List (String × Value)} {name : String} (h : (Value.object fields).KeysOnce)
    (hmem : (name, v) ∈ fields) : v.KeysOnce :=
  fun inner hwithin => h inner (.field hmem hwithin)

theorem keysOnce_array {items : List Value} : (Value.array items).KeysOnce ↔ ∀ v ∈ items, v.KeysOnce := by
  refine ⟨fun h v hmem => h.item hmem, fun h fields hwithin => ?_⟩
  cases hwithin with
  | item hmem hwithin => exact h _ hmem fields hwithin

theorem keysOnce_object {fields : List (String × Value)} :
    (Value.object fields).KeysOnce ↔ (Table.names fields).Nodup ∧ ∀ field ∈ fields, field.2.KeysOnce := by
  refine ⟨fun h => ⟨h fields .refl, fun _ hmem => h.field hmem⟩, fun ⟨hkeys, hfields⟩ inner hwithin => ?_⟩
  cases hwithin with
  | refl => exact hkeys
  | field hmem hwithin => exact hfields _ hmem inner hwithin

/-- What is no collection has no objects in it. -/
theorem keysOnce_of_single (hitems : v.items? = none) (hfields : v.fields? = none) : v.KeysOnce := by
  intro fields hwithin
  cases hwithin with
  | refl => cases hfields
  | item => cases hitems
  | field => cases hfields

/-- The serializer into JSON values makes the JSON value of a value. -/
theorem serialize_json (v : Value) (h : v.KeysOnce) : v.serialize .json = v.toJson := by
  induction v using nested_induction with
  | null | bool | int | float | string | raw | expression => rfl
  | array items ih =>
    rw [serialize_array, toJson_array, List.map_congr_left fun v hmem => ih v hmem (h.item hmem)]
    rfl
  | object fields ih =>
    have hfields : Table.mapValues (serialize .json) fields = Table.mapValues toJson fields :=
      Table.mapValues_congr fun name v hmem => ih name v hmem (h.field hmem)
    have hkeys : (Table.names (Table.mapValues toJson fields)).Nodup := by
      rw [Table.names_mapValues]
      exact h fields .refl
    rw [serialize_object, toJson_object, hfields]
    exact congrArg Json.object (Table.ofList_of_nodup hkeys)

/-! ## Values as data -/

mutual

/-- The value as data: raw text as a string, and null for an expression and for a float that is not finite. -/
def asData : Value → Value
  | .float x => if x.isFinite then .float x else .null
  | .raw s => .string s
  | .array items => .array (itemsAsData items)
  | .object fields => .object (fieldsAsData fields)
  | .expression _ => .null
  | .null => .null
  | .bool b => .bool b
  | .int n => .int n
  | .string s => .string s

/-- The items of an array as data. -/
def itemsAsData : List Value → List Value
  | [] => []
  | v :: vs => asData v :: itemsAsData vs

/-- The fields of an object as data, under their names. -/
def fieldsAsData : List (String × Value) → List (String × Value)
  | [] => []
  | (name, v) :: fields => (name, asData v) :: fieldsAsData fields

end

theorem asData_array (items : List Value) : asData (.array items) = .array (items.map asData) :=
  congrArg Value.array (eq_map rfl (fun _ _ => rfl) items)

theorem asData_object (fields : List (String × Value)) : asData (.object fields) = .object (Table.mapValues asData fields) :=
  congrArg Value.object (eq_map rfl (fun _ _ => rfl) fields)

/-- An integer that fits is read back as it is. -/
theorem ofInt_toInt (n : Int64) : ofInt n.toInt = .int n := by
  rw [ofInt, Decimal.int64?_eq_some_iff.2 rfl]

/-- The JSON value of a value is read back as the value as data. -/
theorem ofJson_toJson (v : Value) : ofJson v.toJson = v.asData := by
  induction v using nested_induction with
  | null | bool | string | raw | expression => rfl
  | int n => exact ofInt_toInt n
  | float x =>
    rw [toJson, asData]
    split <;> rfl
  | array items ih =>
    rw [toJson_array, ofJson_array, asData_array, List.map_map]
    exact congrArg Value.array (List.map_congr_left ih)
  | object fields ih =>
    rw [toJson_object, ofJson_object, asData_object, Table.mapValues_mapValues]
    exact congrArg Value.object (Table.mapValues_congr ih)

/-- A value and the value as data have the same JSON value. -/
theorem toJson_asData (v : Value) : v.asData.toJson = v.toJson := by
  induction v using nested_induction with
  | null | bool | int | string | raw | expression => rfl
  | float x =>
    rw [asData]
    split
    · rfl
    · rename_i hfinite
      rw [toJson, toJson, if_neg hfinite]
  | array items ih =>
    rw [asData_array, toJson_array, toJson_array, List.map_map]
    exact congrArg Json.array (List.map_congr_left ih)
  | object fields ih =>
    rw [asData_object, toJson_object, toJson_object, Table.mapValues_mapValues]
    exact congrArg Json.object (Table.mapValues_congr ih)

/-- Nothing in the value is raw text, an expression, or a float that is not finite. -/
def IsData (v : Value) : Prop :=
  ∀ u : Value, u.Within v → u.kind ≠ .raw ∧ u.kind ≠ .expression ∧ ∀ x, u = .float x → x.isFinite = true

/-- A value without lossy parts is itself as data. -/
theorem asData_of_isData (v : Value) (h : v.IsData) : v.asData = v := by
  induction v using nested_induction with
  | null | bool | int | string => rfl
  | float x => rw [asData, if_pos ((h _ .refl).2.2 x rfl)]
  | raw s => exact absurd rfl (h _ .refl).1
  | expression e => exact absurd rfl (h _ .refl).2.1
  | array items ih =>
    have hitems : items.map asData = items.map id :=
      List.map_congr_left fun v hmem => ih v hmem fun u hwithin => h u (.item hmem hwithin)
    rw [asData_array, hitems, List.map_id]
  | object fields ih =>
    have hfields : Table.mapValues asData fields = Table.mapValues id fields :=
      Table.mapValues_congr fun name v hmem => ih name v hmem fun u hwithin => h u (.field hmem hwithin)
    rw [asData_object, hfields]
    exact congrArg Value.object (List.map_id fields)

theorem isData_asData (v : Value) : v.asData.IsData := by
  induction v using nested_induction with
  | null | bool | int | string | raw | expression =>
    intro u hwithin
    cases hwithin
    exact ⟨nofun, nofun, nofun⟩
  | float x =>
    intro u hwithin
    rw [asData] at hwithin
    split at hwithin
    · rename_i hfinite
      cases hwithin
      exact ⟨nofun, nofun, fun y hy => Value.float.inj hy ▸ hfinite⟩
    · cases hwithin
      exact ⟨nofun, nofun, nofun⟩
  | array items ih =>
    intro u hwithin
    rw [asData_array] at hwithin
    cases hwithin with
    | refl => exact ⟨nofun, nofun, nofun⟩
    | item hmem hwithin =>
      obtain ⟨v, hv, rfl⟩ := List.mem_map.1 hmem
      exact ih v hv u hwithin
  | object fields ih =>
    intro u hwithin
    rw [asData_object] at hwithin
    cases hwithin with
    | refl => exact ⟨nofun, nofun, nofun⟩
    | field hmem hwithin =>
      obtain ⟨⟨name, v⟩, hv, hfield⟩ := List.mem_map.1 hmem
      obtain ⟨rfl, rfl⟩ := Prod.mk.inj hfield
      exact ih name v hv u hwithin

/-! ## JSON texts -/

/-- A function that puts commas between the texts of items joins these texts. -/
theorem eq_joinWith {β : Type} {f : β → List Char} {F : List β → List Char} (hnil : F [] = []) (hone : ∀ a, F [a] = f a)
    (hmore : ∀ a b as, F (a :: b :: as) = f a ++ ',' :: F (b :: as)) (as : List β) :
    F as = Text.joinWith [','] (as.map f) := by
  induction as with
  | nil => exact hnil
  | cons a as ih =>
    cases as with
    | nil => simp [hone, Text.joinWith]
    | cons b as =>
      have hjoin : Text.joinWith [','] (f a :: (b :: as).map f) = f a ++ ([','] ++ Text.joinWith [','] ((b :: as).map f)) :=
        Text.joinWith_cons (List.cons_ne_nil _ _)
      rw [hmore, ih]
      exact hjoin.symm

theorem compact_array (items : List Json) :
    Json.compact (.array items) = Serializer.compact.sequence (items.map Json.compact) :=
  congrArg (fun text => '[' :: text ++ [']']) (eq_joinWith rfl (fun _ => rfl) (fun _ _ _ => rfl) items)

theorem compact_object (fields : List (String × Json)) :
    Json.compact (.object fields) = Serializer.compact.mapping (Table.mapValues Json.compact fields) := by
  refine congrArg (fun text => '\x7b' :: text ++ ['\x7d']) ?_
  rw [Table.mapValues, List.map_map]
  exact eq_joinWith rfl (fun _ => rfl) (fun _ _ _ => rfl) fields

theorem writeJson_array (items : List Value) :
    writeJson (.array items) = Serializer.compact.sequence (items.map writeJson) :=
  congrArg (fun text => '[' :: text ++ [']']) (eq_joinWith rfl (fun _ => rfl) (fun _ _ _ => rfl) items)

theorem writeJson_object (fields : List (String × Value)) :
    writeJson (.object fields) = Serializer.compact.mapping (Table.mapValues writeJson fields) := by
  refine congrArg (fun text => '\x7b' :: text ++ ['\x7d']) ?_
  rw [Table.mapValues, List.map_map]
  exact eq_joinWith rfl (fun _ => rfl) (fun _ _ _ => rfl) fields

/-- The text that is written in one pass is what the serializer into JSON text makes. -/
theorem serialize_compact (v : Value) : v.serialize .compact = v.writeJson := by
  induction v using nested_induction with
  | null | bool | int | float | string | raw | expression => rfl
  | array items ih => rw [serialize_array, writeJson_array, List.map_congr_left ih]
  | object fields ih => rw [serialize_object, writeJson_object, Table.mapValues_congr ih]

/-- The text that is written in one pass is the text of the JSON value. -/
theorem writeJson_eq (v : Value) : v.writeJson = v.toJson.compact := by
  induction v using nested_induction with
  | null | bool | int | string | raw | expression => rfl
  | float x =>
    rw [writeJson, toJson]
    split
    · rfl
    · rename_i hfinite
      rw [Json.floatText, Decimal.scientific?_of_not_finite (Bool.eq_false_iff.2 hfinite)]
      rfl
  | array items ih => rw [writeJson_array, toJson_array, compact_array, List.map_map, List.map_congr_left ih]; rfl
  | object fields ih =>
    rw [writeJson_object, toJson_object, compact_object, Table.mapValues_mapValues, Table.mapValues_congr ih]
    rfl

/-- **JSON.** A serializer into JSON values makes of a value, whose objects have each of their keys once, the JSON value of the
value, and the text written in one pass is the text of that JSON value. Read back, it is the value as data, in which nothing is
raw text, an expression or a float that is not finite; a value in which nothing is comes back unchanged. So what was converted
once is not changed by another conversion. -/
theorem json_conversions (v : Value) :
    (v.KeysOnce → v.serialize .json = v.toJson) ∧ v.serialize .compact = v.toJson.compact ∧
      ofJson v.toJson = v.asData ∧ v.asData.IsData ∧ (v.IsData → v.asData = v) ∧
      (ofJson v.toJson).toJson = v.toJson ∧ ofJson (ofJson v.toJson).toJson = ofJson v.toJson := by
  refine ⟨serialize_json v, (serialize_compact v).trans (writeJson_eq v), ofJson_toJson v, isData_asData v, asData_of_isData v,
    ?_, ?_⟩
  · rw [ofJson_toJson, toJson_asData]
  · rw [ofJson_toJson, ofJson_toJson, asData_of_isData _ (isData_asData v)]

/-- The least integer, a float that is not a number, and raw text, in fields that are not in the order of their names. -/
theorem json_conversions_nested :
    (Value.object [("b", .array [.int Int64.minValue, .float (0.0 / 0.0)]), ("a", .raw "<")]).KeysOnce ∧
      (Value.object [("b", .array [.int Int64.minValue, .float (0.0 / 0.0)]), ("a", .raw "<")]).serialize .json =
        .object [("b", .array [.int (-9223372036854775808), .null]), ("a", .string "<")] ∧
      ofJson (.object [("b", .array [.int (-9223372036854775808), .null]), ("a", .string "<")]) =
        .object [("b", .array [.int Int64.minValue, .null]), ("a", .string "<")] := by
  have hitem : ∀ v ∈ [.int Int64.minValue, .float (0.0 / 0.0)], KeysOnce v := by
    simp only [List.forall_mem_cons]
    exact ⟨keysOnce_of_single rfl rfl, keysOnce_of_single rfl rfl, nofun⟩
  have hkeys : (Value.object [("b", .array [.int Int64.minValue, .float (0.0 / 0.0)]), ("a", .raw "<")]).KeysOnce := by
    refine keysOnce_object.2 ⟨by decide, ?_⟩
    simp only [List.forall_mem_cons]
    exact ⟨keysOnce_array.2 hitem, keysOnce_of_single rfl rfl, nofun⟩
  have hjson : (Value.object [("b", .array [.int Int64.minValue, .float (0.0 / 0.0)]), ("a", .raw "<")]).toJson =
      .object [("b", .array [.int (-9223372036854775808), .null]), ("a", .string "<")] := by
    rfl
  obtain ⟨hserialize, -, hread, -⟩ :=
    json_conversions (.object [("b", .array [.int Int64.minValue, .float (0.0 / 0.0)]), ("a", .raw "<")])
  rw [hjson] at hread
  exact ⟨hkeys, (hserialize hkeys).trans hjson, hread⟩

end Value

end PageTemplates
