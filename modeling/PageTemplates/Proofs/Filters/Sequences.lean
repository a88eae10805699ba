import Mathlib.Tactic.Common
import PageTemplates.Proofs.Filters.Calls

/-!
# Sequences

Arrays are sequences of their items, and texts of their characters (`Value.SequenceOf`). Paths and filters read the same
sequences: `.length` and `length` count the items, an index takes the item at its place, and `first`, `last` and `reverse` are the
ends and the reverse of the sequence. The last three do not see the characters of raw text. Main statement:
`BuiltIn.sequences_agree`.
-/

namespace PageTemplates

/-- The value is a sequence of the given items: of its items if it is an array, and of its characters as texts of their own if it
is a text. -/
inductive Value.SequenceOf : Value → List Value → Prop
  | array (items : List Value) : SequenceOf (.array items) items
  | string (s : String) : SequenceOf (.string s) (s.toList.map fun c => .ofChars [c])
  | raw (s : String) : SequenceOf (.raw s) (s.toList.map fun c => .ofChars [c])

variable {v key : Value} {items : List Value} {i : Nat}

namespace Value

/-! ## Paths -/

/-- The length of a sequence is the number of its items. -/
theorem SequenceOf.member_length (h : v.SequenceOf items) : v.member "length" = Collections.countValue items.length := by
  cases h with
  | array => rfl
  | string s => simp [member, Collections.countValue]
  | raw s => simp [member, Collections.countValue]

/-- The character at a place, as an item of the text. -/
theorem charAt_of_place (s : String) (hkey : key.place? = some i) :
    charAt s key = ((s.toList.map fun c => ofChars [c])[i]?).getD .null := by
  rw [charAt, hkey, Option.bind_some, List.getElem?_map]
  cases s.toList[i]? <;> rfl

/-- An index takes the item at the place that it means. -/
theorem SequenceOf.index (h : v.SequenceOf items) (hkey : key.place? = some i) : v.index key = (items[i]?).getD .null := by
  cases h with
  | array => rw [Value.index, hkey, Option.bind_some]
  | string s => exact charAt_of_place s hkey
  | raw s => exact charAt_of_place s hkey

/-- No character of raw text is null. -/
theorem SequenceOf.index_raw_ne_null (h : v.SequenceOf items) (hraw : v.kind = .raw) (hkey : key.place? = some i)
    (hi : i < items.length) : v.index key ≠ .null := by
  rw [h.index hkey, List.getElem?_eq_getElem hi, Option.getD_some]
  cases h with
  | array => cases hraw
  | string s => cases hraw
  | raw s =>
    rw [List.getElem_map]
    exact nofun

end Value

/-! ## Filters -/

namespace Collections

theorem length_of_sequence (surroundings : Surroundings) (args : List Value) (h : v.SequenceOf items) :
    length surroundings v args = .ok (countValue items.length) := by
  cases h with
  | array => rfl
  | string s => simp [length]
  | raw s => simp [length]

theorem charValue_eq (c : Option Char) : charValue c = (c.map fun c => Value.ofChars [c]).getD .null := by
  cases c <;> rfl

theorem first_of_sequence (h : v.SequenceOf items) (hraw : v.kind ≠ .raw) : first v = items.head?.getD .null := by
  cases h with
  | array => rfl
  | string s => rw [first, charValue_eq, List.head?_map]
  | raw s => exact absurd rfl hraw

theorem last_of_sequence (h : v.SequenceOf items) (hraw : v.kind ≠ .raw) : last v = items.getLast?.getD .null := by
  cases h with
  | array => rfl
  | string s => rw [last, charValue_eq, List.getLast?_map]
  | raw s => exact absurd rfl hraw

/-- Raw text has no ends for the filters. -/
theorem ends_of_raw (hraw : v.kind = .raw) : first v = .null ∧ last v = .null := by
  cases v with
  | raw s => exact ⟨rfl, rfl⟩
  | null | bool | int | float | string | array | object | expression => cases hraw

/-- What comes last comes first in the reverse order. -/
theorem first_reverse (v : Value) : first (reverse v) = last v := by
  cases v with
  | array items => rw [reverse, first, last, List.head?_reverse]
  | string s => rw [reverse, Value.ofChars, first, last, String.toList_ofList, List.head?_reverse]
  | null | bool | int | float | raw | object | expression => rfl

end Collections

namespace BuiltIn

variable (surroundings : Surroundings)

theorem call?_length (v : Value) : call? surroundings "length" v [] = some (Collections.length surroundings v []) := rfl

theorem call?_first (v : Value) : call? surroundings "first" v [] = some (.ok (Collections.first v)) := rfl

theorem call?_last (v : Value) : call? surroundings "last" v [] = some (.ok (Collections.last v)) := rfl

theorem call?_reverse (v : Value) : call? surroundings "reverse" v [] = some (.ok (Collections.reverse v)) := rfl

/-- **Sequences.** For an array, a string or raw text, the filter `length` gives what `.length` gives, and `last` gives what
`first` gives after `reverse`. For an array or a string, `first` is the item at the first place and `last` the one at the last
place, whatever value means this place as an index. For raw text both are null, which no index of a place in it gives. -/
theorem sequences_agree (h : v.SequenceOf items) :
    call? surroundings "length" v [] = some (.ok (v.member "length")) ∧
      (v.kind ≠ .raw →
        (∀ key, key.place? = some 0 → call? surroundings "first" v [] = some (.ok (v.index key))) ∧
          ∀ key, key.place? = some (items.length - 1) → call? surroundings "last" v [] = some (.ok (v.index key))) ∧
      (v.kind = .raw →
        call? surroundings "first" v [] = some (.ok .null) ∧ call? surroundings "last" v [] = some (.ok .null) ∧
          ∀ key i, key.place? = some i → i < items.length → v.index key ≠ .null) ∧
      ∃ reversed, call? surroundings "reverse" v [] = some (.ok reversed) ∧
        call? surroundings "first" reversed [] = call? surroundings "last" v [] := by
  refine ⟨?_, fun hraw => ⟨fun key hkey => ?_, fun key hkey => ?_⟩, fun hraw => ?_, Collections.reverse v, call?_reverse _ v, ?_⟩
  · rw [call?_length, Collections.length_of_sequence surroundings [] h, h.member_length]
  · rw [call?_first, Collections.first_of_sequence h hraw, h.index hkey, List.head?_eq_getElem?]
  · rw [call?_last, Collections.last_of_sequence h hraw, h.index hkey, List.getLast?_eq_getElem?]
  · obtain ⟨hfirst, hlast⟩ := Collections.ends_of_raw hraw
    rw [call?_first, call?_last, hfirst, hlast]
    exact ⟨rfl, rfl, fun key i hkey hi => h.index_raw_ne_null hraw hkey hi⟩
  · rw [call?_first, call?_last, Collections.first_reverse]

/-- A string with a character of two bytes, whose places are counted in characters, and the same text as raw text. -/
theorem sequences_agree_accented :
    (Value.string "né").SequenceOf [.string "n", .string "é"] ∧ (Value.raw "né").SequenceOf [.string "n", .string "é"] ∧
      (Value.string " 1 ").place? = some 1 ∧
      call? { settings := {}, now := "" } "length" (.string "né") [] = some (.ok (.int 2)) ∧
      call? { settings := {}, now := "" } "last" (.string "né") [] = some (.ok ((Value.string "né").index (.string " 1 "))) ∧
      (Value.raw "né").index (.string " 1 ") ≠ .null := by
  have hstring : (Value.string "né").SequenceOf [.string "n", .string "é"] := .string "né"
  have hraw : (Value.raw "né").SequenceOf [.string "n", .string "é"] := .raw "né"
  have hkey : (Value.string " 1 ").place? = some 1 := by
    rfl
  obtain ⟨hlength, hends, -, -⟩ := sequences_agree { settings := {}, now := "" } hstring
  obtain ⟨-, -, hchars, -⟩ := sequences_agree { settings := {}, now := "" } hraw
  exact ⟨hstring, hraw, hkey, hlength, (hends nofun).2 _ hkey, (hchars rfl).2.2 _ 1 hkey (by decide)⟩

/-- The filter `first` finds nothing in the raw text whose first character is an `a`. -/
theorem first_of_raw_null :
    (Value.raw "ab").SequenceOf [.string "a", .string "b"] ∧
      call? { settings := {}, now := "" } "first" (.raw "ab") [] = some (.ok .null) ∧
      (Value.raw "ab").index (.int 0) = .string "a" :=
  ⟨.raw "ab", rfl, rfl⟩

end BuiltIn

end PageTemplates
