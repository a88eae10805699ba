import PageTemplates.Proofs.Filters.Sequences
import PageTemplates.Proofs.Text.Parts

/-!
# Filters that take values apart

Main statement: what `split`, `substring`, `take` and `skip` take apart can be put together again, and `reverse` undoes itself
(`BuiltIn.splitting_lossless`).
-/

namespace PageTemplates

variable {v arg n : Value} {args : List Value} {k : Nat}

namespace Texts

/-- A split value is the array of the parts of its text. -/
theorem split_of_text {separator : String} (surroundings : Surroundings) (v : Value) (h : arg.text? = some separator) :
    split surroundings v [arg] = .ok (.array ((Text.splitOn separator.toList v.display.toList).map Value.ofChars)) := by
  have harg : Argument.text "split" [arg] 0 = .ok separator := Argument.text_of_text? rfl h
  unfold split
  rw [harg]
  rfl

theorem join_of_text {separator : String} (surroundings : Surroundings) (v : Value) (h : arg.text? = some separator) :
    join surroundings v [arg] = .ok (joined separator.toList v) := by
  have harg : Argument.text "join" [arg] 0 = .ok separator := Argument.text_of_text? rfl h
  unfold join
  rw [harg]
  rfl

/-- An array of texts is joined to the text of its joined parts. -/
theorem joined_ofChars (separator : List Char) (parts : List (List Char)) :
    joined separator (.array (parts.map Value.ofChars)) = .ofChars (Text.joinWith separator parts) := by
  have hchars : (parts.map Value.ofChars).map (·.display.toList) = parts := by
    rw [List.map_map]
    exact List.map_id'' (fun part => String.toList_ofList) parts
  rw [joined, hchars]

theorem substringFrom_of_place (surroundings : Surroundings) (v : Value) (h : n.place? = some k) :
    substringFrom surroundings v [n] = .ok (.ofChars (v.display.toList.drop k)) := by
  have hcount : Argument.count "substring" [n] 0 = .ok k := Argument.count_of_place rfl h
  unfold substringFrom
  rw [hcount]
  rfl

theorem substring_of_places {start : Value} {i : Nat} (surroundings : Surroundings) (v : Value) (hstart : start.place? = some i)
    (h : n.place? = some k) :
    substring surroundings v [start, n] = .ok (.ofChars ((v.display.toList.drop i).take k)) := by
  have hfirst : Argument.count "substring" [start, n] 0 = .ok i := Argument.count_of_place rfl hstart
  have hsecond : Argument.count "substring" [start, n] 1 = .ok k := Argument.count_of_place rfl h
  unfold substring
  rw [hfirst, hsecond]
  rfl

end Texts

namespace Collections

theorem take_of_place (surroundings : Surroundings) (items : List Value) (h : n.place? = some k) :
    take surroundings (.array items) [n] = .ok (.array (items.take k)) := by
  have hcount : Argument.count "take" [n] 0 = .ok k := Argument.count_of_place rfl h
  unfold take
  rw [hcount]
  rfl

theorem skip_of_place (surroundings : Surroundings) (items : List Value) (h : n.place? = some k) :
    skip surroundings (.array items) [n] = .ok (.array (items.drop k)) := by
  have hcount : Argument.count "skip" [n] 0 = .ok k := Argument.count_of_place rfl h
  unfold skip
  rw [hcount]
  rfl

/-- The reverse order of the reverse order is the order. -/
theorem reverse_reverse (v : Value) : reverse (reverse v) = v := by
  cases v with
  | array items => rw [reverse, reverse, List.reverse_reverse]
  | string s =>
    rw [reverse, Value.ofChars, reverse, Value.ofChars, String.toList_ofList, List.reverse_reverse, String.ofList_toList]
  | null | bool | int | float | raw | object | expression => rfl

end Collections

namespace BuiltIn

variable (surroundings : Surroundings)

/-- **Taking apart.** The text of a value, which for a string is the string, is split at a text into parts without that text in
them, and joining the parts with it gives the text back. Cut at a place, the text and an array come in two pieces that follow each
other, the first of which has as many characters or items as the place says, or all. A value reversed twice is the value. -/
theorem splitting_lossless :
    (∀ v p separator, p.text? = some separator →
      ∃ parts : List (List Char), call? surroundings "split" v [p] = some (.ok (.array (parts.map .ofChars))) ∧
        (separator ≠ "" → ∀ part ∈ parts, ¬separator.toList <:+: part) ∧
        call? surroundings "join" (.array (parts.map .ofChars)) [p] = some (.ok (.string v.display))) ∧
    (∀ v zero n k, zero.place? = some 0 → n.place? = some k →
      ∃ before after : String, call? surroundings "substring" v [zero, n] = some (.ok (.string before)) ∧
        call? surroundings "substring" v [n] = some (.ok (.string after)) ∧
        before ++ after = v.display ∧ before.length = min k v.display.length) ∧
    (∀ items n k, n.place? = some k →
      ∃ before after, call? surroundings "take" (.array items) [n] = some (.ok (.array before)) ∧
        call? surroundings "skip" (.array items) [n] = some (.ok (.array after)) ∧
        before ++ after = items ∧ before.length = min k items.length) ∧
    ∀ v, ∃ reversed, call? surroundings "reverse" v [] = some (.ok reversed) ∧
      call? surroundings "reverse" reversed [] = some (.ok v) := by
  refine ⟨fun v p separator hp => ?_, fun v zero n k hzero hn => ?_, fun items n k hn => ?_, fun v => ?_⟩
  · refine ⟨Text.splitOn separator.toList v.display.toList, congrArg some (Texts.split_of_text surroundings v hp), ?_, ?_⟩
    · intro hne part hpart
      exact Text.not_infix_of_mem_splitOn (fun hnil => hne (String.toList_eq_nil_iff.1 hnil)) hpart
    · refine congrArg some ((Texts.join_of_text surroundings _ hp).trans ?_)
      rw [Texts.joined_ofChars, Text.joinWith_splitOn, Value.ofChars, String.ofList_toList]
  · refine ⟨String.ofList (v.display.toList.take k), String.ofList (v.display.toList.drop k),
      congrArg some (Texts.substring_of_places surroundings v hzero hn),
      congrArg some (Texts.substringFrom_of_place surroundings v hn), ?_, ?_⟩
    · rw [← String.ofList_append, List.take_append_drop, String.ofList_toList]
    · rw [String.length_ofList, List.length_take, String.length_toList]
  · exact ⟨items.take k, items.drop k, congrArg some (Collections.take_of_place surroundings items hn),
      congrArg some (Collections.skip_of_place surroundings items hn), List.take_append_drop k items, List.length_take⟩
  · refine ⟨Collections.reverse v, call?_reverse surroundings v, ?_⟩
    rw [call?_reverse, Collections.reverse_reverse]

/-- Separators that overlap, a text for a number, and a truth value for one. -/
theorem splitting_lossless_overlapping :
    (Value.raw "aa").text? = some "aa" ∧ (Value.float 0.0).place? = some 0 ∧ (Value.string " 1 ").place? = some 1 ∧
      (Value.bool true).place? = some 1 ∧
      (∃ parts : List (List Char),
        call? { settings := {}, now := "" } "split" (.string "aaa") [.raw "aa"] = some (.ok (.array (parts.map .ofChars))) ∧
          call? { settings := {}, now := "" } "join" (.array (parts.map .ofChars)) [.raw "aa"] = some (.ok (.string "aaa"))) ∧
      (∃ before after : String,
        call? { settings := {}, now := "" } "substring" (.string "né") [.float 0.0, .string " 1 "] =
            some (.ok (.string before)) ∧
          call? { settings := {}, now := "" } "substring" (.string "né") [.string " 1 "] = some (.ok (.string after)) ∧
          before ++ after = "né") ∧
      ∃ before after, call? { settings := {}, now := "" } "take" (.array [.null, .int 2]) [.bool true] =
            some (.ok (.array before)) ∧
          call? { settings := {}, now := "" } "skip" (.array [.null, .int 2]) [.bool true] = some (.ok (.array after)) ∧
          before ++ after = [.null, .int 2] := by
  have htext : (Value.raw "aa").text? = some "aa" := rfl
  have hzero : (Value.float 0.0).place? = some 0 := by
    decide +kernel
  have hone : (Value.string " 1 ").place? = some 1 := by
    rfl
  have htrue : (Value.bool true).place? = some 1 := rfl
  obtain ⟨hsplit, hsubstring, htake, -⟩ := splitting_lossless { settings := {}, now := "" }
  obtain ⟨parts, hparts, -, hjoin⟩ := hsplit (.string "aaa") _ _ htext
  obtain ⟨before, after, hbefore, hafter, happend, -⟩ := hsubstring (.string "né") _ _ _ hzero hone
  obtain ⟨first, rest, hfirst, hrest, hitems, -⟩ := htake [.null, .int 2] _ _ htrue
  exact ⟨htext, hzero, hone, htrue, ⟨parts, hparts, hjoin⟩, ⟨before, after, hbefore, hafter, happend⟩,
    first, rest, hfirst, hrest, hitems⟩

end BuiltIn

end PageTemplates
