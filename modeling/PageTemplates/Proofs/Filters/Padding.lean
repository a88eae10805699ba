import PageTemplates.Proofs.Filters.Calls
import PageTemplates.Proofs.Text.Widths

/-!
# Padding

A text that is narrower than the wanted width gets as many fill characters as columns are missing. So a fill character of one
column brings it to the width, and a wider one takes it past the width. Main statement: `BuiltIn.padding_width`.
-/

namespace PageTemplates

open Text (width)

namespace Texts

variable {side : Side} {fill : Char} {cs : List Char} {w : Nat}

/-- The filter that pads on a side. -/
def Side.filterName : Side → String
  | .left => "padLeft"
  | .right => "padRight"

/-- The text ends with the other one if that is padded on the left, and starts with it if that is padded on the right. -/
def Side.Keeps (side : Side) (cs out : List Char) : Prop :=
  match side with
  | .left => cs <:+ out
  | .right => cs <+: out

/-- The widths of fill characters and text add up, however many fill characters stand beside the text. -/
def Side.Adds (side : Side) (fill : Char) (cs : List Char) : Prop :=
  ∀ n, width (side.attach (List.replicate n fill) cs) = n * width [fill] + width cs

theorem Side.keeps_attach (side : Side) (padding cs : List Char) : side.Keeps cs (side.attach padding cs) := by
  cases side with
  | left => exact List.suffix_append padding cs
  | right => exact List.prefix_append cs padding

/-- Fill characters that never combine add up beside any text. -/
theorem Side.adds_of_solid (h : Text.Width.Solid fill) (side : Side) (cs : List Char) : side.Adds fill cs := by
  intro n
  rw [Text.width_singleton h]
  cases side with
  | left => exact Text.width_replicate_append h n cs
  | right => exact Text.width_append_replicate h n cs

theorem width_padded (h : side.Adds fill cs) (w : Nat) :
    width (padded side fill w cs) = width cs + (w - width cs) * width [fill] := by
  rw [padded, h, Nat.add_comm]

/-- Padding stays within the wanted width, or the text's own, just if the fill character is at most one column wide or there is
nothing to fill. -/
theorem width_padded_le_iff (h : side.Adds fill cs) :
    width (padded side fill w cs) ≤ max w (width cs) ↔ width [fill] ≤ 1 ∨ w ≤ width cs := by
  rw [width_padded h]
  rcases Nat.le_total w (width cs) with hle | hle
  · rw [Nat.sub_eq_zero_of_le hle, Nat.zero_mul]
    simp [hle]
  · obtain ⟨missing, rfl⟩ := Nat.exists_eq_add_of_le hle
    rw [Nat.max_eq_left hle, Nat.add_sub_cancel_left, Nat.add_le_add_iff_left]
    cases missing with
    | zero => simp
    | succ missing =>
      have hone : (missing + 1) * width [fill] ≤ (missing + 1) * 1 ↔ width [fill] ≤ 1 :=
        Nat.mul_le_mul_left_iff (Nat.succ_pos missing)
      rw [Nat.mul_one] at hone
      rw [hone]
      exact (or_iff_left (Nat.not_le_of_lt (Nat.lt_add_of_pos_right (Nat.succ_pos missing)))).symm

theorem width_padded_of_one (h : side.Adds fill cs) (hfill : width [fill] = 1) :
    width (padded side fill w cs) = max w (width cs) := by
  rw [width_padded h, hfill]
  omega

/-- A text padded with spaces takes the wanted width or its own, whatever it holds. -/
theorem width_padded_space (side : Side) (w : Nat) (cs : List Char) :
    width (padded side ' ' w cs) = max w (width cs) :=
  width_padded_of_one (Side.adds_of_solid (by decide +kernel) side cs) (by decide +kernel)

/-- A text padded with an ideograph gets two columns for each missing one. -/
theorem width_padded_ideograph (hlow : 0x4E00 ≤ fill.toNat) (hhigh : fill.toNat ≤ 0x9FFF) (side : Side) (w : Nat)
    (cs : List Char) : width (padded side fill w cs) = width cs + (w - width cs) * 2 := by
  have hsolid := Text.Width.solid_ideograph hlow hhigh
  rw [width_padded (Side.adds_of_solid hsolid side cs), Text.width_singleton hsolid, Text.Width.charWidth_ideograph hlow hhigh]

end Texts

namespace BuiltIn

open Texts (Side fillChar)

variable (surroundings : Surroundings) {columns : Value} {fills : List Value} {w : Nat}

theorem call?_pad (side : Side) (v : Value) (hcolumns : columns.place? = some w) (hfills : fills.length ≤ 1) :
    call? surroundings side.filterName v (columns :: fills) =
      some (.ok (.ofChars (Texts.padded side (fillChar (columns :: fills)) w v.display.toList))) := by
  have hcall : call? surroundings side.filterName v (columns :: fills) =
      some (Texts.pad side.filterName side surroundings v (columns :: fills)) := by
    match fills, hfills with
    | [], _ => cases side <;> rfl
    | [_], _ => cases side <;> rfl
  have hcount : Argument.count side.filterName (columns :: fills) 0 = .ok w := Argument.count_of_place rfl hcolumns
  rw [hcall, Texts.pad, hcount]
  rfl

/-- **Padding.** A value padded to a width, with a given fill or with spaces, is a text that ends or starts with the value's
text. Where the fill characters add up beside that text, as they do beside any text if they never combine, each missing column
is filled with the width of a fill character. So the result exceeds both the wanted width and the text's own if something is
missing and the fill character is wider than a column, and only then; with a fill character of one column it has the larger of
the two widths. -/
theorem padding_width (side : Side) (v : Value) (hcolumns : columns.place? = some w) (hfills : fills.length ≤ 1) {fill : Char}
    (hfill : fillChar (columns :: fills) = fill) {cs : List Char} (hcs : v.display.toList = cs) :
    ∃ out, call? surroundings side.filterName v (columns :: fills) = some (.ok (.ofChars out)) ∧ side.Keeps cs out ∧
      (side.Adds fill cs →
        width out = width cs + (w - width cs) * width [fill] ∧
          (width out ≤ max w (width cs) ↔ width [fill] ≤ 1 ∨ w ≤ width cs) ∧
          (width [fill] = 1 → width out = max w (width cs))) ∧
      (Text.Width.Solid fill → side.Adds fill cs) := by
  subst hfill hcs
  refine ⟨Texts.padded side (fillChar (columns :: fills)) w v.display.toList, call?_pad surroundings side v hcolumns hfills,
    side.keeps_attach _ _, fun hadds => ⟨?_, ?_, fun hone => ?_⟩, fun hsolid => Side.adds_of_solid hsolid side _⟩
  · exact Texts.width_padded hadds w
  · exact Texts.width_padded_le_iff hadds
  · exact Texts.width_padded_of_one hadds hone

/-- Two wide characters are filled up to seven columns. -/
theorem padding_width_ideographs :
    (Value.int 7).place? = some 7 ∧ fillChar [.int 7, .string "-+"] = '-' ∧ Text.Width.Solid '-' ∧
      ∃ out, call? { settings := {}, now := "" } "padLeft" (.string "日本") [.int 7, .string "-+"] = some (.ok (.ofChars out)) ∧
        Side.left.Keeps ['日', '本'] out ∧ width ['日', '本'] = 4 ∧ width out = 7 := by
  have hcolumns : (Value.int 7).place? = some 7 := rfl
  have hfill : fillChar [.int 7, .string "-+"] = '-' := rfl
  have hsolid : Text.Width.Solid '-' := by decide +kernel
  have htext : width ['日', '本'] = 4 := by decide +kernel
  have hone : [Value.string "-+"].length ≤ 1 := Nat.le_refl 1
  have hcs : (Value.string "日本").display.toList = ['日', '本'] := rfl
  obtain ⟨out, hout, hkeeps, hwidth, hadds⟩ :=
    padding_width { settings := {}, now := "" } .left (.string "日本") hcolumns hone hfill hcs
  refine ⟨hcolumns, hfill, hsolid, out, hout, hkeeps, htext, ?_⟩
  rw [(hwidth (hadds hsolid)).2.2 (by decide +kernel), htext]
  rfl

/-- A fill character of two columns fills two missing columns with four. -/
theorem padding_past_width :
    call? { settings := {}, now := "" } "padLeft" (.string "a") [.int 3, .string "日"] = some (.ok (.ofChars ['日', '日', 'a'])) ∧
      Text.Width.Solid '日' ∧ ¬width ['日', '日', 'a'] ≤ max 3 (width ['a']) := by
  refine ⟨rfl, by decide +kernel, by decide +kernel⟩

end BuiltIn

end PageTemplates
