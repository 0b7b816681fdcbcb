import TableFeed.Text.Quoted

/-!
# Texts with halves of pairs

Half of a pair that stands alone is kept wherever its text goes: into the token of a row, a word of a
schema or a message.  A `Writing` is a text that may have such halves.  Every `String` is one.
-/

namespace TableFeed

open Text

/-- A text in which halves of pairs may stand alone. -/
structure Writing where
  /-- The characters and halves, in order. -/
  glyphs : List Glyph
deriving DecidableEq, Repr, Inhabited

namespace Writing

/-- A text that has only characters. -/
def ofString (s : String) : Writing := ⟨Text.glyphs s⟩

instance : Coe String Writing := ⟨ofString⟩

instance : Append Writing := ⟨fun v w => ⟨v.glyphs ++ w.glyphs⟩⟩

/-- Whether a text is empty. -/
def isEmpty (w : Writing) : Bool := w.glyphs.isEmpty

/-- Texts with a separator between them. -/
def intercalate (separator : String) (ws : List Writing) : Writing :=
  ⟨(Text.glyphs separator).intercalate (ws.map glyphs)⟩

/-- A text as a literal. -/
def quoted (w : Writing) : String := quotedGlyphs w.glyphs

/-- A text as a terminal shows it, where a half of a pair is written as an escape. -/
def shown (w : Writing) : String :=
  String.ofList (w.glyphs.flatMap fun
    | .char c => [c]
    | .half n => '\\' :: 'u' :: hex 4 n)

@[simp] theorem glyphs_append (v w : Writing) : (v ++ w).glyphs = v.glyphs ++ w.glyphs := rfl

@[simp] theorem ofString_inj {s t : String} : ofString s = ofString t ↔ s = t := by
  simp [ofString, Text.glyphs, List.map_inj_right, String.toList_inj]

@[simp] theorem isEmpty_iff {w : Writing} : w.isEmpty = true ↔ w = "" := by
  obtain ⟨gs⟩ := w
  simp [isEmpty, ofString, Text.glyphs]

@[simp] theorem isEmpty_eq_false_iff {w : Writing} : w.isEmpty = false ↔ w ≠ "" := by
  rw [ne_eq, ← isEmpty_iff, Bool.not_eq_true]

end Writing

end TableFeed
