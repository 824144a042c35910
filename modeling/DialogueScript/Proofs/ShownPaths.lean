import DialogueScript.Files.Path
import Mathlib.Data.List.Nodup

/- Paths as they are shown. Text is shown as it is, so paths that are text can be told apart. Other
   paths can look alike. -/
namespace DialogueScript

theorem Text.decode_encode (text : String) : Text.decode (Text.encode text) = .ok text := by
  have bytes : (⟨(encode text).toArray⟩ : ByteArray) = text.toByteArray := by
    simp [encode]
  have valid : String.fromUTF8? text.toByteArray = some text := dif_pos text.isValidUTF8
  rw [decode, bytes, valid]

namespace Path

@[simp] theorem shown_ofText (text : String) : (ofText text).shown = text := by
  simp only [shown, ofText, Text.shown, Text.decode_encode]

def ShownApart (paths : List Path) : Prop :=
  ∀ first ∈ paths, ∀ second ∈ paths, first.shown = second.shown → first = second

theorem shownApart_iff {paths : List Path} (distinct : paths.Nodup) :
    ShownApart paths ↔ (paths.map shown).Nodup :=
  (List.nodup_map_iff_inj_on distinct).symm

theorem shownApart_of_text {paths : List Path} (text : ∀ path ∈ paths, ∃ text, path = ofText text) :
    ShownApart paths := by
  intro first one second another same
  obtain ⟨_, rfl⟩ := text first one
  obtain ⟨_, rfl⟩ := text second another
  rw [shown_ofText, shown_ofText] at same
  rw [same]

/-- Two names that no text has, and that look alike. -/
example : shown ⟨[0xFE]⟩ = "\uFFFD" ∧ shown ⟨[0xFF]⟩ = "\uFFFD" := by decide

/-- A character that stops too early is one fault, and what stops it may begin another. -/
example : shown ⟨[0x61, 0xF0, 0x9F, 0xE2, 0x82, 0xAC, 0xE2, 0x82]⟩ = "a\uFFFD\u20AC\uFFFD" := by
  decide

end Path

end DialogueScript
