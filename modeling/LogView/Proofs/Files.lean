import LogView.Files
import Mathlib.Tactic.SplitIfs

/-!
# Reading what was written

A file that was written is found again under its path, and a text that was written to it is the
text of the document that is read from there.
-/

namespace LogView

theorem Text.decodeLossy_toUTF8 (text : String) : Text.decodeLossy text.toUTF8 = text := by
  have valid : text.toUTF8.IsValidUTF8 := text.isValidUTF8
  unfold decodeLossy String.fromUTF8?
  rw [dif_pos valid]
  rfl

namespace Files

theorem find?_insert (files : Files) (name : String) (content : ByteArray) :
    (files.insert name content).find? name = some content := by
  simp [insert, find?]

/-- Whether parts of a path name a file does not depend on the files there are. -/
theorem follow_eq_name {files : Files} {parts : List String} {name : String}
    (leads : files.follow parts = .name name) (others : Files) :
    others.follow parts = .name name := by
  induction parts with
  | nil => cases leads
  | cons part rest ih =>
    unfold follow at leads ⊢
    split_ifs at leads ⊢
    · exact ih leads
    · exact leads

theorem resolve_eq_name {files : Files} {path name : String}
    (leads : files.resolve path = .name name) (others : Files) :
    others.resolve path = .name name := by
  unfold resolve at leads ⊢
  split_ifs at leads ⊢
  exact follow_eq_name leads others

theorem write_eq_ok {files written : Files} {path : String} {content : ByteArray} :
    files.write path content = .ok written ↔
      ∃ name, files.resolve path = .name name ∧ files.insert name content = written := by
  unfold write
  cases files.resolve path <;> simp

theorem read_of_write {files written : Files} {path : String} {content : ByteArray}
    (writes : files.write path content = .ok written) : written.read path = .ok content := by
  obtain ⟨name, leads, rfl⟩ := write_eq_ok.mp writes
  simp only [read, resolve_eq_name leads, find?_insert]

/-- Whether a file can be written does not depend on what is written. -/
theorem write_eq_ok_of {files written : Files} {path : String} {content : ByteArray}
    (writes : files.write path content = .ok written) (other : ByteArray) :
    ∃ written, files.write path other = .ok written := by
  obtain ⟨name, leads, -⟩ := write_eq_ok.mp writes
  exact ⟨_, write_eq_ok.mpr ⟨name, leads, rfl⟩⟩

end Files

theorem Document.read_of_write {files written : Files} {path text : String}
    (writes : files.write path text.toUTF8 = .ok written) :
    Document.read written path = .ok (.ofText (fileName path) text) := by
  unfold Document.read
  rw [Files.read_of_write writes, Document.ofContent, Text.decodeLossy_toUTF8]

end LogView
