import Intercept.Json.Forms
import Intercept.Proofs.Json.Layout
import Intercept.Proofs.Json.Spelling

/-!
# Keys in JSON

A key is one string, between blanks if there are any.  All spellings of the string say the same key and
no other text says it, so that what is written of a key is read back as that key: `keys_survive_json`.
-/

namespace Intercept

namespace Json

def IsString (s : String) (cs : List Char) : Prop :=
  ∃ body, Spells body s.toList ∧ cs = '"' :: (body ++ ['"'])

theorem isString_literal (s : String) : IsString s (literal s).toList :=
  ⟨writeChars s.toList, spells_writeChars s.toList, by simp [literal]⟩

theorem readText_eq_ok_iff {cs rest : List Char} {s : String} :
    readText cs = .ok (s, rest) ↔
      ∃ front string, Blank front ∧ IsString s string ∧ cs = front ++ (string ++ rest) := by
  constructor
  · intro h
    obtain ⟨front, hfront, hcs⟩ := exists_blank_append cs
    unfold readText at h
    split at h
    · rename_i hquote
      split at h
      · cases h
      · rename_i hread
        cases h
        obtain ⟨body, hbody, rfl⟩ := readChars_eq_ok_iff.mp hread
        refine ⟨front, _, hfront, ⟨body, ?_, rfl⟩, ?_⟩
        · rwa [String.toList_ofList]
        · rw [hcs, hquote]
          simp
    · cases h
  · rintro ⟨front, _, hfront, ⟨body, hbody, rfl⟩, rfl⟩
    simp [readText, hfront, isBlank, readChars_spells hbody]

end Json

namespace Key

/-- The text is the string of the key, and blanks around it. -/
def SaidBy (key : Key) (text : String) : Prop :=
  Json.Alone (Json.IsString key.text) text

theorem read_eq_ok_iff {text : String} {key : Key} : read text = .ok key ↔ key.SaidBy text := by
  have hread : read text = .ok key ↔ Json.readAll Json.readText text = .ok key.text := by
    unfold read
    cases Json.readAll Json.readText text with
    | error fault => simp
    | ok s =>
        cases key
        simp
  rw [hread, Json.readAll_eq_ok_iff]
  simp only [Json.readText_eq_ok_iff]
  constructor
  · rintro ⟨back, hback, front, string, hfront, hstring, htext⟩
    exact ⟨front, string, back, hfront, hstring, hback, htext⟩
  · rintro ⟨front, string, back, hfront, hstring, hback, htext⟩
    exact ⟨back, hback, front, string, hfront, hstring, htext⟩

theorem isString_write (key : Key) : Json.IsString key.text key.write.toList := by
  rw [write]
  exact Json.isString_literal key.text

theorem read_write (key : Key) : read key.write = .ok key :=
  read_eq_ok_iff.mpr (Json.alone_of_toList key.isString_write)

theorem write_injective : Function.Injective write := by
  intro key other hsame
  have hread := other.read_write
  rw [← hsame, read_write] at hread
  exact Except.ok.inj hread

end Key

/-! ## Main result -/

/-- What is written of a key is its bare string and is read as that key, whatever text the key was read
from.  That text may have spelled the string in any way, and could have said no other key. -/
theorem keys_survive_json :
    (∀ key : Key, Json.IsString key.text key.write.toList ∧ Key.read key.write = .ok key) ∧
      Function.Injective Key.write ∧
      ∀ (text : String) (key : Key), (Key.read text = .ok key ↔ key.SaidBy text) ∧
        (Key.read text = .ok key → Key.read key.write = .ok key) := by
  refine ⟨fun key => ⟨key.isString_write, key.read_write⟩, Key.write_injective, fun text key => ?_⟩
  exact ⟨Key.read_eq_ok_iff, fun _ => key.read_write⟩

theorem keys_survive_json_escapes :
    Key.read " \"\\ud83d\\uDE00\\n\" " = .ok ⟨"😀\n"⟩ ∧ Key.read (Key.write ⟨"😀\n"⟩) = .ok ⟨"😀\n"⟩ := by
  have hlead : Json.HexQuad ['d', '8', '3', 'd'] 0xd83d :=
    .digits (k := 13) (l := 8) (m := 3) (n := 13) (.inl rfl) (.inl rfl) (.inl rfl) (.inl rfl)
  have htrail : Json.HexQuad ['D', 'E', '0', '0'] 0xde00 :=
    .digits (k := 13) (l := 14) (m := 0) (n := 0) (.inr rfl) (.inr rfl) (.inl rfl) (.inl rfl)
  have hpair : Json.SpellsChar _ '😀' := .units (.cons hlead (.cons htrail .nil))
  have hline : Json.SpellsChar ['\\', 'n'] '\n' := .letter (by decide)
  have hblank : Json.Blank [' '] := by simp [Json.Blank, Json.isBlank]
  have hsaid : Key.SaidBy ⟨"😀\n"⟩ " \"\\ud83d\\uDE00\\n\" " :=
    ⟨[' '], _, [' '], hblank, ⟨_, .cons hpair (.cons hline .nil), rfl⟩, hblank, rfl⟩
  obtain ⟨-, -, hread⟩ := keys_survive_json
  have h := (hread _ _).1.mpr hsaid
  exact ⟨h, (hread _ _).2 h⟩

end Intercept
