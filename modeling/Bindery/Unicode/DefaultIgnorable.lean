import Bindery.Unicode.Run

/-!
# Ignorable characters

The property Default_Ignorable_Code_Point of the Unicode standard, version 17: characters that are
shown as nothing where they have no effect, such as joiners, variation selectors and the fillers of
Hangul.
-/
namespace Bindery.Unicode

def defaultIgnorableRuns : List Run := [
    ⟨0x00AD, 0x00AD, 1⟩, ⟨0x034F, 0x034F, 1⟩, ⟨0x061C, 0x061C, 1⟩, ⟨0x115F, 0x1160, 1⟩,
    ⟨0x17B4, 0x17B5, 1⟩, ⟨0x180B, 0x180F, 1⟩, ⟨0x200B, 0x200F, 1⟩, ⟨0x202A, 0x202E, 1⟩,
    ⟨0x2060, 0x206F, 1⟩, ⟨0x3164, 0x3164, 1⟩, ⟨0xFE00, 0xFE0F, 1⟩, ⟨0xFEFF, 0xFEFF, 1⟩,
    ⟨0xFFA0, 0xFFA0, 1⟩, ⟨0xFFF0, 0xFFF8, 1⟩, ⟨0x1BCA0, 0x1BCA3, 1⟩, ⟨0x1D173, 0x1D17A, 1⟩,
    ⟨0xE0000, 0xE0FFF, 1⟩]

/-- Whether a character has the property Default_Ignorable_Code_Point. -/
def isDefaultIgnorable (c : Char) : Bool := Run.covers defaultIgnorableRuns c

end Bindery.Unicode
