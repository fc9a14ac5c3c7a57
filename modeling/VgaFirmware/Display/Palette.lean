import VgaFirmware.Adapter.Dac

/-!
# The default palette

The sixteen text colours: the low three bits of a colour switch blue, green and red on, and bit
3 makes it bright. Dark yellow is brought down to brown.
-/

namespace VgaFirmware.Palette

/-- The colours in order, as six-bit components. -/
def initial : List Colour :=
  [ ⟨0x00, 0x00, 0x00⟩, ⟨0x00, 0x00, 0x2A⟩, ⟨0x00, 0x2A, 0x00⟩, ⟨0x00, 0x2A, 0x2A⟩,
    ⟨0x2A, 0x00, 0x00⟩, ⟨0x2A, 0x00, 0x2A⟩, ⟨0x2A, 0x15, 0x00⟩, ⟨0x2A, 0x2A, 0x2A⟩,
    ⟨0x15, 0x15, 0x15⟩, ⟨0x15, 0x15, 0x3F⟩, ⟨0x15, 0x3F, 0x15⟩, ⟨0x15, 0x3F, 0x3F⟩,
    ⟨0x3F, 0x15, 0x15⟩, ⟨0x3F, 0x15, 0x3F⟩, ⟨0x3F, 0x3F, 0x15⟩, ⟨0x3F, 0x3F, 0x3F⟩ ]

end VgaFirmware.Palette
