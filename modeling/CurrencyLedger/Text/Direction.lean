import CurrencyLedger.Text.Mark

/-!
Directions of writing.

A line of text runs to the right or to the left, as its letters say; numbers and signs have weaker
directions or none. The classes are those of Unicode, with the ones that never matter for a name
taken together.
-/

namespace CurrencyLedger.Text

/-- What a character says of the direction of its line. -/
inductive Direction where
  | rightward
  | leftward
  | arabicNumber
  | europeanNumber
  | mark
  | neutral
  /-- Blanks and controls of the direction. -/
  | separator
  deriving DecidableEq, Repr

/-- The letters of lines to the left. -/
def leftwardLetters : List (Nat × Nat) :=
  [(0x05BE, 0x05F4), (0x0608, 0x0608), (0x060B, 0x060B), (0x060D, 0x060D), (0x061B, 0x064A),
   (0x066D, 0x06D5), (0x06E5, 0x06E6), (0x06EE, 0x06EF), (0x06FA, 0x07F5), (0x07FA, 0x088E),
   (0x08A0, 0x08C9), (0x200F, 0x200F), (0xFB1D, 0xFB28), (0xFB2A, 0xFD3D), (0xFD50, 0xFDC7),
   (0xFDF0, 0xFDFC), (0xFE70, 0xFEFC), (0x10800, 0x1091B), (0x10920, 0x10B35), (0x10B40, 0x10D23),
   (0x10E80, 0x10FF6), (0x1E800, 0x1EEBB)]

/-- The digits of lines to the left. -/
def arabicNumbers : List (Nat × Nat) :=
  [(0x0600, 0x0605), (0x0660, 0x0669), (0x066B, 0x066C), (0x06DD, 0x06DD), (0x0890, 0x0891),
   (0x08E2, 0x08E2), (0x10D30, 0x10E7E)]

/-- The digits of lines to the right. -/
def europeanNumbers : List (Nat × Nat) :=
  [(0x0030, 0x0039), (0x00B2, 0x00B3), (0x00B9, 0x00B9), (0x06F0, 0x06F9), (0x2070, 0x2070),
   (0x2074, 0x2079), (0x2080, 0x2089), (0x2488, 0x249B), (0xFF10, 0xFF19), (0x102E1, 0x102FB),
   (0x1D7CE, 0x1D7FF), (0x1F100, 0x1F10A), (0x1FBF0, 0x1FBF9)]

/-- The signs without a direction of their own. -/
def neutralSigns : List (Nat × Nat) :=
  [(0x0000, 0x0008), (0x000E, 0x001B), (0x0021, 0x002F), (0x003A, 0x0040), (0x005B, 0x0060),
   (0x007B, 0x0084), (0x0086, 0x00A9), (0x00AB, 0x00B1), (0x00B4, 0x00B4), (0x00B6, 0x00B8),
   (0x00BB, 0x00BF), (0x00D7, 0x00D7), (0x00F7, 0x00F7), (0x02B9, 0x02BA), (0x02C2, 0x02CF),
   (0x02D2, 0x02DF), (0x02E5, 0x02ED), (0x02EF, 0x02FF), (0x0374, 0x0375), (0x037E, 0x037E),
   (0x0384, 0x0385), (0x0387, 0x0387), (0x03F6, 0x03F6), (0x058A, 0x058F), (0x0606, 0x0607),
   (0x0609, 0x060A), (0x060C, 0x060C), (0x060E, 0x060F), (0x066A, 0x066A), (0x06DE, 0x06DE),
   (0x06E9, 0x06E9), (0x07F6, 0x07F9), (0x09F2, 0x09F3), (0x09FB, 0x09FB), (0x0AF1, 0x0AF1),
   (0x0BF3, 0x0BFA), (0x0C78, 0x0C7E), (0x0E3F, 0x0E3F), (0x0F3A, 0x0F3D), (0x1390, 0x1399),
   (0x1400, 0x1400), (0x169B, 0x169C), (0x17DB, 0x17DB), (0x17F0, 0x180E), (0x1940, 0x1945),
   (0x19DE, 0x19FF), (0x1FBD, 0x1FBD), (0x1FBF, 0x1FC1), (0x1FCD, 0x1FCF), (0x1FDD, 0x1FDF),
   (0x1FED, 0x1FEF), (0x1FFD, 0x1FFE), (0x200B, 0x200D), (0x2010, 0x2027), (0x202F, 0x205E),
   (0x2060, 0x2064), (0x206A, 0x206F), (0x207A, 0x207E), (0x208A, 0x208E), (0x20A0, 0x2101),
   (0x2103, 0x2106), (0x2108, 0x2109), (0x2114, 0x2114), (0x2116, 0x2118), (0x211E, 0x2123),
   (0x2125, 0x2125), (0x2127, 0x2127), (0x2129, 0x2129), (0x212E, 0x212E), (0x213A, 0x213B),
   (0x2140, 0x2144), (0x214A, 0x214D), (0x2150, 0x215F), (0x2189, 0x2335), (0x237B, 0x2394),
   (0x2396, 0x2487), (0x24EA, 0x26AB), (0x26AD, 0x27FF), (0x2900, 0x2BFF), (0x2CE5, 0x2CEA),
   (0x2CF9, 0x2CFF), (0x2E00, 0x2FFB), (0x3001, 0x3004), (0x3008, 0x3020), (0x3030, 0x3030),
   (0x3036, 0x3037), (0x303D, 0x303F), (0x309B, 0x309C), (0x30A0, 0x30A0), (0x30FB, 0x30FB),
   (0x31C0, 0x31E3), (0x321D, 0x321E), (0x3250, 0x325F), (0x327C, 0x327E), (0x32B1, 0x32BF),
   (0x32CC, 0x32CF), (0x3377, 0x337A), (0x33DE, 0x33DF), (0x33FF, 0x33FF), (0x4DC0, 0x4DFF),
   (0xA490, 0xA4C6), (0xA60D, 0xA60F), (0xA673, 0xA67F), (0xA700, 0xA721), (0xA788, 0xA788),
   (0xA828, 0xA82B), (0xA838, 0xA839), (0xA874, 0xA877), (0xAB6A, 0xAB6B), (0xFB29, 0xFB29),
   (0xFD3E, 0xFD4F), (0xFDCF, 0xFDCF), (0xFDFD, 0xFE6B), (0xFEFF, 0xFF0F), (0xFF1A, 0xFF20),
   (0xFF3B, 0xFF40), (0xFF5B, 0xFF65), (0xFFE0, 0xFFFD), (0x10101, 0x10101), (0x10140, 0x1018C),
   (0x10190, 0x101A0), (0x1091F, 0x1091F), (0x10B39, 0x10B3F), (0x11052, 0x11065),
   (0x11660, 0x1166C), (0x11FD5, 0x11FF1), (0x16FE2, 0x16FE2), (0x1BCA0, 0x1BCA3),
   (0x1D173, 0x1D17A), (0x1D1E9, 0x1D245), (0x1D300, 0x1D356), (0x1D6DB, 0x1D6DB),
   (0x1D715, 0x1D715), (0x1D74F, 0x1D74F), (0x1D789, 0x1D789), (0x1D7C3, 0x1D7C3),
   (0x1E2FF, 0x1E2FF), (0x1EEF0, 0x1F0F5), (0x1F10B, 0x1F10F), (0x1F12F, 0x1F12F),
   (0x1F16A, 0x1F16F), (0x1F1AD, 0x1F1AD), (0x1F260, 0x1FBCA), (0xE0001, 0xE007F)]

/-- The blanks and the controls of the direction. -/
def separators : List (Nat × Nat) :=
  [(0x0009, 0x000D), (0x001C, 0x0020), (0x0085, 0x0085), (0x1680, 0x1680), (0x2000, 0x200A),
   (0x2028, 0x202E), (0x205F, 0x205F), (0x2066, 0x2069), (0x3000, 0x3000)]

/-- The direction of a character. -/
def direction (c : Char) : Direction :=
  let n := c.toNat
  if isNonspacing c then .mark
  else if inRanges spacingMarks n then .rightward
  else if inRanges leftwardLetters n then .leftward
  else if inRanges arabicNumbers n then .arabicNumber
  else if inRanges europeanNumbers n then .europeanNumber
  else if inRanges neutralSigns n then .neutral
  else if inRanges separators n then .separator
  else .rightward

/-- Whether a character makes its text one that also runs to the left. -/
def Direction.isLeftward : Direction → Bool
  | .leftward => true
  | .arabicNumber => true
  | _ => false

end CurrencyLedger.Text
