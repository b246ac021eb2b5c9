import CurrencyLedger.Text.Quoted
import CurrencyLedger.Text.Uppercase

/-!
Folding of host names.

Host names are compared without regard to case and to compatible ways of writing a character: a wide
letter is the letter, a ligature its parts, an ideographic full stop a full stop. Folding takes
every character to the one way in which names are kept. It is a table of runs at one distance, a
list of stretches of characters with what each of them folds to, a list of expansions, and the
characters that vanish or that no name may have.
-/

namespace CurrencyLedger.Network

/-- The characters that fold to one other at a distance that their neighbours share, in runs. -/
def foldRuns : List Text.CaseRun :=
  [⟨0x00A0, 0x00A0, 1, -128⟩, ⟨0x00AA, 0x00AA, 1, -73⟩, ⟨0x00B2, 0x00B3, 1, -128⟩,
   ⟨0x00B5, 0x00B5, 1, 775⟩, ⟨0x00B9, 0x00B9, 1, -136⟩, ⟨0x00BA, 0x00BA, 1, -75⟩,
   ⟨0x00C0, 0x00D6, 1, 32⟩, ⟨0x00D8, 0x00DE, 1, 32⟩, ⟨0x0100, 0x012E, 2, 1⟩, ⟨0x0134, 0x0136, 2, 1⟩,
   ⟨0x0139, 0x013D, 2, 1⟩, ⟨0x0141, 0x0147, 2, 1⟩, ⟨0x014A, 0x0176, 2, 1⟩,
   ⟨0x0178, 0x0178, 1, -121⟩, ⟨0x0179, 0x017D, 2, 1⟩, ⟨0x017F, 0x017F, 1, -268⟩,
   ⟨0x0181, 0x0181, 1, 210⟩, ⟨0x0182, 0x0184, 2, 1⟩, ⟨0x0186, 0x0186, 1, 206⟩,
   ⟨0x0187, 0x0187, 1, 1⟩, ⟨0x0189, 0x018A, 1, 205⟩, ⟨0x019C, 0x019C, 1, 211⟩,
   ⟨0x019D, 0x019D, 1, 213⟩, ⟨0x019F, 0x019F, 1, 214⟩, ⟨0x01A0, 0x01A4, 2, 1⟩,
   ⟨0x01B1, 0x01B2, 1, 217⟩, ⟨0x01B3, 0x01B5, 2, 1⟩, ⟨0x01B7, 0x01B7, 1, 219⟩,
   ⟨0x01B8, 0x01B8, 1, 1⟩, ⟨0x01BC, 0x01BC, 1, 1⟩, ⟨0x01CD, 0x01DB, 2, 1⟩, ⟨0x01DE, 0x01EE, 2, 1⟩,
   ⟨0x01F4, 0x01F4, 1, 1⟩, ⟨0x01F6, 0x01F6, 1, -97⟩, ⟨0x01F7, 0x01F7, 1, -56⟩,
   ⟨0x01F8, 0x021E, 2, 1⟩, ⟨0x0220, 0x0220, 1, -130⟩, ⟨0x0222, 0x0232, 2, 1⟩,
   ⟨0x0246, 0x024E, 2, 1⟩, ⟨0x0340, 0x0341, 1, -64⟩, ⟨0x0343, 0x0343, 1, -48⟩,
   ⟨0x0345, 0x0345, 1, 116⟩, ⟨0x0370, 0x0372, 2, 1⟩, ⟨0x0374, 0x0374, 1, -187⟩,
   ⟨0x0376, 0x0376, 1, 1⟩, ⟨0x037E, 0x037E, 1, -835⟩, ⟨0x037F, 0x037F, 1, 116⟩,
   ⟨0x0386, 0x0386, 1, 38⟩, ⟨0x0387, 0x0387, 1, -720⟩, ⟨0x0388, 0x038A, 1, 37⟩,
   ⟨0x038C, 0x038C, 1, 64⟩, ⟨0x038E, 0x038F, 1, 63⟩, ⟨0x0391, 0x03A1, 1, 32⟩,
   ⟨0x03A3, 0x03AB, 1, 32⟩, ⟨0x03D8, 0x03EE, 2, 1⟩, ⟨0x03FD, 0x03FF, 1, -130⟩,
   ⟨0x0400, 0x040F, 1, 80⟩, ⟨0x0410, 0x042F, 1, 32⟩, ⟨0x0460, 0x0480, 2, 1⟩, ⟨0x048A, 0x04BE, 2, 1⟩,
   ⟨0x04C1, 0x04CD, 2, 1⟩, ⟨0x04D0, 0x052E, 2, 1⟩, ⟨0x0531, 0x0556, 1, 48⟩, ⟨0x0F0C, 0x0F0C, 1, -1⟩,
   ⟨0x10C7, 0x10C7, 1, 7264⟩, ⟨0x10CD, 0x10CD, 1, 7264⟩, ⟨0x10FC, 0x10FC, 1, -32⟩,
   ⟨0x13F8, 0x13FD, 1, -8⟩, ⟨0x1C90, 0x1CBA, 1, -3008⟩, ⟨0x1CBD, 0x1CBF, 1, -3008⟩,
   ⟨0x1D2C, 0x1D2C, 1, -7371⟩, ⟨0x1D2D, 0x1D2D, 1, -7239⟩, ⟨0x1D2E, 0x1D30, 2, -7372⟩,
   ⟨0x1D31, 0x1D31, 1, -7372⟩, ⟨0x1D32, 0x1D32, 1, -6997⟩, ⟨0x1D33, 0x1D3A, 1, -7372⟩,
   ⟨0x1D5D, 0x1D5F, 1, -6571⟩, ⟨0x1D60, 0x1D61, 1, -6554⟩, ⟨0x1D62, 0x1D62, 1, -7417⟩,
   ⟨0x1D63, 0x1D63, 1, -7409⟩, ⟨0x1D64, 0x1D65, 1, -7407⟩, ⟨0x1D66, 0x1D67, 1, -6580⟩,
   ⟨0x1D68, 0x1D68, 1, -6567⟩, ⟨0x1D69, 0x1D6A, 1, -6563⟩, ⟨0x1D78, 0x1D78, 1, -6459⟩,
   ⟨0x1DA4, 0x1DA6, 1, -6972⟩, ⟨0x1DAE, 0x1DB1, 1, -6972⟩, ⟨0x1DBC, 0x1DBE, 1, -6956⟩,
   ⟨0x1DBF, 0x1DBF, 1, -6663⟩, ⟨0x1E00, 0x1E94, 2, 1⟩, ⟨0x1E9B, 0x1E9B, 1, -58⟩,
   ⟨0x1EA0, 0x1EFE, 2, 1⟩, ⟨0x1F08, 0x1F0F, 1, -8⟩, ⟨0x1F18, 0x1F1D, 1, -8⟩,
   ⟨0x1F28, 0x1F2F, 1, -8⟩, ⟨0x1F38, 0x1F3F, 1, -8⟩, ⟨0x1F48, 0x1F4D, 1, -8⟩,
   ⟨0x1F59, 0x1F5F, 2, -8⟩, ⟨0x1F68, 0x1F6F, 1, -8⟩, ⟨0x1FB8, 0x1FB9, 1, -8⟩,
   ⟨0x1FBA, 0x1FBA, 1, -74⟩, ⟨0x1FBB, 0x1FBB, 1, -7183⟩, ⟨0x1FBE, 0x1FBE, 1, -7173⟩,
   ⟨0x1FD3, 0x1FD3, 1, -7235⟩, ⟨0x1FD8, 0x1FD9, 1, -8⟩, ⟨0x1FDA, 0x1FDA, 1, -100⟩,
   ⟨0x1FDB, 0x1FDB, 1, -7212⟩, ⟨0x1FE3, 0x1FE3, 1, -7219⟩, ⟨0x1FE8, 0x1FE9, 1, -8⟩,
   ⟨0x1FEA, 0x1FEA, 1, -112⟩, ⟨0x1FEB, 0x1FEB, 1, -7198⟩, ⟨0x1FEC, 0x1FEC, 1, -7⟩,
   ⟨0x1FEF, 0x1FEF, 1, -8079⟩, ⟨0x2011, 0x2011, 1, -1⟩, ⟨0x202F, 0x202F, 1, -8207⟩,
   ⟨0x205F, 0x205F, 1, -8255⟩, ⟨0x2070, 0x2070, 1, -8256⟩, ⟨0x2071, 0x2071, 1, -8200⟩,
   ⟨0x2074, 0x2079, 1, -8256⟩, ⟨0x2080, 0x2089, 1, -8272⟩, ⟨0x208A, 0x208A, 1, -8287⟩,
   ⟨0x208B, 0x208B, 1, 391⟩, ⟨0x208C, 0x208C, 1, -8271⟩, ⟨0x208D, 0x208E, 1, -8293⟩,
   ⟨0x2096, 0x2099, 1, -8235⟩, ⟨0x209A, 0x209A, 1, -8234⟩, ⟨0x209B, 0x209C, 1, -8232⟩,
   ⟨0x2102, 0x2102, 1, -8351⟩, ⟨0x2107, 0x2107, 1, -7852⟩, ⟨0x210A, 0x210B, 1, -8355⟩,
   ⟨0x2113, 0x2115, 2, -8359⟩, ⟨0x2119, 0x211B, 1, -8361⟩, ⟨0x211C, 0x211C, 1, -8362⟩,
   ⟨0x211D, 0x211D, 1, -8363⟩, ⟨0x212C, 0x212D, 1, -8394⟩, ⟨0x212F, 0x212F, 1, -8394⟩,
   ⟨0x2130, 0x2131, 1, -8395⟩, ⟨0x2133, 0x2133, 1, -8390⟩, ⟨0x2134, 0x2134, 1, -8389⟩,
   ⟨0x2135, 0x2138, 1, -7013⟩, ⟨0x2139, 0x2139, 1, -8400⟩, ⟨0x2145, 0x2145, 1, -8417⟩,
   ⟨0x2146, 0x2147, 1, -8418⟩, ⟨0x2148, 0x2149, 1, -8415⟩, ⟨0x2160, 0x2160, 1, -8439⟩,
   ⟨0x2164, 0x2164, 1, -8430⟩, ⟨0x2169, 0x2169, 1, -8433⟩, ⟨0x216C, 0x216C, 1, -8448⟩,
   ⟨0x216D, 0x216E, 1, -8458⟩, ⟨0x216F, 0x216F, 1, -8450⟩, ⟨0x2170, 0x2170, 1, -8455⟩,
   ⟨0x2174, 0x2174, 1, -8446⟩, ⟨0x2179, 0x2179, 1, -8449⟩, ⟨0x217C, 0x217C, 1, -8464⟩,
   ⟨0x217D, 0x217E, 1, -8474⟩, ⟨0x217F, 0x217F, 1, -8466⟩, ⟨0x2329, 0x232A, 1, 3295⟩,
   ⟨0x2460, 0x2468, 1, -9263⟩, ⟨0x24B6, 0x24CF, 1, -9301⟩, ⟨0x24D0, 0x24E9, 1, -9327⟩,
   ⟨0x24EA, 0x24EA, 1, -9402⟩, ⟨0x2C00, 0x2C2F, 1, 48⟩, ⟨0x2C67, 0x2C6B, 2, 1⟩,
   ⟨0x2C7C, 0x2C7C, 1, -11282⟩, ⟨0x2C7D, 0x2C7D, 1, -11271⟩, ⟨0x2C7E, 0x2C7F, 1, -10815⟩,
   ⟨0x2C80, 0x2CE2, 2, 1⟩, ⟨0x2CEB, 0x2CED, 2, 1⟩, ⟨0x2CF2, 0x2CF2, 1, 1⟩, ⟨0x2D6F, 0x2D6F, 1, -14⟩,
   ⟨0x2E9F, 0x2E9F, 1, 15662⟩, ⟨0x2EF3, 0x2EF3, 1, 28844⟩, ⟨0x3000, 0x3000, 1, -12256⟩,
   ⟨0x3002, 0x3002, 1, -12244⟩, ⟨0x3036, 0x3036, 1, -36⟩, ⟨0x3038, 0x3038, 1, 8969⟩,
   ⟨0x3039, 0x303A, 1, 8971⟩, ⟨0x3131, 0x3132, 1, -8241⟩, ⟨0x3133, 0x3133, 1, -8073⟩,
   ⟨0x3134, 0x3134, 1, -8242⟩, ⟨0x3135, 0x3136, 1, -8073⟩, ⟨0x3137, 0x3139, 1, -8244⟩,
   ⟨0x313A, 0x313F, 1, -8074⟩, ⟨0x3140, 0x3140, 1, -8230⟩, ⟨0x3141, 0x3143, 1, -8251⟩,
   ⟨0x3144, 0x3144, 1, -8227⟩, ⟨0x3145, 0x314E, 1, -8252⟩, ⟨0x314F, 0x3163, 1, -8174⟩,
   ⟨0x3165, 0x3166, 1, -8273⟩, ⟨0x3167, 0x3168, 1, -8096⟩, ⟨0x3178, 0x317C, 1, -8269⟩,
   ⟨0x3182, 0x3183, 1, -8081⟩, ⟨0x3184, 0x3186, 1, -8237⟩, ⟨0x3187, 0x3188, 1, -8195⟩,
   ⟨0x3260, 0x3260, 1, -8544⟩, ⟨0x3261, 0x3262, 1, -8543⟩, ⟨0x3263, 0x3265, 1, -8542⟩,
   ⟨0x3266, 0x3266, 1, -8541⟩, ⟨0x3267, 0x3268, 1, -8540⟩, ⟨0x3269, 0x326D, 1, -8539⟩,
   ⟨0x32E4, 0x32E9, 1, -538⟩, ⟨0x32EE, 0x32F2, 1, -528⟩, ⟨0x32F3, 0x32F3, 1, -527⟩,
   ⟨0x32F4, 0x32F4, 1, -526⟩, ⟨0x32F5, 0x32FA, 1, -525⟩, ⟨0x32FB, 0x32FE, 1, -524⟩,
   ⟨0xA640, 0xA66C, 2, 1⟩, ⟨0xA680, 0xA69A, 2, 1⟩, ⟨0xA69C, 0xA69C, 1, -41554⟩,
   ⟨0xA69D, 0xA69D, 1, -41553⟩, ⟨0xA722, 0xA72E, 2, 1⟩, ⟨0xA732, 0xA76E, 2, 1⟩,
   ⟨0xA770, 0xA770, 1, -1⟩, ⟨0xA779, 0xA77B, 2, 1⟩, ⟨0xA77D, 0xA77D, 1, -35332⟩,
   ⟨0xA77E, 0xA786, 2, 1⟩, ⟨0xA78B, 0xA78B, 1, 1⟩, ⟨0xA78D, 0xA78D, 1, -42280⟩,
   ⟨0xA790, 0xA792, 2, 1⟩, ⟨0xA796, 0xA7A8, 2, 1⟩, ⟨0xA7B4, 0xA7C2, 2, 1⟩, ⟨0xA7C4, 0xA7C4, 1, -48⟩,
   ⟨0xA7C5, 0xA7C5, 1, -42307⟩, ⟨0xA7C6, 0xA7C6, 1, -35384⟩, ⟨0xA7C7, 0xA7C9, 2, 1⟩,
   ⟨0xA7D0, 0xA7D0, 1, 1⟩, ⟨0xA7D6, 0xA7D8, 2, 1⟩, ⟨0xAB69, 0xAB69, 1, -43228⟩,
   ⟨0xAB70, 0xABBF, 1, -38864⟩, ⟨0xFB20, 0xFB20, 1, -62782⟩, ⟨0xFB21, 0xFB21, 1, -62801⟩,
   ⟨0xFB22, 0xFB23, 1, -62799⟩, ⟨0xFB24, 0xFB26, 1, -62793⟩, ⟨0xFB27, 0xFB27, 1, -62783⟩,
   ⟨0xFB28, 0xFB28, 1, -62782⟩, ⟨0xFB29, 0xFB29, 1, -64254⟩, ⟨0xFE10, 0xFE10, 1, -64996⟩,
   ⟨0xFE11, 0xFE11, 1, -52752⟩, ⟨0xFE13, 0xFE14, 1, -64985⟩, ⟨0xFE15, 0xFE15, 1, -65012⟩,
   ⟨0xFE16, 0xFE16, 1, -64983⟩, ⟨0xFE17, 0xFE18, 1, -52737⟩, ⟨0xFE39, 0xFE3A, 1, -52773⟩,
   ⟨0xFE3B, 0xFE3C, 1, -52779⟩, ⟨0xFE3D, 0xFE3E, 1, -52787⟩, ⟨0xFE3F, 0xFE40, 1, -52791⟩,
   ⟨0xFE41, 0xFE44, 1, -52789⟩, ⟨0xFE47, 0xFE47, 1, -65004⟩, ⟨0xFE48, 0xFE48, 1, -65003⟩,
   ⟨0xFE68, 0xFE68, 1, -65036⟩, ⟨0xFE69, 0xFE6A, 1, -65093⟩, ⟨0xFE6B, 0xFE6B, 1, -65067⟩,
   ⟨0xFE80, 0xFE81, 1, -63583⟩, ⟨0xFE82, 0xFE83, 1, -63584⟩, ⟨0xFE84, 0xFE85, 1, -63585⟩,
   ⟨0xFE86, 0xFE87, 1, -63586⟩, ⟨0xFE88, 0xFE89, 1, -63587⟩, ⟨0xFE8A, 0xFE8A, 1, -63588⟩,
   ⟨0xFE8B, 0xFE8B, 1, -63589⟩, ⟨0xFE8C, 0xFE8D, 1, -63590⟩, ⟨0xFE8E, 0xFE8F, 1, -63591⟩,
   ⟨0xFE90, 0xFE90, 1, -63592⟩, ⟨0xFE91, 0xFE91, 1, -63593⟩, ⟨0xFE92, 0xFE93, 1, -63594⟩,
   ⟨0xFE94, 0xFE95, 1, -63595⟩, ⟨0xFEA8, 0xFEA9, 1, -63610⟩, ⟨0xFEAA, 0xFEAB, 1, -63611⟩,
   ⟨0xFEAC, 0xFEAD, 1, -63612⟩, ⟨0xFEAE, 0xFEAF, 1, -63613⟩, ⟨0xFEB0, 0xFEB1, 1, -63614⟩,
   ⟨0xFEEC, 0xFEED, 1, -63653⟩, ⟨0xFEEE, 0xFEEF, 1, -63654⟩, ⟨0xFEF0, 0xFEF1, 1, -63655⟩,
   ⟨0xFEF2, 0xFEF2, 1, -63656⟩, ⟨0xFEF3, 0xFEF3, 1, -63657⟩, ⟨0xFEF4, 0xFEF4, 1, -63658⟩,
   ⟨0xFF01, 0xFF20, 1, -65248⟩, ⟨0xFF21, 0xFF3A, 1, -65216⟩, ⟨0xFF3B, 0xFF5E, 1, -65248⟩,
   ⟨0xFF5F, 0xFF60, 1, -54746⟩, ⟨0xFF85, 0xFF8A, 1, -52923⟩, ⟨0xFF8F, 0xFF93, 1, -52913⟩,
   ⟨0xFF94, 0xFF94, 1, -52912⟩, ⟨0xFF95, 0xFF95, 1, -52911⟩, ⟨0xFF96, 0xFF9B, 1, -52910⟩,
   ⟨0xFF9C, 0xFF9C, 1, -52909⟩, ⟨0xFF9D, 0xFF9D, 1, -52906⟩, ⟨0xFF9E, 0xFF9F, 1, -52997⟩,
   ⟨0xFFA1, 0xFFA2, 1, -61089⟩, ⟨0xFFA3, 0xFFA3, 1, -60921⟩, ⟨0xFFA4, 0xFFA4, 1, -61090⟩,
   ⟨0xFFA5, 0xFFA6, 1, -60921⟩, ⟨0xFFA7, 0xFFA9, 1, -61092⟩, ⟨0xFFAA, 0xFFAF, 1, -60922⟩,
   ⟨0xFFB0, 0xFFB0, 1, -61078⟩, ⟨0xFFB1, 0xFFB3, 1, -61099⟩, ⟨0xFFB4, 0xFFB4, 1, -61075⟩,
   ⟨0xFFB5, 0xFFBE, 1, -61100⟩, ⟨0xFFC2, 0xFFC7, 1, -61025⟩, ⟨0xFFCA, 0xFFCF, 1, -61027⟩,
   ⟨0xFFD2, 0xFFD7, 1, -61029⟩, ⟨0xFFDA, 0xFFDC, 1, -61031⟩, ⟨0xFFE0, 0xFFE1, 1, -65342⟩,
   ⟨0xFFE2, 0xFFE2, 1, -65334⟩, ⟨0xFFE4, 0xFFE4, 1, -65342⟩, ⟨0xFFE5, 0xFFE5, 1, -65344⟩,
   ⟨0xFFE6, 0xFFE6, 1, -57149⟩, ⟨0xFFE8, 0xFFE8, 1, -56038⟩, ⟨0xFFE9, 0xFFEC, 1, -56921⟩,
   ⟨0xFFED, 0xFFED, 1, -55885⟩, ⟨0xFFEE, 0xFFEE, 1, -55843⟩, ⟨0x10400, 0x10427, 1, 40⟩,
   ⟨0x104B0, 0x104D3, 1, 40⟩, ⟨0x10570, 0x1057A, 1, 39⟩, ⟨0x1057C, 0x1058A, 1, 39⟩,
   ⟨0x1058C, 0x10592, 1, 39⟩, ⟨0x10594, 0x10595, 1, 39⟩, ⟨0x10781, 0x10782, 1, -66737⟩,
   ⟨0x10783, 0x10783, 1, -67229⟩, ⟨0x10784, 0x10784, 1, -66795⟩, ⟨0x10785, 0x10785, 1, -66866⟩,
   ⟨0x107B2, 0x107B2, 1, -66851⟩, ⟨0x107B3, 0x107B4, 1, -66834⟩, ⟨0x107B5, 0x107B5, 1, -66845⟩,
   ⟨0x107B6, 0x107B8, 1, -67062⟩, ⟨0x107B9, 0x107B9, 1, 55121⟩, ⟨0x107BA, 0x107BA, 1, 55140⟩,
   ⟨0x10C80, 0x10CB2, 1, 64⟩, ⟨0x118A0, 0x118BF, 1, 32⟩, ⟨0x16E40, 0x16E5F, 1, 32⟩,
   ⟨0x1D400, 0x1D419, 1, -119711⟩, ⟨0x1D41A, 0x1D433, 1, -119737⟩, ⟨0x1D434, 0x1D44D, 1, -119763⟩,
   ⟨0x1D44E, 0x1D454, 1, -119789⟩, ⟨0x1D456, 0x1D467, 1, -119789⟩, ⟨0x1D468, 0x1D481, 1, -119815⟩,
   ⟨0x1D482, 0x1D49B, 1, -119841⟩, ⟨0x1D49C, 0x1D49E, 2, -119867⟩, ⟨0x1D49F, 0x1D49F, 1, -119867⟩,
   ⟨0x1D4A2, 0x1D4A2, 1, -119867⟩, ⟨0x1D4A5, 0x1D4A6, 1, -119867⟩, ⟨0x1D4A9, 0x1D4AC, 1, -119867⟩,
   ⟨0x1D4AE, 0x1D4B5, 1, -119867⟩, ⟨0x1D4B6, 0x1D4B9, 1, -119893⟩, ⟨0x1D4BB, 0x1D4BD, 2, -119893⟩,
   ⟨0x1D4BE, 0x1D4C3, 1, -119893⟩, ⟨0x1D4C5, 0x1D4CF, 1, -119893⟩, ⟨0x1D4D0, 0x1D4E9, 1, -119919⟩,
   ⟨0x1D4EA, 0x1D503, 1, -119945⟩, ⟨0x1D504, 0x1D505, 1, -119971⟩, ⟨0x1D507, 0x1D50A, 1, -119971⟩,
   ⟨0x1D50D, 0x1D514, 1, -119971⟩, ⟨0x1D516, 0x1D51C, 1, -119971⟩, ⟨0x1D51E, 0x1D537, 1, -119997⟩,
   ⟨0x1D538, 0x1D539, 1, -120023⟩, ⟨0x1D53B, 0x1D53E, 1, -120023⟩, ⟨0x1D540, 0x1D544, 1, -120023⟩,
   ⟨0x1D546, 0x1D546, 1, -120023⟩, ⟨0x1D54A, 0x1D550, 1, -120023⟩, ⟨0x1D552, 0x1D56B, 1, -120049⟩,
   ⟨0x1D56C, 0x1D585, 1, -120075⟩, ⟨0x1D586, 0x1D59F, 1, -120101⟩, ⟨0x1D5A0, 0x1D5B9, 1, -120127⟩,
   ⟨0x1D5BA, 0x1D5D3, 1, -120153⟩, ⟨0x1D5D4, 0x1D5ED, 1, -120179⟩, ⟨0x1D5EE, 0x1D607, 1, -120205⟩,
   ⟨0x1D608, 0x1D621, 1, -120231⟩, ⟨0x1D622, 0x1D63B, 1, -120257⟩, ⟨0x1D63C, 0x1D655, 1, -120283⟩,
   ⟨0x1D656, 0x1D66F, 1, -120309⟩, ⟨0x1D670, 0x1D689, 1, -120335⟩, ⟨0x1D68A, 0x1D6A3, 1, -120361⟩,
   ⟨0x1D6A4, 0x1D6A4, 1, -120179⟩, ⟨0x1D6A5, 0x1D6A5, 1, -119918⟩, ⟨0x1D6A8, 0x1D6B8, 1, -119543⟩,
   ⟨0x1D6B9, 0x1D6B9, 1, -119553⟩, ⟨0x1D6BA, 0x1D6C0, 1, -119543⟩, ⟨0x1D6C1, 0x1D6C1, 1, -111802⟩,
   ⟨0x1D6C2, 0x1D6D2, 1, -119569⟩, ⟨0x1D6D3, 0x1D6D3, 1, -119568⟩, ⟨0x1D6D4, 0x1D6DA, 1, -119569⟩,
   ⟨0x1D6E2, 0x1D6F2, 1, -119601⟩, ⟨0x1D6F3, 0x1D6F3, 1, -119611⟩, ⟨0x1D6F4, 0x1D6FA, 1, -119601⟩,
   ⟨0x1D6FB, 0x1D6FB, 1, -111860⟩, ⟨0x1D6FC, 0x1D70C, 1, -119627⟩, ⟨0x1D70D, 0x1D70D, 1, -119626⟩,
   ⟨0x1D70E, 0x1D714, 1, -119627⟩, ⟨0x1D71C, 0x1D72C, 1, -119659⟩, ⟨0x1D72D, 0x1D72D, 1, -119669⟩,
   ⟨0x1D72E, 0x1D734, 1, -119659⟩, ⟨0x1D735, 0x1D735, 1, -111918⟩, ⟨0x1D736, 0x1D746, 1, -119685⟩,
   ⟨0x1D747, 0x1D747, 1, -119684⟩, ⟨0x1D748, 0x1D74E, 1, -119685⟩, ⟨0x1D756, 0x1D766, 1, -119717⟩,
   ⟨0x1D767, 0x1D767, 1, -119727⟩, ⟨0x1D768, 0x1D76E, 1, -119717⟩, ⟨0x1D76F, 0x1D76F, 1, -111976⟩,
   ⟨0x1D770, 0x1D780, 1, -119743⟩, ⟨0x1D781, 0x1D781, 1, -119742⟩, ⟨0x1D782, 0x1D788, 1, -119743⟩,
   ⟨0x1D790, 0x1D7A0, 1, -119775⟩, ⟨0x1D7A1, 0x1D7A1, 1, -119785⟩, ⟨0x1D7A2, 0x1D7A8, 1, -119775⟩,
   ⟨0x1D7A9, 0x1D7A9, 1, -112034⟩, ⟨0x1D7AA, 0x1D7BA, 1, -119801⟩, ⟨0x1D7BB, 0x1D7BB, 1, -119800⟩,
   ⟨0x1D7BC, 0x1D7C2, 1, -119801⟩, ⟨0x1D7CE, 0x1D7D7, 1, -120734⟩, ⟨0x1D7D8, 0x1D7E1, 1, -120744⟩,
   ⟨0x1D7E2, 0x1D7EB, 1, -120754⟩, ⟨0x1D7EC, 0x1D7F5, 1, -120764⟩, ⟨0x1D7F6, 0x1D7FF, 1, -120774⟩,
   ⟨0x1E030, 0x1E038, 1, -121856⟩, ⟨0x1E039, 0x1E03B, 1, -121855⟩, ⟨0x1E03C, 0x1E046, 1, -121854⟩,
   ⟨0x1E051, 0x1E059, 1, -121889⟩, ⟨0x1E05A, 0x1E05B, 1, -121888⟩, ⟨0x1E05C, 0x1E05D, 1, -121886⟩,
   ⟨0x1E05E, 0x1E05E, 1, -121885⟩, ⟨0x1E05F, 0x1E064, 1, -121884⟩, ⟨0x1E065, 0x1E066, 1, -121883⟩,
   ⟨0x1E900, 0x1E921, 1, 34⟩, ⟨0x1EE00, 0x1EE01, 1, -124889⟩, ⟨0x1EE02, 0x1EE02, 1, -124886⟩,
   ⟨0x1EE03, 0x1EE03, 1, -124884⟩, ⟨0x1EE0A, 0x1EE0D, 1, -124871⟩, ⟨0x1EE21, 0x1EE21, 1, -124921⟩,
   ⟨0x1EE22, 0x1EE22, 1, -124918⟩, ⟨0x1EE24, 0x1EE24, 1, -124893⟩, ⟨0x1EE27, 0x1EE27, 1, -124922⟩,
   ⟨0x1EE29, 0x1EE29, 1, -124895⟩, ⟨0x1EE2A, 0x1EE2D, 1, -124903⟩, ⟨0x1EE34, 0x1EE34, 1, -124928⟩,
   ⟨0x1EE35, 0x1EE36, 1, -124939⟩, ⟨0x1EE37, 0x1EE37, 1, -124937⟩, ⟨0x1EE39, 0x1EE39, 1, -124931⟩,
   ⟨0x1EE3B, 0x1EE3B, 1, -124929⟩, ⟨0x1EE42, 0x1EE42, 1, -124950⟩, ⟨0x1EE47, 0x1EE47, 1, -124954⟩,
   ⟨0x1EE49, 0x1EE49, 1, -124927⟩, ⟨0x1EE4B, 0x1EE4D, 2, -124935⟩, ⟨0x1EE4E, 0x1EE4E, 1, -124955⟩,
   ⟨0x1EE4F, 0x1EE4F, 1, -124950⟩, ⟨0x1EE51, 0x1EE51, 1, -124956⟩, ⟨0x1EE52, 0x1EE52, 1, -124944⟩,
   ⟨0x1EE54, 0x1EE54, 1, -124960⟩, ⟨0x1EE57, 0x1EE57, 1, -124969⟩, ⟨0x1EE59, 0x1EE59, 1, -124963⟩,
   ⟨0x1EE5B, 0x1EE5B, 1, -124961⟩, ⟨0x1EE5D, 0x1EE5D, 1, -124835⟩, ⟨0x1EE5F, 0x1EE5F, 1, -124912⟩,
   ⟨0x1EE61, 0x1EE61, 1, -124985⟩, ⟨0x1EE62, 0x1EE62, 1, -124982⟩, ⟨0x1EE64, 0x1EE64, 1, -124957⟩,
   ⟨0x1EE67, 0x1EE67, 1, -124986⟩, ⟨0x1EE68, 0x1EE68, 1, -124977⟩, ⟨0x1EE69, 0x1EE69, 1, -124959⟩,
   ⟨0x1EE6A, 0x1EE6C, 2, -124967⟩, ⟨0x1EE74, 0x1EE74, 1, -124992⟩, ⟨0x1EE75, 0x1EE76, 1, -125003⟩,
   ⟨0x1EE77, 0x1EE77, 1, -125001⟩, ⟨0x1EE7E, 0x1EE7E, 1, -124893⟩, ⟨0x1EE80, 0x1EE81, 1, -125017⟩,
   ⟨0x1EE8B, 0x1EE8D, 1, -124999⟩, ⟨0x1EEA1, 0x1EEA1, 1, -125049⟩, ⟨0x1EEA2, 0x1EEA2, 1, -125046⟩,
   ⟨0x1EEA3, 0x1EEA3, 1, -125044⟩, ⟨0x1EEAB, 0x1EEAD, 1, -125031⟩, ⟨0x1F12B, 0x1F12B, 1, -127176⟩,
   ⟨0x1F12C, 0x1F12C, 1, -127162⟩, ⟨0x1F130, 0x1F149, 1, -127183⟩, ⟨0x1F202, 0x1F202, 1, -115021⟩,
   ⟨0x1F250, 0x1F250, 1, -103097⟩, ⟨0x1F251, 0x1F251, 1, -106082⟩, ⟨0x1FBF0, 0x1FBF9, 1, -129984⟩]

/-- Characters in a row and what each of them folds to. -/
def foldStretches : List (Nat × String) :=
  [(0x018B, "ƌƌƍǝəɛƒƒɠɣƕɩɨƙ"), (0x01A6, "ʀƨƨʃƪƫƭƭʈư"), (0x023A, "ⱥȼȼƚⱦȿɀɂɂƀʉʌ"),
   (0x02B0, "hɦjrɹɻʁwy"), (0x02E0, "ɣlsxʕ"), (0x03CF, "ϗβθυύϋφπ"), (0x03F0, "κρσϳθε϶ϸϸσϻ"),
   (0x1C80, "вдосттъѣꙋ"), (0x1D3C, "oȣprtuwaɐɑᴂbdeəɛɜgᵎkmŋoɔᴖᴗptuᴝɯvᴥ"), (0x1D9B, "ɒcɕðɜfɟɡɥ"),
   (0x1DA7, "ᵻʝɭᶅʟɱɰ"), (0x1DB2, "ɸʂʃƫʉʊᴜʋʌz"), (0x1F71, "άὲέὴήὶίὸόὺύὼώ"), (0x1FC8, "ὲέὴή"),
   (0x1FF8, "ὸόὼώ"), (0x2000, "           "), (0x207A, "+−=()n"), (0x2090, "aeoxəh"),
   (0x210C, "hhhħiil"), (0x2124, "z℥ω℧z℩kå"), (0x213C, "πγγπ∑"), (0x2C60, "ⱡⱡɫᵽɽ"),
   (0x2C6D, "ɑɱɐɒⱱⱳⱳⱴⱶ"), (0x2F00, "一丨丶丿乙亅二亠人儿入八冂冖冫几凵刀力勹匕匚匸十卜卩厂厶又口囗土士夂夊夕大女子宀"),
   (0x2F28, "寸小尢尸屮山巛工己巾干幺广廴廾弋弓彐彡彳心戈戶手支攴文斗斤方无日曰月木欠止歹殳毋"),
   (0x2F50, "比毛氏气水火爪父爻爿片牙牛犬玄玉瓜瓦甘生用田疋疒癶白皮皿目矛矢石示禸禾穴立竹米糸"),
   (0x2F78, "缶网羊羽老而耒耳聿肉臣自至臼舌舛舟艮色艸虍虫血行衣襾見角言谷豆豕豸貝赤走足身車辛"),
   (0x2FA0, "辰辵邑酉釆里金長門阜隶隹雨靑非面革韋韭音頁風飛食首香馬骨高髟鬥鬯鬲鬼魚鳥鹵鹿麥麻"), (0x2FC8, "黃黍黑黹黽鼎鼓鼠鼻齊齒龍龜龠"),
   (0x3169, "ᇌᇎᇓᇗᇙᄜᇝᇟᄝᄞᄠᄢᄣᄧᄩ"), (0x317D, "ᄲᄶᅀᅇᅌ"), (0x3189, "ᆈᆑᆒᆔᆞᆡ"), (0x3192, "一二三四上中下甲乙丙丁天地人"),
   (0x3244, "問幼文箏"), (0x326E, "가나다라마바사아자차카타파하"),
   (0x327E, "우㉿一二三四五六七八九十月火水木金土日株有社名特財祝労秘男女適優印注項休写正上中"), (0x32A6, "下左右医宗学監企資協夜"),
   (0x32D0, "アイウエオカキクケコサシスセソタチツテト"), (0x32EA, "ヒフヘホ"), (0xA7AA, "ɦɜɡɬɪꞯʞʇʝꭓ"), (0xA7F2, "cfqꟶꟶꟷħœ"),
   (0xAB5C, "ꜧꬷɫꭒ"), (0xF900, "豈更車賈滑串句龜龜契金喇奈懶癩羅蘿螺裸邏樂洛烙珞落酪駱亂卵欄爛蘭鸞嵐濫藍襤拉臘蠟"),
   (0xF928, "廊朗浪狼郎來冷勞擄櫓爐盧老蘆虜路露魯鷺碌祿綠菉錄鹿論壟弄籠聾牢磊賂雷壘屢樓淚漏累"),
   (0xF950, "縷陋勒肋凜凌稜綾菱陵讀拏樂諾丹寧怒率異北磻便復不泌數索參塞省葉說殺辰沈拾若掠略亮"),
   (0xF978, "兩凉梁糧良諒量勵呂女廬旅濾礪閭驪麗黎力曆歷轢年憐戀撚漣煉璉秊練聯輦蓮連鍊列劣咽烈"),
   (0xF9A0, "裂說廉念捻殮簾獵令囹寧嶺怜玲瑩羚聆鈴零靈領例禮醴隸惡了僚寮尿料樂燎療蓼遼龍暈阮劉"),
   (0xF9C8, "杻柳流溜琉留硫紐類六戮陸倫崙淪輪律慄栗率隆利吏履易李梨泥理痢罹裏裡里離匿溺吝燐璘"),
   (0xF9F0, "藺隣鱗麟林淋臨立笠粒狀炙識什茶刺切度拓糖宅洞暴輻行降見廓兀嗀﨎﨏塚﨑晴﨓﨔凞猪益"), (0xFA18, "礼神祥福靖精羽﨟蘒﨡諸﨣﨤逸都"),
   (0xFA2A, "飯飼館鶴郞隷侮僧免勉勤卑喝嘆器塀墨層屮悔慨憎懲敏既暑梅海渚漢煮爫琢碑社祉祈祐祖祝"), (0xFA52, "禍禎穀突節練縉繁署者臭艹艹著褐視謁謹賓贈辶逸難響頻恵𤋮舘"),
   (0xFA70, "並况全侀充冀勇勺喝啕喙嗢塚墳奄奔婢嬨廒廙彩徭惘慎愈憎慠懲戴揄搜摒敖晴朗望杖歹殺流"),
   (0xFA98, "滛滋漢瀞煮瞧爵犯猪瑱甆画瘝瘟益盛直睊着磌窱節类絛練缾者荒華蝹襁覆視調諸請謁諾諭謹"), (0xFAC0, "變贈輸遲醙鉶陼難靖韛響頋頻鬒龜𢡊𢡄𣏕㮝䀘䀹𥉉𥳐𧻓齃龎"),
   (0xFB50, "ٱٱٻٻٻٻپپپپڀڀڀڀٺٺٺٺٿٿٿٿٹٹٹٹڤڤڤڤڦڦڦڦڄڄڄڄڃڃ"),
   (0xFB78, "ڃڃچچچچڇڇڇڇڍڍڌڌڎڎڈڈژژڑڑککککگگگگڳڳڳڳڱڱڱڱںں"), (0xFBA0, "ڻڻڻڻۀۀہہہہھھھھےےۓۓ"),
   (0xFBD3, "ڭڭڭڭۇۇۆۆۈۈ"), (0xFBDE, "ۋۋۅۅۉۉېېېېىى"), (0xFBFC, "یییی"), (0xFE31, "—–__()\x7b\x7d"),
   (0xFE4D, "___,、"), (0xFE54, ";:?!—()\x7b\x7d〔〕#&*+-<>="), (0xFE96, "تتتثثثثججججححححخخخ"),
   (0xFEB2, "سسسششششصصصصضضضضططططظظظظععععغغغغففففققققك"), (0xFEDA, "كككللللممممننننههه"),
   (0xFF61, ".「」、・ヲァィゥェォャュョッーアイウエオカキクケコサシスセソタチツテト"), (0xFF8B, "ヒフヘホ"),
   (0x10787, "ʣꭦʥʤɖɗᶑɘɞʩɤɢɠʛħʜɧʄʪʫɬ𝼄ꞎɮ𝼅ʎ𝼆øɶɷqɺ𝼈ɽɾʀʨʦꭧʧ"), (0x107AF, "ʈⱱ"), (0x1D6DB, "∂εθκφρπ"),
   (0x1D715, "∂εθκφρπ"), (0x1D74F, "∂εθκφρπ"), (0x1D789, "∂εθκφρπ"), (0x1D7C3, "∂εθκφρπϝϝ"),
   (0x1E047, "ыэюꚉәіјөүӏ"), (0x1E067, "ґіѕџҫꙑұ"), (0x1EE05, "وزحطي"),
   (0x1EE0E, "سعفصقرشتثخذضظغٮںڡٯ"), (0x1EE2E, "سعفصق"), (0x1EE6D, "نسعفصق"), (0x1EE79, "ضظغٮ"),
   (0x1EE82, "جدهوزحطي"), (0x1EE8E, "سعفصقرشتثخذضظغ"), (0x1EEA5, "وزحطي"),
   (0x1EEAE, "سعفصقرشتثخذضظغ"), (0x1F210, "手字双デ二多解天交映無料前後再新初終生販声吹演投捕一三遊左中右指走打禁空合満有月"),
   (0x1F238, "申割営配"), (0x2F800, "丽丸乁𠄢你侮侻倂偺備僧像㒞𠘺免兔兤具𠔜㒹內再𠕋冗冤仌冬况𩇟凵刃㓟刻剆割剷㔕勇勉勤"),
   (0x2F828, "勺包匆北卉卑博即卽卿卿卿𠨬灰及叟𠭣叫叱吆咞吸呈周咢哶唐啓啣善善喙喫喳嗂圖嘆圗噑噴"), (0x2F850, "切壮城埴堍型堲報墬𡓤売壷夆多夢奢𡚨𡛪姬娛娧姘婦㛮"),
   (0x2F869, "嬈嬾嬾𡧈寃寘寧寳𡬘寿将"), (0x2F875, "尢㞁屠屮峀岍𡷤嵃𡷦嵮嵫嵼巡巢㠯巽帨帽幩㡢𢆃㡼庰庳庶廊𪎒廾𢌱𢌱舁弢弢㣇𣊸𦇚形彫㣣徚"),
   (0x2F89D, "忍志忹悁㤺㤜悔𢛔惇慈慌慎慌慺憎憲憤憯懞懲懶成戛扝抱拔捐𢬌挽拼捨掃揤𢯱搢揅掩㨮摩摾"),
   (0x2F8C5, "撝摷㩬敏敬𣀊旣書晉㬙暑㬈㫤冒冕最暜肭䏙朗望朡杞杓𣏃㭉柺枅桒梅𣑭梎栟椔㮝楂榣槪檨𣚣"),
   (0x2F8ED, "櫛㰘次𣢧歔㱎歲殟殺殻𣪍𡴋𣫺汎𣲼沿泍汧洖派海流浩浸涅𣴞洴港湮㴳滋滇𣻑淹潮𣽞𣾎濆瀹瀞"), (0x2F915, "瀛㶖灊災灷炭𠔥煅𤉣熜"),
   (0x2F920, "爨爵牐𤘈犀犕𤜵𤠔獺王㺬玥㺸㺸瑇瑜瑱璅瓊㼛甤𤰶甾𤲒異𢆟瘐𤾡𤾸𥁄㿼䀈直𥃳𥃲𥄙𥄳眞真真"), (0x2F948, "睊䀹瞋䁆䂖𥐝硎碌磌䃣𥘦祖𥚚𥛅福秫䄯穀穊穏𥥼𥪧𥪧"),
   (0x2F960, "䈂𥮫篆築䈧𥲀糒䊠糨糣紀𥾆絣䌁緇縂繅䌴𦈨𦉇䍙𦋙罺𦌾羕翺者𦓚𦔣聠𦖨聰𣍟䏕育脃䐋脾媵𦞧"),
   (0x2F988, "𦞵𣎓𣎜舁舄辞䑫芑芋芝劳花芳芽苦𦬼若茝荣莭茣莽菧著荓菊菌菜𦰶𦵫𦳕䔫蓱蓳蔖𧏊蕤𦼬䕝䕡"), (0x2F9B0, "𦾱𧃒䕫虐虜虧虩蚩蚈蜎蛢蝹蜨蝫螆"),
   (0x2F9C0, "蟡蠁䗹衠衣𧙧裗裞䘵裺㒻𧢮𧥦䚾䛇誠諭變豕𧲨貫賁贛起𧼯𠠄跋趼跰𠣞軔輸𨗒𨗭邔郱鄑𨜮鄛鈸"),
   (0x2F9E8, "鋗鋘鉼鏹鐕𨯺開䦕閷𨵷䧦雃嶲霣𩅅𩈚䩮䩶韠𩐊䪲𩒖頋頋頩𩖶飢䬳餩馧駂駾䯎𩬰鬒鱀鳽䳎䳭鵧"), (0x2FA10, "𪃎䳸𪄅𪈎𪊑麻䵖黹黾鼅鼏鼖鼻𪘀")]

/-- The characters that fold to several. -/
def foldExpansions : List (Nat × String) :=
  [(0x00A8, " \u0308"), (0x00AF, " \u0304"), (0x00B4, " \u0301"), (0x00B8, " \u0327"),
   (0x00BC, "1⁄4"), (0x00BD, "1⁄2"), (0x00BE, "3⁄4"), (0x0130, "i\u0307"), (0x0132, "ij"),
   (0x0133, "ij"), (0x013F, "l·"), (0x0140, "l·"), (0x0149, "ʼn"), (0x01C4, "dž"), (0x01C5, "dž"),
   (0x01C6, "dž"), (0x01C7, "lj"), (0x01C8, "lj"), (0x01C9, "lj"), (0x01CA, "nj"), (0x01CB, "nj"),
   (0x01CC, "nj"), (0x01F1, "dz"), (0x01F2, "dz"), (0x01F3, "dz"), (0x02D8, " \u0306"),
   (0x02D9, " \u0307"), (0x02DA, " \u030a"), (0x02DB, " \u0328"), (0x02DC, " \u0303"),
   (0x02DD, " \u030b"), (0x0344, "\u0308\u0301"), (0x037A, " ι"), (0x0384, " \u0301"),
   (0x0385, " \u0308\u0301"), (0x0587, "եւ"), (0x0675, "اٴ"), (0x0676, "وٴ"), (0x0677, "ۇٴ"),
   (0x0678, "يٴ"), (0x0958, "क\u093c"), (0x0959, "ख\u093c"), (0x095A, "ग\u093c"),
   (0x095B, "ज\u093c"), (0x095C, "ड\u093c"), (0x095D, "ढ\u093c"), (0x095E, "फ\u093c"),
   (0x095F, "य\u093c"), (0x09DC, "ড\u09bc"), (0x09DD, "ঢ\u09bc"), (0x09DF, "য\u09bc"),
   (0x0A33, "ਲ\u0a3c"), (0x0A36, "ਸ\u0a3c"), (0x0A59, "ਖ\u0a3c"), (0x0A5A, "ਗ\u0a3c"),
   (0x0A5B, "ਜ\u0a3c"), (0x0A5E, "ਫ\u0a3c"), (0x0B5C, "ଡ\u0b3c"), (0x0B5D, "ଢ\u0b3c"),
   (0x0E33, "\u0e4dา"), (0x0EB3, "\u0ecdາ"), (0x0EDC, "ຫນ"), (0x0EDD, "ຫມ"), (0x0F43, "ག\u0fb7"),
   (0x0F4D, "ཌ\u0fb7"), (0x0F52, "ད\u0fb7"), (0x0F57, "བ\u0fb7"), (0x0F5C, "ཛ\u0fb7"),
   (0x0F69, "ཀ\u0fb5"), (0x0F73, "\u0f71\u0f72"), (0x0F75, "\u0f71\u0f74"),
   (0x0F76, "\u0fb2\u0f80"), (0x0F77, "\u0fb2\u0f71\u0f80"), (0x0F78, "\u0fb3\u0f80"),
   (0x0F79, "\u0fb3\u0f71\u0f80"), (0x0F81, "\u0f71\u0f80"), (0x0F93, "\u0f92\u0fb7"),
   (0x0F9D, "\u0f9c\u0fb7"), (0x0FA2, "\u0fa1\u0fb7"), (0x0FA7, "\u0fa6\u0fb7"),
   (0x0FAC, "\u0fab\u0fb7"), (0x0FB9, "\u0f90\u0fb5"), (0x1E9A, "aʾ"), (0x1E9E, "ss"),
   (0x1F80, "ἀι"), (0x1F81, "ἁι"), (0x1F82, "ἂι"), (0x1F83, "ἃι"), (0x1F84, "ἄι"), (0x1F85, "ἅι"),
   (0x1F86, "ἆι"), (0x1F87, "ἇι"), (0x1F88, "ἀι"), (0x1F89, "ἁι"), (0x1F8A, "ἂι"), (0x1F8B, "ἃι"),
   (0x1F8C, "ἄι"), (0x1F8D, "ἅι"), (0x1F8E, "ἆι"), (0x1F8F, "ἇι"), (0x1F90, "ἠι"), (0x1F91, "ἡι"),
   (0x1F92, "ἢι"), (0x1F93, "ἣι"), (0x1F94, "ἤι"), (0x1F95, "ἥι"), (0x1F96, "ἦι"), (0x1F97, "ἧι"),
   (0x1F98, "ἠι"), (0x1F99, "ἡι"), (0x1F9A, "ἢι"), (0x1F9B, "ἣι"), (0x1F9C, "ἤι"), (0x1F9D, "ἥι"),
   (0x1F9E, "ἦι"), (0x1F9F, "ἧι"), (0x1FA0, "ὠι"), (0x1FA1, "ὡι"), (0x1FA2, "ὢι"), (0x1FA3, "ὣι"),
   (0x1FA4, "ὤι"), (0x1FA5, "ὥι"), (0x1FA6, "ὦι"), (0x1FA7, "ὧι"), (0x1FA8, "ὠι"), (0x1FA9, "ὡι"),
   (0x1FAA, "ὢι"), (0x1FAB, "ὣι"), (0x1FAC, "ὤι"), (0x1FAD, "ὥι"), (0x1FAE, "ὦι"), (0x1FAF, "ὧι"),
   (0x1FB2, "ὰι"), (0x1FB3, "αι"), (0x1FB4, "άι"), (0x1FB7, "ᾶι"), (0x1FBC, "αι"),
   (0x1FBD, " \u0313"), (0x1FBF, " \u0313"), (0x1FC0, " \u0342"), (0x1FC1, " \u0308\u0342"),
   (0x1FC2, "ὴι"), (0x1FC3, "ηι"), (0x1FC4, "ήι"), (0x1FC7, "ῆι"), (0x1FCC, "ηι"),
   (0x1FCD, " \u0313\u0300"), (0x1FCE, " \u0313\u0301"), (0x1FCF, " \u0313\u0342"),
   (0x1FDD, " \u0314\u0300"), (0x1FDE, " \u0314\u0301"), (0x1FDF, " \u0314\u0342"),
   (0x1FED, " \u0308\u0300"), (0x1FEE, " \u0308\u0301"), (0x1FF2, "ὼι"), (0x1FF3, "ωι"),
   (0x1FF4, "ώι"), (0x1FF7, "ῶι"), (0x1FFC, "ωι"), (0x1FFD, " \u0301"), (0x1FFE, " \u0314"),
   (0x2017, " \u0333"), (0x2033, "′′"), (0x2034, "′′′"), (0x2036, "‵‵"), (0x2037, "‵‵‵"),
   (0x203C, "!!"), (0x203E, " \u0305"), (0x2047, "??"), (0x2048, "?!"), (0x2049, "!?"),
   (0x2057, "′′′′"), (0x20A8, "rs"), (0x2100, "a/c"), (0x2101, "a/s"), (0x2103, "°c"),
   (0x2105, "c/o"), (0x2106, "c/u"), (0x2109, "°f"), (0x2116, "no"), (0x2120, "sm"),
   (0x2121, "tel"), (0x2122, "tm"), (0x213B, "fax"), (0x2150, "1⁄7"), (0x2151, "1⁄9"),
   (0x2152, "1⁄10"), (0x2153, "1⁄3"), (0x2154, "2⁄3"), (0x2155, "1⁄5"), (0x2156, "2⁄5"),
   (0x2157, "3⁄5"), (0x2158, "4⁄5"), (0x2159, "1⁄6"), (0x215A, "5⁄6"), (0x215B, "1⁄8"),
   (0x215C, "3⁄8"), (0x215D, "5⁄8"), (0x215E, "7⁄8"), (0x215F, "1⁄"), (0x2161, "ii"),
   (0x2162, "iii"), (0x2163, "iv"), (0x2165, "vi"), (0x2166, "vii"), (0x2167, "viii"),
   (0x2168, "ix"), (0x216A, "xi"), (0x216B, "xii"), (0x2171, "ii"), (0x2172, "iii"), (0x2173, "iv"),
   (0x2175, "vi"), (0x2176, "vii"), (0x2177, "viii"), (0x2178, "ix"), (0x217A, "xi"),
   (0x217B, "xii"), (0x2189, "0⁄3"), (0x222C, "∫∫"), (0x222D, "∫∫∫"), (0x222F, "∮∮"),
   (0x2230, "∮∮∮"), (0x2469, "10"), (0x246A, "11"), (0x246B, "12"), (0x246C, "13"), (0x246D, "14"),
   (0x246E, "15"), (0x246F, "16"), (0x2470, "17"), (0x2471, "18"), (0x2472, "19"), (0x2473, "20"),
   (0x2474, "(1)"), (0x2475, "(2)"), (0x2476, "(3)"), (0x2477, "(4)"), (0x2478, "(5)"),
   (0x2479, "(6)"), (0x247A, "(7)"), (0x247B, "(8)"), (0x247C, "(9)"), (0x247D, "(10)"),
   (0x247E, "(11)"), (0x247F, "(12)"), (0x2480, "(13)"), (0x2481, "(14)"), (0x2482, "(15)"),
   (0x2483, "(16)"), (0x2484, "(17)"), (0x2485, "(18)"), (0x2486, "(19)"), (0x2487, "(20)"),
   (0x249C, "(a)"), (0x249D, "(b)"), (0x249E, "(c)"), (0x249F, "(d)"), (0x24A0, "(e)"),
   (0x24A1, "(f)"), (0x24A2, "(g)"), (0x24A3, "(h)"), (0x24A4, "(i)"), (0x24A5, "(j)"),
   (0x24A6, "(k)"), (0x24A7, "(l)"), (0x24A8, "(m)"), (0x24A9, "(n)"), (0x24AA, "(o)"),
   (0x24AB, "(p)"), (0x24AC, "(q)"), (0x24AD, "(r)"), (0x24AE, "(s)"), (0x24AF, "(t)"),
   (0x24B0, "(u)"), (0x24B1, "(v)"), (0x24B2, "(w)"), (0x24B3, "(x)"), (0x24B4, "(y)"),
   (0x24B5, "(z)"), (0x2A0C, "∫∫∫∫"), (0x2A74, "::="), (0x2A75, "=="), (0x2A76, "==="),
   (0x2ADC, "⫝\u0338"), (0x309B, " \u3099"), (0x309C, " \u309a"), (0x309F, "より"), (0x30FF, "コト"),
   (0x3200, "(ᄀ)"), (0x3201, "(ᄂ)"), (0x3202, "(ᄃ)"), (0x3203, "(ᄅ)"), (0x3204, "(ᄆ)"),
   (0x3205, "(ᄇ)"), (0x3206, "(ᄉ)"), (0x3207, "(ᄋ)"), (0x3208, "(ᄌ)"), (0x3209, "(ᄎ)"),
   (0x320A, "(ᄏ)"), (0x320B, "(ᄐ)"), (0x320C, "(ᄑ)"), (0x320D, "(ᄒ)"), (0x320E, "(가)"),
   (0x320F, "(나)"), (0x3210, "(다)"), (0x3211, "(라)"), (0x3212, "(마)"), (0x3213, "(바)"),
   (0x3214, "(사)"), (0x3215, "(아)"), (0x3216, "(자)"), (0x3217, "(차)"), (0x3218, "(카)"),
   (0x3219, "(타)"), (0x321A, "(파)"), (0x321B, "(하)"), (0x321C, "(주)"), (0x321D, "(오전)"),
   (0x321E, "(오후)"), (0x3220, "(一)"), (0x3221, "(二)"), (0x3222, "(三)"), (0x3223, "(四)"),
   (0x3224, "(五)"), (0x3225, "(六)"), (0x3226, "(七)"), (0x3227, "(八)"), (0x3228, "(九)"),
   (0x3229, "(十)"), (0x322A, "(月)"), (0x322B, "(火)"), (0x322C, "(水)"), (0x322D, "(木)"),
   (0x322E, "(金)"), (0x322F, "(土)"), (0x3230, "(日)"), (0x3231, "(株)"), (0x3232, "(有)"),
   (0x3233, "(社)"), (0x3234, "(名)"), (0x3235, "(特)"), (0x3236, "(財)"), (0x3237, "(祝)"),
   (0x3238, "(労)"), (0x3239, "(代)"), (0x323A, "(呼)"), (0x323B, "(学)"), (0x323C, "(監)"),
   (0x323D, "(企)"), (0x323E, "(資)"), (0x323F, "(協)"), (0x3240, "(祭)"), (0x3241, "(休)"),
   (0x3242, "(自)"), (0x3243, "(至)"), (0x3250, "pte"), (0x3251, "21"), (0x3252, "22"),
   (0x3253, "23"), (0x3254, "24"), (0x3255, "25"), (0x3256, "26"), (0x3257, "27"), (0x3258, "28"),
   (0x3259, "29"), (0x325A, "30"), (0x325B, "31"), (0x325C, "32"), (0x325D, "33"), (0x325E, "34"),
   (0x325F, "35"), (0x327C, "참고"), (0x327D, "주의"), (0x32B1, "36"), (0x32B2, "37"), (0x32B3, "38"),
   (0x32B4, "39"), (0x32B5, "40"), (0x32B6, "41"), (0x32B7, "42"), (0x32B8, "43"), (0x32B9, "44"),
   (0x32BA, "45"), (0x32BB, "46"), (0x32BC, "47"), (0x32BD, "48"), (0x32BE, "49"), (0x32BF, "50"),
   (0x32C0, "1月"), (0x32C1, "2月"), (0x32C2, "3月"), (0x32C3, "4月"), (0x32C4, "5月"), (0x32C5, "6月"),
   (0x32C6, "7月"), (0x32C7, "8月"), (0x32C8, "9月"), (0x32C9, "10月"), (0x32CA, "11月"),
   (0x32CB, "12月"), (0x32CC, "hg"), (0x32CD, "erg"), (0x32CE, "ev"), (0x32CF, "ltd"),
   (0x32FF, "令和"), (0x3300, "アパート"), (0x3301, "アルファ"), (0x3302, "アンペア"), (0x3303, "アール"),
   (0x3304, "イニング"), (0x3305, "インチ"), (0x3306, "ウォン"), (0x3307, "エスクード"), (0x3308, "エーカー"),
   (0x3309, "オンス"), (0x330A, "オーム"), (0x330B, "カイリ"), (0x330C, "カラット"), (0x330D, "カロリー"),
   (0x330E, "ガロン"), (0x330F, "ガンマ"), (0x3310, "ギガ"), (0x3311, "ギニー"), (0x3312, "キュリー"),
   (0x3313, "ギルダー"), (0x3314, "キロ"), (0x3315, "キログラム"), (0x3316, "キロメートル"), (0x3317, "キロワット"),
   (0x3318, "グラム"), (0x3319, "グラムトン"), (0x331A, "クルゼイロ"), (0x331B, "クローネ"), (0x331C, "ケース"),
   (0x331D, "コルナ"), (0x331E, "コーポ"), (0x331F, "サイクル"), (0x3320, "サンチーム"), (0x3321, "シリング"),
   (0x3322, "センチ"), (0x3323, "セント"), (0x3324, "ダース"), (0x3325, "デシ"), (0x3326, "ドル"),
   (0x3327, "トン"), (0x3328, "ナノ"), (0x3329, "ノット"), (0x332A, "ハイツ"), (0x332B, "パーセント"),
   (0x332C, "パーツ"), (0x332D, "バーレル"), (0x332E, "ピアストル"), (0x332F, "ピクル"), (0x3330, "ピコ"),
   (0x3331, "ビル"), (0x3332, "ファラッド"), (0x3333, "フィート"), (0x3334, "ブッシェル"), (0x3335, "フラン"),
   (0x3336, "ヘクタール"), (0x3337, "ペソ"), (0x3338, "ペニヒ"), (0x3339, "ヘルツ"), (0x333A, "ペンス"),
   (0x333B, "ページ"), (0x333C, "ベータ"), (0x333D, "ポイント"), (0x333E, "ボルト"), (0x333F, "ホン"),
   (0x3340, "ポンド"), (0x3341, "ホール"), (0x3342, "ホーン"), (0x3343, "マイクロ"), (0x3344, "マイル"),
   (0x3345, "マッハ"), (0x3346, "マルク"), (0x3347, "マンション"), (0x3348, "ミクロン"), (0x3349, "ミリ"),
   (0x334A, "ミリバール"), (0x334B, "メガ"), (0x334C, "メガトン"), (0x334D, "メートル"), (0x334E, "ヤード"),
   (0x334F, "ヤール"), (0x3350, "ユアン"), (0x3351, "リットル"), (0x3352, "リラ"), (0x3353, "ルピー"),
   (0x3354, "ルーブル"), (0x3355, "レム"), (0x3356, "レントゲン"), (0x3357, "ワット"), (0x3358, "0点"),
   (0x3359, "1点"), (0x335A, "2点"), (0x335B, "3点"), (0x335C, "4点"), (0x335D, "5点"), (0x335E, "6点"),
   (0x335F, "7点"), (0x3360, "8点"), (0x3361, "9点"), (0x3362, "10点"), (0x3363, "11点"),
   (0x3364, "12点"), (0x3365, "13点"), (0x3366, "14点"), (0x3367, "15点"), (0x3368, "16点"),
   (0x3369, "17点"), (0x336A, "18点"), (0x336B, "19点"), (0x336C, "20点"), (0x336D, "21点"),
   (0x336E, "22点"), (0x336F, "23点"), (0x3370, "24点"), (0x3371, "hpa"), (0x3372, "da"),
   (0x3373, "au"), (0x3374, "bar"), (0x3375, "ov"), (0x3376, "pc"), (0x3377, "dm"), (0x3378, "dm2"),
   (0x3379, "dm3"), (0x337A, "iu"), (0x337B, "平成"), (0x337C, "昭和"), (0x337D, "大正"), (0x337E, "明治"),
   (0x337F, "株式会社"), (0x3380, "pa"), (0x3381, "na"), (0x3382, "μa"), (0x3383, "ma"), (0x3384, "ka"),
   (0x3385, "kb"), (0x3386, "mb"), (0x3387, "gb"), (0x3388, "cal"), (0x3389, "kcal"),
   (0x338A, "pf"), (0x338B, "nf"), (0x338C, "μf"), (0x338D, "μg"), (0x338E, "mg"), (0x338F, "kg"),
   (0x3390, "hz"), (0x3391, "khz"), (0x3392, "mhz"), (0x3393, "ghz"), (0x3394, "thz"),
   (0x3395, "μl"), (0x3396, "ml"), (0x3397, "dl"), (0x3398, "kl"), (0x3399, "fm"), (0x339A, "nm"),
   (0x339B, "μm"), (0x339C, "mm"), (0x339D, "cm"), (0x339E, "km"), (0x339F, "mm2"), (0x33A0, "cm2"),
   (0x33A1, "m2"), (0x33A2, "km2"), (0x33A3, "mm3"), (0x33A4, "cm3"), (0x33A5, "m3"),
   (0x33A6, "km3"), (0x33A7, "m∕s"), (0x33A8, "m∕s2"), (0x33A9, "pa"), (0x33AA, "kpa"),
   (0x33AB, "mpa"), (0x33AC, "gpa"), (0x33AD, "rad"), (0x33AE, "rad∕s"), (0x33AF, "rad∕s2"),
   (0x33B0, "ps"), (0x33B1, "ns"), (0x33B2, "μs"), (0x33B3, "ms"), (0x33B4, "pv"), (0x33B5, "nv"),
   (0x33B6, "μv"), (0x33B7, "mv"), (0x33B8, "kv"), (0x33B9, "mv"), (0x33BA, "pw"), (0x33BB, "nw"),
   (0x33BC, "μw"), (0x33BD, "mw"), (0x33BE, "kw"), (0x33BF, "mw"), (0x33C0, "kω"), (0x33C1, "mω"),
   (0x33C3, "bq"), (0x33C4, "cc"), (0x33C5, "cd"), (0x33C6, "c∕kg"), (0x33C8, "db"), (0x33C9, "gy"),
   (0x33CA, "ha"), (0x33CB, "hp"), (0x33CC, "in"), (0x33CD, "kk"), (0x33CE, "km"), (0x33CF, "kt"),
   (0x33D0, "lm"), (0x33D1, "ln"), (0x33D2, "log"), (0x33D3, "lx"), (0x33D4, "mb"), (0x33D5, "mil"),
   (0x33D6, "mol"), (0x33D7, "ph"), (0x33D9, "ppm"), (0x33DA, "pr"), (0x33DB, "sr"), (0x33DC, "sv"),
   (0x33DD, "wb"), (0x33DE, "v∕m"), (0x33DF, "a∕m"), (0x33E0, "1日"), (0x33E1, "2日"), (0x33E2, "3日"),
   (0x33E3, "4日"), (0x33E4, "5日"), (0x33E5, "6日"), (0x33E6, "7日"), (0x33E7, "8日"), (0x33E8, "9日"),
   (0x33E9, "10日"), (0x33EA, "11日"), (0x33EB, "12日"), (0x33EC, "13日"), (0x33ED, "14日"),
   (0x33EE, "15日"), (0x33EF, "16日"), (0x33F0, "17日"), (0x33F1, "18日"), (0x33F2, "19日"),
   (0x33F3, "20日"), (0x33F4, "21日"), (0x33F5, "22日"), (0x33F6, "23日"), (0x33F7, "24日"),
   (0x33F8, "25日"), (0x33F9, "26日"), (0x33FA, "27日"), (0x33FB, "28日"), (0x33FC, "29日"),
   (0x33FD, "30日"), (0x33FE, "31日"), (0x33FF, "gal"), (0xFB00, "ff"), (0xFB01, "fi"),
   (0xFB02, "fl"), (0xFB03, "ffi"), (0xFB04, "ffl"), (0xFB05, "st"), (0xFB06, "st"), (0xFB13, "մն"),
   (0xFB14, "մե"), (0xFB15, "մի"), (0xFB16, "վն"), (0xFB17, "մխ"), (0xFB1D, "י\u05b4"),
   (0xFB1F, "ײ\u05b7"), (0xFB2A, "ש\u05c1"), (0xFB2B, "ש\u05c2"), (0xFB2C, "ש\u05bc\u05c1"),
   (0xFB2D, "ש\u05bc\u05c2"), (0xFB2E, "א\u05b7"), (0xFB2F, "א\u05b8"), (0xFB30, "א\u05bc"),
   (0xFB31, "ב\u05bc"), (0xFB32, "ג\u05bc"), (0xFB33, "ד\u05bc"), (0xFB34, "ה\u05bc"),
   (0xFB35, "ו\u05bc"), (0xFB36, "ז\u05bc"), (0xFB38, "ט\u05bc"), (0xFB39, "י\u05bc"),
   (0xFB3A, "ך\u05bc"), (0xFB3B, "כ\u05bc"), (0xFB3C, "ל\u05bc"), (0xFB3E, "מ\u05bc"),
   (0xFB40, "נ\u05bc"), (0xFB41, "ס\u05bc"), (0xFB43, "ף\u05bc"), (0xFB44, "פ\u05bc"),
   (0xFB46, "צ\u05bc"), (0xFB47, "ק\u05bc"), (0xFB48, "ר\u05bc"), (0xFB49, "ש\u05bc"),
   (0xFB4A, "ת\u05bc"), (0xFB4B, "ו\u05b9"), (0xFB4C, "ב\u05bf"), (0xFB4D, "כ\u05bf"),
   (0xFB4E, "פ\u05bf"), (0xFB4F, "אל"), (0xFBDD, "ۇٴ"), (0xFBEA, "ئا"), (0xFBEB, "ئا"),
   (0xFBEC, "ئە"), (0xFBED, "ئە"), (0xFBEE, "ئو"), (0xFBEF, "ئو"), (0xFBF0, "ئۇ"), (0xFBF1, "ئۇ"),
   (0xFBF2, "ئۆ"), (0xFBF3, "ئۆ"), (0xFBF4, "ئۈ"), (0xFBF5, "ئۈ"), (0xFBF6, "ئې"), (0xFBF7, "ئې"),
   (0xFBF8, "ئې"), (0xFBF9, "ئى"), (0xFBFA, "ئى"), (0xFBFB, "ئى"), (0xFC00, "ئج"), (0xFC01, "ئح"),
   (0xFC02, "ئم"), (0xFC03, "ئى"), (0xFC04, "ئي"), (0xFC05, "بج"), (0xFC06, "بح"), (0xFC07, "بخ"),
   (0xFC08, "بم"), (0xFC09, "بى"), (0xFC0A, "بي"), (0xFC0B, "تج"), (0xFC0C, "تح"), (0xFC0D, "تخ"),
   (0xFC0E, "تم"), (0xFC0F, "تى"), (0xFC10, "تي"), (0xFC11, "ثج"), (0xFC12, "ثم"), (0xFC13, "ثى"),
   (0xFC14, "ثي"), (0xFC15, "جح"), (0xFC16, "جم"), (0xFC17, "حج"), (0xFC18, "حم"), (0xFC19, "خج"),
   (0xFC1A, "خح"), (0xFC1B, "خم"), (0xFC1C, "سج"), (0xFC1D, "سح"), (0xFC1E, "سخ"), (0xFC1F, "سم"),
   (0xFC20, "صح"), (0xFC21, "صم"), (0xFC22, "ضج"), (0xFC23, "ضح"), (0xFC24, "ضخ"), (0xFC25, "ضم"),
   (0xFC26, "طح"), (0xFC27, "طم"), (0xFC28, "ظم"), (0xFC29, "عج"), (0xFC2A, "عم"), (0xFC2B, "غج"),
   (0xFC2C, "غم"), (0xFC2D, "فج"), (0xFC2E, "فح"), (0xFC2F, "فخ"), (0xFC30, "فم"), (0xFC31, "فى"),
   (0xFC32, "في"), (0xFC33, "قح"), (0xFC34, "قم"), (0xFC35, "قى"), (0xFC36, "قي"), (0xFC37, "كا"),
   (0xFC38, "كج"), (0xFC39, "كح"), (0xFC3A, "كخ"), (0xFC3B, "كل"), (0xFC3C, "كم"), (0xFC3D, "كى"),
   (0xFC3E, "كي"), (0xFC3F, "لج"), (0xFC40, "لح"), (0xFC41, "لخ"), (0xFC42, "لم"), (0xFC43, "لى"),
   (0xFC44, "لي"), (0xFC45, "مج"), (0xFC46, "مح"), (0xFC47, "مخ"), (0xFC48, "مم"), (0xFC49, "مى"),
   (0xFC4A, "مي"), (0xFC4B, "نج"), (0xFC4C, "نح"), (0xFC4D, "نخ"), (0xFC4E, "نم"), (0xFC4F, "نى"),
   (0xFC50, "ني"), (0xFC51, "هج"), (0xFC52, "هم"), (0xFC53, "هى"), (0xFC54, "هي"), (0xFC55, "يج"),
   (0xFC56, "يح"), (0xFC57, "يخ"), (0xFC58, "يم"), (0xFC59, "يى"), (0xFC5A, "يي"),
   (0xFC5B, "ذ\u0670"), (0xFC5C, "ر\u0670"), (0xFC5D, "ى\u0670"), (0xFC5E, " \u064c\u0651"),
   (0xFC5F, " \u064d\u0651"), (0xFC60, " \u064e\u0651"), (0xFC61, " \u064f\u0651"),
   (0xFC62, " \u0650\u0651"), (0xFC63, " \u0651\u0670"), (0xFC64, "ئر"), (0xFC65, "ئز"),
   (0xFC66, "ئم"), (0xFC67, "ئن"), (0xFC68, "ئى"), (0xFC69, "ئي"), (0xFC6A, "بر"), (0xFC6B, "بز"),
   (0xFC6C, "بم"), (0xFC6D, "بن"), (0xFC6E, "بى"), (0xFC6F, "بي"), (0xFC70, "تر"), (0xFC71, "تز"),
   (0xFC72, "تم"), (0xFC73, "تن"), (0xFC74, "تى"), (0xFC75, "تي"), (0xFC76, "ثر"), (0xFC77, "ثز"),
   (0xFC78, "ثم"), (0xFC79, "ثن"), (0xFC7A, "ثى"), (0xFC7B, "ثي"), (0xFC7C, "فى"), (0xFC7D, "في"),
   (0xFC7E, "قى"), (0xFC7F, "قي"), (0xFC80, "كا"), (0xFC81, "كل"), (0xFC82, "كم"), (0xFC83, "كى"),
   (0xFC84, "كي"), (0xFC85, "لم"), (0xFC86, "لى"), (0xFC87, "لي"), (0xFC88, "ما"), (0xFC89, "مم"),
   (0xFC8A, "نر"), (0xFC8B, "نز"), (0xFC8C, "نم"), (0xFC8D, "نن"), (0xFC8E, "نى"), (0xFC8F, "ني"),
   (0xFC90, "ى\u0670"), (0xFC91, "ير"), (0xFC92, "يز"), (0xFC93, "يم"), (0xFC94, "ين"),
   (0xFC95, "يى"), (0xFC96, "يي"), (0xFC97, "ئج"), (0xFC98, "ئح"), (0xFC99, "ئخ"), (0xFC9A, "ئم"),
   (0xFC9B, "ئه"), (0xFC9C, "بج"), (0xFC9D, "بح"), (0xFC9E, "بخ"), (0xFC9F, "بم"), (0xFCA0, "به"),
   (0xFCA1, "تج"), (0xFCA2, "تح"), (0xFCA3, "تخ"), (0xFCA4, "تم"), (0xFCA5, "ته"), (0xFCA6, "ثم"),
   (0xFCA7, "جح"), (0xFCA8, "جم"), (0xFCA9, "حج"), (0xFCAA, "حم"), (0xFCAB, "خج"), (0xFCAC, "خم"),
   (0xFCAD, "سج"), (0xFCAE, "سح"), (0xFCAF, "سخ"), (0xFCB0, "سم"), (0xFCB1, "صح"), (0xFCB2, "صخ"),
   (0xFCB3, "صم"), (0xFCB4, "ضج"), (0xFCB5, "ضح"), (0xFCB6, "ضخ"), (0xFCB7, "ضم"), (0xFCB8, "طح"),
   (0xFCB9, "ظم"), (0xFCBA, "عج"), (0xFCBB, "عم"), (0xFCBC, "غج"), (0xFCBD, "غم"), (0xFCBE, "فج"),
   (0xFCBF, "فح"), (0xFCC0, "فخ"), (0xFCC1, "فم"), (0xFCC2, "قح"), (0xFCC3, "قم"), (0xFCC4, "كج"),
   (0xFCC5, "كح"), (0xFCC6, "كخ"), (0xFCC7, "كل"), (0xFCC8, "كم"), (0xFCC9, "لج"), (0xFCCA, "لح"),
   (0xFCCB, "لخ"), (0xFCCC, "لم"), (0xFCCD, "له"), (0xFCCE, "مج"), (0xFCCF, "مح"), (0xFCD0, "مخ"),
   (0xFCD1, "مم"), (0xFCD2, "نج"), (0xFCD3, "نح"), (0xFCD4, "نخ"), (0xFCD5, "نم"), (0xFCD6, "نه"),
   (0xFCD7, "هج"), (0xFCD8, "هم"), (0xFCD9, "ه\u0670"), (0xFCDA, "يج"), (0xFCDB, "يح"),
   (0xFCDC, "يخ"), (0xFCDD, "يم"), (0xFCDE, "يه"), (0xFCDF, "ئم"), (0xFCE0, "ئه"), (0xFCE1, "بم"),
   (0xFCE2, "به"), (0xFCE3, "تم"), (0xFCE4, "ته"), (0xFCE5, "ثم"), (0xFCE6, "ثه"), (0xFCE7, "سم"),
   (0xFCE8, "سه"), (0xFCE9, "شم"), (0xFCEA, "شه"), (0xFCEB, "كل"), (0xFCEC, "كم"), (0xFCED, "لم"),
   (0xFCEE, "نم"), (0xFCEF, "نه"), (0xFCF0, "يم"), (0xFCF1, "يه"), (0xFCF2, "ـ\u064e\u0651"),
   (0xFCF3, "ـ\u064f\u0651"), (0xFCF4, "ـ\u0650\u0651"), (0xFCF5, "طى"), (0xFCF6, "طي"),
   (0xFCF7, "عى"), (0xFCF8, "عي"), (0xFCF9, "غى"), (0xFCFA, "غي"), (0xFCFB, "سى"), (0xFCFC, "سي"),
   (0xFCFD, "شى"), (0xFCFE, "شي"), (0xFCFF, "حى"), (0xFD00, "حي"), (0xFD01, "جى"), (0xFD02, "جي"),
   (0xFD03, "خى"), (0xFD04, "خي"), (0xFD05, "صى"), (0xFD06, "صي"), (0xFD07, "ضى"), (0xFD08, "ضي"),
   (0xFD09, "شج"), (0xFD0A, "شح"), (0xFD0B, "شخ"), (0xFD0C, "شم"), (0xFD0D, "شر"), (0xFD0E, "سر"),
   (0xFD0F, "صر"), (0xFD10, "ضر"), (0xFD11, "طى"), (0xFD12, "طي"), (0xFD13, "عى"), (0xFD14, "عي"),
   (0xFD15, "غى"), (0xFD16, "غي"), (0xFD17, "سى"), (0xFD18, "سي"), (0xFD19, "شى"), (0xFD1A, "شي"),
   (0xFD1B, "حى"), (0xFD1C, "حي"), (0xFD1D, "جى"), (0xFD1E, "جي"), (0xFD1F, "خى"), (0xFD20, "خي"),
   (0xFD21, "صى"), (0xFD22, "صي"), (0xFD23, "ضى"), (0xFD24, "ضي"), (0xFD25, "شج"), (0xFD26, "شح"),
   (0xFD27, "شخ"), (0xFD28, "شم"), (0xFD29, "شر"), (0xFD2A, "سر"), (0xFD2B, "صر"), (0xFD2C, "ضر"),
   (0xFD2D, "شج"), (0xFD2E, "شح"), (0xFD2F, "شخ"), (0xFD30, "شم"), (0xFD31, "سه"), (0xFD32, "شه"),
   (0xFD33, "طم"), (0xFD34, "سج"), (0xFD35, "سح"), (0xFD36, "سخ"), (0xFD37, "شج"), (0xFD38, "شح"),
   (0xFD39, "شخ"), (0xFD3A, "طم"), (0xFD3B, "ظم"), (0xFD3C, "ا\u064b"), (0xFD3D, "ا\u064b"),
   (0xFD50, "تجم"), (0xFD51, "تحج"), (0xFD52, "تحج"), (0xFD53, "تحم"), (0xFD54, "تخم"),
   (0xFD55, "تمج"), (0xFD56, "تمح"), (0xFD57, "تمخ"), (0xFD58, "جمح"), (0xFD59, "جمح"),
   (0xFD5A, "حمي"), (0xFD5B, "حمى"), (0xFD5C, "سحج"), (0xFD5D, "سجح"), (0xFD5E, "سجى"),
   (0xFD5F, "سمح"), (0xFD60, "سمح"), (0xFD61, "سمج"), (0xFD62, "سمم"), (0xFD63, "سمم"),
   (0xFD64, "صحح"), (0xFD65, "صحح"), (0xFD66, "صمم"), (0xFD67, "شحم"), (0xFD68, "شحم"),
   (0xFD69, "شجي"), (0xFD6A, "شمخ"), (0xFD6B, "شمخ"), (0xFD6C, "شمم"), (0xFD6D, "شمم"),
   (0xFD6E, "ضحى"), (0xFD6F, "ضخم"), (0xFD70, "ضخم"), (0xFD71, "طمح"), (0xFD72, "طمح"),
   (0xFD73, "طمم"), (0xFD74, "طمي"), (0xFD75, "عجم"), (0xFD76, "عمم"), (0xFD77, "عمم"),
   (0xFD78, "عمى"), (0xFD79, "غمم"), (0xFD7A, "غمي"), (0xFD7B, "غمى"), (0xFD7C, "فخم"),
   (0xFD7D, "فخم"), (0xFD7E, "قمح"), (0xFD7F, "قمم"), (0xFD80, "لحم"), (0xFD81, "لحي"),
   (0xFD82, "لحى"), (0xFD83, "لجج"), (0xFD84, "لجج"), (0xFD85, "لخم"), (0xFD86, "لخم"),
   (0xFD87, "لمح"), (0xFD88, "لمح"), (0xFD89, "محج"), (0xFD8A, "محم"), (0xFD8B, "محي"),
   (0xFD8C, "مجح"), (0xFD8D, "مجم"), (0xFD8E, "مخج"), (0xFD8F, "مخم"), (0xFD92, "مجخ"),
   (0xFD93, "همج"), (0xFD94, "همم"), (0xFD95, "نحم"), (0xFD96, "نحى"), (0xFD97, "نجم"),
   (0xFD98, "نجم"), (0xFD99, "نجى"), (0xFD9A, "نمي"), (0xFD9B, "نمى"), (0xFD9C, "يمم"),
   (0xFD9D, "يمم"), (0xFD9E, "بخي"), (0xFD9F, "تجي"), (0xFDA0, "تجى"), (0xFDA1, "تخي"),
   (0xFDA2, "تخى"), (0xFDA3, "تمي"), (0xFDA4, "تمى"), (0xFDA5, "جمي"), (0xFDA6, "جحى"),
   (0xFDA7, "جمى"), (0xFDA8, "سخى"), (0xFDA9, "صحي"), (0xFDAA, "شحي"), (0xFDAB, "ضحي"),
   (0xFDAC, "لجي"), (0xFDAD, "لمي"), (0xFDAE, "يحي"), (0xFDAF, "يجي"), (0xFDB0, "يمي"),
   (0xFDB1, "ممي"), (0xFDB2, "قمي"), (0xFDB3, "نحي"), (0xFDB4, "قمح"), (0xFDB5, "لحم"),
   (0xFDB6, "عمي"), (0xFDB7, "كمي"), (0xFDB8, "نجح"), (0xFDB9, "مخي"), (0xFDBA, "لجم"),
   (0xFDBB, "كمم"), (0xFDBC, "لجم"), (0xFDBD, "نجح"), (0xFDBE, "جحي"), (0xFDBF, "حجي"),
   (0xFDC0, "مجي"), (0xFDC1, "فمي"), (0xFDC2, "بحي"), (0xFDC3, "كمم"), (0xFDC4, "عجم"),
   (0xFDC5, "صمم"), (0xFDC6, "سخي"), (0xFDC7, "نجي"), (0xFDF0, "صلے"), (0xFDF1, "قلے"),
   (0xFDF2, "الله"), (0xFDF3, "اكبر"), (0xFDF4, "محمد"), (0xFDF5, "صلعم"), (0xFDF6, "رسول"),
   (0xFDF7, "عليه"), (0xFDF8, "وسلم"), (0xFDF9, "صلى"), (0xFDFA, "صلى الله عليه وسلم"),
   (0xFDFB, "جل جلاله"), (0xFDFC, "ریال"), (0xFE49, " \u0305"), (0xFE4A, " \u0305"),
   (0xFE4B, " \u0305"), (0xFE4C, " \u0305"), (0xFE70, " \u064b"), (0xFE71, "ـ\u064b"),
   (0xFE72, " \u064c"), (0xFE74, " \u064d"), (0xFE76, " \u064e"), (0xFE77, "ـ\u064e"),
   (0xFE78, " \u064f"), (0xFE79, "ـ\u064f"), (0xFE7A, " \u0650"), (0xFE7B, "ـ\u0650"),
   (0xFE7C, " \u0651"), (0xFE7D, "ـ\u0651"), (0xFE7E, " \u0652"), (0xFE7F, "ـ\u0652"),
   (0xFEF5, "لآ"), (0xFEF6, "لآ"), (0xFEF7, "لأ"), (0xFEF8, "لأ"), (0xFEF9, "لإ"), (0xFEFA, "لإ"),
   (0xFEFB, "لا"), (0xFEFC, "لا"), (0xFFE3, " \u0304"), (0x1D15E, "𝅗𝅥"), (0x1D15F, "𝅘𝅥"),
   (0x1D160, "𝅘𝅥𝅮"), (0x1D161, "𝅘𝅥𝅯"), (0x1D162, "𝅘𝅥𝅰"), (0x1D163, "𝅘𝅥𝅱"), (0x1D164, "𝅘𝅥𝅲"),
   (0x1D1BB, "𝆹𝅥"), (0x1D1BC, "𝆺𝅥"), (0x1D1BD, "𝆹𝅥𝅮"), (0x1D1BE, "𝆺𝅥𝅮"), (0x1D1BF, "𝆹𝅥𝅯"),
   (0x1D1C0, "𝆺𝅥𝅯"), (0x1F101, "0,"), (0x1F102, "1,"), (0x1F103, "2,"), (0x1F104, "3,"),
   (0x1F105, "4,"), (0x1F106, "5,"), (0x1F107, "6,"), (0x1F108, "7,"), (0x1F109, "8,"),
   (0x1F10A, "9,"), (0x1F110, "(a)"), (0x1F111, "(b)"), (0x1F112, "(c)"), (0x1F113, "(d)"),
   (0x1F114, "(e)"), (0x1F115, "(f)"), (0x1F116, "(g)"), (0x1F117, "(h)"), (0x1F118, "(i)"),
   (0x1F119, "(j)"), (0x1F11A, "(k)"), (0x1F11B, "(l)"), (0x1F11C, "(m)"), (0x1F11D, "(n)"),
   (0x1F11E, "(o)"), (0x1F11F, "(p)"), (0x1F120, "(q)"), (0x1F121, "(r)"), (0x1F122, "(s)"),
   (0x1F123, "(t)"), (0x1F124, "(u)"), (0x1F125, "(v)"), (0x1F126, "(w)"), (0x1F127, "(x)"),
   (0x1F128, "(y)"), (0x1F129, "(z)"), (0x1F12A, "〔s〕"), (0x1F12D, "cd"), (0x1F12E, "wz"),
   (0x1F14A, "hv"), (0x1F14B, "mv"), (0x1F14C, "sd"), (0x1F14D, "ss"), (0x1F14E, "ppv"),
   (0x1F14F, "wc"), (0x1F16A, "mc"), (0x1F16B, "md"), (0x1F16C, "mr"), (0x1F190, "dj"),
   (0x1F200, "ほか"), (0x1F201, "ココ"), (0x1F240, "〔本〕"), (0x1F241, "〔三〕"), (0x1F242, "〔二〕"),
   (0x1F243, "〔安〕"), (0x1F244, "〔点〕"), (0x1F245, "〔打〕"), (0x1F246, "〔盗〕"), (0x1F247, "〔勝〕"),
   (0x1F248, "〔敗〕")]

/-- The characters that vanish, as closed ranges. -/
def vanishing : List (Nat × Nat) :=
  [(0x00AD, 0x00AD), (0x034F, 0x034F), (0x180B, 0x180D), (0x180F, 0x180F), (0x200B, 0x200B),
   (0x2060, 0x2060), (0x2064, 0x2064), (0xFE00, 0xFE0F), (0xFEFF, 0xFEFF), (0x1BCA0, 0x1BCA3),
   (0xE0100, 0xE01EF)]

/-- The characters that can be printed and that no name may have, as closed ranges. -/
def refused : List (Nat × Nat) :=
  [(0x04C0, 0x04C0), (0x10A0, 0x10C5), (0x115F, 0x1160), (0x17B4, 0x17B5), (0x1806, 0x1806),
   (0x2024, 0x2026), (0x2132, 0x2132), (0x2183, 0x2183), (0x2488, 0x249B), (0x2FF0, 0x2FFB),
   (0x3164, 0x3164), (0x33C2, 0x33C2), (0x33C7, 0x33C7), (0x33D8, 0x33D8), (0xFE12, 0xFE12),
   (0xFE19, 0xFE19), (0xFE30, 0xFE30), (0xFE52, 0xFE52), (0xFFA0, 0xFFA0), (0xFFFC, 0xFFFD),
   (0x1F100, 0x1F100), (0x2F868, 0x2F868), (0x2F874, 0x2F874), (0x2F91F, 0x2F91F),
   (0x2F95F, 0x2F95F), (0x2F9BF, 0x2F9BF)]

/-- The characters that only join or part letters. -/
def joiners : List Char := ['\u200c', '\u200d']

/-- Symbols and punctuation, which no name has that follows the stricter rule. -/
def symbols : List (Nat × Nat) :=
  [(0x00A1, 0x00D7), (0x00F7, 0x00F7), (0x02C2, 0x02C5), (0x02D2, 0x02EB), (0x02ED, 0x02ED),
   (0x02EF, 0x02FF), (0x0375, 0x0375), (0x03F6, 0x03F6), (0x0482, 0x0482), (0x0488, 0x0489),
   (0x055A, 0x055F), (0x0589, 0x058F), (0x05BE, 0x05BE), (0x05C0, 0x05C0), (0x05C3, 0x05C3),
   (0x05C6, 0x05C6), (0x05F3, 0x060F), (0x061B, 0x061F), (0x0640, 0x0640), (0x0660, 0x066D),
   (0x06D4, 0x06D4), (0x06DE, 0x06DE), (0x06E9, 0x06E9), (0x06F0, 0x06F9), (0x0700, 0x070D),
   (0x07F6, 0x07FA), (0x07FE, 0x07FF), (0x0830, 0x083E), (0x085E, 0x085E), (0x0888, 0x0888),
   (0x0964, 0x0965), (0x0970, 0x0970), (0x09F2, 0x09FB), (0x09FD, 0x09FD), (0x0A76, 0x0A76),
   (0x0AF0, 0x0AF1), (0x0B70, 0x0B70), (0x0B72, 0x0B77), (0x0BF0, 0x0BFA), (0x0C77, 0x0C7F),
   (0x0C84, 0x0C84), (0x0D4F, 0x0D4F), (0x0D58, 0x0D5E), (0x0D70, 0x0D79), (0x0DF4, 0x0DF4),
   (0x0E3F, 0x0E3F), (0x0E4F, 0x0E4F), (0x0E5A, 0x0E5B), (0x0F01, 0x0F0A), (0x0F0D, 0x0F17),
   (0x0F1A, 0x0F1F), (0x0F2A, 0x0F34), (0x0F36, 0x0F36), (0x0F38, 0x0F38), (0x0F3A, 0x0F3D),
   (0x0F85, 0x0F85), (0x0FBE, 0x0FC5), (0x0FC7, 0x0FDA), (0x104A, 0x104F), (0x109E, 0x109F),
   (0x10FB, 0x10FB), (0x1100, 0x11FF), (0x1360, 0x137C), (0x1390, 0x1399), (0x1400, 0x1400),
   (0x166D, 0x166E), (0x169B, 0x169C), (0x16EB, 0x16F0), (0x1735, 0x1736), (0x17D4, 0x17D6),
   (0x17D8, 0x17DB), (0x17F0, 0x180A), (0x1940, 0x1945), (0x19DA, 0x19FF), (0x1A1E, 0x1A1F),
   (0x1AA0, 0x1AA6), (0x1AA8, 0x1AAD), (0x1ABE, 0x1ABE), (0x1B5A, 0x1B6A), (0x1B74, 0x1B7E),
   (0x1BFC, 0x1BFF), (0x1C3B, 0x1C3F), (0x1C7E, 0x1CC7), (0x1CD3, 0x1CD3), (0x200C, 0x214D),
   (0x214F, 0x2182), (0x2185, 0x2BFF), (0x2CE5, 0x2CEA), (0x2CF9, 0x2CFF), (0x2D70, 0x2D70),
   (0x2E00, 0x2E2E), (0x2E30, 0x3004), (0x3008, 0x3029), (0x302E, 0x303B), (0x303D, 0x303F),
   (0x30A0, 0x30A0), (0x30FB, 0x30FB), (0x3190, 0x3191), (0x31C0, 0x31E3), (0x3248, 0x327F),
   (0x4DC0, 0x4DFF), (0xA490, 0xA4C6), (0xA4FE, 0xA4FF), (0xA60D, 0xA60F), (0xA670, 0xA673),
   (0xA67E, 0xA67E), (0xA6E6, 0xA6EF), (0xA6F2, 0xA716), (0xA720, 0xA721), (0xA789, 0xA78A),
   (0xA828, 0xA82B), (0xA830, 0xA839), (0xA874, 0xA877), (0xA8CE, 0xA8CF), (0xA8F8, 0xA8FA),
   (0xA8FC, 0xA8FC), (0xA92E, 0xA92F), (0xA95F, 0xA97C), (0xA9C1, 0xA9CD), (0xA9DE, 0xA9DF),
   (0xAA5C, 0xAA5F), (0xAA77, 0xAA79), (0xAADE, 0xAADF), (0xAAF0, 0xAAF1), (0xAB5B, 0xAB5B),
   (0xAB6A, 0xAB6B), (0xABEB, 0xABEB), (0xD7B0, 0xD7FB), (0xFBB2, 0xFDFF), (0xFE45, 0xFE46),
   (0x10100, 0x101FC), (0x102E1, 0x102FB), (0x10320, 0x10323), (0x10341, 0x10341),
   (0x1034A, 0x1034A), (0x1039F, 0x1039F), (0x103D0, 0x103D5), (0x1056F, 0x1056F),
   (0x10857, 0x1085F), (0x10877, 0x1087F), (0x108A7, 0x108AF), (0x108FB, 0x108FF),
   (0x10916, 0x1091F), (0x1093F, 0x1093F), (0x109BC, 0x109BD), (0x109C0, 0x109FF),
   (0x10A40, 0x10A58), (0x10A7D, 0x10A7F), (0x10A9D, 0x10A9F), (0x10AC8, 0x10AC8),
   (0x10AEB, 0x10AF6), (0x10B39, 0x10B3F), (0x10B58, 0x10B5F), (0x10B78, 0x10B7F),
   (0x10B99, 0x10BAF), (0x10CFA, 0x10CFF), (0x10E60, 0x10E7E), (0x10EAD, 0x10EAD),
   (0x10F1D, 0x10F26), (0x10F51, 0x10F59), (0x10F86, 0x10F89), (0x10FC5, 0x10FCB),
   (0x11047, 0x11065), (0x110BB, 0x110C1), (0x11140, 0x11143), (0x11174, 0x11175),
   (0x111C5, 0x111C8), (0x111CD, 0x111CD), (0x111DB, 0x111DB), (0x111DD, 0x111F4),
   (0x11238, 0x1123D), (0x112A9, 0x112A9), (0x1144B, 0x1144F), (0x1145A, 0x1145D),
   (0x114C6, 0x114C6), (0x115C1, 0x115D7), (0x11641, 0x11643), (0x11660, 0x1166C),
   (0x116B9, 0x116B9), (0x1173A, 0x1173F), (0x1183B, 0x1183B), (0x118EA, 0x118F2),
   (0x11944, 0x11946), (0x119E2, 0x119E2), (0x11A3F, 0x11A46), (0x11A9A, 0x11A9C),
   (0x11A9E, 0x11AA2), (0x11B00, 0x11B09), (0x11C41, 0x11C45), (0x11C5A, 0x11C71),
   (0x11EF7, 0x11EF8), (0x11F43, 0x11F4F), (0x11FC0, 0x11FFF), (0x12400, 0x12474),
   (0x12FF1, 0x12FF2), (0x16A6E, 0x16A6F), (0x16AF5, 0x16AF5), (0x16B37, 0x16B3F),
   (0x16B44, 0x16B45), (0x16B5B, 0x16B61), (0x16E80, 0x16E9A), (0x16FE2, 0x16FE2),
   (0x1BC9C, 0x1BC9C), (0x1BC9F, 0x1BC9F), (0x1CF50, 0x1D9FF), (0x1DA37, 0x1DA3A),
   (0x1DA6D, 0x1DA74), (0x1DA76, 0x1DA83), (0x1DA85, 0x1DA8B), (0x1E14F, 0x1E14F),
   (0x1E2FF, 0x1E2FF), (0x1E8C7, 0x1E8CF), (0x1E95E, 0x1FBCA)]

/-- The character of a stretch that a character folds to. -/
def stretched? (n : Nat) : Option Char :=
  foldStretches.findSome? fun (first, folds) =>
    if first ≤ n && n < first + folds.length then folds.toList[n - first]? else none

/--
What a character folds to; one that no name may have, or that cannot be printed, folds to nothing.
-/
def foldChar? (c : Char) : Option (List Char) :=
  if c.toNat < 128 then some [c.toLower]
  else if joiners.contains c then some [c]
  else if Text.inRanges vanishing c.toNat then some []
  else if Text.inRanges refused c.toNat then none
  else match foldExpansions.lookup c.toNat, stretched? c.toNat with
    | some folded, _ => some folded.toList
    | none, some d => some [d]
    | none, none => match foldRuns.find? (·.holds c.toNat) with
      | some r => some [Char.ofNat (c.toNat + r.shift).toNat]
      | none => if Text.isPrintable c then some [c] else none

/-- The folded form of a name, if all of its characters have one. -/
def fold? (cs : List Char) : Option (List Char) := (cs.mapM foldChar?).map List.flatten

/-- A letter, mark or digit beyond ASCII that folding keeps. -/
def isPlain (c : Char) : Bool :=
  128 ≤ c.toNat && foldChar? c == some [c] && !Text.inRanges symbols c.toNat

end CurrencyLedger.Network
