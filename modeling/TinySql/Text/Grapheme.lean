import TinySql.Text.CodeRanges

/-!
Grapheme clusters: what a reader takes for one character, by the extended boundary rules of
Unicode (UAX #29, Unicode 17). A carriage return holds its line feed; controls stand alone;
Hangul jamo join into syllables; extending marks, joiners and spacing marks stay with what
precedes them, and prefixed marks with what follows; an Indic consonant joined by a virama
stays with the consonant before it; an emoji joined by a zero-width joiner stays with the
emoji before it; regional indicators pair up into flags. Everything else is a boundary.
-/

namespace TinySql.Text

/-- How a character takes part in cluster boundaries. -/
inductive BreakClass
  | other
  | cr
  | lf
  | control
  | extend
  | zwj
  | regional
  | prepend
  | spacingMark
  | leading
  | vowel
  | trailing
  | syllableLV
  | syllableLVT
  deriving DecidableEq, Repr

/-- The controls, regional indicators, prefixed marks, spacing marks and Hangul jamo, by code
point range (Unicode 17). -/
def breakClassRanges : List (Nat × Nat × BreakClass) :=
[
  (0x0000, 0x001F, .control), (0x007F, 0x009F, .control), (0x00AD, 0x00AD, .control),
  (0x0600, 0x0605, .prepend), (0x061C, 0x061C, .control), (0x06DD, 0x06DD, .prepend),
  (0x070F, 0x070F, .prepend), (0x0890, 0x0891, .prepend), (0x08E2, 0x08E2, .prepend),
  (0x0903, 0x0903, .spacingMark), (0x093B, 0x093B, .spacingMark), (0x093E, 0x0940, .spacingMark),
  (0x0949, 0x094C, .spacingMark), (0x094E, 0x094F, .spacingMark), (0x0982, 0x0983, .spacingMark),
  (0x09BF, 0x09C0, .spacingMark), (0x09C7, 0x09C8, .spacingMark), (0x09CB, 0x09CC, .spacingMark),
  (0x0A03, 0x0A03, .spacingMark), (0x0A3E, 0x0A40, .spacingMark), (0x0A83, 0x0A83, .spacingMark),
  (0x0ABE, 0x0AC0, .spacingMark), (0x0AC9, 0x0AC9, .spacingMark), (0x0ACB, 0x0ACC, .spacingMark),
  (0x0B02, 0x0B03, .spacingMark), (0x0B40, 0x0B40, .spacingMark), (0x0B47, 0x0B48, .spacingMark),
  (0x0B4B, 0x0B4C, .spacingMark), (0x0BBF, 0x0BBF, .spacingMark), (0x0BC1, 0x0BC2, .spacingMark),
  (0x0BC6, 0x0BC8, .spacingMark), (0x0BCA, 0x0BCC, .spacingMark), (0x0C01, 0x0C03, .spacingMark),
  (0x0C41, 0x0C44, .spacingMark), (0x0C82, 0x0C83, .spacingMark), (0x0CBE, 0x0CBE, .spacingMark),
  (0x0CC1, 0x0CC1, .spacingMark), (0x0CC3, 0x0CC4, .spacingMark), (0x0CF3, 0x0CF3, .spacingMark),
  (0x0D02, 0x0D03, .spacingMark), (0x0D3F, 0x0D40, .spacingMark), (0x0D46, 0x0D48, .spacingMark),
  (0x0D4A, 0x0D4C, .spacingMark), (0x0D4E, 0x0D4E, .prepend), (0x0D82, 0x0D83, .spacingMark),
  (0x0DD0, 0x0DD1, .spacingMark), (0x0DD8, 0x0DDE, .spacingMark), (0x0DF2, 0x0DF3, .spacingMark),
  (0x0E33, 0x0E33, .spacingMark), (0x0EB3, 0x0EB3, .spacingMark), (0x0F3E, 0x0F3F, .spacingMark),
  (0x0F7F, 0x0F7F, .spacingMark), (0x1031, 0x1031, .spacingMark), (0x103B, 0x103C, .spacingMark),
  (0x1056, 0x1057, .spacingMark), (0x1084, 0x1084, .spacingMark), (0x1100, 0x115F, .leading),
  (0x1160, 0x11A7, .vowel), (0x11A8, 0x11FF, .trailing), (0x17B6, 0x17B6, .spacingMark),
  (0x17BE, 0x17C5, .spacingMark), (0x17C7, 0x17C8, .spacingMark), (0x180E, 0x180E, .control),
  (0x1923, 0x1926, .spacingMark), (0x1929, 0x192B, .spacingMark), (0x1930, 0x1931, .spacingMark),
  (0x1933, 0x1938, .spacingMark), (0x1A19, 0x1A1A, .spacingMark), (0x1A55, 0x1A55, .spacingMark),
  (0x1A57, 0x1A57, .spacingMark), (0x1A6D, 0x1A72, .spacingMark), (0x1B04, 0x1B04, .spacingMark),
  (0x1B3E, 0x1B41, .spacingMark), (0x1B82, 0x1B82, .spacingMark), (0x1BA1, 0x1BA1, .spacingMark),
  (0x1BA6, 0x1BA7, .spacingMark), (0x1BE7, 0x1BE7, .spacingMark), (0x1BEA, 0x1BEC, .spacingMark),
  (0x1BEE, 0x1BEE, .spacingMark), (0x1C24, 0x1C2B, .spacingMark), (0x1C34, 0x1C35, .spacingMark),
  (0x1CE1, 0x1CE1, .spacingMark), (0x1CF7, 0x1CF7, .spacingMark), (0x200B, 0x200B, .control),
  (0x200E, 0x200F, .control), (0x2028, 0x202E, .control), (0x2060, 0x206F, .control),
  (0xA823, 0xA824, .spacingMark), (0xA827, 0xA827, .spacingMark), (0xA880, 0xA881, .spacingMark),
  (0xA8B4, 0xA8C3, .spacingMark), (0xA952, 0xA952, .spacingMark), (0xA960, 0xA97C, .leading),
  (0xA983, 0xA983, .spacingMark), (0xA9B4, 0xA9B5, .spacingMark), (0xA9BA, 0xA9BB, .spacingMark),
  (0xA9BE, 0xA9BF, .spacingMark), (0xAA2F, 0xAA30, .spacingMark), (0xAA33, 0xAA34, .spacingMark),
  (0xAA4D, 0xAA4D, .spacingMark), (0xAAEB, 0xAAEB, .spacingMark), (0xAAEE, 0xAAEF, .spacingMark),
  (0xAAF5, 0xAAF5, .spacingMark), (0xABE3, 0xABE4, .spacingMark), (0xABE6, 0xABE7, .spacingMark),
  (0xABE9, 0xABEA, .spacingMark), (0xABEC, 0xABEC, .spacingMark), (0xD7B0, 0xD7C6, .vowel),
  (0xD7CB, 0xD7FB, .trailing), (0xFEFF, 0xFEFF, .control), (0xFFF0, 0xFFFB, .control),
  (0x11000, 0x11000, .spacingMark), (0x11002, 0x11002, .spacingMark), (0x11082, 0x11082, .spacingMark),
  (0x110B0, 0x110B2, .spacingMark), (0x110B7, 0x110B8, .spacingMark), (0x110BD, 0x110BD, .prepend),
  (0x110CD, 0x110CD, .prepend), (0x1112C, 0x1112C, .spacingMark), (0x11145, 0x11146, .spacingMark),
  (0x11182, 0x11182, .spacingMark), (0x111B3, 0x111B5, .spacingMark), (0x111BF, 0x111BF, .spacingMark),
  (0x111C2, 0x111C3, .prepend), (0x111CE, 0x111CE, .spacingMark), (0x1122C, 0x1122E, .spacingMark),
  (0x11232, 0x11233, .spacingMark), (0x112E0, 0x112E2, .spacingMark), (0x11302, 0x11303, .spacingMark),
  (0x1133F, 0x1133F, .spacingMark), (0x11341, 0x11344, .spacingMark), (0x11347, 0x11348, .spacingMark),
  (0x1134B, 0x1134C, .spacingMark), (0x11362, 0x11363, .spacingMark), (0x113B9, 0x113BA, .spacingMark),
  (0x113CA, 0x113CA, .spacingMark), (0x113CC, 0x113CD, .spacingMark), (0x113D1, 0x113D1, .prepend),
  (0x11435, 0x11437, .spacingMark), (0x11440, 0x11441, .spacingMark), (0x11445, 0x11445, .spacingMark),
  (0x114B1, 0x114B2, .spacingMark), (0x114B9, 0x114B9, .spacingMark), (0x114BB, 0x114BC, .spacingMark),
  (0x114BE, 0x114BE, .spacingMark), (0x114C1, 0x114C1, .spacingMark), (0x115B0, 0x115B1, .spacingMark),
  (0x115B8, 0x115BB, .spacingMark), (0x115BE, 0x115BE, .spacingMark), (0x11630, 0x11632, .spacingMark),
  (0x1163B, 0x1163C, .spacingMark), (0x1163E, 0x1163E, .spacingMark), (0x116AC, 0x116AC, .spacingMark),
  (0x116AE, 0x116AF, .spacingMark), (0x1171E, 0x1171E, .spacingMark), (0x11726, 0x11726, .spacingMark),
  (0x1182C, 0x1182E, .spacingMark), (0x11838, 0x11838, .spacingMark), (0x11931, 0x11935, .spacingMark),
  (0x11937, 0x11938, .spacingMark), (0x1193F, 0x1193F, .prepend), (0x11940, 0x11940, .spacingMark),
  (0x11941, 0x11941, .prepend), (0x11942, 0x11942, .spacingMark), (0x119D1, 0x119D3, .spacingMark),
  (0x119DC, 0x119DF, .spacingMark), (0x119E4, 0x119E4, .spacingMark), (0x11A39, 0x11A39, .spacingMark),
  (0x11A57, 0x11A58, .spacingMark), (0x11A84, 0x11A89, .prepend), (0x11A97, 0x11A97, .spacingMark),
  (0x11B61, 0x11B61, .spacingMark), (0x11B65, 0x11B65, .spacingMark), (0x11B67, 0x11B67, .spacingMark),
  (0x11C2F, 0x11C2F, .spacingMark), (0x11C3E, 0x11C3E, .spacingMark), (0x11CA9, 0x11CA9, .spacingMark),
  (0x11CB1, 0x11CB1, .spacingMark), (0x11CB4, 0x11CB4, .spacingMark), (0x11D46, 0x11D46, .prepend),
  (0x11D8A, 0x11D8E, .spacingMark), (0x11D93, 0x11D94, .spacingMark), (0x11D96, 0x11D96, .spacingMark),
  (0x11EF5, 0x11EF6, .spacingMark), (0x11F02, 0x11F02, .prepend), (0x11F03, 0x11F03, .spacingMark),
  (0x11F34, 0x11F35, .spacingMark), (0x11F3E, 0x11F3F, .spacingMark), (0x13430, 0x1343F, .control),
  (0x1612A, 0x1612C, .spacingMark), (0x16D63, 0x16D63, .vowel), (0x16D67, 0x16D6A, .vowel),
  (0x16F51, 0x16F87, .spacingMark), (0x1BCA0, 0x1BCA3, .control), (0x1D173, 0x1D17A, .control),
  (0x1F1E6, 0x1F1FF, .regional), (0xE0000, 0xE001F, .control), (0xE0080, 0xE00FF, .control),
  (0xE01F0, 0xE0FFF, .control)]

/-- The extending marks that may stand inside an Indic conjunct (Unicode 17). -/
def conjunctExtendRanges : List (Nat × Nat) :=
[
  (0x0300, 0x036F), (0x0483, 0x0489), (0x0591, 0x05BD), (0x05BF, 0x05BF), (0x05C1, 0x05C2),
  (0x05C4, 0x05C5), (0x05C7, 0x05C7), (0x0610, 0x061A), (0x064B, 0x065F), (0x0670, 0x0670),
  (0x06D6, 0x06DC), (0x06DF, 0x06E4), (0x06E7, 0x06E8), (0x06EA, 0x06ED), (0x0711, 0x0711),
  (0x0730, 0x074A), (0x07A6, 0x07B0), (0x07EB, 0x07F3), (0x07FD, 0x07FD), (0x0816, 0x0819),
  (0x081B, 0x0823), (0x0825, 0x0827), (0x0829, 0x082D), (0x0859, 0x085B), (0x0897, 0x089F),
  (0x08CA, 0x08E1), (0x08E3, 0x0902), (0x093A, 0x093A), (0x093C, 0x093C), (0x0941, 0x0948),
  (0x0951, 0x0957), (0x0962, 0x0963), (0x0981, 0x0981), (0x09BC, 0x09BC), (0x09BE, 0x09BE),
  (0x09C1, 0x09C4), (0x09D7, 0x09D7), (0x09E2, 0x09E3), (0x09FE, 0x09FE), (0x0A01, 0x0A02),
  (0x0A3C, 0x0A3C), (0x0A41, 0x0A42), (0x0A47, 0x0A48), (0x0A4B, 0x0A4D), (0x0A51, 0x0A51),
  (0x0A70, 0x0A71), (0x0A75, 0x0A75), (0x0A81, 0x0A82), (0x0ABC, 0x0ABC), (0x0AC1, 0x0AC5),
  (0x0AC7, 0x0AC8), (0x0AE2, 0x0AE3), (0x0AFA, 0x0AFF), (0x0B01, 0x0B01), (0x0B3C, 0x0B3C),
  (0x0B3E, 0x0B3F), (0x0B41, 0x0B44), (0x0B55, 0x0B57), (0x0B62, 0x0B63), (0x0B82, 0x0B82),
  (0x0BBE, 0x0BBE), (0x0BC0, 0x0BC0), (0x0BCD, 0x0BCD), (0x0BD7, 0x0BD7), (0x0C00, 0x0C00),
  (0x0C04, 0x0C04), (0x0C3C, 0x0C3C), (0x0C3E, 0x0C40), (0x0C46, 0x0C48), (0x0C4A, 0x0C4C),
  (0x0C55, 0x0C56), (0x0C62, 0x0C63), (0x0C81, 0x0C81), (0x0CBC, 0x0CBC), (0x0CBF, 0x0CC0),
  (0x0CC2, 0x0CC2), (0x0CC6, 0x0CC8), (0x0CCA, 0x0CCD), (0x0CD5, 0x0CD6), (0x0CE2, 0x0CE3),
  (0x0D00, 0x0D01), (0x0D3B, 0x0D3C), (0x0D3E, 0x0D3E), (0x0D41, 0x0D44), (0x0D57, 0x0D57),
  (0x0D62, 0x0D63), (0x0D81, 0x0D81), (0x0DCA, 0x0DCA), (0x0DCF, 0x0DCF), (0x0DD2, 0x0DD4),
  (0x0DD6, 0x0DD6), (0x0DDF, 0x0DDF), (0x0E31, 0x0E31), (0x0E34, 0x0E3A), (0x0E47, 0x0E4E),
  (0x0EB1, 0x0EB1), (0x0EB4, 0x0EBC), (0x0EC8, 0x0ECE), (0x0F18, 0x0F19), (0x0F35, 0x0F35),
  (0x0F37, 0x0F37), (0x0F39, 0x0F39), (0x0F71, 0x0F7E), (0x0F80, 0x0F84), (0x0F86, 0x0F87),
  (0x0F8D, 0x0F97), (0x0F99, 0x0FBC), (0x0FC6, 0x0FC6), (0x102D, 0x1030), (0x1032, 0x1037),
  (0x103A, 0x103A), (0x103D, 0x103E), (0x1058, 0x1059), (0x105E, 0x1060), (0x1071, 0x1074),
  (0x1082, 0x1082), (0x1085, 0x1086), (0x108D, 0x108D), (0x109D, 0x109D), (0x135D, 0x135F),
  (0x1712, 0x1715), (0x1732, 0x1734), (0x1752, 0x1753), (0x1772, 0x1773), (0x17B4, 0x17B5),
  (0x17B7, 0x17BD), (0x17C6, 0x17C6), (0x17C9, 0x17D1), (0x17D3, 0x17D3), (0x17DD, 0x17DD),
  (0x180B, 0x180D), (0x180F, 0x180F), (0x1885, 0x1886), (0x18A9, 0x18A9), (0x1920, 0x1922),
  (0x1927, 0x1928), (0x1932, 0x1932), (0x1939, 0x193B), (0x1A17, 0x1A18), (0x1A1B, 0x1A1B),
  (0x1A56, 0x1A56), (0x1A58, 0x1A5E), (0x1A62, 0x1A62), (0x1A65, 0x1A6C), (0x1A73, 0x1A7C),
  (0x1A7F, 0x1A7F), (0x1AB0, 0x1ADD), (0x1AE0, 0x1AEB), (0x1B00, 0x1B03), (0x1B34, 0x1B3D),
  (0x1B42, 0x1B43), (0x1B6B, 0x1B73), (0x1B80, 0x1B81), (0x1BA2, 0x1BA5), (0x1BA8, 0x1BAA),
  (0x1BAC, 0x1BAD), (0x1BE6, 0x1BE6), (0x1BE8, 0x1BE9), (0x1BED, 0x1BED), (0x1BEF, 0x1BF3),
  (0x1C2C, 0x1C33), (0x1C36, 0x1C37), (0x1CD0, 0x1CD2), (0x1CD4, 0x1CE0), (0x1CE2, 0x1CE8),
  (0x1CED, 0x1CED), (0x1CF4, 0x1CF4), (0x1CF8, 0x1CF9), (0x1DC0, 0x1DFF), (0x20D0, 0x20F0),
  (0x2CEF, 0x2CF1), (0x2D7F, 0x2D7F), (0x2DE0, 0x2DFF), (0x302A, 0x302F), (0x3099, 0x309A),
  (0xA66F, 0xA672), (0xA674, 0xA67D), (0xA69E, 0xA69F), (0xA6F0, 0xA6F1), (0xA802, 0xA802),
  (0xA806, 0xA806), (0xA80B, 0xA80B), (0xA825, 0xA826), (0xA82C, 0xA82C), (0xA8C4, 0xA8C5),
  (0xA8E0, 0xA8F1), (0xA8FF, 0xA8FF), (0xA926, 0xA92D), (0xA947, 0xA951), (0xA953, 0xA953),
  (0xA980, 0xA982), (0xA9B3, 0xA9B3), (0xA9B6, 0xA9B9), (0xA9BC, 0xA9BD), (0xA9E5, 0xA9E5),
  (0xAA29, 0xAA2E), (0xAA31, 0xAA32), (0xAA35, 0xAA36), (0xAA43, 0xAA43), (0xAA4C, 0xAA4C),
  (0xAA7C, 0xAA7C), (0xAAB0, 0xAAB0), (0xAAB2, 0xAAB4), (0xAAB7, 0xAAB8), (0xAABE, 0xAABF),
  (0xAAC1, 0xAAC1), (0xAAEC, 0xAAED), (0xABE5, 0xABE5), (0xABE8, 0xABE8), (0xABED, 0xABED),
  (0xFB1E, 0xFB1E), (0xFE00, 0xFE0F), (0xFE20, 0xFE2F), (0xFF9E, 0xFF9F), (0x101FD, 0x101FD),
  (0x102E0, 0x102E0), (0x10376, 0x1037A), (0x10A01, 0x10A03), (0x10A05, 0x10A06), (0x10A0C, 0x10A0F),
  (0x10A38, 0x10A3A), (0x10AE5, 0x10AE6), (0x10D24, 0x10D27), (0x10D69, 0x10D6D), (0x10EAB, 0x10EAC),
  (0x10EFA, 0x10EFF), (0x10F46, 0x10F50), (0x10F82, 0x10F85), (0x11001, 0x11001), (0x11038, 0x11046),
  (0x11070, 0x11070), (0x11073, 0x11074), (0x1107F, 0x11081), (0x110B3, 0x110B6), (0x110B9, 0x110BA),
  (0x110C2, 0x110C2), (0x11100, 0x11102), (0x11127, 0x1112B), (0x1112D, 0x11132), (0x11134, 0x11134),
  (0x11173, 0x11173), (0x11180, 0x11181), (0x111B6, 0x111BE), (0x111C0, 0x111C0), (0x111C9, 0x111CC),
  (0x111CF, 0x111CF), (0x1122F, 0x11231), (0x11234, 0x11237), (0x1123E, 0x1123E), (0x11241, 0x11241),
  (0x112DF, 0x112DF), (0x112E3, 0x112EA), (0x11300, 0x11301), (0x1133B, 0x1133C), (0x1133E, 0x1133E),
  (0x11340, 0x11340), (0x1134D, 0x1134D), (0x11357, 0x11357), (0x11366, 0x1136C), (0x11370, 0x11374),
  (0x113B8, 0x113B8), (0x113BB, 0x113C0), (0x113C2, 0x113C2), (0x113C5, 0x113C5), (0x113C7, 0x113C9),
  (0x113CE, 0x113CF), (0x113D2, 0x113D2), (0x113E1, 0x113E2), (0x11438, 0x1143F), (0x11442, 0x11444),
  (0x11446, 0x11446), (0x1145E, 0x1145E), (0x114B0, 0x114B0), (0x114B3, 0x114B8), (0x114BA, 0x114BA),
  (0x114BD, 0x114BD), (0x114BF, 0x114C0), (0x114C2, 0x114C3), (0x115AF, 0x115AF), (0x115B2, 0x115B5),
  (0x115BC, 0x115BD), (0x115BF, 0x115C0), (0x115DC, 0x115DD), (0x11633, 0x1163A), (0x1163D, 0x1163D),
  (0x1163F, 0x11640), (0x116AB, 0x116AB), (0x116AD, 0x116AD), (0x116B0, 0x116B7), (0x1171D, 0x1171D),
  (0x1171F, 0x1171F), (0x11722, 0x11725), (0x11727, 0x1172B), (0x1182F, 0x11837), (0x11839, 0x1183A),
  (0x11930, 0x11930), (0x1193B, 0x1193D), (0x11943, 0x11943), (0x119D4, 0x119D7), (0x119DA, 0x119DB),
  (0x119E0, 0x119E0), (0x11A01, 0x11A0A), (0x11A33, 0x11A38), (0x11A3B, 0x11A3E), (0x11A51, 0x11A56),
  (0x11A59, 0x11A5B), (0x11A8A, 0x11A96), (0x11A98, 0x11A98), (0x11B60, 0x11B60), (0x11B62, 0x11B64),
  (0x11B66, 0x11B66), (0x11C30, 0x11C36), (0x11C38, 0x11C3D), (0x11C3F, 0x11C3F), (0x11C92, 0x11CA7),
  (0x11CAA, 0x11CB0), (0x11CB2, 0x11CB3), (0x11CB5, 0x11CB6), (0x11D31, 0x11D36), (0x11D3A, 0x11D3A),
  (0x11D3C, 0x11D3D), (0x11D3F, 0x11D45), (0x11D47, 0x11D47), (0x11D90, 0x11D91), (0x11D95, 0x11D95),
  (0x11D97, 0x11D97), (0x11EF3, 0x11EF4), (0x11F00, 0x11F01), (0x11F36, 0x11F3A), (0x11F40, 0x11F41),
  (0x11F5A, 0x11F5A), (0x13440, 0x13440), (0x13447, 0x13455), (0x1611E, 0x16129), (0x1612D, 0x1612F),
  (0x16AF0, 0x16AF4), (0x16B30, 0x16B36), (0x16F4F, 0x16F4F), (0x16F8F, 0x16F92), (0x16FE4, 0x16FE4),
  (0x16FF0, 0x16FF1), (0x1BC9D, 0x1BC9E), (0x1CF00, 0x1CF2D), (0x1CF30, 0x1CF46), (0x1D165, 0x1D169),
  (0x1D16D, 0x1D172), (0x1D17B, 0x1D182), (0x1D185, 0x1D18B), (0x1D1AA, 0x1D1AD), (0x1D242, 0x1D244),
  (0x1DA00, 0x1DA36), (0x1DA3B, 0x1DA6C), (0x1DA75, 0x1DA75), (0x1DA84, 0x1DA84), (0x1DA9B, 0x1DA9F),
  (0x1DAA1, 0x1DAAF), (0x1E000, 0x1E006), (0x1E008, 0x1E018), (0x1E01B, 0x1E021), (0x1E023, 0x1E024),
  (0x1E026, 0x1E02A), (0x1E08F, 0x1E08F), (0x1E130, 0x1E136), (0x1E2AE, 0x1E2AE), (0x1E2EC, 0x1E2EF),
  (0x1E4EC, 0x1E4EF), (0x1E5EE, 0x1E5EF), (0x1E6E3, 0x1E6E3), (0x1E6E6, 0x1E6E6), (0x1E6EE, 0x1E6EF),
  (0x1E6F5, 0x1E6F5), (0x1E8D0, 0x1E8D6), (0x1E944, 0x1E94A), (0x1F3FB, 0x1F3FF), (0xE0020, 0xE007F),
  (0xE0100, 0xE01EF)]

/-- The viramas that join Indic consonants into conjuncts (Unicode 17). -/
def conjunctLinkerRanges : List (Nat × Nat) :=
[
  (0x094D, 0x094D), (0x09CD, 0x09CD), (0x0ACD, 0x0ACD), (0x0B4D, 0x0B4D), (0x0C4D, 0x0C4D),
  (0x0D4D, 0x0D4D), (0x1039, 0x1039), (0x17D2, 0x17D2), (0x1A60, 0x1A60), (0x1B44, 0x1B44),
  (0x1BAB, 0x1BAB), (0xA9C0, 0xA9C0), (0xAAF6, 0xAAF6), (0x10A3F, 0x10A3F), (0x11133, 0x11133),
  (0x113D0, 0x113D0), (0x1193E, 0x1193E), (0x11A47, 0x11A47), (0x11A99, 0x11A99), (0x11F42, 0x11F42)]

/-- The Indic consonants that conjuncts join (Unicode 17). -/
def conjunctConsonantRanges : List (Nat × Nat) :=
[
  (0x0915, 0x0939), (0x0958, 0x095F), (0x0978, 0x097F), (0x0995, 0x09A8), (0x09AA, 0x09B0),
  (0x09B2, 0x09B2), (0x09B6, 0x09B9), (0x09DC, 0x09DD), (0x09DF, 0x09DF), (0x09F0, 0x09F1),
  (0x0A95, 0x0AA8), (0x0AAA, 0x0AB0), (0x0AB2, 0x0AB3), (0x0AB5, 0x0AB9), (0x0AF9, 0x0AF9),
  (0x0B15, 0x0B28), (0x0B2A, 0x0B30), (0x0B32, 0x0B33), (0x0B35, 0x0B39), (0x0B5C, 0x0B5D),
  (0x0B5F, 0x0B5F), (0x0B71, 0x0B71), (0x0C15, 0x0C28), (0x0C2A, 0x0C39), (0x0C58, 0x0C5A),
  (0x0D15, 0x0D3A), (0x1000, 0x102A), (0x103F, 0x103F), (0x1050, 0x1055), (0x105A, 0x105D),
  (0x1061, 0x1061), (0x1065, 0x1066), (0x106E, 0x1070), (0x1075, 0x1081), (0x108E, 0x108E),
  (0x1780, 0x17B3), (0x1A20, 0x1A54), (0x1B0B, 0x1B0C), (0x1B13, 0x1B33), (0x1B45, 0x1B4C),
  (0x1B83, 0x1BA0), (0x1BAE, 0x1BAF), (0x1BBB, 0x1BBD), (0xA989, 0xA98B), (0xA98F, 0xA9B2),
  (0xA9E0, 0xA9E4), (0xA9E7, 0xA9EF), (0xA9FA, 0xA9FE), (0xAA60, 0xAA6F), (0xAA71, 0xAA73),
  (0xAA7A, 0xAA7A), (0xAA7E, 0xAA7F), (0xAAE0, 0xAAEA), (0xABC0, 0xABDA), (0x10A00, 0x10A00),
  (0x10A10, 0x10A13), (0x10A15, 0x10A17), (0x10A19, 0x10A35), (0x11103, 0x11126), (0x11144, 0x11144),
  (0x11147, 0x11147), (0x11380, 0x11389), (0x1138B, 0x1138B), (0x1138E, 0x1138E), (0x11390, 0x113B5),
  (0x11900, 0x11906), (0x11909, 0x11909), (0x1190C, 0x11913), (0x11915, 0x11916), (0x11918, 0x1192F),
  (0x11A00, 0x11A00), (0x11A0B, 0x11A32), (0x11A50, 0x11A50), (0x11A5C, 0x11A83), (0x11F04, 0x11F10),
  (0x11F12, 0x11F33)]

/-- The Extended_Pictographic code points (Unicode 17). -/
def pictographicRanges : List (Nat × Nat) :=
[
  (0x00A9, 0x00A9), (0x00AE, 0x00AE), (0x203C, 0x203C), (0x2049, 0x2049), (0x2122, 0x2122),
  (0x2139, 0x2139), (0x2194, 0x2199), (0x21A9, 0x21AA), (0x231A, 0x231B), (0x2328, 0x2328),
  (0x23CF, 0x23CF), (0x23E9, 0x23F3), (0x23F8, 0x23FA), (0x24C2, 0x24C2), (0x25AA, 0x25AB),
  (0x25B6, 0x25B6), (0x25C0, 0x25C0), (0x25FB, 0x25FE), (0x2600, 0x2604), (0x260E, 0x260E),
  (0x2611, 0x2611), (0x2614, 0x2615), (0x2618, 0x2618), (0x261D, 0x261D), (0x2620, 0x2620),
  (0x2622, 0x2623), (0x2626, 0x2626), (0x262A, 0x262A), (0x262E, 0x262F), (0x2638, 0x263A),
  (0x2640, 0x2640), (0x2642, 0x2642), (0x2648, 0x2653), (0x265F, 0x2660), (0x2663, 0x2663),
  (0x2665, 0x2666), (0x2668, 0x2668), (0x267B, 0x267B), (0x267E, 0x267F), (0x2692, 0x2697),
  (0x2699, 0x2699), (0x269B, 0x269C), (0x26A0, 0x26A1), (0x26A7, 0x26A7), (0x26AA, 0x26AB),
  (0x26B0, 0x26B1), (0x26BD, 0x26BE), (0x26C4, 0x26C5), (0x26C8, 0x26C8), (0x26CE, 0x26CF),
  (0x26D1, 0x26D1), (0x26D3, 0x26D4), (0x26E9, 0x26EA), (0x26F0, 0x26F5), (0x26F7, 0x26FA),
  (0x26FD, 0x26FD), (0x2702, 0x2702), (0x2705, 0x2705), (0x2708, 0x270D), (0x270F, 0x270F),
  (0x2712, 0x2712), (0x2714, 0x2714), (0x2716, 0x2716), (0x271D, 0x271D), (0x2721, 0x2721),
  (0x2728, 0x2728), (0x2733, 0x2734), (0x2744, 0x2744), (0x2747, 0x2747), (0x274C, 0x274C),
  (0x274E, 0x274E), (0x2753, 0x2755), (0x2757, 0x2757), (0x2763, 0x2764), (0x2795, 0x2797),
  (0x27A1, 0x27A1), (0x27B0, 0x27B0), (0x27BF, 0x27BF), (0x2934, 0x2935), (0x2B05, 0x2B07),
  (0x2B1B, 0x2B1C), (0x2B50, 0x2B50), (0x2B55, 0x2B55), (0x3030, 0x3030), (0x303D, 0x303D),
  (0x3297, 0x3297), (0x3299, 0x3299), (0x1F004, 0x1F004), (0x1F02C, 0x1F02F), (0x1F094, 0x1F09F),
  (0x1F0AF, 0x1F0B0), (0x1F0C0, 0x1F0C0), (0x1F0CF, 0x1F0D0), (0x1F0F6, 0x1F0FF), (0x1F170, 0x1F171),
  (0x1F17E, 0x1F17F), (0x1F18E, 0x1F18E), (0x1F191, 0x1F19A), (0x1F1AE, 0x1F1E5), (0x1F201, 0x1F20F),
  (0x1F21A, 0x1F21A), (0x1F22F, 0x1F22F), (0x1F232, 0x1F23A), (0x1F23C, 0x1F23F), (0x1F249, 0x1F25F),
  (0x1F266, 0x1F321), (0x1F324, 0x1F393), (0x1F396, 0x1F397), (0x1F399, 0x1F39B), (0x1F39E, 0x1F3F0),
  (0x1F3F3, 0x1F3F5), (0x1F3F7, 0x1F3FA), (0x1F400, 0x1F4FD), (0x1F4FF, 0x1F53D), (0x1F549, 0x1F54E),
  (0x1F550, 0x1F567), (0x1F56F, 0x1F570), (0x1F573, 0x1F57A), (0x1F587, 0x1F587), (0x1F58A, 0x1F58D),
  (0x1F590, 0x1F590), (0x1F595, 0x1F596), (0x1F5A4, 0x1F5A5), (0x1F5A8, 0x1F5A8), (0x1F5B1, 0x1F5B2),
  (0x1F5BC, 0x1F5BC), (0x1F5C2, 0x1F5C4), (0x1F5D1, 0x1F5D3), (0x1F5DC, 0x1F5DE), (0x1F5E1, 0x1F5E1),
  (0x1F5E3, 0x1F5E3), (0x1F5E8, 0x1F5E8), (0x1F5EF, 0x1F5EF), (0x1F5F3, 0x1F5F3), (0x1F5FA, 0x1F64F),
  (0x1F680, 0x1F6C5), (0x1F6CB, 0x1F6D2), (0x1F6D5, 0x1F6E5), (0x1F6E9, 0x1F6E9), (0x1F6EB, 0x1F6F0),
  (0x1F6F3, 0x1F6FF), (0x1F7DA, 0x1F7FF), (0x1F80C, 0x1F80F), (0x1F848, 0x1F84F), (0x1F85A, 0x1F85F),
  (0x1F888, 0x1F88F), (0x1F8AE, 0x1F8AF), (0x1F8BC, 0x1F8BF), (0x1F8C2, 0x1F8CF), (0x1F8D9, 0x1F8FF),
  (0x1F90C, 0x1F93A), (0x1F93C, 0x1F945), (0x1F947, 0x1F9FF), (0x1FA58, 0x1FA5F), (0x1FA6E, 0x1FAFF),
  (0x1FC00, 0x1FFFD)]

/-- The break class of a character. Hangul syllables are told apart by arithmetic: those
that end in a vowel come every 28 code points from U+AC00. -/
def breakClass (c : Char) : BreakClass :=
  let n := c.toNat
  if n = 0x0D then .cr
  else if n = 0x0A then .lf
  else if n = 0x200D then .zwj
  else if n = 0x200C || inRanges conjunctExtendRanges n || inRanges conjunctLinkerRanges n then
    .extend
  else if 0xAC00 ≤ n ∧ n ≤ 0xD7A3 then
    if (n - 0xAC00) % 28 = 0 then .syllableLV else .syllableLVT
  else
    match breakClassRanges.find? fun r => r.1 ≤ n && n ≤ r.2.1 with
    | some r => r.2.2
    | none => .other

/-- Whether a character is an extending mark inside an Indic conjunct, the joiner counted. -/
def isConjunctExtend (c : Char) : Bool :=
  c.toNat = 0x200D || inRanges conjunctExtendRanges c.toNat

/-- Whether a character is a virama joining consonants. -/
def isConjunctLinker (c : Char) : Bool := inRanges conjunctLinkerRanges c.toNat

/-- Whether a character is an Indic consonant that conjuncts join. -/
def isConjunctConsonant (c : Char) : Bool := inRanges conjunctConsonantRanges c.toNat

/-- Whether a character is pictographic in the emoji sense. -/
def isPictographic (c : Char) : Bool := inRanges pictographicRanges c.toNat

/-- How far the characters before a point form an Indic conjunct: not at all, a consonant
with marks, or a consonant with marks and at least one virama. -/
inductive ConjunctState
  | none
  | consonant
  | linked
  deriving DecidableEq, Repr

/-- How far the characters before a point form an emoji sequence: not at all, a pictograph
with marks, or such a pictograph followed by a zero-width joiner. -/
inductive EmojiState
  | none
  | pictograph
  | joined
  deriving DecidableEq, Repr

/-- What the boundary rules need to know of the text before a point. -/
structure BreakContext where
  prev : BreakClass
  conjunct : ConjunctState
  emoji : EmojiState
  oddRegionals : Bool
  deriving DecidableEq, Repr

namespace BreakContext

/-- Whether there is a boundary between the text described by `ctx` and the character `c`. -/
def breaksBefore (ctx : BreakContext) (c : Char) : Bool :=
  let k := breakClass c
  match ctx.prev, k with
  | .cr, .lf => false
  | .cr, _ | .lf, _ | .control, _ => true
  | _, .cr | _, .lf | _, .control => true
  | .leading, .leading | .leading, .vowel | .leading, .syllableLV | .leading, .syllableLVT => false
  | .syllableLV, .vowel | .syllableLV, .trailing | .vowel, .vowel | .vowel, .trailing => false
  | .syllableLVT, .trailing | .trailing, .trailing => false
  | _, .extend | _, .zwj | _, .spacingMark => false
  | .prepend, _ => false
  | prev, _ =>
    if isConjunctConsonant c && ctx.conjunct == .linked then false
    else if prev == .zwj && isPictographic c && ctx.emoji == .joined then false
    else if prev == .regional && k == .regional && ctx.oddRegionals then false
    else true

/-- The context after one more character. -/
def push (ctx : BreakContext) (c : Char) : BreakContext :=
  let k := breakClass c
  let conjunct :=
    if isConjunctConsonant c then .consonant
    else if isConjunctLinker c && ctx.conjunct != .none then .linked
    else if isConjunctExtend c then ctx.conjunct
    else .none
  let emoji :=
    if isPictographic c then .pictograph
    else if k == .extend && ctx.emoji == .pictograph then .pictograph
    else if k == .zwj && ctx.emoji == .pictograph then .joined
    else .none
  ⟨k, conjunct, emoji, k == .regional && !ctx.oddRegionals⟩

/-- The context before any character: a boundary comes first. -/
def start : BreakContext := ⟨.control, .none, .none, false⟩

end BreakContext

/-- The clusters of `cs`, given the context before it and the cluster under way, held
backwards. -/
def clustersFrom (ctx : BreakContext) (current : List Char) : List Char → List (List Char)
  | [] => if current.isEmpty then [] else [current.reverse]
  | c :: cs =>
    if ctx.breaksBefore c && !current.isEmpty then
      current.reverse :: clustersFrom (ctx.push c) [c] cs
    else clustersFrom (ctx.push c) (c :: current) cs

/-- The grapheme clusters of a text, in order. -/
def clusters (cs : List Char) : List (List Char) := clustersFrom .start [] cs

example : clusters "e\u0301x".toList = [['e', '\u0301'], ['x']] := by decide +kernel
example : clusters "\r\n\x08".toList = [['\r', '\n'], ['\x08']] := by decide +kernel
example : (clusters "🇺🇸🇫".toList).length = 2 ∧ (clusters "각".toList).length = 1 := by
  decide +kernel

end TinySql.Text
