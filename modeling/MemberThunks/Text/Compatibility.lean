import MemberThunks.Text.NormalForm

set_option autoImplicit false

/- Names in their normal form. Letters and digits of other styles stand for the plain ones,
   and some letters for several; what is left is composed. -/
namespace MemberThunks.Compatibility

/-- Characters that stand for one plain character each: the code of the first of a row, and
what the row stands for. -/
def rows : List (Nat × String) := [
  (0xAA, "a"), (0xBA, "o"), (0x17F, "s"), (0x2B0, "h"), (0x2B2, "jr"), (0x2B7, "wy"),
  (0x2E1, "lsx"), (0x1D2C, "A"), (0x1D2E, "B"), (0x1D30, "DE"), (0x1D33, "GHIJKLMN"),
  (0x1D3C, "O"), (0x1D3E, "PRTUWa"), (0x1D47, "bde"), (0x1D4D, "g"), (0x1D4F, "km"),
  (0x1D52, "o"), (0x1D56, "ptu"), (0x1D5B, "v"), (0x1D62, "iruv"), (0x1D9C, "c"), (0x1DA0, "f"),
  (0x1DBB, "z"), (0x2071, "i"), (0x207F, "n"), (0x2090, "aeox"), (0x2095, "hklmnpst"),
  (0x2102, "C"), (0x210A, "gHHHh"), (0x2110, "IILl"), (0x2115, "N"), (0x2119, "PQRRR"),
  (0x2124, "Z"), (0x2128, "Z"), (0x212A, "K"), (0x212C, "BC"), (0x212F, "eEF"), (0x2133, "Mo"),
  (0x2139, "i"), (0x2145, "Ddeij"), (0x2160, "I"), (0x2164, "V"), (0x2169, "X"),
  (0x216C, "LCDMi"), (0x2174, "v"), (0x2179, "x"), (0x217C, "lcdm"), (0x2C7C, "jV"),
  (0xA7F2, "CFQ"), (0xFE33, "__"), (0xFE4D, "___"), (0xFF10, "0123456789"),
  (0xFF21, "ABCDEFGHIJKLMNOPQRSTUVWXYZ"), (0xFF3F, "_"), (0xFF41, "abcdefghijklmnopqrstuvwxyz"),
  (0x107A5, "q"),
  (0x1D400, "ABCDEFGHIJKLMNOPQRSTUVWXYZabcdefghijklmnopqrstuvwxyzABCDEFGHIJKLMNOPQRSTUVWXYZabcdefg"),
  (0x1D456, "ijklmnopqrstuvwxyzABCDEFGHIJKLMNOPQRSTUVWXYZabcdefghijklmnopqrstuvwxyzA"),
  (0x1D49E, "CD"), (0x1D4A2, "G"), (0x1D4A5, "JK"), (0x1D4A9, "NOPQ"), (0x1D4AE, "STUVWXYZabcd"),
  (0x1D4BB, "f"), (0x1D4BD, "hijklmn"),
  (0x1D4C5, "pqrstuvwxyzABCDEFGHIJKLMNOPQRSTUVWXYZabcdefghijklmnopqrstuvwxyzAB"),
  (0x1D507, "DEFG"), (0x1D50D, "JKLMNOPQ"), (0x1D516, "STUVWXY"),
  (0x1D51E, "abcdefghijklmnopqrstuvwxyzAB"), (0x1D53B, "DEFG"), (0x1D540, "IJKLM"),
  (0x1D546, "O"), (0x1D54A, "STUVWXY"),
  (0x1D552, "abcdefghijklmnopqrstuvwxyzABCDEFGHIJKLMNOPQRSTUVWXYZabcdefghijklmnopqrstuvwxyzABCDEFGHIJKLMNOPQRSTUVWXYZabcdefghijklmnopqrstuvwxyzABCDEFGHIJKLMNOPQRSTUVWXYZabcdefghijklmnopqrstuvwxyzABCDEFGHIJKLMNOPQRSTUVWXYZabcdefghijklmnopqrstuvwxyzABCDEFGHIJKLMNOPQRSTUVWXYZabcdefghijklmnopqrstuvwxyzABCDEFGHIJKLMNOPQRSTUVWXYZabcdefghijklmnopqrstuvwxyz"),
  (0x1D7CE, "01234567890123456789012345678901234567890123456789"), (0x1FBF0, "0123456789")]

/-- Characters that stand for a text each. -/
def texts : List (Nat × String) := [
  (0xB5, "μ"), (0x132, "IJ"), (0x133, "ij"), (0x1C4, "DŽ"), (0x1C5, "Dž"), (0x1C6, "dž"),
  (0x1C7, "LJ"), (0x1C8, "Lj"), (0x1C9, "lj"), (0x1CA, "NJ"), (0x1CB, "Nj"), (0x1CC, "nj"),
  (0x1F1, "DZ"), (0x1F2, "Dz"), (0x1F3, "dz"), (0x2161, "II"), (0x2162, "III"), (0x2163, "IV"),
  (0x2165, "VI"), (0x2166, "VII"), (0x2167, "VIII"), (0x2168, "IX"), (0x216A, "XI"),
  (0x216B, "XII"), (0x2171, "ii"), (0x2172, "iii"), (0x2173, "iv"), (0x2175, "vi"),
  (0x2176, "vii"), (0x2177, "viii"), (0x2178, "ix"), (0x217A, "xi"), (0x217B, "xii"),
  (0xFB00, "ff"), (0xFB01, "fi"), (0xFB02, "fl"), (0xFB03, "ffi"), (0xFB04, "ffl"),
  (0xFB05, "st"), (0xFB06, "st")]

/-- The character that a character of some row stands for. -/
def plain? (code : Nat) : Option Char :=
  rows.findSome? fun row => if row.1 ≤ code then row.2.toList[code - row.1]? else none

def expand (c : Char) : List Char :=
  if c.toNat < 128 then [c]
  else
    match plain? c.toNat, texts.lookup c.toNat with
    | some other, _ => [other]
    | none, some text => text.toList
    | none, none => [c]

/-- The normal form of a name. -/
def normalized (name : String) : String :=
  if name.toList.all fun c => c.toNat < 128 then name
  else
    String.ofList ((NormalForm.compose (NormalForm.reorder (NormalForm.decompose
      ((name.toList.flatMap expand).map Char.toNat)))).map Char.ofNat)

end MemberThunks.Compatibility
