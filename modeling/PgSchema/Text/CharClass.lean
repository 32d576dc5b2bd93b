import PgSchema.Text.Lowercase
import PgSchema.Text.IdentifierChar
import PgSchema.Text.Ranges

/-!
Classes of characters: letters, digits and other numbers, capitals, small letters, and the letters
that are both.  Each script has its ten decimal digits in a row, so a table of the zeros gives the
value of them all.
-/

namespace PgSchema.Text

/-! ### Digits -/

/-- The zeros of the scripts other than the basic one. -/
def zeros : List Nat :=
  [1632, 1776, 1984, 2406, 2534, 2662, 2790, 2918, 3046, 3174, 3302, 3430, 3558, 3664, 3792,
   3872, 4160, 4240, 6112, 6160, 6470, 6608, 6784, 6800, 6992, 7088, 7232, 7248, 42528, 43216,
   43264, 43472, 43504, 43600, 44016, 65296, 66720, 68912, 69734, 69872, 69942, 70096, 70384,
   70736, 70864, 71248, 71360, 71472, 71904, 72016, 72784, 73040, 73120, 92768, 92864, 93008,
   120782, 120792, 120802, 120812, 120822, 123200, 123632, 125264, 130032]

/-- The value of a decimal digit. -/
def digitValue? (c : Char) : Option Nat :=
  if c.isDigit then some (c.toNat - 0x30)
  else if c.toNat < 0x80 then none
  else (zeros.find? fun z => z ≤ c.toNat ∧ c.toNat < z + 10).map (c.toNat - ·)

/-! ### Classes -/

/-- The letters that identifiers do not begin with. -/
def lettersBesides : Ranges :=
  [(890, 890), (3635, 3635), (3763, 3763), (11823, 11823), (64606, 64611), (65018, 65019),
   (65136, 65136), (65138, 65138), (65140, 65140), (65142, 65142), (65144, 65144),
   (65146, 65146), (65148, 65148), (65150, 65150), (65438, 65439)]

/-- The characters that identifiers begin with, and that are no letters. -/
def startsBesides : Ranges :=
  [(95, 95), (5870, 5872), (6277, 6278), (8472, 8472), (8494, 8494), (8544, 8578), (8581, 8584),
   (12295, 12295), (12321, 12329), (12344, 12346), (42726, 42735), (65856, 65908),
   (66369, 66369), (66378, 66378), (66513, 66517), (74752, 74862)]

/-- A letter. -/
def isLetter (c : Char) : Bool :=
  lettersBesides.has c.toNat || (isIdentifierStart c && !startsBesides.has c.toNat)

/-- The digits that are written above or below others, in circles, and so on. -/
def digitsBesides : Ranges :=
  [(178, 179), (185, 185), (4969, 4977), (6618, 6618), (8304, 8304), (8308, 8313), (8320, 8329),
   (9312, 9320), (9332, 9340), (9352, 9360), (9450, 9450), (9461, 9469), (9471, 9471),
   (10102, 10110), (10112, 10120), (10122, 10130), (68160, 68163), (69216, 69224),
   (69714, 69722), (127232, 127242)]

/-- The numbers that are no decimal digits. -/
def numbersBesides : Ranges :=
  [(178, 179), (185, 185), (188, 190), (2548, 2553), (2930, 2935), (3056, 3058), (3192, 3198),
   (3416, 3422), (3440, 3448), (3882, 3891), (4969, 4988), (5870, 5872), (6128, 6137),
   (6618, 6618), (8304, 8304), (8308, 8313), (8320, 8329), (8528, 8578), (8581, 8585),
   (9312, 9371), (9450, 9471), (10102, 10131), (11517, 11517), (12295, 12295), (12321, 12329),
   (12344, 12346), (12690, 12693), (12832, 12841), (12872, 12879), (12881, 12895),
   (12928, 12937), (12977, 12991), (13317, 13317), (13443, 13443), (14378, 14378),
   (15181, 15181), (19968, 19968), (19971, 19971), (19975, 19975), (19977, 19977),
   (20061, 20061), (20108, 20108), (20116, 20116), (20118, 20118), (20159, 20160),
   (20191, 20191), (20200, 20200), (20237, 20237), (20336, 20336), (20740, 20740),
   (20806, 20806), (20841, 20841), (20843, 20843), (20845, 20845), (21313, 21313),
   (21315, 21317), (21324, 21324), (21441, 21444), (22235, 22235), (22769, 22769),
   (22777, 22777), (24186, 24186), (24318, 24319), (24332, 24334), (24336, 24336),
   (25342, 25342), (25420, 25420), (26578, 26578), (28422, 28422), (29590, 29590),
   (30334, 30334), (32902, 32902), (33836, 33836), (36014, 36014), (36019, 36019),
   (36144, 36144), (38433, 38433), (38470, 38470), (38476, 38476), (38520, 38520),
   (38646, 38646), (42726, 42735), (43056, 43061), (63851, 63851), (63859, 63859),
   (63864, 63864), (63922, 63922), (63953, 63953), (63955, 63955), (63997, 63997),
   (65799, 65843), (65856, 65912), (65930, 65931), (66273, 66299), (66336, 66339),
   (66369, 66369), (66378, 66378), (66513, 66517), (67672, 67679), (67705, 67711),
   (67751, 67759), (67835, 67839), (67862, 67867), (68028, 68029), (68032, 68047),
   (68050, 68095), (68160, 68168), (68221, 68222), (68253, 68255), (68331, 68335),
   (68440, 68447), (68472, 68479), (68521, 68527), (68858, 68863), (69216, 69246),
   (69405, 69414), (69457, 69460), (69573, 69579), (69714, 69733), (70113, 70132),
   (71482, 71483), (71914, 71922), (72794, 72812), (73664, 73684), (74752, 74862),
   (93019, 93025), (93824, 93846), (119520, 119539), (119648, 119672), (125127, 125135),
   (126065, 126123), (126125, 126127), (126129, 126132), (126209, 126253), (126255, 126269),
   (127232, 127244), (131073, 131073), (131172, 131172), (131298, 131298), (131361, 131361),
   (133418, 133418), (133507, 133507), (133516, 133516), (133532, 133532), (133866, 133866),
   (133885, 133885), (133913, 133913), (140176, 140176), (141720, 141720), (146203, 146203),
   (156269, 156269), (194704, 194704)]

/-- A decimal digit. -/
def isDecimal (c : Char) : Bool := (digitValue? c).isSome

/-- A digit of any form. -/
def isDigitForm (c : Char) : Bool := isDecimal c || digitsBesides.has c.toNat

/-- A number of any form. -/
def isNumber (c : Char) : Bool := isDecimal c || numbersBesides.has c.toNat

/-- The letters that are a capital and a small letter in one. -/
def titleRanges : Ranges :=
  [(453, 453), (456, 456), (459, 459), (498, 498), (8072, 8079), (8088, 8095), (8104, 8111),
   (8124, 8124), (8140, 8140), (8188, 8188)]

/-- The capitals without a small letter of their own. -/
def loneCapitals : Ranges :=
  [(978, 980), (8450, 8450), (8455, 8455), (8459, 8461), (8464, 8466), (8469, 8469),
   (8473, 8477), (8484, 8484), (8488, 8488), (8492, 8493), (8496, 8497), (8499, 8499),
   (8510, 8511), (8517, 8517), (119808, 119833), (119860, 119885), (119912, 119937),
   (119964, 119964), (119966, 119967), (119970, 119970), (119973, 119974), (119977, 119980),
   (119982, 119989), (120016, 120041), (120068, 120069), (120071, 120074), (120077, 120084),
   (120086, 120092), (120120, 120121), (120123, 120126), (120128, 120132), (120134, 120134),
   (120138, 120144), (120172, 120197), (120224, 120249), (120276, 120301), (120328, 120353),
   (120380, 120405), (120432, 120457), (120488, 120512), (120546, 120570), (120604, 120628),
   (120662, 120686), (120720, 120744), (120778, 120778), (127280, 127305), (127312, 127337),
   (127344, 127369)]

/-- A letter that is a capital and a small letter in one. -/
def isTitle (c : Char) : Bool := titleRanges.has c.toNat

/-- A capital letter. -/
def isUpper (c : Char) : Bool :=
  isCased c && !isTitle c && (lowerChar c ≠ [c] || loneCapitals.has c.toNat)

/-- A small letter. -/
def isLower (c : Char) : Bool := isCased c && !isTitle c && !isUpper c

end PgSchema.Text
