import PgSchema.Text.CharClass
import PgSchema.Text.Uppercase

/-!
The case of whole texts: the first letters of words as capitals, capitals and small letters swapped,
and the form in which texts are compared without regard to case.
-/

namespace PgSchema.Text

/-- The characters of codes. -/
def ofCodes (codes : List Nat) : List Char := codes.map Char.ofNat

/-! ### First letters -/

/-- The letters that begin a word in another form than their capitals, by their codes. -/
def titleSequences : List (Nat × List Nat) :=
  [(223, [83, 115]), (452, [453]), (453, [453]), (454, [453]), (455, [456]), (456, [456]),
   (457, [456]), (458, [459]), (459, [459]), (460, [459]), (497, [498]), (498, [498]),
   (499, [498]), (1415, [1333, 1410]), (8114, [8122, 837]), (8115, [8124]), (8116, [902, 837]),
   (8119, [913, 834, 837]), (8124, [8124]), (8130, [8138, 837]), (8131, [8140]),
   (8132, [905, 837]), (8135, [919, 834, 837]), (8140, [8140]), (8178, [8186, 837]),
   (8179, [8188]), (8180, [911, 837]), (8183, [937, 834, 837]), (8188, [8188]),
   (64256, [70, 102]), (64257, [70, 105]), (64258, [70, 108]), (64259, [70, 102, 105]),
   (64260, [70, 102, 108]), (64261, [83, 116]), (64262, [83, 116]), (64275, [1348, 1398]),
   (64276, [1348, 1381]), (64277, [1348, 1387]), (64278, [1358, 1398]), (64279, [1348, 1389])]

/-- A letter as it begins a word. -/
def titleChar (c : Char) : List Char :=
  let n := c.toNat
  match titleSequences.lookup n with
  | some codes => ofCodes codes
  | none =>
    if 0x10d0 ≤ n ∧ n ≤ 0x10ff then [c]
    else if 0x1f80 ≤ n ∧ n ≤ 0x1faf then [Char.ofNat (if n / 8 % 2 = 0 then n + 8 else n)]
    else upperChar c

/-- A text in small letters but for the first letter of every word. -/
def titleFrom (before : List Char) (inside : Bool) : List Char → List Char
  | [] => []
  | c :: cs =>
    (if inside then lowerAt before cs c else titleChar c) ++
      titleFrom (c :: before) (isCased c) cs

/-- A text in small letters but for the first letter of every word. -/
def title (s : String) : String := String.ofList (titleFrom [] false s.toList)

/-- A text in small letters but for its first one. -/
def capitalize (s : String) : String :=
  match s.toList with
  | [] => ""
  | c :: cs => String.ofList (titleChar c ++ lowerFrom [c] cs)

/-! ### Swapped case -/

/-- Capitals and small letters swapped. -/
def swapFrom (before : List Char) : List Char → List Char
  | [] => []
  | c :: cs =>
    (if isUpper c then lowerAt before cs c else if isLower c then upperChar c else [c]) ++
      swapFrom (c :: before) cs

/-- Capitals and small letters swapped. -/
def swapCase (s : String) : String := String.ofList (swapFrom [] s.toList)

/-! ### Comparison without case -/

/-- The letters that are compared in another form than their small letters, by their codes. -/
def foldSequences : List (Nat × List Nat) :=
  [(181, [956]), (223, [115, 115]), (329, [700, 110]), (383, [115]), (496, [106, 780]),
   (837, [953]), (912, [953, 776, 769]), (944, [965, 776, 769]), (962, [963]), (976, [946]),
   (977, [952]), (981, [966]), (982, [960]), (1008, [954]), (1009, [961]), (1013, [949]),
   (1415, [1381, 1410]), (7296, [1074]), (7297, [1076]), (7298, [1086]), (7299, [1089]),
   (7300, [1090]), (7301, [1090]), (7302, [1098]), (7303, [1123]), (7304, [42571]),
   (7830, [104, 817]), (7831, [116, 776]), (7832, [119, 778]), (7833, [121, 778]),
   (7834, [97, 702]), (7835, [7777]), (7838, [115, 115]), (8016, [965, 787]),
   (8018, [965, 787, 768]), (8020, [965, 787, 769]), (8022, [965, 787, 834]),
   (8064, [7936, 953]), (8065, [7937, 953]), (8066, [7938, 953]), (8067, [7939, 953]),
   (8068, [7940, 953]), (8069, [7941, 953]), (8070, [7942, 953]), (8071, [7943, 953]),
   (8072, [7936, 953]), (8073, [7937, 953]), (8074, [7938, 953]), (8075, [7939, 953]),
   (8076, [7940, 953]), (8077, [7941, 953]), (8078, [7942, 953]), (8079, [7943, 953]),
   (8080, [7968, 953]), (8081, [7969, 953]), (8082, [7970, 953]), (8083, [7971, 953]),
   (8084, [7972, 953]), (8085, [7973, 953]), (8086, [7974, 953]), (8087, [7975, 953]),
   (8088, [7968, 953]), (8089, [7969, 953]), (8090, [7970, 953]), (8091, [7971, 953]),
   (8092, [7972, 953]), (8093, [7973, 953]), (8094, [7974, 953]), (8095, [7975, 953]),
   (8096, [8032, 953]), (8097, [8033, 953]), (8098, [8034, 953]), (8099, [8035, 953]),
   (8100, [8036, 953]), (8101, [8037, 953]), (8102, [8038, 953]), (8103, [8039, 953]),
   (8104, [8032, 953]), (8105, [8033, 953]), (8106, [8034, 953]), (8107, [8035, 953]),
   (8108, [8036, 953]), (8109, [8037, 953]), (8110, [8038, 953]), (8111, [8039, 953]),
   (8114, [8048, 953]), (8115, [945, 953]), (8116, [940, 953]), (8118, [945, 834]),
   (8119, [945, 834, 953]), (8124, [945, 953]), (8126, [953]), (8130, [8052, 953]),
   (8131, [951, 953]), (8132, [942, 953]), (8134, [951, 834]), (8135, [951, 834, 953]),
   (8140, [951, 953]), (8146, [953, 776, 768]), (8147, [953, 776, 769]), (8150, [953, 834]),
   (8151, [953, 776, 834]), (8162, [965, 776, 768]), (8163, [965, 776, 769]),
   (8164, [961, 787]), (8166, [965, 834]), (8167, [965, 776, 834]), (8178, [8060, 953]),
   (8179, [969, 953]), (8180, [974, 953]), (8182, [969, 834]), (8183, [969, 834, 953]),
   (8188, [969, 953]), (64256, [102, 102]), (64257, [102, 105]), (64258, [102, 108]),
   (64259, [102, 102, 105]), (64260, [102, 102, 108]), (64261, [115, 116]), (64262, [115, 116]),
   (64275, [1396, 1398]), (64276, [1396, 1381]), (64277, [1396, 1387]), (64278, [1406, 1398]),
   (64279, [1396, 1389])]

/-- A letter as it is compared without regard to case. -/
def foldChar (c : Char) : List Char :=
  let n := c.toNat
  match foldSequences.lookup n with
  | some codes => ofCodes codes
  | none =>
    if 0x13a0 ≤ n ∧ n ≤ 0x13f5 then [c]
    else if 0x13f8 ≤ n ∧ n ≤ 0x13fd then [Char.ofNat (n - 8)]
    else if 0xab70 ≤ n ∧ n ≤ 0xabbf then [Char.ofNat (n - 0xab70 + 0x13a0)]
    else lowerChar c

/-- A text as it is compared without regard to case. -/
def foldCase (s : String) : String := String.ofList (s.toList.flatMap foldChar)

end PgSchema.Text
