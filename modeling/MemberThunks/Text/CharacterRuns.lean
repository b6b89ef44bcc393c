set_option autoImplicit false

/- The classes of the characters beyond ASCII, as they follow each other: each word of
   the text is the length of a run of characters of one class, in base 36, and the letter
   of the class. -/
namespace MemberThunks.CharacterRuns

/-- The value of a digit in base 36. Anything else has none. -/
def digit? (c : Char) : Option Nat :=
  if 48 ≤ c.toNat && c.toNat ≤ 57 then some (c.toNat - 48)
  else if 97 ≤ c.toNat && c.toNat ≤ 122 then some (c.toNat - 87)
  else none

/-- Splits a text into runs. What is no digit and no blank ends a run. -/
def decode (length : Nat) : List Char → List (Nat × Char)
  | [] => []
  | c :: rest =>
    match digit? c with
    | some digit => decode (length * 36 + digit) rest
    | none => if c = ' ' then decode length rest else (length, c) :: decode 0 rest

/-- The letter of the run in which a place falls. -/
def letterAt? (place : Nat) : List (Nat × Char) → Option Char
  | [] => none
  | (length, letter) :: rest =>
    if place < length then some letter else letterAt? (place - length) rest

def text : List String := [
  "5A 1B qA 1B 9C 1H 2C 1A 4C 2I 1C 1H 1C 1D 1C 1I 1H 1C 3F 1C nH 1C vH 1C cqH 4C cH eC 5H 7C",
  "1H 1C 1H hC 34D 5H 1C 2H 2A 1F 3H 1C 1H 4A 2C 1H 1D 3H 1A 1H 1A kH 1A 2bH 1C 3vH 1C 5D 2C",
  "4mH 1A 12H 2A 1H 6C 15H 2C 2A 3C 1A 19D 1C 1D 1C 2D 1C 2D 1C 1D 8A rH 4A 4H 2C hA aC bD 1C",
  "1A 3C 17H lD aJ 4C 2H 1D 2rH 1C 1H 7D 1A 1C 6D 2H 2D 1C 4D 2H aJ 3H 2C 1H eC 2A 1H 1D uH rD",
  "2A 2hH bD 1H eA aJ xH 9D 2H 4C 1H 2A 1D 2C mH 4D 1H 9D 1H 3D 1H 5D 2A fC 1A pH 3D 2A 1C 1A",
  "bH 5A oH 1C 6H 9A 8D 16H oD 1A xD 1iH 3D 1H iD 1H 7D aH 2D 2C aJ 1C gH 3D 1A 8H 2A 2H 2A mH",
  "1A 7H 1A 1H 3A 4H 2A 1D 1H 7D 2A 2D 2A 3D 1H 8A 1D 4A 2H 1A 3H 2D 2A aJ 2H 2C 6F 2C 1H 1C 1D",
  "2A 3D 1A 6H 4A 2H 2A mH 1A 7H 1A 2H 1A 2H 1A 2H 2A 1D 1A 5D 4A 2D 2A 3D 3A 1D 7A 4H 1A 1H 7A",
  "aJ 2D 3H 1D 1C aA 3D 1A 9H 1A 3H 1A mH 1A 7H 1A 2H 1A 5H 2A 1D 1H 8D 1A 3D 1A 3D 2A 1H fA 2H",
  "2D 2A aJ 2C 7A 1H 6D 1A 3D 1A 8H 2A 2H 2A mH 1A 7H 1A 2H 1A 5H 2A 1D 1H 7D 2A 2D 2A 3D 7A 3D",
  "4A 2H 1A 3H 2D 2A aJ 1C 1H 6F aA 1D 1H 1A 6H 3A 3H 1A 4H 3A 2H 1A 1H 1A 2H 3A 2H 3A 3H 3A cH",
  "4A 5D 3A 3D 1A 4D 2A 1H 6A 1D eA aJ 3F 8C 5A 5D 8H 1A 3H 1A nH 1A gH 2A 1D 1H 7D 1A 3D 1A 4D",
  "7A 2D 1A 3H 2A 1H 2A 2H 2D 2A aJ 7A 1C 7F 1C 1H 3D 1C 8H 1A 3H 1A nH 1A aH 1A 5H 2A 1D 1H 7D",
  "1A 3D 1A 4D 7A 2D 6A 2H 1A 2H 2D 2A aJ 1A 2H dA 4D 9H 1A 3H 1A 15H 2D 1H 7D 1A 3D 1A 4D 1H",
  "1C 4A 3H 1D 7F 3H 2D 2A aJ 9F 1C 6H 1A 3D 1A iH 3A oH 1A 9H 1A 1H 2A 7H 3A 1D 4A 6D 1A 1D 1A",
  "8D 6A aJ 2A 2D 1C cA 1cH 1D 1H 1G 7D 4A 1C 7H 8D 1C aJ 2C 11A 2H 1A 1H 1A 5H 1A oH 1A 1H 1A",
  "aH 1D 1H 1G 9D 1H 2A 5H 1A 1H 1A 6D 2A aJ 2A 4H wA 1H nC 2D 6C aJ aF 1C 1D 1C 1D 1C 1D 4C 2D",
  "8H 1A 10H 4A kD 1C 2D 5H bD 1A 10D 1A 8C 1D 6C 1A dC 11A 17H kD 1H aJ 6C 6H 4D 4H 3D 1H 3D",
  "2H 7D 3H 4D dH cD 1H 1D aJ 4D 2C 12H 1A 1H 5A 1H 2A 17H 1C 99H 1A 4H 2A 7H 1A 1H 1A 4H 2A",
  "15H 1A 4H 2A xH 1A 4H 2A 7H 1A 1H 1A 4H 2A fH 1A 1lH 1A 4H 2A 1vH 2A 3D 9C 9J bF 3A gH aC 6A",
  "2eH 2A 6H 2A 1C h8H 2C hH 1B qH 2C 3A 23H 3C bH 7A iH 4D 9A jH 3D 2C 9A iH 2D cA dH 1A 3H 1A",
  "2D cA 1gH wD 3C 1H 4C 1H 1D 2A aJ 6A aF 6A bC 3D 1A 1D aJ 6A 2hH 7A 5H 2E yH 1D 1H 5A 1yH aA",
  "vH 1A cD 4A cD 4A 1C 3A 2C aJ uH 2A 5H bA 18H 4A qH 6A bJ 3A yC nH 5D 2A 2C 1hH aD 1A tD 2A",
  "1D aJ 6A aJ 6A 7C 1H 6C 2A eD 1C gD 1dA 5D 1bH hD 8H 3A aJ hC 9D bC 1A 3D uH dD 2H aJ 18H eD",
  "8A 4C 10H kD 3A 5C aJ 3A 3H aJ 10H 2C 9H 7A 17H 2A 3H 8C 8A 3D 1C lD 4H 1D 6H 1D 2H 3D 1H 5A",
  "5cH 1sD 7qH 2A 6H 2A 12H 2A 6H 2A 8H 1A 1H 1A 1H 1A 1H 1A vH 2A 1hH 1A 7H 1C 1H 3C 3H 1A 7H",
  "3C 4H 2A 6H 1A 3C dH 3C 2A 3H 1A 7H 2C 1A bB 5A oC 2B 5A 1B fC 2D jC 1D aC 1B gA 1I 1H 2A 6I",
  "5C 1H aI 5C 1A dH 3A xC fA dD 4C 1D 3C cD fA 2C 1H 4C 1H 2C aH 1C 1H 2C 1E 5H 6C 1H 1C 1H 1C",
  "1H 1C 4H 1E bH 2C 4H 5C 5H 4C 1H 1C gF 15H 1F 2C 4A ifC pA bC lA 9I bF 9I bF 9I bF 26C 1I aF",
  "9I 1F 1I hiC 9I 1F 9I 1F 9I 1F rkC 2A wC 1A 2xC 6dH 6C 4H 3D 2H 5A 4C 1F 2C 12H 1A 1H 5A 1H",
  "2A 1kH 7A 1H 1C eA 1D nH 9A 7H 1A 7H 1A 7H 1A 7H 1A 7H 1A 7H 1A 7H 1A 7H 1A wD 1bC 1F 1aC yA",
  "qC 1A 2hC cA 5yC qA cC 4A 1B 4C 3H pC 9H 6D 1C 5H 2C 5H 3C 1A 2eH 2A 2D 2C 3H 1C 2iH 1C 4H",
  "5A 17H 1A 2mH 1A 2C 4F aC wH 10C cA gH vC 1A aF uC 8F 1C fF wC aF 13C fF 8wC 534H 1sC h3hH",
  "3A 1jC 9A 1aH 2C 7hH 3C gH aJ 2H kA 1bH 1D 4C aD 1C vH 2D 28H 2D 6C 8A nC 9H 2C 2vH 2C 1sH",
  "5A 2H 1A 1H 1A 5H oA gH 1D 3H 1D 4H 1D nH 5D 4C 1D 3A 6F 4C 6A 1gH 4C 8A 2D 1eH iD 8A 2C aJ",
  "6A iD 6H 3C 1H 1C 2H 1D aJ sH 8D 2C nH dD bA 1C tH 3A 4D 1bH eD dC 1A 1H aJ 4A 2C 5H 1D aH",
  "aJ 5H 1A 15H eD 9A 3H 1D 8H 2D 2A aJ 2A 4C nH 3C 1H 3D 1eH 1D 1H 3D 2H 2D 5H 2D 1H 1D 1H oA",
  "3H 2C bH 5D 2C 3H 2D aA 6H 2A 6H 2A 6H 9A 7H 1A 7H 1A 17H 1C eH 2C 4A 37H 8D 1C 2D 2A aJ 6A",
  "8mcH cA nH 4A 1dH 6isA a6H 2A 2yH 12A 7H cA 5H 5A 1H 1D aH 1C dH 1A 5H 1A 1H 1A 2H 1A 2H 1A",
  "30H hC gA 3vH 6F 62H iC 1sH 2A 1iH 7A 1C wA aH 2F 4C gD aC 6A gD 3C 2D oC 3D 3C 1A jC 1A 4C",
  "4A 1F 1H 1F 1H 1F 1A 1F 1H 1F 1H 1F 1H 1F 1H 1F 3iH 4A fC aJ 7C qH 4C 1D 1C qH bC 1kH 2G vH",
  "3A 6H 2A 6H 2A 6H 2A 3H 3A 7C 1A 7C dA 2C 2A cH 1A qH 1A jH 1A 2H 1A fH 2A eH yA 3fH 5A 3C",
  "4A 19F 3A 9C 1hH 4F hC 2F 3C 1A dC 3A 1C 1bA 19C 1D 3mA tH 3A 1dH fA 1D rF 4A wH 4F 9A uH 5A",
  "12H 5D 5A uH 1A 1C 10H 4A 8H 1C 5H 16A 4eH 2A aJ 6A 10H 4A 10H 4A 14H 8A 1gH bA 1C bH 1A fH",
  "1A 7H 1A 2H 1A bH 1A fH 1A 7H 1A 2H 1vA 8nH 9A mH aA 8H oA 6H 1A 16H 1A 9H 1xA 6H 2A 1H 1A",
  "18H 1A 2H 3A 1H 2A nH 1A 1C 8F nH 2C 7F vH 8A 9F 1cA jH 1A 2H 5A 5F mH 6F 3A 1C qH 5A 1C 1sA",
  "1kH 4A 2F 2H gF 2A 1aF 1H 3D 1A 2D 5A 4D 4H 1A 3H 1A tH 2A 3D 4A 1D 4I 5F 7A 9C 7A tH 2F 1C",
  "tH 3F wA 8H 1C sH 2D 4A 5F 7C 9A 1iH 3A 7C mH 2A 8F jH 5A 8F iH 7A 4C cA 7F 28A 21H 1jA 1fH",
  "dA 1fH 7A 6F 10H 4D 8A aJ 86A 9I mF 1A 16H 1A 2D 1C 2A 2H 26A tH aF 1H 8A mH bD 4F 5C mA iH",
  "4D 4C 12A lH 7F kA nH 9A 3D 1hH fD 7C 4A 9I bF aJ 1D 2H 2D 1H 9A 4D 19H bD 2C 1A 4C 1D dA pH",
  "7A aJ 6A 3D 10H eD 1A aJ 4C 1H 2D 1H 8A zH 1D 2C 1H 9A 3D 1cH eD 4H 4C 4D 1C 2D aJ 1H 1C 1H",
  "3C 1A kF bA iH 1A pH cD 6C 1D 1tA 7H 1A 1H 1A 4H 1A fH 1A aH 1C 6A 1bH cD 5A aJ 6A 4D 1A 8H",
  "2A 2H 2A mH 1A 7H 1A 2H 1A 5H 1A 2D 1H 7D 2A 2D 2A 3D 2A 1H 6A 1D 5A 5H 2D 2A 7D 3A 5D 3vA",
  "1hH iD 4H 5C aJ 2C 1A 1C 1D 3H uA 1cH kD 2H 1C 1H 8A aJ 4mA 1bH 7D 2A 9D nC 4H 2D yA 1cH hD",
  "3C 1H bA aJ 6A dC jA 17H dD 1H 1C 6A aJ 1iA rH 2A fD 4A aJ 2F 4C 7H 55A 18H fD 1C 2sA 1sH aJ",
  "9F cA 8H 2A 1H 2A 8H 1A 2H 1A oH 6D 1A 2D 2A 4D 1H 1D 1H 2D 3C 9A aJ 1yA 8H 2A 13H 7D 2A 7D",
  "1H 1C 1H 1D rA 1H aD 14H 7D 1H 4D 8C 1D 8A 1H bD 1aH gD 3C 1H 5C dA 21H 7bA 9H 1A 11H 8D 1A",
  "8D 1H 5C aA aJ jF 3A 2C uH 2A mD 1A eD 21A 7H 1A 2H 1A 12H 6D 3A 1D 1A 2D 1A 7D 1H 1D 8A aJ",
  "6A 6H 1A 2H 1A wH 5D 1A 2D 1A 5D 1H 7A aJ 8mA jH 4D 2C 53A 1H fA lF tC dA 1C pmH 2uA 33H 1A",
  "5C bA 5gH 218A 2pH 2C dA trH 34hA g7H 6ntA ftH 7A vH 1A aJ 4A 2C 27H 1A aJ 6A uH 2A 5D 1C aA",
  "1cH 7D 9C 4H 2C aA aJ 1A 7F 1A lH 5A jH j4A 1sH nF 4C 2tA 23H 4A 1D 1H 1jD 7A 4D dH 1sA 2H",
  "1C 1H 1D bA 2D eA 4qgH 8A yeH 16A 9H 6w7A 4H 1A 7H 1A 2H 1A 83H 19A 3H hA 4H 8A b0H 1s4A 2zH",
  "5A dH 3A 9H 7A aH 2A 1C 2D 1C 3moA 1aD 2A nD 9A 38C 1oA 6uC aA 13C 2A 1oC 5D 3C 6D 8A 8D 2C",
  "7D uC 4D 1pC lA 1uC 3D 1C 4aA kF cA 2fC 9A pF 3rA 2dH 1A 1zH 1A 2H 2A 1H 2A 2H 2A 4H 1A cH",
  "1A 1H 1A 7H 1A 1tH 1A 4H 2A 8H 1A 7H 1A sH 1A 4H 1A 5H 1A 1H 3A 7H 1A 9gH 2A pH 1C pH 1C vH",
  "1C pH 1C vH 1C pH 1C vH 1C pH 1C vH 1C pH 1C 8H 2A 1eJ e8C 1jD 4C 1eD 8C 1D eC 1D 7C fA 5D",
  "1A fD uoA vH 69A 7D 1A hD 2A 7D 1A 2D 1A 5D 5xA 19H 3A 7D 7H 2A aJ 4A 1H 1C 8wA uH 1D hA 18H",
  "4D aJ 5A 1C yoA 7H 1A 4H 1A 2H 1A fH 1A 5hH 2A 9F 7D 15A 1wH 7D 1H 4A aJ 4A 2C ltA 1nF 1C 3F",
  "1C 4F 24A 19F 1C fF 5eA 4H 1A rH 1A 2H 1A 1H 2A 1H 1A aH 1A 4H 1A 1H 1A 1H 6A 1H 4A 1H 1A 1H",
  "1A 1H 1A 3H 1A 2H 1A 1H 2A 1H 1A 1H 1A 1H 1A 1H 1A 1H 1A 2H 1A 1H 2A 4H 1A 7H 1A 4H 1A 4H 1A",
  "1H 1A aH 1A hH 5A 3H 1A 5H 1A hH 1gA 2C 7iA 18C 4A 2sC cA fC 2A fC 1A fC 1A 11C aA bI 2F 4hC",
  "1kA tC dA 18C 4A 9C 7A 2C eA 6C 4aA rcC 5A gC 3A dC 3A 38C cA 2hC 7A cC 4A 1C fA cC 4A 1kC",
  "8A aC 6A 14C 8A uC 2A 2C 26A 9gC cA eC 2A 5C 3A 5C 3A 7C 9A tC 3A bC 5A 6C aA aC 6A 8C 8A 7C",
  "9A 43C 1A 1jC 11A aJ smA wyoH wA 37dH 7A 66H 2A 4g2H eA 5rlH 2e7A f2H 15uA 3t7H fcmtA 6oD",
  "47bkA"]

def runs : List (Nat × Char) := text.flatMap fun line => decode 0 line.toList

end MemberThunks.CharacterRuns
