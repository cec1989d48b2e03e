import Spellbook.Unicode.Intervals

/-!
# Upper and lower case

The full case mappings of Unicode 14.0.  Most capitals and small letters are mapped to each other,
and neighbours share their distance.  Some small letters become several characters.  The capital
sigma is the one letter whose lower case depends on its place in the word.
-/

namespace Spellbook.Unicode

/--
A run of characters that a case mapping moves by one distance: every `stride`-th code point from
`first` to `last`, the first of them to `target`.
-/
structure CaseRun where
  first : Nat
  last : Nat
  stride : Nat
  target : Nat

namespace CaseRun

/-- Tables of runs tell how many code points are skipped and moved, and the first target. -/
def shiftsFrom (start : Nat) : List Nat → List CaseRun
  | skipped :: taken :: target :: runs =>
    ⟨start + skipped, start + skipped + taken - 1, 1, target⟩ ::
      shiftsFrom (start + skipped + taken) runs
  | _ => []

/-- A table of neighbours tells how many code points are skipped and how many pairs follow. -/
def neighboursFrom (start : Nat) : List Nat → List CaseRun
  | skipped :: pairs :: runs =>
    ⟨start + skipped + 1, start + skipped + 2 * pairs - 1, 2, start + skipped⟩ ::
      neighboursFrom (start + skipped + 2 * pairs) runs
  | _ => []

def inverse (run : CaseRun) : CaseRun where
  first := run.target
  last := run.target + (run.last - run.first)
  stride := run.stride
  target := run.first

def image? (runs : List CaseRun) (point : Nat) : Option Nat :=
  (runs.find? fun run =>
      run.first ≤ point && point ≤ run.last && (point - run.first) % run.stride == 0).map
    fun run => run.target + (point - run.first)

end CaseRun

/-- The small letters that are mapped to capitals which are mapped back to them. -/
def pairedRuns : List CaseRun :=
  CaseRun.shiftsFrom 0 [
    97,26,65,101,23,192,1,7,216,0,1,376,128,1,579,20,1,502,4,1,573,3,1,544,32,1,503,6,1,452,2,1,
    455,2,1,458,16,1,398,21,1,497,75,2,11390,15,1,11375,0,1,11373,0,1,11376,0,1,385,0,1,390,1,2,
    393,1,1,399,1,1,400,0,1,42923,3,1,403,0,1,42924,1,1,404,1,1,42893,0,1,42922,1,1,407,0,1,406,0,
    1,42926,0,1,11362,0,1,42925,2,1,412,1,1,11374,0,1,413,2,1,415,7,1,11364,2,1,422,1,1,42949,0,1,
    425,3,1,42929,0,1,430,0,1,580,0,2,433,0,1,581,5,1,439,10,1,42930,0,1,42928,220,3,1021,46,1,902,
    0,3,904,1,17,913,1,9,931,0,1,908,0,2,910,8,1,975,26,1,1017,0,1,895,60,32,1040,0,16,1024,111,1,
    1216,145,38,1329,2889,43,7312,2,3,7357,760,6,5104,2427,1,42877,3,1,11363,16,1,42950,369,8,7944,
    8,6,7960,10,8,7976,8,8,7992,8,6,8008,11,1,8025,1,1,8027,1,1,8029,1,1,8031,8,8,8040,8,2,8122,0,
    4,8136,0,2,8154,0,2,8184,0,2,8170,0,2,8186,50,2,8120,30,2,8152,14,2,8168,3,1,8172,360,1,8498,
    33,16,8544,848,26,9398,1862,48,11264,5,1,570,0,1,574,153,38,4256,1,1,4295,5,1,4301,31334,1,
    42948,958,1,42931,28,80,5024,21377,26,65313,1229,40,66560,136,36,66736,155,11,66928,1,15,66940,
    1,7,66956,1,2,66964,1795,51,68736,3021,32,71840,21888,32,93760,31394,34,125184] ++
  CaseRun.neighboursFrom 0 [
    256,24,2,3,1,8,1,23,1,3,3,2,1,1,2,1,4,1,5,1,6,3,1,1,3,1,1,1,2,2,1,1,2,1,15,8,1,9,4,1,2,20,2,9,
    7,1,4,1,3,5,288,2,2,1,96,12,7,1,1,1,100,17,8,27,1,7,1,48,6352,75,10,48,643,1,2779,1,5,3,5,1,1,
    1,9,50,7,2,3,1,31052,23,18,14,134,7,2,31,9,2,1,5,3,1,3,2,2,10,10,8,3,2,5,1,4,2,27,1]

/-- The characters that become capitals, or first become capitals, of other small letters. -/
def upperRuns : List CaseRun := pairedRuns ++ CaseRun.shiftsFrom 0 [
  181,1,924,41,1,83,81,1,73,23,1,700,53,1,83,69,1,452,2,1,455,2,1,458,36,1,74,1,1,497,338,1,921,74,
  1,921,31,1,933,17,1,931,13,1,914,0,1,920,3,1,934,0,1,928,25,1,922,0,1,929,3,1,917,401,1,1333,
  5880,1,1042,0,1,1044,0,1,1054,0,2,1057,0,1,1058,0,1,1066,0,1,1122,0,1,42570,525,1,72,0,1,84,0,1,
  87,0,1,89,0,1,65,0,1,7776,180,1,933,1,1,933,1,1,933,1,1,933,41,8,7944,0,8,7944,0,8,7976,0,8,7976,
  0,8,8040,0,8,8040,2,1,8122,0,1,913,0,1,902,1,1,913,0,1,913,4,1,913,1,1,921,3,1,8138,0,1,919,0,1,
  905,1,1,919,0,1,919,4,1,919,5,1,921,0,1,921,2,1,921,0,1,921,10,1,933,0,1,933,0,1,929,1,1,933,0,1,
  933,10,1,8186,0,1,937,0,1,911,1,1,937,0,1,937,4,1,937,56067,1,70,0,1,70,0,1,70,0,1,70,0,1,70,0,1,
  83,0,1,83,12,1,1348,0,1,1348,0,1,1348,0,1,1358,0,1,1348]

def lowerRuns : List CaseRun := pairedRuns.map CaseRun.inverse ++ CaseRun.shiftsFrom 0 [
  453,1,454,2,1,457,2,1,460,38,1,499,513,1,952,6825,1,223,233,8,8064,8,8,8080,8,8,8096,12,1,8115,
  15,1,8131,47,1,8179,297,1,969,3,1,107,0,1,229]

/-- What follows the first capital where a character becomes several. -/
def upperEndings : List (Intervals × List Nat) := [
  (.ofRuns [223, 1], [0x53]), (.ofRuns [329, 1], [0x4E]), (.ofRuns [496, 1], [0x30C]),
  (.ofRuns [912, 1, 31, 1, 7202, 1, 15, 1], [0x308, 0x301]), (.ofRuns [1415, 1], [0x552]),
  (.ofRuns [7830, 1], [0x331]), (.ofRuns [7831, 1], [0x308]), (.ofRuns [7832, 2], [0x30A]),
  (.ofRuns [7834, 1], [0x2BE]), (.ofRuns [8016, 1, 147, 1], [0x313]),
  (.ofRuns [8018, 1], [0x313, 0x300]), (.ofRuns [8020, 1], [0x313, 0x301]),
  (.ofRuns [8022, 1], [0x313, 0x342]),
  (.ofRuns [8064, 48, 2, 3, 7, 1, 5, 3, 7, 1, 37, 3, 7, 1], [0x399]),
  (.ofRuns [8118, 1, 15, 1, 15, 1, 15, 1, 15, 1], [0x342]),
  (.ofRuns [8119, 1, 15, 1, 47, 1], [0x342, 0x399]), (.ofRuns [8146, 1, 15, 1], [0x308, 0x300]),
  (.ofRuns [8151, 1, 15, 1], [0x308, 0x342]), (.ofRuns [64256, 1], [0x46]),
  (.ofRuns [64257, 1], [0x49]), (.ofRuns [64258, 1], [0x4C]), (.ofRuns [64259, 1], [0x46, 0x49]),
  (.ofRuns [64260, 1], [0x46, 0x4C]), (.ofRuns [64261, 2], [0x54]),
  (.ofRuns [64275, 1, 2, 1], [0x546]), (.ofRuns [64276, 1], [0x535]),
  (.ofRuns [64277, 1], [0x53B]), (.ofRuns [64279, 1], [0x53D])]

/-- The characters that are passed over in the search for a neighbouring cased letter. -/
def caseIgnorables : Intervals := .ofRuns [
  39,1,6,1,11,1,35,1,1,1,71,1,4,1,1,1,4,1,2,2,503,192,4,2,4,1,9,2,1,1,251,7,207,1,5,1,49,45,1,1,1,
  2,1,2,1,1,44,1,11,6,10,11,1,1,35,1,10,21,16,1,101,8,1,10,1,4,33,1,1,1,30,27,91,11,58,11,4,1,2,1,
  24,24,43,3,44,1,7,2,6,8,41,58,55,1,1,1,4,8,4,1,3,7,10,2,13,1,15,1,58,1,4,4,8,1,20,2,26,1,2,2,57,
  1,4,2,4,2,2,3,3,1,30,2,3,1,11,2,57,1,4,5,1,2,4,1,20,2,22,6,1,1,58,1,2,1,1,4,8,1,7,2,11,2,30,1,61,
  1,12,1,50,1,3,1,55,1,1,3,5,3,1,4,7,2,11,2,29,1,58,1,2,1,6,1,5,2,20,2,28,2,57,2,4,4,8,1,20,2,29,1,
  72,1,7,3,1,1,90,1,2,7,11,9,98,1,2,9,9,1,1,6,74,2,27,1,1,1,1,1,55,14,1,5,1,2,5,11,1,36,9,1,102,4,
  1,6,1,2,2,2,25,2,4,3,16,4,13,1,2,2,6,1,15,1,94,1,608,3,946,3,29,2,30,2,30,2,64,2,1,7,8,1,2,11,3,
  1,5,1,45,5,51,1,65,2,34,1,118,3,4,2,9,1,6,3,219,2,2,1,58,1,1,7,1,1,1,1,2,8,6,10,2,1,39,1,8,31,49,
  4,48,1,1,5,1,1,5,1,40,9,12,2,32,4,2,2,1,3,56,1,1,2,3,1,1,3,58,8,2,2,64,6,82,3,1,13,1,7,4,1,6,1,3,
  2,50,63,13,1,34,101,445,1,1,3,11,3,13,3,13,3,13,2,12,5,8,2,10,1,2,1,2,5,49,5,1,10,1,1,13,1,16,13,
  51,33,2955,2,113,3,125,1,15,1,96,32,47,1,469,1,36,4,3,5,5,1,93,6,93,3,28438,1,1250,6,270,1,98,4,
  1,10,1,1,28,4,80,2,14,34,78,1,23,3,103,3,3,2,8,1,3,1,4,1,25,2,5,1,151,2,26,18,13,1,38,8,25,11,46,
  3,48,1,2,4,2,2,17,1,21,2,66,6,2,2,2,2,12,1,8,1,35,1,11,1,51,1,1,3,2,2,5,2,1,1,27,1,14,2,5,2,1,1,
  100,5,9,3,121,1,2,1,4,1,20272,1,147,17,573,16,3,1,12,16,34,1,2,1,169,1,7,1,6,1,11,1,35,1,1,1,47,
  1,45,2,67,1,21,3,513,1,226,1,149,5,1029,6,1,42,1,9,582,3,1,2,5,4,40,3,4,1,165,2,573,4,387,2,153,
  11,49,4,123,1,54,15,41,1,2,2,10,3,49,4,2,2,2,1,4,1,10,1,50,3,36,5,1,8,62,1,12,2,52,9,10,4,2,1,95,
  3,2,1,1,2,6,1,160,1,3,8,21,2,57,2,3,1,37,7,3,5,195,8,2,3,1,1,23,1,84,6,1,1,4,2,1,2,238,4,6,2,1,2,
  27,2,85,8,2,1,1,2,106,1,1,1,2,6,1,1,101,3,2,4,1,5,259,9,1,2,256,2,1,1,4,1,144,4,2,2,4,1,32,10,40,
  6,2,4,8,1,9,6,2,3,46,13,1,2,406,7,1,6,1,1,82,22,2,7,1,2,1,2,122,6,3,1,1,2,1,7,1,1,72,2,3,1,1,1,
  347,2,5435,9,14007,5,59,7,9,4,1035,1,63,17,64,2,1,2,16395,4,1,7,1,2,3230,2,1,4,4700,46,2,23,544,
  3,9,16,2,7,30,4,148,3,1979,55,4,50,8,1,14,1,22,5,1,15,1360,7,1,17,2,7,1,2,1,5,261,14,368,1,61,4,
  1504,7,109,8,2735,5,789505,1,30,96,128,240]

def casedLetters : Intervals := .ofRuns [
  65,26,6,26,47,1,10,1,4,1,5,23,1,31,1,195,1,4,4,208,1,27,192,4,2,2,3,3,1,1,6,1,1,3,1,1,1,20,1,83,
  1,139,8,166,1,38,9,41,2839,38,1,1,5,1,2,43,2,3,672,86,2,6,2178,9,7,43,2,3,64,44,63,13,1,34,101,
  278,2,6,2,38,2,6,2,8,1,1,1,1,1,1,1,31,2,53,1,7,1,1,3,3,1,7,3,4,2,6,4,13,5,3,1,7,261,1,4,1,2,10,1,
  1,3,5,6,1,1,1,1,1,1,4,1,6,4,1,2,4,5,5,4,1,17,32,3,2,817,52,1814,124,2,103,6,4,3,2,12,38,1,1,5,1,
  30994,46,18,28,134,78,1,23,3,4,1,59,5,2,1,1,1,5,27,2,3,1,821,43,5,9,7,80,20288,7,12,5,1033,26,6,
  26,1189,80,96,36,4,36,116,11,1,15,1,7,1,2,1,11,1,15,1,7,1,2,1731,51,13,51,2989,64,21856,64,25984,
  85,1,71,1,2,2,1,2,2,2,4,1,12,1,1,1,7,1,65,1,4,2,8,1,7,1,28,1,4,1,5,1,1,3,7,1,340,2,25,1,25,1,31,
  1,25,1,31,1,25,1,31,1,25,1,31,1,25,1,8,1844,10,1,20,2529,68,2028,26,6,26,6,26]

def upper (char : Char) : List Char :=
  let capital := ((CaseRun.image? upperRuns char.toNat).map Char.ofNat).getD char
  match upperEndings.find? fun (points, _) => points.holds char with
  | some (_, ending) => capital :: ending.map Char.ofNat
  | none => [capital]

def upperText (text : String) : String := String.ofList (text.toList.flatMap upper)

/-- Is the first character that is not passed over a cased letter? -/
def startsCased (text : List Char) : Bool :=
  match text.dropWhile caseIgnorables.holds with
  | [] => false
  | char :: _ => casedLetters.holds char

/--
The lower case of a character between the characters before it, the nearest first, and those after
it.  A capital sigma at the end of a word becomes the final sigma, and the dotted capital I keeps
its dot.
-/
def lowerBetween (before : List Char) (char : Char) (after : List Char) : List Char :=
  if char.toNat == 0x3A3 then
    if startsCased before && !startsCased after then [Char.ofNat 0x3C2] else [Char.ofNat 0x3C3]
  else if char.toNat == 0x130 then ['i', Char.ofNat 0x307]
  else [((CaseRun.image? lowerRuns char.toNat).map Char.ofNat).getD char]

/-- The lower case of the characters that follow those of `before`, the nearest first. -/
def lowerAfter (before : List Char) : List Char → List Char
  | [] => []
  | char :: after =>
    lowerBetween before char after ++ lowerAfter (char :: before) after

def lowerText (text : String) : String := String.ofList (lowerAfter [] text.toList)

end Spellbook.Unicode
